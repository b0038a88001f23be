import DirectoryInterchange.Proofs.Block.Grammar
import DirectoryInterchange.Proofs.Block.RoundTrip

/-!
The records that blocks can be read as.

They are the well-formed ones: names and numbers follow the grammar, values
are grouped under names that differ, and changes have what their kind needs.
-/

namespace DirectoryInterchange

/-- What a change has values of: attributes to add or to modify. -/
def Change.targets : Change → List Attribute
  | add attributes => attributes
  | modify modifications => modifications.map (·.target)
  | _ => []

namespace Record

/-- The attributes of an entry or of one that is added. -/
def attributes? : Record → Option (List Attribute)
  | entry _ attributes => some attributes
  | change _ _ (.add attributes) => some attributes
  | change .. => none

def modifications : Record → List Modification
  | change _ _ (.modify modifications) => modifications
  | _ => []

def targets : Record → List Attribute
  | entry _ attributes => attributes
  | change _ _ kind => kind.targets

theorem mem_targets {record : Record} {attr : Attribute} :
    attr ∈ record.targets ↔
      (∃ attributes ∈ record.attributes?, attr ∈ attributes)
        ∨ ∃ modification ∈ record.modifications, modification.target = attr := by
  cases record with
  | entry dn attributes => simp [targets, attributes?, modifications]
  | change dn controls kind =>
      cases kind <;> simp [targets, Change.targets, attributes?, modifications]

end Record

namespace Block

open Rendering

structure WellFormed (options : ReadOptions) (record : Record) : Prop where
  described : ∀ attr ∈ record.targets, attr.name.toList ∈ Grammar.description
  /-- No value is there twice, unless repeated values may stay. -/
  distinct : ∀ attr ∈ record.targets, Distinct options attr.values
  apart : ∀ attributes ∈ record.attributes?, Apart (attributes.map (·.name))
  valued : ∀ attributes ∈ record.attributes?, ∀ attr ∈ attributes, attr.values ≠ []
  /-- An entry does not begin like a change. -/
  leads : ∀ dn attributes, record = .entry dn attributes → LeadsEntry attributes
  adds_some : ∀ attributes, record.change? = some (.add attributes) → attributes ≠ []
  modifies_some : ∀ modifications,
    record.change? = some (.modify modifications) → modifications ≠ []
  added_some : ∀ modification ∈ record.modifications,
    modification.kind = .add → modification.target.values ≠ []
  incremented_one : ∀ modification ∈ record.modifications,
    modification.kind = .increment → modification.target.values.length = 1
  numbered : ∀ control ∈ record.controls, control.oid.toList ∈ Grammar.oid

/-! ### The rules by kind of record -/

variable {options : ReadOptions} {record : Record}

namespace Regular

theorem grouped
    (regular : Regular options record) {attributes : List Attribute}
    (found : attributes ∈ record.attributes?) : Grouped options attributes := by
  cases record with
  | entry dn own =>
      cases found
      exact regular.1
  | change dn controls kind =>
      cases kind with
      | add own =>
          cases found
          exact regular.2.1
      | _ => cases found

theorem modified
    (regular : Regular options record) {modification : Modification}
    (member : modification ∈ record.modifications) : RegularModification options modification := by
  cases record with
  | entry dn attributes => cases member
  | change dn controls kind =>
      cases kind with
      | modify modifications => exact regular.2.1 modification member
      | _ => cases member

theorem numeric
    (regular : Regular options record) {control : Control} (member : control ∈ record.controls) :
    Line.isNumericOid control.oid.toList = true := by
  cases record with
  | entry dn attributes => cases member
  | change dn controls kind => exact regular.1 control member

theorem change
    (regular : Regular options record) {kind : Change} (found : record.change? = some kind) :
    RegularChange options kind := by
  cases record with
  | entry dn attributes => cases found
  | change dn controls own =>
      cases found
      exact regular.2

theorem described
    (regular : Regular options record) {attr : Attribute} (member : attr ∈ record.targets) :
    Line.isDescription attr.name = true := by
  rcases Record.mem_targets.mp member with ⟨attributes, found, inside⟩ | ⟨other, inside, rfl⟩
  · exact ((regular.grouped found).each attr inside).described
  · exact (regular.modified inside).described

theorem distinct
    (regular : Regular options record) {attr : Attribute} (member : attr ∈ record.targets) :
    Distinct options attr.values := by
  rcases Record.mem_targets.mp member with ⟨attributes, found, inside⟩ | ⟨other, inside, rfl⟩
  · exact ((regular.grouped found).each attr inside).distinct
  · exact (regular.modified inside).distinct

theorem wellFormed (regular : Regular options record) : WellFormed options record where
  described := fun attr member => Grammar.isDescription_iff.mp (regular.described member)
  distinct := fun attr member => regular.distinct member
  apart := fun attributes found => (regular.grouped found).apart
  valued := fun attributes found attr inside => ((regular.grouped found).each attr inside).nonempty
  leads := fun dn attributes same => by
    subst same
    exact regular.2
  adds_some := fun attributes found => (regular.change found).2
  modifies_some := fun modifications found => (regular.change found).2
  added_some := fun modification member => (regular.modified member).add_some
  incremented_one := fun modification member => (regular.modified member).increment_one
  numbered := fun control member => Grammar.isNumericOid_iff.mp (regular.numeric member)

end Regular

namespace WellFormed

theorem grouped
    (formed : WellFormed options record) {attributes : List Attribute}
    (found : attributes ∈ record.attributes?) : Grouped options attributes where
  each := fun attr inside =>
    have member := Record.mem_targets.mpr (.inl ⟨attributes, found, inside⟩)
    { described := Grammar.isDescription_iff.mpr (formed.described attr member)
      nonempty := formed.valued attributes found attr inside
      distinct := formed.distinct attr member }
  apart := formed.apart attributes found

theorem modified
    (formed : WellFormed options record) {modification : Modification}
    (inside : modification ∈ record.modifications) : RegularModification options modification :=
  have member := Record.mem_targets.mpr (.inr ⟨modification, inside, rfl⟩)
  { described := Grammar.isDescription_iff.mpr (formed.described modification.target member)
    distinct := formed.distinct modification.target member
    add_some := formed.added_some modification inside
    increment_one := formed.incremented_one modification inside }

theorem regular (formed : WellFormed options record) : Regular options record := by
  cases record with
  | entry dn attributes => exact ⟨formed.grouped rfl, formed.leads dn attributes rfl⟩
  | change dn controls kind =>
      refine ⟨fun control member => ?_, ?_⟩
      · exact Grammar.isNumericOid_iff.mpr (formed.numbered control member)
      cases kind with
      | add attributes => exact ⟨formed.grouped rfl, formed.adds_some attributes rfl⟩
      | modify modifications =>
          exact ⟨fun modification inside => formed.modified inside,
            formed.modifies_some modifications rfl⟩
      | delete => trivial
      | modifyDn newRdn deleteOldRdn newSuperior => trivial

end WellFormed

/-! ### Lines that no policy touches -/

variable {context : Context}

/-- What stripping leaves of a line stays under every policy. -/
theorem stable_of_stripped
    (policy : Policy) {raw kept : String} (stripped : applyTrailing .strip raw = .ok kept) :
    applyTrailing policy kept = .ok kept := by
  unfold applyTrailing at stripped
  split at stripped
  · next untouched =>
      cases stripped
      exact if_pos untouched
  · cases stripped
    refine applyTrailing_of_last policy fun ends => ?_
    rw [String.toList_ofList] at ends
    exact absurd (Blank.not_blank_of_last_trimEnd ends) (by decide)

/-- Every control has a line that reads as it and that no policy touches. -/
theorem exists_stable_control
    {control : Control} (numeric : Line.isNumericOid control.oid.toList = true) :
    ∃ raw, applyTrailing context.options.trailingSpaces raw = .ok raw
      ∧ ReadsControl context raw control := by
  have allowed : ¬RefusedControl .strip control := fun refused => Policy.noConfusion refused.1
  obtain ⟨raw, stripped, read⟩ := readsControl_trailing
    { context with options := { context.options with trailingSpaces := .strip } } allowed numeric
  exact ⟨raw, stable_of_stripped _ stripped, read⟩

theorem exists_stable_controls
    {controls : List Control}
    (numeric : ∀ control ∈ controls, Line.isNumericOid control.oid.toList = true) :
    ∃ raws, raws.mapM (applyTrailing context.options.trailingSpaces) = .ok raws
      ∧ List.Forall₂ (ReadsControl context) raws controls := by
  induction controls with
  | nil => exact ⟨[], rfl, .nil⟩
  | cons control rest inductionHypothesis =>
      obtain ⟨raw, kept, read⟩ := exists_stable_control (numeric control List.mem_cons_self)
      obtain ⟨raws, others, more⟩ := inductionHypothesis fun other member =>
        numeric other (List.mem_cons_of_mem _ member)
      refine ⟨raw :: raws, ?_, .cons read more⟩
      rw [List.mapM_cons, kept, ok_bind, others]
      rfl

/-! ### Blocks -/

/-- Every record that keeps the rules can be read. -/
theorem exists_decode_of_regular (regular : Regular context.options record) :
    ∃ block : Block, block.decode context = .ok record := by
  cases record with
  | entry dn attributes =>
      obtain ⟨grouped, leads⟩ := regular
      have kept := mapM_entry context.options.trailingSpaces dn grouped
      refine ⟨{ lines := (Record.entry dn attributes).unfoldedLines }, decode_eq_ok_iff.mpr ?_⟩
      rw [parse_of_mapM context rfl kept, parseRecord_entry context dn grouped leads]
  | change dn controls kind =>
      obtain ⟨numeric, changing⟩ := regular
      obtain ⟨raws, kept, read⟩ := @exists_stable_controls context controls numeric
      have first : BodyLine (textLine "dn" dn) := .value (by decide) _
      have behind : ∀ raw ∈ textLine "changetype" kind.keyword :: changeLines kind, BodyLine raw :=
        fun raw member => by
          rcases List.mem_cons.mp member with rfl | member
          · exact .value (by decide) _
          · exact bodyLine_changeLines changing member
      let lines :=
        textLine "dn" dn :: (raws ++ textLine "changetype" kind.keyword :: changeLines kind)
      have stable : lines.mapM (applyTrailing context.options.trailingSpaces) = .ok lines := by
        rw [List.mapM_cons, stable_of_bodyLine _ first, ok_bind, List.mapM_append, kept, ok_bind,
          mapM_bodyLines _ behind]
        rfl
      refine ⟨{ lines }, decode_eq_ok_iff.mpr ?_⟩
      rw [parse_of_mapM context rfl stable, parseRecord_change context dn read changing]

/-- The records that can be read are the well-formed ones. -/
theorem exists_decode_iff_wellFormed (context : Context) (record : Record) :
    (∃ block : Block, block.decode context = .ok record) ↔ WellFormed context.options record := by
  constructor
  · rintro ⟨block, decoded⟩
    exact (regular_of_decode decoded).wellFormed
  · intro formed
    exact exists_decode_of_regular formed.regular

end Block

end DirectoryInterchange
