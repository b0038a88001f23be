import DirectoryInterchange.Proofs.Block.Image
import DirectoryInterchange.Proofs.Block.Line

/-!
The forms of the lines that a record is written as.

All of them but the controls and the separators of modifications are a name
and a value.  None has a character that ends a line, and none starts like a
comment or the continuation of a line.
-/

namespace DirectoryInterchange.Block

open Rendering

/-- A name and a value, or the separator of two modifications. -/
inductive BodyLine : String → Prop
  | value {name : String} (described : Line.isDescription name = true) (value : Bytes) :
      BodyLine (nameValue name value)
  | separator : BodyLine separator

theorem stable_of_bodyLine (policy : Policy) {raw : String} (body : BodyLine raw) :
    applyTrailing policy raw = .ok raw := by
  cases body with
  | value described value => exact applyTrailing_nameValue policy described value
  | separator => exact applyTrailing_of_last policy (by decide)

/-! ### The lines of records -/

variable {options : ReadOptions} {raw : String}

theorem bodyLine_attributeLines
    {attr : Attribute} (described : Line.isDescription attr.name = true)
    (member : raw ∈ attributeLines attr) : BodyLine raw := by
  obtain ⟨value, -, rfl⟩ := List.mem_map.mp member
  exact .value described value

theorem bodyLine_attributes
    {attributes : List Attribute} (grouped : Grouped options attributes)
    (member : raw ∈ attributes.flatMap attributeLines) : BodyLine raw := by
  obtain ⟨attr, inside, member⟩ := List.mem_flatMap.mp member
  exact bodyLine_attributeLines (grouped.each attr inside).described member

theorem bodyLine_modificationLines
    {modification : Modification} (regular : RegularModification options modification)
    (member : raw ∈ modificationLines modification) : BodyLine raw := by
  rcases List.mem_cons.mp member with rfl | member
  · have keyword : Line.isDescription modification.kind.keyword = true := by
      cases modification.kind <;> decide
    exact .value keyword _
  · exact bodyLine_attributeLines regular.described member

theorem bodyLine_modifications
    {modifications : List Modification}
    (regular : ∀ modification ∈ modifications, RegularModification options modification)
    (member : raw ∈ ((modifications.map modificationLines).intersperse [separator]).flatten) :
    BodyLine raw := by
  induction modifications with
  | nil => cases member
  | cons modification rest inductionHypothesis =>
      have first := regular modification List.mem_cons_self
      have others := fun other inside => regular other (List.mem_cons_of_mem _ inside)
      cases rest with
      | nil =>
          rw [List.map_cons, List.map_nil, List.intersperse_singleton,
            List.flatten_singleton] at member
          exact bodyLine_modificationLines first member
      | cons next rest =>
          rw [List.map_cons, List.map_cons, List.intersperse_cons_cons, List.flatten_cons,
            List.flatten_cons, ← List.map_cons, List.mem_append, List.mem_append] at member
          rcases member with member | ends | member
          · exact bodyLine_modificationLines first member
          · rw [List.mem_singleton.mp ends]
            exact .separator
          · exact inductionHypothesis others member

theorem bodyLine_changeLines
    {kind : Change} (regular : RegularChange options kind) (member : raw ∈ changeLines kind) :
    BodyLine raw := by
  cases kind with
  | add attributes => exact bodyLine_attributes regular.1 member
  | delete => cases member
  | modify modifications => exact bodyLine_modifications regular.1 member
  | modifyDn newRdn deleteOldRdn newSuperior =>
      rw [changeLines, List.mem_append, List.mem_cons, List.mem_singleton] at member
      rcases member with (rfl | rfl) | member
      · exact .value (by decide) _
      · exact .value (by decide) _
      · cases newSuperior with
        | none => cases member
        | some newSuperior =>
            rw [List.mem_singleton.mp member]
            exact .value (by decide) _

/-- A line of a record is a control or stands in its body. -/
theorem line_cases
    {record : Record} (regular : Regular options record) (member : raw ∈ record.unfoldedLines) :
    BodyLine raw
      ∨ ∃ control, Line.isNumericOid control.oid.toList = true ∧ raw = controlLine control := by
  cases record with
  | entry dn attributes =>
      rcases List.mem_cons.mp member with rfl | member
      · exact Or.inl (.value (by decide) _)
      · exact Or.inl (bodyLine_attributes regular.1 member)
  | change dn controls kind =>
      rw [Record.unfoldedLines, List.mem_append, List.mem_cons, List.mem_cons] at member
      rcases member with (rfl | controlled) | rfl | member
      · exact Or.inl (.value (by decide) _)
      · obtain ⟨control, inside, rfl⟩ := List.mem_map.mp controlled
        exact Or.inr ⟨control, regular.1 control inside, rfl⟩
      · exact Or.inl (.value (by decide) _)
      · exact Or.inl (bodyLine_changeLines regular.2 member)

/-! ### What lines are made of -/

/-- What keeps a line apart from others: no character ends it, and it starts
like neither a continuation nor a comment. -/
structure Solid (line : List Char) : Prop where
  unbroken : ∀ c ∈ line, c ≠ '\n' ∧ c ≠ '\r'
  starts : ∃ first rest, line = first :: rest ∧ first ≠ ' ' ∧ first ≠ '#'

theorem unbroken_of_all
    {text : List Char} (all : text.all (fun c => c != '\n' && c != '\r') = true) :
    ∀ c ∈ text, c ≠ '\n' ∧ c ≠ '\r' := by
  intro c member
  have kept := List.all_eq_true.mp all c member
  rwa [Bool.and_eq_true, bne_iff_ne, bne_iff_ne] at kept

theorem Solid.of_append
    {first rest : List Char} (solid : Solid (first ++ rest)) (nonempty : first ≠ []) :
    Solid first where
  unbroken := fun c member => solid.unbroken c (List.mem_append_left _ member)
  starts := by
    obtain ⟨c, others, spelled, space, comment⟩ := solid.starts
    cases first with
    | nil => contradiction
    | cons head tail =>
        rw [List.cons_append] at spelled
        obtain ⟨rfl, -⟩ := List.cons.inj spelled
        exact ⟨head, tail, rfl, space, comment⟩

/-- What starts with a description and goes on unbroken is solid. -/
theorem solid_of_described
    {before after : List Char} (nonempty : before ≠ [])
    (described : ∀ c ∈ before, Line.IsDescriptionCharacter c)
    (unbroken : ∀ c ∈ after, c ≠ '\n' ∧ c ≠ '\r') : Solid (before ++ after) := by
  have high : ∀ c ∈ before, 0x2D ≤ c.toNat := fun c member =>
    (Line.toNat_of_descriptionCharacter (described c member)).1
  refine ⟨?_, ?_⟩
  · intro c member
    rcases List.mem_append.mp member with member | member
    · refine ⟨?_, ?_⟩ <;> rintro rfl <;> exact absurd (high _ member) (by decide)
    · exact unbroken c member
  · cases before with
    | nil => contradiction
    | cons first rest =>
        refine ⟨first, rest ++ after, rfl, ?_, ?_⟩ <;> rintro rfl <;>
          exact absurd (high _ List.mem_cons_self) (by decide)

theorem solid_nameValue
    {name : String} (described : Line.isDescription name = true) (value : Bytes) :
    Solid (nameValue name value).toList := by
  rw [toList_nameValue]
  refine solid_of_described (Line.description_ne_nil described)
    (fun c member => Line.isDescriptionCharacter_of_mem described member) ?_
  intro c member
  rcases List.mem_cons.mp member with rfl | member
  · decide
  · exact lineEnd_not_mem_characters value c member

theorem solid_controlLine
    {control : Control} (numeric : Line.isNumericOid control.oid.toList = true) :
    Solid (controlLine control).toList := by
  rw [toList_controlLine]
  refine solid_of_described (by decide)
    (fun c member => @Line.isDescriptionCharacter_of_mem "control" (by decide) c member) ?_
  intro c member
  rw [controlCharacters, List.mem_cons, List.mem_cons, List.mem_append, List.mem_append] at member
  rcases member with rfl | rfl | member | member | member
  · decide
  · decide
  · have bounds := Line.toNat_of_descriptionCharacter
      (Line.isDescriptionCharacter_of_oid numeric member)
    refine ⟨?_, ?_⟩ <;> rintro rfl <;> exact absurd bounds.1 (by decide)
  · have plain : (criticalCharacters control.critical).all fun c => c != '\n' && c != '\r' := by
      cases control.critical <;> decide
    exact unbroken_of_all plain c member
  · cases stated : control.value with
    | none => rw [stated] at member; cases member
    | some value =>
        rw [stated] at member
        rcases List.mem_cons.mp member with rfl | member
        · decide
        · exact lineEnd_not_mem_characters value c member

theorem solid_of_mem
    {record : Record} (regular : Regular options record) (member : raw ∈ record.unfoldedLines) :
    Solid raw.toList := by
  rcases line_cases regular member with body | ⟨control, numeric, rfl⟩
  · cases body with
    | value described value => exact solid_nameValue described value
    | separator =>
        exact ⟨unbroken_of_all (by decide), '-', [], rfl, by decide, by decide⟩
  · exact solid_controlLine numeric

end DirectoryInterchange.Block
