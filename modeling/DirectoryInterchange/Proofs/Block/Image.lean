import DirectoryInterchange.Proofs.Block.Values

/-!
What every record has that is read from a block.

Its attributes are grouped, its controls have numbers, its modifications keep
the rules of their kinds, and an entry does not begin like a change.
-/

namespace DirectoryInterchange.Block

/-- The rules for one modification. -/
structure RegularModification (options : ReadOptions) (modification : Modification) : Prop where
  described : Line.isDescription modification.target.name = true
  distinct : Distinct options modification.target.values
  add_some : modification.kind = .add → modification.target.values ≠ []
  increment_one : modification.kind = .increment → modification.target.values.length = 1

def RegularChange (options : ReadOptions) : Change → Prop
  | .add attributes => Grouped options attributes ∧ attributes ≠ []
  | .delete => True
  | .modify modifications =>
      (∀ modification ∈ modifications, RegularModification options modification)
        ∧ modifications ≠ []
  | .modifyDn .. => True

/-- Whether attributes do not begin with one that would announce a change. -/
def LeadsEntry (attributes : List Attribute) : Prop :=
  ∀ attr ∈ attributes.head?, attr.hasName "control" = false ∧ attr.hasName "changetype" = false

/-- What every record has that is read. -/
def Regular (options : ReadOptions) : Record → Prop
  | .entry _ attributes => Grouped options attributes ∧ LeadsEntry attributes
  | .change _ controls kind =>
      (∀ control ∈ controls, Line.isNumericOid control.oid.toList = true)
        ∧ RegularChange options kind

variable {context : Context}

/-! ### Lines -/

theorem described_of_parse
    {raw : String} {line : Line} (parsed : context.line raw = .ok line) :
    Line.isDescription line.name = true := by
  rw [Context.line, Line.parse] at parsed
  split at parsed
  · cases parsed
  · simp only at parsed
    split at parsed
    · next described =>
        obtain ⟨value, -, rfl⟩ := map_eq_ok.mp parsed
        exact described
    · cases parsed

theorem numeric_of_parseControl
    {line : Line} {control : Control} (parsed : parseControl context line = .ok control) :
    Line.isNumericOid control.oid.toList = true := by
  rw [parseControl] at parsed
  obtain ⟨text, -, parsed⟩ := bind_eq_ok.mp parsed
  simp only at parsed
  split at parsed
  · cases parsed
  · next numeric =>
      obtain ⟨criticality, -, parsed⟩ := bind_eq_ok.mp parsed
      obtain ⟨value, -, parsed⟩ := bind_eq_ok.mp parsed
      cases parsed
      simpa using numeric

/-- Whether a line is read and has another name. -/
def LacksName (context : Context) (name raw : String) : Prop :=
  ∃ line, context.line raw = .ok line ∧ line.hasName name = false

theorem of_parseControls
    {lines rest : List String} {controls : List Control}
    (parsed : parseControls context lines = .ok (controls, rest)) :
    (∀ control ∈ controls, Line.isNumericOid control.oid.toList = true)
      ∧ ∀ raw ∈ rest.head?, LacksName context "control" raw := by
  induction lines generalizing controls with
  | nil =>
      cases parsed
      exact ⟨fun control member => (by cases member), fun raw first => (by cases first)⟩
  | cons raw lines inductionHypothesis =>
      rw [parseControls] at parsed
      obtain ⟨line, read, parsed⟩ := bind_eq_ok.mp parsed
      split at parsed
      · obtain ⟨control, first, parsed⟩ := bind_eq_ok.mp parsed
        obtain ⟨⟨others, behind⟩, more, parsed⟩ := bind_eq_ok.mp parsed
        cases parsed
        obtain ⟨numeric, lacks⟩ := inductionHypothesis more
        refine ⟨?_, lacks⟩
        intro other member
        rcases List.mem_cons.mp member with rfl | member
        · exact numeric_of_parseControl first
        · exact numeric other member
      · next other =>
          cases parsed
          refine ⟨fun control member => (by cases member), fun first found => ?_⟩
          cases found
          exact ⟨line, read, Bool.eq_false_iff.mpr other⟩

/-! ### Attributes -/

/-- What collecting has come to behind so many lines. -/
structure Collecting (context : Context) (attributes : List Attribute) (done : List String) :
    Prop where
  grouped : Grouped context.options attributes
  begun : attributes = [] → done = []
  first : ∀ attr ∈ attributes.head?, ∃ raw ∈ done.head?, ∃ line,
    context.line raw = .ok line ∧ line.name = attr.name

theorem collecting_step
    {attributes added : List Attribute} {done : List String} {raw : String} {line : Line}
    (holds : Collecting context attributes done) (read : context.line raw = .ok line)
    (adding : context.addValue line.name line.value attributes = .ok added) :
    Collecting context added (done ++ [raw]) := by
  refine ⟨Values.grouped_add (described_of_parse read) holds.grouped adding, ?_, ?_⟩
  · rintro rfl
    rcases Values.names_add adding with same | ⟨more, -⟩
    · have empty := List.map_eq_nil_iff.mp same.symm
      rw [empty] at adding
      cases adding
    · exact absurd more.symm (List.append_ne_nil_of_right_ne_nil _ (List.cons_ne_nil _ _))
  · intro attr found
    have named : (added.map (·.name)).head? = some attr.name := by rw [List.head?_map, found]; rfl
    cases attributes with
    | nil =>
        cases adding
        cases found
        rw [holds.begun rfl]
        exact ⟨raw, rfl, line, read, rfl⟩
    | cons first rest =>
        obtain ⟨start, begins, begun, reads, same⟩ := holds.first first rfl
        have kept : first.name = attr.name := by
          rcases Values.names_add adding with unchanged | ⟨more, -⟩
          · rw [unchanged] at named
            exact Option.some.inj named
          · rw [more] at named
            exact Option.some.inj named
        refine ⟨start, ?_, begun, reads, same.trans kept⟩
        rw [Option.mem_def, List.head?_append, begins]
        rfl

theorem of_parseAttributes
    {lines : List String} {attributes : List Attribute}
    (parsed : parseAttributes context lines = .ok attributes) :
    Collecting context attributes lines := by
  have start : Collecting context [] [] :=
    ⟨grouped_nil, fun _ => rfl, fun attr found => (by cases found)⟩
  refine foldlM_invariant (Collecting context) ?_ lines [] [] attributes start parsed
  intro state raw next done stepped holds
  obtain ⟨line, read, adding⟩ := bind_eq_ok.mp stepped
  exact collecting_step holds read adding

/-! ### Modifications -/

/-- The values of a modification behind so many lines. -/
def Modifying (context : Context) (name : String) (attributes : List Attribute)
    (done : List String) : Prop :=
  (attributes = [] ∧ done = [])
    ∨ ∃ values, attributes = [⟨name, values⟩] ∧ values ≠ [] ∧ values.length ≤ done.length
      ∧ Distinct context.options values

theorem modifying_step
    {name : String} {attributes added : List Attribute} {done : List String} {raw : String}
    {value : Bytes} (holds : Modifying context name attributes done)
    (adding : context.addValue name value attributes = .ok added) :
    Modifying context name added (done ++ [raw]) := by
  right
  rcases holds with ⟨rfl, rfl⟩ | ⟨values, rfl, nonempty, short, distinct⟩
  · cases adding
    refine ⟨[value], rfl, List.cons_ne_nil _ _, Nat.le_refl 1, ?_⟩
    exact fun _ => List.pairwise_singleton _ _
  · have same : Attribute.hasName ⟨name, values⟩ name = true := Ascii.sameLetters_self name
    rw [Context.addValue, Values.add, if_pos same] at adding
    obtain ⟨extended, extending, rfl⟩ := map_eq_ok.mp adding
    rw [List.length_append, List.length_singleton]
    rcases Values.of_extend extending with rfl | ⟨rfl, fresh⟩
    · exact ⟨values, rfl, nonempty, Nat.le_succ_of_le short, distinct⟩
    · refine ⟨values ++ [value], rfl, ?_, ?_, ?_⟩
      · exact List.append_ne_nil_of_right_ne_nil _ (List.cons_ne_nil _ _)
      · rw [List.length_append, List.length_singleton]
        exact Nat.succ_le_succ short
      · exact Values.distinct_concat_iff.mpr ⟨distinct, fresh⟩

/-- What a line does to the values of a modification in front of it. -/
def Context.modify (context : Context) (kind : ModificationKind) (name : String)
    (attributes : List Attribute) (raw : String) : Parsed (List Attribute) := do
  let line ← context.line raw
  if !line.hasName name then throw (.otherAttribute line.name name kind)
  context.addValue name line.value attributes

theorem modifying_of_foldlM
    {kind : ModificationKind} {name : String} {lines : List String} {attributes : List Attribute}
    (folded : lines.foldlM (context.modify kind name) [] = .ok attributes) :
    Modifying context name attributes lines := by
  have start : Modifying context name [] [] := Or.inl ⟨rfl, rfl⟩
  refine foldlM_invariant (Modifying context name) ?_ lines [] [] attributes start folded
  intro state raw next done stepped holds
  obtain ⟨line, -, stepped⟩ := bind_eq_ok.mp stepped
  simp only at stepped
  split at stepped
  · cases stepped
  · exact modifying_step holds stepped

theorem of_parseModifiedValues
    {kind : ModificationKind} {name : String} {lines : List String} {values : List Bytes}
    (parsed : parseModifiedValues context kind name lines = .ok values) :
    Distinct context.options values ∧ (lines.length = 1 → values.length = 1) := by
  rw [parseModifiedValues] at parsed
  obtain ⟨attributes, folded, flattened⟩ := bind_eq_ok.mp parsed
  cases flattened
  rcases modifying_of_foldlM folded with ⟨rfl, rfl⟩ | ⟨values, rfl, nonempty, short, distinct⟩
  · exact ⟨fun _ => List.Pairwise.nil, fun one => (by cases one)⟩
  · rw [List.flatMap_singleton]
    refine ⟨distinct, fun one => ?_⟩
    have some_value := List.length_pos_iff.mpr nonempty
    show values.length = 1
    omega

theorem described_of_parseHeader
    {raw name : String} {kind : ModificationKind}
    (parsed : parseHeader context raw = .ok (kind, name)) : Line.isDescription name = true := by
  rw [parseHeader] at parsed
  obtain ⟨line, -, parsed⟩ := bind_eq_ok.mp parsed
  simp only at parsed
  split at parsed
  · obtain ⟨text, -, parsed⟩ := bind_eq_ok.mp parsed
    split at parsed
    · cases parsed
    · next described =>
        cases parsed
        simpa using described
  · cases parsed

theorem regular_of_parseModification
    {header : String} {lines : List String} {modification : Modification}
    (parsed : parseModification context header lines = .ok modification) :
    RegularModification context.options modification := by
  rw [parseModification] at parsed
  obtain ⟨⟨kind, name⟩, headed, parsed⟩ := bind_eq_ok.mp parsed
  obtain ⟨values, valued, parsed⟩ := bind_eq_ok.mp parsed
  obtain ⟨distinct, single⟩ := of_parseModifiedValues valued
  simp only at parsed
  split at parsed
  · cases parsed
  · next added =>
      simp only [pure_eq_ok] at parsed
      split at parsed
      · cases parsed
      · next incremented =>
          cases parsed
          refine ⟨described_of_parseHeader headed, distinct, ?_, ?_⟩
          · rintro rfl empty
            exact added ⟨rfl, by simpa using empty⟩
          · rintro rfl
            exact single (Decidable.byContradiction fun several => incremented ⟨rfl, several⟩)

theorem regular_of_parseModifications
    {lines : List String} {modifications : List Modification}
    (parsed : parseModifications context lines = .ok modifications) :
    ∀ modification ∈ modifications, RegularModification context.options modification := by
  fun_induction parseModifications context lines generalizing modifications with
  | case1 =>
      cases parsed
      exact fun modification member => (by cases member)
  | case2 header rest inductionHypothesis =>
      obtain ⟨first, one, parsed⟩ := bind_eq_ok.mp parsed
      obtain ⟨others, more, parsed⟩ := bind_eq_ok.mp parsed
      cases parsed
      intro modification member
      rcases List.mem_cons.mp member with rfl | member
      · exact regular_of_parseModification one
      · exact inductionHypothesis more modification member

/-! ### Records -/

theorem modifyDn_of_parse
    {lines : List String} {kind : Change} (parsed : parseModifyDn context lines = .ok kind) :
    ∃ newRdn deleteOldRdn newSuperior, kind = .modifyDn newRdn deleteOldRdn newSuperior := by
  rw [parseModifyDn.eq_def] at parsed
  split at parsed
  · cases parsed
  · obtain ⟨newRdn, -, parsed⟩ := bind_eq_ok.mp parsed
    cases parsed
  · obtain ⟨newRdn, -, parsed⟩ := bind_eq_ok.mp parsed
    obtain ⟨word, -, parsed⟩ := bind_eq_ok.mp parsed
    obtain ⟨deleteOldRdn, -, parsed⟩ := bind_eq_ok.mp parsed
    split at parsed
    · cases parsed
      exact ⟨newRdn, deleteOldRdn, none, rfl⟩
    · obtain ⟨newSuperior, -, parsed⟩ := bind_eq_ok.mp parsed
      split at parsed
      · cases parsed
      · cases parsed
        exact ⟨newRdn, deleteOldRdn, some newSuperior, rfl⟩

theorem regular_of_parseChange
    {keyword : String} {lines : List String} {kind : Change}
    (parsed : parseChange context keyword lines = .ok kind) :
    RegularChange context.options kind := by
  rw [parseChange] at parsed
  split at parsed
  · obtain ⟨attributes, collected, parsed⟩ := bind_eq_ok.mp parsed
    split at parsed
    · cases parsed
    · next nonempty =>
        cases parsed
        exact ⟨(of_parseAttributes collected).grouped, by simpa using nonempty⟩
  split at parsed
  · split at parsed
    · cases parsed
    · cases parsed
      trivial
  split at parsed
  · obtain ⟨modifications, several, parsed⟩ := bind_eq_ok.mp parsed
    split at parsed
    · cases parsed
    · next nonempty =>
        cases parsed
        exact ⟨regular_of_parseModifications several, by simpa using nonempty⟩
  split at parsed
  · obtain ⟨newRdn, deleteOldRdn, newSuperior, rfl⟩ := modifyDn_of_parse parsed
    trivial
  · cases parsed

theorem lacks_of_parseChangeType
    {raw : String} (announced : parseChangeType context raw = .ok none) :
    LacksName context "changetype" raw := by
  rw [parseChangeType] at announced
  obtain ⟨line, read, announced⟩ := bind_eq_ok.mp announced
  split at announced
  · obtain ⟨text, -, announced⟩ := bind_eq_ok.mp announced
    cases announced
  · next other => exact ⟨line, read, Bool.eq_false_iff.mpr other⟩

theorem regular_of_parseBody
    {dn : String} {controls : List Control} {lines : List String} {record : Record}
    (numeric : ∀ control ∈ controls, Line.isNumericOid control.oid.toList = true)
    (lacks : ∀ raw ∈ lines.head?, LacksName context "control" raw)
    (parsed : parseBody context dn controls lines = .ok record) :
    Regular context.options record := by
  rw [parseBody] at parsed
  obtain ⟨keyword, announced, parsed⟩ := bind_eq_ok.mp parsed
  cases keyword with
  | some keyword =>
      obtain ⟨kind, changed, parsed⟩ := bind_eq_ok.mp parsed
      cases parsed
      exact ⟨numeric, regular_of_parseChange changed⟩
  | none =>
      simp only at parsed
      split at parsed
      · cases parsed
      · obtain ⟨attributes, collected, parsed⟩ := bind_eq_ok.mp parsed
        cases parsed
        have collecting := of_parseAttributes collected
        refine ⟨collecting.grouped, fun attr found => ?_⟩
        obtain ⟨raw, first, line, read, named⟩ := collecting.first attr found
        have control : attr.hasName "control" = false := by
          obtain ⟨other, reads, different⟩ := lacks raw first
          rw [read] at reads
          cases reads
          rwa [Line.hasName, named] at different
        have changetype : attr.hasName "changetype" = false := by
          rw [Option.mem_def.mp first] at announced
          obtain ⟨other, reads, different⟩ := lacks_of_parseChangeType announced
          rw [read] at reads
          cases reads
          rwa [Line.hasName, named] at different
        exact ⟨control, changetype⟩

theorem decode_eq_ok_iff {block : Block} {record : Record} :
    block.decode context = .ok record ↔ parse context block = .ok record := by
  rw [decode]
  cases parse context block with
  | error problem => exact iff_of_false (fun read => by cases read) (fun parsed => by cases parsed)
  | ok other =>
      constructor
      · intro read
        cases read
        rfl
      · intro parsed
        cases parsed
        rfl

/-- Every record that is read keeps the rules. -/
theorem regular_of_decode
    {block : Block} {record : Record} (decoded : block.decode context = .ok record) :
    Regular context.options record := by
  have parsed := decode_eq_ok_iff.mp decoded
  rw [parse] at parsed
  split at parsed
  · cases parsed
  · obtain ⟨lines, -, parsed⟩ := bind_eq_ok.mp parsed
    cases lines with
    | nil => cases parsed
    | cons first rest =>
        rw [parseRecord] at parsed
        obtain ⟨dn, -, parsed⟩ := bind_eq_ok.mp parsed
        obtain ⟨⟨controls, body⟩, controlled, parsed⟩ := bind_eq_ok.mp parsed
        obtain ⟨numeric, lacks⟩ := of_parseControls controlled
        exact regular_of_parseBody numeric lacks parsed

end DirectoryInterchange.Block
