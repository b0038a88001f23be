import DirectoryInterchange.Proofs.Block.Grammar
import DirectoryInterchange.Proofs.Block.Rejecting

/-!
Which lines are the modifications of a record.

Separators cut the lines into blocks.  A block starts with a line that names
the kind of a modification and its attribute, and all others are values of
that attribute, as many as the kind allows.
-/

namespace DirectoryInterchange

namespace ModificationKind

def Allows : ModificationKind → Nat → Prop
  | add, count => 1 ≤ count
  | increment, count => count = 1
  | _, _ => True

theorem ofKeyword?_eq_some_iff {keyword : String} {kind : ModificationKind} :
    ofKeyword? keyword = some kind ↔ Ascii.sameLetters kind.keyword keyword = true := by
  constructor
  · intro found
    rw [ofKeyword?] at found
    have met := List.find?_some found
    exact met
  · intro same
    -- Only the letters of the keyword count, and those are the kind's own.
    have letters := (Ascii.sameLetters_iff _ _).mp same
    have own := ofKeyword?_keyword kind
    unfold ofKeyword? Ascii.sameLetters at own ⊢
    rwa [letters] at own

end ModificationKind

namespace Block

open Grammar (isDescription_iff)

/-! ### Blocks between separators -/

/-- Lines as blocks, with a separator behind each of them but perhaps the last. -/
inductive Divided : List String → List (List String) → Prop
  | nothing : Divided [] []
  | last {block : List String} (begun : block ≠ []) (whole : ∀ raw ∈ block, isSeparator raw = false) :
      Divided block [block]
  | more {block lines : List String} {ends : String} {blocks : List (List String)}
      (begun : block ≠ []) (whole : ∀ raw ∈ block, isSeparator raw = false)
      (separates : isSeparator ends = true) (rest : Divided lines blocks) :
      Divided (block ++ ends :: lines) (block :: blocks)

/-- Whether a line is read, and has that name. -/
def Names (context : Context) (name raw : String) (line : Line) : Prop :=
  context.line raw = .ok line ∧ line.hasName name = true

/-- Whether a line announces a modification: its name is the kind, and the text of
its value the attribute. -/
def Announces (context : Context) (raw : String) (kind : ModificationKind) (name : String) : Prop :=
  ∃ line text, Names context kind.keyword raw line ∧ Utf8.decode? line.value = some text ∧
    Blank.trimmed text.toList = name ∧ name.toList ∈ Grammar.description

/-- What the policy about repeated values makes of the values that are given. -/
def Settles (options : ReadOptions) (given values : List Bytes) : Prop :=
  match options.duplicates with
  | .strip => values = firsts options.rule.same given
  | .retain => values = given
  | .reject => values = given ∧
      given.Pairwise fun first second => options.rule.same first second = false

/-- The blocks that are modifications. -/
inductive Modifies (context : Context) : List String → Modification → Prop
  | intro {header name : String} {raws : List String} {lines : List Line}
      {kind : ModificationKind} {values : List Bytes} (announced : Announces context header kind name)
      (named : List.Forall₂ (Names context name) raws lines) (allowed : kind.Allows lines.length)
      (settled : Settles context.options (lines.map (·.value)) values) :
      Modifies context (header :: raws) ⟨kind, ⟨name, values⟩⟩

/-! ### The first line -/

variable {context : Context} {kind : ModificationKind} {name : String} {raws : List String}
  {values : List Bytes}

theorem parseHeader_eq_ok {raw : String} :
    parseHeader context raw = .ok (kind, name) ↔ Announces context raw kind name := by
  rw [parseHeader, bind_eq_ok]
  constructor
  · rintro ⟨line, read, parsed⟩
    split at parsed
    · next found known =>
        obtain ⟨text, decoded, parsed⟩ := bind_eq_ok.mp parsed
        simp only at parsed
        split at parsed
        · cases parsed
        · next described =>
            cases parsed
            refine ⟨line, text, ⟨read, ?_⟩, ?_, rfl, ?_⟩
            · apply Ascii.sameLetters_equivalence.symm
              exact ModificationKind.ofKeyword?_eq_some_iff.mp known
            · exact Line.text_eq_ok_iff.mp decoded
            · apply isDescription_iff.mp
              simpa using described
    · cases parsed
  · rintro ⟨line, text, ⟨read, named⟩, decoded, rfl, described⟩
    refine ⟨line, read, ?_⟩
    have known : ModificationKind.ofKeyword? line.name = some kind :=
      ModificationKind.ofKeyword?_eq_some_iff.mpr (Ascii.sameLetters_equivalence.symm named)
    have described := isDescription_iff.mpr described
    simp [known, Line.text, decoded, described]

/-! ### The values -/

/-- The attributes that values of one name are collected as. -/
def held (name : String) : List Bytes → List Attribute
  | [] => []
  | value :: values => [⟨name, value :: values⟩]

theorem values_held (name : String) (values : List Bytes) :
    (held name values).flatMap (·.values) = values := by
  cases values with
  | nil => rfl
  | cons value values => exact List.flatMap_singleton _ _

theorem add_held (rule : MatchingRule) (name : String) (values : List Bytes) (value : Bytes) :
    Values.add .retain rule name value (held name values) = .ok (held name (values ++ [value])) := by
  cases values with
  | nil => rfl
  | cons first values =>
      have same : Attribute.hasName ⟨name, first :: values⟩ name = true :=
        Ascii.sameLetters_self name
      rw [held, Values.add, if_pos same, Values.extend_retain]
      rfl

theorem modify_held {raw : String} {attributes : List Attribute} :
    (context.under .retain).modify kind name (held name values) raw = .ok attributes ↔
      ∃ line, Names context name raw line ∧ attributes = held name (values ++ [line.value]) := by
  rw [Context.modify, bind_eq_ok]
  constructor
  · rintro ⟨line, read, added⟩
    by_cases named : line.hasName name = true
    · simp only [named, Bool.not_true, Bool.false_eq_true, if_false, Context.addValue_under,
        add_held] at added
      cases added
      exact ⟨line, ⟨read, named⟩, rfl⟩
    · simp [named] at added
  · rintro ⟨line, ⟨read, named⟩, rfl⟩
    refine ⟨line, read, ?_⟩
    simp only [named, Bool.not_true, Bool.false_eq_true, if_false, Context.addValue_under, add_held]

/-- A run over lines of one name holds their values behind those it started with. -/
theorem foldlM_modify_held {attributes : List Attribute} :
    raws.foldlM ((context.under .retain).modify kind name) (held name values) = .ok attributes ↔
      ∃ lines, List.Forall₂ (Names context name) raws lines ∧
        attributes = held name (values ++ lines.map (·.value)) := by
  induction raws generalizing values with
  | nil =>
      simp only [List.foldlM_nil, List.forall₂_nil_left_iff, exists_eq_left, List.map_nil,
        List.append_nil, pure_eq_ok, Except.ok.injEq]
      exact eq_comm
  | cons raw raws inductionHypothesis =>
      rw [List.foldlM_cons, bind_eq_ok]
      constructor
      · rintro ⟨next, stepped, run⟩
        obtain ⟨line, first, rfl⟩ := modify_held.mp stepped
        obtain ⟨lines, others, rfl⟩ := inductionHypothesis.mp run
        refine ⟨line :: lines, .cons first others, ?_⟩
        rw [List.append_assoc, List.singleton_append, List.map_cons]
      · rintro ⟨lines, read, rfl⟩
        cases read with
        | @cons _ line _ lines first others =>
            refine ⟨_, modify_held.mpr ⟨line, first, rfl⟩, inductionHypothesis.mpr ⟨lines, others, ?_⟩⟩
            rw [List.append_assoc, List.singleton_append, List.map_cons]

theorem parseModifiedValues_retain :
    parseModifiedValues (context.under .retain) kind name raws = .ok values ↔
      ∃ lines, List.Forall₂ (Names context name) raws lines ∧ values = lines.map (·.value) := by
  have run (attributes : List Attribute) :
      raws.foldlM ((context.under .retain).modify kind name) [] = .ok attributes ↔ _ :=
    @foldlM_modify_held context kind name raws [] attributes
  rw [parseModifiedValues_eq, bind_eq_ok]
  simp only [run, List.nil_append]
  constructor
  · rintro ⟨_, ⟨lines, read, rfl⟩, flattened⟩
    cases flattened
    exact ⟨lines, read, values_held name _⟩
  · rintro ⟨lines, read, rfl⟩
    exact ⟨_, ⟨lines, read, rfl⟩, congrArg Except.ok (values_held name _)⟩

theorem parseModifiedValues_eq_ok :
    parseModifiedValues context kind name raws = .ok values ↔
      ∃ lines, List.Forall₂ (Names context name) raws lines ∧
        Settles context.options (lines.map (·.value)) values := by
  have own : context.under context.options.duplicates = context := rfl
  unfold Settles
  cases policy : context.options.duplicates with
  | strip =>
      rw [policy] at own
      have stripped := parseModifiedValues_strip context kind name raws
      rw [own] at stripped
      rw [stripped, map_eq_ok]
      simp only [parseModifiedValues_retain]
      constructor
      · rintro ⟨_, ⟨lines, read, rfl⟩, rfl⟩
        exact ⟨lines, read, rfl⟩
      · rintro ⟨lines, read, rfl⟩
        exact ⟨_, ⟨lines, read, rfl⟩, rfl⟩
  | retain =>
      rw [policy] at own
      have retained := @parseModifiedValues_retain context kind name raws values
      rwa [own] at retained
  | reject =>
      rw [policy] at own
      have rejected := parseModifiedValues_reject context kind name raws values
      rw [own, parseModifiedValues_retain] at rejected
      rw [rejected]
      constructor
      · rintro ⟨⟨lines, read, rfl⟩, apart⟩
        exact ⟨lines, read, rfl, apart⟩
      · rintro ⟨lines, read, rfl, apart⟩
        exact ⟨⟨lines, read, rfl⟩, apart⟩

theorem Settles.eq_nil_iff {options : ReadOptions} {given : List Bytes}
    (settled : Settles options given values) : values = [] ↔ given = [] := by
  unfold Settles at settled
  split at settled
  · rw [settled]
    cases given with
    | nil => exact Iff.rfl
    | cons value given => exact iff_of_false (List.cons_ne_nil _ _) (List.cons_ne_nil _ _)
  · rw [settled]
  · rw [settled.1]

/-! ### One block -/

theorem checked_eq_ok {modification : Modification} :
    checked raws (kind, name) values = .ok modification ↔
      ¬(kind = .add ∧ values = []) ∧ ¬(kind = .increment ∧ raws.length ≠ 1) ∧
        modification = ⟨kind, ⟨name, values⟩⟩ := by
  rw [checked]
  simp only [List.isEmpty_iff]
  split
  · next empty => exact iff_of_false (fun failed => by cases failed) fun met => met.1 empty
  next some_values =>
  split
  · next several => exact iff_of_false (fun failed => by cases failed) fun met => met.2.1 several
  next single =>
  constructor
  · intro done
    cases done
    exact ⟨some_values, single, rfl⟩
  · rintro ⟨-, -, rfl⟩
    rfl

theorem allows_iff {count : Nat} {empty : Prop} (none_given : empty ↔ count = 0) :
    kind.Allows count ↔ ¬(kind = .add ∧ empty) ∧ ¬(kind = .increment ∧ count ≠ 1) := by
  rw [none_given]
  cases kind with
  | add =>
      simp [ModificationKind.Allows]
      omega
  | delete => simp [ModificationKind.Allows]
  | replace => simp [ModificationKind.Allows]
  | increment => simp [ModificationKind.Allows]

theorem parseModification_eq_ok {header : String} {modification : Modification} :
    parseModification context header raws = .ok modification ↔
      Modifies context (header :: raws) modification := by
  rw [parseModification_eq, bind_eq_ok]
  have allows {kind : ModificationKind} {name : String} {lines : List Line} {values : List Bytes}
      (named : List.Forall₂ (Names context name) raws lines)
      (settled : Settles context.options (lines.map (·.value)) values) :
      kind.Allows lines.length ↔
        ¬(kind = .add ∧ values = []) ∧ ¬(kind = .increment ∧ raws.length ≠ 1) := by
    rw [named.length_eq]
    apply allows_iff
    rw [settled.eq_nil_iff, List.map_eq_nil_iff, List.length_eq_zero_iff]
  constructor
  · rintro ⟨⟨kind, name⟩, headed, parsed⟩
    obtain ⟨values, valued, done⟩ := bind_eq_ok.mp parsed
    obtain ⟨lines, named, settled⟩ := parseModifiedValues_eq_ok.mp valued
    obtain ⟨some_values, single, rfl⟩ := checked_eq_ok.mp done
    exact .intro (parseHeader_eq_ok.mp headed) named ((allows named settled).mpr ⟨some_values, single⟩)
      settled
  · intro modifies
    cases modifies with
    | @intro _ name _ lines kind values announced named allowed settled =>
        obtain ⟨some_values, single⟩ := (allows named settled).mp allowed
        refine ⟨(kind, name), parseHeader_eq_ok.mpr announced, bind_eq_ok.mpr ⟨values, ?_, ?_⟩⟩
        · exact parseModifiedValues_eq_ok.mpr ⟨lines, named, settled⟩
        · exact checked_eq_ok.mpr ⟨some_values, single, rfl⟩

/-! ### Block after block -/

/-- A separator has no colon, so it is not read. -/
theorem not_isSeparator_of_line {raw : String} {line : Line} (read : context.line raw = .ok line) :
    isSeparator raw = false := by
  rw [isSeparator, beq_eq_false_iff_ne]
  intro separates
  have colon : ':' ∈ raw.toList := by
    rw [Context.line, Line.parse] at read
    split at read
    · cases read
    · next characters rest found =>
        rw [Line.eq_of_splitColon found]
        exact List.mem_append_right _ List.mem_cons_self
  have left := @Blank.mem_trimEnd Blank.isBlank _ ':' colon rfl
  rw [separates] at left
  exact absurd left (by decide)

theorem Modifies.whole {block : List String} {modification : Modification}
    (modifies : Modifies context block modification) : ∀ raw ∈ block, isSeparator raw = false := by
  cases modifies with
  | @intro header name raws lines kind values announced named allowed settled =>
      obtain ⟨line, text, read, -⟩ := announced
      have solid := named.imp fun raw line found =>
        (⟨not_isSeparator_of_line found.1, found⟩ : isSeparator raw = false ∧ Names context name raw line)
      exact List.forall_mem_cons.mpr
        ⟨not_isSeparator_of_line read.1, ((List.forall₂_and_left _ _).mp solid).1⟩

theorem divided_of_parseModifications {lines : List String} {modifications : List Modification}
    (parsed : parseModifications context lines = .ok modifications) :
    ∃ blocks, Divided lines blocks ∧ List.Forall₂ (Modifies context) blocks modifications := by
  fun_induction parseModifications context lines generalizing modifications with
  | case1 =>
      cases parsed
      exact ⟨[], .nothing, .nil⟩
  | case2 header rest inductionHypothesis =>
      obtain ⟨modification, first, parsed⟩ := bind_eq_ok.mp parsed
      obtain ⟨others, more, parsed⟩ := bind_eq_ok.mp parsed
      cases parsed
      have modifies := parseModification_eq_ok.mp first
      have split := @List.takeWhile_append_dropWhile _ (!isSeparator ·) rest
      have stopped := List.head?_dropWhile_not (!isSeparator ·) rest
      cases behind : rest.dropWhile (!isSeparator ·) with
      | nil =>
          rw [behind, List.append_nil] at split
          rw [behind, List.drop_nil, parseModifications] at more
          cases more
          rw [split] at modifies
          exact ⟨[header :: rest], .last (List.cons_ne_nil _ _) modifies.whole, .cons modifies .nil⟩
      | cons ends left =>
          obtain ⟨blocks, divided, several⟩ := inductionHypothesis more
          rw [behind, List.drop_one, List.tail_cons] at divided
          rw [behind] at split stopped
          refine ⟨_, ?_, .cons modifies several⟩
          have separates : isSeparator ends = true := by simpa using stopped
          have divided := Divided.more (List.cons_ne_nil _ _) modifies.whole separates divided
          rwa [List.cons_append, split] at divided

theorem parseModifications_of_divided {lines : List String} {blocks : List (List String)}
    (divided : Divided lines blocks) {modifications : List Modification}
    (modifies : List.Forall₂ (Modifies context) blocks modifications) :
    parseModifications context lines = .ok modifications := by
  induction divided generalizing modifications with
  | nothing =>
      cases modifies
      rw [parseModifications]
  | last begun whole =>
      cases modifies with
      | cons first others =>
          cases others
          cases first with
          | @intro header name raws lines kind values announced named allowed settled =>
              obtain ⟨-, whole⟩ := List.forall_mem_cons.mp whole
              obtain ⟨taken, left⟩ := @until_separator raws [] whole (fun raw found => by cases found)
              rw [List.append_nil] at taken left
              have parsed := parseModification_eq_ok.mpr (.intro announced named allowed settled)
              rw [parseModifications, taken, left, parsed, ok_bind, List.drop_nil,
                parseModifications]
              rfl
  | @more block lines ends blocks begun whole separates rest inductionHypothesis =>
      cases modifies with
      | cons first others =>
          cases first with
          | @intro header name raws _ kind values announced named allowed settled =>
              obtain ⟨-, whole⟩ := List.forall_mem_cons.mp whole
              obtain ⟨taken, left⟩ := @until_separator raws (ends :: lines) whole
                (fun raw found => by cases found; exact separates)
              have parsed := parseModification_eq_ok.mpr (.intro announced named allowed settled)
              rw [List.cons_append, parseModifications, taken, left, parsed, ok_bind, List.drop_one,
                List.tail_cons, inductionHypothesis others]
              rfl

theorem parseModifications_eq_ok {lines : List String} {modifications : List Modification} :
    parseModifications context lines = .ok modifications ↔
      ∃ blocks, Divided lines blocks ∧ List.Forall₂ (Modifies context) blocks modifications := by
  constructor
  · exact divided_of_parseModifications
  · rintro ⟨blocks, divided, modifies⟩
    exact parseModifications_of_divided divided modifies

/-- The lines of a change are modifications just when separators cut them into blocks, at
least one, that are one modification each, in that order. -/
theorem modifies_iff_divided (context : Context) (lines : List String) (change : Change) :
    parseChange context "modify" lines = .ok change ↔
      ∃ blocks modifications, change = .modify modifications ∧ blocks ≠ [] ∧
        Divided lines blocks ∧ List.Forall₂ (Modifies context) blocks modifications := by
  have keyword : parseChange context "modify" lines
      = parseModifications context lines >>= fun modifications =>
          if modifications.isEmpty then .error .modifyWithoutModifications
          else .ok (.modify modifications) := rfl
  rw [keyword, bind_eq_ok]
  constructor
  · rintro ⟨modifications, parsed, done⟩
    obtain ⟨blocks, divided, modifies⟩ := parseModifications_eq_ok.mp parsed
    split at done
    · cases done
    · next some_modifications =>
        cases done
        refine ⟨blocks, modifications, rfl, ?_, divided, modifies⟩
        rintro rfl
        cases modifies
        exact some_modifications rfl
  · rintro ⟨blocks, modifications, rfl, some_blocks, divided, modifies⟩
    refine ⟨modifications, parseModifications_eq_ok.mpr ⟨blocks, divided, modifies⟩, ?_⟩
    rw [if_neg]
    rw [List.isEmpty_iff]
    rintro rfl
    cases modifies
    exact some_blocks rfl

end Block

end DirectoryInterchange
