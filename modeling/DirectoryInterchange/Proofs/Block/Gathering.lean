import DirectoryInterchange.Proofs.Block.Values

/-!
What lines come to where repeated values stay: an attribute for every name, as
it is first spelled, with the values of all lines of that name.
-/

namespace DirectoryInterchange

/-! ### The first of each -/

section Firsts

variable {Item : Type} {same : Item → Item → Bool}

/-- The items of a list that are the same as none in front of them. -/
def firsts (same : Item → Item → Bool) : List Item → List Item
  | [] => []
  | first :: rest => first :: (firsts same rest).filter (!same first ·)

theorem mem_of_mem_firsts {items : List Item} {item : Item} (member : item ∈ firsts same items) :
    item ∈ items := by
  induction items with
  | nil => exact member
  | cons first rest inductionHypothesis =>
      rw [firsts, List.mem_cons] at member
      rcases member with rfl | member
      · exact List.mem_cons_self
      · exact List.mem_cons_of_mem _ (inductionHypothesis (List.mem_filter.mp member).1)

theorem pairwise_firsts (items : List Item) :
    (firsts same items).Pairwise fun first second => same first second = false := by
  induction items with
  | nil => exact .nil
  | cons first rest inductionHypothesis =>
      refine List.pairwise_cons.mpr ⟨fun item member => ?_, inductionHypothesis.filter _⟩
      have kept := (List.mem_filter.mp member).2
      rwa [Bool.not_eq_true'] at kept

theorem firsts_concat (items : List Item) (item : Item) :
    firsts same (items ++ [item])
      = if items.any (same · item) then firsts same items else firsts same items ++ [item] := by
  induction items with
  | nil => rfl
  | cons first rest inductionHypothesis =>
      rw [List.cons_append, firsts, inductionHypothesis, List.any_cons, firsts]
      by_cases later : rest.any (same · item) = true
      · rw [if_pos later, if_pos (by rw [later, Bool.or_true])]
      · rw [if_neg later, Bool.eq_false_iff.mpr later, Bool.or_false, List.filter_append]
        by_cases again : same first item = true
        · simp [again]
        · simp [again]

/-- An item that is the same as one of a list is the same as one of the firsts. -/
theorem any_firsts (equivalence : Equivalence fun first second => same first second = true)
    (items : List Item) (item : Item) :
    (firsts same items).any (same · item) = items.any (same · item) := by
  refine Bool.eq_iff_iff.mpr ⟨fun found => ?_, fun found => ?_⟩
  · obtain ⟨other, member, alike⟩ := List.any_eq_true.mp found
    exact List.any_eq_true.mpr ⟨other, mem_of_mem_firsts member, alike⟩
  induction items with
  | nil => exact found
  | cons first rest inductionHypothesis =>
      rw [firsts, List.any_cons, Bool.or_eq_true]
      by_cases here : same first item = true
      · exact .inl here
      · rw [List.any_cons, Bool.or_eq_true] at found
        obtain ⟨other, member, alike⟩ :=
          List.any_eq_true.mp (inductionHypothesis (found.resolve_left here))
        refine .inr (List.any_eq_true.mpr ⟨other, List.mem_filter.mpr ⟨member, ?_⟩, alike⟩)
        rw [Bool.not_eq_true', Bool.eq_false_iff]
        exact fun joined => here (equivalence.trans joined alike)

end Firsts

theorem Ascii.sameLetters_equivalence :
    Equivalence fun first second => sameLetters first second = true where
  refl := sameLetters_self
  symm := fun alike => (sameLetters_iff _ _).mpr ((sameLetters_iff _ _).mp alike).symm
  trans := fun left right => (sameLetters_iff _ _).mpr
    (((sameLetters_iff _ _).mp left).trans ((sameLetters_iff _ _).mp right))

theorem MatchingRule.same_equivalence (rule : MatchingRule) :
    Equivalence fun first second => rule.same first second = true where
  refl := fun value => beq_self_eq_true (rule.normalize value)
  symm := fun alike => beq_iff_eq.mpr (beq_iff_eq.mp alike).symm
  trans := fun left right => beq_iff_eq.mpr ((beq_iff_eq.mp left).trans (beq_iff_eq.mp right))

namespace Block

/-! ### Gathering lines -/

def valuesOf (name : String) (lines : List Line) : List Bytes :=
  (lines.filter (·.hasName name)).map (·.value)

/-- The lines by name: each name once, and the values of all lines of that name. -/
def gather (lines : List Line) : List Attribute :=
  (firsts Ascii.sameLetters (lines.map (·.name))).map fun name => ⟨name, valuesOf name lines⟩

theorem valuesOf_concat (name : String) (lines : List Line) (line : Line) :
    valuesOf name (lines ++ [line])
      = valuesOf name lines ++ if line.hasName name then [line.value] else [] := by
  cases named : line.hasName name <;> simp [valuesOf, named]

theorem valuesOf_eq_nil
    {name : String} {lines : List Line} (absent : ∀ line ∈ lines, line.hasName name = false) :
    valuesOf name lines = [] := by
  rw [valuesOf, List.filter_eq_nil_iff.mpr fun line member => by simp [absent line member]]
  rfl

namespace Values

variable (rule : MatchingRule)

theorem extend_retain (attr : Attribute) (value : Bytes) :
    extend .retain rule attr value = .ok { attr with values := attr.values ++ [value] } := by
  unfold extend
  split <;> rfl

/-- A value joins those of its name, whatever names stand around it. -/
theorem add_retain_of_mem
    {name : String} (value : Bytes) (values : String → List Bytes) {names : List String}
    (apart : Apart names) (known : names.any (Ascii.sameLetters · name) = true) :
    add .retain rule name value (names.map fun other => ⟨other, values other⟩)
      = .ok (names.map fun other =>
          ⟨other, values other ++ if Ascii.sameLetters name other then [value] else []⟩) := by
  induction names with
  | nil => cases known
  | cons first rest inductionHypothesis =>
      obtain ⟨others, rest_apart⟩ := List.pairwise_cons.mp apart
      rw [List.map_cons, List.map_cons, add]
      by_cases here : Ascii.sameLetters first name = true
      · have untouched : ∀ other ∈ rest, Ascii.sameLetters name other = false :=
          fun other member => Bool.eq_false_iff.mpr fun there =>
            Bool.eq_false_iff.mp (others other member)
              (Ascii.sameLetters_equivalence.trans here there)
        have kept : (rest.map fun other => (⟨other, values other⟩ : Attribute))
            = rest.map fun other =>
                ⟨other, values other ++ if Ascii.sameLetters name other then [value] else []⟩ :=
          List.map_congr_left fun other member => by
            rw [untouched other member, if_neg Bool.false_ne_true, List.append_nil]
        have named : Attribute.hasName ⟨first, values first⟩ name = true := here
        rw [if_pos named, extend_retain, ← kept,
          if_pos (Ascii.sameLetters_equivalence.symm here)]
        rfl
      · have there : Ascii.sameLetters name first = false := Bool.eq_false_iff.mpr fun alike =>
          here (Ascii.sameLetters_equivalence.symm alike)
        have unnamed : ¬Attribute.hasName ⟨first, values first⟩ name = true := here
        rw [List.any_cons, Bool.or_eq_true] at known
        rw [if_neg unnamed, inductionHypothesis rest_apart (known.resolve_left here), there,
          if_neg Bool.false_ne_true, List.append_nil]
        rfl

/-- A value of a new name comes last. -/
theorem add_retain_of_not_mem
    {name : String} (value : Bytes) {attributes : List Attribute}
    (absent : ∀ attr ∈ attributes, attr.hasName name = false) :
    add .retain rule name value attributes = .ok (attributes ++ [⟨name, [value]⟩]) := by
  have behind := @add_behind { duplicates := .retain, rule := rule } name value attributes [] absent
  rwa [List.append_nil] at behind

/-- Adding the value of a line gathers that line too. -/
theorem add_gather (lines : List Line) (line : Line) :
    add .retain rule line.name line.value (gather lines) = .ok (gather (lines ++ [line])) := by
  have names := @firsts_concat _ Ascii.sameLetters (lines.map (·.name)) line.name
  rw [← List.map_singleton, ← List.map_append] at names
  by_cases known : (lines.map (·.name)).any (Ascii.sameLetters · line.name) = true
  · rw [if_pos known] at names
    rw [gather, gather, names]
    simp only [valuesOf_concat]
    refine add_retain_of_mem rule line.value _ (pairwise_firsts _) ?_
    rwa [any_firsts Ascii.sameLetters_equivalence]
  · have other : ∀ name ∈ lines.map (·.name), Ascii.sameLetters name line.name = false :=
      fun name member => Bool.eq_false_iff.mpr fun alike =>
        known (List.any_eq_true.mpr ⟨name, member, alike⟩)
    have absent : ∀ attr ∈ gather lines, attr.hasName line.name = false := by
      intro attr member
      obtain ⟨name, inside, rfl⟩ := List.mem_map.mp member
      exact other name (mem_of_mem_firsts inside)
    have kept : (firsts Ascii.sameLetters (lines.map (·.name))).map
        (fun name => (⟨name, valuesOf name (lines ++ [line])⟩ : Attribute)) = gather lines := by
      refine List.map_congr_left fun name inside => ?_
      have unnamed : ¬line.hasName name = true := fun alike => Bool.eq_false_iff.mp
        (other name (mem_of_mem_firsts inside)) (Ascii.sameLetters_equivalence.symm alike)
      rw [valuesOf_concat, if_neg unnamed, List.append_nil]
    have own : line.hasName line.name = true := Ascii.sameLetters_self line.name
    have fresh : valuesOf line.name (lines ++ [line]) = [line.value] := by
      rw [valuesOf_concat, if_pos own, valuesOf_eq_nil fun earlier member =>
        other earlier.name (List.mem_map_of_mem member), List.nil_append]
    rw [if_neg known] at names
    rw [add_retain_of_not_mem rule line.value absent, gather.eq_def (lines ++ [line]), names,
      List.map_append, kept, List.map_singleton, List.map_singleton, fresh]

end Values

/-! ### Lines that are collected -/

namespace Context

variable (context : Context)

/-- What a line does to the attributes in front of it. -/
def collect (attributes : List Attribute) (raw : String) : Parsed (List Attribute) := do
  let line ← context.line raw
  context.addValue line.name line.value attributes

/-- The same reading under another policy about repeated values. -/
def under (policy : Policy) : Context :=
  { context with options := { context.options with duplicates := policy } }

theorem line_under (policy : Policy) (raw : String) :
    (context.under policy).line raw = context.line raw := rfl

theorem addValue_under (policy : Policy) (name : String) (value : Bytes)
    (attributes : List Attribute) :
    (context.under policy).addValue name value attributes
      = Values.add policy context.options.rule name value attributes := rfl

theorem foldlM_collect_retain (lines : List Line) (raws : List String) :
    raws.foldlM (context.under .retain).collect (gather lines)
      = (raws.mapM context.line).map fun more => gather (lines ++ more) := by
  induction raws generalizing lines with
  | nil =>
      rw [List.foldlM_nil, List.mapM_nil]
      exact congrArg (fun lines => Except.ok (gather lines)) (List.append_nil lines).symm
  | cons raw rest inductionHypothesis =>
      rw [List.foldlM_cons, List.mapM_cons, collect, line_under]
      cases context.line raw with
      | error problem => rfl
      | ok line =>
          rw [ok_bind, addValue_under, Values.add_gather, ok_bind, inductionHypothesis, ok_bind]
          cases rest.mapM context.line with
          | error problem => rfl
          | ok others =>
              exact congrArg (fun lines => Except.ok (gather lines))
                (List.append_assoc lines [line] others)

end Context

/-- Where repeated values stay, attributes are the lines by name. -/
theorem parseAttributes_retain (context : Context) (raws : List String) :
    parseAttributes (context.under .retain) raws = (raws.mapM context.line).map gather :=
  context.foldlM_collect_retain [] raws

end Block

end DirectoryInterchange
