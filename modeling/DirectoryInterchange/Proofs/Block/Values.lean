import DirectoryInterchange.Block.Decoding
import DirectoryInterchange.Proofs.Block.Parsing

/-!
Attributes as they are collected: no two of the same name, and no value twice
where the policy is against it.

Collecting the values of such attributes once more puts them together again.
-/

namespace DirectoryInterchange.Block

variable {options : ReadOptions}

/-- No value is repeated, unless the policy lets repeated values stand. -/
def Distinct (options : ReadOptions) (values : List Bytes) : Prop :=
  options.duplicates ≠ .retain →
    values.Pairwise fun first second => options.rule.same first second = false

/-- An attribute that values were collected under. -/
structure Collected (options : ReadOptions) (attr : Attribute) : Prop where
  described : Line.isDescription attr.name = true
  nonempty : attr.values ≠ []
  distinct : Distinct options attr.values

/-- Names that differ in more than the case of their letters. -/
def Apart (names : List String) : Prop :=
  names.Pairwise fun first second => Ascii.sameLetters first second = false

/-- The attributes that lines come to. -/
structure Grouped (options : ReadOptions) (attributes : List Attribute) : Prop where
  each : ∀ attr ∈ attributes, Collected options attr
  apart : Apart (attributes.map (·.name))

theorem grouped_nil : Grouped options [] where
  each := fun _ member => by cases member
  apart := List.Pairwise.nil

theorem Grouped.tail
    {attr : Attribute} {rest : List Attribute} (grouped : Grouped options (attr :: rest)) :
    Grouped options rest where
  each := fun other member => grouped.each other (List.mem_cons_of_mem _ member)
  apart := (List.pairwise_cons.mp grouped.apart).2

namespace Values

/-! ### One value -/

/-- A value that is not there yet, or may be there again. -/
def Fresh (options : ReadOptions) (values : List Bytes) (value : Bytes) : Prop :=
  options.duplicates ≠ .retain → ∀ other ∈ values, options.rule.same other value = false

theorem distinct_concat_iff {values : List Bytes} {value : Bytes} :
    Distinct options (values ++ [value]) ↔
      Distinct options values ∧ Fresh options values value := by
  constructor
  · intro distinct
    refine ⟨fun against => ?_, fun against other member => ?_⟩
    · exact (List.pairwise_append.mp (distinct against)).1
    · exact (List.pairwise_append.mp (distinct against)).2.2 other member value
        (List.mem_singleton.mpr rfl)
  · rintro ⟨distinct, fresh⟩ against
    refine List.pairwise_append.mpr ⟨distinct against, List.pairwise_singleton _ _, ?_⟩
    intro other member new new_member
    rw [List.mem_singleton.mp new_member]
    exact fresh against other member

theorem extend_fresh
    {attr : Attribute} {value : Bytes} (fresh : Fresh options attr.values value) :
    extend options.duplicates options.rule attr value
      = .ok { attr with values := attr.values ++ [value] } := by
  unfold extend
  split
  · next repeated =>
      obtain ⟨other, member, same⟩ := List.any_eq_true.mp repeated
      change options.rule.same other value = true at same
      cases policy : options.duplicates with
      | retain => rfl
      | strip =>
          have different := fresh (by rw [policy]; exact Policy.noConfusion) other member
          rw [different] at same
          cases same
      | reject =>
          have different := fresh (by rw [policy]; exact Policy.noConfusion) other member
          rw [different] at same
          cases same
  · rfl

/-- An attribute that a value was added to has it unless it is a repeated one. -/
theorem of_extend
    {attr extended : Attribute} {value : Bytes}
    (done : extend options.duplicates options.rule attr value = .ok extended) :
    extended = attr ∨ extended = { attr with values := attr.values ++ [value] }
      ∧ Fresh options attr.values value := by
  unfold extend at done
  split at done
  · cases policy : options.duplicates with
    | strip =>
        rw [policy] at done
        exact Or.inl (Except.ok.inj done).symm
    | retain =>
        rw [policy] at done
        refine Or.inr ⟨(Except.ok.inj done).symm, fun against => ?_⟩
        exact absurd policy against
    | reject =>
        rw [policy] at done
        cases done
  · next absent =>
      refine Or.inr ⟨(Except.ok.inj done).symm, fun _ other member => ?_⟩
      rw [List.any_eq_true, not_exists] at absent
      exact Bool.eq_false_iff.mpr fun same => absent other ⟨member, same⟩

theorem collected_extend
    {attr extended : Attribute} {value : Bytes} (collected : Collected options attr)
    (done : extend options.duplicates options.rule attr value = .ok extended) :
    Collected options extended ∧ extended.name = attr.name := by
  rcases of_extend done with rfl | ⟨rfl, fresh⟩
  · exact ⟨collected, rfl⟩
  · refine ⟨⟨collected.described, ?_, ?_⟩, rfl⟩
    · exact List.append_ne_nil_of_right_ne_nil _ (List.cons_ne_nil _ _)
    · exact distinct_concat_iff.mpr ⟨collected.distinct, fresh⟩

theorem collected_single {name : String} (described : Line.isDescription name = true)
    (value : Bytes) : Collected options ⟨name, [value]⟩ where
  described := described
  nonempty := List.cons_ne_nil _ _
  distinct := fun _ => List.pairwise_singleton _ _

/-! ### Adding a value -/

/-- The names stay, or the new one comes last. -/
theorem names_add
    {name : String} {value : Bytes} {attributes added : List Attribute}
    (done : add options.duplicates options.rule name value attributes = .ok added) :
    added.map (·.name) = attributes.map (·.name)
      ∨ added.map (·.name) = attributes.map (·.name) ++ [name]
        ∧ ∀ attr ∈ attributes, attr.hasName name = false := by
  induction attributes generalizing added with
  | nil =>
      cases done
      exact Or.inr ⟨rfl, fun attr member => by cases member⟩
  | cons attr rest inductionHypothesis =>
      rw [add] at done
      split at done
      · next found =>
          obtain ⟨extended, extending, rfl⟩ := map_eq_ok.mp done
          have kept : extended.name = attr.name := by
            rcases of_extend extending with rfl | ⟨rfl, -⟩ <;> rfl
          exact Or.inl (by rw [List.map_cons, List.map_cons, kept])
      · next other =>
          obtain ⟨others, adding, rfl⟩ := map_eq_ok.mp done
          rcases inductionHypothesis adding with same | ⟨more, absent⟩
          · exact Or.inl (by rw [List.map_cons, List.map_cons, same])
          · refine Or.inr ⟨by rw [List.map_cons, List.map_cons, more, List.cons_append], ?_⟩
            intro named member
            rcases List.mem_cons.mp member with rfl | member
            · exact Bool.eq_false_iff.mpr other
            · exact absent named member

theorem each_add
    {name : String} (described : Line.isDescription name = true) {value : Bytes}
    {attributes added : List Attribute}
    (done : add options.duplicates options.rule name value attributes = .ok added)
    (each : ∀ attr ∈ attributes, Collected options attr) :
    ∀ attr ∈ added, Collected options attr := by
  induction attributes generalizing added with
  | nil =>
      cases done
      intro attr member
      rw [List.mem_singleton.mp member]
      exact collected_single described value
  | cons first rest inductionHypothesis =>
      have first_collected := each first List.mem_cons_self
      have rest_collected : ∀ attr ∈ rest, Collected options attr :=
        fun attr member => each attr (List.mem_cons_of_mem _ member)
      rw [add] at done
      split at done
      · obtain ⟨extended, extending, rfl⟩ := map_eq_ok.mp done
        intro attr member
        rcases List.mem_cons.mp member with rfl | member
        · exact (collected_extend first_collected extending).1
        · exact rest_collected attr member
      · obtain ⟨others, adding, rfl⟩ := map_eq_ok.mp done
        intro attr member
        rcases List.mem_cons.mp member with rfl | member
        · exact first_collected
        · exact inductionHypothesis adding rest_collected attr member

theorem grouped_add
    {name : String} (described : Line.isDescription name = true) {value : Bytes}
    {attributes added : List Attribute} (grouped : Grouped options attributes)
    (done : add options.duplicates options.rule name value attributes = .ok added) :
    Grouped options added := by
  refine ⟨each_add described done grouped.each, ?_⟩
  rcases names_add done with same | ⟨more, absent⟩
  · rw [same]
    exact grouped.apart
  · rw [more]
    refine List.pairwise_append.mpr ⟨grouped.apart, List.pairwise_singleton _ _, ?_⟩
    intro old old_member new new_member
    obtain ⟨attr, member, rfl⟩ := List.mem_map.mp old_member
    rw [List.mem_singleton.mp new_member]
    exact absent attr member

/-! ### Adding values again -/

theorem add_behind
    {name : String} (value : Bytes) {before attributes : List Attribute}
    (absent : ∀ attr ∈ before, attr.hasName name = false) :
    add options.duplicates options.rule name value (before ++ attributes)
      = (add options.duplicates options.rule name value attributes).map (before ++ ·) := by
  induction before with
  | nil =>
      rw [List.nil_append]
      cases add options.duplicates options.rule name value attributes <;> rfl
  | cons attr before inductionHypothesis =>
      have other := absent attr List.mem_cons_self
      have others := inductionHypothesis fun named member =>
        absent named (List.mem_cons_of_mem _ member)
      rw [List.cons_append, add, if_neg (by rw [other]; exact Bool.false_ne_true), others]
      cases add options.duplicates options.rule name value attributes <;> rfl

theorem add_last
    {name : String} {value : Bytes} {values : List Bytes} (fresh : Fresh options values value) :
    add options.duplicates options.rule name value [⟨name, values⟩]
      = .ok [⟨name, values ++ [value]⟩] := by
  have same : Attribute.hasName ⟨name, values⟩ name = true := Ascii.sameLetters_self name
  rw [add, if_pos same, @extend_fresh options ⟨name, values⟩ value fresh]
  rfl

end Values

/-- Adds values under one name, one after another. -/
def Context.addValues (context : Context) (name : String) (values : List Bytes)
    (attributes : List Attribute) : Parsed (List Attribute) :=
  values.foldlM (fun attributes value => context.addValue name value attributes) attributes

theorem addValues_last
    {context : Context} {name : String} {before : List Attribute} {values more : List Bytes}
    (absent : ∀ attr ∈ before, attr.hasName name = false)
    (distinct : Distinct context.options (values ++ more)) :
    context.addValues name more (before ++ [⟨name, values⟩])
      = .ok (before ++ [⟨name, values ++ more⟩]) := by
  induction more generalizing values with
  | nil => rw [Context.addValues, List.append_nil]; rfl
  | cons value more inductionHypothesis =>
      rw [List.append_cons] at distinct
      have fresh : Values.Fresh context.options values value := by
        refine (Values.distinct_concat_iff.mp fun against => ?_).2
        exact (List.pairwise_append.mp (distinct against)).1
      have others := inductionHypothesis distinct
      rw [Context.addValues] at others ⊢
      rw [List.foldlM_cons, Context.addValue, Values.add_behind value absent,
        Values.add_last fresh]
      exact others.trans (by rw [List.append_assoc]; rfl)

/-- The values of an attribute come together under its name. -/
theorem addValues_collected
    {context : Context} {attr : Attribute} (collected : Collected context.options attr)
    {before : List Attribute} (absent : ∀ other ∈ before, other.hasName attr.name = false) :
    context.addValues attr.name attr.values before = .ok (before ++ [attr]) := by
  obtain ⟨name, values⟩ := attr
  cases values with
  | nil => exact absurd rfl collected.nonempty
  | cons value more =>
      have rest := @addValues_last context name before [value] more absent collected.distinct
      rw [Context.addValues] at rest ⊢
      have first := @Values.add_behind context.options name value before [] absent
      rw [List.append_nil] at first
      rw [List.foldlM_cons, Context.addValue, first]
      exact rest

end DirectoryInterchange.Block
