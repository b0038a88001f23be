import DirectoryInterchange.Text.Blank

/-!
Trimming leaves a text alone that has nothing blank at its ends, and splitting
neither loses nor invents characters.
-/

namespace DirectoryInterchange.Blank

variable {blank : Char → Bool} {text : List Char}

theorem trimStart_of_head (first : ∀ c ∈ text.head?, blank c = false) :
    trimStart blank text = text := by
  cases text with
  | nil => rfl
  | cons c rest =>
      have kept := first c rfl
      rw [trimStart, List.dropWhile_cons, if_neg (by simp [kept])]

theorem trimEnd_of_last (last : ∀ c ∈ text.getLast?, blank c = false) :
    trimEnd blank text = text := by
  have kept := @trimStart_of_head blank text.reverse (by rwa [List.head?_reverse])
  rw [trimStart] at kept
  rw [trimEnd, kept, List.reverse_reverse]

theorem trim_of_ends
    (first : ∀ c ∈ text.head?, blank c = false) (last : ∀ c ∈ text.getLast?, blank c = false) :
    trim blank text = text := by
  rw [trim, trimStart_of_head first, trimEnd_of_last last]

theorem trim_of_absent (absent : ∀ c ∈ text, blank c = false) : trim blank text = text :=
  trim_of_ends (fun c first => absent c (List.mem_of_head? first))
    (fun c last => absent c (List.mem_of_getLast? last))

/-- A blank in front is dropped. -/
theorem trimStart_cons
    {c : Char} (dropped : blank c = true) (first : ∀ c ∈ text.head?, blank c = false) :
    trimStart blank (c :: text) = text := by
  rw [trimStart, List.dropWhile_cons, if_pos dropped]
  exact trimStart_of_head first

/-- A blank at the end is dropped. -/
theorem trimEnd_concat
    {c : Char} (dropped : blank c = true) (last : ∀ c ∈ text.getLast?, blank c = false) :
    trimEnd blank (text ++ [c]) = text := by
  have kept := @trimStart_cons blank text.reverse c dropped (by rwa [List.head?_reverse])
  rw [trimStart] at kept
  rw [trimEnd, List.reverse_append, List.reverse_singleton, List.singleton_append, kept,
    List.reverse_reverse]

/-! ### Blanks around a text -/

theorem trimStart_append
    {before : List Char} (blanks : ∀ c ∈ before, blank c = true) (text : List Char) :
    trimStart blank (before ++ text) = trimStart blank text :=
  List.dropWhile_append_of_pos blanks

theorem trimEnd_append
    (text : List Char) {after : List Char} (blanks : ∀ c ∈ after, blank c = true) :
    trimEnd blank (text ++ after) = trimEnd blank text := by
  have dropped : ∀ c ∈ after.reverse, blank c = true := fun c member =>
    blanks c (List.mem_reverse.mp member)
  rw [trimEnd, trimEnd, List.reverse_append, List.dropWhile_append_of_pos dropped]

theorem exists_trimStart (blank : Char → Bool) (text : List Char) :
    ∃ before, (∀ c ∈ before, blank c = true) ∧ text = before ++ trimStart blank text :=
  ⟨text.takeWhile blank, List.all_eq_true.mp List.all_takeWhile,
    List.takeWhile_append_dropWhile.symm⟩

/-- Trimming takes blanks away, and nothing else. -/
theorem exists_trim (blank : Char → Bool) (text : List Char) :
    ∃ before after, (∀ c ∈ before, blank c = true) ∧ (∀ c ∈ after, blank c = true) ∧
      text = before ++ (trim blank text ++ after) := by
  obtain ⟨before, leading, front⟩ := exists_trimStart blank text
  obtain ⟨after, trailing, back⟩ := exists_trimStart blank (trimStart blank text).reverse
  refine ⟨before, after.reverse, leading, ?_, ?_⟩
  · exact fun c member => trailing c (List.mem_reverse.mp member)
  · have ends := congrArg List.reverse back
    rw [List.reverse_reverse, List.reverse_append] at ends
    rw [trim, trimEnd, ← trimStart, ← ends]
    exact front

theorem trim_eq_nil_iff : trim blank text = [] ↔ ∀ c ∈ text, blank c = true := by
  constructor
  · intro empty
    obtain ⟨before, after, leading, trailing, whole⟩ := exists_trim blank text
    rw [empty, List.nil_append] at whole
    rw [whole]
    exact List.forall_mem_append.mpr ⟨leading, trailing⟩
  · intro blanks
    have dropped := trimStart_append blanks []
    rw [List.append_nil] at dropped
    rw [trim, dropped]
    rfl

/-- What is not blank stays. -/
theorem mem_trimEnd {c : Char} (member : c ∈ text) (kept : blank c = false) :
    c ∈ trimEnd blank text := by
  have whole := List.mem_reverse.mpr member
  rw [← @List.takeWhile_append_dropWhile _ blank text.reverse, List.mem_append] at whole
  rw [trimEnd, List.mem_reverse]
  rcases whole with dropped | left
  · have blank_there := List.all_eq_true.mp List.all_takeWhile c dropped
    rw [kept] at blank_there
    cases blank_there
  · exact left

/-- Trimming leaves nothing blank in front. -/
theorem not_blank_of_head_trimStart {c : Char} (first : c ∈ (trimStart blank text).head?) :
    blank c = false := by
  have stopped := List.head?_dropWhile_not blank text
  rw [← trimStart, Option.mem_def.mp first] at stopped
  exact stopped

/-- Trimming leaves nothing blank at the end. -/
theorem not_blank_of_last_trimEnd {c : Char} (last : c ∈ (trimEnd blank text).getLast?) :
    blank c = false := by
  rw [trimEnd, List.getLast?_reverse] at last
  exact not_blank_of_head_trimStart last

/-! ### Splitting -/

theorem split_ne_nil (separator : Char) (text : List Char) : split separator text ≠ [] := by
  cases text with
  | nil => exact List.cons_ne_nil _ _
  | cons c rest =>
      rw [split]
      split
      · exact List.cons_ne_nil _ _
      · cases split separator rest <;> exact List.cons_ne_nil _ _

theorem split_cons_of_ne
    {separator c : Char} (different : c ≠ separator) {rest word : List Char}
    {words : List (List Char)} (others : split separator rest = word :: words) :
    split separator (c :: rest) = (c :: word) :: words := by
  rw [split, if_neg different, others]

theorem mem_split
    {separator c : Char} (member : c ∈ text) :
    c = separator ∨ ∃ piece ∈ split separator text, c ∈ piece := by
  induction text with
  | nil => cases member
  | cons first rest inductionHypothesis =>
      rcases others : split separator rest with _ | ⟨word, words⟩
      · exact absurd others (split_ne_nil separator rest)
      · rw [others] at inductionHypothesis
        by_cases same : first = separator
        · rw [split, if_pos same, others]
          rcases List.mem_cons.mp member with equal | member
          · exact Or.inl (equal.trans same)
          · rcases inductionHypothesis member with equal | ⟨piece, inside, found⟩
            · exact Or.inl equal
            · exact Or.inr ⟨piece, List.mem_cons_of_mem _ inside, found⟩
        · rw [split_cons_of_ne same others]
          rcases List.mem_cons.mp member with equal | member
          · exact Or.inr ⟨first :: word, List.mem_cons_self, equal ▸ List.mem_cons_self⟩
          · rcases inductionHypothesis member with equal | ⟨piece, inside, found⟩
            · exact Or.inl equal
            · rcases List.mem_cons.mp inside with rfl | inside
              · exact Or.inr ⟨first :: piece, List.mem_cons_self, List.mem_cons_of_mem _ found⟩
              · exact Or.inr ⟨piece, List.mem_cons_of_mem _ inside, found⟩

/-- The separator is in no piece, and the pieces have only what the text has. -/
theorem of_mem_split
    {separator c : Char} {piece : List Char} (inside : piece ∈ split separator text)
    (member : c ∈ piece) : c ≠ separator ∧ c ∈ text := by
  induction text generalizing piece with
  | nil =>
      rw [split, List.mem_singleton] at inside
      rw [inside] at member
      cases member
  | cons first rest inductionHypothesis =>
      rcases others : split separator rest with _ | ⟨word, words⟩
      · exact absurd others (split_ne_nil separator rest)
      · rw [others] at inductionHypothesis
        by_cases same : first = separator
        · rw [split, if_pos same, others] at inside
          rcases List.mem_cons.mp inside with rfl | inside
          · cases member
          · obtain ⟨different, found⟩ := inductionHypothesis inside member
            exact ⟨different, List.mem_cons_of_mem _ found⟩
        · rw [split_cons_of_ne same others] at inside
          rcases List.mem_cons.mp inside with rfl | inside
          · rcases List.mem_cons.mp member with rfl | member
            · exact ⟨same, List.mem_cons_self⟩
            · obtain ⟨different, found⟩ := inductionHypothesis List.mem_cons_self member
              exact ⟨different, List.mem_cons_of_mem _ found⟩
          · obtain ⟨different, found⟩ :=
              inductionHypothesis (List.mem_cons_of_mem _ inside) member
            exact ⟨different, List.mem_cons_of_mem _ found⟩

theorem split_eq_splitOn (separator : Char) (text : List Char) :
    split separator text = text.splitOn separator := by
  induction text with
  | nil => rfl
  | cons c rest inductionHypothesis =>
      rcases others : split separator rest with _ | ⟨word, words⟩
      · exact absurd others (split_ne_nil separator rest)
      · rw [List.splitOn_cons_eq_if_modifyHead, ← inductionHypothesis, split, others]
        simp only [beq_iff_eq]
        rfl

/-- Splitting takes a text apart into what separators can put together again. -/
theorem split_eq_cons_iff {separator : Char} {word : List Char} {words : List (List Char)} :
    split separator text = word :: words ↔
      text = word ++ words.flatMap (separator :: ·)
        ∧ ∀ piece ∈ word :: words, separator ∉ piece := by
  constructor
  · intro pieces
    refine ⟨?_, fun piece inside member => (of_mem_split (pieces ▸ inside) member).1 rfl⟩
    induction text generalizing word words with
    | nil =>
        cases pieces
        rfl
    | cons c rest inductionHypothesis =>
        rcases others : split separator rest with _ | ⟨next, more⟩
        · exact absurd others (split_ne_nil separator rest)
        have whole := inductionHypothesis others
        by_cases same : c = separator
        · rw [split, if_pos same, others] at pieces
          cases pieces
          rw [whole, same]
          rfl
        · rw [split_cons_of_ne same others] at pieces
          cases pieces
          rw [whole, List.cons_append]
  · rintro ⟨rfl, absent⟩
    rw [split_eq_splitOn]
    induction words generalizing word with
    | nil =>
        rw [List.flatMap_nil, List.append_nil]
        exact List.splitOn_eq_singleton (absent word List.mem_cons_self)
    | cons next words inductionHypothesis =>
        rw [List.flatMap_cons, List.cons_append,
          List.splitOn_append_cons_self_of_not_mem (absent word List.mem_cons_self),
          inductionHypothesis fun piece inside => absent piece (List.mem_cons_of_mem _ inside)]

theorem of_mem_words {word : List Char} (member : word ∈ words text) : word ≠ [] ∧ ' ' ∉ word := by
  obtain ⟨piece, nonempty⟩ := List.mem_filter.mp member
  refine ⟨?_, fun space => (of_mem_split piece space).1 rfl⟩
  rintro rfl
  cases nonempty

end DirectoryInterchange.Blank
