import Mathlib
import DirectoryInterchange.Proofs.Block.Gathering
import DirectoryInterchange.Proofs.Text.Blank
import DirectoryInterchange.Proofs.Text.Utf8

/-!
Values that are the same regardless of case.

The normal form of a text is its words in lower case with single spaces
between them, and it has these very words.  So normal forms are their own, and
two texts have the same one when their words agree.
-/

namespace DirectoryInterchange.MatchingRule

/-! ### Joining words -/

/-- Behind some text every word has a space in front. -/
theorem joinWords_true (words : List (List Char)) :
    joinWords true words = (words.map (·.map Char.toLower)).flatMap (' ' :: ·) := by
  induction words with
  | nil => rfl
  | cons word words inductionHypothesis =>
      rw [joinWords, Bool.true_or, inductionHypothesis]
      rfl

/-- The first word has no space in front, and all others have. -/
theorem joinWords_cons {word : List Char} (nonempty : word ≠ []) (words : List (List Char)) :
    joinWords false (word :: words)
      = word.map Char.toLower ++ (words.map (·.map Char.toLower)).flatMap (' ' :: ·) := by
  have text : (false || !word.isEmpty) = true := by simp [nonempty]
  rw [joinWords, text, joinWords_true]
  rfl

/-- Words that are in lower case already are joined the same way. -/
theorem joinWords_lower (textBefore : Bool) (words : List (List Char)) :
    joinWords textBefore (words.map (·.map Char.toLower)) = joinWords textBefore words := by
  induction words generalizing textBefore with
  | nil => rfl
  | cons word words inductionHypothesis =>
      have lowered : Char.toLower ∘ Char.toLower = Char.toLower :=
        funext Char.toLower_toLower_eq_toLower
      simp only [List.map_cons, joinWords, inductionHypothesis, List.isEmpty_map, List.map_map,
        lowered]

theorem eq_space_of_toLower {c : Char} (space : c.toLower = ' ') : c = ' ' := by
  by_cases upper : c.isUpper
  · have letter := Char.isLower_toLower_eq_isAlpha c
    simp [space, Char.isAlpha, upper] at letter
  · rwa [Char.toLower_eq_of_not_isUpper upper] at space

/-- Words that were joined are found again, in lower case. -/
theorem words_joinWords
    {words : List (List Char)} (proper : ∀ word ∈ words, word ≠ [] ∧ ' ' ∉ word) :
    Blank.words (joinWords false words) = words.map (·.map Char.toLower) := by
  have lowered : ∀ word ∈ words.map (·.map Char.toLower), word ≠ [] ∧ ' ' ∉ word := by
    intro lower member
    obtain ⟨word, inside, rfl⟩ := List.mem_map.mp member
    obtain ⟨nonempty, spaceless⟩ := proper word inside
    constructor
    · simpa using nonempty
    · intro space
      obtain ⟨c, here, same⟩ := List.mem_map.mp space
      rw [eq_space_of_toLower same] at here
      exact spaceless here
  cases words with
  | nil => rfl
  | cons word words =>
      have nonempty := (proper word List.mem_cons_self).1
      have pieces := Blank.split_eq_cons_iff.mpr
        ⟨joinWords_cons nonempty words, fun piece inside => (lowered piece inside).2⟩
      rw [Blank.words, pieces]
      apply List.filter_eq_self.mpr
      intro piece inside
      simpa using (lowered piece inside).1

/-! ### The normal form of a text -/

theorem words_canonical (text : String) :
    Blank.words (canonical text).toList
      = (Blank.words text.toList).map (·.map Char.toLower) := by
  rw [canonical, String.toList_ofList]
  apply words_joinWords
  intro word member
  exact Blank.of_mem_words member

theorem canonical_canonical (text : String) : canonical (canonical text) = canonical text := by
  rw [canonical, words_canonical, joinWords_lower, canonical]

/-- The words of a text between its spaces, in lower case. -/
def lowerWords (text : String) : List (List Char) :=
  ((text.toList.splitOn ' ').filter (· ≠ [])).map (·.map Char.toLower)

theorem lowerWords_eq (text : String) :
    lowerWords text = (Blank.words text.toList).map (·.map Char.toLower) := by
  rw [lowerWords, Blank.words, Blank.split_eq_splitOn]
  congr 2
  funext word
  cases word <;> rfl

theorem canonical_eq_iff {left right : String} :
    canonical left = canonical right ↔ lowerWords left = lowerWords right := by
  simp only [lowerWords_eq]
  constructor
  · intro same
    rw [← words_canonical, same, words_canonical]
  · intro same
    rw [canonical, canonical, ← joinWords_lower, same, joinWords_lower]

/-! ### The normal form of a value -/

variable {value left right : Bytes} {text : String}

theorem normalize_of_text (spelled : Utf8.decode? value = some text) :
    caseIgnore.normalize value = Utf8.encode (canonical text) := by
  simp only [normalize, spelled]

theorem normalize_of_no_text (unspelled : Utf8.decode? value = none) :
    caseIgnore.normalize value = value := by
  simp only [normalize, unspelled]

theorem normalize_normalize (value : Bytes) :
    caseIgnore.normalize (caseIgnore.normalize value) = caseIgnore.normalize value := by
  cases spelled : Utf8.decode? value with
  | none => rw [normalize_of_no_text spelled, normalize_of_no_text spelled]
  | some text =>
      have again := normalize_of_text (Utf8.decode?_encode (canonical text))
      rw [normalize_of_text spelled, again, canonical_canonical]

/-- A normal form is text just when its value is. -/
theorem isSome_decode?_normalize (value : Bytes) :
    (Utf8.decode? (caseIgnore.normalize value)).isSome = (Utf8.decode? value).isSome := by
  cases spelled : Utf8.decode? value with
  | none => rw [normalize_of_no_text spelled, spelled]
  | some text => simp [normalize_of_text spelled]

theorem same_iff_normalize : caseIgnore.same left right = true ↔
    caseIgnore.normalize left = caseIgnore.normalize right :=
  beq_iff_eq

theorem isSome_of_same (alike : caseIgnore.same left right = true) :
    (Utf8.decode? left).isSome = (Utf8.decode? right).isSome := by
  rw [← isSome_decode?_normalize left, same_iff_normalize.mp alike, isSome_decode?_normalize]

/-- Values that are text with the same words, the case of ASCII letters aside. -/
def SpellSameWords (left right : Bytes) : Prop :=
  ∃ first second, Utf8.decode? left = some first ∧ Utf8.decode? right = some second ∧
    lowerWords first = lowerWords second

theorem same_iff_words :
    caseIgnore.same left right = true ↔ SpellSameWords left right ∨ left = right := by
  constructor
  · intro alike
    have kind := isSome_of_same alike
    have forms := same_iff_normalize.mp alike
    cases spelled : Utf8.decode? left with
    | none =>
        have other : Utf8.decode? right = none := by simpa [spelled] using kind.symm
        rw [normalize_of_no_text spelled, normalize_of_no_text other] at forms
        exact Or.inr forms
    | some first =>
        obtain ⟨second, other⟩ : ∃ second, Utf8.decode? right = some second := by
          apply Option.isSome_iff_exists.mp
          simpa [spelled] using kind.symm
        rw [normalize_of_text spelled, normalize_of_text other, Utf8.encode_inj,
          canonical_eq_iff] at forms
        exact Or.inl ⟨first, second, spelled, other, forms⟩
  · rintro (⟨first, second, spelled, other, words⟩ | rfl)
    · apply same_iff_normalize.mpr
      rw [normalize_of_text spelled, normalize_of_text other, canonical_eq_iff.mpr words]
    · exact same_iff_normalize.mpr rfl

/-- Normal forms are canonical: they are their own, values have the same one
when they are texts of the same words or equal, and so being the same is an
equivalence that keeps texts and other values apart. -/
theorem normalize_canonical :
    (∀ value, caseIgnore.normalize (caseIgnore.normalize value) = caseIgnore.normalize value) ∧
      (∀ left right,
        caseIgnore.same left right = true ↔ SpellSameWords left right ∨ left = right) ∧
      (Equivalence fun left right => caseIgnore.same left right = true) ∧
      ∀ left right, (Utf8.decode? left).isSome = true → Utf8.decode? right = none →
        caseIgnore.same left right = false := by
  refine ⟨normalize_normalize, fun left right => same_iff_words, caseIgnore.same_equivalence, ?_⟩
  intro left right text noText
  apply Bool.eq_false_iff.mpr
  intro alike
  have kind := isSome_of_same alike
  rw [text, noText] at kind
  cases kind

/-- Two texts of the same words, with a letter outside ASCII, and bytes that
are no text. -/
theorem normalize_canonical_spaced :
    let left := Utf8.encode "  Ü  Bar"
    let right := Utf8.encode "Ü bAR "
    let other : Bytes := [0xFF, 0x62]
    caseIgnore.normalize left = Utf8.encode "Ü bar" ∧
      caseIgnore.normalize (caseIgnore.normalize left) = Utf8.encode "Ü bar" ∧
      caseIgnore.same left right = true ∧ (Utf8.decode? left).isSome = true ∧
      Utf8.decode? other = none ∧ caseIgnore.same left other = false := by
  intro left right other
  obtain ⟨again, words, -, apart⟩ := normalize_canonical
  have form : caseIgnore.normalize left = Utf8.encode "Ü bar" := by decide +kernel
  have text : (Utf8.decode? left).isSome = true := by simp [left]
  have noText : Utf8.decode? other = none := by decide +kernel
  refine ⟨form, (again left).trans form, ?_, text, noText, apart left other text noText⟩
  apply (words left right).mpr
  refine Or.inl ⟨_, _, Utf8.decode?_encode _, Utf8.decode?_encode _, ?_⟩
  decide +kernel

end DirectoryInterchange.MatchingRule
