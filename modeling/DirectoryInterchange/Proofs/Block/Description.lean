import DirectoryInterchange.Block.Line
import DirectoryInterchange.Proofs.Text.Blank

/-!
What the names of attributes and the numbers of controls are made of.
-/

namespace DirectoryInterchange.Block.Line

/-- The characters of attribute descriptions. -/
def IsDescriptionCharacter (c : Char) : Prop :=
  isNameCharacter c = true ∨ c = ';' ∨ c = '.'

theorem isNameCharacter_of_digit {c : Char} (digit : c.isDigit = true) :
    isNameCharacter c = true := by
  simp [isNameCharacter, Char.isAlphanum, digit]

theorem isNameCharacter_of_start {c : Char} (start : isNameStart c = true) :
    isNameCharacter c = true := by
  rw [isNameStart] at start
  simp [isNameCharacter, Char.isAlphanum, start]

theorem of_isNumericOid
    {text : List Char} (numeric : isNumericOid text = true) {c : Char} (member : c ∈ text) :
    c.isDigit = true ∨ c = '.' := by
  rcases Blank.mem_split member with dot | ⟨group, inside, found⟩
  · exact Or.inr dot
  · have digits := List.all_eq_true.mp numeric group inside
    rw [Bool.and_eq_true] at digits
    exact Or.inl (List.all_eq_true.mp digits.2 c found)

theorem isDescriptionCharacter_of_oid
    {text : List Char} (numeric : isNumericOid text = true) {c : Char} (member : c ∈ text) :
    IsDescriptionCharacter c := by
  rcases of_isNumericOid numeric member with digit | dot
  · exact Or.inl (isNameCharacter_of_digit digit)
  · exact Or.inr (Or.inr dot)

theorem numericOid_ne_nil {text : List Char} (numeric : isNumericOid text = true) : text ≠ [] := by
  rintro rfl
  cases numeric

theorem of_isShortName
    {text : List Char} (short : isShortName text = true) {c : Char} (member : c ∈ text) :
    isNameCharacter c = true := by
  cases text with
  | nil => cases member
  | cons first rest =>
      rw [isShortName, Bool.and_eq_true] at short
      rcases List.mem_cons.mp member with rfl | member
      · exact isNameCharacter_of_start short.1
      · exact List.all_eq_true.mp short.2 c member

theorem isDescriptionCharacter_of_mem
    {name : String} (described : isDescription name = true) {c : Char}
    (member : c ∈ name.toList) : IsDescriptionCharacter c := by
  rw [isDescription] at described
  split at described
  · cases described
  · next type options pieces =>
      rw [Bool.and_eq_true] at described
      obtain ⟨typed, optioned⟩ := described
      rcases @Blank.mem_split _ ';' c member with semicolon | ⟨piece, inside, found⟩
      · exact Or.inr (Or.inl semicolon)
      · rw [pieces] at inside
        rcases List.mem_cons.mp inside with rfl | inside
        · rcases Bool.or_eq_true_iff.mp typed with short | numeric
          · exact Or.inl (of_isShortName short found)
          · exact isDescriptionCharacter_of_oid numeric found
        · have each := List.all_eq_true.mp optioned piece inside
          rw [Bool.and_eq_true] at each
          exact Or.inl (List.all_eq_true.mp each.2 c found)

theorem description_ne_nil {name : String} (described : isDescription name = true) :
    name.toList ≠ [] := by
  intro empty
  rw [isDescription, empty] at described
  cases described

/-! ### What does not occur in names -/

theorem toNat_of_nameCharacter {c : Char} (allowed : isNameCharacter c = true) :
    c.toNat = 0x2D ∨ (0x30 ≤ c.toNat ∧ c.toNat ≤ 0x39) ∨ (0x41 ≤ c.toNat ∧ c.toNat ≤ 0x5A)
      ∨ (0x61 ≤ c.toNat ∧ c.toNat ≤ 0x7A) := by
  have spelled : isNameCharacter c
      = (decide (0x41 ≤ c.toNat ∧ c.toNat ≤ 0x5A)
        || (decide (0x61 ≤ c.toNat) && decide (c.toNat ≤ 0x7A))
        || (decide (0x30 ≤ c.toNat) && decide (c.toNat ≤ 0x39))
        || c == '-') := rfl
  simp only [spelled, Bool.or_eq_true, Bool.and_eq_true, decide_eq_true_eq, beq_iff_eq] at allowed
  rcases allowed with ((⟨low, high⟩ | ⟨low, high⟩) | ⟨low, high⟩) | rfl
  · exact Or.inr (Or.inr (Or.inl ⟨low, high⟩))
  · exact Or.inr (Or.inr (Or.inr ⟨low, high⟩))
  · exact Or.inr (Or.inl ⟨low, high⟩)
  · exact Or.inl rfl

theorem toNat_of_descriptionCharacter {c : Char} (allowed : IsDescriptionCharacter c) :
    0x2D ≤ c.toNat ∧ c.toNat < 0x80 ∧ c.toNat ≠ 0x3A := by
  rcases allowed with allowed | rfl | rfl
  · have := toNat_of_nameCharacter allowed
    omega
  · decide
  · decide

theorem isBlank_eq_false {c : Char} (visible : 0x21 ≤ c.toNat) (ascii : c.toNat < 0x80) :
    Blank.isBlank c = false := by
  simp only [Blank.isBlank, Bool.or_eq_false_iff, Bool.and_eq_false_iff, decide_eq_false_iff_not,
    beq_eq_false_iff_ne]
  omega

theorem not_blank_of_descriptionCharacter {c : Char} (allowed : IsDescriptionCharacter c) :
    Blank.isBlank c = false := by
  have bounds := toNat_of_descriptionCharacter allowed
  exact isBlank_eq_false (by omega) bounds.2.1

theorem not_space_of_descriptionCharacter {c : Char} (allowed : IsDescriptionCharacter c) :
    Blank.isSpace c = false := by
  have bounds := toNat_of_descriptionCharacter allowed
  rw [Blank.isSpace, beq_eq_false_iff_ne]
  rintro rfl
  exact absurd bounds.1 (by decide)

/-- What starts with a number starts with one of its characters. -/
theorem head_of_oid
    {oid : List Char} (numeric : isNumericOid oid = true) (more : List Char) :
    ∀ c ∈ (oid ++ more).head?, IsDescriptionCharacter c := by
  intro c first
  cases oid with
  | nil => cases numeric
  | cons digit rest =>
      cases first
      exact isDescriptionCharacter_of_oid numeric List.mem_cons_self

theorem colon_not_mem {name : String} (described : isDescription name = true) :
    ':' ∉ name.toList := by
  intro member
  have bounds := toNat_of_descriptionCharacter (isDescriptionCharacter_of_mem described member)
  exact bounds.2.2 rfl

theorem trimmed_description {name : String} (described : isDescription name = true) :
    Blank.trimmed name.toList = name := by
  have absent : ∀ c ∈ name.toList, Blank.isBlank c = false := fun c member =>
    not_blank_of_descriptionCharacter (isDescriptionCharacter_of_mem described member)
  rw [Blank.trimmed, Blank.trim_of_absent absent, String.ofList_toList]

end DirectoryInterchange.Block.Line
