import Mathlib.Computability.Language
import DirectoryInterchange.Block.Line
import DirectoryInterchange.Proofs.Block.Description

/-!
The grammar of attribute descriptions and of the numbers of controls.

A description is a keyword or a number, and any options behind it.  A name is
accepted just when the grammar has it.
-/

namespace DirectoryInterchange.Block.Grammar

open scoped Computability

/-! ### The grammar -/

/-- The texts of one character of a kind. -/
def one (kind : Char → Prop) : Language Char :=
  {text | ∃ c, kind c ∧ text = [c]}

/-- The text of that character alone. -/
def just (c : Char) : Language Char :=
  one (· = c)

def letter : Language Char :=
  one fun c => ('A' ≤ c ∧ c ≤ 'Z') ∨ ('a' ≤ c ∧ c ≤ 'z')

def digit : Language Char :=
  one fun c => '0' ≤ c ∧ c ≤ '9'

def keyCharacter : Language Char :=
  letter + digit + just '-'

def keyword : Language Char :=
  letter * keyCharacter∗

def number : Language Char :=
  digit * digit∗

/-- Numbers with dots between them. -/
def oid : Language Char :=
  number * (just '.' * number)∗

def option : Language Char :=
  keyCharacter * keyCharacter∗

def description : Language Char :=
  (keyword + oid) * (just ';' * option)∗

/-! ### Characters and runs of them -/

variable {kind : Char → Prop} {text : List Char}

theorem one_add_one (kind other : Char → Prop) :
    one kind + one other = one fun c => kind c ∨ other c := by
  ext text
  rw [Language.mem_add]
  constructor
  · rintro (⟨c, holds, rfl⟩ | ⟨c, holds, rfl⟩)
    · exact ⟨c, .inl holds, rfl⟩
    · exact ⟨c, .inr holds, rfl⟩
  · rintro ⟨c, holds | holds, rfl⟩
    · exact .inl ⟨c, holds, rfl⟩
    · exact .inr ⟨c, holds, rfl⟩

theorem mem_one_mul {rest : Language Char} :
    text ∈ one kind * rest ↔ ∃ c others, text = c :: others ∧ kind c ∧ others ∈ rest := by
  rw [Language.mem_mul]
  constructor
  · rintro ⟨_, ⟨c, holds, rfl⟩, others, member, rfl⟩
    exact ⟨c, others, rfl, holds, member⟩
  · rintro ⟨c, others, rfl, holds, member⟩
    exact ⟨[c], ⟨c, holds, rfl⟩, others, member, rfl⟩

theorem mem_one_kstar : text ∈ (one kind)∗ ↔ ∀ c ∈ text, kind c := by
  rw [Language.mem_kstar]
  constructor
  · rintro ⟨pieces, rfl, each⟩ c member
    obtain ⟨piece, inside, found⟩ := List.mem_flatten.mp member
    obtain ⟨d, holds, rfl⟩ := each piece inside
    exact List.mem_singleton.mp found ▸ holds
  · intro each
    refine ⟨text.map List.singleton, ?_, fun piece inside => ?_⟩
    · rw [← List.flatMap_def]
      exact (List.flatMap_singleton' text).symm
    · obtain ⟨c, member, rfl⟩ := List.mem_map.mp inside
      exact ⟨c, each c member, rfl⟩

theorem mem_run : text ∈ one kind * (one kind)∗ ↔ text ≠ [] ∧ ∀ c ∈ text, kind c := by
  rw [mem_one_mul]
  constructor
  · rintro ⟨c, others, rfl, holds, member⟩
    exact ⟨List.cons_ne_nil _ _, List.forall_mem_cons.mpr ⟨holds, mem_one_kstar.mp member⟩⟩
  · rintro ⟨nonempty, each⟩
    obtain ⟨c, others, rfl⟩ := List.exists_cons_of_ne_nil nonempty
    obtain ⟨holds, others_hold⟩ := List.forall_mem_cons.mp each
    exact ⟨c, others, rfl, holds, mem_one_kstar.mpr others_hold⟩

/-- A first word, and others behind a separator each. -/
theorem mem_separated {separator : Char} {first other : Language Char} :
    text ∈ first * (just separator * other)∗ ↔
      ∃ word ∈ first, ∃ words : List (List Char), (∀ piece ∈ words, piece ∈ other) ∧
        text = word ++ words.flatMap (separator :: ·) := by
  rw [Language.mem_mul]
  constructor
  · rintro ⟨word, begins, behind, more, rfl⟩
    refine ⟨word, begins, ?_⟩
    obtain ⟨pieces, rfl, each⟩ := Language.mem_kstar.mp more
    clear more
    induction pieces with
    | nil => exact ⟨[], fun piece inside => (by cases inside), rfl⟩
    | cons piece pieces inductionHypothesis =>
        obtain ⟨c, next, rfl, rfl, member⟩ := mem_one_mul.mp (each piece List.mem_cons_self)
        obtain ⟨words, others, same⟩ := inductionHypothesis fun other inside =>
          each other (List.mem_cons_of_mem _ inside)
        refine ⟨next :: words, List.forall_mem_cons.mpr ⟨member, others⟩, ?_⟩
        rw [List.flatten_cons, List.flatMap_cons, List.append_cancel_left same]
  · rintro ⟨word, begins, words, each, rfl⟩
    refine ⟨word, begins, _, ?_, rfl⟩
    refine Language.mem_kstar.mpr ⟨words.map (separator :: ·), rfl, fun piece inside => ?_⟩
    obtain ⟨next, member, rfl⟩ := List.mem_map.mp inside
    exact mem_one_mul.mpr ⟨separator, next, rfl, rfl, each next member⟩

/-- Splitting finds the words, when no separator is in them. -/
theorem mem_separated_iff_split {separator : Char} {first other : Language Char}
    (first_whole : ∀ word ∈ first, separator ∉ word)
    (other_whole : ∀ word ∈ other, separator ∉ word) {word : List Char}
    {words : List (List Char)} (pieces : Blank.split separator text = word :: words) :
    text ∈ first * (just separator * other)∗ ↔
      word ∈ first ∧ ∀ piece ∈ words, piece ∈ other := by
  rw [mem_separated]
  constructor
  · rintro ⟨found, begins, others, each, same⟩
    have split := Blank.split_eq_cons_iff.mpr ⟨same, List.forall_mem_cons.mpr
      ⟨first_whole found begins, fun piece inside => other_whole piece (each piece inside)⟩⟩
    rw [pieces] at split
    obtain ⟨rfl, rfl⟩ := List.cons.inj split
    exact ⟨begins, each⟩
  · rintro ⟨begins, each⟩
    exact ⟨word, begins, words, each, (Blank.split_eq_cons_iff.mp pieces).1⟩

/-! ### What is accepted -/

open Line (isNameStart isNameCharacter isShortName isNumericOid isDescription)

theorem letter_eq : letter = one fun c => isNameStart c = true := by
  have same (c : Char) : (('A' ≤ c ∧ c ≤ 'Z') ∨ ('a' ≤ c ∧ c ≤ 'z')) ↔ isNameStart c = true := by
    have spelled : isNameStart c
        = (decide ('A' ≤ c ∧ c ≤ 'Z') || (decide ('a' ≤ c) && decide (c ≤ 'z'))) := rfl
    simp only [spelled, Bool.or_eq_true, Bool.and_eq_true, decide_eq_true_eq]
  simp only [letter, same]

theorem digit_eq : digit = one fun c => c.isDigit = true := by
  have same (c : Char) : ('0' ≤ c ∧ c ≤ '9') ↔ c.isDigit = true := by
    have spelled : c.isDigit = (decide ('0' ≤ c) && decide (c ≤ '9')) := rfl
    simp only [spelled, Bool.and_eq_true, decide_eq_true_eq]
  simp only [digit, same]

theorem keyCharacter_eq : keyCharacter = one fun c => isNameCharacter c = true := by
  have same (c : Char) :
      (isNameStart c = true ∨ c.isDigit = true) ∨ c = '-' ↔ isNameCharacter c = true := by
    have spelled : isNameCharacter c = ((isNameStart c || c.isDigit) || c == '-') := rfl
    rw [spelled, Bool.or_eq_true, Bool.or_eq_true, beq_iff_eq]
  simp only [keyCharacter, letter_eq, digit_eq, just, one_add_one, same]

theorem isShortName_iff : isShortName text = true ↔ text ∈ keyword := by
  rw [keyword, letter_eq, keyCharacter_eq, mem_one_mul]
  cases text with
  | nil => simp [isShortName]
  | cons first rest => simp [isShortName, mem_one_kstar]

theorem mem_number : text ∈ number ↔ (!text.isEmpty && text.all Char.isDigit) = true := by
  rw [number, digit_eq, mem_run]
  simp

theorem mem_option : text ∈ option ↔ (!text.isEmpty && text.all isNameCharacter) = true := by
  rw [option, keyCharacter_eq, mem_run]
  simp

theorem dot_not_mem (word : List Char) (member : word ∈ number) : '.' ∉ word := by
  intro inside
  rw [number, digit_eq, mem_run] at member
  exact absurd (member.2 '.' inside) (by decide)

theorem isNumericOid_iff : isNumericOid text = true ↔ text ∈ oid := by
  rcases pieces : Blank.split '.' text with _ | ⟨word, words⟩
  · exact absurd pieces (Blank.split_ne_nil '.' text)
  · rw [oid, mem_separated_iff_split dot_not_mem dot_not_mem pieces, isNumericOid, pieces,
      List.all_cons, Bool.and_eq_true, ← mem_number, List.all_eq_true]
    simp only [mem_number]

theorem semicolon_not_mem_option (word : List Char) (member : word ∈ option) : ';' ∉ word := by
  intro inside
  rw [option, keyCharacter_eq, mem_run] at member
  exact absurd (member.2 ';' inside) (by decide)

theorem semicolon_not_mem_type (word : List Char) (member : word ∈ keyword + oid) : ';' ∉ word := by
  intro inside
  rcases (Language.mem_add _ _ _).mp member with short | numeric
  · exact absurd (Line.of_isShortName (isShortName_iff.mpr short) inside) (by decide)
  · rcases Line.of_isNumericOid (isNumericOid_iff.mpr numeric) inside with found | found
    · exact absurd found (by decide)
    · exact absurd found (by decide)

/-- A name is accepted just when it is an attribute description. -/
theorem isDescription_iff {name : String} :
    isDescription name = true ↔ name.toList ∈ description := by
  rcases pieces : Blank.split ';' name.toList with _ | ⟨word, words⟩
  · exact absurd pieces (Blank.split_ne_nil ';' name.toList)
  · rw [description,
      mem_separated_iff_split semicolon_not_mem_type semicolon_not_mem_option pieces,
      isDescription, pieces]
    simp only [Bool.and_eq_true, Bool.or_eq_true, List.all_eq_true, Language.mem_add,
      isShortName_iff, isNumericOid_iff, mem_option]

end DirectoryInterchange.Block.Grammar
