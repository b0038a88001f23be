import Mathlib.Tactic.ByContra
import DirectoryInterchange.Block.Line
import DirectoryInterchange.Proofs.Text.Base64
import DirectoryInterchange.Proofs.Text.Blank
import DirectoryInterchange.Proofs.Text.Utf8
import DirectoryInterchange.Record.Rendering

/-!
A value as it is written behind a colon is read as that value.
-/

namespace DirectoryInterchange.Rendering

open Block (Line)

variable {value : Bytes}

/-! ### Plain values -/

theorem safe_of_plain (plain : needsBase64 value = false) :
    ∀ byte ∈ value, isUnsafeByte byte = false := by
  intro byte member
  cases value with
  | nil => cases member
  | cons first rest =>
      rw [needsBase64, Bool.or_eq_false_iff] at plain
      simpa using List.any_eq_false.mp plain.2 byte member

theorem ascii_of_safe {byte : UInt8} (safe : isUnsafeByte byte = false) :
    byte.toNat < 0x80 ∧ byte ≠ 0x0A ∧ byte ≠ 0x0D := by
  simp only [isUnsafeByte, Bool.or_eq_false_iff, decide_eq_false_iff_not,
    beq_eq_false_iff_ne] at safe
  obtain ⟨⟨⟨low, -⟩, feed⟩, carriage⟩ := safe
  exact ⟨Nat.lt_of_not_le low, feed, carriage⟩

theorem ascii_of_plain (plain : needsBase64 value = false) :
    ∀ byte ∈ value, byte.toNat < 0x80 :=
  fun byte member => (ascii_of_safe (safe_of_plain plain byte member)).1

theorem character_eq_iff
    {byte other : UInt8} (ascii : byte.toNat < 0x80) (ascii' : other.toNat < 0x80) :
    Utf8.character byte = Utf8.character other ↔ byte = other := by
  constructor
  · intro same
    have codes := congrArg Char.toNat same
    rw [Utf8.toNat_character ascii, Utf8.toNat_character ascii'] at codes
    exact UInt8.toNat_inj.mp codes
  · exact congrArg Utf8.character

/-- A plain value starts with no space and no marker. -/
theorem head_of_plain
    {first : UInt8} {rest : Bytes} (plain : needsBase64 (first :: rest) = false) :
    first ≠ 0x20 ∧ first ≠ 0x3A ∧ first ≠ 0x3C := by
  simp only [needsBase64, Bool.or_eq_false_iff, beq_eq_false_iff_ne] at plain
  exact ⟨plain.1.1.1.1, plain.1.1.1.2, plain.1.1.2⟩

theorem last_of_plain (nonempty : value ≠ []) (plain : needsBase64 value = false) :
    value.getLast? ≠ some 0x20 := by
  cases value with
  | nil => contradiction
  | cons first rest =>
      simp only [needsBase64, Bool.or_eq_false_iff, beq_eq_false_iff_ne] at plain
      exact plain.1.2

/-! ### The text behind the colon -/

/-- What is written behind the first colon. -/
def valueCharacters (value : Bytes) : List Char :=
  if needsBase64 value then ':' :: ' ' :: Base64.encodeCharacters value
  else ' ' :: value.map Utf8.character

theorem valueCharacters_ne_nil (value : Bytes) : valueCharacters value ≠ [] := by
  rw [valueCharacters]
  split <;> exact List.cons_ne_nil _ _

theorem toList_valuePart (value : Bytes) :
    (valuePart value).toList = ':' :: valueCharacters value := by
  cases form : needsBase64 value with
  | true =>
      simp only [valuePart, valueCharacters, form, if_true, String.toList_append, Base64.encode,
        String.toList_ofList]
      rfl
  | false =>
      have spelled := Utf8.decodeLossyCharacters_of_ascii (ascii_of_plain form)
      simp only [valuePart, valueCharacters, form, Bool.false_eq_true, if_false,
        String.toList_append, plain, Utf8.decodeLossy, String.toList_ofList, spelled]
      rfl

theorem plainValue_characters (plain : needsBase64 value = false) :
    Line.plainValue (' ' :: value.map Utf8.character) = value := by
  have ascii := ascii_of_plain plain
  have kept : ∀ c ∈ (value.map Utf8.character).head?, Blank.isSpace c = false := by
    cases value with
    | nil => exact fun c absent => by cases absent
    | cons first rest =>
        intro c same
        cases same
        have low := ascii first List.mem_cons_self
        rw [Blank.isSpace, beq_eq_false_iff_ne]
        intro space
        exact (head_of_plain plain).1 ((character_eq_iff low (by decide)).mp space)
  rw [Line.plainValue, Blank.trimStart_cons rfl kept, Utf8.encode_characters ascii]

theorem trim_encodeCharacters (value : Bytes) :
    Blank.trim Blank.isBlank (' ' :: Base64.encodeCharacters value)
      = Base64.encodeCharacters value := by
  have visible := fun c member => (@Base64.isPlain_of_mem value c member).1
  rw [Blank.trim, Blank.trimStart_cons rfl, Blank.trimEnd_of_last]
  · exact fun c last => visible c (List.mem_of_getLast? last)
  · exact fun c first => visible c (List.mem_of_head? first)

/-- The text behind the colon is read as the value. -/
theorem decodeValue_characters
    (files : Files) (limit : Nat) (name : String) (invalid : Record.Problem) (value : Bytes) :
    Line.decodeValue files limit name invalid (valueCharacters value) = .ok value := by
  cases form : needsBase64 value with
  | true =>
      rw [valueCharacters, if_pos form, Line.decodeValue, trim_encodeCharacters,
        Base64.decode?_encodeCharacters]
  | false =>
      rw [valueCharacters, if_neg (by simp [form])]
      exact congrArg Except.ok (plainValue_characters form)

/-! ### What does not occur in it -/

theorem character_ne
    {byte : UInt8} (safe : isUnsafeByte byte = false) :
    Utf8.character byte ≠ '\n' ∧ Utf8.character byte ≠ '\r' := by
  obtain ⟨ascii, feed, carriage⟩ := ascii_of_safe safe
  refine ⟨fun same => feed ?_, fun same => carriage ?_⟩
  · exact (character_eq_iff ascii (by decide)).mp same
  · exact (character_eq_iff ascii (by decide)).mp same

theorem lineEnd_not_mem_characters (value : Bytes) :
    ∀ c ∈ valueCharacters value, c ≠ '\n' ∧ c ≠ '\r' := by
  intro c member
  cases form : needsBase64 value with
  | true =>
      rw [valueCharacters, if_pos form] at member
      rcases List.mem_cons.mp member with rfl | member
      · decide
      rcases List.mem_cons.mp member with rfl | member
      · decide
      · have visible := (Base64.isPlain_of_mem c member).1
        refine ⟨?_, ?_⟩ <;> rintro rfl <;> cases visible
  | false =>
      rw [valueCharacters, if_neg (by simp [form])] at member
      rcases List.mem_cons.mp member with rfl | member
      · decide
      · obtain ⟨byte, inside, rfl⟩ := List.mem_map.mp member
        exact character_ne (safe_of_plain form byte inside)

theorem encodeCharacters_ne_nil {value : Bytes} (nonempty : value ≠ []) :
    Base64.encodeCharacters value ≠ [] := by
  fun_cases Base64.encodeCharacters value with
  | case1 => contradiction
  | case2 => exact List.cons_ne_nil _ _
  | case3 => exact List.cons_ne_nil _ _
  | case4 => exact List.cons_ne_nil _ _

/-- Only an empty value leaves a space at the end. -/
theorem last_of_characters (ends : (valueCharacters value).getLast? = some ' ') : value = [] := by
  by_contra nonempty
  cases form : needsBase64 value with
  | true =>
      obtain ⟨last, found⟩ := Option.isSome_iff_exists.mp
        (List.getLast?_isSome.mpr (encodeCharacters_ne_nil nonempty))
      rw [valueCharacters, if_pos form, List.getLast?_cons, List.getLast?_cons, found] at ends
      have space : last = ' ' := Option.some.inj ends
      have visible := (Base64.isPlain_of_mem last (List.mem_of_getLast? found)).1
      rw [space] at visible
      cases visible
  | false =>
      obtain ⟨last, found⟩ := Option.isSome_iff_exists.mp (List.getLast?_isSome.mpr nonempty)
      rw [valueCharacters, if_neg (by simp [form]), List.getLast?_cons, List.getLast?_map,
        found] at ends
      have space : Utf8.character last = Utf8.character 0x20 := Option.some.inj ends
      have ascii := ascii_of_plain form last (List.mem_of_getLast? found)
      rw [character_eq_iff ascii (by decide)] at space
      exact last_of_plain nonempty form (space ▸ found)

end DirectoryInterchange.Rendering
