import Mathlib.Data.List.Forall2
import DirectoryInterchange.Proofs.Element.Nesting

/-!
Bytes that are elements in a row.

An element is spelled by a tag, a length field and its content.  Bytes can be
split into elements just when they are such spellings one after another, and
there is at most one way to do it.
-/

namespace DirectoryInterchange.Element

/-! ### Length fields -/

/-- The fields that spell a length: one byte, or the number of its octets and
the octets, which may start with zeros. -/
inductive Length.Spells : Bytes → Nat → Prop
  | short {length : Nat} (low : length < 0x80) : Spells [UInt8.ofNat length] length
  | long {octets : Bytes} (some_octets : 1 ≤ octets.length) (few : octets.length ≤ 4)
      (bounded : Bytes.toNat octets ≤ maximum) :
      Spells (UInt8.ofNat (0x80 + octets.length) :: octets) (Bytes.toNat octets)

theorem Length.decode_of_spells {field : Bytes} {length : Nat} (spells : Spells field length)
    (rest : Bytes) : decode (field ++ rest) = .ok (length, rest) := by
  cases spells with
  | short low =>
      have byte : (UInt8.ofNat length).toNat = length := by
        rw [UInt8.toNat_ofNat']
        omega
      have small : UInt8.ofNat length < 0x80 := by
        rw [UInt8.lt_iff_toNat_lt, byte]
        exact low
      simp only [List.singleton_append, decode, if_pos small, byte]
  | @long octets some_octets few bounded =>
      have first : (UInt8.ofNat (0x80 + octets.length)).toNat = 0x80 + octets.length := by
        rw [UInt8.toNat_ofNat']
        omega
      have high : ¬UInt8.ofNat (0x80 + octets.length) < 0x80 := by
        rw [UInt8.lt_iff_toNat_lt, first]
        exact Nat.not_lt.mpr (Nat.le_add_right _ _)
      simp only [List.cons_append, decode, first, Nat.add_sub_cancel_left]
      rw [if_neg high, if_neg (by omega), if_neg (by omega), if_neg (by simp), List.take_left,
        if_neg (Nat.not_lt.mpr bounded), List.drop_left]

/-- A length is read when one of its fields comes first. -/
theorem Length.decode_eq_ok {bytes rest : Bytes} {length : Nat} :
    decode bytes = .ok (length, rest) ↔ ∃ field, Spells field length ∧ bytes = field ++ rest := by
  constructor
  · intro decoded
    cases bytes with
    | nil => cases decoded
    | cons first following =>
        simp only [decode] at decoded
        split at decoded
        · next low =>
            cases decoded
            refine ⟨[UInt8.ofNat first.toNat], .short low, ?_⟩
            rw [UInt8.ofNat_toNat, List.singleton_append]
        next high =>
        split at decoded
        · cases decoded
        next definite =>
        split at decoded
        · cases decoded
        next few =>
        split at decoded
        · cases decoded
        next complete =>
        split at decoded
        · cases decoded
        next bounded =>
        simp only [Except.ok.injEq, Prod.mk.injEq] at decoded
        obtain ⟨rfl, rfl⟩ := decoded
        have count : (following.take (first.toNat - 0x80)).length = first.toNat - 0x80 := by
          rw [List.length_take, Nat.min_eq_left (Nat.le_of_not_lt complete)]
        have announced :
            UInt8.ofNat (0x80 + (following.take (first.toNat - 0x80)).length) = first := by
          have large : 0x80 ≤ first.toNat := Nat.le_of_not_lt high
          rw [count, Nat.add_sub_cancel' large, UInt8.ofNat_toNat]
        refine ⟨_, .long (by omega) (by omega) (Nat.le_of_not_lt bounded), ?_⟩
        rw [announced, List.cons_append, List.take_append_drop]
  · rintro ⟨field, spells, rfl⟩
    exact decode_of_spells spells rest

/-! ### Elements -/

/-- The bytes that spell an element. -/
def Spells (piece : Bytes) (element : Element) : Prop :=
  ∃ field, Length.Spells field element.value.length ∧
    piece = element.tag :: (field ++ element.value)

/-- An element is read when bytes that spell it come first. -/
theorem decodeFirst_eq_ok_iff_spells {bytes rest : Bytes} {element : Element} :
    decodeFirst bytes = .ok (element, rest) ↔
      ∃ piece, Spells piece element ∧ bytes = piece ++ rest := by
  rw [decodeFirst_eq_ok]
  constructor
  · rintro ⟨following, rfl, decoded⟩
    obtain ⟨field, spells, rfl⟩ := Length.decode_eq_ok.mp decoded
    exact ⟨_, ⟨field, spells, rfl⟩, by simp⟩
  · rintro ⟨piece, ⟨field, spells, rfl⟩, rfl⟩
    refine ⟨field ++ (element.value ++ rest), by simp, ?_⟩
    exact Length.decode_of_spells spells _

/-- Bytes are split into the elements that they spell one after another. -/
theorem decodeAll_eq_ok_iff_spells {bytes : Bytes} {elements : List Element} :
    decodeAll bytes = .ok elements ↔
      ∃ pieces, List.Forall₂ Spells pieces elements ∧ bytes = pieces.flatten := by
  induction elements generalizing bytes with
  | nil =>
      rw [decodeAll_eq_ok]
      constructor
      · rintro (⟨rfl, -⟩ | ⟨_, _, _, _, _, absent⟩)
        · exact ⟨[], .nil, rfl⟩
        · cases absent
      · rintro ⟨pieces, spelled, rfl⟩
        cases spelled
        exact .inl ⟨rfl, rfl⟩
  | cons element elements inductionHypothesis =>
      rw [decodeAll_eq_ok]
      constructor
      · rintro (⟨-, absent⟩ | ⟨_, rest, _, first, restRead, same⟩)
        · cases absent
        · cases same
          obtain ⟨piece, spells, rfl⟩ := decodeFirst_eq_ok_iff_spells.mp first
          obtain ⟨pieces, spelled, rfl⟩ := inductionHypothesis.mp restRead
          exact ⟨piece :: pieces, .cons spells spelled, rfl⟩
      · rintro ⟨pieces, spelled, rfl⟩
        cases spelled with
        | @cons piece _ pieces _ spells spelled =>
            refine .inr ⟨element, pieces.flatten, elements, ?_, ?_, rfl⟩
            · exact decodeFirst_eq_ok_iff_spells.mpr ⟨piece, spells, rfl⟩
            · exact inductionHypothesis.mpr ⟨pieces, spelled, rfl⟩

/-- Spellings in a row can be told apart in one way only. -/
theorem spellings_unique {pieces others : List Bytes} {elements otherElements : List Element}
    (spelled : List.Forall₂ Spells pieces elements)
    (otherSpelled : List.Forall₂ Spells others otherElements)
    (same : pieces.flatten = others.flatten) : pieces = others ∧ elements = otherElements := by
  have read := decodeAll_eq_ok_iff_spells.mpr ⟨pieces, spelled, rfl⟩
  have otherRead := decodeAll_eq_ok_iff_spells.mpr ⟨others, otherSpelled, rfl⟩
  rw [same, otherRead] at read
  obtain rfl := Except.ok.inj read
  clear read otherRead
  refine ⟨?_, rfl⟩
  -- Along the elements: the first of them decides where the first piece ends.
  induction spelled generalizing others with
  | nil =>
      cases otherSpelled
      rfl
  | @cons piece element pieces elements spells _ inductionHypothesis =>
      cases otherSpelled with
      | @cons other _ others _ otherSpells otherSpelled =>
          rw [List.flatten_cons, List.flatten_cons] at same
          have read := decodeFirst_eq_ok_iff_spells.mpr ⟨piece, spells, same.symm⟩
          have otherRead : decodeFirst (other ++ others.flatten) = .ok (element, others.flatten) :=
            decodeFirst_eq_ok_iff_spells.mpr ⟨other, otherSpells, rfl⟩
          rw [otherRead] at read
          have rest : others.flatten = pieces.flatten := (Prod.mk.inj (Except.ok.inj read)).2
          rw [rest] at same
          rw [List.append_cancel_right same, inductionHypothesis otherSpelled rest.symm]

/-- What follows elements is split on its own. -/
theorem decodeAll_append {front : Bytes} {elements : List Element}
    (read : decodeAll front = .ok elements) (behind : Bytes) :
    decodeAll (front ++ behind) = (decodeAll behind).map (elements ++ ·) := by
  induction elements generalizing front with
  | nil =>
      rcases decodeAll_eq_ok.mp read with ⟨rfl, -⟩ | ⟨_, _, _, _, _, absent⟩
      · rw [List.nil_append]
        cases decodeAll behind <;> rfl
      · cases absent
  | cons element elements inductionHypothesis =>
      rcases decodeAll_eq_ok.mp read with ⟨-, absent⟩ | ⟨_, rest, _, first, restRead, same⟩
      · cases absent
      · cases same
        obtain ⟨piece, spells, rfl⟩ := decodeFirst_eq_ok_iff_spells.mp first
        have whole : decodeFirst (piece ++ rest ++ behind) = .ok (element, rest ++ behind) :=
          decodeFirst_eq_ok_iff_spells.mpr ⟨piece, spells, List.append_assoc ..⟩
        rw [decodeAll_of_decodeFirst whole, inductionHypothesis restRead]
        cases decodeAll behind <;> rfl

/-- Contents are split unambiguously: exactly the spellings in a row are accepted,
each in one way only; elements can be read off the front of any bytes without a
change behind them; and what was written is split as it was put together. -/
theorem splits_unambiguously :
    (∀ bytes elements, decodeAll bytes = .ok elements ↔
      ∃ pieces, List.Forall₂ Spells pieces elements ∧ bytes = pieces.flatten) ∧
    (∀ pieces elements others otherElements, List.Forall₂ Spells pieces elements →
      List.Forall₂ Spells others otherElements → pieces.flatten = others.flatten →
        pieces = others ∧ elements = otherElements) ∧
    (∀ front elements, decodeAll front = .ok elements → ∀ behind,
      decodeAll (front ++ behind) = (decodeAll behind).map (elements ++ ·)) ∧
    (∀ elements, (∀ element ∈ elements, element.Fits) →
      decodeAll (encodeAll elements) = .ok elements) :=
  ⟨fun _ _ => decodeAll_eq_ok_iff_spells, fun _ _ _ _ => spellings_unique,
    fun _ _ => decodeAll_append, fun _ => decodeAll_encodeAll⟩

/-- Two elements, the first with a length field that is longer than it need be,
alone and with a broken element behind them. -/
theorem splits_unambiguously_padded :
    List.Forall₂ Spells [[0x04, 0x82, 0x00, 0x01, 0x61], [0x05, 0x00]] [⟨0x04, [0x61]⟩, null] ∧
      decodeAll [0x04, 0x82, 0x00, 0x01, 0x61, 0x05, 0x00] = .ok [⟨0x04, [0x61]⟩, null] ∧
      decodeAll ([0x04, 0x82, 0x00, 0x01, 0x61, 0x05, 0x00] ++ [0x30, 0x02, 0x05]) =
        .error (.lengthExceedsAvailable 2 1) ∧
      decodeAll (encodeAll [⟨0x04, [0x61]⟩, null]) = .ok [⟨0x04, [0x61]⟩, null] := by
  obtain ⟨accepted, _, appended, written⟩ := splits_unambiguously
  have padded : Length.Spells [0x82, 0x00, 0x01] 1 :=
    @Length.Spells.long [0x00, 0x01] (by decide) (by decide) (by decide)
  have empty : Length.Spells [0x00] 0 := .short (by decide)
  have spelled : List.Forall₂ Spells [[0x04, 0x82, 0x00, 0x01, 0x61], [0x05, 0x00]]
      [⟨0x04, [0x61]⟩, null] := .cons ⟨_, padded, rfl⟩ (.cons ⟨_, empty, rfl⟩ .nil)
  have read : decodeAll [0x04, 0x82, 0x00, 0x01, 0x61, 0x05, 0x00] = .ok [⟨0x04, [0x61]⟩, null] :=
    (accepted _ _).mpr ⟨_, spelled, rfl⟩
  have broken : decodeAll [0x30, 0x02, 0x05] = .error (.lengthExceedsAvailable 2 1) := by
    decide +kernel
  refine ⟨spelled, read, ?_, written _ (by unfold Fits; decide)⟩
  rw [appended _ _ read, broken]
  rfl

end DirectoryInterchange.Element
