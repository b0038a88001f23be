import DirectoryInterchange.Proofs.Element.Framing
import DirectoryInterchange.Proofs.Element.Remembering

/-!
Length fields at a position.

A length is read where one of its fields stands, whatever is in front of the
field and behind it.  The field that is written is the shortest one, and any
beginning of it lacks bytes.
-/

namespace DirectoryInterchange.Element.Length

variable {data field : Bytes} {position length next : Nat}

theorem length_of_spells (spells : Spells field length) :
    1 ≤ field.length ∧ field.length ≤ 5 := by
  cases spells with
  | short low =>
      rw [List.length_singleton]
      exact ⟨Nat.le_refl 1, by decide⟩
  | long some_octets few bounded =>
      rw [List.length_cons]
      omega

theorem le_maximum_of_spells (spells : Spells field length) : length ≤ maximum :=
  le_maximum_of_decode (decode_of_spells spells [])

/-- A length is read at a position when one of its fields stands there. -/
theorem decodeAt_eq_ok :
    decodeAt data position = .ok (length, next) ↔
      ∃ front field rest, data = front ++ (field ++ rest) ∧ front.length = position ∧
        Spells field length ∧ next = position + field.length := by
  constructor
  · intro read
    obtain ⟨⟨found, rest⟩, decoded, same⟩ := map_eq_ok.mp read
    cases same
    obtain ⟨field, spells, behind⟩ := decode_eq_ok.mp decoded
    have some_bytes := (length_of_spells spells).1
    have counted := congrArg List.length behind
    rw [List.length_drop, List.length_append] at counted
    refine ⟨data.take position, field, rest, ?_, ?_, spells, ?_⟩
    · rw [← behind, List.take_append_drop]
    · rw [List.length_take, Nat.min_eq_left (by omega)]
    · omega
  · rintro ⟨front, field, rest, rfl, rfl, spells, rfl⟩
    rw [decodeAt, List.drop_left, decode_of_spells spells rest]
    simp only [Except.map, List.length_append]
    congr 2
    omega

/-- Only the bytes of the field count. -/
theorem decodeAt_of_same {other : Bytes} (read : decodeAt data position = .ok (length, next))
    (same : (other.drop position).take (next - position)
      = (data.drop position).take (next - position)) :
    decodeAt other position = .ok (length, next) := by
  obtain ⟨front, field, rest, rfl, rfl, spells, rfl⟩ := decodeAt_eq_ok.mp read
  rw [Nat.add_sub_cancel_left, List.drop_left, List.take_left] at same
  have behind := List.take_append_drop field.length (other.drop front.length)
  have counted := congrArg List.length same
  have some_bytes := (length_of_spells spells).1
  rw [List.length_take, List.length_drop] at counted
  refine decodeAt_eq_ok.mpr ⟨other.take front.length, field,
    (other.drop front.length).drop field.length, ?_, ?_, spells, rfl⟩
  · rw [same] at behind
    rw [behind, List.take_append_drop]
  · rw [List.length_take, Nat.min_eq_left (by omega)]

/-- A field that breaks off lacks bytes: nothing that it holds is refused before. -/
theorem truncated_of_spells (spells : Spells field length) {part : Bytes} (begins : part <+: field)
    (proper : part ≠ field) (front : Bytes) :
    ∃ needed available,
      decodeAt (front ++ part) front.length = .error (.truncated needed available) := by
  obtain ⟨more, rfl⟩ := begins
  have whole := decode_of_spells spells []
  rw [List.append_nil] at whole
  rw [decodeAt, List.drop_left]
  cases decoded : decode part with
  | ok found =>
      obtain ⟨other, rest⟩ := found
      rw [decode_append decoded more] at whole
      have nothing : rest ++ more = [] := (Prod.mk.inj (Except.ok.inj whole)).2
      rw [(List.append_eq_nil_iff.mp nothing).2, List.append_nil] at proper
      contradiction
  | error error =>
      rcases hopeless_or_truncated decoded with hopeless | ⟨needed, available, rfl⟩
      · rw [decode_append_of_hopeless hopeless decoded more] at whole
        cases whole
      · exact ⟨needed, available, rfl⟩

/-- Lengths are coded exactly.  What is written for a length is read as that length at
any position, as is nothing shorter, and any beginning of it lacks bytes.  Where a length
is read, it is one that may be written, and it is read from up to five bytes that are
there, whatever the other bytes are. -/
theorem coded_anywhere :
    (∀ length ≤ maximum, ∃ field, encodeChecked length = .ok field ∧
      (∀ front rest, decodeAt (front ++ (field ++ rest)) front.length =
        .ok (length, front.length + size length)) ∧
      (∀ bytes next, decodeAt bytes 0 = .ok (length, next) → field.length ≤ bytes.length) ∧
      ∀ front part, part <+: field → part ≠ field → ∃ needed available,
        decodeAt (front ++ part) front.length = .error (.truncated needed available)) ∧
    ∀ data position length next, decodeAt data position = .ok (length, next) →
      length ≤ maximum ∧ next ≤ data.length ∧ position + 1 ≤ next ∧ next ≤ position + 5 ∧
      ∀ other : Bytes,
        (other.drop position).take (next - position)
          = (data.drop position).take (next - position) →
        decodeAt other position = .ok (length, next) := by
  constructor
  · intro length fits
    have spells := spells_encode fits
    refine ⟨encode length, if_pos fits, fun front rest => ?_, fun bytes next read => ?_,
      fun front part begins proper => truncated_of_spells spells begins proper front⟩
    · rw [← length_encode]
      exact decodeAt_eq_ok.mpr ⟨front, encode length, rest, rfl, rfl, spells, rfl⟩
    · obtain ⟨front, field, rest, rfl, -, other_spells, -⟩ := decodeAt_eq_ok.mp read
      have shortest := size_le_of_spells other_spells
      rw [length_encode, List.length_append, List.length_append]
      omega
  · intro data position length next read
    obtain ⟨front, field, rest, whole, here, spells, behind⟩ := decodeAt_eq_ok.mp read
    have bounds := length_of_spells spells
    have counted := congrArg List.length whole
    rw [List.length_append, List.length_append] at counted
    exact ⟨le_maximum_of_spells spells, by omega, by omega, by omega,
      fun other same => decodeAt_of_same read same⟩

/-- A field of three bytes among others, at its beginning, and among different bytes. -/
theorem coded_anywhere_threeBytes :
    300 ≤ maximum ∧ encodeChecked 300 = .ok [0x82, 0x01, 0x2C] ∧
      decodeAt [0xAA, 0x82, 0x01, 0x2C, 0xBB] 1 = .ok (300, 4) ∧
      (∃ needed available, decodeAt [0xAA, 0x82, 0x01] 1 = .error (.truncated needed available)) ∧
      (∀ bytes next, decodeAt bytes 0 = .ok (300, next) → 3 ≤ bytes.length) ∧
      decodeAt [0x80, 0x82, 0x01, 0x2C] 1 = .ok (300, 4) := by
  obtain ⟨written, read⟩ := coded_anywhere
  have small : 300 ≤ maximum := by decide
  have spelled : encodeChecked 300 = .ok [0x82, 0x01, 0x2C] := by decide
  obtain ⟨field, found, whole, least, broken⟩ := written 300 small
  cases spelled.symm.trans found
  have there : decodeAt [0xAA, 0x82, 0x01, 0x2C, 0xBB] 1 = .ok (300, 4) := whole [0xAA] [0xBB]
  obtain ⟨-, -, -, -, same⟩ := read _ _ _ _ there
  exact ⟨small, spelled, there, broken [0xAA] [0x82, 0x01] (by decide) (by decide), least,
    same [0x80, 0x82, 0x01, 0x2C] rfl⟩

end DirectoryInterchange.Element.Length
