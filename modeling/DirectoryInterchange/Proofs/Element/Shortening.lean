import Mathlib.Data.List.Induction
import DirectoryInterchange.Proofs.Element.Agreement
import DirectoryInterchange.Proofs.Element.Integer
import DirectoryInterchange.Proofs.Element.Nesting

/-!
What was read is written again in no more bytes.

Reading accepts length fields and integers that are longer than they need be.
Writing uses the shortest of each, so nothing grows on the way.
-/

namespace DirectoryInterchange

theorem Bytes.toNat_lt (bytes : Bytes) : toNat bytes < 256 ^ bytes.length := by
  induction bytes using List.reverseRecOn with
  | nil => exact Nat.one_pos
  | append_singleton bytes byte inductionHypothesis =>
      have low := UInt8.toNat_lt byte
      rw [toNat_concat, List.length_append, List.length_singleton, Nat.pow_succ]
      omega

namespace Element

/-! ### Length fields -/

namespace Length

theorem size_mono {length longer : Nat} (le : length ≤ longer) : size length ≤ size longer := by
  unfold size
  repeat' split
  all_goals omega

/-- A number of so many octets takes one byte more as a length. -/
theorem size_le_of_lt {length octets : Nat} (positive : 1 ≤ octets)
    (bounded : length < 256 ^ octets) : size length ≤ octets + 1 := by
  rcases octets with _ | _ | _ | _ | octets
  · omega
  all_goals
    unfold size
    repeat' split
    all_goals omega

theorem size_le_of_decode {bytes rest : Bytes} {length : Nat}
    (decoded : decode bytes = .ok (length, rest)) : size length + rest.length ≤ bytes.length := by
  cases bytes with
  | nil => cases decoded
  | cons first following =>
      simp only [decode] at decoded
      split at decoded
      · next short =>
          cases decoded
          have low : first.toNat < 128 := short
          rw [size, if_pos (by omega), List.length_cons]
          omega
      next long =>
      split at decoded
      · cases decoded
      next definite =>
      split at decoded
      · cases decoded
      next few =>
      split at decoded
      · cases decoded
      next complete =>
      split at decoded
      · cases decoded
      next small =>
      simp only [Except.ok.injEq, Prod.mk.injEq] at decoded
      obtain ⟨rfl, rfl⟩ := decoded
      have bounded := Bytes.toNat_lt (following.take (first.toNat - 0x80))
      rw [List.length_take, Nat.min_eq_left (by omega)] at bounded
      have shortest := size_le_of_lt (by omega) bounded
      rw [List.length_drop, List.length_cons]
      omega

theorem le_maximum_of_decode {bytes rest : Bytes} {length : Nat}
    (decoded : decode bytes = .ok (length, rest)) : length ≤ maximum := by
  cases bytes with
  | nil => cases decoded
  | cons first following =>
      simp only [decode] at decoded
      split at decoded
      · cases decoded
        have := UInt8.toNat_lt first
        rw [maximum]
        omega
      · repeat (split at decoded; · cases decoded)
        next small =>
        simp only [Except.ok.injEq, Prod.mk.injEq] at decoded
        exact decoded.1 ▸ Nat.le_of_not_lt small

end Length

/-! ### Elements -/

variable {bytes rest : Bytes} {element : Element}

theorem fits_of_decodeFirst (read : decodeFirst bytes = .ok (element, rest)) : element.Fits := by
  obtain ⟨following, -, decoded⟩ := decodeFirst_eq_ok.mp read
  exact Length.le_maximum_of_decode decoded

theorem encodedSize_le_of_decodeFirst (read : decodeFirst bytes = .ok (element, rest)) :
    element.encodedSize + rest.length ≤ bytes.length := by
  obtain ⟨following, rfl, decoded⟩ := decodeFirst_eq_ok.mp read
  have shortest := Length.size_le_of_decode decoded
  rw [List.length_append] at shortest
  rw [encodedSize, List.length_cons]
  omega

theorem length_encodeAll_le_of_decodeAll {elements : List Element}
    (read : decodeAll bytes = .ok elements) : (encodeAll elements).length ≤ bytes.length := by
  induction elements generalizing bytes with
  | nil => exact Nat.zero_le _
  | cons element elements inductionHypothesis =>
      rcases decodeAll_eq_ok.mp read with ⟨-, absent⟩ | ⟨_, rest, _, first, restRead, same⟩
      · cases absent
      · cases same
        have one := encodedSize_le_of_decodeFirst first
        have others := inductionHypothesis restRead
        rw [encodeAll_cons, List.length_append, length_encode]
        omega

/-- Whether one element is written in no more bytes than another. -/
def NoLongerThan (element other : Element) : Prop :=
  element.encodedSize ≤ other.encodedSize

/-- Only the content counts, since its length field grows along with it. -/
theorem NoLongerThan.of_value {element other : Element}
    (shorter : element.value.length ≤ other.value.length) : element.NoLongerThan other := by
  have fields := Length.size_mono shorter
  rw [NoLongerThan, encodedSize, encodedSize]
  omega

/-! ### Integers -/

/-- A number of 32 bits comes of at least as many bytes as it is written in. -/
theorem Integer.length_encode_le_of_decode {bytes : Bytes} {number : Int32}
    (decoded : decode bytes = .ok number) :
    (encode number.toInt64).length ≤ bytes.length := by
  obtain ⟨nonempty, -, same⟩ := decode_eq_ok.mp decoded
  rw [← Int32.toInt_toInt64] at same
  exact length_encode_le nonempty same

end Element

end DirectoryInterchange
