import Mathlib.Algebra.Group.Nat.Defs
import DirectoryInterchange.Element.Basic
import DirectoryInterchange.Proofs.Text.Utf8

/-!
What is written as an element is read as that element.

The only bound is the largest length that a field may hold; whatever follows
an element is left as it is.
-/

namespace DirectoryInterchange

/-! ### Numbers in base 256 -/

namespace Bytes

theorem toNat_concat (bytes : Bytes) (byte : UInt8) :
    toNat (bytes ++ [byte]) = toNat bytes * 256 + byte.toNat := by
  simp [toNat]

theorem toNat_bigEndian {width number : Nat} (fits : number < 256 ^ width) :
    toNat (bigEndian width number) = number := by
  induction width generalizing number with
  | zero =>
      have : number = 0 := by simpa using fits
      rw [this]
      rfl
  | succ width inductionHypothesis =>
      have high : number / 256 < 256 ^ width := by
        rw [Nat.div_lt_iff_lt_mul (by decide), ← Nat.pow_succ]
        exact fits
      rw [bigEndian, toNat_concat, inductionHypothesis high, UInt8.toNat_ofNat']
      omega

end Bytes

namespace Element

/-! ### Length fields -/

namespace Length

theorem decode_short {length : Nat} (short : length ≤ 0x7F) (rest : Bytes) :
    decode (encode length ++ rest) = .ok (length, rest) := by
  have byte : (UInt8.ofNat length).toNat = length := by
    rw [UInt8.toNat_ofNat']
    omega
  have low : UInt8.ofNat length < 0x80 := by
    rw [UInt8.lt_iff_toNat_lt, byte]
    show length < 128
    omega
  simp only [encode, if_pos short, List.cons_append, List.nil_append, decode, if_pos low, byte]

/-- A length beyond one byte takes the octets that its number needs. -/
theorem size_of_long {length : Nat} (long : ¬length ≤ 0x7F) (fits : length ≤ maximum) :
    1 ≤ size length - 1 ∧ size length - 1 ≤ 4 ∧ length < 256 ^ (size length - 1) := by
  unfold size
  rw [if_neg long]
  split
  · next one => exact ⟨by decide, by decide, Nat.lt_of_le_of_lt one (by decide)⟩
  split
  · next two => exact ⟨by decide, by decide, Nat.lt_of_le_of_lt two (by decide)⟩
  split
  · next three => exact ⟨by decide, by decide, Nat.lt_of_le_of_lt three (by decide)⟩
  · exact ⟨by decide, by decide, Nat.lt_of_le_of_lt fits (by decide)⟩

theorem decode_long {length : Nat} (long : ¬length ≤ 0x7F) (fits : length ≤ maximum)
    (rest : Bytes) : decode (encode length ++ rest) = .ok (length, rest) := by
  obtain ⟨some_octets, few_octets, bounded⟩ := size_of_long long fits
  generalize octets_eq : size length - 1 = octets at *
  have first : (UInt8.ofNat (0x80 + octets)).toNat = 0x80 + octets := by
    rw [UInt8.toNat_ofNat']
    omega
  have high : ¬UInt8.ofNat (0x80 + octets) < 0x80 := by
    rw [UInt8.lt_iff_toNat_lt, first]
    show ¬0x80 + octets < 128
    omega
  have spelled := Bytes.length_bigEndian octets length
  rw [encode, if_neg long, octets_eq, List.cons_append, decode]
  simp only [first, Nat.add_sub_cancel_left]
  rw [if_neg high, if_neg (by omega), if_neg (by omega), if_neg (by simp [spelled]),
    List.take_left' spelled, Bytes.toNat_bigEndian bounded, if_neg (by omega),
    List.drop_left' spelled]

theorem decode_encode {length : Nat} (fits : length ≤ maximum) (rest : Bytes) :
    decode (encode length ++ rest) = .ok (length, rest) := by
  by_cases short : length ≤ 0x7F
  · exact decode_short short rest
  · exact decode_long short fits rest

end Length

/-! ### Elements -/

/-- Whether a length field can hold the length of the content. -/
def Fits (element : Element) : Prop :=
  element.value.length ≤ Length.maximum

theorem decodeFirst_encode {element : Element} (fits : element.Fits) (rest : Bytes) :
    decodeFirst (element.encode ++ rest) = .ok (element, rest) := by
  rw [encode, List.cons_append, List.append_assoc, decodeFirst, Length.decode_encode fits]
  simp

theorem decode_encode {element : Element} (fits : element.Fits) :
    decode element.encode = .ok element := by
  have first := decodeFirst_encode fits []
  rw [List.append_nil] at first
  rw [decode, first]
  rfl

@[simp] theorem encodeAll_nil : encodeAll [] = [] := rfl

@[simp] theorem encodeAll_cons (element : Element) (elements : List Element) :
    encodeAll (element :: elements) = element.encode ++ encodeAll elements := rfl

@[simp] theorem encodeAll_append (first second : List Element) :
    encodeAll (first ++ second) = encodeAll first ++ encodeAll second := by
  simp [encodeAll]

@[simp] theorem decodeAll_nil : decodeAll [] = .ok [] := by
  rw [decodeAll]
  rfl

theorem decodeAll_of_decodeFirst {bytes rest : Bytes} {element : Element}
    (first : decodeFirst bytes = .ok (element, rest)) :
    decodeAll bytes = (decodeAll rest).map (element :: ·) := by
  have nonempty : ¬bytes.isEmpty := by
    cases bytes with
    | nil => cases first
    | cons byte bytes => simp
  rw [decodeAll, if_neg nonempty]
  split
  · next error failed => rw [first] at failed; cases failed
  · next other left read =>
      rw [first] at read
      cases read
      cases decodeAll rest <;> rfl

theorem decodeAll_encodeAll {elements : List Element} (fit : ∀ element ∈ elements, element.Fits) :
    decodeAll (encodeAll elements) = .ok elements := by
  induction elements with
  | nil => exact decodeAll_nil
  | cons element elements inductionHypothesis =>
      have first := decodeFirst_encode (fit element List.mem_cons_self) (encodeAll elements)
      have others := inductionHypothesis fun other member =>
        fit other (List.mem_cons_of_mem _ member)
      rw [encodeAll_cons, decodeAll_of_decodeFirst first, others]
      rfl

end Element

end DirectoryInterchange
