import DirectoryInterchange.Element.Error

/-!
The length field of an element.

A length up to 127 is one byte.  A longer one is written as the number of its
octets, with the high bit set, followed by the octets.  Writing uses as few
octets as possible; reading accepts up to four of them, minimal or not.
-/

namespace DirectoryInterchange.Element.Length

/-- The largest length that is written or accepted. -/
def maximum : Nat := 2147483647

/-- How many bytes a written length takes. -/
def size (length : Nat) : Nat :=
  if length ≤ 0x7F then 1
  else if length ≤ 0xFF then 2
  else if length ≤ 0xFFFF then 3
  else if length ≤ 0xFFFFFF then 4
  else 5

theorem size_pos (length : Nat) : 0 < size length := by
  unfold size
  repeat' split
  all_goals decide

/-- The shortest field for a length up to `maximum`. -/
def encode (length : Nat) : Bytes :=
  if length ≤ 0x7F then [UInt8.ofNat length]
  else UInt8.ofNat (0x80 + (size length - 1)) :: Bytes.bigEndian (size length - 1) length

@[simp] theorem length_encode (length : Nat) : (encode length).length = size length := by
  unfold encode
  split
  · next short => simp [size, short]
  · have := size_pos length
    simp
    omega

/-- A length that no field may hold. -/
structure Overflow where
  length : Nat
  deriving DecidableEq, Repr

def Overflow.message (overflow : Overflow) : String :=
  s!"BER length {overflow.length} exceeds the supported maximum"

/-- The field for any number, which is refused above `maximum`. -/
def encodeChecked (length : Nat) : Except Overflow Bytes :=
  if length ≤ maximum then .ok (encode length) else .error ⟨length⟩

/-- Reads a length field and returns the length with the bytes behind it. -/
def decode : Bytes → Except Error (Nat × Bytes)
  | [] => .error (.truncated 1 0)
  | first :: rest =>
      let octets := first.toNat - 0x80
      if first < 0x80 then .ok (first.toNat, rest)
      else if octets = 0 then .error .indefiniteLength
      else if 4 < octets then .error (.lengthTooLong octets)
      else if rest.length < octets then .error (.truncated octets rest.length)
      else
        let length := Bytes.toNat (rest.take octets)
        if maximum < length then .error (.lengthTooLarge length maximum)
        else .ok (length, rest.drop octets)

theorem length_rest_lt_of_decode {bytes rest : Bytes} {length : Nat}
    (decoded : decode bytes = .ok (length, rest)) : rest.length < bytes.length := by
  cases bytes with
  | nil => simp [decode] at decoded
  | cons first following =>
      simp only [decode] at decoded
      split at decoded
      · simp only [Except.ok.injEq, Prod.mk.injEq] at decoded
        simp [← decoded.2]
      · repeat (split at decoded; · simp at decoded)
        simp only [Except.ok.injEq, Prod.mk.injEq] at decoded
        simp only [← decoded.2, List.length_drop, List.length_cons]
        omega

/-- Reads the length field at `position` and returns the length with the
position of the first byte behind the field. -/
def decodeAt (data : Bytes) (position : Nat) : Except Error (Nat × Nat) :=
  (decode (data.drop position)).map fun (length, rest) =>
    (length, data.length - rest.length)

end DirectoryInterchange.Element.Length
