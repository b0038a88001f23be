/-!
Byte sequences, the numbers they spell in base 256, and their hexadecimal
text.  The most significant byte comes first.
-/

namespace DirectoryInterchange

abbrev Bytes := List UInt8

namespace Bytes

/-- The number whose base 256 digits are `bytes`. -/
def toNat (bytes : Bytes) : Nat :=
  bytes.foldl (fun number byte => number * 256 + byte.toNat) 0

/-- The lowest `width` base 256 digits of `number`. -/
def bigEndian : (width : Nat) → (number : Nat) → Bytes
  | 0, _ => []
  | width + 1, number => bigEndian width (number / 256) ++ [UInt8.ofNat number]

@[simp] theorem length_bigEndian (width number : Nat) :
    (bigEndian width number).length = width := by
  induction width generalizing number with
  | zero => rfl
  | succ width inductionHypothesis => simp [bigEndian, inductionHypothesis]

def hexDigit (digit : Nat) : Char :=
  if digit < 10 then Char.ofNat ('0'.toNat + digit)
  else Char.ofNat ('a'.toNat + (digit - 10))

/-- Two lower-case hexadecimal digits. -/
def hexByte (byte : UInt8) : String :=
  String.ofList [hexDigit (byte.toNat / 16), hexDigit (byte.toNat % 16)]

/-- Every byte in hexadecimal, with `separator` between neighbours. -/
def hex (separator : String) (bytes : Bytes) : String :=
  separator.intercalate (bytes.map hexByte)

end Bytes

end DirectoryInterchange
