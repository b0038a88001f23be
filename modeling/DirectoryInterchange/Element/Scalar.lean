import DirectoryInterchange.Element.Error
import DirectoryInterchange.Text.Utf8

/-!
The contents of elements that hold one value: truth values, integers in two's
complement, nothing at all, and text.
-/

namespace DirectoryInterchange.Element

namespace Boolean

def encode (value : Bool) : Bytes :=
  if value then [0xFF] else [0x00]

/-- Every byte but zero stands for true. -/
def decode : Bytes → Except Error Bool
  | [byte] => .ok (byte != 0)
  | bytes => .error (.invalidLength .boolean bytes.length)

@[simp] theorem decode_encode (value : Bool) : decode (encode value) = .ok value := by
  cases value <;> rfl

end Boolean

namespace Integer

/-- How many bytes a number of 64 bits is written in. -/
def width (word : Int64) : Nat :=
  if -0x80 ≤ word ∧ word ≤ 0x7F then 1
  else if -0x8000 ≤ word ∧ word ≤ 0x7FFF then 2
  else if -0x80_0000 ≤ word ∧ word ≤ 0x7F_FFFF then 3
  else if -0x8000_0000 ≤ word ∧ word ≤ 0x7FFF_FFFF then 4
  else if -0x80_0000_0000 ≤ word ∧ word ≤ 0x7F_FFFF_FFFF then 5
  else if -0x8000_0000_0000 ≤ word ∧ word ≤ 0x7FFF_FFFF_FFFF then 6
  else if -0x80_0000_0000_0000 ≤ word ∧ word ≤ 0x7F_FFFF_FFFF_FFFF then 7
  else 8

/-- The last bytes of a number of 64 bits, as many as it is written in. -/
def encode (word : Int64) : Bytes :=
  (Bytes.bigEndian 8 word.toUInt64.toNat).drop (8 - width word)

/-- What stands above the first byte: minus one when that byte has its high bit set. -/
def sign : Bytes → Int
  | [] => 0
  | first :: _ => if first < 0x80 then 0 else -1

/-- A register of 64 bits that starts with the sign and takes up byte after byte. -/
def register (bytes : Bytes) : Int64 :=
  bytes.foldl (fun word byte => word <<< 8 ||| Int64.ofNat byte.toNat) (Int64.ofInt (sign bytes))

/-- A number of at most `limit` bytes, and of at least one. -/
def decodeWithin (form : Form) (limit : Nat) (bytes : Bytes) : Except Error Int64 :=
  if bytes.isEmpty || limit < bytes.length then .error (.invalidLength form bytes.length)
  else .ok (register bytes)

/-- A number of 32 bits. -/
def decode (bytes : Bytes) : Except Error Int32 :=
  (decodeWithin .integer 4 bytes).map Int64.toInt32

/-- A number of 64 bits. -/
def decodeLong (bytes : Bytes) : Except Error Int64 :=
  decodeWithin .long 8 bytes

end Integer

namespace Null

def decode (bytes : Bytes) : Except Error Unit :=
  if bytes.isEmpty then .ok () else .error (.invalidLength .null bytes.length)

end Null

namespace Text

def decode (bytes : Bytes) : Except Error String :=
  match Utf8.decode? bytes with
  | some text => .ok text
  | none => .error .invalidUtf8

end Text

end DirectoryInterchange.Element
