import DirectoryInterchange.Bytes

/-!
What can be wrong with encoded elements, and how each problem is worded.
-/

namespace DirectoryInterchange.Element

/-- The forms of value whose length is prescribed. -/
inductive Form
  | boolean
  | integer
  | long
  | null
  | sequence
  deriving DecidableEq, Repr

namespace Form

def name : Form → String
  | boolean => "boolean"
  | integer => "integer"
  | long => "long"
  | null => "null"
  | sequence => "sequence"

/-- The lengths that the form allows. -/
def expected : Form → String
  | boolean => "exactly 1 byte"
  | integer => "1 to 4 bytes"
  | long => "1 to 8 bytes"
  | null => "0 bytes"
  | sequence => "a fixed number of elements"

end Form

inductive Error
  /-- A length that spells its own length with more than four octets. -/
  | lengthTooLong (octets : Nat)
  | indefiniteLength
  | lengthTooLarge (length maximum : Nat)
  | truncated (needed available : Nat)
  | lengthExceedsAvailable (declared available : Nat)
  | trailingData (extra : Nat)
  | invalidLength (form : Form) (actual : Nat)
  | readPastEnd (expectedEnd position : Nat)
  | nestingTooDeep (maximum : Nat)
  | elementTooLarge (length maximum : Nat)
  | unexpectedTag (expected actual : UInt8)
  | invalidUtf8
  | unreadable (reason : String)
  deriving DecidableEq, Repr

namespace Error

def message : Error → String
  | lengthTooLong octets =>
      s!"length uses {octets} length bytes, at most 4 are supported"
  | indefiniteLength => "indefinite length encoding is not supported"
  | lengthTooLarge length maximum =>
      s!"declared length {length} exceeds the maximum of {maximum}"
  | truncated needed available =>
      s!"truncated element: needed {needed} bytes, {available} available"
  | lengthExceedsAvailable declared available =>
      s!"declared length {declared} exceeds the {available} bytes available in the enclosing element"
  | trailingData extra => s!"{extra} unexpected bytes after the end of the element"
  | invalidLength form actual =>
      s!"invalid {form.name} value length {actual} (expected {form.expected})"
  | readPastEnd expectedEnd position =>
      s!"read past the end of a container: expected end at offset {expectedEnd}, now at {position}"
  | nestingTooDeep maximum => s!"containers nested deeper than {maximum} levels"
  | elementTooLarge length maximum =>
      s!"element of {length} bytes exceeds the configured maximum of {maximum}"
  | unexpectedTag expected actual =>
      s!"unexpected tag 0x{Bytes.hexByte actual} (expected 0x{Bytes.hexByte expected})"
  | invalidUtf8 => "octet string value is not valid UTF-8"
  | unreadable reason => s!"I/O error while reading BER data: {reason}"

end Error

end DirectoryInterchange.Element
