import DirectoryInterchange.Element.Basic

/-!
A buffer to which elements are appended one after another.

A container is opened by its tag alone.  Its length becomes known when it is
closed and is then inserted in front of what was written since; the buffer
keeps the start of every open container, innermost first.
-/

namespace DirectoryInterchange.Element

structure Buffer where
  bytes : Bytes := []
  /-- Where the content of each open container starts. -/
  openings : List Nat := []
  deriving DecidableEq, Repr

namespace Buffer

def empty : Buffer := {}

/-- Takes back everything that was written. -/
def clear (buffer : Buffer) : Buffer :=
  { buffer with bytes := [] }

def append (buffer : Buffer) (bytes : Bytes) : Buffer :=
  { buffer with bytes := buffer.bytes ++ bytes }

def octets (buffer : Buffer) (tag : UInt8) (value : Bytes) : Buffer :=
  buffer.append (tag :: (Length.encode value.length ++ value))

def boolean (buffer : Buffer) (tag : UInt8) (value : Bool) : Buffer :=
  buffer.octets tag (Boolean.encode value)

def integer (buffer : Buffer) (tag : UInt8) (value : Int64) : Buffer :=
  buffer.octets tag (Integer.encode value)

def null (buffer : Buffer) (tag : UInt8) : Buffer :=
  buffer.append [tag, 0]

def text (buffer : Buffer) (tag : UInt8) (value : String) : Buffer :=
  buffer.octets tag (Utf8.encode value)

def element (buffer : Buffer) (element : Element) : Buffer :=
  buffer.append element.encode

/-- Replaces the length field between two offsets by the field for `length`. -/
def putLength (buffer : Buffer) (start stop length : Nat) : Buffer :=
  { buffer with
    bytes := buffer.bytes.take start ++ Length.encode length ++ buffer.bytes.drop stop }

/-- Appends text whose length is only estimated beforehand.  The field for the
estimate is written first and replaced when the text turns out to be of
another length. -/
def withEstimate (buffer : Buffer) (tag : UInt8) (value : String) (estimate : Nat) : Buffer :=
  let field := Length.encode estimate
  let start := buffer.bytes.length + 1
  let content := Utf8.encode value
  let written := buffer.append (tag :: (field ++ content))
  if content.length = estimate then written
  else written.putLength start (start + field.length) content.length

/-- The same for any estimate, which is refused when no field can hold it. -/
def estimated (buffer : Buffer) (tag : UInt8) (value : String) (estimate : Nat) :
    Except Length.Overflow Buffer :=
  if estimate ≤ Length.maximum then .ok (buffer.withEstimate tag value estimate)
  else .error ⟨estimate⟩

/-- Opens a container. -/
def begin (buffer : Buffer) (tag : UInt8) : Buffer :=
  { bytes := buffer.bytes ++ [tag], openings := (buffer.bytes.length + 1) :: buffer.openings }

/-- Closes the innermost open container; without one there is nothing to do. -/
def close (buffer : Buffer) : Buffer :=
  match buffer.openings with
  | [] => buffer
  | start :: openings =>
      { buffer with openings }.putLength start start (buffer.bytes.length - start)

/-- Writes a container around what `content` appends. -/
def within (tag : UInt8) (content : Buffer → Buffer) (buffer : Buffer) : Buffer :=
  (content (buffer.begin tag)).close

/-- Appends one item after another. -/
def each {Item : Type} (write : Item → Buffer → Buffer) (items : List Item) (buffer : Buffer) :
    Buffer :=
  items.foldl (fun buffer item => write item buffer) buffer

end Buffer

end DirectoryInterchange.Element
