import DirectoryInterchange.Element.Basic
import DirectoryInterchange.Element.Source

/-!
Reading elements from a source, one after another.

A cursor counts the bytes it has consumed and keeps the offsets at which the
containers it has entered end, innermost first.  Every operation continues
where the last one stopped, also after an error.
-/

namespace DirectoryInterchange.Element

structure Cursor where
  source : Source
  /-- Bytes consumed so far, a tag that was only looked at included. -/
  consumed : Nat := 0
  /-- A tag that was looked at and not yet read. -/
  peeked : Option UInt8 := none
  /-- Where the open containers end. -/
  ends : List Nat := []
  maximumSize : Nat := 16777216
  maximumDepth : Nat := 64
  deriving DecidableEq, Repr

/-- A container that a cursor has entered. -/
structure Span where
  tag : UInt8
  length : Nat
  stop : Nat
  /-- How many containers were open outside of it. -/
  depth : Nat
  deriving DecidableEq, Repr

namespace Cursor

/-- A cursor at the start of a source, with limits of its own where given. -/
def start (source : Source) (maximumSize maximumDepth : Option Nat := none) : Cursor :=
  let cursor : Cursor := { source }
  { cursor with
    maximumSize := (maximumSize.map (min · Length.maximum)).getD cursor.maximumSize
    maximumDepth := maximumDepth.getD cursor.maximumDepth }

/-- The offset of the next byte that was not read yet. -/
def position (cursor : Cursor) : Nat :=
  cursor.consumed - if cursor.peeked.isSome then 1 else 0

/-- A step of reading: an answer or an error, and the cursor in either case. -/
abbrev Action := EStateM Error Cursor

/-- Takes `count` bytes and counts every one that came. -/
def takeBytes (count : Nat) : Action Bytes := do
  let gathered := (← get).source.gather count
  modify fun cursor =>
    { cursor with
      source := gathered.source
      consumed := cursor.consumed + gathered.bytes.length }
  match gathered.stop with
  | .enough => return gathered.bytes
  | .ended => throw (.truncated count gathered.bytes.length)
  | .failed reason => throw (.unreadable reason)

/-- Passes over `count` bytes.  They are counted only when no read failed. -/
def skipBytes (count : Nat) : Action Unit := do
  let (answer, source) := (← get).source.pass count
  modify fun cursor => { cursor with source }
  match answer with
  | .error reason => throw (.unreadable reason)
  | .ok passed =>
      modify fun cursor => { cursor with consumed := cursor.consumed + passed }
      if passed < count then throw (.truncated count passed)

/-- Takes one byte, or none at the end of the input. -/
def takeByte? : Action (Option UInt8) := do
  let gathered := (← get).source.gather 1
  modify fun cursor =>
    { cursor with
      source := gathered.source
      consumed := cursor.consumed + gathered.bytes.length }
  match gathered.stop with
  | .failed reason => throw (.unreadable reason)
  | _ => return gathered.bytes.head?

/-- Looks at the next tag without reading it. -/
def peek : Action (Option UInt8) := do
  if (← get).peeked.isNone then
    let byte ← takeByte?
    modify fun cursor => { cursor with peeked := byte }
  return (← get).peeked

/-- Reads a tag.  Containers that end at or before it are left, whether or not
anyone asked. -/
def readTag : Action (Option UInt8) := do
  modify fun cursor =>
    { cursor with ends := cursor.ends.dropWhile (· ≤ cursor.position) }
  match (← get).peeked with
  | some tag =>
      modify fun cursor => { cursor with peeked := none }
      return some tag
  | none => takeByte?

/-- Fails unless the innermost open container has room for `length` bytes. -/
def requireRoom (length : Nat) : Action Unit := do
  let cursor ← get
  match cursor.ends with
  | [] => return
  | stop :: _ =>
      let available := stop - cursor.position
      if available < length then throw (.lengthExceedsAvailable length available)

/-- Fails on a length above the size limit of the cursor. -/
def requireSize (length : Nat) : Action Unit := do
  let maximumSize := (← get).maximumSize
  if maximumSize < length then throw (.elementTooLarge length maximumSize)

/-- Reads a length field, whatever the limits are. -/
def readLengthField : Action Nat := do
  let some first ← takeByte? | throw (.truncated 1 0)
  let octets := first.toNat - 0x80
  if first < 0x80 then return first.toNat
  else if octets = 0 then throw .indefiniteLength
  else if 4 < octets then throw (.lengthTooLong octets)
  else
    let length := Bytes.toNat (← takeBytes octets)
    if Length.maximum < length then throw (.lengthTooLarge length Length.maximum)
    return length

/-- Reads the length field that follows a tag. -/
def readLength : Action Nat := do
  let length ← readLengthField
  requireSize length
  requireRoom length
  return length

/-- Reads the next element, or none at the end of the input. -/
def readElement? : Action (Option Element) := do
  let some tag ← readTag | return none
  let length ← readLength
  let value ← takeBytes length
  return some ⟨tag, value⟩

def readElement : Action Element := do
  let some element ← readElement? | throw (.truncated 1 0)
  return element

/-- Passes over the next element and returns its tag. -/
def skipElement? : Action (Option UInt8) := do
  let some tag ← readTag | return none
  let length ← readLength
  skipBytes length
  return some tag

/-- Reads the next element and then its content. -/
def readAs {Value : Type} (decode : Bytes → Except Error Value) : Action Value := do
  let element ← readElement
  match decode element.value with
  | .ok value => return value
  | .error error => throw error

def readBoolean : Action Bool := readAs Boolean.decode

def readInteger : Action Int32 := readAs Integer.decode

def readLong : Action Int64 := readAs Integer.decodeLong

def readNull : Action Unit := readAs Null.decode

def readOctets : Action Bytes := readAs .ok

def readText : Action String := readAs Text.decode

/-- Enters a container: reads its tag and length and leaves the content. -/
def enter : Action Span := do
  let some tag ← readTag | throw (.truncated 1 0)
  let length ← readLength
  let cursor ← get
  if cursor.maximumDepth ≤ cursor.ends.length then throw (.nestingTooDeep cursor.maximumDepth)
  let span : Span := ⟨tag, length, cursor.position + length, cursor.ends.length⟩
  set { cursor with ends := span.stop :: cursor.ends }
  return span

/-- Whether a container has content left.  At its very end it is left together
with all that was entered inside it; beyond its end there is an error. -/
def hasMore (span : Span) : Action Bool := do
  let cursor ← get
  if cursor.position < span.stop then return true
  if span.stop < cursor.position then throw (.readPastEnd span.stop cursor.position)
  set { cursor with ends := cursor.ends.drop (cursor.ends.length - span.depth) }
  return false

end Cursor

end DirectoryInterchange.Element
