import DirectoryInterchange.Element.Cursor
import DirectoryInterchange.Text.Quoted

/-!
The outline of a stream of elements: every element in the order in which it
starts, with its depth, found by walking a cursor through the source.
-/

namespace DirectoryInterchange.Element.Outline

/-- One element of an outline. -/
inductive Node
  | container (depth : Nat) (tag : UInt8) (length : Nat)
  | value (depth : Nat) (element : Element)
  deriving DecidableEq, Repr

/-- The nodes that were found, and whether the walk came to an end. -/
structure Walk where
  nodes : List Node
  outcome : Except Error Unit

namespace Walk

def done : Walk := ⟨[], .ok ()⟩

def stopped (error : Error) : Walk := ⟨[], .error error⟩

/-- Puts nodes in front of a walk. -/
def after (nodes : List Node) (walk : Walk) : Walk :=
  { walk with nodes := nodes ++ walk.nodes }

end Walk

/-- What comes next in a container, or in the whole source when none is given:
nothing, a container that is entered, or an element that is read. -/
def meet (container : Option Span) : Cursor.Action (Option (Span ⊕ Element)) := do
  let more ←
    match container with
    | some span => Cursor.hasMore span
    | none => do pure (← Cursor.peek).isSome
  if !more then return none
  let some tag ← Cursor.peek | throw (.truncated 1 0)
  if Tag.isConstructed tag then return some (.inl (← Cursor.enter))
  else return some (.inr (← Cursor.readElement))

/-- Walks through what is left of a container.  Whatever is met takes at least
one byte, so a `fuel` above the number of bytes is never used up. -/
def walkFrom : (fuel : Nat) → (container : Option Span) → (depth : Nat) → Cursor → Walk × Cursor
  | 0, _, _, cursor => (.done, cursor)
  | fuel + 1, container, depth, cursor =>
      match (meet container).run cursor with
      | .error error cursor => (.stopped error, cursor)
      | .ok none cursor => (.done, cursor)
      | .ok (some (.inr element)) cursor =>
          let (rest, cursor) := walkFrom fuel container depth cursor
          (rest.after [.value depth element], cursor)
      | .ok (some (.inl span)) cursor =>
          let (inner, cursor) := walkFrom fuel (some span) (depth + 1) cursor
          let found := Node.container depth span.tag span.length :: inner.nodes
          match inner.outcome with
          | .error error => ((Walk.stopped error).after found, cursor)
          | .ok () =>
              let (rest, cursor) := walkFrom fuel container depth cursor
              (rest.after found, cursor)

/-- The outline of everything in a source. -/
def ofSource (source : Source) : Walk :=
  (walkFrom (source.content.length + 1) none 0 (Cursor.start source)).1

/-- The name of a tag: a universal type, else its class and number. -/
def tagName (tag : UInt8) : String :=
  if tag = Tag.boolean then "BOOLEAN"
  else if tag = Tag.integer then "INTEGER"
  else if tag = Tag.octetString then "OCTET STRING"
  else if tag = Tag.null then "NULL"
  else if tag = Tag.enumerated then "ENUMERATED"
  else if tag = Tag.sequence then "SEQUENCE"
  else if tag = Tag.set then "SET"
  else
    let number := toString (tag.toNat % 0x20)
    match tag.toNat / 0x40 with
    | 0 => s!"[UNIVERSAL {number}]"
    | 1 => s!"[APPLICATION {number}]"
    | 2 => s!"[{number}]"
    | _ => s!"[PRIVATE {number}]"

/-- The first 32 bytes in hexadecimal, with the total number when there are more. -/
def preview (bytes : Bytes) : String :=
  let start := Bytes.hex " " (bytes.take 32)
  if 32 < bytes.length then s!"{start} ... ({bytes.length} bytes)" else start

def isControl (c : Char) : Bool :=
  c.toNat < 0x20 || (0x7F ≤ c.toNat && c.toNat < 0xA0)

/-- The content of an element by its tag; bytes where it cannot be read so. -/
def valueText (element : Element) : String :=
  if element.tag = Tag.boolean then
    match element.asBoolean with
    | .ok value => if value then "true" else "false"
    | .error _ => preview element.value
  else if element.tag = Tag.integer ∨ element.tag = Tag.enumerated then
    match element.asLong with
    | .ok value => toString value
    | .error _ => preview element.value
  else if element.tag = Tag.null then ""
  else
    match Utf8.decode? element.value with
    | some text =>
        if text.toList.any isControl then preview element.value else Quoted.quote text
    | none => preview element.value

/-- The line for a node, indented by two spaces a level. -/
def Node.line : Node → String
  | .container depth tag length =>
      s!"{indent depth}0x{Bytes.hexByte tag} {tagName tag} ({length} bytes)"
  | .value depth element =>
      s!"{indent depth}0x{Bytes.hexByte element.tag} {tagName element.tag} {valueText element}"
where
  indent (depth : Nat) : String := String.ofList (List.replicate (2 * depth) ' ')

def Walk.text (walk : Walk) : String :=
  String.join (walk.nodes.map fun node => node.line ++ "\n")

end DirectoryInterchange.Element.Outline
