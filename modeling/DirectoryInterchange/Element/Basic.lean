import DirectoryInterchange.Element.Length
import DirectoryInterchange.Element.Scalar

/-!
Elements: a tag, a length and that many bytes of content.

The length is never stored.  `encode` writes the shortest length field, so an
element has one canonical encoding; `decodeFirst` reads any accepted length
field and returns the bytes behind the element.
-/

namespace DirectoryInterchange

structure Element where
  tag : UInt8
  value : Bytes
  deriving DecidableEq, Repr

namespace Element

namespace Tag

def boolean : UInt8 := 0x01
def integer : UInt8 := 0x02
def octetString : UInt8 := 0x04
def null : UInt8 := 0x05
def enumerated : UInt8 := 0x0A
def sequence : UInt8 := 0x30
def set : UInt8 := 0x31

/-- Whether content under this tag is a list of elements. -/
def isConstructed (tag : UInt8) : Bool :=
  tag &&& 0x20 != 0

end Tag

def ofBoolean (value : Bool) (tag : UInt8 := Tag.boolean) : Element :=
  ⟨tag, Boolean.encode value⟩

def ofInteger (value : Int64) (tag : UInt8 := Tag.integer) : Element :=
  ⟨tag, Integer.encode value⟩

def ofEnumerated (value : Int64) : Element :=
  ofInteger value Tag.enumerated

def null : Element :=
  ⟨Tag.null, []⟩

def ofOctets (value : Bytes) (tag : UInt8 := Tag.octetString) : Element :=
  ⟨tag, value⟩

def ofText (text : String) (tag : UInt8 := Tag.octetString) : Element :=
  ⟨tag, Utf8.encode text⟩

def isConstructed (element : Element) : Bool :=
  Tag.isConstructed element.tag

/-- The shortest encoding: tag, length, content. -/
def encode (element : Element) : Bytes :=
  element.tag :: (Length.encode element.value.length ++ element.value)

def encodedSize (element : Element) : Nat :=
  1 + Length.size element.value.length + element.value.length

@[simp] theorem length_encode (element : Element) :
    element.encode.length = element.encodedSize := by
  simp [encode, encodedSize]
  omega

/-- The encodings of several elements in a row. -/
def encodeAll (elements : List Element) : Bytes :=
  elements.flatMap encode

/-- Reads the element that `bytes` begin with and returns the bytes behind it. -/
def decodeFirst : Bytes → Except Error (Element × Bytes)
  | [] => .error (.truncated 1 0)
  | tag :: rest =>
      match Length.decode rest with
      | .error error => .error error
      | .ok (length, content) =>
          if content.length < length then
            .error (.lengthExceedsAvailable length content.length)
          else .ok (⟨tag, content.take length⟩, content.drop length)

theorem length_lt_of_decodeFirst {bytes rest : Bytes} {element : Element}
    (decoded : decodeFirst bytes = .ok (element, rest)) :
    element.value.length + rest.length < bytes.length := by
  cases bytes with
  | nil => simp [decodeFirst] at decoded
  | cons tag following =>
      simp only [decodeFirst] at decoded
      split at decoded
      · simp at decoded
      · next length content lengthRead =>
          have := Length.length_rest_lt_of_decode lengthRead
          split at decoded
          · simp at decoded
          · simp only [Except.ok.injEq, Prod.mk.injEq] at decoded
            simp only [← decoded.1, ← decoded.2, List.length_take, List.length_drop,
              List.length_cons]
            omega

/-- Reads the element at `position` and returns it with the position behind it. -/
def decodeAt (data : Bytes) (position : Nat) : Except Error (Element × Nat) :=
  (decodeFirst (data.drop position)).map fun (element, rest) =>
    (element, data.length - rest.length)

/-- Reads one element that spans all of `data`. -/
def decode (data : Bytes) : Except Error Element :=
  match decodeFirst data with
  | .error error => .error error
  | .ok (element, rest) =>
      if rest.isEmpty then .ok element else .error (.trailingData rest.length)

/-- Reads elements up to the end of the bytes. -/
def decodeAll (bytes : Bytes) : Except Error (List Element) :=
  if bytes.isEmpty then .ok []
  else match _ : decodeFirst bytes with
    | .error error => .error error
    | .ok (element, rest) =>
        match decodeAll rest with
        | .error error => .error error
        | .ok elements => .ok (element :: elements)
  termination_by bytes.length
  decreasing_by
    have := length_lt_of_decodeFirst ‹_›
    omega

/-- Every element read from some bytes is shorter than they are. -/
theorem length_value_lt_of_decodeAll {bytes : Bytes} {elements : List Element}
    (decoded : decodeAll bytes = .ok elements) :
    ∀ element ∈ elements, element.value.length < bytes.length := by
  fun_induction decodeAll bytes generalizing elements with
  | case1 => simp_all
  | case2 => simp at decoded
  | case3 => simp at decoded
  | case4 bytes _ element rest first others restRead inductionHypothesis =>
      have := length_lt_of_decodeFirst first
      simp only [Except.ok.injEq] at decoded
      subst decoded
      intro other member
      rcases List.mem_cons.mp member with rfl | member
      · omega
      · have := inductionHypothesis restRead other member
        omega

/-- The elements inside a container element. -/
def children (element : Element) : Except Error (List Element) :=
  decodeAll element.value

def expectTag (element : Element) (tag : UInt8) : Except Error Unit :=
  if element.tag = tag then .ok () else .error (.unexpectedTag tag element.tag)

def asBoolean (element : Element) : Except Error Bool := Boolean.decode element.value

def asInteger (element : Element) : Except Error Int32 := Integer.decode element.value

def asLong (element : Element) : Except Error Int64 := Integer.decodeLong element.value

def asNull (element : Element) : Except Error Unit := Null.decode element.value

def asText (element : Element) : Except Error String := Text.decode element.value

/-- A line about an element: tag and length, and the content itself when it
has between 1 and 32 bytes. -/
def describe (element : Element) : String :=
  let content :=
    if element.value.isEmpty || 32 < element.value.length then ""
    else ": " ++ Bytes.hex " " element.value
  s!"BerElement(0x{Bytes.hexByte element.tag}, {element.value.length} bytes{content})"

end Element

end DirectoryInterchange
