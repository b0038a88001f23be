import DirectoryInterchange.Element.Basic

/-!
Sequences and sets: a tag over a list of elements.

A container remembers the bytes it was read from, or those it was once
written as, and gives them back when it is written again.  Two containers are
equal when tag and elements agree, whatever they remember.
-/

namespace DirectoryInterchange.Element

structure Container where
  tag : UInt8
  elements : List Element
  /-- The encoded content, where it is known already. -/
  remembered : Option Bytes := none
  deriving Repr

namespace Container

def sequence (elements : List Element) : Container :=
  { tag := Tag.sequence, elements }

def set (elements : List Element) : Container :=
  { tag := Tag.set, elements }

/-- The encoded content: what is remembered, else the elements in a row. -/
def value (container : Container) : Bytes :=
  container.remembered.getD (encodeAll container.elements)

/-- The same container with its encoded content at hand. -/
def remember (container : Container) : Container :=
  { container with remembered := some container.value }

def toElement (container : Container) : Element :=
  ⟨container.tag, container.value⟩

def encode (container : Container) : Bytes :=
  container.toElement.encode

/-- Reads a container from an element and remembers its content. -/
def ofElement (element : Element) : Except Error Container :=
  element.children.map fun elements => ⟨element.tag, elements, some element.value⟩

instance : BEq Container where
  beq left right := left.tag == right.tag && left.elements == right.elements

@[simp] theorem remember_beq (container : Container) :
    (container.remember == container) = true := by
  show (container.tag == container.tag && container.elements == container.elements) = true
  simp

end Container

/-- The elements inside a container element that must hold `count` of them. -/
def childrenExactly (count : Nat) (element : Element) : Except Error (List Element) := do
  let children ← element.children
  if children.length = count then .ok children
  else .error (.invalidLength .sequence children.length)

end DirectoryInterchange.Element
