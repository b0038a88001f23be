import DirectoryInterchange.Element.Basic

/-!
The tree of elements inside an element: content under a constructed tag is
split into elements, again and again, as far as it can be split.
-/

namespace DirectoryInterchange.Element

inductive Tree
  | primitive (element : Element)
  | constructed (tag : UInt8) (children : List Tree)
  /-- A constructed tag over content that is no list of elements. -/
  | broken (tag : UInt8) (error : Error)

def Tree.ofElement (element : Element) : Tree :=
  if element.isConstructed then
    match _ : element.children with
    | .error error => .broken element.tag error
    | .ok children =>
        .constructed element.tag (children.attach.map fun child => ofElement child.val)
  else .primitive element
  termination_by element.value.length
  decreasing_by exact length_value_lt_of_decodeAll ‹_› child.val child.property

end DirectoryInterchange.Element
