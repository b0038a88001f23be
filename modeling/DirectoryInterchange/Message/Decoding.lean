import DirectoryInterchange.Element.Basic
import DirectoryInterchange.Fault
import DirectoryInterchange.Message.Encoding

/-!
Messages from elements.

Every part is recognised by its place and checked for its tag.  What follows
the last expected part of an operation, an attribute, a change or a control is
ignored; behind the controls of the message itself nothing may follow.
-/

namespace DirectoryInterchange.Message

abbrev Decoded (Value : Type) := Except Fault Value

def ofElement {Value : Type} (result : Except Element.Error Value) : Decoded Value :=
  result.mapError .element

def missing {Value : Type} (part : Part) : Decoded Value :=
  .error (.protocol (.missing part))

def expectTag (element : Element) (tag : UInt8) : Decoded Unit :=
  ofElement (element.expectTag tag)

def children (element : Element) : Decoded (List Element) :=
  ofElement element.children

/-- Splits off the next part. -/
def next (part : Part) : List Element → Decoded (Element × List Element)
  | [] => missing part
  | element :: rest => .ok (element, rest)

def decodeText (tag : UInt8) (element : Element) : Decoded String := do
  expectTag element tag
  ofElement element.asText

def decodeValue (element : Element) : Decoded Bytes := do
  expectTag element Element.Tag.octetString
  return element.value

def decodeAttribute (element : Element) : Decoded Attribute := do
  expectTag element Element.Tag.sequence
  let parts ← children element
  let (type, parts) ← next .attributeType parts
  let name ← decodeText Element.Tag.octetString type
  let (set, _) ← next .attributeValues parts
  expectTag set Element.Tag.set
  let values ← (← children set).mapM decodeValue
  return { name, values }

def decodeAttributes (element : Element) : Decoded (List Attribute) := do
  expectTag element Element.Tag.sequence
  (← children element).mapM decodeAttribute

def decodeModification (element : Element) : Decoded Modification := do
  expectTag element Element.Tag.sequence
  let parts ← children element
  let (operation, parts) ← next .modificationOperation parts
  expectTag operation Element.Tag.enumerated
  let code ← ofElement operation.asInteger
  let some kind := ModificationKind.ofCode? code
    | throw (.protocol (.unknownModification code))
  let (target, _) ← next .modification parts
  return { kind, target := ← decodeAttribute target }

/-- The distinguished name and the attributes of an entry. -/
def decodeEntry (element : Element) : Decoded (String × List Attribute) := do
  let parts ← children element
  let (name, parts) ← next .entryDn parts
  let dn ← decodeText Element.Tag.octetString name
  let (attributes, _) ← next .attributeList parts
  return (dn, ← decodeAttributes attributes)

def decodeModify (element : Element) : Decoded (String × List Modification) := do
  let parts ← children element
  let (name, parts) ← next .objectDn parts
  let dn ← decodeText Element.Tag.octetString name
  let (changes, _) ← next .changes parts
  expectTag changes Element.Tag.sequence
  return (dn, ← (← children changes).mapM decodeModification)

def decodeModifyDn (element : Element) : Decoded (String × Change) := do
  let parts ← children element
  let (name, parts) ← next .entryDn parts
  let dn ← decodeText Element.Tag.octetString name
  let (rdn, parts) ← next .newRdn parts
  let newRdn ← decodeText Element.Tag.octetString rdn
  let (flag, parts) ← next .deleteOldRdn parts
  expectTag flag Element.Tag.boolean
  let deleteOldRdn ← ofElement flag.asBoolean
  let newSuperior ← parts.head?.mapM (decodeText newSuperiorTag)
  return (dn, .modifyDn newRdn deleteOldRdn newSuperior)

/-- The operation, recognised by its tag, with the name of its entry. -/
def decodeOperation (element : Element) : Decoded (String × Operation) := do
  if element.tag = 0x4A then
    return (← ofElement element.asText, .request .delete)
  else if element.tag = 0x64 then
    let (dn, attributes) ← decodeEntry element
    return (dn, .searchResult attributes)
  else if element.tag = 0x68 then
    let (dn, attributes) ← decodeEntry element
    return (dn, .request (.add attributes))
  else if element.tag = 0x66 then
    let (dn, modifications) ← decodeModify element
    return (dn, .request (.modify modifications))
  else if element.tag = 0x6C then
    let (dn, change) ← decodeModifyDn element
    return (dn, .request change)
  else throw (.protocol (.unsupportedOperation element.tag))

/-- The criticality, which may be absent, and the parts behind it. -/
def decodeCriticality : List Element → Decoded (Bool × List Element)
  | [] => .ok (false, [])
  | element :: rest =>
      if element.tag = Element.Tag.boolean then
        ofElement (element.asBoolean.map fun critical => (critical, rest))
      else .ok (false, element :: rest)

def decodeControl (element : Element) : Decoded Control := do
  expectTag element Element.Tag.sequence
  let parts ← children element
  let (type, parts) ← next .controlType parts
  let oid ← decodeText Element.Tag.octetString type
  let (critical, parts) ← decodeCriticality parts
  let value ← parts.head?.mapM decodeValue
  return { oid, critical, value }

def decodeControls (element : Element) : Decoded (List Control) := do
  expectTag element controlsTag
  (← children element).mapM decodeControl

def decode (element : Element) : Decoded Message := do
  expectTag element Element.Tag.sequence
  let parts ← children element
  let (number, parts) ← next .messageId parts
  expectTag number Element.Tag.integer
  let id ← ofElement number.asInteger
  if id < 0 then throw (.protocol (.negativeId id))
  let (body, parts) ← next .operation parts
  let (dn, operation) ← decodeOperation body
  let controls ← match parts with
    | [] => pure []
    | controls :: _ => decodeControls controls
  if let extra :: _ := parts.drop 1 then
    throw (.protocol (.unexpectedAfterControls extra.tag))
  return { id, dn, operation, controls }

end DirectoryInterchange.Message
