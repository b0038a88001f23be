import DirectoryInterchange.Message.Encoding
import DirectoryInterchange.Proofs.Element.Encoding
import DirectoryInterchange.Proofs.Element.Writing

/-!
The elements that messages are.

Each part of a message has a form: an element, of which the parts inside it
are the content.  Writing in one pass produces the encoding of the form.
-/

namespace DirectoryInterchange.Message

open Element (Buffer encodeAll)
open Element.Buffer (Writes)

/-- The element around others. -/
def around (tag : UInt8) (parts : List Element) : Element :=
  ⟨tag, encodeAll parts⟩

def textForm (text : String) : Element :=
  .ofText text

def valueForm (value : Bytes) : Element :=
  .ofOctets value

def attributeForm (attr : Attribute) : Element :=
  around Element.Tag.sequence
    [textForm attr.name, around Element.Tag.set (attr.values.map valueForm)]

def attributesForm (attributes : List Attribute) : Element :=
  around Element.Tag.sequence (attributes.map attributeForm)

def modificationForm (modification : Modification) : Element :=
  around Element.Tag.sequence
    [.ofEnumerated modification.kind.code.toInt64, attributeForm modification.target]

def superiorForm (superior : String) : Element :=
  .ofText superior newSuperiorTag

def operationForm (dn : String) (operation : Operation) : Element :=
  match operation with
  | .searchResult attributes | .request (.add attributes) =>
      around operation.tag [textForm dn, attributesForm attributes]
  | .request .delete => .ofText dn operation.tag
  | .request (.modify modifications) =>
      around operation.tag
        [textForm dn, around Element.Tag.sequence (modifications.map modificationForm)]
  | .request (.modifyDn newRdn deleteOldRdn newSuperior) =>
      around operation.tag
        ([textForm dn, textForm newRdn, .ofBoolean deleteOldRdn]
          ++ (newSuperior.map superiorForm).toList)

def controlForm (control : Control) : Element :=
  around Element.Tag.sequence
    (textForm control.oid :: (if control.critical then [.ofBoolean true] else [])
      ++ (control.value.map valueForm).toList)

def controlsForm (controls : List Control) : List Element :=
  if controls.isEmpty then [] else [around controlsTag (controls.map controlForm)]

/-- The element that a message is. -/
def form (message : Message) : Element :=
  around Element.Tag.sequence
    (.ofInteger message.id.toInt64 :: operationForm message.dn message.operation
      :: controlsForm message.controls)

/-! ### Writing -/

theorem writes_around {content : Buffer → Buffer} {parts : List Element}
    (inside : Writes content (encodeAll parts)) (tag : UInt8) :
    Writes (Buffer.within tag content) (around tag parts).encode :=
  inside.within tag

theorem writes_name (tag : UInt8) (name : String) :
    Writes (writeName tag name) (Element.ofText name tag).encode :=
  Writes.withEstimate tag name name.length

theorem writes_text (text : String) : Writes (writeText text) (textForm text).encode :=
  Writes.text Element.Tag.octetString text

theorem writes_value (value : Bytes) : Writes (writeValue value) (valueForm value).encode :=
  Writes.octets Element.Tag.octetString value

theorem writes_attribute (attr : Attribute) :
    Writes (writeAttribute attr) (attributeForm attr).encode := by
  refine writes_around ?_ Element.Tag.sequence
  have values := writes_around (Writes.each writes_value attr.values) Element.Tag.set
  simpa using (writes_text attr.name).andThen values

theorem writes_attributes (attributes : List Attribute) :
    Writes (writeAttributes attributes) (attributesForm attributes).encode :=
  writes_around (Writes.each writes_attribute attributes) Element.Tag.sequence

theorem writes_modification (modification : Modification) :
    Writes (writeModification modification) (modificationForm modification).encode := by
  refine writes_around ?_ Element.Tag.sequence
  have kind := Writes.integer Element.Tag.enumerated modification.kind.code.toInt64
  simpa [Element.ofEnumerated] using kind.andThen (writes_attribute modification.target)

theorem writes_entry (tag : UInt8) (dn : String) (attributes : List Attribute) :
    Writes (Buffer.within tag fun buffer =>
        writeAttributes attributes (writeName Element.Tag.octetString dn buffer))
      (around tag [textForm dn, attributesForm attributes]).encode := by
  refine writes_around ?_ tag
  simpa [textForm] using
    (writes_name Element.Tag.octetString dn).andThen (writes_attributes attributes)

theorem writes_modify (tag : UInt8) (dn : String) (modifications : List Modification) :
    Writes (Buffer.within tag fun buffer =>
        Buffer.within Element.Tag.sequence (Buffer.each writeModification modifications)
          (writeName Element.Tag.octetString dn buffer))
      (around tag [textForm dn,
        around Element.Tag.sequence (modifications.map modificationForm)]).encode := by
  refine writes_around ?_ tag
  have changes := writes_around (Writes.each writes_modification modifications)
    Element.Tag.sequence
  simpa [textForm] using (writes_name Element.Tag.octetString dn).andThen changes

theorem writes_modifyDn (dn newRdn : String) (deleteOldRdn : Bool)
    (newSuperior : Option String) :
    Writes (writeOperation dn (.request (.modifyDn newRdn deleteOldRdn newSuperior)))
      (operationForm dn (.request (.modifyDn newRdn deleteOldRdn newSuperior))).encode := by
  rw [writeOperation, operationForm]
  refine writes_around ?_ _
  have names := (writes_name Element.Tag.octetString dn).andThen
    (writes_name Element.Tag.octetString newRdn)
  have flagged := names.andThen (Writes.boolean Element.Tag.boolean deleteOldRdn)
  cases newSuperior with
  | none => simpa [textForm] using flagged
  | some superior =>
      simpa [textForm, superiorForm] using flagged.andThen (writes_name newSuperiorTag superior)

theorem writes_operation (dn : String) (operation : Operation) :
    Writes (writeOperation dn operation) (operationForm dn operation).encode := by
  cases operation with
  | searchResult attributes => exact writes_entry _ dn attributes
  | request change =>
      cases change with
      | add attributes => exact writes_entry _ dn attributes
      | delete => exact writes_name _ dn
      | modify modifications => exact writes_modify _ dn modifications
      | modifyDn newRdn deleteOldRdn newSuperior =>
          exact writes_modifyDn dn newRdn deleteOldRdn newSuperior

theorem writes_control (control : Control) :
    Writes (writeControl control) (controlForm control).encode := by
  refine writes_around ?_ Element.Tag.sequence
  obtain ⟨oid, critical, value⟩ := control
  have type := writes_text oid
  have flagged := type.andThen (Writes.boolean Element.Tag.boolean true)
  cases critical with
  | false =>
      cases value with
      | none => simpa using type
      | some value => simpa using type.andThen (writes_value value)
  | true =>
      cases value with
      | none => simpa [Element.ofBoolean] using flagged
      | some value => simpa [Element.ofBoolean] using flagged.andThen (writes_value value)

theorem writes_controls (controls : List Control) :
    Writes (writeControls controls) (encodeAll (controlsForm controls)) := by
  cases controls with
  | nil => exact Writes.nothing
  | cons control controls =>
      have written := writes_around (Writes.each writes_control (control :: controls)) controlsTag
      rw [show controlsForm (control :: controls) =
        [around controlsTag ((control :: controls).map controlForm)] from rfl]
      rw [Element.encodeAll_cons, Element.encodeAll_nil, List.append_nil]
      exact written

theorem writes_message (message : Message) : Writes message.write message.form.encode := by
  refine writes_around ?_ Element.Tag.sequence
  have number := Writes.integer Element.Tag.integer message.id.toInt64
  have body := number.andThen (writes_operation message.dn message.operation)
  simpa using body.andThen (writes_controls message.controls)

/-- Writing in one pass encodes the element that the message is. -/
theorem encode_eq_form (message : Message) : message.encode = message.form.encode := by
  rw [encode, writes_message message]
  rfl

end DirectoryInterchange.Message
