import DirectoryInterchange.Element.Buffer
import DirectoryInterchange.Message.Basic

/-!
Messages as bytes: each part is appended to a buffer inside the containers
that surround it.  Optional parts are written only when they say something.
-/

namespace DirectoryInterchange.Message

open Element (Buffer)
open Element.Buffer (within each)

/-- The tag over the controls of a message. -/
def controlsTag : UInt8 := 0xA0

/-- The tag of the new superior in a request to move an entry. -/
def newSuperiorTag : UInt8 := 0x80

def writeText (text : String) (buffer : Buffer) : Buffer :=
  buffer.text Element.Tag.octetString text

/-- A name, behind a length field that is sized by its number of characters. -/
def writeName (tag : UInt8) (name : String) (buffer : Buffer) : Buffer :=
  buffer.withEstimate tag name name.length

def writeValue (value : Bytes) (buffer : Buffer) : Buffer :=
  buffer.octets Element.Tag.octetString value

def writeAttribute (attr : Attribute) : Buffer → Buffer :=
  within Element.Tag.sequence fun buffer =>
    within Element.Tag.set (each writeValue attr.values) (writeText attr.name buffer)

def writeAttributes (attributes : List Attribute) : Buffer → Buffer :=
  within Element.Tag.sequence (each writeAttribute attributes)

def writeModification (modification : Modification) : Buffer → Buffer :=
  within Element.Tag.sequence fun buffer =>
    writeAttribute modification.target
      (buffer.integer Element.Tag.enumerated modification.kind.code.toInt64)

def writeOperation (dn : String) (operation : Operation) : Buffer → Buffer :=
  match operation with
  | .searchResult attributes | .request (.add attributes) =>
      within operation.tag fun buffer =>
        writeAttributes attributes (writeName Element.Tag.octetString dn buffer)
  | .request .delete => writeName operation.tag dn
  | .request (.modify modifications) =>
      within operation.tag fun buffer =>
        within Element.Tag.sequence (each writeModification modifications)
          (writeName Element.Tag.octetString dn buffer)
  | .request (.modifyDn newRdn deleteOldRdn newSuperior) =>
      within operation.tag fun buffer =>
        let buffer := writeName Element.Tag.octetString dn buffer
        let buffer := writeName Element.Tag.octetString newRdn buffer
        let buffer := buffer.boolean Element.Tag.boolean deleteOldRdn
        match newSuperior with
        | none => buffer
        | some superior => writeName newSuperiorTag superior buffer

/-- A control: its type, its criticality when set, its value when present. -/
def writeControl (control : Control) : Buffer → Buffer :=
  within Element.Tag.sequence fun buffer =>
    let buffer := writeText control.oid buffer
    let buffer := if control.critical then buffer.boolean Element.Tag.boolean true else buffer
    match control.value with
    | none => buffer
    | some value => writeValue value buffer

def writeControls (controls : List Control) (buffer : Buffer) : Buffer :=
  if controls.isEmpty then buffer else within controlsTag (each writeControl controls) buffer

def write (message : Message) : Buffer → Buffer :=
  within Element.Tag.sequence fun buffer =>
    let buffer := buffer.integer Element.Tag.integer message.id.toInt64
    writeControls message.controls (writeOperation message.dn message.operation buffer)

def encode (message : Message) : Bytes :=
  (message.write .empty).bytes

end DirectoryInterchange.Message
