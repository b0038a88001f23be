import DirectoryInterchange.Record.Basic

/-!
Directory protocol messages: a numbered operation on one entry, with controls.

An entry travels as a search result and a change as the request to make it.
-/

namespace DirectoryInterchange

namespace Message

inductive Operation
  | searchResult (attributes : List Attribute)
  | request (change : Change)
  deriving DecidableEq, Repr

/-- The application tag of an operation. -/
def Operation.tag : Operation → UInt8
  | searchResult _ => 0x64
  | request (.modify _) => 0x66
  | request (.add _) => 0x68
  | request .delete => 0x4A
  | request (.modifyDn ..) => 0x6C

end Message

structure Message where
  id : Int32
  dn : String
  operation : Message.Operation
  controls : List Control := []
  deriving DecidableEq, Repr

namespace Message

def ofRecord (id : Int32) : Record → Message
  | .entry dn attributes => { id, dn, operation := .searchResult attributes }
  | .change dn controls change => { id, dn, operation := .request change, controls }

/-- The record that a message carries; controls on a search result are dropped. -/
def toRecord (message : Message) : Record :=
  match message.operation with
  | .searchResult attributes => .entry message.dn attributes
  | .request change => .change message.dn message.controls change

@[simp] theorem toRecord_ofRecord (id : Int32) (record : Record) :
    (ofRecord id record).toRecord = record := by
  cases record <;> rfl

/-- A part of a message that may turn out to be missing. -/
inductive Part
  | messageId
  | operation
  | attributeType
  | attributeValues
  | entryDn
  | attributeList
  | objectDn
  | changes
  | modificationOperation
  | modification
  | newRdn
  | deleteOldRdn
  | controlType
  deriving DecidableEq, Repr

def Part.name : Part → String
  | messageId => "messageID"
  | operation => "protocolOp"
  | attributeType => "attribute type"
  | attributeValues => "attribute values"
  | entryDn => "entry DN"
  | attributeList => "attribute list"
  | objectDn => "object DN"
  | changes => "changes"
  | modificationOperation => "modification operation"
  | modification => "modification"
  | newRdn => "new RDN"
  | deleteOldRdn => "deleteoldrdn"
  | controlType => "control type"

inductive Problem
  | negativeId (id : Int32)
  | missing (part : Part)
  | unexpectedAfterControls (tag : UInt8)
  | unknownModification (code : Int32)
  | unsupportedOperation (tag : UInt8)
  | idsExhausted
  deriving DecidableEq, Repr

def Problem.message : Problem → String
  | negativeId id => s!"negative message ID {id}"
  | missing part => s!"missing {part.name}"
  | unexpectedAfterControls tag =>
      s!"unexpected element with tag 0x{Bytes.hexByte tag} after controls"
  | unknownModification code => s!"unknown modification operation {code}"
  | unsupportedOperation tag => s!"unsupported operation tag: 0x{Bytes.hexByte tag}"
  | idsExhausted => "message ID space exhausted"

end Message

end DirectoryInterchange
