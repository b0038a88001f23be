import DirectoryInterchange.Record.Basic
import DirectoryInterchange.Record.Folding
import DirectoryInterchange.Text.Base64

/-!
Records as lines of text.

A value is written as it is when it is ASCII that reads back unchanged, and in
base 64 otherwise.  An empty value leaves a single space behind the colon.
-/

namespace DirectoryInterchange

namespace Rendering

/-- Whether a byte may not stand inside a plain value. -/
def isUnsafeByte (byte : UInt8) : Bool :=
  0x80 ≤ byte || byte == 0x00 || byte == 0x0A || byte == 0x0D

/-- Whether a value has to be written in base 64: it starts like a marker or
with a space, ends with a space, or has a byte that is not plain. -/
def needsBase64 (value : Bytes) : Bool :=
  match value with
  | [] => false
  | first :: _ =>
      first == 0x20 || first == 0x3A || first == 0x3C
        || value.getLast? == some 0x20 || value.any isUnsafeByte

/-- The text of a plain value. -/
def plain (value : Bytes) : String :=
  Utf8.decodeLossy value

/-- A value behind its name or control: `: value` or `:: base64`. -/
def valuePart (value : Bytes) : String :=
  if needsBase64 value then ":: " ++ Base64.encode value else ": " ++ plain value

def nameValue (name : String) (value : Bytes) : String :=
  name ++ valuePart value

def textLine (name text : String) : String :=
  nameValue name (Utf8.encode text)

def controlLine (control : Control) : String :=
  "control: " ++ control.oid ++ (if control.critical then " true" else "")
    ++ (control.value.map valuePart).getD ""

def attributeLines (attr : Attribute) : List String :=
  attr.values.map (nameValue attr.name)

def modificationLines (modification : Modification) : List String :=
  textLine modification.kind.keyword modification.target.name
    :: attributeLines modification.target

/-- The line between two modifications. -/
def separator : String := "-"

def changeLines : Change → List String
  | .add attributes => attributes.flatMap attributeLines
  | .delete => []
  | .modify modifications =>
      ((modifications.map modificationLines).intersperse [separator]).flatten
  | .modifyDn newRdn deleteOldRdn newSuperior =>
      [textLine "newrdn" newRdn, textLine "deleteoldrdn" (if deleteOldRdn then "1" else "0")]
        ++ (newSuperior.map (textLine "newsuperior")).toList

end Rendering

namespace Record

open Rendering

/-- The lines of a record before folding. -/
def unfoldedLines : Record → List String
  | entry dn attributes => textLine "dn" dn :: attributes.flatMap attributeLines
  | change dn controls kind =>
      textLine "dn" dn :: controls.map controlLine
        ++ textLine "changetype" kind.keyword :: changeLines kind

def lines (column : Nat) (record : Record) : List String :=
  record.unfoldedLines.flatMap (Folding.fold column)

def text (column : Nat) (record : Record) : String :=
  String.join ((record.lines column).map (· ++ "\n"))

end Record

end DirectoryInterchange
