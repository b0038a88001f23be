import DirectoryInterchange.Record.Basic

/-!
What can be wrong with the text of a record, how it is worded, and what an
error tells about where it happened.
-/

namespace DirectoryInterchange.Record

inductive Problem
  /-- A line that starts with a space, with nothing in front to continue. -/
  | nothingToContinue (line : Nat)
  | invalidUtf8 (line : Nat)
  | trailingSpace (line : String)
  | noLines
  | missingDn (line : String)
  | notText (what : String)
  | missingColon (line : String)
  | invalidName (name line : String)
  | invalidModifiedName (name : String)
  | invalidBase64 (name : String)
  | unsupportedUrl (url name : String)
  | unreadableFile (path name : String)
  | oversizedFile (path name : String) (size limit : Nat)
  | invalidOid (oid : String)
  | invalidCriticality (word : String)
  | invalidControlBase64 (oid : String)
  | controlsOnEntry
  | unsupportedChange (keyword : String)
  | addWithoutAttributes
  | extraInDelete (line : String)
  | modifyWithoutModifications
  | notAModification (line : String)
  | otherAttribute (found expected : String) (kind : ModificationKind)
  | addWithoutValues (name : String)
  | incrementWithoutOneValue (name : String)
  | missingKeyword (keyword : String)
  | otherKeyword (keyword line : String)
  | invalidDeleteOldRdn (word : String)
  | extraInModifyDn (line : String)
  | duplicateValue (value : Bytes) (name : String)
  | entryExpected (dn : String)
  | changeExpected (dn : String)
  | stoppedEarly
  /-- A problem that an adjustment of records reports. -/
  | rejected (reason : String)
  deriving DecidableEq, Repr

namespace Problem

def message : Problem → String
  | nothingToContinue line =>
      s!"line {line} starts with a space but there is no line to continue"
  | invalidUtf8 line => s!"line {line} is not valid UTF-8"
  | trailingSpace line => s!"line ends with an illegal trailing space: '{line}'"
  | noLines => "record has no lines"
  | missingDn line => s!"first line of a record must start with 'dn:', found '{line}'"
  | notText what => s!"{what} value is not valid UTF-8"
  | missingColon line => s!"line '{line}' does not contain a colon"
  | invalidName name line => s!"invalid attribute description '{name}' in line '{line}'"
  | invalidModifiedName name => s!"invalid attribute description '{name}'"
  | invalidBase64 name => s!"unable to base64-decode the value of '{name}'"
  | unsupportedUrl url name =>
      s!"unsupported URL '{url}' for '{name}': only file: URLs are allowed"
  | unreadableFile path name => s!"unable to read file '{path}' referenced by '{name}'"
  | oversizedFile path name size limit =>
      s!"file '{path}' referenced by '{name}' is {size} bytes, larger than the {limit} byte limit"
  | invalidOid oid => s!"invalid control OID '{oid}'"
  | invalidCriticality word => s!"invalid control criticality '{word}'"
  | invalidControlBase64 oid => s!"unable to base64-decode the value of control {oid}"
  | controlsOnEntry => "controls are only allowed in change records"
  | unsupportedChange keyword => s!"unsupported changetype '{keyword}'"
  | addWithoutAttributes => "add change record must contain at least one attribute"
  | extraInDelete line =>
      s!"delete change record must not contain further lines, found '{line}'"
  | modifyWithoutModifications => "modify change record must contain at least one modification"
  | notAModification line =>
      s!"expected add, delete, replace or increment in modify record, found '{line}'"
  | otherAttribute found expected kind =>
      s!"attribute '{found}' does not match '{expected}' in {kind.keyword} modification"
  | addWithoutValues name => s!"add modification for '{name}' must have at least one value"
  | incrementWithoutOneValue name =>
      s!"increment modification for '{name}' must have exactly one value"
  | missingKeyword keyword => s!"modify DN change record is missing '{keyword}:'"
  | otherKeyword keyword line => s!"expected '{keyword}:' but found '{line}'"
  | invalidDeleteOldRdn word => s!"invalid deleteoldrdn value '{word}'"
  | extraInModifyDn line => s!"unexpected line '{line}' in modify DN change record"
  | duplicateValue value name =>
      s!"duplicate value '{Utf8.decodeLossy value}' for attribute '{name}'"
  | entryExpected dn => s!"expected an entry but found a change record for '{dn}'"
  | changeExpected dn => s!"expected a change record but found an entry for '{dn}'"
  | stoppedEarly => "LDIF parsing stopped before the end of input"
  | rejected reason => reason

/-- Whether another failure underlies the problem. -/
def hasCause : Problem → Bool
  | invalidBase64 _ => true
  | invalidControlBase64 _ => true
  | unreadableFile .. => true
  | _ => false

end Problem

structure Error where
  problem : Problem
  /-- The line on which the record starts, where the error belongs to one. -/
  lineNumber : Option Nat := none
  /-- The lines of the record as they were read. -/
  dataLines : List String := []
  /-- Whether the records behind this one can still be read. -/
  mayContinue : Bool
  deriving DecidableEq, Repr

def Error.message (error : Error) : String :=
  match error.lineNumber with
  | some line => s!"{error.problem.message} (record starting at line {line})"
  | none => error.problem.message

end DirectoryInterchange.Record
