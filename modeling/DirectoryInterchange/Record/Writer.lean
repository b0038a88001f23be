import DirectoryInterchange.Record.Rendering
import DirectoryInterchange.Text.Blank

/-!
Writing a document: records, comments and a version line, with a blank line
between what would otherwise run together.
-/

namespace DirectoryInterchange.Record

structure Writer where
  column : Nat := 76
  /-- Whether a blank line is due before anything else is written. -/
  separatorDue : Bool := false
  records : Nat := 0
  deriving DecidableEq, Repr

namespace Writer

/-- Text that was added, and the writer behind it. -/
abbrev Step := String × Writer

def separator (writer : Writer) : String :=
  if writer.separatorDue then "\n" else ""

def version (writer : Writer) : Step :=
  (writer.separator ++ "version: 1\n", { writer with separatorDue := true })

/-- The lines of a comment.  A line feed ends a line and takes a carriage
return in front of it along. -/
def commentLines (comment : String) : List (List Char) :=
  let pieces := Blank.split '\n' comment.toList
  let complete := pieces.dropLast.map fun piece =>
    if piece.getLast? = some '\r' then piece.dropLast else piece
  complete ++ (pieces.getLast?.filter (!·.isEmpty)).toList

def comment (comment : String) (writer : Writer) : Step :=
  let lines := (commentLines comment).flatMap fun line =>
    Folding.segments writer.column (['#', ' '] ++ line)
  let text := String.join (lines.map fun line => String.ofList line ++ "\n")
  (writer.separator ++ text, { writer with separatorDue := false })

def record (record : Record) (writer : Writer) : Step :=
  (writer.separator ++ record.text writer.column,
    { writer with separatorDue := true, records := writer.records + 1 })

/-- Whatever is held back is passed on; there is no text of its own. -/
def flush (writer : Writer) : Step :=
  ("", writer)

/-! ### Calls -/

/-- What a writer is asked for. -/
inductive Call
  | version
  | comment (text : String)
  | record (record : Record)
  | flush
  deriving DecidableEq, Repr

/-- The record that a call writes. -/
def Call.record? : Call → Option Record
  | .record added => some added
  | _ => none

/-- The records that calls write, in their order. -/
def written (calls : List Call) : List Record :=
  calls.filterMap Call.record?

def call (writer : Writer) : Call → Step
  | .version => writer.version
  | .comment text => writer.comment text
  | .record added => writer.record added
  | .flush => writer.flush

/-- The text of one call after another. -/
def run (writer : Writer) : List Call → Step
  | [] => ("", writer)
  | call :: calls =>
      let (text, writer) := writer.call call
      let (more, writer) := writer.run calls
      (text ++ more, writer)

end Writer

/-- A document: a version line where wanted, and the records in order. -/
def document (column : Nat) (withVersion : Bool) (records : List Record) : String :=
  let header : List Writer.Call := if withVersion then [.version] else []
  (Writer.run { column } (header ++ records.map .record)).1

end DirectoryInterchange.Record
