import DirectoryInterchange.Element.Outline
import DirectoryInterchange.Message.Codec
import DirectoryInterchange.Program.Configuration
import DirectoryInterchange.Reading.Answers
import DirectoryInterchange.Record.Writer

/-!
Carrying out a command.

The input is opened before the output is created, so no output is created for an
input that cannot be opened.  The two are taken to be different files: the input
is read as it was before the output was created.  Where both paths lead to one
file, creating the output empties it while it is being read, and what is read of
it is not told here.  Records that cannot be read are counted and left out.
-/

namespace DirectoryInterchange

/-- How many records there were, and how many that could not be read. -/
structure Summary where
  records : Nat := 0
  errors : Nat := 0
  deriving DecidableEq, Repr

namespace Summary

/-- Counts answers; an answer without a record or an error counts for nothing. -/
def ofAnswers (answers : List Reading.Reader.Answer) : Summary where
  records := answers.countP fun
    | .ok (some _) => true
    | _ => false
  errors := answers.countP fun
    | .error _ => true
    | _ => false

end Summary

/-- What comes of a command. -/
structure Run where
  outcome : Except Fault Summary
  /-- What went to the standard output. -/
  printed : Bytes := []
  /-- The file that was written, and its content. -/
  written : Option (String × Bytes) := none
  /-- Paths that values were wanted from and that led nowhere. -/
  missing : List String := []

namespace Run

def failed (fault : Fault) : Run :=
  { outcome := .error fault }

/-- Sends bytes to a file, or to the standard output. -/
def sent (outcome : Except Fault Summary) (output : Option String) (bytes : Bytes) : Run :=
  match output with
  | none => { outcome, printed := bytes }
  | some path => { outcome, written := some (path, bytes) }

end Run

/-- Opens a file for reading.  A folder can be opened, and reading it fails. -/
def FileSystem.input (fileSystem : FileSystem) (path : String) : Except Fault Reading.Input :=
  match fileSystem.place path with
  | .file bytes => .ok { bytes }
  | .folder => .ok { bytes := [], failure := some PathProblem.isAFolder.message }
  | .nothing problem => .error (.file problem.message)

/-- Creates the file for the output, when there is to be one. -/
def FileSystem.create (fileSystem : FileSystem) (output : Option String) : Except Fault Unit :=
  match output.bind fileSystem.obstacle? with
  | none => .ok ()
  | some problem => .error (.file problem.message)

/-- The number of the last message that a document can have, the largest of 32
bits with a sign. -/
def Message.lastId : Nat := 2147483647

/-- The messages for records, numbered from 1. -/
def Message.ofRecords (records : List Record) : List Message :=
  (records.zipIdx 1).map fun (record, id) => Message.ofRecord (Int32.ofNat id) record

/-- The messages for records one after another, as long as there are numbers. -/
def Message.encodeRecords (records : List Record) : Bytes :=
  ({} : Message.Codec).send (Message.ofRecords (records.take Message.lastId))

/-- The paths from which values were wanted in vain. -/
def Reading.missingFiles (answers : List Reading.Reader.Answer) : List String :=
  answers.filterMap fun
    | .error (.record { problem := .unreadableFile path _, .. }) => some path
    | _ => none

namespace Configuration

/-- The pool of a configuration with so many workers. -/
def setup (configuration : Configuration) (fileSystem : FileSystem) (workers : Nat) :
    Reading.Pool.Setup :=
  .ofRequest { context := { options := configuration.reading, files := fileSystem.files } }
    configuration.queueCapacity workers

/-- The records of an input, and an error in the place of each that cannot be
read.  More workers than there are places in the window would have no work. -/
def answers (configuration : Configuration) (fileSystem : FileSystem) (input : Reading.Input) :
    List Reading.Reader.Answer :=
  let places := 2 * configuration.queueCapacity
  let workers := min (configuration.workers.getD 1) places
  Reading.Pool.answers (configuration.setup fileSystem workers) input

/-- What a verb makes of the answers. -/
def deliver (configuration : Configuration) (answers : List Reading.Reader.Answer) : Run :=
  let summary := Summary.ofAnswers answers
  let records := Reading.recordsOf answers
  let output := configuration.command.output
  match configuration.command.verb with
  | .validate | .outline => { outcome := .ok summary }
  | .reformat =>
      .sent (.ok summary) output
        (Utf8.encode (Record.document configuration.wrapColumn true records))
  | .convert =>
      let outcome :=
        if Message.lastId < records.length then .error (.protocol .idsExhausted) else .ok summary
      .sent outcome output (Message.encodeRecords records)

/-- Prints the elements of an input. -/
def outline (input : Reading.Input) : Run :=
  let events := if input.bytes.isEmpty then [] else [.bytes input.bytes]
  let walk := Element.Outline.ofSource { events, failure := input.failure }
  { outcome :=
      match walk.outcome with
      | .ok () => .ok { records := walk.nodes.length }
      | .error error => .error (.element error)
    printed := Utf8.encode walk.text }

/-- Carries out the command of a configuration whose output, if any, is another
file than its input. -/
def run (configuration : Configuration) (fileSystem : FileSystem) : Run :=
  match fileSystem.input configuration.command.file with
  | .error fault => .failed fault
  | .ok input =>
      match configuration.command.verb with
      | .outline => outline input
      | _ =>
          match fileSystem.create configuration.command.output with
          | .error fault => .failed fault
          | .ok () =>
              let answers := configuration.answers fileSystem input
              { configuration.deliver answers with missing := Reading.missingFiles answers }

end Configuration

end DirectoryInterchange
