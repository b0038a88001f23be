import DirectoryInterchange.Block.Decoding
import DirectoryInterchange.Reading.Input

/-!
Reading records one after another.

A record that cannot be decoded is an error in its place, and the next call
goes on behind it.  Behind the end of the input, a failure to read it, or an
error that does not allow to continue, nothing more is read.
-/

namespace DirectoryInterchange.Reading

structure Reader (Rule : Type := MatchingRule) where
  context : Block.Context Rule
  feed : Feed
  finished : Bool := false
  /-- How many blocks were decoded, successfully or not. -/
  recordsRead : Nat := 0

namespace Reader

/-- A record, none at the end, or an error. -/
abbrev Answer := Except Fault (Option Record)

variable {Rule : Type}

def start (context : Block.Context Rule) (input : Input) : Reader Rule :=
  { context, feed := { input } }

/-- The next block, none at the end: reads lines until a block is complete. -/
def nextBlock (reader : Reader Rule) : Except Fault (Option Block) × Reader Rule :=
  if reader.finished then (.ok none, reader)
  else
    match _ : reader.feed.input.readUntilLineFeed with
    | (.error fault, input) =>
        (.error fault, { reader with feed := { reader.feed with input }, finished := true })
    | (.ok [], input) =>
        let (block, grouping) := reader.feed.grouping.finish
        (.ok block, { reader with feed := { input, grouping }, finished := true })
    | (.ok (byte :: bytes), input) =>
        match reader.feed.grouping.pushBytes (withoutLineFeed (byte :: bytes)) with
        | (.error error, grouping) =>
            (.error (.record error), { reader with feed := { input, grouping }, finished := true })
        | (.ok (some block), grouping) =>
            (.ok (some block), { reader with feed := { input, grouping } })
        | (.ok none, grouping) => nextBlock { reader with feed := { input, grouping } }
  termination_by reader.feed.input.bytes.length
  decreasing_by
    have := Input.length_readUntilLineFeed ‹_›
    simp at this ⊢
    omega

def readRecord [Matching Rule] (reader : Reader Rule) : Answer × Reader Rule :=
  match reader.nextBlock with
  | (.error fault, reader) => (.error fault, reader)
  | (.ok none, reader) => (.ok none, reader)
  | (.ok (some block), reader) =>
      let reader := { reader with recordsRead := reader.recordsRead + 1 }
      match block.decode reader.context with
      | .ok record => (.ok (some record), reader)
      | .error error =>
          (.error (.record error),
            { reader with finished := reader.finished || !error.mayContinue })

def mismatch (problem : Record.Problem) : Answer :=
  .error (.record { problem, mayContinue := true })

/-- Lets only entries through. -/
def requireEntry : Record → Answer
  | .entry dn attributes => .ok (some (.entry dn attributes))
  | .change dn _ _ => mismatch (.entryExpected dn)

/-- Lets only changes through; with `addEntries` an entry counts as its addition. -/
def requireChange (addEntries : Bool) : Record → Answer
  | .change dn controls change => .ok (some (.change dn controls change))
  | .entry dn attributes =>
      if addEntries then .ok (some (.change dn [] (.add attributes)))
      else mismatch (.changeExpected dn)

/-- Applies a check to the record of an answer. -/
def checked (check : Record → Answer) : Answer × Reader Rule → Answer × Reader Rule
  | (.ok (some record), reader) => (check record, reader)
  | other => other

/-- The next record, which must be an entry. -/
def readEntry [Matching Rule] (reader : Reader Rule) : Answer × Reader Rule :=
  checked requireEntry reader.readRecord

/-- The next record, which must be a change. -/
def readChange [Matching Rule] (addEntries : Bool) (reader : Reader Rule) : Answer × Reader Rule :=
  checked (requireChange addEntries) reader.readRecord

/-- An answer as an item of an iteration, which is over when there is none. -/
def Answer.toItem : Answer → Option (Except Fault Record)
  | .ok none => none
  | .ok (some record) => some (.ok record)
  | .error fault => some (.error fault)

def Answer.ofItem : Option (Except Fault Record) → Answer
  | none => .ok none
  | some (.ok record) => .ok (some record)
  | some (.error fault) => .error fault

/-- The next record as an item of an iteration. -/
def next [Matching Rule] (reader : Reader Rule) : Option (Except Fault Record) × Reader Rule :=
  let (answer, reader) := reader.readRecord
  (answer.toItem, reader)

/-- The ways to ask for the next record. -/
inductive Request
  | record
  | item
  | entry
  | change (addEntries : Bool)
  deriving DecidableEq, Repr

def ask [Matching Rule] (reader : Reader Rule) : Request → Answer × Reader Rule
  | .record => reader.readRecord
  | .item =>
      let (item, reader) := reader.next
      (.ofItem item, reader)
  | .entry => reader.readEntry
  | .change addEntries => reader.readChange addEntries

/-- The answers to one request after another, and the reader behind them. -/
def askAll [Matching Rule] (reader : Reader Rule) : List Request → List Answer × Reader Rule
  | [] => ([], reader)
  | request :: requests =>
      let (answer, reader) := reader.ask request
      let (answers, reader) := reader.askAll requests
      (answer :: answers, reader)

end Reader

end DirectoryInterchange.Reading
