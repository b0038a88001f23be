import DirectoryInterchange.Block.Decoding
import DirectoryInterchange.Reading.Input

/-!
The work that a pool of workers shares.

A feeder hands out the blocks of an input and, at last, one item that says how
the input ended.  A worker turns an item into its outcome; an adjustment of
records may take part in that and may stop the worker for good.
-/

namespace DirectoryInterchange.Reading.Pool

inductive Item
  | block (block : Block)
  | ended
  | failed (fault : Fault)
  deriving DecidableEq, Repr

/-- Whether nothing follows an item. -/
def Item.isLast : Item → Bool
  | block _ => false
  | _ => true

inductive Outcome
  | record (record : Record)
  /-- A record that keeps its place and is not delivered. -/
  | dropped
  | failed (fault : Fault)
  | ended
  /-- A failure behind which nothing is read. -/
  | aborted (fault : Fault)
  deriving DecidableEq, Repr

/-- What becomes of a decoded record. -/
inductive Adjustment
  | keep (record : Record)
  | drop
  | reject (error : Record.Error)
  /-- The worker stops and the record is lost. -/
  | crash
  deriving DecidableEq, Repr

/-- An adjustment that leaves every record as it is. -/
def Adjustment.identity (record : Record) (_firstLine : Nat) : Adjustment :=
  .keep record

/-- How items are worked on. -/
structure Job (Rule : Type := MatchingRule) where
  context : Block.Context Rule
  adjust : Record → Nat → Adjustment := Adjustment.identity

namespace Job

/-- The outcome of an adjustment, none when the worker stops. -/
def adjusted : Adjustment → Option Outcome
  | .keep record => some (.record record)
  | .drop => some .dropped
  | .reject error => some (.failed (.record error))
  | .crash => none

/-- The outcome of an item, none when the worker stops over it. -/
def outcome? {Rule : Type} [Matching Rule] (job : Job Rule) : Item → Option Outcome
  | .ended => some .ended
  | .failed fault => some (.aborted fault)
  | .block block =>
      match block.decode job.context with
      | .error error => some (.failed (.record error))
      | .ok record => adjusted (job.adjust record block.firstLine)

end Job

/-- What the feeder is about to do. -/
inductive Stage
  | reading
  /-- It has an item and waits for a place in the window. -/
  | holding (item : Item)
  /-- It has an item and a place, and waits for room in the queue. -/
  | admitted (item : Item)
  | stopped
  /-- It has given up over an item, and the place for that stays taken. -/
  | abandoned
  deriving DecidableEq, Repr

structure Feeder where
  feed : Feed
  /-- Whether the input has ended and only that remains to be said. -/
  ending : Bool := false
  stage : Stage := .reading
  deriving DecidableEq, Repr

namespace Feeder

/-- Gets hold of the next item: reads lines until there is one. -/
def read (feeder : Feeder) : Feeder :=
  if feeder.ending then { feeder with stage := .holding .ended }
  else
    match _ : feeder.feed.input.nextSegment with
    | (.error fault, input) =>
        { feeder with feed := { feeder.feed with input }, stage := .holding (.failed fault) }
    | (.ok none, input) =>
        match feeder.feed.grouping.finish with
        | (some block, grouping) =>
            { feed := { input, grouping }, ending := true, stage := .holding (.block block) }
        | (none, grouping) =>
            { feed := { input, grouping }, ending := true, stage := .holding .ended }
    | (.ok (some line), input) =>
        match feeder.feed.grouping.pushBytes line with
        | (.error error, grouping) =>
            { feeder with
              feed := { input, grouping }
              stage := .holding (.failed (.record error)) }
        | (.ok (some block), grouping) =>
            { feeder with feed := { input, grouping }, stage := .holding (.block block) }
        | (.ok none, grouping) => read { feeder with feed := { input, grouping } }
  termination_by feeder.feed.input.bytes.length
  decreasing_by exact Input.length_nextSegment ‹_›

/-- The feeder when an item has been handed out. -/
def sent (feeder : Feeder) (item : Item) : Feeder :=
  { feeder with stage := if item.isLast then .stopped else .reading }

end Feeder

end DirectoryInterchange.Reading.Pool
