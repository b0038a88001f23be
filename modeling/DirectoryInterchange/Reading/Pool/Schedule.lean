import DirectoryInterchange.Reading.Pool.State

/-!
Running a pool by a fixed schedule: the consumer acts whenever it can, then
the workers in turn, and the feeder last.
-/

namespace DirectoryInterchange.Reading.Pool.State

variable {Rule : Type}

/-- Every action that a pool with so many workers may take, the preferred first. -/
def actions (workers : Nat) : List Action :=
  [.deliver, .receive, .notice]
    ++ (List.range workers).flatMap (fun index =>
        [.finish index, .crash index, .take index, .leave index])
    ++ [.submit, .abandon, .reserve, .read]

/-- The first possible action. -/
def next? [Matching Rule] (setup : Setup Rule) (state : State) : Effect :=
  (actions state.workers.length).findSome? (state.perform setup)

/-- How far an item in the feeder's hands is from being delivered, with the
items that may still come out of the input. -/
def feederWork (feeder : Feeder) : Nat :=
  let remaining := 7 * if feeder.ending then 1 else feeder.feed.input.bytes.length + 2
  match feeder.stage with
  | .reading => remaining
  | .holding item => 6 + if item.isLast then 0 else remaining
  | .admitted item => 5 + if item.isLast then 0 else remaining
  | .stopped | .abandoned => 0

def workerWork : Worker → Nat
  | .idle => 1
  | .busy .. => 4
  | .gone => 0

/-- A bound on the actions that are still possible. -/
def work (state : State) : Nat :=
  feederWork state.feeder + 4 * state.queue.length + state.workers.foldr (workerWork · + ·) 0
    + 2 * state.results.length + state.early.length + if state.complete then 0 else 1

/-- Acts until the reader gets an answer, or until nothing is possible. -/
def answerWithin [Matching Rule] (setup : Setup Rule) :
    (fuel : Nat) → State → Option Reader.Answer × State
  | 0, state => (none, state)
  | fuel + 1, state =>
      if state.complete && (state.early.lookup state.due).isNone then (some (.ok none), state)
      else
        match state.next? setup with
        | none => (none, state)
        | some (some answer, state) => (some answer, state)
        | some (none, state) => answerWithin setup fuel state

/-- The next record in the order of the input, none at the end, or an error.
There is no answer when the pool waits forever. -/
def readRecord [Matching Rule] (setup : Setup Rule) (state : State) :
    Option Reader.Answer × State :=
  answerWithin setup (state.work + 1) state

end DirectoryInterchange.Reading.Pool.State
