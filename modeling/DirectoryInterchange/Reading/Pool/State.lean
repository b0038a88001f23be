import DirectoryInterchange.Reading.Pool.Job
import DirectoryInterchange.Reading.Reader

/-!
A pool of workers that decodes records out of order and delivers them in the
order of the input.

The feeder numbers its items.  It puts an item into a bounded queue after it
has taken a place in a window of twice the queue's capacity; the consumer
returns the place when it has delivered that number.  Workers take items from
the queue and put outcomes into a second queue, from which the consumer sorts
them by number.  `perform` says what each action does and when it is possible;
any possible action may come next.
-/

namespace DirectoryInterchange.Reading.Pool

inductive Worker
  | idle
  | busy (number : Nat) (item : Item)
  /-- It has left, or has stopped over an item. -/
  | gone
  deriving DecidableEq, Repr

structure State where
  feeder : Feeder
  /-- The number for the next item. -/
  nextNumber : Nat := 0
  /-- Places left in the window. -/
  places : Nat
  /-- Numbered items, the oldest first. -/
  queue : List (Nat × Item) := []
  workers : List Worker
  /-- Numbered outcomes on their way to the consumer, the oldest first. -/
  results : List (Nat × Outcome) := []
  /-- Outcomes that the consumer keeps until their number is due. -/
  early : List (Nat × Outcome) := []
  /-- The number that is delivered next. -/
  due : Nat := 0
  complete : Bool := false
  deriving DecidableEq, Repr

inductive Action
  | read
  | reserve
  | submit
  /-- The feeder finds that no worker is left. -/
  | abandon
  | take (worker : Nat)
  | finish (worker : Nat)
  /-- A worker stops over its item. -/
  | crash (worker : Nat)
  /-- A worker finds that no item will come. -/
  | leave (worker : Nat)
  | deliver
  | receive
  /-- The consumer finds that no outcome will come. -/
  | notice
  deriving DecidableEq, Repr

/-- A pool: what it works on, how many items its queue holds, and how many
workers it begins with. -/
structure Setup (Rule : Type := MatchingRule) where
  job : Job Rule
  capacity : Nat
  workers : Nat
  capacity_pos : 0 < capacity
  workers_pos : 0 < workers

namespace Setup

variable {Rule : Type}

/-- The pool for the capacity and the number of workers that are asked for.  There
is always room for one item, and there is always one worker. -/
def ofRequest (job : Job Rule) (queueCapacity threads : Nat) : Setup Rule where
  job
  capacity := max queueCapacity 1
  workers := max threads 1
  capacity_pos := Nat.le_max_right queueCapacity 1
  workers_pos := Nat.le_max_right threads 1

/-- How many items may be on their way between feeder and consumer. -/
def window (setup : Setup Rule) : Nat :=
  2 * setup.capacity

end Setup

namespace State

variable {Rule : Type}

/-- The pool before anything has happened. -/
def start (setup : Setup Rule) (input : Input) : State :=
  { feeder := { feed := { input } }
    places := setup.window
    workers := List.replicate setup.workers .idle }

/-- Whether every worker is gone. -/
def deserted (state : State) : Bool :=
  state.workers.all (· == .gone)

def setWorker (state : State) (index : Nat) (worker : Worker) : State :=
  { state with workers := state.workers.set index worker }

/-- The error of a pool whose workers are all gone before the end. -/
def stoppedEarly : Fault :=
  .record { problem := .stoppedEarly, mayContinue := false }

/-- What the consumer answers to an outcome, and whether it is the last. -/
def answer : Outcome → Option Reader.Answer × Bool
  | .record record => (some (.ok (some record)), false)
  | .dropped => (none, false)
  | .failed fault => (some (.error fault), false)
  | .ended => (some (.ok none), true)
  | .aborted fault => (some (.error fault), true)

/-- An action of the consumer or of others: the answer that a reader gets by
it, if any, and the state behind it. -/
abbrev Effect := Option (Option Reader.Answer × State)

def silently (state : State) : Effect :=
  some (none, state)

/-- Whether the consumer waits for an outcome. -/
def waits (state : State) : Bool :=
  !state.complete && (state.early.lookup state.due).isNone

def perform [Matching Rule] (setup : Setup Rule) (state : State) : Action → Effect
  | .read =>
      match state.feeder.stage with
      | .reading => silently { state with feeder := state.feeder.read }
      | _ => none
  | .reserve =>
      match state.feeder.stage with
      | .holding item =>
          if 0 < state.places then
            silently
              { state with
                feeder := { state.feeder with stage := .admitted item }
                places := state.places - 1 }
          else none
      | _ => none
  | .submit =>
      match state.feeder.stage with
      | .admitted item =>
          if state.queue.length < setup.capacity && !state.deserted then
            silently
              { state with
                feeder := state.feeder.sent item
                queue := state.queue ++ [(state.nextNumber, item)]
                nextNumber := state.nextNumber + 1 }
          else none
      | _ => none
  | .abandon =>
      match state.feeder.stage with
      | .admitted _ =>
          if state.deserted then
            silently { state with feeder := { state.feeder with stage := .abandoned } }
          else none
      | _ => none
  | .take index =>
      match state.workers[index]?, state.queue with
      | some .idle, (number, item) :: queue =>
          silently ({ state with queue }.setWorker index (.busy number item))
      | _, _ => none
  | .finish index =>
      match state.workers[index]? with
      | some (.busy number item) =>
          match setup.job.outcome? item with
          | some outcome =>
              if state.results.length < setup.window then
                silently
                  ({ state with results := state.results ++ [(number, outcome)] }.setWorker index
                    .idle)
              else none
          | none => none
      | _ => none
  | .crash index =>
      match state.workers[index]? with
      | some (.busy _ item) =>
          match setup.job.outcome? item with
          | none => silently (state.setWorker index .gone)
          | some _ => none
      | _ => none
  | .leave index =>
      match state.workers[index]? with
      | some .idle =>
          if state.queue.isEmpty && state.feeder.stage == .stopped then
            silently (state.setWorker index .gone)
          else none
      | _ => none
  | .deliver =>
      match state.early.lookup state.due with
      | some outcome =>
          let (answer, last) := answer outcome
          some (answer,
            { state with
              early := state.early.filter (·.1 != state.due)
              due := state.due + 1
              places := state.places + 1
              complete := state.complete || last })
      | none => none
  | .receive =>
      match state.results with
      | (number, outcome) :: results =>
          if state.waits then
            silently { state with results, early := (number, outcome) :: state.early }
          else none
      | [] => none
  | .notice =>
      if state.waits && state.results.isEmpty && state.deserted then
        some (some (.error stoppedEarly), { state with complete := true })
      else none

/-- One action of the pool. -/
def Step [Matching Rule] (setup : Setup Rule) (state : State) (answer : Option Reader.Answer)
    (next : State) : Prop :=
  ∃ action, state.perform setup action = some (answer, next)

/-- Several actions, with the answers that the reader got by them. -/
inductive Run [Matching Rule] (setup : Setup Rule) : State → List Reader.Answer → State → Prop
  | refl (state : State) : Run setup state [] state
  | step {state middle final : State} {answer : Option Reader.Answer}
      {answers : List Reader.Answer} :
      Step setup state answer middle → Run setup middle answers final →
      Run setup state (answer.toList ++ answers) final

end State

end DirectoryInterchange.Reading.Pool
