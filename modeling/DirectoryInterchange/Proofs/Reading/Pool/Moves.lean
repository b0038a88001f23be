import DirectoryInterchange.Reading.Pool.State

/-!
What a step of a pool can be: the actions with what each of them takes for
granted and what it leaves behind.
-/

namespace DirectoryInterchange.Reading.Pool.State

variable {Rule : Type} [Matching Rule]

/-- The steps of a pool, one constructor for each action. -/
inductive Move (setup : Setup Rule) (state : State) : Option Reader.Answer → State → Prop
  | read (reading : state.feeder.stage = .reading) :
      Move setup state none { state with feeder := state.feeder.read }
  | reserve {item : Item} (holding : state.feeder.stage = .holding item)
      (free : 0 < state.places) :
      Move setup state none
        { state with
          feeder := { state.feeder with stage := .admitted item }
          places := state.places - 1 }
  | submit {item : Item} (admitted : state.feeder.stage = .admitted item)
      (room : state.queue.length < setup.capacity) (staffed : state.deserted = false) :
      Move setup state none
        { state with
          feeder := state.feeder.sent item
          queue := state.queue ++ [(state.nextNumber, item)]
          nextNumber := state.nextNumber + 1 }
  | abandon {item : Item} (admitted : state.feeder.stage = .admitted item)
      (deserted : state.deserted) :
      Move setup state none { state with feeder := { state.feeder with stage := .abandoned } }
  | take {before after : List Worker} {number : Nat} {item : Item} {queue : List (Nat × Item)}
      (workers : state.workers = before ++ .idle :: after)
      (waiting : state.queue = (number, item) :: queue) :
      Move setup state none
        { state with queue, workers := before ++ .busy number item :: after }
  | finish {before after : List Worker} {number : Nat} {item : Item} {outcome : Outcome}
      (workers : state.workers = before ++ .busy number item :: after)
      (found : setup.job.outcome? item = some outcome)
      (room : state.results.length < setup.window) :
      Move setup state none
        { state with
          results := state.results ++ [(number, outcome)]
          workers := before ++ .idle :: after }
  | crash {before after : List Worker} {number : Nat} {item : Item}
      (workers : state.workers = before ++ .busy number item :: after)
      (lost : setup.job.outcome? item = none) :
      Move setup state none { state with workers := before ++ .gone :: after }
  | leave {before after : List Worker}
      (workers : state.workers = before ++ .idle :: after)
      (empty : state.queue = []) (stopped : state.feeder.stage = .stopped) :
      Move setup state none { state with workers := before ++ .gone :: after }
  | deliver {outcome : Outcome} (found : state.early.lookup state.due = some outcome) :
      Move setup state (answer outcome).1
        { state with
          early := state.early.filter (·.1 != state.due)
          due := state.due + 1
          places := state.places + 1
          complete := state.complete || (answer outcome).2 }
  | receive {number : Nat} {outcome : Outcome} {results : List (Nat × Outcome)}
      (arrived : state.results = (number, outcome) :: results) (waiting : state.waits) :
      Move setup state none { state with results, early := (number, outcome) :: state.early }
  | notice (waiting : state.waits) (empty : state.results = []) (deserted : state.deserted) :
      Move setup state (some (.error stoppedEarly)) { state with complete := true }

/-- A worker in its place, and what replacing it does. -/
theorem workers_split
    {workers : List Worker} {index : Nat} {worker : Worker}
    (found : workers[index]? = some worker) (other : Worker) :
    ∃ before after, workers = before ++ worker :: after
      ∧ workers.set index other = before ++ other :: after := by
  obtain ⟨inside, same⟩ := List.getElem?_eq_some_iff.mp found
  obtain ⟨before, after, split, -, replaced⟩ := @List.exists_of_set _ index other _ inside
  rw [same] at split
  exact ⟨before, after, split, replaced⟩

variable {setup : Setup Rule} {state next : State} {answer : Option Reader.Answer}

/-! ### Actions of the feeder -/

theorem move_of_read (performed : state.perform setup .read = some (answer, next)) :
    Move setup state answer next := by
  simp only [perform] at performed
  split at performed
  · next reading => cases performed; exact .read reading
  · cases performed

theorem move_of_reserve (performed : state.perform setup .reserve = some (answer, next)) :
    Move setup state answer next := by
  simp only [perform] at performed
  split at performed
  · next item holding =>
      split at performed
      · next free => cases performed; exact .reserve holding free
      · cases performed
  · cases performed

theorem move_of_submit (performed : state.perform setup .submit = some (answer, next)) :
    Move setup state answer next := by
  simp only [perform] at performed
  split at performed
  · next item admitted =>
      split at performed
      · next both =>
          cases performed
          simp only [Bool.and_eq_true, decide_eq_true_eq, Bool.not_eq_true'] at both
          exact .submit admitted both.1 both.2
      · cases performed
  · cases performed

theorem move_of_abandon (performed : state.perform setup .abandon = some (answer, next)) :
    Move setup state answer next := by
  simp only [perform] at performed
  split at performed
  · next item admitted =>
      split at performed
      · next deserted => cases performed; exact .abandon admitted deserted
      · cases performed
  · cases performed

/-! ### Actions of the workers -/

theorem move_of_take
    {index : Nat} (performed : state.perform setup (.take index) = some (answer, next)) :
    Move setup state answer next := by
  simp only [perform] at performed
  split at performed
  · next number item queue idle waiting =>
      obtain ⟨before, after, split, replaced⟩ := workers_split idle (.busy number item)
      cases performed
      rw [setWorker, replaced]
      exact .take split waiting
  · cases performed

theorem move_of_finish
    {index : Nat} (performed : state.perform setup (.finish index) = some (answer, next)) :
    Move setup state answer next := by
  simp only [perform] at performed
  split at performed
  · next number item busy =>
      split at performed
      · next outcome found =>
          split at performed
          · next room =>
              obtain ⟨before, after, split, replaced⟩ := workers_split busy .idle
              cases performed
              rw [setWorker, replaced]
              exact .finish split found room
          · cases performed
      · cases performed
  · cases performed

theorem move_of_crash
    {index : Nat} (performed : state.perform setup (.crash index) = some (answer, next)) :
    Move setup state answer next := by
  simp only [perform] at performed
  split at performed
  · next number item busy =>
      split at performed
      · next lost =>
          obtain ⟨before, after, split, replaced⟩ := workers_split busy .gone
          cases performed
          rw [setWorker, replaced]
          exact .crash split lost
      · cases performed
  · cases performed

theorem move_of_leave
    {index : Nat} (performed : state.perform setup (.leave index) = some (answer, next)) :
    Move setup state answer next := by
  simp only [perform] at performed
  split at performed
  · next idle =>
      split at performed
      · next both =>
          obtain ⟨before, after, split, replaced⟩ := workers_split idle .gone
          simp only [Bool.and_eq_true, List.isEmpty_iff, beq_iff_eq] at both
          cases performed
          rw [setWorker, replaced]
          exact .leave split both.1 both.2
      · cases performed
  · cases performed

/-! ### Actions of the consumer -/

theorem move_of_deliver (performed : state.perform setup .deliver = some (answer, next)) :
    Move setup state answer next := by
  simp only [perform] at performed
  split at performed
  · next outcome found => cases performed; exact .deliver found
  · cases performed

theorem move_of_receive (performed : state.perform setup .receive = some (answer, next)) :
    Move setup state answer next := by
  simp only [perform] at performed
  split at performed
  · next number outcome results arrived =>
      split at performed
      · next waiting => cases performed; exact .receive arrived waiting
      · cases performed
  · cases performed

theorem move_of_notice (performed : state.perform setup .notice = some (answer, next)) :
    Move setup state answer next := by
  simp only [perform] at performed
  split at performed
  · next all =>
      simp only [Bool.and_eq_true, List.isEmpty_iff] at all
      cases performed
      exact .notice all.1.1 all.1.2 all.2
  · cases performed

/-! ### Steps -/

theorem move_of_step (step : Step setup state answer next) : Move setup state answer next := by
  obtain ⟨action, performed⟩ := step
  cases action with
  | read => exact move_of_read performed
  | reserve => exact move_of_reserve performed
  | submit => exact move_of_submit performed
  | abandon => exact move_of_abandon performed
  | take index => exact move_of_take performed
  | finish index => exact move_of_finish performed
  | crash index => exact move_of_crash performed
  | leave index => exact move_of_leave performed
  | deliver => exact move_of_deliver performed
  | receive => exact move_of_receive performed
  | notice => exact move_of_notice performed

theorem getElem?_middle (before after : List Worker) (worker : Worker) :
    (before ++ worker :: after)[before.length]? = some worker := by
  simp

theorem set_middle (before after : List Worker) (worker other : Worker) :
    (before ++ worker :: after).set before.length other = before ++ other :: after := by
  simp

theorem step_of_move (move : Move setup state answer next) : Step setup state answer next := by
  cases move with
  | read reading => exact ⟨.read, by simp only [perform, reading, silently]⟩
  | reserve holding free =>
      exact ⟨.reserve, by simp only [perform, holding, free, if_true, silently]⟩
  | submit admitted room staffed =>
      refine ⟨.submit, ?_⟩
      simp only [perform, admitted, room, staffed, silently]
      rfl
  | abandon admitted deserted =>
      exact ⟨.abandon, by simp only [perform, admitted, deserted, if_true, silently]⟩
  | @take before after number item queue workers waiting =>
      refine ⟨.take before.length, ?_⟩
      simp only [perform, workers, getElem?_middle, waiting, silently, setWorker, set_middle]
  | @finish before after number item outcome workers found room =>
      refine ⟨.finish before.length, ?_⟩
      simp only [perform, workers, getElem?_middle, found, room, if_true, silently, setWorker,
        set_middle]
  | @crash before after number item workers lost =>
      refine ⟨.crash before.length, ?_⟩
      simp only [perform, workers, getElem?_middle, lost, silently, setWorker, set_middle]
  | @leave before after workers empty stopped =>
      refine ⟨.leave before.length, ?_⟩
      simp only [perform, workers, getElem?_middle, empty, stopped, silently, setWorker, set_middle]
      rfl
  | deliver found => exact ⟨.deliver, by simp only [perform, found]⟩
  | receive arrived waiting =>
      exact ⟨.receive, by simp only [perform, arrived, waiting, if_true, silently]⟩
  | notice waiting empty deserted =>
      refine ⟨.notice, ?_⟩
      simp only [perform, waiting, empty, deserted]
      rfl

end DirectoryInterchange.Reading.Pool.State
