import DirectoryInterchange.Proofs.Reading.Pool.Invariant
import DirectoryInterchange.Reading.Pool.Schedule

/-!
A pool that is not complete can act, and every action brings it closer to the
end.
-/

namespace DirectoryInterchange.Reading.Pool.State

variable {Rule : Type} [Matching Rule]

/-! ### Acting -/

/-- The feeder waits for a place in the window, the workers that are left wait
for an item, and the consumer waits for an outcome. -/
structure Starved (state : State) : Prop where
  absent : state.early.lookup state.due = none
  empty : state.results = []
  idle : .idle ∈ state.workers
  unoccupied : ∀ number item, .busy number item ∉ state.workers
  drained : state.queue = []
  holding : ∃ item, state.feeder.stage = .holding item
  full : state.places = 0

theorem Starved.held_eq_nil {state : State} (starved : state.Starved) : state.held = [] := by
  rw [held, starved.drained, List.nil_append, List.flatMap_eq_nil_iff]
  intro worker member
  cases worker with
  | idle => rfl
  | busy number item => exact absurd member (starved.unoccupied number item)
  | gone => rfl

theorem exists_idle {state : State} (unoccupied : ∀ number item, .busy number item ∉ state.workers)
    (staffed : ¬state.deserted) : .idle ∈ state.workers := by
  by_contra absent
  apply staffed
  apply List.all_eq_true.mpr
  intro worker member
  cases worker with
  | idle => exact absurd member absent
  | busy number item => exact absurd member (unoccupied number item)
  | gone => rfl

namespace Invariant

variable {setup : Setup Rule} {items : List Item} {state : State}

omit [Matching Rule] in
theorem window_pos (setup : Setup Rule) : 0 < setup.window := by
  have := setup.capacity_pos
  rw [Setup.window]
  omega

/-- In a pool that is starved everything handed out has arrived, so what is due
was lost. -/
theorem loses_of_starved
    (holds : Invariant setup items state) (starved : state.Starved) :
    setup.job.Loses items state.due := by
  obtain ⟨item, holding⟩ := starved.holding
  have window := holds.window
  have positive := window_pos setup
  have full := starved.full
  simp only [Feeder.reserved, holding] at window
  refine holds.loses_of_absent ?_ starved.empty starved.absent (by omega)
  rw [starved.held_eq_nil]
  exact List.not_mem_nil

/-- A pool that is not complete can act unless it is starved. -/
theorem exists_move_or_starved
    (holds : Invariant setup items state) (incomplete : state.complete = false) :
    (∃ answer next, Move setup state answer next) ∨ state.Starved := by
  rcases early : state.early.lookup state.due with _ | outcome
  · have waiting : state.waits := by simp [waits, incomplete, early]
    rcases arrived : state.results with _ | ⟨⟨number, outcome⟩, results⟩
    · by_cases busy : ∃ number item, Worker.busy number item ∈ state.workers
      · obtain ⟨number, item, member⟩ := busy
        obtain ⟨before, after, workers⟩ := List.append_of_mem member
        have room : state.results.length < setup.window := by
          rw [arrived]
          exact window_pos setup
        left
        cases found : setup.job.outcome? item with
        | some outcome => exact ⟨_, _, .finish workers found room⟩
        | none => exact ⟨_, _, .crash workers found⟩
      · by_cases deserted : state.deserted
        · exact Or.inl ⟨_, _, .notice waiting arrived deserted⟩
        · have idle := exists_idle (fun number item member => busy ⟨number, item, member⟩) deserted
          obtain ⟨before, after, workers⟩ := List.append_of_mem idle
          rcases queue : state.queue with _ | ⟨⟨number, item⟩, rest⟩
          · have room : state.queue.length < setup.capacity := by
              rw [queue]
              exact setup.capacity_pos
            have staffed := not_deserted workers Worker.noConfusion
            cases stage : state.feeder.stage with
            | reading => exact Or.inl ⟨_, _, .read stage⟩
            | holding item =>
                by_cases free : 0 < state.places
                · exact Or.inl ⟨_, _, .reserve stage free⟩
                · right
                  have full := Nat.eq_zero_of_not_pos free
                  have nobody := fun number item member => busy ⟨number, item, member⟩
                  exact ⟨early, arrived, idle, nobody, queue, ⟨item, stage⟩, full⟩
            | admitted item => exact Or.inl ⟨_, _, .submit stage room staffed⟩
            | stopped => exact Or.inl ⟨_, _, .leave workers queue stage⟩
            | abandoned => exact absurd (holds.abandoned stage) deserted
          · exact Or.inl ⟨_, _, .take workers queue⟩
    · exact Or.inl ⟨_, _, .receive arrived waiting⟩
  · exact Or.inl ⟨_, _, .deliver early⟩

theorem exists_move
    (holds : Invariant setup items state) (safe : ¬setup.job.Crashes items)
    (incomplete : state.complete = false) : ∃ answer next, Move setup state answer next := by
  rcases holds.exists_move_or_starved incomplete with move | starved
  · exact move
  · exact absurd ⟨state.due, holds.loses_of_starved starved⟩ safe

/-- A pool without a worker that stops over an item is never stuck. -/
theorem progress
    (holds : Invariant setup items state) (safe : ¬setup.job.Crashes items)
    (incomplete : state.complete = false) : ∃ answer next, Step setup state answer next := by
  obtain ⟨answer, next, move⟩ := holds.exists_move safe incomplete
  exact ⟨answer, next, step_of_move move⟩

end Invariant

/-! ### Coming closer to the end -/

theorem feederWork_read
    {feeder : Feeder} (reading : feeder.stage = .reading) :
    feederWork feeder.read < feederWork feeder := by
  fun_induction Feeder.read feeder with
  | case1 feeder ending => simp [feederWork, reading, ending, Item.isLast]
  | case2 feeder going fault input next =>
      simp [feederWork, reading, going, Item.isLast]
      omega
  | case3 feeder going input next block grouping finished =>
      simp [feederWork, reading, going, Item.isLast]
      omega
  | case4 feeder going input next grouping finished =>
      simp [feederWork, reading, going, Item.isLast]
      omega
  | case5 feeder going line input next error grouping pushed =>
      simp [feederWork, reading, going, Item.isLast]
      omega
  | case6 feeder going line input next block grouping pushed =>
      have shorter := Input.length_nextSegment next
      simp [feederWork, reading, going, Item.isLast]
      omega
  | case7 feeder going line input next grouping pushed inductionHypothesis =>
      have shorter := Input.length_nextSegment next
      have less := inductionHypothesis reading
      simp [feederWork, reading, going, Item.isLast] at less ⊢
      omega

theorem feederWork_sent
    {feeder : Feeder} {item : Item} (admitted : feeder.stage = .admitted item) :
    feederWork (feeder.sent item) + 5 = feederWork feeder := by
  cases last : item.isLast <;> simp [feederWork, Feeder.sent, admitted, last]
  omega

/-- What all workers are busy with. -/
def workersWork (workers : List Worker) : Nat :=
  workers.foldr (workerWork · + ·) 0

theorem workersWork_middle (before after : List Worker) (worker : Worker) :
    workersWork (before ++ worker :: after)
      = workerWork worker + workersWork (before ++ after) := by
  induction before with
  | nil => rfl
  | cons first before inductionHypothesis =>
      show workerWork first + workersWork (before ++ worker :: after)
        = workerWork worker + (workerWork first + workersWork (before ++ after))
      rw [inductionHypothesis]
      omega

theorem work_eq (state : State) :
    state.work = feederWork state.feeder + 4 * state.queue.length + workersWork state.workers
      + 2 * state.results.length + state.early.length + (if state.complete then 0 else 1) :=
  rfl

theorem length_filter_lt_of_lookup
    {early : List (Nat × Outcome)} {due : Nat} {outcome : Outcome}
    (found : early.lookup due = some outcome) :
    (early.filter (·.1 != due)).length < early.length := by
  obtain ⟨before, after, rfl, -⟩ := List.lookup_eq_some_iff.mp found
  have first := List.length_filter_le (·.1 != due) before
  have second := List.length_filter_le (·.1 != due) after
  rw [List.filter_append, List.filter_cons, if_neg (by simp), List.length_append,
    List.length_append, List.length_cons]
  omega

/-- Every step leaves fewer steps to take. -/
theorem work_lt_of_step
    {setup : Setup Rule} {state next : State} {answer : Option Reader.Answer}
    (step : Step setup state answer next) : next.work < state.work := by
  rw [work_eq, work_eq]
  cases move_of_step step with
  | read reading =>
      have less := feederWork_read reading
      simp only
      omega
  | reserve holding free =>
      simp only [feederWork, holding]
      omega
  | submit admitted room staffed =>
      have less := feederWork_sent admitted
      simp only [List.length_append, List.length_singleton]
      omega
  | abandon admitted deserted =>
      simp only [feederWork, admitted]
      omega
  | take workers waiting =>
      simp only [workers, waiting, workersWork_middle, workerWork, List.length_cons]
      omega
  | finish workers found room =>
      simp only [workers, workersWork_middle, workerWork, List.length_append,
        List.length_singleton]
      omega
  | crash workers lost =>
      simp only [workers, workersWork_middle, workerWork]
      omega
  | leave workers empty stopped =>
      simp only [workers, workersWork_middle, workerWork]
      omega
  | @deliver outcome found =>
      have less := length_filter_lt_of_lookup found
      have last : (if state.complete || (State.answer outcome).2 then 0 else 1)
          ≤ if state.complete then 0 else 1 := by
        cases state.complete <;> cases (State.answer outcome).2 <;> decide
      simp only
      omega
  | receive arrived waiting =>
      simp only [arrived, List.length_cons]
      omega
  | notice waiting empty deserted =>
      rw [waits, Bool.and_eq_true, Bool.not_eq_true'] at waiting
      simp only [waiting.1]
      simp

end DirectoryInterchange.Reading.Pool.State
