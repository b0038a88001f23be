import DirectoryInterchange.Proofs.Reading.Pool.Invariant

/-!
What a pool loses with the workers that stop.

A worker that stops over an item takes that item with it.  Which items these
are is settled by the job, whoever takes them and whenever.  The queue is first
in, first out, so the items that were ever taken are the first ones, and every
worker that is gone before the feeder has stopped stands for one lost item
among them.
-/

namespace DirectoryInterchange.Reading.Pool

variable {Rule : Type} [Matching Rule]

/-! ### Lost items -/

namespace Job

/-- Whether a worker stops over an item. -/
def stops (job : Job Rule) (item : Item) : Bool :=
  (job.outcome? item).isNone

/-- The number of the first item that is lost, or of all items when none is. -/
def firstLoss (job : Job Rule) (items : List Item) : Nat :=
  items.findIdx job.stops

/-- How many of the first so many items are lost. -/
def losses (job : Job Rule) (items : List Item) (count : Nat) : Nat :=
  (items.take count).countP job.stops

variable {job : Job Rule} {items : List Item} {number count : Nat} {item : Item}

theorem stops_iff : job.stops item ↔ job.outcome? item = none :=
  Option.isNone_iff_eq_none

theorem firstLoss_le_length (job : Job Rule) (items : List Item) :
    job.firstLoss items ≤ items.length :=
  List.findIdx_le_length

/-- Nothing is lost in front of the first loss. -/
theorem firstLoss_le_of_loses (lost : job.Loses items number) : job.firstLoss items ≤ number := by
  obtain ⟨item, there, stopped⟩ := lost
  obtain ⟨inside, same⟩ := List.getElem?_eq_some_iff.mp there
  by_contra before
  have goes := List.not_of_lt_findIdx (Nat.lt_of_not_le before)
  rw [same, stops_iff.mpr stopped] at goes
  cases goes

theorem loses_firstLoss (inside : job.firstLoss items < items.length) :
    job.Loses items (job.firstLoss items) :=
  ⟨items[job.firstLoss items], List.getElem?_eq_getElem inside,
    stops_iff.mp (List.findIdx_getElem (w := inside))⟩

theorem Loses.lt_length (lost : job.Loses items number) : number < items.length := by
  obtain ⟨item, there, -⟩ := lost
  exact (List.getElem?_eq_some_iff.mp there).1

/-- An item that has an outcome is in front of the first loss or behind it. -/
theorem ne_firstLoss {outcome : Outcome} (there : items[number]? = some item)
    (found : job.outcome? item = some outcome) : number ≠ job.firstLoss items := by
  intro same
  have inside := (List.getElem?_eq_some_iff.mp there).1
  obtain ⟨other, lost, stopped⟩ := loses_firstLoss (same ▸ inside)
  rw [← same, there] at lost
  cases lost
  rw [found] at stopped
  cases stopped

theorem losses_succ (there : items[count]? = some item) :
    job.losses items (count + 1) = job.losses items count + if job.stops item then 1 else 0 := by
  rw [losses, losses, List.take_add_one, there, List.countP_append]
  exact congrArg _ (List.countP_singleton ..)

theorem losses_mono {later : Nat} (le : count ≤ later) :
    job.losses items count ≤ job.losses items later :=
  (List.take_sublist_take_left le).countP_le

/-- Some items are lost when the first loss is among them. -/
theorem losses_pos_iff :
    0 < job.losses items count ↔ job.firstLoss items < min count items.length := by
  rw [losses, List.countP_pos_iff]
  constructor
  · rintro ⟨item, member, stopped⟩
    obtain ⟨number, inside, there⟩ := List.mem_take_iff_getElem.mp member
    have before := firstLoss_le_of_loses
      ⟨item, List.getElem?_eq_some_iff.mpr ⟨_, there⟩, stops_iff.mp stopped⟩
    exact Nat.lt_of_le_of_lt before inside
  · intro inside
    have found := List.findIdx_getElem (w := Nat.lt_of_lt_of_le inside (Nat.min_le_right _ _))
    exact ⟨_, List.mem_take_iff_getElem.mpr ⟨_, inside, rfl⟩, found⟩

end Job

/-- Whether a worker is gone, or will be when it has dealt with its item. -/
def Worker.falls (job : Job Rule) : Worker → Bool
  | .idle => false
  | .busy _ item => job.stops item
  | .gone => true

theorem countP_middle (job : Job Rule) (before after : List Worker) (worker : Worker) :
    (before ++ worker :: after).countP (Worker.falls job)
      = (before ++ after).countP (Worker.falls job) + if worker.falls job then 1 else 0 := by
  rw [List.countP_append, List.countP_append, List.countP_cons, Nat.add_assoc]

namespace State

/-- How many items have been taken out of the queue. -/
def taken (state : State) : Nat :=
  state.nextNumber - state.queue.length

/-- What every state of a pool satisfies whose workers may stop over items. -/
structure Reckoning (setup : Setup Rule) (items : List Item) (state : State) : Prop
    extends Invariant setup items state where
  size : state.workers.length = setup.workers
  queued_le : state.queue.length ≤ state.nextNumber
  /-- The items that wait are the last ones handed out, in their order. -/
  queued : state.queue.map (·.1) = List.range' state.taken state.queue.length
  /-- Nothing is delivered from the first loss on. -/
  intact : state.due ≤ setup.job.firstLoss items
  /-- Unless workers have left because nothing more will come, one is gone for
  every item that was taken and lost. -/
  fallen : (state.feeder.stage = .stopped ∧ state.queue = []) ∨
    state.workers.countP (Worker.falls setup.job) = setup.job.losses items state.taken
  /-- The end was told, or that no outcome comes for the number due. -/
  finished : state.complete →
    state.due = items.length ∨ (setup.job.Loses items state.due ∧ state.deserted)

theorem reckoning_start (setup : Setup Rule) (input : Input) :
    Reckoning setup (Feed.items { input }) (start setup input) where
  toInvariant := invariant_start setup input
  size := List.length_replicate
  queued_le := Nat.le_refl 0
  queued := rfl
  intact := Nat.zero_le _
  fallen := by
    right
    show (List.replicate setup.workers Worker.idle).countP _ = 0
    rw [List.countP_replicate]
    rfl
  finished := fun complete => by cases complete

namespace Reckoning

variable {setup : Setup Rule} {items : List Item} {state : State}

/-- As long as the feeder goes on, nobody has left for want of items. -/
theorem fallen_of_stage
    (holds : Reckoning setup items state) {stage : Stage}
    (standing : state.feeder.stage = stage) (going : stage ≠ .stopped) :
    state.workers.countP (Worker.falls setup.job) = setup.job.losses items state.taken := by
  rw [← standing] at going
  rcases holds.fallen with ⟨stopped, -⟩ | fallen
  · exact absurd stopped going
  · exact fallen

theorem countP_of_deserted
    (holds : Reckoning setup items state) (deserted : state.deserted) :
    state.workers.countP (Worker.falls setup.job) = setup.workers := by
  rw [← holds.size]
  apply List.countP_eq_length.mpr
  intro worker member
  rw [gone_of_deserted deserted worker member]
  rfl

theorem taken_add_length (holds : Reckoning setup items state) :
    state.taken + state.queue.length = state.nextNumber :=
  Nat.sub_add_cancel holds.queued_le

/-- When the consumer finds that no outcome will come, it is the one for the
first loss that is missing. -/
theorem loses_of_notice
    (holds : Reckoning setup items state) (waiting : state.waits)
    (empty : state.results = []) (deserted : state.deserted) :
    setup.job.Loses items state.due := by
  have held := held_of_deserted deserted
  rcases holds.fallen with ⟨stopped, drained⟩ | fallen
  · exact holds.loses_of_drained waiting empty (held.trans drained) stopped
  · have absent := (Bool.and_eq_true_iff.mp waiting).2
    rw [Option.isNone_iff_eq_none] at absent
    have staffed := List.length_pos_iff.mpr holds.staffed
    have some_lost : 0 < setup.job.losses items state.taken := by
      rw [← fallen, holds.countP_of_deserted deserted, ← holds.size]
      exact staffed
    have before := Job.losses_pos_iff.mp some_lost
    have intact := holds.intact
    have all := holds.taken_add_length
    refine holds.loses_of_absent ?_ empty absent (by omega)
    rw [held, holds.queued, List.mem_range'_1]
    omega

/-- Once the consumer was told how it ends, nothing is kept for the number due. -/
theorem absent_of_complete
    (holds : Reckoning setup items state) (complete : state.complete) :
    state.early.lookup state.due = none := by
  rcases early : state.early.lookup state.due with _ | outcome
  · rfl
  · obtain ⟨item, there, found⟩ := holds.due_item early
    rcases holds.finished complete with due | ⟨⟨other, lost, stopped⟩, -⟩
    · have inside := holds.due_lt early
      omega
    · rw [there] at lost
      cases lost
      rw [found] at stopped
      cases stopped

/-- As long as a worker is left, only the end can have been told. -/
theorem due_of_present
    (holds : Reckoning setup items state) {before after : List Worker} {worker : Worker}
    (split : state.workers = before ++ worker :: after) (present : worker ≠ .gone)
    (complete : state.complete) : state.due = items.length := by
  rcases holds.finished complete with due | ⟨-, deserted⟩
  · exact due
  · rw [not_deserted split present] at deserted
    cases deserted

theorem size_replaced
    (holds : Reckoning setup items state) {before after : List Worker} {old new : Worker}
    (split : state.workers = before ++ old :: after) :
    (before ++ new :: after).length = setup.workers := by
  rw [← holds.size, split, List.length_append, List.length_append]
  rfl

/-! ### Moves -/

theorem submit
    (holds : Reckoning setup items state) {item : Item}
    (admitted : state.feeder.stage = .admitted item) :
    Reckoning setup items
      { state with
        feeder := state.feeder.sent item
        queue := state.queue ++ [(state.nextNumber, item)]
        nextNumber := state.nextNumber + 1 } := by
  have fallen := holds.fallen_of_stage admitted Stage.noConfusion
  have longer := holds.queued_le
  have same : state.nextNumber + 1 - (state.queue ++ [(state.nextNumber, item)]).length
      = state.taken := by
    rw [List.length_append, List.length_singleton, taken]
    omega
  refine { holds with
    toInvariant := holds.toInvariant.submit admitted
    queued_le := ?_, queued := ?_, fallen := ?_ }
  · rw [List.length_append]
    exact Nat.succ_le_succ longer
  · rw [taken, same, List.map_append, holds.queued, List.length_append, List.length_singleton,
      List.range'_1_concat, holds.taken_add_length]
    rfl
  · right
    rw [taken, same]
    exact fallen

theorem take
    (holds : Reckoning setup items state) {before after : List Worker} {number : Nat}
    {item : Item} {queue : List (Nat × Item)} (split : state.workers = before ++ .idle :: after)
    (waiting : state.queue = (number, item) :: queue) :
    Reckoning setup items
      { state with queue, workers := before ++ .busy number item :: after } := by
  have longer := holds.queued_le
  have queued := holds.queued
  rw [waiting, List.length_cons] at longer
  rw [waiting, List.length_cons, List.map_cons, List.range'_succ] at queued
  obtain ⟨first, rest⟩ := List.cons.inj queued
  have next : state.nextNumber - queue.length = state.taken + 1 := by
    rw [taken, waiting, List.length_cons]
    omega
  have there : items[state.taken]? = some item := by
    rw [← first]
    apply holds.located.held_item
    rw [held, waiting]
    exact List.mem_append_left _ List.mem_cons_self
  refine { holds with
    toInvariant := holds.toInvariant.take split waiting
    size := ?_, queued_le := Nat.le_of_succ_le longer, queued := ?_, fallen := ?_, finished := ?_ }
  · exact holds.size_replaced split
  · rw [taken, next]
    exact rest
  · right
    rcases holds.fallen with ⟨-, drained⟩ | fallen
    · rw [waiting] at drained
      cases drained
    · rw [taken, next, Job.losses_succ there, ← fallen, split, countP_middle, countP_middle]
      rfl
  · exact fun complete => Or.inl (holds.due_of_present split Worker.noConfusion complete)

/-- A worker that changes while the queue stays, and counts as much as before. -/
theorem of_replaced
    (holds : Reckoning setup items state) {before after : List Worker} {old new : Worker}
    (split : state.workers = before ++ old :: after) (present : old ≠ .gone)
    (same : old.falls setup.job = new.falls setup.job) {results : List (Nat × Outcome)}
    (kept : Invariant setup items
      { state with results, workers := before ++ new :: after }) :
    Reckoning setup items { state with results, workers := before ++ new :: after } := by
  refine { holds with toInvariant := kept, size := ?_, fallen := ?_, finished := ?_ }
  · exact holds.size_replaced split
  · rcases holds.fallen with idle | fallen
    · exact Or.inl idle
    · right
      show _ = setup.job.losses items state.taken
      rw [← fallen, split, countP_middle, countP_middle, same]
  · exact fun complete => Or.inl (holds.due_of_present split present complete)

theorem leave
    (holds : Reckoning setup items state) {before after : List Worker}
    (split : state.workers = before ++ .idle :: after) (empty : state.queue = [])
    (stopped : state.feeder.stage = .stopped) :
    Reckoning setup items { state with workers := before ++ .gone :: after } := by
  refine { holds with
    toInvariant := holds.toInvariant.leave split empty stopped
    size := ?_, fallen := Or.inl ⟨stopped, empty⟩, finished := ?_ }
  · exact holds.size_replaced split
  · exact fun complete => Or.inl (holds.due_of_present split Worker.noConfusion complete)

/-- A delivery that tells how it ends is that of the last item. -/
theorem due_of_delivered
    (holds : Reckoning setup items state) {outcome : Outcome}
    (found : state.early.lookup state.due = some outcome)
    (complete : state.complete || (answer outcome).2) : state.due + 1 = items.length := by
  rcases Bool.or_eq_true_iff.mp complete with complete | last
  · rw [holds.absent_of_complete complete] at found
    cases found
  · exact (holds.last_iff found).mp last

theorem deliver
    (holds : Reckoning setup items state) {outcome : Outcome}
    (found : state.early.lookup state.due = some outcome) :
    Reckoning setup items
      { state with
        early := state.early.filter (·.1 != state.due)
        due := state.due + 1
        places := state.places + 1
        complete := state.complete || (answer outcome).2 } := by
  have intact := holds.intact
  obtain ⟨item, there, outcomeOf⟩ := holds.due_item found
  have different := Job.ne_firstLoss there outcomeOf
  refine { holds with
    toInvariant := holds.toInvariant.deliver found
    intact := Nat.lt_of_le_of_ne intact different, finished := ?_ }
  exact fun complete => Or.inl (holds.due_of_delivered found complete)

/-- Every step keeps the reckoning. -/
theorem step
    (holds : Reckoning setup items state) {answer : Option Reader.Answer} {next : State}
    (step : Step setup state answer next) : Reckoning setup items next := by
  have kept := holds.toInvariant.step step
  cases move_of_step step with
  | read reading =>
      have fallen := holds.fallen_of_stage reading Stage.noConfusion
      exact { holds with toInvariant := kept, fallen := Or.inr fallen }
  | reserve holding free =>
      have fallen := holds.fallen_of_stage holding Stage.noConfusion
      exact { holds with toInvariant := kept, fallen := Or.inr fallen }
  | submit admitted => exact holds.submit admitted
  | abandon admitted deserted =>
      have fallen := holds.fallen_of_stage admitted Stage.noConfusion
      exact { holds with toInvariant := kept, fallen := Or.inr fallen }
  | take split waiting => exact holds.take split waiting
  | @finish before after number item outcome split found =>
      have goes : Worker.falls setup.job (.busy number item) = Worker.falls setup.job .idle := by
        simp [Worker.falls, Job.stops, found]
      exact holds.of_replaced split Worker.noConfusion goes kept
  | @crash before after number item split lost =>
      have falls : Worker.falls setup.job (.busy number item) = Worker.falls setup.job .gone :=
        Job.stops_iff.mpr lost
      exact holds.of_replaced split Worker.noConfusion falls kept
  | leave split empty stopped => exact holds.leave split empty stopped
  | deliver found => exact holds.deliver found
  | receive arrived => exact { holds with toInvariant := kept }
  | notice waiting empty deserted =>
      have lost := holds.loses_of_notice waiting empty deserted
      exact { holds with toInvariant := kept, finished := fun _ => Or.inr ⟨lost, deserted⟩ }

end Reckoning

end State

end DirectoryInterchange.Reading.Pool
