import DirectoryInterchange.Proofs.Reading.Adjusted
import DirectoryInterchange.Proofs.Reading.Pool.Moves
import DirectoryInterchange.Proofs.Reading.Pool.Whereabouts

/-!
What holds of a pool whatever its feeder, its workers and its consumer do.
-/

namespace DirectoryInterchange.Reading.Pool

variable {Rule : Type} [Matching Rule]

/-- The item that a worker is busy with. -/
def Worker.held : Worker → List (Nat × Item)
  | .busy number item => [(number, item)]
  | _ => []

/-- Places that the feeder has taken for an item it has not handed out. -/
def Feeder.reserved (feeder : Feeder) : Nat :=
  match feeder.stage with
  | .admitted _ | .abandoned => 1
  | _ => 0

/-- Whether some item makes a worker stop. -/
def Job.Crashes (job : Job Rule) (items : List Item) : Prop :=
  ∃ number, job.Loses items number

namespace State

/-- The items that wait or are worked on. -/
def held (state : State) : List (Nat × Item) :=
  state.queue ++ state.workers.flatMap Worker.held

/-- The outcomes that are not delivered yet. -/
def settled (state : State) : List (Nat × Outcome) :=
  state.results ++ state.early

/-- What every state of a pool over `items` satisfies. -/
structure Invariant (setup : Setup Rule) (items : List Item) (state : State) : Prop where
  closed : Closed items
  staffed : state.workers ≠ []
  located : Whereabouts setup.job items state.due state.nextNumber state.held state.settled
  due_le : state.due ≤ state.nextNumber
  sent_le : state.nextNumber ≤ items.length
  supply : state.feeder.stage ≠ .abandoned →
    state.feeder.pending = items.drop state.nextNumber
  /-- A place is free, or taken by a number that is not delivered, or reserved. -/
  window : state.places + state.nextNumber + state.feeder.reserved = setup.window + state.due
  abandoned : state.feeder.stage = .abandoned → state.deserted
  left : .gone ∈ state.workers →
    (state.feeder.stage = .stopped ∧ state.queue = []) ∨ setup.job.Crashes items
  complete : state.complete → state.due = items.length ∨ setup.job.Crashes items
  incomplete : state.due = items.length → state.complete

/-! ### Small facts about states -/

theorem gone_of_deserted {state : State} (deserted : state.deserted) :
    ∀ worker ∈ state.workers, worker = .gone := by
  intro worker member
  simpa using List.all_eq_true.mp deserted worker member

theorem held_of_deserted {state : State} (deserted : state.deserted) :
    state.held = state.queue := by
  have none_busy : state.workers.flatMap Worker.held = [] := by
    rw [List.flatMap_eq_nil_iff]
    intro worker member
    rw [gone_of_deserted deserted worker member]
    rfl
  rw [held, none_busy, List.append_nil]

theorem not_deserted
    {state : State} {before after : List Worker} {worker : Worker}
    (workers : state.workers = before ++ worker :: after) (present : worker ≠ .gone) :
    state.deserted = false := by
  rw [Bool.eq_false_iff]
  intro deserted
  refine present (gone_of_deserted deserted worker ?_)
  rw [workers]
  exact List.mem_append_right _ List.mem_cons_self

theorem answer_isLast
    {job : Job Rule} {item : Item} {outcome : Outcome} (found : job.outcome? item = some outcome) :
    (answer outcome).2 = item.isLast := by
  cases item with
  | ended => cases found; rfl
  | failed fault => cases found; rfl
  | block block =>
      simp only [Job.outcome?] at found
      cases decoded : block.decode job.context with
      | error error => rw [decoded] at found; cases found; rfl
      | ok record =>
          simp only [decoded] at found
          cases adjusted : job.adjust record block.firstLine <;> rw [adjusted] at found <;>
            cases found <;> rfl

theorem absent_of_lookup
    {early : List (Nat × Outcome)} {due : Nat} (absent : early.lookup due = none) :
    due ∉ early.map (·.1) := by
  intro member
  obtain ⟨entry, inside, same⟩ := List.mem_map.mp member
  simpa [same] using List.lookup_eq_none_iff.mp absent entry inside

/-- Taking out what is due leaves everything else. -/
theorem perm_of_lookup
    {early : List (Nat × Outcome)} {due : Nat} {outcome : Outcome}
    (distinct : (early.map (·.1)).Nodup) (found : early.lookup due = some outcome) :
    early.Perm ((due, outcome) :: early.filter (·.1 != due)) := by
  obtain ⟨before, after, rfl, -⟩ := List.lookup_eq_some_iff.mp found
  have perm : (before ++ (due, outcome) :: after).Perm ((due, outcome) :: (before ++ after)) :=
    List.perm_middle
  obtain ⟨absent, -⟩ := List.nodup_cons.mp ((perm.map (·.1)).nodup_iff.mp distinct)
  have kept : (before ++ after).filter (·.1 != due) = before ++ after := by
    refine List.filter_eq_self.mpr fun entry member => ?_
    have different : entry.1 ≠ due := fun same =>
      absent (List.mem_map.mpr ⟨entry, member, same⟩)
    simpa using different
  rw [List.filter_append] at kept
  rw [List.filter_append, List.filter_cons, if_neg (by simp), kept]
  exact perm

/-- A worker that has nothing takes the place of one that is busy. -/
theorem held_of_busy
    {state : State} {before after : List Worker} {number : Nat} {item : Item}
    (workers : state.workers = before ++ .busy number item :: after)
    (other : Worker) (free : other.held = []) :
    state.held.Perm
      ((number, item) :: (state.queue ++ (before ++ other :: after).flatMap Worker.held)) := by
  have busy : (Worker.busy number item).held = [(number, item)] := rfl
  rw [held, workers, List.flatMap_append, List.flatMap_append, List.flatMap_cons,
    List.flatMap_cons, busy, free, List.singleton_append, List.nil_append, ← List.append_assoc,
    ← List.append_assoc]
  exact List.perm_middle

/-- The item at the front of the queue goes to a worker that has nothing. -/
theorem held_of_taken
    {state : State} {before after : List Worker} {number : Nat} {item : Item}
    {queue : List (Nat × Item)} (workers : state.workers = before ++ .idle :: after)
    (waiting : state.queue = (number, item) :: queue) :
    (queue ++ (before ++ .busy number item :: after).flatMap Worker.held).Perm state.held := by
  have busy : (Worker.busy number item).held = [(number, item)] := rfl
  have idle : Worker.idle.held = [] := rfl
  rw [held, workers, waiting, List.flatMap_append, List.flatMap_append, List.flatMap_cons,
    List.flatMap_cons, busy, idle, List.singleton_append, List.nil_append, List.cons_append,
    ← List.append_assoc, ← List.append_assoc]
  exact List.perm_middle

theorem held_of_submitted (state : State) (entry : Nat × Item) :
    (state.queue ++ [entry] ++ state.workers.flatMap Worker.held).Perm (entry :: state.held) := by
  rw [held, List.append_assoc, List.singleton_append]
  exact List.perm_middle

theorem mem_of_replaced
    {before after : List Worker} {old new : Worker} (other : new ≠ .gone)
    (gone : .gone ∈ before ++ new :: after) : .gone ∈ before ++ old :: after := by
  rcases List.mem_append.mp gone with member | member
  · exact List.mem_append_left _ member
  · rcases List.mem_cons.mp member with same | member
    · exact absurd same.symm other
    · exact List.mem_append_right _ (List.mem_cons_of_mem _ member)

/-! ### The invariant -/

theorem invariant_start (setup : Setup Rule) (input : Input) :
    Invariant setup (Feed.items { input }) (start setup input) where
  closed := Feed.closed_items _
  staffed := by
    apply List.ne_nil_of_length_pos
    rw [start, List.length_replicate]
    exact setup.workers_pos
  located := by
    have nothing : (start setup input).held = [] := by
      simp [held, start, Worker.held]
    rw [nothing]
    exact Whereabouts.start 0
  due_le := Nat.le_refl 0
  sent_le := Nat.zero_le _
  supply := fun _ => rfl
  window := rfl
  abandoned := fun abandoned => by cases abandoned
  left := fun gone => by
    have := List.eq_of_mem_replicate gone
    cases this
  complete := fun complete => by cases complete
  incomplete := fun none_left => by
    have some_left := List.length_pos_iff.mpr (Feed.closed_items { input }).ne_nil
    exact absurd none_left (Nat.ne_of_lt some_left)

namespace Invariant

variable {setup : Setup Rule} {items : List Item} {state : State}

theorem pending_of_stage
    (holds : Invariant setup items state) {stage : Stage} (standing : state.feeder.stage = stage)
    (going : stage ≠ .abandoned) : state.feeder.pending = items.drop state.nextNumber := by
  rw [← standing] at going
  exact holds.supply going

/-- An item in the hands of the feeder is the one whose number is next. -/
theorem next_item
    (holds : Invariant setup items state) {item : Item}
    (admitted : state.feeder.stage = .admitted item) :
    items[state.nextNumber]? = some item
      ∧ (state.feeder.sent item).pending = items.drop (state.nextNumber + 1) := by
  have supply := holds.pending_of_stage admitted Stage.noConfusion
  rw [Feeder.pending_sent admitted] at supply
  have front := congrArg List.head? supply
  have rest := congrArg List.tail supply
  rw [List.head?_cons, List.head?_drop] at front
  rw [List.tail_cons, List.tail_drop] at rest
  exact ⟨front.symm, rest⟩

/-- A worker that is gone while the feeder goes on has lost an item. -/
theorem crashes_of_stage
    (holds : Invariant setup items state) {stage : Stage} (standing : state.feeder.stage = stage)
    (going : stage ≠ .stopped) (gone : .gone ∈ state.workers) : setup.job.Crashes items := by
  rw [← standing] at going
  rcases holds.left gone with ⟨stopped, -⟩ | crashes
  · exact absurd stopped going
  · exact crashes

theorem crashes_of_waiting
    (holds : Invariant setup items state) (waiting : state.queue ≠ [])
    (gone : .gone ∈ state.workers) : setup.job.Crashes items := by
  rcases holds.left gone with ⟨-, empty⟩ | crashes
  · exact absurd empty waiting
  · exact crashes

theorem not_abandoned
    (holds : Invariant setup items state) {before after : List Worker} {worker : Worker}
    (workers : state.workers = before ++ worker :: after) (present : worker ≠ .gone) :
    state.feeder.stage ≠ .abandoned := by
  intro abandoned
  have deserted := holds.abandoned abandoned
  rw [not_deserted workers present] at deserted
  cases deserted

theorem gone_of_deserted_staffed
    (holds : Invariant setup items state) (deserted : state.deserted) :
    .gone ∈ state.workers := by
  obtain ⟨worker, member⟩ := List.exists_mem_of_ne_nil _ holds.staffed
  rw [← gone_of_deserted deserted worker member]
  exact member

/-- A number that was given out and is found nowhere was lost with its item. -/
theorem loses_of_absent
    (holds : Invariant setup items state) (unheld : state.due ∉ state.held.map (·.1))
    (empty : state.results = []) (absent : state.early.lookup state.due = none)
    (sent : state.due < state.nextNumber) : setup.job.Loses items state.due := by
  rcases holds.located.accounted state.due (Nat.le_refl _) sent with member | lost
  · rw [numbers, settled, empty] at member
    rcases List.mem_append.mp member with waiting | kept
    · exact absurd waiting unheld
    · exact absurd kept (absent_of_lookup absent)
  · exact lost

/-- When everything was handed out and taken, and an outcome is due that does
not come, its item was lost. -/
theorem loses_of_drained
    (holds : Invariant setup items state) (waiting : state.waits) (empty : state.results = [])
    (idle : state.held = []) (stopped : state.feeder.stage = .stopped) :
    setup.job.Loses items state.due := by
  rw [waits, Bool.and_eq_true, Bool.not_eq_true', Option.isNone_iff_eq_none] at waiting
  obtain ⟨incomplete, absent⟩ := waiting
  have supply := holds.pending_of_stage stopped Stage.noConfusion
  rw [Feeder.pending, stopped] at supply
  have all_sent := List.drop_eq_nil_iff.mp supply.symm
  have sent : state.due < state.nextNumber := by
    by_contra delivered
    have due_le := holds.due_le
    have sent_le := holds.sent_le
    have complete := holds.incomplete (by omega)
    rw [incomplete] at complete
    cases complete
  refine holds.loses_of_absent ?_ empty absent sent
  rw [idle]
  exact List.not_mem_nil

/-- When no outcome comes, although one is due, an item was lost. -/
theorem crashes_of_notice
    (holds : Invariant setup items state) (waiting : state.waits) (empty : state.results = [])
    (deserted : state.deserted) : setup.job.Crashes items := by
  rcases holds.left (holds.gone_of_deserted_staffed deserted) with ⟨stopped, drained⟩ | crashes
  · have idle : state.held = [] := by rw [held_of_deserted deserted, drained]
    exact ⟨state.due, holds.loses_of_drained waiting empty idle stopped⟩
  · exact crashes

/-! ### The feeder's moves -/

theorem read
    (holds : Invariant setup items state) (reading : state.feeder.stage = .reading) :
    Invariant setup items { state with feeder := state.feeder.read } := by
  obtain ⟨item, holding⟩ := state.feeder.holding_read
  have supply := holds.pending_of_stage reading Stage.noConfusion
  have window := holds.window
  have crashes := holds.crashes_of_stage reading Stage.noConfusion
  refine { holds with supply := ?_, window := ?_, abandoned := ?_, left := ?_ }
  · intro _
    rw [Feeder.pending_read, ← supply, Feeder.pending, reading]
  · simp only [Feeder.reserved, holding]
    simpa only [Feeder.reserved, reading] using window
  · intro abandoned
    rw [holding] at abandoned
    cases abandoned
  · exact fun gone => Or.inr (crashes gone)

theorem reserve
    (holds : Invariant setup items state) {item : Item}
    (holding : state.feeder.stage = .holding item) (free : 0 < state.places) :
    Invariant setup items
      { state with
        feeder := { state.feeder with stage := .admitted item }
        places := state.places - 1 } := by
  have supply := holds.pending_of_stage holding Stage.noConfusion
  have window := holds.window
  have crashes := holds.crashes_of_stage holding Stage.noConfusion
  refine { holds with supply := ?_, window := ?_, abandoned := ?_, left := ?_ }
  · intro _
    rw [← supply, Feeder.pending, Feeder.pending, holding]
    rfl
  · simp only [Feeder.reserved, holding] at window ⊢
    omega
  · exact fun abandoned => by cases abandoned
  · exact fun gone => Or.inr (crashes gone)

theorem submit
    (holds : Invariant setup items state) {item : Item}
    (admitted : state.feeder.stage = .admitted item) :
    Invariant setup items
      { state with
        feeder := state.feeder.sent item
        queue := state.queue ++ [(state.nextNumber, item)]
        nextNumber := state.nextNumber + 1 } := by
  obtain ⟨found, pending⟩ := holds.next_item admitted
  have window := holds.window
  have due_le := holds.due_le
  have inside : state.nextNumber < items.length := (List.getElem?_eq_some_iff.mp found).1
  have crashes := holds.crashes_of_stage admitted Stage.noConfusion
  have unreserved : (state.feeder.sent item).reserved = 0
      ∧ (state.feeder.sent item).stage ≠ .abandoned := by
    cases last : item.isLast <;> simp [Feeder.sent, Feeder.reserved, last]
  refine { holds with
    located := ?_, due_le := Nat.le_succ_of_le due_le, sent_le := inside, supply := ?_
    window := ?_, abandoned := ?_, left := ?_ }
  · have submitted := holds.located.submit due_le found
    exact submitted.of_perm (held_of_submitted state _) (List.Perm.refl _)
  · exact fun _ => pending
  · simp only [Feeder.reserved, admitted] at window
    simp only [unreserved.1]
    omega
  · exact fun abandoned => absurd abandoned unreserved.2
  · exact fun gone => Or.inr (crashes gone)

theorem abandon
    (holds : Invariant setup items state) {item : Item}
    (admitted : state.feeder.stage = .admitted item) (deserted : state.deserted) :
    Invariant setup items
      { state with feeder := { state.feeder with stage := .abandoned } } := by
  have window := holds.window
  have crashes := holds.crashes_of_stage admitted Stage.noConfusion
  refine { holds with supply := ?_, window := ?_, abandoned := ?_, left := ?_ }
  · exact fun going => absurd rfl going
  · simpa only [Feeder.reserved, admitted] using window
  · exact fun _ => deserted
  · exact fun gone => Or.inr (crashes gone)

/-! ### The workers' moves -/

theorem take
    (holds : Invariant setup items state) {before after : List Worker} {number : Nat}
    {item : Item} {queue : List (Nat × Item)} (workers : state.workers = before ++ .idle :: after)
    (waiting : state.queue = (number, item) :: queue) :
    Invariant setup items
      { state with queue, workers := before ++ .busy number item :: after } := by
  have more : state.queue ≠ [] := by
    rw [waiting]
    exact List.cons_ne_nil _ _
  refine { holds with staffed := ?_, located := ?_, abandoned := ?_, left := ?_ }
  · exact List.append_ne_nil_of_right_ne_nil _ (List.cons_ne_nil _ _)
  · exact holds.located.of_perm (held_of_taken workers waiting) (List.Perm.refl _)
  · exact fun abandoned => absurd abandoned (holds.not_abandoned workers Worker.noConfusion)
  · intro gone
    have was_gone : Worker.gone ∈ state.workers := by
      rw [workers]
      exact mem_of_replaced Worker.noConfusion gone
    exact Or.inr (holds.crashes_of_waiting more was_gone)

theorem finish
    (holds : Invariant setup items state) {before after : List Worker} {number : Nat}
    {item : Item} {outcome : Outcome}
    (workers : state.workers = before ++ .busy number item :: after)
    (found : setup.job.outcome? item = some outcome) :
    Invariant setup items
      { state with
        results := state.results ++ [(number, outcome)]
        workers := before ++ .idle :: after } := by
  refine { holds with staffed := ?_, located := ?_, abandoned := ?_, left := ?_ }
  · exact List.append_ne_nil_of_right_ne_nil _ (List.cons_ne_nil _ _)
  · have taken := holds.located.of_perm (held_of_busy workers .idle rfl).symm (List.Perm.refl _)
    refine (taken.finish found).of_perm (List.Perm.refl _) ?_
    rw [settled, settled, List.append_assoc, List.singleton_append]
    exact List.perm_middle
  · exact fun abandoned => absurd abandoned (holds.not_abandoned workers Worker.noConfusion)
  · intro gone
    refine holds.left ?_
    rw [workers]
    exact mem_of_replaced Worker.noConfusion gone

theorem crash
    (holds : Invariant setup items state) {before after : List Worker} {number : Nat}
    {item : Item} (workers : state.workers = before ++ .busy number item :: after)
    (lost : setup.job.outcome? item = none) :
    Invariant setup items { state with workers := before ++ .gone :: after } := by
  have taken := holds.located.of_perm (held_of_busy workers .gone rfl).symm (List.Perm.refl _)
  have crashes : setup.job.Crashes items :=
    ⟨number, item, taken.held_item number item List.mem_cons_self, lost⟩
  refine { holds with staffed := ?_, located := taken.lose lost, abandoned := ?_, left := ?_ }
  · exact List.append_ne_nil_of_right_ne_nil _ (List.cons_ne_nil _ _)
  · exact fun abandoned => absurd abandoned (holds.not_abandoned workers Worker.noConfusion)
  · exact fun _ => Or.inr crashes

theorem leave
    (holds : Invariant setup items state) {before after : List Worker}
    (workers : state.workers = before ++ .idle :: after) (empty : state.queue = [])
    (stopped : state.feeder.stage = .stopped) :
    Invariant setup items { state with workers := before ++ .gone :: after } := by
  refine { holds with staffed := ?_, located := ?_, abandoned := ?_, left := ?_ }
  · exact List.append_ne_nil_of_right_ne_nil _ (List.cons_ne_nil _ _)
  · refine holds.located.of_perm (List.Perm.of_eq ?_) (List.Perm.refl _)
    simp [held, workers, Worker.held]
  · intro abandoned
    rw [stopped] at abandoned
    cases abandoned
  · exact fun _ => Or.inl ⟨stopped, empty⟩

/-! ### The consumer's moves -/

/-- What is kept for the number that is due is the outcome of the item there. -/
theorem due_item
    (holds : Invariant setup items state) {outcome : Outcome}
    (found : state.early.lookup state.due = some outcome) :
    ∃ item, items[state.due]? = some item ∧ setup.job.outcome? item = some outcome := by
  obtain ⟨before, after, split, -⟩ := List.lookup_eq_some_iff.mp found
  refine holds.located.settled_item state.due outcome ?_
  rw [settled, split]
  exact List.mem_append_right _ (List.mem_append_right _ List.mem_cons_self)

theorem due_lt
    (holds : Invariant setup items state) {outcome : Outcome}
    (found : state.early.lookup state.due = some outcome) : state.due < items.length := by
  obtain ⟨item, there, -⟩ := holds.due_item found
  exact (List.getElem?_eq_some_iff.mp there).1

/-- The last outcome is that of the last item. -/
theorem last_iff
    (holds : Invariant setup items state) {outcome : Outcome}
    (found : state.early.lookup state.due = some outcome) :
    (answer outcome).2 ↔ state.due + 1 = items.length := by
  obtain ⟨item, there, outcomeOf⟩ := holds.due_item found
  rw [answer_isLast outcomeOf]
  exact holds.closed.isLast_iff there

theorem deliver
    (holds : Invariant setup items state) {outcome : Outcome}
    (found : state.early.lookup state.due = some outcome) :
    Invariant setup items
      { state with
        early := state.early.filter (·.1 != state.due)
        due := state.due + 1
        places := state.places + 1
        complete := state.complete || (answer outcome).2 } := by
  have inside := holds.due_lt found
  have last := holds.last_iff found
  have distinct : (state.early.map (·.1)).Nodup := by
    have all := holds.located.distinct
    rw [numbers, settled, List.map_append, ← List.append_assoc] at all
    exact (List.nodup_append.mp all).2.1
  have settledPerm : ((state.due, outcome) ::
      (state.results ++ state.early.filter (·.1 != state.due))).Perm state.settled :=
    List.perm_middle.symm.trans ((perm_of_lookup distinct found).symm.append_left _)
  have located := holds.located.of_perm (List.Perm.refl _) settledPerm
  have due_lt : state.due < state.nextNumber := by
    refine (located.between state.due ?_).2
    exact List.mem_append_right _ List.mem_cons_self
  have window := holds.window
  refine { holds with
    located := located.deliver, due_le := due_lt, window := ?_, complete := ?_, incomplete := ?_ }
  · show state.places + 1 + state.nextNumber + state.feeder.reserved
      = setup.window + (state.due + 1)
    omega
  · intro complete
    rcases Bool.or_eq_true_iff.mp complete with complete | ends
    · rcases holds.complete complete with none_left | crashes
      · omega
      · exact Or.inr crashes
    · exact Or.inl (last.mp ends)
  · exact fun none_left => Bool.or_eq_true_iff.mpr (Or.inr (last.mpr none_left))

theorem receive
    (holds : Invariant setup items state) {number : Nat} {outcome : Outcome}
    {results : List (Nat × Outcome)} (arrived : state.results = (number, outcome) :: results) :
    Invariant setup items { state with results, early := (number, outcome) :: state.early } := by
  refine { holds with located := ?_ }
  refine holds.located.of_perm (List.Perm.refl _) ?_
  rw [settled, settled, arrived]
  exact List.perm_middle

theorem notice
    (holds : Invariant setup items state) (waiting : state.waits) (empty : state.results = [])
    (deserted : state.deserted) : Invariant setup items { state with complete := true } := by
  have crashes := holds.crashes_of_notice waiting empty deserted
  exact { holds with complete := fun _ => Or.inr crashes, incomplete := fun _ => rfl }

/-- Every step keeps the invariant. -/
theorem step
    (holds : Invariant setup items state) {answer : Option Reader.Answer} {next : State}
    (step : Step setup state answer next) : Invariant setup items next := by
  cases move_of_step step with
  | read reading => exact holds.read reading
  | reserve holding free => exact holds.reserve holding free
  | submit admitted => exact holds.submit admitted
  | abandon admitted deserted => exact holds.abandon admitted deserted
  | take workers waiting => exact holds.take workers waiting
  | finish workers found => exact holds.finish workers found
  | crash workers lost => exact holds.crash workers lost
  | leave workers empty stopped => exact holds.leave workers empty stopped
  | deliver found => exact holds.deliver found
  | receive arrived => exact holds.receive arrived
  | notice waiting empty deserted => exact holds.notice waiting empty deserted

theorem said_of_deliver
    (holds : Invariant setup items state) {outcome : Outcome}
    (found : state.early.lookup state.due = some outcome) :
    (items.take (state.due + 1)).filterMap setup.job.answer?
      = (items.take state.due).filterMap setup.job.answer? ++ (answer outcome).1.toList := by
  obtain ⟨item, there, outcomeOf⟩ := holds.due_item found
  have said : setup.job.answer? item = (State.answer outcome).1 := by
    rw [Job.answer?, outcomeOf, Option.bind_some]
  rw [List.take_add_one, there, List.filterMap_append, ← said]
  cases answered : setup.job.answer? item <;> simp [answered]

/-- What a step answers: the answer to what it delivers, or that nothing more
comes because an item was lost. -/
theorem step_answers
    (holds : Invariant setup items state) {answer : Option Reader.Answer} {next : State}
    (step : Step setup state answer next) :
    (items.take next.due).filterMap setup.job.answer?
        = (items.take state.due).filterMap setup.job.answer? ++ answer.toList
      ∨ setup.job.Crashes items ∧ answer = some (.error stoppedEarly) ∧ next.due = state.due := by
  cases move_of_step step with
  | deliver found => exact Or.inl (holds.said_of_deliver found)
  | notice waiting empty deserted =>
      exact Or.inr ⟨holds.crashes_of_notice waiting empty deserted, rfl, rfl⟩
  | _ => exact Or.inl (List.append_nil _).symm

end Invariant

end State

end DirectoryInterchange.Reading.Pool
