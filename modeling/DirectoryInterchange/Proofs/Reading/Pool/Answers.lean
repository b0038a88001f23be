import DirectoryInterchange.Proofs.Reading.Calls
import DirectoryInterchange.Proofs.Reading.Pool.Refinement

/-!
What a pool delivers when it runs by its schedule.

A call finds an action as long as one is possible, so it never gives up, and
the answers to all calls are those to the items of the input.
-/

namespace DirectoryInterchange.Reading

open Pool (Item)

variable {Rule : Type} [Matching Rule]

theorem delivered_eq {Source : Type} (calls : List (Reader.Answer × Source)) :
    delivered calls = (calls.map (·.1)).filter (· ≠ .ok none) := by
  unfold delivered
  congr 1
  funext answer
  rcases answer with fault | _ | record <;> simp

/-- Calls go on until the first that says the end, when each answers what is
owed next. -/
theorem delivered_callsWithin {Source : Type} {call : Source → Option Reader.Answer × Source}
    {Owes : List Reader.Answer → Source → Prop}
    (called : ∀ rest source, Owes rest source →
      ∃ next, call source = (some (rest.headD (.ok none)), next) ∧ Owes rest.tail next)
    {rest : List Reader.Answer} {source : Source} (owes : Owes rest source)
    (more : ∀ answer ∈ rest, answer ≠ .ok none) {calls : Nat} (enough : rest.length < calls) :
    delivered (callsWithin call calls source) = rest := by
  rw [delivered_eq]
  induction calls generalizing source rest with
  | zero => omega
  | succ calls inductionHypothesis =>
      obtain ⟨next, first, owesNext⟩ := called rest source owes
      cases rest with
      | nil => simp [callsWithin, first]
      | cons answer rest =>
          have later := inductionHypothesis owesNext
            (fun other member => more other (List.mem_cons_of_mem _ member))
            (Nat.lt_of_succ_lt_succ enough)
          have goes := more answer List.mem_cons_self
          rw [List.headD_cons] at first
          rw [callsWithin, first]
          rcases answer with fault | _ | record
          · rw [List.map_cons, List.filter_cons_of_pos (by simp), later]
            rfl
          · exact absurd rfl goes
          · rw [List.map_cons, List.filter_cons_of_pos (by simp), later]
            rfl

namespace Pool

/-! ### The end among the answers -/

theorem Job.answer?_block_ne (job : Job Rule) (block : Block) :
    job.answer? (.block block) ≠ some (.ok none) := by
  rw [answer?, outcome?]
  split
  · exact fun same => by cases same
  · cases job.adjust _ block.firstLine <;> exact fun same => by cases same

/-- The end is answered last, if at all. -/
theorem Job.answers_to_items (job : Job Rule) {items : List Item} (closed : Closed items) :
    ∃ ended : Nat, items.filterMap job.answer? =
      (items.filterMap job.answer?).filter (· ≠ .ok none) ++ List.replicate ended (.ok none) := by
  induction closed with
  | @last item ends =>
      cases item with
      | block block => cases ends
      | ended => exact ⟨1, rfl⟩
      | failed fault => exact ⟨0, rfl⟩
  | @block items block others inductionHypothesis =>
      obtain ⟨ended, whole⟩ := inductionHypothesis
      refine ⟨ended, ?_⟩
      rw [List.filterMap_cons]
      cases answered : job.answer? (.block block) with
      | none => exact whole
      | some answer =>
          have goes : answer ≠ .ok none := fun same =>
            job.answer?_block_ne block (same ▸ answered)
          rw [List.filter_cons_of_pos (by simpa using goes), List.cons_append, ← whole]

end Pool

/-! ### A reader -/

namespace Reader

variable {reader : Reader Rule} {job : Pool.Job Rule}

/-- A call answers to the item that is next. -/
theorem readRecord_of_items
    (identical : job.adjust = Pool.Adjustment.identity) (same : reader.context = job.context)
    {item : Item} {rest : List Item} (front : reader.items = item :: rest) :
    job.answer? item = some reader.readRecord.1
      ∧ reader.readRecord.2.items = (if item.isLast then [.ended] else rest)
      ∧ reader.readRecord.2.context = job.context := by
  have called := call_answers same front
  rw [identical, adjustedAnswer_identity] at called
  exact ⟨called.1.symm, called.2⟩

/-- What a reader still has to deliver. -/
def Owes (job : Pool.Job Rule) (rest : List Answer) (reader : Reader Rule) : Prop :=
  reader.context = job.context ∧ rest = (reader.items.filterMap job.answer?).filter (· ≠ .ok none)

theorem readRecord_of_owes
    (identical : job.adjust = Pool.Adjustment.identity) {rest : List Answer}
    (owes : Owes job rest reader) :
    reader.readRecord.1 = rest.headD (.ok none) ∧ Owes job rest.tail reader.readRecord.2 := by
  obtain ⟨same, rfl⟩ := owes
  have closed := reader.closed_items
  generalize front : reader.items = items at closed ⊢
  cases closed with
  | @last item ends =>
      obtain ⟨answered, after, context⟩ := readRecord_of_items identical same front
      rw [if_pos ends] at after
      cases item with
      | block block => cases ends
      | ended | failed fault =>
          exact ⟨Option.some.inj answered.symm, context, by rw [after]; rfl⟩
  | @block others block closed =>
      obtain ⟨answered, after, context⟩ := readRecord_of_items identical same front
      simp only [Item.isLast, Bool.false_eq_true, if_false] at after
      have goes : reader.readRecord.1 ≠ .ok none := fun said =>
        job.answer?_block_ne block (said ▸ answered)
      rw [List.filterMap_cons_some answered, List.filter_cons_of_pos (by simpa using goes)]
      exact ⟨rfl, context, by rw [after]; rfl⟩

end Reader

namespace Pool

namespace State

variable {setup : Setup Rule} {items : List Item} {state : State}

/-! ### Calls that are answered -/

/-- The schedule leaves out no action that is possible. -/
theorem mem_actions {action : Action} {answer : Option Reader.Answer} {next : State}
    (performed : state.perform setup action = some (answer, next)) :
    action ∈ actions state.workers.length := by
  have present (index : Nat) (staffed : state.workers[index]? ≠ none) :
      index ∈ List.range state.workers.length := by
    rw [List.mem_range]
    by_contra beyond
    exact staffed (List.getElem?_eq_none (by omega))
  simp only [actions, List.mem_append, List.mem_flatMap, List.mem_cons, List.not_mem_nil, or_false]
  cases action with
  | take index | finish index | crash index | leave index =>
      refine .inl (.inr ⟨index, present index fun absent => ?_, by simp⟩)
      simp [perform, absent] at performed
  | read | reserve | submit | abandon | deliver | receive | notice => simp

theorem exists_answerWithin
    (holds : Invariant setup items state) (safe : ¬setup.job.Crashes items) {fuel : Nat}
    (enough : state.work < fuel) :
    ∃ answer next, answerWithin setup fuel state = (some answer, next) := by
  -- On the fuel: an action that answers nothing leaves less work than before.
  induction fuel generalizing state with
  | zero => omega
  | succ fuel inductionHypothesis =>
      rw [answerWithin]
      split
      · exact ⟨_, _, rfl⟩
      · next going =>
          have incomplete : state.complete = false := by
            cases complete : state.complete with
            | false => rfl
            | true =>
                have absent := absent_of_complete holds safe complete
                simp [complete, absent] at going
          cases found : state.next? setup with
          | none =>
              obtain ⟨answer, next, action, performed⟩ := holds.progress safe incomplete
              have idle := List.findSome?_eq_none_iff.mp found action (mem_actions performed)
              rw [performed] at idle
              cases idle
          | some effect =>
              obtain ⟨answer, middle⟩ := effect
              obtain ⟨action, -, performed⟩ := List.exists_of_findSome?_eq_some found
              cases answer with
              | some answer => exact ⟨answer, middle, rfl⟩
              | none =>
                  have step : Step setup state none middle := ⟨action, performed⟩
                  have less := work_lt_of_step step
                  exact inductionHypothesis (holds.step step) (by omega)

/-! ### Call after call -/

/-- A pool that is still to answer `rest`, and after that only the end. -/
structure Owes (setup : Setup Rule) (items : List Item) (rest : List Reader.Answer)
    (state : State) : Prop where
  holds : Invariant setup items state
  owed : ∃ count, StandsAt items count state ∧ ∀ later, ∃ more,
    setup.job.said items (count + later) <+:
      setup.job.said items count ++ rest ++ List.replicate more (.ok none)

theorem readRecord_of_owes (safe : ¬setup.job.Crashes items) {rest : List Reader.Answer}
    (owes : Owes setup items rest state) :
    ∃ next, readRecord setup state = (some (rest.headD (.ok none)), next)
      ∧ Owes setup items rest.tail next := by
  obtain ⟨answer, next, called⟩ :=
    exists_answerWithin owes.holds safe (Nat.lt_succ_self state.work)
  obtain ⟨count, stands, owed⟩ := owes.owed
  obtain ⟨holds, later, low, standing, said⟩ :=
    said_of_session safe (session_of_answerWithin called) owes.holds stands
  obtain ⟨ahead, rfl⟩ := Nat.exists_eq_add_of_le low
  have first : answer = rest.headD (.ok none) := by
    obtain ⟨more, front⟩ := owed ahead
    rw [said, List.append_assoc, List.prefix_append_right_inj] at front
    cases rest with
    | cons head tail => exact (List.cons_prefix_cons.mp front).1
    | nil =>
        cases more with
        | zero => cases List.prefix_nil.mp front
        | succ more => exact (List.cons_prefix_cons.mp front).1
  refine ⟨next, first ▸ called, holds, count + ahead, standing, fun further => ?_⟩
  obtain ⟨more, front⟩ := owed (ahead + further)
  refine ⟨more, ?_⟩
  rw [Nat.add_assoc, said, first]
  refine front.trans ?_
  simp only [List.append_assoc, List.prefix_append_right_inj]
  cases rest with
  | cons head tail => exact List.prefix_rfl
  | nil => exact ⟨[.ok none], List.replicate_succ'.symm⟩

/-- At the start all answers to items are owed, up to the one that says the end. -/
theorem owes_start (input : Input) :
    Owes setup (Feed.items { input })
      (((Feed.items { input }).filterMap setup.job.answer?).filter (· ≠ .ok none))
      (start setup input) := by
  refine ⟨invariant_start setup input, 0, (Nat.zero_min _).symm, fun later => ?_⟩
  obtain ⟨ended, whole⟩ := setup.job.answers_to_items (Feed.closed_items { input })
  have none_said : setup.job.said (Feed.items { input }) 0 = [] := by simp [Job.said]
  rw [none_said, List.nil_append, Nat.zero_add]
  rcases Nat.le_total later (Feed.items { input }).length with inside | beyond
  · refine ⟨ended, ?_⟩
    rw [Job.said_of_le inside, ← whole]
    exact (List.take_prefix _ _).filterMap _
  · refine ⟨ended + (later - (Feed.items { input }).length), [], ?_⟩
    rw [List.append_nil, Job.said_of_ge beyond, ← List.replicate_append_replicate,
      ← List.append_assoc, ← whole]

/-! ### Any schedule -/

theorem session_of_owes (safe : ¬setup.job.Crashes items) {rest : List Reader.Answer}
    (owes : Owes setup items rest state) :
    ∃ final, Session setup state (rest ++ [.ok none]) final := by
  induction rest generalizing state with
  | nil =>
      obtain ⟨next, called, -⟩ := readRecord_of_owes safe owes
      exact ⟨next, session_of_answerWithin called⟩
  | cons answer rest inductionHypothesis =>
      obtain ⟨next, called, owesNext⟩ := readRecord_of_owes safe owes
      obtain ⟨final, later⟩ := inductionHypothesis owesNext
      have whole := session_trans (session_of_answerWithin called) later
      exact ⟨final, whole⟩

theorem prefix_of_owes (safe : ¬setup.job.Crashes items) {rest answers : List Reader.Answer}
    (owes : Owes setup items rest state) {final : State}
    (session : Session setup state answers final) :
    ∃ more, answers <+: rest ++ List.replicate more (.ok none) := by
  obtain ⟨count, stands, owed⟩ := owes.owed
  obtain ⟨-, later, low, -, said⟩ := said_of_session safe session owes.holds stands
  obtain ⟨ahead, rfl⟩ := Nat.exists_eq_add_of_le low
  obtain ⟨more, front⟩ := owed ahead
  rw [said, List.append_assoc, List.prefix_append_right_inj] at front
  exact ⟨more, front⟩

/-- In front of the first answer that says the end is what is owed. -/
theorem eq_of_ended {answers rest : List Reader.Answer} {more : Nat}
    (front : answers ++ [.ok none] <+: rest ++ List.replicate more (.ok none))
    (going : .ok none ∉ answers) (owed : .ok none ∉ rest) : answers = rest := by
  induction answers generalizing rest with
  | nil =>
      cases rest with
      | nil => rfl
      | cons answer rest =>
          cases (List.cons_prefix_cons.mp front).1
          exact absurd List.mem_cons_self owed
  | cons answer answers inductionHypothesis =>
      cases rest with
      | nil =>
          have same := List.eq_of_mem_replicate (front.subset List.mem_cons_self)
          exact absurd (same ▸ List.mem_cons_self) going
      | cons other rest =>
          obtain ⟨rfl, behind⟩ := List.cons_prefix_cons.mp front
          rw [inductionHypothesis behind (fun later => going (List.mem_cons_of_mem _ later))
            (fun later => owed (List.mem_cons_of_mem _ later))]

end State

/-- Every call takes at least a line, so there are calls enough for all items. -/
theorem Job.length_answers_lt (job : Job Rule) (input : Input) :
    (((Feed.items { input }).filterMap job.answer?).filter (· ≠ .ok none)).length
      < input.bytes.length + 3 := by
  have filtered := List.length_filter_le (fun answer => decide (answer ≠ .ok none))
    ((Feed.items { input }).filterMap job.answer?)
  have answered := List.length_filterMap_le job.answer? (Feed.items { input })
  have bounded := Feed.length_items { input }
  simp only at bounded
  omega

/-- A pool with a worker that never stops delivers the answers to all items. -/
theorem answers_eq (setup : Setup Rule)
    (steady : ∀ record line, setup.job.adjust record line ≠ .crash) (input : Input) :
    answers setup input =
      ((Feed.items { input }).filterMap setup.job.answer?).filter (· ≠ .ok none) := by
  have safe := State.not_crashes steady (Feed.items { input })
  refine delivered_callsWithin (fun _ _ => State.readRecord_of_owes safe)
    (State.owes_start input) ?_ (setup.job.length_answers_lt input)
  exact fun answer member => by simpa using (List.mem_filter.mp member).2

/-- The end is said behind what a pool delivers. -/
theorem exists_session (setup : Setup Rule)
    (steady : ∀ record line, setup.job.adjust record line ≠ .crash) (input : Input) :
    ∃ final, State.Session setup (State.start setup input)
      (answers setup input ++ [.ok none]) final := by
  rw [answers_eq setup steady]
  exact State.session_of_owes (State.not_crashes steady _) (State.owes_start input)

/-- What is delivered up to the end depends neither on the schedule nor on the
number of workers. -/
theorem answers_of_session (setup : Setup Rule)
    (steady : ∀ record line, setup.job.adjust record line ≠ .crash) {input : Input}
    {answers : List Reader.Answer} {final : State}
    (session : State.Session setup (State.start setup input) (answers ++ [.ok none]) final)
    (going : .ok none ∉ answers) :
    answers = ((Feed.items { input }).filterMap setup.job.answer?).filter (· ≠ .ok none) := by
  obtain ⟨more, front⟩ := State.prefix_of_owes (State.not_crashes steady _)
    (State.owes_start input) session
  exact State.eq_of_ended front going fun said => by simpa using (List.mem_filter.mp said).2

end Pool

/-- A reader delivers the answers to all items. -/
theorem Reader.answers_eq {job : Pool.Job Rule} (identical : job.adjust = Pool.Adjustment.identity)
    (input : Input) :
    Reader.answers job.context input =
      ((Feed.items { input }).filterMap job.answer?).filter (· ≠ .ok none) := by
  refine @delivered_callsWithin (Reader Rule) _ (Owes job) (fun _ reader owes => ?_) _ _
    ⟨rfl, rfl⟩ ?_ _ (job.length_answers_lt input)
  · obtain ⟨answered, owesNext⟩ := readRecord_of_owes identical owes
    exact ⟨_, by rw [← answered], owesNext⟩
  · exact fun answer member => by simpa using (List.mem_filter.mp member).2

end DirectoryInterchange.Reading
