import DirectoryInterchange.Proofs.Reading.Adjusted
import DirectoryInterchange.Proofs.Reading.Pool.Progress

/-!
A pool answers what a reader answers that adjusts one record after another.

The feeder, the workers and the consumer may act in any order.  The number
that is due tells how many calls of the reader the answers so far amount to.
-/

namespace DirectoryInterchange.Reading.Pool

variable {Rule : Type} [Matching Rule]

/-! ### The answers to the first items -/

/-- What is answered to the first so many items, with the end again and again
behind the last one. -/
def Job.said (job : Job Rule) (items : List Item) (count : Nat) : List Reader.Answer :=
  ((items ++ List.replicate count Item.ended).take count).filterMap job.answer?

namespace Job

variable {job : Job Rule} {items : List Item} {count : Nat}

theorem said_of_le (inside : count ≤ items.length) :
    job.said items count = (items.take count).filterMap job.answer? := by
  rw [said, List.take_append_of_le_length inside]

theorem said_of_ge (beyond : items.length ≤ count) :
    job.said items count = items.filterMap job.answer?
      ++ List.replicate (count - items.length) (.ok none) := by
  have ended : job.answer? .ended = some (.ok none) := rfl
  rw [said, List.take_append, List.take_of_length_le beyond, List.take_replicate,
    Nat.min_eq_left (Nat.sub_le _ _), List.filterMap_append,
    List.filterMap_replicate_of_some ended]

/-- Behind the last item only the end is said. -/
theorem said_add (beyond : items.length ≤ count) (more : Nat) :
    job.said items (count + more) = job.said items count ++ List.replicate more (.ok none) := by
  rw [said_of_ge beyond, said_of_ge (by omega), List.append_assoc, List.replicate_append_replicate]
  congr 2
  omega

/-- The answers to more items begin with those to fewer. -/
theorem said_prefix {later : Nat} (le : count ≤ later) :
    job.said items count <+: job.said items later := by
  induction le with
  | refl => exact List.prefix_rfl
  | @step later _ inductionHypothesis =>
      refine inductionHypothesis.trans ?_
      rw [said, said, List.take_add_one, List.filterMap_append, Reader.take_of_more]
      exact List.prefix_append _ _

/-- A reader that decides as the pool does says it call by call. -/
theorem adjustedAnswers_start (job : Job Rule) (input : Input) (calls : Nat) :
    (Reader.start job.context input).adjustedAnswers job.adjust calls
      = job.said (Feed.items { input }) calls :=
  Reader.adjustedAnswers_eq rfl calls

end Job

namespace State

/-! ### Calling a pool -/

/-- What a consumer that calls again and again gets to see, whatever the pool
does in between. -/
inductive Session (setup : Setup Rule) : State → List Reader.Answer → State → Prop
  | rest (state : State) : Session setup state [] state
  | step {state middle final : State} {answer : Option Reader.Answer}
      {answers : List Reader.Answer} :
      Step setup state answer middle → Session setup middle answers final →
      Session setup state (answer.toList ++ answers) final
  /-- A complete pool that keeps nothing for the number due says the end. -/
  | spent {state final : State} {answers : List Reader.Answer} :
      state.complete → state.early.lookup state.due = none → Session setup state answers final →
      Session setup state (.ok none :: answers) final

theorem session_trans
    {setup : Setup Rule} {state middle final : State} {answers later : List Reader.Answer}
    (first : Session setup state answers middle) (second : Session setup middle later final) :
    Session setup state (answers ++ later) final := by
  induction first with
  | rest state => exact second
  | step step _ inductionHypothesis =>
      rw [List.append_assoc]
      exact .step step (inductionHypothesis second)
  | spent complete absent _ inductionHypothesis =>
      exact .spent complete absent (inductionHypothesis second)

/-- The fixed schedule is one of the ways in which a pool may act. -/
theorem session_of_answerWithin
    {setup : Setup Rule} {fuel : Nat} {state next : State} {answer : Reader.Answer}
    (answered : answerWithin setup fuel state = (some answer, next)) :
    Session setup state [answer] next := by
  induction fuel generalizing state with
  | zero => cases answered
  | succ fuel inductionHypothesis =>
      rw [answerWithin] at answered
      split at answered
      · next ends =>
          cases answered
          rw [Bool.and_eq_true, Option.isNone_iff_eq_none] at ends
          exact .spent ends.1 ends.2 (.rest next)
      · split at answered
        · cases answered
        · next said middle found =>
            obtain ⟨action, -, performed⟩ := List.exists_of_findSome?_eq_some found
            cases answered
            exact .step ⟨action, performed⟩ (.rest next)
        · next middle found =>
            obtain ⟨action, -, performed⟩ := List.exists_of_findSome?_eq_some found
            exact .step ⟨action, performed⟩ (inductionHypothesis answered)

/-- Whether the answers to so many items bring a pool to this state. -/
def StandsAt (items : List Item) (count : Nat) (state : State) : Prop :=
  state.due = min count items.length

section

variable {setup : Setup Rule} {items : List Item} {state : State} {count : Nat}

theorem due_of_step
    {answer : Option Reader.Answer} {next : State} (step : Step setup state answer next) :
    next.due = state.due ∨ next.due = state.due + 1 := by
  cases move_of_step step with
  | deliver found => exact Or.inr rfl
  | _ => exact Or.inl rfl

/-- A step that answers to the items it delivers goes on where the answers stand. -/
theorem said_of_answered
    (holds : Invariant setup items state) (stands : StandsAt items count state)
    {answer : Option Reader.Answer} {next : State} (step : Step setup state answer next)
    (answered : (items.take next.due).filterMap setup.job.answer?
      = (items.take state.due).filterMap setup.job.answer? ++ answer.toList) :
    ∃ later, count ≤ later ∧ StandsAt items later next
      ∧ setup.job.said items later = setup.job.said items count ++ answer.toList := by
  rw [StandsAt] at stands
  rcases due_of_step step with same | advanced
  · have nothing : answer.toList = [] := by
      rw [same] at answered
      exact List.self_eq_append_right.mp answered
    refine ⟨count, Nat.le_refl count, same.trans stands, ?_⟩
    rw [nothing, List.append_nil]
  · have after := holds.step step
    have due_le := after.due_le
    have sent_le := after.sent_le
    have here : count = state.due := by omega
    refine ⟨count + 1, Nat.le_succ count, ?_, ?_⟩
    · rw [StandsAt]
      omega
    · rw [Job.said_of_le (by omega), Job.said_of_le (by omega), here, ← advanced, answered]

/-- A step goes on with the answers where they stand. -/
theorem said_of_step
    (holds : Invariant setup items state) (safe : ¬setup.job.Crashes items)
    (stands : StandsAt items count state) {answer : Option Reader.Answer} {next : State}
    (step : Step setup state answer next) :
    ∃ later, count ≤ later ∧ StandsAt items later next
      ∧ setup.job.said items later = setup.job.said items count ++ answer.toList := by
  rcases holds.step_answers step with answered | ⟨crashes, -, -⟩
  · exact said_of_answered holds stands step answered
  · exact absurd crashes safe

/-- A pool that is complete has delivered everything. -/
theorem due_of_complete
    (holds : Invariant setup items state) (safe : ¬setup.job.Crashes items)
    (complete : state.complete) : state.due = items.length := by
  rcases holds.complete complete with due | crashes
  · exact due
  · exact absurd crashes safe

theorem absent_of_complete
    (holds : Invariant setup items state) (safe : ¬setup.job.Crashes items)
    (complete : state.complete) : state.early.lookup state.due = none := by
  rcases early : state.early.lookup state.due with _ | outcome
  · rfl
  · have inside := holds.due_lt early
    have due := due_of_complete holds safe complete
    omega

theorem said_of_session
    (safe : ¬setup.job.Crashes items) {answers : List Reader.Answer} {final : State}
    (session : Session setup state answers final) (holds : Invariant setup items state)
    (stands : StandsAt items count state) :
    Invariant setup items final ∧ ∃ later, count ≤ later ∧ StandsAt items later final
      ∧ setup.job.said items later = setup.job.said items count ++ answers := by
  induction session generalizing count with
  | rest state => exact ⟨holds, count, Nat.le_refl count, stands, (List.append_nil _).symm⟩
  | step step _ inductionHypothesis =>
      obtain ⟨middle, low, standing, said⟩ := said_of_step holds safe stands step
      obtain ⟨kept, later, high, ends, rest⟩ := inductionHypothesis (holds.step step) standing
      refine ⟨kept, later, Nat.le_trans low high, ends, ?_⟩
      rw [rest, said, List.append_assoc]
  | @spent state final answers complete absent _ inductionHypothesis =>
      have due := due_of_complete holds safe complete
      rw [StandsAt] at stands
      have standing : StandsAt items (count + 1) state := by
        rw [StandsAt, due]
        omega
      obtain ⟨kept, later, high, ends, rest⟩ := inductionHypothesis holds standing
      refine ⟨kept, later, by omega, ends, ?_⟩
      rw [rest, Job.said_add (by omega) 1, List.append_assoc]
      rfl

/-- A call gets an answer after finitely many steps. -/
theorem exists_answer
    (holds : Invariant setup items state) (safe : ¬setup.job.Crashes items) :
    ∃ answer next, Session setup state [answer] next := by
  induction bound : state.work using Nat.strongRecOn generalizing state with
  | ind work inductionHypothesis =>
      cases complete : state.complete with
      | false =>
          obtain ⟨answer, middle, step⟩ := holds.progress safe complete
          cases answer with
          | some answer => exact ⟨answer, middle, .step step (.rest middle)⟩
          | none =>
              have less := work_lt_of_step step
              rw [bound] at less
              obtain ⟨answer, next, session⟩ :=
                inductionHypothesis middle.work less (holds.step step) rfl
              exact ⟨answer, next, .step step session⟩
      | true =>
          have absent := absent_of_complete holds safe complete
          exact ⟨.ok none, state, .spent complete absent (.rest state)⟩

end

theorem not_crashes
    {job : Job Rule} (steady : ∀ record line, job.adjust record line ≠ .crash) (items : List Item) :
    ¬job.Crashes items := by
  rintro ⟨number, item, -, lost⟩
  cases item with
  | ended => cases lost
  | failed fault => cases lost
  | block block =>
      simp only [Job.outcome?] at lost
      split at lost
      · cases lost
      · next record decoded =>
          have kept := steady record block.firstLine
          cases adjusted : job.adjust record block.firstLine with
          | crash => exact kept adjusted
          | keep other => rw [adjusted] at lost; cases lost
          | drop => rw [adjusted] at lost; cases lost
          | reject error => rw [adjusted] at lost; cases lost

/-- The answers of a pool are those of a reader that adjusts its records: at
any time the answers to a number of calls of the reader, and all of them with
the end behind when the pool is complete.  A call never waits in vain. -/
theorem pool_refines_reader
    (setup : Setup Rule) (input : Input)
    (steady : ∀ record line, setup.job.adjust record line ≠ .crash)
    {answers : List Reader.Answer} {state : State}
    (session : Session setup (start setup input) answers state) :
    (∃ calls,
      answers = (Reader.start setup.job.context input).adjustedAnswers setup.job.adjust calls
      ∧ (state.complete → ∀ more,
          (Reader.start setup.job.context input).adjustedAnswers setup.job.adjust (calls + more)
            = answers ++ List.replicate more (.ok none)))
    ∧ (state.complete → ∀ later last, Session setup state later last →
        ∀ answer ∈ later, answer = .ok none)
    ∧ ∃ answer next, Session setup state [answer] next := by
  have safe := not_crashes steady (Feed.items { input })
  have holds := invariant_start setup input
  have at_start : StandsAt (Feed.items { input }) 0 (start setup input) :=
    (Nat.zero_min _).symm
  obtain ⟨kept, calls, -, stands, said⟩ := said_of_session safe session holds at_start
  have finished : state.complete → (Feed.items { input }).length ≤ calls := by
    intro complete
    have due := due_of_complete kept safe complete
    rw [StandsAt] at stands
    omega
  refine ⟨⟨calls, ?_, ?_⟩, ?_, exists_answer kept safe⟩
  · rw [Job.adjustedAnswers_start, said]
    rfl
  · intro complete more
    rw [Job.adjustedAnswers_start, Job.said_add (finished complete), said]
    rfl
  · intro complete later last continued answer member
    obtain ⟨-, count, low, -, rest⟩ := said_of_session safe continued kept stands
    obtain ⟨more, rfl⟩ := Nat.exists_eq_add_of_le low
    rw [Job.said_add (finished complete)] at rest
    rw [← List.append_cancel_left rest] at member
    exact List.eq_of_mem_replicate member

/-- A pool that drops the record on the first line. -/
def droppingFirst : Setup :=
  .ofRequest
    { context := { options := {}, files := fun _ => none }
      adjust := fun record line => if line = 1 then .drop else .keep record }
    1 2

def twoEntries : Input where
  bytes := Utf8.encode "dn: a\nb: c\n\ndn: d\ne: f\n"

theorem steady_droppingFirst (record : Record) (line : Nat) :
    droppingFirst.job.adjust record line ≠ .crash := by
  simp only [droppingFirst, Setup.ofRequest]
  split <;> exact Adjustment.noConfusion

theorem pool_refines_reader_droppingFirst :
    ∃ calls, [.ok (some (.entry "d" [⟨"e", [Utf8.encode "f"]⟩]))]
      = (Reader.start droppingFirst.job.context twoEntries).adjustedAnswers
          droppingFirst.job.adjust calls := by
  have answered : (readRecord droppingFirst (start droppingFirst twoEntries)).1
      = some (.ok (some (.entry "d" [⟨"e", [Utf8.encode "f"]⟩]))) := by
    decide +kernel
  have session := session_of_answerWithin (Prod.ext answered rfl)
  obtain ⟨⟨calls, same, -⟩, -⟩ :=
    pool_refines_reader droppingFirst twoEntries steady_droppingFirst session
  exact ⟨calls, same⟩

end State

end DirectoryInterchange.Reading.Pool
