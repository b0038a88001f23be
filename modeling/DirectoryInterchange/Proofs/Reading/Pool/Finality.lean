import DirectoryInterchange.Proofs.Reading.Pool.Told

/-!
What comes behind an error.

An error says whether what follows it can still be read.  A pool goes on or
stops by the outcome and not by what the error says, and the two agree for
every error that reading makes: those of records allow to go on, and those of
the input stop.  An adjustment may refuse a record with an error of either
kind, and the pool goes on behind both.
-/

namespace DirectoryInterchange.Reading.Pool

variable {Rule : Type} [Matching Rule]

namespace Job

/-- Whether the adjustment refuses the record of that number for good. -/
def Forbids (job : Job Rule) (items : List Item) (number : Nat) : Prop :=
  ∃ block record error, items[number]? = some (.block block)
    ∧ block.decode job.context = .ok record
    ∧ job.adjust record block.firstLine = .reject error ∧ error.mayContinue = false

variable {job : Job Rule} {item : Item} {fault : Fault}

/-- Only an adjustment refuses a record for good: a block that is no record
allows to go on. -/
theorem forbids_of_refused
    {items : List Item} {number : Nat} (there : items[number]? = some item)
    (refused : job.outcome? item = some (.failed fault)) (fatal : fault.mayContinue = false) :
    job.Forbids items number := by
  cases item with
  | ended => cases refused
  | failed _ => cases refused
  | block block =>
      rw [outcome?] at refused
      cases decoded : block.decode job.context with
      | error error =>
          rw [decoded] at refused
          cases refused
          have allows : error.mayContinue = true := Reader.mayContinue_of_decode decoded
          rw [Fault.mayContinue, allows] at fatal
          cases fatal
      | ok record =>
          rw [decoded] at refused
          simp only at refused
          cases rejected : job.adjust record block.firstLine with
          | reject error =>
              rw [rejected] at refused
              cases refused
              exact ⟨block, record, error, there, decoded, rejected, fatal⟩
          | keep _ | drop | crash =>
              rw [rejected] at refused
              cases refused

theorem refused_of_adjust
    {block : Block} {record : Record} {error : Record.Error}
    (decoded : block.decode job.context = .ok record)
    (rejected : job.adjust record block.firstLine = .reject error) :
    job.outcome? (.block block) = some (.failed (.record error)) := by
  simp only [outcome?, decoded, rejected, adjusted]

/-- An error that forbids to go on refuses its item, or is that of the last. -/
theorem refused_or_last (said : job.answer? item = some (.error fault)) :
    job.outcome? item = some (.failed fault) ∨ item.isLast := by
  obtain ⟨outcome, found, answered⟩ := Option.bind_eq_some_iff.mp said
  cases outcome with
  | failed other =>
      cases answered
      exact Or.inl found
  | aborted other => exact Or.inr (State.answer_isLast found).symm
  | record record => cases answered
  | dropped => cases answered
  | ended => cases answered

end Job

namespace State

variable {setup : Setup Rule} {items : List Item} {state final : State}
  {answers : List Reader.Answer}

/-! ### Runs and sessions -/

theorem session_of_run (run : Run setup state answers final) :
    Session setup state answers final := by
  induction run with
  | refl state => exact .rest state
  | step step _ inductionHypothesis => exact .step step inductionHypothesis

/-- A run that gets behind a number comes to where its outcome is delivered. -/
theorem exists_delivery {number : Nat} (run : Run setup state answers final)
    (low : state.due ≤ number) (high : number < final.due) :
    ∃ earlier before outcome, Run setup state earlier before ∧ before.due = number
      ∧ before.early.lookup before.due = some outcome := by
  induction run with
  | refl state => omega
  | @step state middle final answer later step _ inductionHypothesis =>
      by_cases passed : number < middle.due
      · cases move_of_step step with
        | @deliver outcome found =>
            have here := Nat.le_antisymm low (Nat.le_of_lt_succ passed)
            exact ⟨[], state, outcome, .refl state, here, found⟩
        | _ => exact absurd passed (Nat.not_lt_of_le low)
      · obtain ⟨earlier, before, outcome, run, here, found⟩ :=
          inductionHypothesis (Nat.le_of_not_lt passed) high
        exact ⟨_, before, outcome, .step step run, here, found⟩

/-! ### The answer that comes next -/

/-- What was told begins with the answers in front of the first loss, or is the
beginning of them. -/
theorem Told.comparable (told : Told setup items answers state)
    (intact : state.due ≤ setup.job.firstLoss items) :
    answers <+: setup.job.said items (setup.job.firstLoss items)
      ∨ setup.job.said items (setup.job.firstLoss items) <+: answers := by
  cases told with
  | inOrder count _ said _ =>
      rw [said]
      rcases Nat.le_total count (setup.job.firstLoss items) with fewer | more
      · exact Or.inl (Job.said_prefix fewer)
      · exact Or.inr (Job.said_prefix more)
  | stopped more _ lost said =>
      rw [said, Nat.le_antisymm intact (Job.firstLoss_le_of_loses lost)]
      exact Or.inr (List.prefix_append _ _)

theorem Told.reaches (told : Told setup items answers state)
    (due : state.due = setup.job.firstLoss items) :
    setup.job.said items (setup.job.firstLoss items) <+: answers := by
  cases told with
  | inOrder count stands said _ =>
      rw [StandsAt] at stands
      rw [said]
      exact Job.said_prefix (by omega)
  | stopped more _ _ said =>
      rw [said, due]
      exact List.prefix_append _ _

/-- Whether a call is answered so: no run comes to rest without that answer, and
no call gets another one. -/
def Answers (setup : Setup Rule) (state : State) (answer : Reader.Answer) : Prop :=
  (∀ answers final, Run setup state answers final → final.AtRest setup →
      ∃ rest, answers = answer :: rest)
    ∧ ∀ other next, Session setup state [other] next → other = answer

/-- As long as answers in front of the first loss are left, a call gets the next
of them. -/
theorem Reckoning.answers_next
    (holds : Reckoning setup items state) (told : Told setup items answers state)
    {answer : Reader.Answer} {rest : List Reader.Answer}
    (left : setup.job.said items (setup.job.firstLoss items) = answers ++ answer :: rest) :
    state.Answers setup answer := by
  constructor
  · intro more final run rests
    obtain ⟨kept, all⟩ := holds.told_of_session told (session_of_run run)
    have reached := all.reaches (kept.due_of_rest rests)
    rw [left, List.prefix_append_right_inj] at reached
    obtain ⟨behind, same⟩ := reached
    exact ⟨rest ++ behind, same.symm⟩
  · intro other next session
    obtain ⟨kept, all⟩ := holds.told_of_session told session
    have comparable := all.comparable kept.intact
    rw [left, List.prefix_append_right_inj, List.prefix_append_right_inj,
      List.cons_prefix_cons, List.cons_prefix_cons] at comparable
    rcases comparable with ⟨same, -⟩ | ⟨same, -⟩
    · exact same
    · exact same.symm

/-- Whether the next answer in the order of the input comes behind these, unless
it is lost with its worker. -/
def GoesOn (setup : Setup Rule) (input : Input) (answers : List Reader.Answer) (state : State) :
    Prop :=
  state.complete = false
    ∧ ((∃ answer rest,
        setup.sequential input (setup.job.firstLoss (Feed.items { input }))
          = answers ++ answer :: rest
        ∧ state.Answers setup answer)
      ∨ (setup.sequential input (setup.job.firstLoss (Feed.items { input })) = answers
        ∧ setup.job.Loses (Feed.items { input }) (setup.job.firstLoss (Feed.items { input }))))

/-! ### The last answer -/

theorem final_of_said (job : Job Rule) (input : Input) {count : Nat}
    (beyond : (Feed.items { input }).length ≤ count) :
    ∃ answer, (job.said (Feed.items { input }) count).getLast? = some answer
      ∧ answer.IsFinal := by
  rw [Job.said_of_ge beyond]
  cases count - (Feed.items { input }).length with
  | zero =>
      rw [List.replicate_zero, List.append_nil]
      exact job.final_answer input
  | succ more =>
      rw [List.replicate_succ', ← List.append_assoc]
      exact ⟨.ok none, List.getLast?_concat, rfl⟩

/-- Once the consumer was told how it ends, that is what it was told last. -/
theorem Told.final_of_complete {input : Input}
    (told : Told setup (Feed.items { input }) answers state) (complete : state.complete) :
    ∃ answer, answers.getLast? = some answer ∧ answer.IsFinal := by
  cases told with
  | inOrder count stands said ends =>
      have due := ends complete
      rw [StandsAt] at stands
      rw [said]
      exact final_of_said setup.job input (by omega)
  | stopped more _ _ said =>
      rw [said]
      cases more with
      | zero => exact ⟨.error stoppedEarly, List.getLast?_concat, rfl⟩
      | succ more =>
          rw [List.replicate_succ', ← List.cons_append, ← List.append_assoc]
          exact ⟨.ok none, List.getLast?_concat, rfl⟩

theorem not_final_of_concat {fault : Fault} (allows : fault.mayContinue = true) :
    ¬∃ answer : Reader.Answer, (answers ++ [Except.error fault]).getLast? = some answer
      ∧ answer.IsFinal := by
  rintro ⟨answer, last, final⟩
  rw [List.getLast?_concat] at last
  cases last
  have forbids : fault.mayContinue = false := final
  rw [allows] at forbids
  cases forbids

namespace Reckoning

/-- Until the consumer was told how it ends, it was told what there is to say
about the items in front of the number due. -/
theorem said_of_going
    (holds : Reckoning setup items state) (told : Told setup items answers state)
    (going : ¬state.complete) :
    answers = setup.job.said items state.due ∧ state.due < items.length := by
  have inside : state.due < items.length := by
    apply Nat.lt_of_le_of_ne (Nat.le_trans holds.due_le holds.sent_le)
    exact fun due => going (holds.incomplete due)
  cases told with
  | stopped more complete _ _ => exact absurd complete going
  | inOrder count stands said _ =>
      rw [StandsAt] at stands
      have here : count = state.due := by omega
      exact ⟨here ▸ said, inside⟩

/-- Behind an error that allows to go on a pool goes on. -/
theorem goesOn {input : Input} {fault : Fault}
    (holds : Reckoning setup (Feed.items { input }) state)
    (told : Told setup (Feed.items { input }) (answers ++ [.error fault]) state)
    (allows : fault.mayContinue = true) :
    state.GoesOn setup input (answers ++ [.error fault]) := by
  have going : ¬state.complete := fun complete =>
    not_final_of_concat allows (told.final_of_complete complete)
  refine ⟨Bool.eq_false_iff.mpr going, ?_⟩
  obtain ⟨said, -⟩ := holds.said_of_going told going
  obtain ⟨rest, whole⟩ :
      setup.job.said (Feed.items { input }) state.due <+: setup.job.said (Feed.items { input }) _ :=
    Job.said_prefix holds.intact
  rw [Setup.sequential_eq]
  rw [← said] at whole
  cases rest with
  | cons answer rest => exact Or.inl ⟨answer, rest, whole.symm, holds.answers_next told whole.symm⟩
  | nil =>
      rw [List.append_nil] at whole
      refine Or.inr ⟨whole.symm, Job.loses_firstLoss ?_⟩
      by_contra beyond
      have final := final_of_said setup.job input (Nat.le_of_not_lt beyond)
      rw [← whole] at final
      exact not_final_of_concat allows final

/-- Where no record is refused for good, an error that forbids to go on comes
last. -/
theorem complete_of_fatal
    (holds : Reckoning setup items state) (told : Told setup items answers state)
    (allowed : ∀ number < setup.job.firstLoss items, ¬setup.job.Forbids items number)
    {fault : Fault} (member : .error fault ∈ answers) (fatal : fault.mayContinue = false) :
    state.complete := by
  by_contra going
  obtain ⟨said, inside⟩ := holds.said_of_going told going
  rw [said, Job.said_of_le (Nat.le_of_lt inside), List.mem_filterMap] at member
  obtain ⟨item, taken, answered⟩ := member
  obtain ⟨number, before, there⟩ := List.mem_take_iff_getElem.mp taken
  have found : items[number]? = some item := List.getElem?_eq_some_iff.mpr ⟨_, there⟩
  have intact := holds.intact
  rcases Job.refused_or_last answered with refused | last
  · exact allowed number (by omega) (Job.forbids_of_refused found refused fatal)
  · have ended := (holds.closed.isLast_iff found).mp last
    omega

/-- A pool does not end with the delivery of a refused record. -/
theorem session_of_refused
    (holds : Reckoning setup items state) {outcome : Outcome}
    (found : state.early.lookup state.due = some outcome) {item : Item} {fault : Fault}
    (there : items[state.due]? = some item)
    (refused : setup.job.outcome? item = some (.failed fault)) :
    ∃ next, Session setup state [.error fault] next ∧ next.complete = false := by
  obtain ⟨other, same, outcomeOf⟩ := holds.due_item found
  rw [there] at same
  cases same
  rw [refused] at outcomeOf
  cases outcomeOf
  refine ⟨_, .step (step_of_move (.deliver found)) (.rest _), ?_⟩
  change (state.complete || false) = false
  rw [Bool.or_false, Bool.eq_false_iff]
  intro complete
  rw [holds.absent_of_complete complete] at found
  cases found

end Reckoning

/-! ### Errors -/

/-- What a pool owes behind an error: only the end, when the error forbids to go
on, and the next answer otherwise. -/
def HeedsErrors (setup : Setup Rule) (input : Input) : Prop :=
  ∀ answers fault state,
    Session setup (start setup input) (answers ++ [.error fault]) state →
    (fault.mayContinue = false → state.complete ∧ state.SaysOnlyEnd setup)
    ∧ (fault.mayContinue = true → state.GoesOn setup input (answers ++ [.error fault]))

/-- A pool heeds what its errors say, just when its adjustment refuses no record
in front of the first loss for good. -/
theorem heedsErrors_iff (setup : Setup Rule) (input : Input) :
    HeedsErrors setup input
      ↔ ∀ number < setup.job.firstLoss (Feed.items { input }),
        ¬setup.job.Forbids (Feed.items { input }) number := by
  have begins := reckoning_start setup input
  constructor
  · rintro heeds number inFront ⟨block, record, error, there, decoded, rejected, fatal⟩
    have refused := Job.refused_of_adjust decoded rejected
    obtain ⟨all, final, run, rests⟩ := exists_rest setup (start setup input)
    have due := (reckoning_of_run begins run).due_of_rest rests
    obtain ⟨earlier, state, outcome, before, rfl, found⟩ :=
      exists_delivery run (Nat.zero_le number) (by omega)
    obtain ⟨next, delivery, going⟩ :=
      (reckoning_of_run begins before).session_of_refused found there refused
    have session := session_trans (session_of_run before) delivery
    have complete := ((heeds earlier _ next session).1 fatal).1
    rw [going] at complete
    cases complete
  · intro allowed answers fault state session
    obtain ⟨holds, told⟩ := begins.told_of_session (told_start setup input) session
    rw [List.nil_append] at told
    constructor
    · intro fatal
      have member : .error fault ∈ answers ++ [.error fault] :=
        List.mem_append_right _ (List.mem_singleton_self _)
      have complete := holds.complete_of_fatal told allowed member fatal
      exact ⟨complete, holds.saysOnlyEnd complete⟩
    · exact holds.goesOn told

/-- A pool that refuses the record on the first line for good. -/
def refusingFirst : Setup :=
  .ofRequest
    { context := { options := {}, files := fun _ => none }
      adjust := fun record line =>
        if line = 1 then .reject { problem := .rejected "refused", mayContinue := false }
        else .keep record }
    1 2

theorem not_heedsErrors_refusingFirst : ¬HeedsErrors refusingFirst twoEntries := by
  intro heeds
  have refused : (readRecord refusingFirst (start refusingFirst twoEntries)).1
      = some (.error (.record { problem := .rejected "refused", mayContinue := false })) := by
    decide +kernel
  have going :
      (readRecord refusingFirst (start refusingFirst twoEntries)).2.complete = false := by
    decide +kernel
  have session := session_of_answerWithin (Prod.ext refused rfl)
  have complete := ((heeds [] _ _ session).1 rfl).1
  exact Bool.false_ne_true (going.symm.trans complete)

end State

end DirectoryInterchange.Reading.Pool
