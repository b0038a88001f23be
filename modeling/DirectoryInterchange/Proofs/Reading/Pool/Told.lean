import DirectoryInterchange.Proofs.Reading.Pool.Starvation

/-!
What the consumer of a pool is told when workers may stop over items.

Deaths of workers never disturb the order.  The answers are those of reading
one record after another, up to a number that never passes the first loss.
Behind them there is nothing but the end, or, in front of the end, one error
that says that no more will come.
-/

namespace DirectoryInterchange.Reading.Pool

variable {Rule : Type} [Matching Rule]

/-- What reading one record after another answers in so many calls, when what
becomes of a record is decided as in the pool. -/
def Setup.sequential (setup : Setup Rule) (input : Input) (calls : Nat) : List Reader.Answer :=
  (Reader.start setup.job.context input).adjustedAnswers setup.job.adjust calls

theorem Setup.sequential_eq (setup : Setup Rule) (input : Input) (calls : Nat) :
    setup.sequential input calls = setup.job.said (Feed.items { input }) calls :=
  setup.job.adjustedAnswers_start input calls

namespace State

/-- Whether a call says the end, and every further call. -/
def SaysOnlyEnd (setup : Setup Rule) (state : State) : Prop :=
  Session setup state [.ok none] state
    ∧ ∀ later final, Session setup state later final → ∀ answer ∈ later, answer = .ok none

/-- What the consumer was told by the answers so far. -/
inductive Told (setup : Setup Rule) (items : List Item) (answers : List Reader.Answer)
    (state : State) : Prop
  /-- What there is to say about the first items, and the end again and again. -/
  | inOrder (count : Nat) (stands : StandsAt items count state)
      (said : answers = setup.job.said items count)
      (ends : state.complete → state.due = items.length)
  /-- Everything in front of a loss, that no more will come, and the end. -/
  | stopped (more : Nat) (complete : state.complete)
      (lost : setup.job.Loses items state.due)
      (said : answers = setup.job.said items state.due
        ++ .error stoppedEarly :: List.replicate more (.ok none))

variable {setup : Setup Rule} {items : List Item} {state : State}
  {answers : List Reader.Answer}

/-- What there is to say so far is what there is to say about the delivered
items, and the end again and again when these are all. -/
theorem said_of_stands {count : Nat} (stands : StandsAt items count state) :
    ∃ more, setup.job.said items count
        = setup.job.said items state.due ++ List.replicate more (.ok none)
      ∧ (0 < more → state.due = items.length) := by
  rw [StandsAt] at stands
  by_cases inside : count ≤ items.length
  · have here : count = state.due := by omega
    rw [here]
    exact ⟨0, (List.append_nil _).symm, fun more => absurd more (Nat.lt_irrefl 0)⟩
  · have due : state.due = items.length := by omega
    obtain ⟨more, rfl⟩ := Nat.exists_eq_add_of_le (show state.due ≤ count by omega)
    exact ⟨more, Job.said_add (by omega) more, fun _ => due⟩

theorem told_start (setup : Setup Rule) (input : Input) :
    Told setup (Feed.items { input }) [] (start setup input) :=
  .inOrder 0 (Nat.zero_min _).symm rfl fun complete => by cases complete

namespace Reckoning

/-- Once the consumer was told how it ends, no step tells it anything. -/
theorem quiet_of_complete
    (holds : Reckoning setup items state) (complete : state.complete)
    {answer : Option Reader.Answer} {next : State} (step : Step setup state answer next) :
    answer = none ∧ next.complete ∧ next.due = state.due := by
  cases move_of_step step with
  | deliver found =>
      rw [holds.absent_of_complete complete] at found
      cases found
  | notice waiting =>
      rw [waits, complete] at waiting
      cases waiting
  | _ => exact ⟨rfl, complete, rfl⟩

theorem saysOnlyEnd
    (holds : Reckoning setup items state) (complete : state.complete) :
    state.SaysOnlyEnd setup := by
  constructor
  · exact .spent complete (holds.absent_of_complete complete) (.rest state)
  · intro later final session
    induction session with
    | rest state => exact fun answer member => by cases member
    | step step _ inductionHypothesis =>
        obtain ⟨rfl, kept, -⟩ := holds.quiet_of_complete complete step
        exact inductionHypothesis (holds.step step) kept
    | spent _ _ _ inductionHypothesis =>
        intro answer member
        rcases List.mem_cons.mp member with rfl | member
        · rfl
        · exact inductionHypothesis holds complete answer member

theorem told_of_step
    (holds : Reckoning setup items state) (told : Told setup items answers state)
    {answer : Option Reader.Answer} {next : State} (step : Step setup state answer next) :
    Told setup items (answers ++ answer.toList) next := by
  cases told with
  | stopped more complete lost said =>
      obtain ⟨rfl, kept, same⟩ := holds.quiet_of_complete complete step
      rw [← same] at lost said
      exact .stopped more kept lost ((List.append_nil _).trans said)
  | inOrder count stands said ends =>
      cases move_of_step step with
      | deliver found =>
          obtain ⟨later, -, standing, rest⟩ :=
            said_of_answered holds.toInvariant stands step (holds.said_of_deliver found)
          exact .inOrder later standing (by rw [rest, said]) (holds.due_of_delivered found)
      | notice waiting empty deserted =>
          have lost := holds.loses_of_notice waiting empty deserted
          have inside := lost.lt_length
          rw [StandsAt] at stands
          have here : count = state.due := by omega
          refine .stopped 0 rfl lost ?_
          rw [said, here]
          rfl
      | _ => exact .inOrder count stands ((List.append_nil _).trans said) ends

theorem told_of_session
    (holds : Reckoning setup items state) (told : Told setup items answers state)
    {later : List Reader.Answer} {final : State} (session : Session setup state later final) :
    Reckoning setup items final ∧ Told setup items (answers ++ later) final := by
  induction session generalizing answers with
  | rest state =>
      rw [List.append_nil]
      exact ⟨holds, told⟩
  | step step _ inductionHypothesis =>
      rw [← List.append_assoc]
      exact inductionHypothesis (holds.step step) (holds.told_of_step told step)
  | @spent state final later complete absent _ inductionHypothesis =>
      rw [List.append_cons]
      apply inductionHypothesis holds
      cases told with
      | inOrder count stands said ends =>
          have due := ends complete
          rw [StandsAt] at stands
          refine .inOrder (count + 1) ?_ ?_ ends
          · rw [StandsAt]
            omega
          · rw [said, Job.said_add (by omega)]
            rfl
      | stopped more _ lost said =>
          refine .stopped (more + 1) complete lost ?_
          rw [said, List.replicate_succ', List.append_assoc, List.cons_append]

end Reckoning

/-- Whatever workers stop over items, and whoever acts first: the answers are
those of reading one record after another up to the number due, which never
passes the first loss.  Behind them only the end is said, or, once the first
loss is due, one error and then the end. -/
theorem pool_delivers_up_to_loss
    (setup : Setup Rule) (input : Input) {answers : List Reader.Answer} {state : State}
    (session : Session setup (start setup input) answers state) :
    state.due ≤ setup.job.firstLoss (Feed.items { input })
    ∧ setup.sequential input state.due
      <+: setup.sequential input (setup.job.firstLoss (Feed.items { input }))
    ∧ ∃ rest, answers = setup.sequential input state.due ++ rest
      ∧ (rest = []
        ∨ (state.due = (Feed.items { input }).length
          ∧ ∃ more, rest = List.replicate more (.ok none))
        ∨ (state.due = setup.job.firstLoss (Feed.items { input })
          ∧ setup.job.Loses (Feed.items { input }) state.due
          ∧ ∃ more, rest = .error stoppedEarly :: List.replicate more (.ok none)))
      ∧ (rest ≠ [] → state.SaysOnlyEnd setup) := by
  have begins := reckoning_start setup input
  obtain ⟨holds, told⟩ :=
    begins.told_of_session (told_start setup input) session
  have intact := holds.intact
  simp only [Setup.sequential_eq]
  refine ⟨intact, Job.said_prefix intact, ?_⟩
  cases told with
  | inOrder count stands said ends =>
      obtain ⟨more, behind, due⟩ := @said_of_stands Rule _ setup _ _ _ stands
      rw [List.nil_append, behind] at said
      cases more with
      | zero => exact ⟨[], said, Or.inl rfl, fun left => absurd rfl left⟩
      | succ more =>
          have due := due (Nat.succ_pos more)
          exact ⟨_, said, Or.inr (Or.inl ⟨due, _, rfl⟩),
            fun _ => holds.saysOnlyEnd (holds.incomplete due)⟩
  | stopped more complete lost said =>
      have due := Nat.le_antisymm intact (Job.firstLoss_le_of_loses lost)
      exact ⟨_, said, Or.inr (Or.inr ⟨due, lost, more, rfl⟩), fun _ => holds.saysOnlyEnd complete⟩

theorem pool_delivers_up_to_loss_losingSecond :
    ∃ state, Session (losingAt 4 1) (start (losingAt 4 1) twoEntries)
        [.ok (some (.entry "a" [⟨"b", [Utf8.encode "c"]⟩])), .error stoppedEarly] state
      ∧ (losingAt 4 1).job.firstLoss (Feed.items { input := twoEntries }) = 1
      ∧ state.due ≤ 1 := by
  have first : (readRecord (losingAt 4 1) (start (losingAt 4 1) twoEntries)).1
      = some (.ok (some (.entry "a" [⟨"b", [Utf8.encode "c"]⟩]))) := by
    decide +kernel
  have second : (readRecord (losingAt 4 1)
      (readRecord (losingAt 4 1) (start (losingAt 4 1) twoEntries)).2).1
      = some (.error stoppedEarly) := by
    decide +kernel
  have session := session_trans (session_of_answerWithin (Prod.ext first rfl))
    (session_of_answerWithin (Prod.ext second rfl))
  have lost : (losingAt 4 1).job.firstLoss (Feed.items { input := twoEntries }) = 1 := by
    decide +kernel
  have bounded := (pool_delivers_up_to_loss (losingAt 4 1) twoEntries session).1
  rw [lost] at bounded
  exact ⟨_, session, lost, bounded⟩

end State

end DirectoryInterchange.Reading.Pool
