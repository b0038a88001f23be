import DirectoryInterchange.Proofs.Reading.Pool.Refinement

/-!
A pool comes to an end.

No step can be taken for ever, and as long as the consumer has not been told
how the input ended, some step can be taken.  So whatever is preferred, a run
that cannot go on has delivered everything, the end or the failure last.
-/

namespace DirectoryInterchange

/-! ### How an input ends -/

namespace Grouping

theorem mayContinue_of_push
    {grouping after : Grouping} {line : String} {error : Record.Error}
    (pushed : grouping.push line = (.error error, after)) : error.mayContinue = false := by
  rw [Grouping.push] at pushed
  split at pushed
  · cases pushed
  · split at pushed
    · cases pushed
    · split at pushed
      · cases pushed
        rfl
      · cases pushed
  · cases pushed
  · simp only at pushed
    split at pushed
    · cases pushed
    · split at pushed <;> cases pushed

theorem mayContinue_of_pushBytes
    {grouping after : Grouping} {line : Bytes} {error : Record.Error}
    (pushed : grouping.pushBytes line = (.error error, after)) : error.mayContinue = false := by
  rw [Grouping.pushBytes] at pushed
  split at pushed
  · exact mayContinue_of_push pushed
  · split at pushed
    · cases pushed
    · exact mayContinue_of_push pushed

end Grouping

namespace Reading

open Pool (Item)

variable {Rule : Type} [Matching Rule]

theorem Input.mayContinue_of_nextSegment
    {input rest : Input} {fault : Fault} (next : input.nextSegment = (.error fault, rest)) :
    fault.mayContinue = false := by
  unfold nextSegment at next
  split at next
  · cases next
  · unfold atEnd at next
    split at next <;> cases next
    rfl

/-- Behind a failure to go on nothing is read. -/
theorem Feed.mayContinue_of_failed
    {feed : Feed} {fault : Fault} (failed : .failed fault ∈ feed.items) :
    fault.mayContinue = false := by
  fun_induction Feed.items feed with
  | case1 feed other input next =>
      cases List.mem_singleton.mp failed
      exact Input.mayContinue_of_nextSegment next
  | case2 feed input next =>
      rcases List.mem_append.mp failed with member | member
      · obtain ⟨block, -, same⟩ := Option.map_eq_some_iff.mp (Option.mem_toList.mp member)
        cases same
      · cases List.mem_singleton.mp member
  | case3 feed line input next error grouping pushed =>
      cases List.mem_singleton.mp failed
      exact Grouping.mayContinue_of_pushBytes pushed
  | case4 feed line input next block grouping pushed inductionHypothesis =>
      rcases List.mem_cons.mp failed with same | member
      · cases same
      · exact inductionHypothesis member
  | case5 feed line input next grouping pushed inductionHypothesis =>
      exact inductionHypothesis failed

theorem Closed.exists_last {items : List Item} (closed : Closed items) :
    ∃ blocks last, items = blocks ++ [last] ∧ last.isLast = true := by
  induction closed with
  | @last item ends => exact ⟨[], item, rfl, ends⟩
  | @block items block others inductionHypothesis =>
      obtain ⟨blocks, last, rfl, ends⟩ := inductionHypothesis
      exact ⟨.block block :: blocks, last, rfl, ends⟩

/-- An answer behind which there is nothing: the end, or a failure to go on. -/
def Reader.Answer.IsFinal : Reader.Answer → Prop
  | .ok record => record = none
  | .error fault => fault.mayContinue = false

namespace Pool

/-- The last of the answers to all items says how the input ended. -/
theorem Job.final_answer (job : Job Rule) (input : Input) :
    ∃ answer, ((Feed.items { input }).filterMap job.answer?).getLast? = some answer
      ∧ answer.IsFinal := by
  obtain ⟨blocks, last, whole, ends⟩ := (Feed.closed_items { input }).exists_last
  cases last with
  | block block => cases ends
  | ended =>
      refine ⟨.ok none, ?_, rfl⟩
      rw [whole, List.filterMap_append]
      exact List.getLast?_concat
  | failed fault =>
      have stopped : fault.mayContinue = false := by
        refine @Feed.mayContinue_of_failed { input } fault ?_
        rw [whole]
        exact List.mem_append_right _ List.mem_cons_self
      refine ⟨.error fault, ?_, stopped⟩
      rw [whole, List.filterMap_append]
      exact List.getLast?_concat

namespace State

/-! ### Runs -/

/-- Whether nothing more can happen. -/
def AtRest (setup : Setup Rule) (state : State) : Prop :=
  ∀ answer next, ¬Step setup state answer next

theorem invariant_of_run
    {setup : Setup Rule} {items : List Item} {state final : State} {answers : List Reader.Answer}
    (holds : Invariant setup items state) (run : Run setup state answers final) :
    Invariant setup items final := by
  induction run with
  | refl state => exact holds
  | step step _ inductionHypothesis => exact inductionHypothesis (holds.step step)

/-- The answers of a run are those to the items that it delivers. -/
theorem answers_of_run
    {setup : Setup Rule} {items : List Item} {state final : State} {answers : List Reader.Answer}
    (safe : ¬setup.job.Crashes items) (holds : Invariant setup items state)
    (run : Run setup state answers final) :
    (items.take final.due).filterMap setup.job.answer?
      = (items.take state.due).filterMap setup.job.answer? ++ answers := by
  induction run with
  | refl state => exact (List.append_nil _).symm
  | step step _ inductionHypothesis =>
      rcases holds.step_answers step with answered | ⟨crashes, -, -⟩
      · rw [inductionHypothesis (holds.step step), answered, List.append_assoc]
      · exact absurd crashes safe

/-- There is no endless run. -/
theorem wellFounded_step (setup : Setup Rule) :
    WellFounded fun next state => ∃ answer, Step setup state answer next :=
  Subrelation.wf (fun ⟨_, step⟩ => work_lt_of_step step) (measure work).wf

/-- Until its consumer has been told how the input ended, a pool can act; every
action leaves less to do; and a run that cannot go on has answered everything
that a reader answers, the end or the failure to go on last. -/
theorem pool_terminates (setup : Setup Rule) (input : Input)
    (steady : ∀ record line, setup.job.adjust record line ≠ .crash) :
    (∀ answers state, Run setup (start setup input) answers state →
      (state.complete = false → ∃ answer next, Step setup state answer next)
      ∧ (∀ answer next, Step setup state answer next → next.work < state.work)
      ∧ (state.AtRest setup → state.complete
          ∧ (∃ calls, ∀ more,
              (Reader.start setup.job.context input).adjustedAnswers setup.job.adjust (calls + more)
                = answers ++ List.replicate more (.ok none))
          ∧ ∃ answer, answers.getLast? = some answer ∧ answer.IsFinal))
    ∧ WellFounded fun next state => ∃ answer, Step setup state answer next := by
  have safe := not_crashes steady (Feed.items { input })
  have begins := invariant_start setup input
  refine ⟨fun answers state run => ?_, wellFounded_step setup⟩
  have holds := invariant_of_run begins run
  refine ⟨holds.progress safe, fun _ _ => work_lt_of_step, fun rests => ?_⟩
  have complete : state.complete := by
    cases told : state.complete with
    | true => rfl
    | false =>
        obtain ⟨answer, next, step⟩ := holds.progress safe told
        exact absurd step (rests answer next)
  have answered : (Feed.items { input }).filterMap setup.job.answer? = answers := by
    have all := answers_of_run safe begins run
    rwa [due_of_complete holds safe complete, List.take_length] at all
  refine ⟨complete, ⟨(Feed.items { input }).length, fun more => ?_⟩, ?_⟩
  · rw [Job.adjustedAnswers_start, Job.said_of_ge (Nat.le_add_right _ more), answered,
      Nat.add_sub_cancel_left]
  · rw [← answered]
    exact setup.job.final_answer input

theorem pool_terminates_droppingFirst :
    (∃ answer next, Step droppingFirst (start droppingFirst twoEntries) answer next)
    ∧ ∀ answers state, Run droppingFirst (start droppingFirst twoEntries) answers state →
        state.AtRest droppingFirst → ∃ answer, answers.getLast? = some answer ∧ answer.IsFinal := by
  have ends := (pool_terminates droppingFirst twoEntries steady_droppingFirst).1
  refine ⟨(ends _ _ (.refl _)).1 rfl, fun answers state run rests => ?_⟩
  exact ((ends answers state run).2.2 rests).2.2

end State

end Pool

end Reading

end DirectoryInterchange
