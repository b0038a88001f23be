import DirectoryInterchange.Proofs.Reading.Pool.Losses
import DirectoryInterchange.Proofs.Reading.Pool.Termination

/-!
When a pool waits for ever.

The place of a lost item is never given back.  So behind the first loss the
feeder can hand out one window of items and no more.  When that does not bring
the input to its end and leaves a worker alive, the feeder waits for a place,
the worker for an item, and the consumer for the lost outcome: the worker that
is left keeps the queue of outcomes open, so nobody finds that anything is
wrong.  It does not matter who takes which item and when.
-/

namespace DirectoryInterchange.Reading.Pool

variable {Rule : Type} [Matching Rule]

/-- Whether the window closes behind the first loss before the input ends and
before every worker is lost. -/
def Setup.Starves (setup : Setup Rule) (items : List Item) : Prop :=
  setup.job.firstLoss items + setup.window < items.length
    ∧ setup.job.losses items (setup.job.firstLoss items + setup.window) < setup.workers

instance (setup : Setup Rule) (items : List Item) : Decidable (setup.Starves items) :=
  inferInstanceAs (Decidable (_ ∧ _))

namespace State

variable {setup : Setup Rule} {items : List Item} {state : State}

theorem reckoning_of_run
    {final : State} {answers : List Reader.Answer}
    (holds : Reckoning setup items state) (run : Run setup state answers final) :
    Reckoning setup items final := by
  induction run with
  | refl state => exact holds
  | step step _ inductionHypothesis => exact inductionHypothesis (holds.step step)

/-- Every run can go on until nothing more can happen. -/
theorem exists_rest (setup : Setup Rule) (state : State) :
    ∃ answers final, Run setup state answers final ∧ final.AtRest setup := by
  induction state using (wellFounded_step setup).induction with
  | h state inductionHypothesis =>
      by_cases rests : state.AtRest setup
      · exact ⟨[], state, .refl state, rests⟩
      · simp only [AtRest, not_forall, not_not] at rests
        obtain ⟨answer, middle, step⟩ := rests
        obtain ⟨answers, final, run, rests⟩ := inductionHypothesis middle ⟨answer, step⟩
        exact ⟨_, final, .step step run, rests⟩

namespace Reckoning

/-- A pool that is starved has handed out one window behind the first loss. -/
theorem starves_of_starved
    (holds : Reckoning setup items state) (starved : state.Starved) :
    setup.Starves items := by
  obtain ⟨item, holding⟩ := starved.holding
  have due : setup.job.firstLoss items = state.due :=
    Nat.le_antisymm (Job.firstLoss_le_of_loses (holds.loses_of_starved starved)) holds.intact
  have window := holds.window
  have full := starved.full
  simp only [Feeder.reserved, holding] at window
  have handed_out : setup.job.firstLoss items + setup.window = state.nextNumber := by omega
  have taken : state.taken = state.nextNumber := by
    rw [State.taken, starved.drained]
    rfl
  rw [Setup.Starves, handed_out]
  constructor
  · have supply := holds.pending_of_stage holding Stage.noConfusion
    rw [Feeder.pending, holding] at supply
    by_contra beyond
    rw [List.drop_eq_nil_of_le (Nat.le_of_not_lt beyond)] at supply
    cases supply
  · rw [← taken, ← holds.fallen_of_stage holding Stage.noConfusion, ← holds.size]
    apply Nat.lt_of_le_of_ne List.countP_le_length
    intro all
    have fallen := List.countP_eq_length.mp all .idle starved.idle
    cases fallen

/-- With too few losses the consumer is never told that no outcome comes. -/
theorem incomplete_of_starves
    (holds : Reckoning setup items state) (starves : setup.Starves items) :
    state.complete = false := by
  obtain ⟨inside, survived⟩ := starves
  have intact := holds.intact
  have window := holds.window
  rw [Bool.eq_false_iff]
  intro complete
  rcases holds.finished complete with due | ⟨-, deserted⟩
  · omega
  · have going : state.feeder.stage ≠ .stopped := by
      intro stopped
      have supply := holds.pending_of_stage stopped Stage.noConfusion
      rw [Feeder.pending, stopped] at supply
      have all_sent := List.drop_eq_nil_iff.mp supply.symm
      omega
    have fallen := holds.fallen_of_stage rfl going
    rw [holds.countP_of_deserted deserted] at fallen
    have some_left := holds.taken_add_length
    have few := @Job.losses_mono Rule _ setup.job items state.taken
      (setup.job.firstLoss items + setup.window) (by omega)
    omega

/-- At rest everything in front of the first loss has been delivered. -/
theorem due_of_rest
    (holds : Reckoning setup items state) (rests : state.AtRest setup) :
    state.due = setup.job.firstLoss items := by
  apply Nat.le_antisymm holds.intact
  cases complete : state.complete with
  | true =>
      rcases holds.finished complete with due | ⟨lost, -⟩
      · rw [due]
        exact setup.job.firstLoss_le_length items
      · exact Job.firstLoss_le_of_loses lost
  | false =>
      rcases holds.exists_move_or_starved complete with ⟨answer, next, move⟩ | starved
      · exact absurd (step_of_move move) (rests answer next)
      · exact Job.firstLoss_le_of_loses (holds.loses_of_starved starved)

end Reckoning

/-- A pool whose workers may stop over items never gets stuck, just when the
window behind the first loss reaches the end of the input or takes all workers
with it.  Otherwise no run ever tells the consumer how it ends, whoever acts
first. -/
theorem never_stuck_iff (setup : Setup Rule) (input : Input) :
    ((∀ answers state, Run setup (start setup input) answers state →
        state.complete = false → ∃ answer next, Step setup state answer next)
      ↔ ¬setup.Starves (Feed.items { input }))
    ∧ (setup.Starves (Feed.items { input }) →
      ∀ answers state, Run setup (start setup input) answers state →
        state.complete = false) := by
  have begins := reckoning_start setup input
  have incomplete (starves : setup.Starves (Feed.items { input })) :
      ∀ answers state, Run setup (start setup input) answers state →
        state.complete = false :=
    fun answers state run => (reckoning_of_run begins run).incomplete_of_starves starves
  refine ⟨⟨?_, ?_⟩, incomplete⟩
  · intro never starves
    obtain ⟨answers, final, run, rests⟩ := exists_rest setup (start setup input)
    obtain ⟨answer, next, step⟩ := never answers final run (incomplete starves answers final run)
    exact rests answer next step
  · intro plenty answers state run going
    have holds := reckoning_of_run begins run
    rcases holds.exists_move_or_starved going with ⟨answer, next, move⟩ | starved
    · exact ⟨answer, next, step_of_move move⟩
    · exact absurd (holds.starves_of_starved starved) plenty

/-- A pool of which a worker stops over the record on that line. -/
def losingAt (line threads : Nat) : Setup :=
  .ofRequest
    { context := { options := {}, files := fun _ => none }
      adjust := fun record firstLine => if firstLine = line then .crash else .keep record }
    1 threads

theorem stuck_losingFirst :
    ∃ answers state, Run (losingAt 1 2) (start (losingAt 1 2) twoEntries) answers state
      ∧ state.complete = false ∧ state.AtRest (losingAt 1 2) := by
  have starves : (losingAt 1 2).Starves (Feed.items { input := twoEntries }) := by decide +kernel
  obtain ⟨answers, final, run, rests⟩ :=
    exists_rest (losingAt 1 2) (start (losingAt 1 2) twoEntries)
  have holds := reckoning_of_run (reckoning_start (losingAt 1 2) twoEntries) run
  exact ⟨answers, final, run, holds.incomplete_of_starves starves, rests⟩

end State

end DirectoryInterchange.Reading.Pool
