import Mathlib.Data.List.Perm.Subperm
import DirectoryInterchange.Proofs.Reading.Pool.Starvation

/-!
How much a pool holds at a time.

The window is the bound: a number that was given out and is not delivered has a
place in it, and whatever the queues, the workers and the consumer keep has a
number of its own.
-/

namespace DirectoryInterchange.Reading.Pool

variable {Rule : Type} [Matching Rule]

/-- No more is held and settled than numbers were given out. -/
theorem Whereabouts.length_le
    {job : Job Rule} {items : List Item} {due next : Nat} {held : List (Nat × Item)}
    {settled : List (Nat × Outcome)} (located : Whereabouts job items due next held settled) :
    held.length + settled.length ≤ next - due := by
  have inside : numbers held settled ⊆ List.range' due (next - due) := by
    intro number member
    obtain ⟨low, high⟩ := located.between number member
    rw [List.mem_range'_1]
    omega
  have shorter := (located.distinct.subperm inside).length_le
  rw [numbers, List.length_append, List.length_map, List.length_map, List.length_range'] at shorter
  exact shorter

namespace State

/-- How many items workers are busy with. -/
def busy (state : State) : Nat :=
  (state.workers.flatMap Worker.held).length

theorem length_held (state : State) : state.held.length = state.queue.length + state.busy :=
  List.length_append

theorem length_settled (state : State) :
    state.settled.length = state.results.length + state.early.length :=
  List.length_append

theorem busy_pos {state : State} {number : Nat} {item : Item}
    (member : .busy number item ∈ state.workers) : 0 < state.busy :=
  List.length_pos_of_mem (List.mem_flatMap.mpr ⟨_, member, List.mem_singleton_self _⟩)

/-- Whatever the feeder, the workers and the consumer do, every place of the
window is free, or belongs to a number that is not delivered, or is kept for
the item in the feeder's hands; queues, workers and consumer together hold no
more than the window has places, and a worker always finds room for the outcome
of its item. -/
theorem pool_within_window
    (setup : Setup Rule) (input : Input) {answers : List Reader.Answer} {state : State}
    (run : Run setup (start setup input) answers state) :
    state.due ≤ state.nextNumber
    ∧ state.nextNumber - state.due ≤ 2 * setup.capacity
    ∧ state.queue.length + state.busy + state.results.length + state.early.length
      ≤ 2 * setup.capacity
    ∧ state.places + (state.nextNumber - state.due) + state.feeder.reserved = 2 * setup.capacity
    ∧ ∀ number item, .busy number item ∈ state.workers → state.results.length < setup.window := by
  have begins := invariant_start setup input
  have holds := invariant_of_run begins run
  have due_le := holds.due_le
  have window := holds.window
  have fewer := holds.located.length_le
  rw [length_held, length_settled] at fewer
  simp only [Setup.window] at window ⊢
  refine ⟨due_le, by omega, by omega, by omega, ?_⟩
  intro number item member
  have one := busy_pos member
  omega

theorem pool_within_window_losingFirst :
    ∃ answers state, Run (losingAt 1 2) (start (losingAt 1 2) twoEntries) answers state
      ∧ state.AtRest (losingAt 1 2)
      ∧ state.places + (state.nextNumber - state.due) + state.feeder.reserved = 2 := by
  obtain ⟨answers, state, run, rests⟩ :=
    exists_rest (losingAt 1 2) (start (losingAt 1 2) twoEntries)
  exact ⟨answers, state, run, rests, (pool_within_window (losingAt 1 2) twoEntries run).2.2.2.1⟩

end State

end DirectoryInterchange.Reading.Pool
