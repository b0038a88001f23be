import DirectoryInterchange.Block.Line
import DirectoryInterchange.Proofs.Steps

/-!
Loops of parsing: what they keep, and when two of them go the same way.
-/

namespace DirectoryInterchange.Block

/-- What every step of a loop keeps, the loop keeps. -/
theorem foldlM_invariant
    {Item State : Type} {step : State → Item → Parsed State} (holds : State → List Item → Prop)
    (keeps : ∀ state item next done, step state item = .ok next → holds state done →
      holds next (done ++ [item])) :
    ∀ (items done : List Item) (state final : State), holds state done →
      items.foldlM step state = .ok final → holds final (done ++ items) := by
  intro items
  induction items with
  | nil =>
      intro done state final start run
      cases run
      rwa [List.append_nil]
  | cons item items inductionHypothesis =>
      intro done state final start run
      rw [List.foldlM_cons] at run
      obtain ⟨next, first, rest⟩ := bind_eq_ok.mp run
      have final_holds := inductionHypothesis (done ++ [item]) next final
        (keeps state item next done first start) rest
      rwa [List.append_assoc, List.singleton_append] at final_holds

/-- Two runs go the same way when each step of the one is that of the other. -/
theorem foldlM_of_steps {State Item : Type} {change : State → State}
    {first second : State → Item → Parsed State}
    (step : ∀ state item, second (change state) item = (first state item).map change)
    (items : List Item) (state : State) :
    items.foldlM second (change state) = (items.foldlM first state).map change := by
  induction items generalizing state with
  | nil => rfl
  | cons item rest inductionHypothesis =>
      rw [List.foldlM_cons, List.foldlM_cons, step, bind_after_map, map_after_bind]
      simp only [inductionHypothesis]

end DirectoryInterchange.Block
