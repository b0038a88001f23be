import DirectoryInterchange.Reading.Pool.Job

/-!
Where the numbered items of a pool are.

Every number between the one that is due and the next one to be given out
belongs to one item that is held, or to one outcome that is settled, or its
item was lost with a worker that stopped over it.
-/

namespace DirectoryInterchange.Reading.Pool

variable {Rule : Type} [Matching Rule]

/-- The numbers of what is held and of what is settled. -/
def numbers (held : List (Nat × Item)) (settled : List (Nat × Outcome)) : List Nat :=
  held.map (·.1) ++ settled.map (·.1)

/-- Whether a worker stops over the item of that number. -/
def Job.Loses (job : Job Rule) (items : List Item) (number : Nat) : Prop :=
  ∃ item, items[number]? = some item ∧ job.outcome? item = none

/-- The numbers from `due` up to `next` are accounted for. -/
structure Whereabouts
    (job : Job Rule) (items : List Item) (due next : Nat)
    (held : List (Nat × Item)) (settled : List (Nat × Outcome)) : Prop where
  distinct : (numbers held settled).Nodup
  between : ∀ number ∈ numbers held settled, due ≤ number ∧ number < next
  held_item : ∀ number item, (number, item) ∈ held → items[number]? = some item
  settled_item : ∀ number outcome, (number, outcome) ∈ settled →
    ∃ item, items[number]? = some item ∧ job.outcome? item = some outcome
  accounted : ∀ number, due ≤ number → number < next →
    number ∈ numbers held settled ∨ job.Loses items number

namespace Whereabouts

variable {job : Job Rule} {items : List Item} {due next number : Nat} {item : Item}
  {outcome : Outcome} {held held' : List (Nat × Item)} {settled settled' : List (Nat × Outcome)}

theorem start (due : Nat) : Whereabouts job items due due [] [] where
  distinct := List.nodup_nil
  between := fun _ member => by cases member
  held_item := fun _ _ member => by cases member
  settled_item := fun _ _ member => by cases member
  accounted := fun number low high => by omega

/-- Only what there is counts, not its order. -/
theorem of_perm
    (located : Whereabouts job items due next held settled)
    (heldPerm : held'.Perm held) (settledPerm : settled'.Perm settled) :
    Whereabouts job items due next held' settled' := by
  have perm : (numbers held' settled').Perm (numbers held settled) :=
    (heldPerm.map _).append (settledPerm.map _)
  refine ⟨perm.nodup_iff.mpr located.distinct, ?_, ?_, ?_, ?_⟩
  · exact fun number member => located.between number (perm.mem_iff.mp member)
  · exact fun number item member => located.held_item number item (heldPerm.mem_iff.mp member)
  · exact fun number outcome member =>
      located.settled_item number outcome (settledPerm.mem_iff.mp member)
  · intro number low high
    rcases located.accounted number low high with member | lost
    · exact Or.inl (perm.mem_iff.mpr member)
    · exact Or.inr lost

/-- The next number is given to the item in that place. -/
theorem submit
    (located : Whereabouts job items due next held settled)
    (low : due ≤ next) (found : items[next]? = some item) :
    Whereabouts job items due (next + 1) ((next, item) :: held) settled := by
  refine ⟨?_, ?_, ?_, located.settled_item, ?_⟩
  · refine List.nodup_cons.mpr ⟨?_, located.distinct⟩
    intro member
    have := (located.between next member).2
    omega
  · intro number member
    rcases List.mem_cons.mp member with rfl | member
    · exact ⟨low, Nat.lt_succ_self _⟩
    · have := located.between number member
      omega
  · intro number other member
    rcases List.mem_cons.mp member with same | member
    · cases same
      exact found
    · exact located.held_item number other member
  · intro number above below
    by_cases last : number = next
    · subst last
      exact Or.inl List.mem_cons_self
    · rcases located.accounted number above (by omega) with member | lost
      · exact Or.inl (List.mem_cons_of_mem _ member)
      · exact Or.inr lost

theorem numbers_finish
    (held : List (Nat × Item)) (settled : List (Nat × Outcome)) (number : Nat) (item : Item)
    (outcome : Outcome) :
    (numbers held ((number, outcome) :: settled)).Perm
      (numbers ((number, item) :: held) settled) :=
  List.perm_middle

/-- An outcome takes the place of its item. -/
theorem finish
    (located : Whereabouts job items due next ((number, item) :: held) settled)
    (found : job.outcome? item = some outcome) :
    Whereabouts job items due next held ((number, outcome) :: settled) := by
  have perm := numbers_finish held settled number item outcome
  refine ⟨perm.nodup_iff.mpr located.distinct, ?_, ?_, ?_, ?_⟩
  · exact fun other member => located.between other (perm.mem_iff.mp member)
  · exact fun other element member =>
      located.held_item other element (List.mem_cons_of_mem _ member)
  · intro other result member
    rcases List.mem_cons.mp member with same | member
    · cases same
      exact ⟨item, located.held_item number item List.mem_cons_self, found⟩
    · exact located.settled_item other result member
  · intro other low high
    rcases located.accounted other low high with member | lost
    · exact Or.inl (perm.mem_iff.mpr member)
    · exact Or.inr lost

/-- An item is lost with the worker that stops over it. -/
theorem lose
    (located : Whereabouts job items due next ((number, item) :: held) settled)
    (lost : job.outcome? item = none) :
    Whereabouts job items due next held settled := by
  have mine := located.held_item number item List.mem_cons_self
  refine ⟨(List.nodup_cons.mp located.distinct).2, ?_, ?_, located.settled_item, ?_⟩
  · exact fun other member => located.between other (List.mem_cons_of_mem _ member)
  · exact fun other element member =>
      located.held_item other element (List.mem_cons_of_mem _ member)
  · intro other low high
    rcases located.accounted other low high with member | gone
    · rcases List.mem_cons.mp member with same | member
      · exact Or.inr (same ▸ ⟨item, mine, lost⟩)
      · exact Or.inl member
    · exact Or.inr gone

/-- The outcome that is due is delivered. -/
theorem deliver
    (located : Whereabouts job items due next held ((due, outcome) :: settled)) :
    Whereabouts job items (due + 1) next held settled := by
  have perm : (numbers held ((due, outcome) :: settled)).Perm (due :: numbers held settled) :=
    List.perm_middle
  obtain ⟨absent, distinct⟩ := List.nodup_cons.mp (perm.nodup_iff.mp located.distinct)
  refine ⟨distinct, ?_, located.held_item, ?_, ?_⟩
  · intro number member
    have bounds := located.between number (perm.mem_iff.mpr (List.mem_cons_of_mem _ member))
    have other : number ≠ due := fun same => absent (same ▸ member)
    omega
  · exact fun number result member =>
      located.settled_item number result (List.mem_cons_of_mem _ member)
  · intro number low high
    rcases located.accounted number (by omega) high with member | lost
    · rcases List.mem_cons.mp (perm.mem_iff.mp member) with same | member
      · omega
      · exact Or.inl member
    · exact Or.inr lost

end Whereabouts

end DirectoryInterchange.Reading.Pool
