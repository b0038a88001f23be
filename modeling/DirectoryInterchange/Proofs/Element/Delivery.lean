import DirectoryInterchange.Element.Cursor

/-!
Sources that deliver every byte they hold.

A steady source may cut its content into pieces of any size and interrupt any
read, but it never pretends to be at its end and never fails before it.  What
a loop of reads gathers from it depends on its content alone.
-/

namespace DirectoryInterchange.Element

/-- A read that gives at least one byte, or is to be tried again. -/
def Event.Steady : Event → Prop
  | .bytes chunk => chunk ≠ []
  | .interrupted => True
  | .failed _ => False

instance (event : Event) : Decidable event.Steady := by
  cases event <;> unfold Event.Steady <;> infer_instance

namespace Source

def Steady (source : Source) : Prop :=
  ∀ event ∈ source.events, event.Steady

instance (source : Source) : Decidable source.Steady :=
  inferInstanceAs (Decidable (∀ event ∈ source.events, event.Steady))

/-- What a read reports behind the last byte. -/
def ending (source : Source) : Stop :=
  match source.failure with
  | none => .ended
  | some reason => .failed reason

@[simp] theorem content_nil (failure : Option String) : (Source.mk [] failure).content = [] := rfl

@[simp] theorem content_interrupted (events : List Event) (failure : Option String) :
    (Source.mk (.interrupted :: events) failure).content = (Source.mk events failure).content :=
  rfl

@[simp] theorem content_bytes (chunk : Bytes) (events : List Event) (failure : Option String) :
    (Source.mk (.bytes chunk :: events) failure).content =
      chunk ++ (Source.mk events failure).content :=
  rfl

theorem Steady.tail {event : Event} {events : List Event} {failure : Option String}
    (steady : (Source.mk (event :: events) failure).Steady) : (Source.mk events failure).Steady :=
  fun other member => steady other (List.mem_cons_of_mem _ member)

/-- What gathering `count` bytes comes to when nothing but the content counts. -/
structure Supplies (source : Source) (count : Nat) (gathered : Gathered) : Prop where
  bytes : gathered.bytes = source.content.take count
  stop : gathered.stop = if source.content.length < count then source.ending else .enough
  rest : gathered.source.content = source.content.drop count
  failure : gathered.source.failure = source.failure
  steady : gathered.source.Steady

theorem supplies_gatherFrom (failure : Option String) (count : Nat) (events : List Event)
    (steady : (Source.mk events failure).Steady) :
    (Source.mk events failure).Supplies count (gatherFrom failure count events) := by
  fun_induction gatherFrom failure count events with
  | case1 events => exact ⟨by simp, by simp, by simp, rfl, steady⟩
  | case2 count failure_eq =>
      subst failure_eq
      exact ⟨by simp, by simp [ending], by simp, rfl, steady⟩
  | case3 count reason failure_eq =>
      subst failure_eq
      exact ⟨by simp, by simp [ending], by simp, rfl, steady⟩
  | case4 count events inductionHypothesis =>
      have rest := inductionHypothesis steady.tail
      exact ⟨rest.bytes, rest.stop, rest.rest, rest.failure, rest.steady⟩
  | case5 count reason events => exact (steady _ List.mem_cons_self).elim
  | case6 count events => exact (steady _ List.mem_cons_self rfl).elim
  | case7 count byte chunk events exhausted rest inductionHypothesis =>
      have short : chunk.length ≤ count := by simpa using exhausted
      have supplied := inductionHypothesis steady.tail
      refine ⟨?_, ?_, ?_, supplied.failure, supplied.steady⟩
      · rw [supplied.bytes, content_bytes, List.take_append]
        simp [List.take_of_length_le, short]
      · rw [supplied.stop, content_bytes]
        simp only [List.length_append, List.length_cons, ending]
        congr 1
        simp only [eq_iff_iff]
        omega
      · rw [supplied.rest, content_bytes, List.drop_append]
        simp [List.drop_eq_nil_of_le, short]
  | case8 count byte chunk events remaining =>
      have long : count < chunk.length := by
        apply Nat.lt_of_not_le
        intro short
        exact remaining (List.drop_eq_nil_of_le short)
      refine ⟨?_, ?_, ?_, rfl, ?_⟩
      · rw [content_bytes, List.take_append_of_le_length (by simp; omega)]
        simp
      · simp only [content_bytes, List.length_append, List.length_cons]
        rw [if_neg (by omega)]
      · rw [content_bytes, content_bytes, List.drop_append_of_le_length (by simp; omega)]
        simp
      · intro event member
        rcases List.mem_cons.mp member with rfl | member
        · exact remaining
        · exact steady.tail event member

theorem supplies_gather {source : Source} (steady : source.Steady) (count : Nat) :
    source.Supplies count (source.gather count) :=
  supplies_gatherFrom source.failure count source.events steady

end Source

end DirectoryInterchange.Element
