import DirectoryInterchange.Proofs.Element.Delivery

/-!
The reads behind a number of bytes.

The loop that gathers bytes and the one that passes over them ask for pieces
of different sizes.  Both have taken the same bytes when they stop, and stop
for the same reason: what does not fit into a buffer stays on offer.
-/

namespace DirectoryInterchange.Element

/-- What was gathered, behind some bytes that had been taken before. -/
def Gathered.behind (front : Bytes) (gathered : Gathered) : Gathered :=
  { gathered with bytes := front ++ gathered.bytes }

theorem Gathered.behind_behind (first second : Bytes) (gathered : Gathered) :
    (gathered.behind second).behind first = gathered.behind (first ++ second) := by
  simp [Gathered.behind]

/-- A read that does not fail, but is perhaps to be tried again. -/
def Event.Unfailing : Event → Prop
  | .bytes _ => True
  | .interrupted => True
  | .failed _ => False

instance (event : Event) : Decidable event.Unfailing :=
  match event with
  | .bytes _ => .isTrue trivial
  | .interrupted => .isTrue trivial
  | .failed _ => .isFalse id

namespace Source

/-! ### Taking a part of what is on offer -/

theorem gatherFrom_single (failure : Option String) (count : Nat) (byte : UInt8)
    (events : List Event) :
    gatherFrom failure (count + 1) (.bytes [byte] :: events) =
      (gatherFrom failure count events).behind [byte] := by
  simp [gatherFrom, Gathered.behind]

theorem gatherFrom_cons (failure : Option String) (count : Nat) (byte : UInt8) {chunk : Bytes}
    (more : chunk ≠ []) (events : List Event) :
    gatherFrom failure (count + 1) (.bytes (byte :: chunk) :: events) =
      (gatherFrom failure count (.bytes chunk :: events)).behind [byte] := by
  obtain ⟨next, others, rfl⟩ := List.exists_cons_of_ne_nil more
  cases count with
  | zero => simp [gatherFrom, Gathered.behind]
  | succ count =>
      simp only [gatherFrom, List.drop_succ_cons, List.length_cons, Nat.add_sub_add_right]
      split <;> simp [Gathered.behind]

/-- A part of what is on offer is taken, and the rest stays on offer. -/
theorem gatherFrom_append (failure : Option String) (count : Nat) (front : Bytes) {back : Bytes}
    (more : back ≠ []) (fits : front.length ≤ count) (events : List Event) :
    gatherFrom failure count (.bytes (front ++ back) :: events) =
      (gatherFrom failure (count - front.length) (.bytes back :: events)).behind front := by
  induction front generalizing count with
  | nil => rfl
  | cons byte front inductionHypothesis =>
      obtain ⟨count, rfl⟩ := Nat.exists_eq_add_one_of_ne_zero (Nat.ne_zero_of_lt fits)
      have following : front ++ back ≠ [] := List.append_ne_nil_of_right_ne_nil front more
      have rest := inductionHypothesis count (Nat.le_of_succ_le_succ fits)
      rw [List.cons_append, gatherFrom_cons failure count byte following, rest,
        Gathered.behind_behind]
      simp

/-- All that is on offer is taken. -/
theorem gatherFrom_whole (failure : Option String) (count : Nat) {chunk : Bytes}
    (some_bytes : chunk ≠ []) (fits : chunk.length ≤ count) (events : List Event) :
    gatherFrom failure count (.bytes chunk :: events) =
      (gatherFrom failure (count - chunk.length) events).behind chunk := by
  obtain ⟨front, last, rfl⟩ : ∃ front last, chunk = front ++ [last] :=
    ⟨_, _, (List.dropLast_concat_getLast some_bytes).symm⟩
  rw [List.length_append, List.length_singleton] at fits ⊢
  obtain ⟨rest, rest_eq⟩ := Nat.exists_eq_add_one_of_ne_zero (Nat.sub_ne_zero_of_lt fits)
  rw [gatherFrom_append failure count front (List.cons_ne_nil last []) (Nat.le_of_succ_le fits),
    rest_eq, gatherFrom_single, Gathered.behind_behind, Nat.sub_add_eq, rest_eq,
    Nat.add_sub_cancel]

/-! ### Read after read -/

/-- What a read has brought, and what it has left. -/
inductive Reads (room : Nat) : Source → Answer → Source → Prop
  | finished : Reads room ⟨[], none⟩ .ended ⟨[], none⟩
  | broken (reason : String) : Reads room ⟨[], some reason⟩ (.failed reason) ⟨[], some reason⟩
  | ended (events : List Event) (failure : Option String) :
      Reads room ⟨.bytes [] :: events, failure⟩ .ended ⟨events, failure⟩
  | interrupted (events : List Event) (failure : Option String) :
      Reads room ⟨.interrupted :: events, failure⟩ .interrupted ⟨events, failure⟩
  | failed (reason : String) (events : List Event) (failure : Option String) :
      Reads room ⟨.failed reason :: events, failure⟩ (.failed reason) ⟨events, failure⟩
  | whole {chunk : Bytes} (nonempty : chunk ≠ []) (fits : chunk.length ≤ room)
      (events : List Event) (failure : Option String) :
      Reads room ⟨.bytes chunk :: events, failure⟩ (.bytes chunk) ⟨events, failure⟩
  | part {front back : Bytes} (fits : front.length ≤ room) (more : back ≠ [])
      (events : List Event) (failure : Option String) :
      Reads room ⟨.bytes (front ++ back) :: events, failure⟩ (.bytes front)
        ⟨.bytes back :: events, failure⟩

variable {source rest : Source} {room count : Nat}

theorem reads_of_read {answer : Answer} (read : source.read room = (answer, rest)) :
    Reads room source answer rest := by
  obtain ⟨events, failure⟩ := source
  cases events with
  | nil => cases failure <;> cases read <;> constructor
  | cons event events =>
      cases event with
      | interrupted => cases read; constructor
      | failed reason => cases read; constructor
      | bytes chunk =>
          cases chunk with
          | nil => cases read; constructor
          | cons byte chunk =>
              simp only [Source.read] at read
              split at read
              · next exhausted =>
                  cases read
                  exact .whole (List.cons_ne_nil byte chunk) (List.drop_eq_nil_iff.mp exhausted) _ _
              · next more =>
                  cases read
                  have part := Reads.part (List.length_take_le room (byte :: chunk)) more events failure
                  rwa [List.take_append_drop] at part

/-- What a read brings is the front of what is gathered. -/
theorem gather_of_bytes {chunk : Bytes} (fits : room ≤ count)
    (read : source.read room = (.bytes chunk, rest)) :
    source.gather count = (rest.gather (count - chunk.length)).behind chunk := by
  cases reads_of_read read with
  | whole nonempty short events failure =>
      exact gatherFrom_whole failure count nonempty (Nat.le_trans short fits) events
  | part short more events failure =>
      exact gatherFrom_append failure count chunk more (Nat.le_trans short fits) events

theorem gather_of_ended (lacking : 0 < count) (read : source.read room = (.ended, rest)) :
    source.gather count = ⟨[], .ended, rest⟩ := by
  obtain ⟨count, rfl⟩ := Nat.exists_eq_add_one_of_ne_zero (Nat.ne_zero_of_lt lacking)
  cases reads_of_read read <;> rfl

theorem gather_of_interrupted (lacking : 0 < count)
    (read : source.read room = (.interrupted, rest)) : source.gather count = rest.gather count := by
  obtain ⟨count, rfl⟩ := Nat.exists_eq_add_one_of_ne_zero (Nat.ne_zero_of_lt lacking)
  cases reads_of_read read
  rfl

theorem gather_of_failed {reason : String} (lacking : 0 < count)
    (read : source.read room = (.failed reason, rest)) :
    source.gather count = ⟨[], .failed reason, rest⟩ := by
  obtain ⟨count, rfl⟩ := Nat.exists_eq_add_one_of_ne_zero (Nat.ne_zero_of_lt lacking)
  cases reads_of_read read <;> rfl

/-- What passing over bytes tells of those that would have been gathered. -/
def told (passed : Nat) (gathered : Gathered) : Except String Nat :=
  match gathered.stop with
  | .failed reason => .error reason
  | _ => .ok (passed + gathered.bytes.length)

theorem told_behind (passed : Nat) (front : Bytes) (gathered : Gathered) :
    told passed (gathered.behind front) = told (passed + front.length) gathered := by
  simp only [told, Gathered.behind, List.length_append, Nat.add_assoc]

/-- Passing over bytes leaves the source where gathering them does. -/
theorem passFrom_eq (passed count : Nat) (source : Source) :
    source.passFrom passed count =
      (told passed (source.gather count), (source.gather count).source) := by
  fun_induction passFrom passed count source with
  | case1 passed source => simp [gather, gatherFrom, told]
  | case2 passed count source nonzero chunk rest read inductionHypothesis =>
      have gathered := gather_of_bytes (Nat.min_le_right pieceSize count) read
      rw [inductionHypothesis, gathered, told_behind]
      rfl
  | case3 passed count source nonzero rest read =>
      rw [gather_of_ended (Nat.pos_of_ne_zero nonzero) read]
      rfl
  | case4 passed count source nonzero rest read inductionHypothesis =>
      rw [inductionHypothesis, gather_of_interrupted (Nat.pos_of_ne_zero nonzero) read]
  | case5 passed count source nonzero reason rest read =>
      rw [gather_of_failed (Nat.pos_of_ne_zero nonzero) read]
      rfl

theorem pass_eq (source : Source) (count : Nat) :
    source.pass count = (told 0 (source.gather count), (source.gather count).source) :=
  passFrom_eq 0 count source

/-! ### What was gathered -/

/-- Reads may be interrupted, and may report the end of the input at any time,
but none of them fails. -/
def Unfailing (source : Source) : Prop :=
  (∀ event ∈ source.events, event.Unfailing) ∧ source.failure = none

instance (source : Source) : Decidable source.Unfailing :=
  inferInstanceAs (Decidable (_ ∧ _))

theorem Unfailing.tail {event : Event} {events : List Event} {failure : Option String}
    (unfailing : Unfailing ⟨event :: events, failure⟩) : Unfailing ⟨events, failure⟩ :=
  ⟨fun other member => unfailing.1 other (List.mem_cons_of_mem _ member), unfailing.2⟩

theorem Steady.unfailing (steady : source.Steady) (ended : source.failure = none) :
    source.Unfailing := by
  refine ⟨fun event member => ?_, ended⟩
  have gives := steady event member
  cases event with
  | bytes chunk => trivial
  | interrupted => trivial
  | failed reason => exact gives

/-- What holds of gathered bytes, whatever the source does. -/
structure Accounts (source : Source) (count : Nat) (gathered : Gathered) : Prop where
  content : gathered.bytes ++ gathered.source.content = source.content
  full : gathered.stop = .enough → gathered.bytes.length = count
  short : gathered.stop ≠ .enough → gathered.bytes.length < count
  unfailing : source.Unfailing →
    gathered.source.Unfailing ∧ ∀ reason, gathered.stop ≠ .failed reason

theorem accounts_gatherFrom (failure : Option String) (count : Nat) (events : List Event) :
    (Source.mk events failure).Accounts count (gatherFrom failure count events) := by
  fun_induction gatherFrom failure count events with
  | case1 events => exact ⟨rfl, fun _ => rfl, by simp, fun unfailing => ⟨unfailing, by simp⟩⟩
  | case2 count failure_eq =>
      exact ⟨by simp, by simp, by simp, fun _ => ⟨⟨by simp, rfl⟩, by simp⟩⟩
  | case3 count reason failure_eq =>
      subst failure_eq
      exact ⟨by simp, by simp, by simp, fun unfailing => by cases unfailing.2⟩
  | case4 count events inductionHypothesis =>
      obtain ⟨content, full, short, unfailing⟩ := inductionHypothesis
      exact ⟨content, full, short, fun before => unfailing before.tail⟩
  | case5 count reason events =>
      refine ⟨by simp [content], by simp, by simp, fun unfailing => ?_⟩
      exact absurd (unfailing.1 _ List.mem_cons_self) id
  | case6 count events =>
      exact ⟨by simp, by simp, by simp, fun unfailing => ⟨unfailing.tail, by simp⟩⟩
  | case7 count byte chunk events exhausted rest inductionHypothesis =>
      have fits : chunk.length ≤ count := by simpa using exhausted
      have accounts : Accounts _ (count - chunk.length) rest := inductionHypothesis
      clear_value rest
      refine ⟨?_, ?_, ?_, fun before => accounts.unfailing before.tail⟩
      · simp [← accounts.content]
      · intro enough
        have := accounts.full enough
        simp only [List.length_append, List.length_cons]
        omega
      · intro stopped
        have := accounts.short stopped
        simp only [List.length_append, List.length_cons]
        omega
  | case8 count byte chunk events remaining =>
      have long : count < chunk.length := by
        apply Nat.lt_of_not_le
        intro fits
        exact remaining (List.drop_eq_nil_of_le fits)
      refine ⟨?_, ?_, by simp, fun unfailing => ⟨⟨?_, unfailing.2⟩, by simp⟩⟩
      · simp only [content_bytes, List.cons_append]
        rw [← List.append_assoc, List.take_append_drop]
      · simp only [List.length_cons, List.length_take]
        omega
      · intro event member
        rcases List.mem_cons.mp member with rfl | member
        · trivial
        · exact unfailing.tail.1 event member

theorem accounts_gather (source : Source) (count : Nat) :
    source.Accounts count (source.gather count) :=
  accounts_gatherFrom source.failure count source.events

end Source

end DirectoryInterchange.Element
