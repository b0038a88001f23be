import Mathlib.Data.List.Induction
import DirectoryInterchange.Proofs.Element.Nesting

/-!
Elements from bytes that arrive little by little.

A call that has an answer keeps it when more bytes come, and one that has none
leaves the buffer alone.  So calls after every chunk deliver what calls on the
whole would have delivered, wherever the bytes were cut.
-/

namespace DirectoryInterchange.Element

/-! ### Bytes behind a length field -/

namespace Length

theorem decode_append {bytes rest : Bytes} {length : Nat}
    (decoded : decode bytes = .ok (length, rest)) (more : Bytes) :
    decode (bytes ++ more) = .ok (length, rest ++ more) := by
  obtain ⟨field, rfl⟩ := suffix_of_decode decoded
  rw [List.append_assoc]
  exact decode_field decoded (rest ++ more)

/-- What no further byte can mend, no further byte changes. -/
theorem decode_append_of_hopeless {bytes : Bytes} {error : Error} (hopeless : error.Hopeless)
    (decoded : decode bytes = .error error) (more : Bytes) :
    decode (bytes ++ more) = .error error := by
  cases bytes with
  | nil =>
      cases decoded
      cases hopeless
  | cons first following =>
      simp only [decode, List.cons_append] at decoded ⊢
      split at decoded
      · cases decoded
      next long =>
      rw [if_neg long]
      split at decoded
      · next indefinite => rw [if_pos indefinite, decoded]
      next definite =>
      rw [if_neg definite]
      split at decoded
      · next many => rw [if_pos many, decoded]
      next few =>
      rw [if_neg few]
      split at decoded
      · cases decoded
        cases hopeless
      next complete =>
      have octets : (following ++ more).take (first.toNat - 0x80)
          = following.take (first.toNat - 0x80) :=
        List.take_append_of_le_length (Nat.le_of_not_lt complete)
      rw [if_neg (by rw [List.length_append]; omega), octets]
      split at decoded
      · next large => rw [if_pos large, decoded]
      · cases decoded

end Length

namespace Frame

variable {limit : Nat} {buffer rest : Bytes} {element : Element}

/-! ### One call -/

/-- An element is cut off just when it stands in front and is within the limit. -/
theorem take?_eq_some_iff :
    take? limit buffer = .ok (some (element, rest)) ↔
      decodeFirst buffer = .ok (element, rest) ∧ element.value.length ≤ limit := by
  cases buffer with
  | nil => simp [take?, decodeFirst]
  | cons tag following =>
      cases decoded : Length.decode following with
      | error error =>
          rw [take?_cons, decodeFirst_of_error decoded, decoded]
          cases error <;> simp
      | ok field =>
          obtain ⟨length, content⟩ := field
          rw [take?_of_ok decoded, decodeFirst_of_ok decoded]
          by_cases short : content.length < length
          · rw [if_pos short, if_pos short]
            by_cases large : limit < length <;> simp [large]
          · rw [if_neg short, if_neg short]
            by_cases large : limit < length
            · simp only [if_pos large, reduceCtorEq, Except.ok.injEq, Prod.mk.injEq, false_iff]
              rintro ⟨⟨rfl, -⟩, fits⟩
              rw [List.length_take] at fits
              omega
            · simp only [if_neg large, Except.ok.injEq, Option.some.injEq, Prod.mk.injEq]
              constructor
              · rintro ⟨rfl, rfl⟩
                exact ⟨⟨rfl, rfl⟩, by rw [List.length_take]; omega⟩
              · exact fun taken => taken.1

theorem take?_append_of_some
    (taken : take? limit buffer = .ok (some (element, rest))) (more : Bytes) :
    take? limit (buffer ++ more) = .ok (some (element, rest ++ more)) := by
  obtain ⟨read, fits⟩ := take?_eq_some_iff.mp taken
  obtain ⟨front, rfl⟩ := suffix_of_decodeFirst read
  rw [List.append_assoc]
  exact take?_eq_some_iff.mpr ⟨decodeFirst_front read (rest ++ more), fits⟩

/-- An error comes of the tag and the length field alone. -/
theorem take?_append_of_error {error : Error} (failed : take? limit buffer = .error error)
    (more : Bytes) : take? limit (buffer ++ more) = .error error := by
  cases buffer with
  | nil => cases failed
  | cons tag following =>
      rw [List.cons_append]
      cases decoded : Length.decode following with
      | error problem =>
          rw [take?_cons, decoded] at failed
          rcases Length.hopeless_or_truncated decoded with hopeless | ⟨needed, available, rfl⟩
          · have still := Length.decode_append_of_hopeless hopeless decoded more
            rw [take?_cons, still, ← failed]
          · cases failed
      | ok field =>
          obtain ⟨length, content⟩ := field
          rw [take?_of_ok decoded] at failed
          rw [take?_of_ok (Length.decode_append decoded more)]
          split at failed
          · next large => rw [if_pos large, failed]
          · split at failed <;> cases failed

theorem take?_encode (fits : element.Fits) (small : element.value.length ≤ limit) (rest : Bytes) :
    take? limit (element.encode ++ rest) = .ok (some (element, rest)) :=
  take?_eq_some_iff.mpr ⟨decodeFirst_encode fits rest, small⟩

theorem next_of_some (taken : take? limit buffer = .ok (some (element, rest))) :
    next limit buffer = (.ok (some element), rest) := by
  rw [next, taken]

theorem next_of_none (taken : take? limit buffer = .ok none) :
    next limit buffer = (.ok none, buffer) := by
  rw [next, taken]

theorem next_of_error {error : Error} (failed : take? limit buffer = .error error) :
    next limit buffer = (.error error, buffer) := by
  rw [next, failed]

theorem take?_of_next (called : next limit buffer = (.ok (some element), rest)) :
    take? limit buffer = .ok (some (element, rest)) := by
  rw [next] at called
  split at called
  · cases called
  · cases called
  · next taken =>
      cases called
      exact taken

/-- A call answers with the element that stands in front, when it is whole and
within the limit. -/
theorem next_eq_some_iff :
    next limit buffer = (.ok (some element), rest) ↔
      decodeFirst buffer = .ok (element, rest) ∧ element.value.length ≤ limit := by
  rw [← take?_eq_some_iff]
  exact ⟨take?_of_next, next_of_some⟩

/-- A call that cuts nothing off leaves the buffer as it is. -/
theorem next_kept (idle : ∀ element, (next limit buffer).1 ≠ .ok (some element)) :
    (next limit buffer).2 = buffer := by
  rw [next] at idle ⊢
  split
  · rfl
  · rfl
  · next element rest taken =>
      rw [taken] at idle
      exact absurd rfl (idle element)

/-- A call that cuts an element off removes its bytes and no others. -/
theorem next_removed (called : next limit buffer = (.ok (some element), rest)) :
    ∃ front, buffer = front ++ rest ∧ Element.decode front = .ok element := by
  obtain ⟨read, -⟩ := next_eq_some_iff.mp called
  obtain ⟨front, rfl⟩ := suffix_of_decodeFirst read
  have alone := decodeFirst_front read []
  rw [List.append_nil] at alone
  refine ⟨front, rfl, ?_⟩
  rw [Element.decode, alone]
  rfl

theorem length_lt_of_next (called : next limit buffer = (.ok (some element), rest)) :
    rest.length < buffer.length := by
  have := length_lt_of_decodeFirst (next_eq_some_iff.mp called).1
  omega

/-- A call that has an answer has the same one when more bytes are there. -/
theorem next_append (settled : (next limit buffer).1 ≠ .ok none) (more : Bytes) :
    next limit (buffer ++ more) = ((next limit buffer).1, (next limit buffer).2 ++ more) := by
  cases taken : take? limit buffer with
  | error error => rw [next_of_error taken, next_of_error (take?_append_of_error taken more)]
  | ok found =>
      rcases found with _ | ⟨element, rest⟩
      · rw [next, taken] at settled
        exact absurd rfl settled
      · rw [next_of_some taken, next_of_some (take?_append_of_some taken more)]

/-! ### Call after call -/

/-- What calls have come to. -/
structure Delivery where
  elements : List Element := []
  /-- The first error. -/
  error : Option Error := none
  /-- The bytes that are left. -/
  rest : Bytes := []
  deriving DecidableEq, Repr

/-- Calls on a buffer until one cuts nothing off. -/
def drain (limit : Nat) (buffer : Bytes) : Delivery :=
  match _ : next limit buffer with
  | (.ok (some element), rest) =>
      let later := drain limit rest
      { later with elements := element :: later.elements }
  | (.ok none, rest) => { rest }
  | (.error error, rest) => { error := some error, rest }
  termination_by buffer.length
  decreasing_by exact length_lt_of_next ‹_›

/-- Appends a chunk to what is left and calls again, also behind an error. -/
def Delivery.receive (limit : Nat) (delivery : Delivery) (chunk : Bytes) : Delivery :=
  let later := drain limit (delivery.rest ++ chunk)
  { elements := delivery.elements ++ later.elements
    error := delivery.error <|> later.error
    rest := later.rest }

/-- What is delivered as chunks arrive in an empty buffer. -/
def feed (limit : Nat) (chunks : List Bytes) : Delivery :=
  chunks.foldl (Delivery.receive limit) {}

theorem drain_of_some (called : next limit buffer = (.ok (some element), rest)) :
    drain limit buffer =
      { drain limit rest with elements := element :: (drain limit rest).elements } := by
  rw [drain]
  split
  · next same => cases called.symm.trans same; rfl
  · next same => cases called.symm.trans same
  · next same => cases called.symm.trans same

theorem drain_of_none (called : next limit buffer = (.ok none, rest)) :
    drain limit buffer = { rest } := by
  rw [drain]
  split
  · next same => cases called.symm.trans same
  · next same => cases called.symm.trans same; rfl
  · next same => cases called.symm.trans same

theorem drain_of_error {error : Error} (called : next limit buffer = (.error error, rest)) :
    drain limit buffer = { error := some error, rest } := by
  rw [drain]
  split
  · next same => cases called.symm.trans same
  · next same => cases called.symm.trans same
  · next same => cases called.symm.trans same; rfl

theorem drain_nil : drain limit [] = {} :=
  drain_of_none rfl

/-- Calls on some bytes, and again when more have come, deliver what calls on
all of them deliver. -/
theorem drain_append (limit : Nat) (buffer more : Bytes) :
    drain limit (buffer ++ more) = (drain limit buffer).receive limit more := by
  fun_induction drain limit buffer with
  | case1 buffer element rest called later inductionHypothesis =>
      have longer : next limit (buffer ++ more) = (.ok (some element), rest ++ more) := by
        rw [next_append (by rw [called]; simp), called]
      rw [drain_of_some longer, inductionHypothesis]
      rfl
  | case2 buffer rest called =>
      obtain rfl : rest = buffer := by
        have kept := @next_kept limit buffer (by rw [called]; simp)
        rwa [called] at kept
      rfl
  | case3 buffer error rest called =>
      obtain rfl : rest = buffer := by
        have kept := @next_kept limit buffer (by rw [called]; simp)
        rwa [called] at kept
      have longer : next limit (rest ++ more) = (.error error, rest ++ more) := by
        rw [next_append (by rw [called]; simp), called]
      rw [Delivery.receive, drain_of_error longer]
      rfl

theorem feed_eq_drain (limit : Nat) (chunks : List Bytes) :
    feed limit chunks = drain limit chunks.flatten := by
  induction chunks using List.reverseRecOn with
  | nil => exact drain_nil.symm
  | append_singleton chunks chunk inductionHypothesis =>
      calc feed limit (chunks ++ [chunk])
          = (feed limit chunks).receive limit chunk := by rw [feed, List.foldl_append]; rfl
        _ = drain limit (chunks.flatten ++ chunk) := by rw [inductionHypothesis, drain_append]
        _ = drain limit (chunks ++ [chunk]).flatten := by rw [List.flatten_concat]

/-- Nothing is left of elements within the limit. -/
theorem drain_encodeAll {elements : List Element} (fit : ∀ element ∈ elements, element.Fits)
    (small : ∀ element ∈ elements, element.value.length ≤ limit) :
    drain limit (encodeAll elements) = { elements } := by
  induction elements with
  | nil => exact drain_nil
  | cons element elements inductionHypothesis =>
      have others := inductionHypothesis
        (fun other member => fit other (List.mem_cons_of_mem _ member))
        (fun other member => small other (List.mem_cons_of_mem _ member))
      have taken := take?_encode (fit element List.mem_cons_self)
        (small element List.mem_cons_self) (encodeAll elements)
      rw [encodeAll_cons, drain_of_some (next_of_some taken), others]

/-! ### Wherever the bytes are cut -/

/-- What a call may do to a buffer and to the calls that follow. -/
structure Careful (limit : Nat) (buffer : Bytes) : Prop where
  found : ∀ element rest, next limit buffer = (.ok (some element), rest) ↔
    decodeFirst buffer = .ok (element, rest) ∧ element.value.length ≤ limit
  kept : (∀ element, (next limit buffer).1 ≠ .ok (some element)) →
    (next limit buffer).2 = buffer
  removed : ∀ element, (next limit buffer).1 = .ok (some element) →
    ∃ front, buffer = front ++ (next limit buffer).2 ∧ Element.decode front = .ok element
  settled : (next limit buffer).1 ≠ .ok none → ∀ more,
    next limit (buffer ++ more) = ((next limit buffer).1, (next limit buffer).2 ++ more)

/-- The same bytes in other chunks deliver the same elements, the same first
error and the same rest, since every call is careful with its buffer. -/
theorem delivers_same (limit : Nat) {chunks others : List Bytes}
    (same : chunks.flatten = others.flatten) :
    feed limit chunks = feed limit others ∧ ∀ buffer, Careful limit buffer := by
  constructor
  · rw [feed_eq_drain, feed_eq_drain, same]
  · intro buffer
    refine ⟨fun _ _ => next_eq_some_iff, next_kept, ?_, next_append⟩
    intro element answered
    exact next_removed (Prod.ext answered rfl)

/-- An element with a length field of three bytes and a tag with a field that
says nothing definite, cut inside of both fields. -/
def inFields : List Bytes :=
  [[0x04], [0x82, 0x00], [0x01, 0x61, 0x30], [0x80, 0x05]]

/-- The same bytes, cut behind the fields or not at all. -/
def behindFields : List Bytes :=
  [[0x04, 0x82, 0x00, 0x01], [], [0x61, 0x30, 0x80], [0x05]]

theorem delivers_same_inFields :
    inFields.flatten = behindFields.flatten ∧ feed 16 inFields = feed 16 behindFields
      ∧ feed 16 inFields = ⟨[⟨0x04, [0x61]⟩], some .indefiniteLength, [0x30, 0x80, 0x05]⟩
      ∧ Careful 16 [0x30, 0x80] := by
  have same : inFields.flatten = behindFields.flatten := rfl
  obtain ⟨alike, careful⟩ := delivers_same 16 same
  exact ⟨same, alike, by decide +kernel, careful [0x30, 0x80]⟩

end Frame

end DirectoryInterchange.Element
