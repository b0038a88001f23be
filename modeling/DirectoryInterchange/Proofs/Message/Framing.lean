import Mathlib.Data.List.Induction
import Mathlib.Data.Option.Basic
import DirectoryInterchange.Message.Codec
import DirectoryInterchange.Proofs.Element.Framing
import DirectoryInterchange.Proofs.Message.RoundTrip

/-!
Messages from bytes that arrive little by little.

A codec answers for each element on its own.  An element that is no message is
used up like any other, so the answers behind it are those of a stream without
it; and what the codec has written before leaves no trace.
-/

namespace DirectoryInterchange.Message.Codec

open Element (encodeAll)

variable {codec : Codec} {buffer rest : Bytes} {element : Element} {message : Message}

/-! ### One call -/

/-- Each message is written on its own, whatever was written before it. -/
theorem encode_eq (codec : Codec) (message : Message) (destination : Bytes) :
    codec.encode message destination =
      ({ codec with scratch := codec.scratch.clear.append message.encode },
        destination ++ message.encode) := by
  rw [encode, writes_message, encode_eq_form]
  rfl

theorem decode_of_some
    (taken : Element.Frame.take? codec.limit buffer = .ok (some (element, rest))) :
    codec.decode buffer = ((Message.decode element).map some, rest) := by
  rw [decode, Frame.take?, taken]

theorem decode_of_none (taken : Element.Frame.take? codec.limit buffer = .ok none) :
    codec.decode buffer = (.ok none, buffer) := by
  rw [decode, Frame.take?, taken]

theorem decode_of_error {error : Element.Error}
    (failed : Element.Frame.take? codec.limit buffer = .error error) :
    codec.decode buffer = (.error (.element error), buffer) := by
  rw [decode, Frame.take?, failed]

theorem decode_eq_some_iff :
    codec.decode buffer = (.ok (some message), rest) ↔
      ∃ element, Element.Frame.take? codec.limit buffer = .ok (some (element, rest))
        ∧ Message.decode element = .ok message := by
  rcases taken : Element.Frame.take? codec.limit buffer with error | _ | ⟨element, behind⟩
  · rw [decode_of_error taken]
    simp
  · rw [decode_of_none taken]
    simp
  · rw [decode_of_some taken]
    rcases read : Message.decode element with fault | found
    · simp [Except.map, read]
    · simp [Except.map, read, and_comm]

/-! ### Call after call -/

/-- The answer of a call, unless it takes more bytes to have one. -/
def answer? : Except Fault (Option Message) → Option (Except Fault Message)
  | .ok none => none
  | .ok (some message) => some (.ok message)
  | .error fault => some (.error fault)

theorem answer?_map_some (decoded : Except Fault Message) :
    answer? (decoded.map some) = some decoded := by
  cases decoded <;> rfl

/-- What calls have come to. -/
structure Delivery where
  answers : List (Except Fault Message) := []
  /-- The bytes that are left. -/
  rest : Bytes := []
  deriving DecidableEq, Repr

/-- Calls on a buffer, also behind an error, until one has no answer or uses up
nothing. -/
def drain (codec : Codec) (buffer : Bytes) : Delivery :=
  match answer? (codec.decode buffer).1 with
  | none => { rest := (codec.decode buffer).2 }
  | some answer =>
      if _ : (codec.decode buffer).2.length < buffer.length then
        let later := drain codec (codec.decode buffer).2
        { later with answers := answer :: later.answers }
      else { answers := [answer], rest := (codec.decode buffer).2 }
  termination_by buffer.length

/-- The answers for elements: each on its own, and an error in front of which
no further element can be cut off. -/
def Delivery.ofElements (delivery : Element.Frame.Delivery) : Delivery where
  answers := delivery.elements.map Message.decode
    ++ (delivery.error.map fun error => .error (.element error)).toList
  rest := delivery.rest

/-- Cutting off elements decides how often a codec is called. -/
theorem drain_eq (codec : Codec) (buffer : Bytes) :
    codec.drain buffer = .ofElements (Element.Frame.drain codec.limit buffer) := by
  rcases taken : Element.Frame.take? codec.limit buffer with error | _ | ⟨element, rest⟩
  · rw [drain, decode_of_error taken,
      Element.Frame.drain_of_error (Element.Frame.next_of_error taken)]
    simp only [answer?, Nat.lt_irrefl, dif_neg, not_false_eq_true]
    rfl
  · rw [drain, decode_of_none taken,
      Element.Frame.drain_of_none (Element.Frame.next_of_none taken)]
    rfl
  · have called := Element.Frame.next_of_some taken
    have shorter := Element.Frame.length_lt_of_next called
    have later := drain_eq codec rest
    rw [drain, decode_of_some taken, answer?_map_some, Element.Frame.drain_of_some called]
    simp only [dif_pos shorter, later]
    rfl
  termination_by buffer.length

/-! ### What was sent -/

/-- A message whose content is within the limit is taken in again as it was sent. -/
theorem decode_encode (nonnegative : 0 ≤ message.id) (fits : message.form.Fits)
    (small : message.form.value.length ≤ codec.limit) (rest : Bytes) :
    codec.decode (message.encode ++ rest) = (.ok (some message), rest) := by
  rw [encode_eq_form, decode_of_some (Element.Frame.take?_encode fits small rest),
    decode_form nonnegative fits]
  rfl

theorem send_eq (codec : Codec) (messages : List Message) :
    codec.send messages = encodeAll (messages.map form) := by
  induction messages generalizing codec with
  | nil => rfl
  | cons message messages inductionHypothesis =>
      simp only [send, encode_eq, inductionHypothesis, List.nil_append, encode_eq_form,
        List.map_cons, Element.encodeAll_cons]

/-- What one codec sent is taken in by another, message for message. -/
theorem drain_send (codec sender : Codec) {messages : List Message}
    (nonnegative : ∀ message ∈ messages, 0 ≤ message.id)
    (fit : ∀ message ∈ messages, message.form.Fits)
    (small : ∀ message ∈ messages, message.form.value.length ≤ codec.limit) :
    codec.drain (sender.send messages) = ⟨messages.map .ok, []⟩ := by
  have read : (messages.map form).map Message.decode = messages.map .ok := by
    rw [List.map_map]
    exact List.map_congr_left fun message member =>
      decode_form (nonnegative message member) (fit message member)
  rw [send_eq, drain_eq, Element.Frame.drain_encodeAll (List.forall_mem_map.mpr fit)
    (List.forall_mem_map.mpr small), Delivery.ofElements, read]
  simp

/-! ### A codec among other work -/

/-- One thing done with a codec. -/
inductive Event where
  /-- Bytes arrive behind those that are left, and calls follow. -/
  | receive (chunk : Bytes)
  /-- A call on another buffer. -/
  | decode (other : Bytes)
  /-- A message is appended to what is at its destination. -/
  | encode (message : Message) (destination : Bytes)
  deriving DecidableEq, Repr

/-- A codec with the bytes it has left, and everything it has answered. -/
structure Session where
  codec : Codec
  received : Delivery := {}
  /-- The outcomes of the calls on other buffers. -/
  decoded : List (Except Fault (Option Message) × Bytes) := []
  /-- What came to be at each destination. -/
  encoded : List Bytes := []
  deriving DecidableEq, Repr

namespace Session

def step (session : Session) : Event → Session
  | .receive chunk =>
      let calls := session.codec.drain (session.received.rest ++ chunk)
      { session with
        received := { calls with answers := session.received.answers ++ calls.answers } }
  | .decode other => { session with decoded := session.decoded ++ [session.codec.decode other] }
  | .encode message destination =>
      let (codec, output) := session.codec.encode message destination
      { session with codec, encoded := session.encoded ++ [output] }

def run (codec : Codec) (events : List Event) : Session :=
  events.foldl step { codec }

end Session

namespace Event

/-- The bytes that arrive. -/
def chunk : Event → Bytes
  | .receive chunk => chunk
  | _ => []

/-- The outcome of a call on another buffer by a codec that does nothing else. -/
def decoded (limit : Nat) : Event → List (Except Fault (Option Message) × Bytes)
  | .decode other => [({ limit } : Codec).decode other]
  | _ => []

/-- What is at a destination once a message is appended. -/
def encoded : Event → List Bytes
  | .encode message destination => [destination ++ message.encode]
  | _ => []

end Event

/-- What a session has come to, told from its events alone. -/
structure Session.Follows (limit : Nat) (events : List Event) (session : Session) : Prop where
  kept : session.codec.limit = limit
  /-- As long as an element may begin with the bytes that are left. -/
  received : (Element.Frame.drain limit (events.flatMap Event.chunk)).error = none →
    session.received = .ofElements (Element.Frame.drain limit (events.flatMap Event.chunk))
  decoded : session.decoded = events.flatMap (Event.decoded limit)
  encoded : session.encoded = events.flatMap Event.encoded

theorem Delivery.ofElements_receive {delivery : Element.Frame.Delivery}
    (sound : delivery.error = none) (limit : Nat) (chunk : Bytes) :
    ofElements (delivery.receive limit chunk) =
      { ofElements (Element.Frame.drain limit (delivery.rest ++ chunk)) with
        answers := (ofElements delivery).answers
          ++ (ofElements (Element.Frame.drain limit (delivery.rest ++ chunk))).answers } := by
  simp [ofElements, Element.Frame.Delivery.receive, sound]

namespace Session

variable {limit : Nat} {events : List Event} {session : Session}

theorem step_limit (session : Session) (event : Event) :
    (session.step event).codec.limit = session.codec.limit := by
  cases event <;> rfl

theorem step_decoded (session : Session) (event : Event) :
    (session.step event).decoded =
      session.decoded ++ event.decoded session.codec.limit := by
  cases event with
  | decode other => rfl
  | receive chunk => exact (List.append_nil _).symm
  | encode message destination => exact (List.append_nil _).symm

theorem step_encoded (session : Session) (event : Event) :
    (session.step event).encoded = session.encoded ++ event.encoded := by
  cases event with
  | encode message destination =>
      rw [step, encode_eq]
      rfl
  | receive chunk => exact (List.append_nil _).symm
  | decode other => exact (List.append_nil _).symm

theorem follows_step (follows : session.Follows limit events) (event : Event) :
    (session.step event).Follows limit (events ++ [event]) := by
  obtain ⟨rfl, received, decoded, encoded⟩ := follows
  refine ⟨step_limit session event, ?_, ?_, ?_⟩
  · cases event with
    | receive chunk =>
        -- Without an error at the end there was none before, so no answer is repeated.
        intro sound
        rw [List.flatMap_append, List.flatMap_singleton, Event.chunk,
          Element.Frame.drain_append] at sound ⊢
        obtain ⟨earlier, -⟩ := (Option.orElse_eq_none _ _).mp sound
        rw [Delivery.ofElements_receive earlier, step, drain_eq, received earlier]
        rfl
    | decode other => simpa [Event.chunk, step] using received
    | encode message destination => simpa [Event.chunk, step] using received
  · rw [step_decoded, decoded, List.flatMap_append, List.flatMap_singleton]
  · rw [step_encoded, encoded, List.flatMap_append, List.flatMap_singleton]

theorem follows_run (codec : Codec) (events : List Event) :
    (run codec events).Follows codec.limit events := by
  induction events using List.reverseRecOn with
  | nil => exact ⟨rfl, fun _ => by rw [List.flatMap_nil, Element.Frame.drain_nil]; rfl, rfl, rfl⟩
  | append_singleton events event inductionHypothesis =>
      rw [run, List.foldl_append]
      exact follows_step inductionHypothesis event

end Session

/-- Every element gets its own answer and nothing is left, wherever the bytes
are cut and whatever else the codec does.  What it writes meanwhile is what it
would write alone, behind the bytes that are there. -/
theorem answers_each (codec : Codec) {events : List Event} {elements : List Element}
    (arrived : events.flatMap Event.chunk = encodeAll elements)
    (fit : ∀ element ∈ elements, element.Fits)
    (small : ∀ element ∈ elements, element.value.length ≤ codec.limit) :
    (Session.run codec events).received = ⟨elements.map Message.decode, []⟩
      ∧ (Session.run codec events).decoded = events.flatMap (Event.decoded codec.limit)
      ∧ (Session.run codec events).encoded = events.flatMap Event.encoded := by
  obtain ⟨-, received, decoded, encoded⟩ := Session.follows_run codec events
  rw [arrived, Element.Frame.drain_encodeAll fit small] at received
  refine ⟨?_, decoded, encoded⟩
  rw [received rfl, Delivery.ofElements]
  simp

/-- The deletion of an entry, a message without an operation, an element that
is none, and another deletion. -/
def mixed : List Element :=
  [⟨0x30, [0x02, 0x01, 0x01, 0x4a, 0x01, 0x61]⟩, ⟨0x30, [0x02, 0x01, 0x02]⟩, ⟨0x05, []⟩,
    ⟨0x30, [0x02, 0x01, 0x03, 0x4a, 0x00]⟩]

/-- The bytes of `mixed`, cut inside of three elements, with other work between. -/
def entangled : List Event :=
  [.receive [0x30], .encode ⟨8, "b", .request .delete, []⟩ [0xff],
    .receive [0x06, 0x02, 0x01, 0x01, 0x4a], .decode [0x30, 0x80],
    .receive [0x01, 0x61, 0x30, 0x03, 0x02, 0x01], .receive [],
    .encode ⟨9, "", .request .delete, []⟩ [],
    .receive [0x02, 0x05, 0x00, 0x30, 0x05, 0x02, 0x01, 0x03, 0x4a, 0x00]]

theorem answers_each_entangled :
    entangled.flatMap Event.chunk = encodeAll mixed
      ∧ (Session.run { limit := 6, scratch := ⟨[0x00], [3]⟩ } entangled).received =
        ⟨mixed.map Message.decode, []⟩
      ∧ mixed.map (fun element => (Message.decode element).toOption.map (·.id)) =
        [some 1, none, none, some 3]
      ∧ (Session.run { limit := 6, scratch := ⟨[0x00], [3]⟩ } entangled).encoded =
        [0xff :: Message.encode ⟨8, "b", .request .delete, []⟩,
          Message.encode ⟨9, "", .request .delete, []⟩] := by
  have arrived : entangled.flatMap Event.chunk = encodeAll mixed := by decide +kernel
  have fit : ∀ element ∈ mixed, element.Fits := by unfold Element.Fits; decide
  have small : ∀ element ∈ mixed, element.value.length ≤ 6 := by decide
  obtain ⟨received, -, encoded⟩ :=
    answers_each { limit := 6, scratch := ⟨[0x00], [3]⟩ } arrived fit small
  exact ⟨arrived, received, by decide +kernel, encoded⟩

end DirectoryInterchange.Message.Codec
