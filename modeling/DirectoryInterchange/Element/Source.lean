import DirectoryInterchange.Bytes

/-!
An input that is read piece by piece.

The events say what successive reads do.  Behind the last event every read
reports the end of the input, or fails for good.  `gather` is the loop that
asks for a number of bytes and is neither discouraged by short reads nor by
interruptions.  `pass` is the loop that moves as many bytes through a small
buffer and keeps no more of them than their number.
-/

namespace DirectoryInterchange.Element

inductive Event
  /-- Some bytes are on offer; without any, this one read reports the end. -/
  | bytes (chunk : Bytes)
  | interrupted
  | failed (reason : String)
  deriving DecidableEq, Repr

structure Source where
  events : List Event
  /-- Why reads behind the events fail, when they do not report the end. -/
  failure : Option String := none
  deriving DecidableEq, Repr

/-- What one read comes to. -/
inductive Answer
  | bytes (chunk : Bytes)
  | ended
  | interrupted
  | failed (reason : String)
  deriving DecidableEq, Repr

/-- Why a loop of reads stopped. -/
inductive Stop
  | enough
  | ended
  | failed (reason : String)
  deriving DecidableEq, Repr

structure Gathered where
  bytes : Bytes
  stop : Stop
  source : Source
  deriving DecidableEq, Repr

namespace Source

/-- The bytes that are still to be taken from the source. -/
def content (source : Source) : Bytes :=
  source.events.flatMap fun
    | .bytes chunk => chunk
    | _ => []

/-- Reads until `count` bytes are there, the input ends or a read fails. -/
def gatherFrom (failure : Option String) : (count : Nat) → List Event → Gathered
  | 0, events => ⟨[], .enough, events, failure⟩
  | _ + 1, [] =>
      match failure with
      | none => ⟨[], .ended, [], none⟩
      | some reason => ⟨[], .failed reason, [], some reason⟩
  | count + 1, .interrupted :: events => gatherFrom failure (count + 1) events
  | _ + 1, .failed reason :: events => ⟨[], .failed reason, events, failure⟩
  | _ + 1, .bytes [] :: events => ⟨[], .ended, events, failure⟩
  | count + 1, .bytes (byte :: chunk) :: events =>
      match chunk.drop count with
      | [] =>
          let rest := gatherFrom failure (count - chunk.length) events
          { rest with bytes := byte :: chunk ++ rest.bytes }
      | remaining =>
          ⟨byte :: chunk.take count, .enough, .bytes remaining :: events, failure⟩

def gather (source : Source) (count : Nat) : Gathered :=
  gatherFrom source.failure count source.events

/-- One read into a buffer that has room for `room` bytes. -/
def read (source : Source) (room : Nat) : Answer × Source :=
  match source.events with
  | [] =>
      match source.failure with
      | none => (.ended, source)
      | some reason => (.failed reason, source)
  | .interrupted :: events => (.interrupted, { source with events })
  | .failed reason :: events => (.failed reason, { source with events })
  | .bytes [] :: events => (.ended, { source with events })
  | .bytes chunk :: events =>
      match chunk.drop room with
      | [] => (.bytes chunk, { source with events })
      | remaining =>
          (.bytes (chunk.take room), { source with events := .bytes remaining :: events })

theorem length_of_read_bytes {source rest : Source} {room : Nat} {chunk : Bytes}
    (some_room : 0 < room) (read : source.read room = (.bytes chunk, rest)) :
    0 < chunk.length ∧ rest.events.length ≤ source.events.length := by
  unfold Source.read at read
  split at read
  · split at read <;> cases read
  · cases read
  · cases read
  · cases read
  · next bytes events nonempty listed =>
      have pos := List.length_pos_iff.mpr nonempty
      rw [listed]
      split at read
      · cases read
        exact ⟨pos, Nat.le_succ _⟩
      · cases read
        simp only [List.length_take, List.length_cons]
        omega

theorem length_of_read_interrupted {source rest : Source} {room : Nat}
    (read : source.read room = (.interrupted, rest)) :
    rest.events.length < source.events.length := by
  unfold Source.read at read
  split at read
  · split at read <;> cases read
  · next events listed =>
      cases read
      rw [listed]
      exact Nat.lt_succ_self _
  · cases read
  · cases read
  · split at read <;> cases read

/-- The size of the buffer through which bytes are passed over. -/
def pieceSize : Nat := 8192

/-- Passes over `count` bytes when `passed` of them went by already. -/
def passFrom (passed count : Nat) (source : Source) : Except String Nat × Source :=
  if count = 0 then (.ok passed, source)
  else
    match _ : source.read (min pieceSize count) with
    | (.bytes chunk, rest) => rest.passFrom (passed + chunk.length) (count - chunk.length)
    | (.ended, rest) => (.ok passed, rest)
    | (.interrupted, rest) => rest.passFrom passed count
    | (.failed reason, rest) => (.error reason, rest)
  termination_by count + source.events.length
  decreasing_by
    · have some_room : 0 < min pieceSize count := Nat.lt_min.mpr ⟨by decide, by omega⟩
      have := length_of_read_bytes some_room ‹_›
      omega
    · have := length_of_read_interrupted ‹_›
      omega

/-- Reads piece by piece until `count` bytes came or a read reports the end, and
tells how many came.  When a read fails, nothing is told but why. -/
def pass (source : Source) (count : Nat) : Except String Nat × Source :=
  source.passFrom 0 count

end Source

end DirectoryInterchange.Element
