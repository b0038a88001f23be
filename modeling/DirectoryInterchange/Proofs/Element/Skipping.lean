import DirectoryInterchange.Proofs.Element.Header

/-!
Passing over an element in place of reading it.

Both go through the same header and take the same value, in pieces of their
own.  They part only where a read fails inside of the value: passing over it
has taken bytes then that it does not count.
-/

namespace DirectoryInterchange.Element

/-- The bytes that passing over some takes and does not count. -/
def Source.uncounted (source : Source) (count : Nat) : Nat :=
  match (source.gather count).stop with
  | .failed _ => (source.gather count).bytes.length
  | _ => 0

theorem Source.uncounted_of_unfailing {source : Source} (unfailing : source.Unfailing)
    (count : Nat) : source.uncounted count = 0 := by
  have accounts := accounts_gather source count
  unfold uncounted
  split
  · next reason failed => exact absurd failed ((accounts.unfailing unfailing).2 reason)
  · rfl

namespace Cursor

/-- The bytes that passing over the next element takes and does not count:
those of its value in front of a read that fails. -/
def uncounted (cursor : Cursor) : Nat :=
  match header cursor with
  | .ok (some (_, length)) next => next.source.uncounted length
  | _ => 0

variable {cursor next : Cursor}

theorem uncounted_of_header {tag : UInt8} {length : Nat}
    (found : header cursor = .ok (some (tag, length)) next) :
    cursor.uncounted = next.source.uncounted length := by
  simp only [uncounted, found]

/-! ### Values -/

/-- Where every byte is counted, passing over a value does what taking it does. -/
theorem skipBytes_of_counted {count : Nat} (counted : cursor.source.uncounted count = 0) :
    skipBytes count cursor = (takeBytes count >>= fun _ => pure ()) cursor := by
  have taken := takeBytes_eq count cursor
  rw [skipBytes_eq]
  cases stop : (cursor.source.gather count).stop with
  | enough =>
      rw [stop] at taken
      rw [bind_ok taken]
      rfl
  | ended =>
      rw [stop] at taken
      rw [bind_error taken]
  | failed reason =>
      rw [stop] at taken
      simp only [Source.uncounted, stop] at counted
      rw [bind_error taken, behind, counted]

/-- What was taken is accounted for, be it counted or not. -/
theorem Counted.skipBytes {total : Nat} (counts : Counted total cursor) (read : cursor.peeked = none)
    (count : Nat) :
    ∃ rest, rest + cursor.source.uncounted count = total ∧
      Counted rest (leftBy (skipBytes count cursor)) := by
  have behind := counts.behind count
  rw [skipBytes_eq, Source.uncounted]
  cases stop : (cursor.source.gather count).stop with
  | enough => exact ⟨total, rfl, behind⟩
  | ended => exact ⟨total, rfl, behind⟩
  | failed reason =>
      have counted := behind.counted
      refine ⟨cursor.consumed + (cursor.source.gather count).source.content.length, ?_, rfl, ?_⟩
      · simp only [Cursor.behind, past] at counted ⊢
        omega
      · intro looked
        rw [leftBy, past, read] at looked
        cases looked

/-! ### Elements -/

theorem skipElement?_of_counted (counted : cursor.uncounted = 0) :
    skipElement? cursor =
      (do return (← readElement?).map Element.tag : Action (Option UInt8)) cursor := by
  rw [skipElement?_eq, readElement?_eq, bind_assoc]
  cases found : header cursor with
  | error error next => rw [bind_error found, bind_error found]
  | ok parts next =>
      rw [bind_ok found, bind_ok found]
      cases parts with
      | none => rfl
      | some parts =>
          obtain ⟨tag, length⟩ := parts
          rw [uncounted_of_header found] at counted
          have skipped := skipBytes_of_counted counted
          simp only [bind_assoc, pure_bind]
          cases taken : takeBytes length next with
          | error error last =>
              rw [bind_error taken] at skipped
              rw [bind_error taken, bind_error skipped]
          | ok value last =>
              rw [bind_ok taken] at skipped
              rw [bind_ok taken, bind_ok skipped]
              rfl

theorem robust_unfailing : Robust fun cursor => cursor.source.Unfailing where
  behind {cursor} count unfailing :=
    ((Source.accounts_gather cursor.source count).unfailing unfailing).1
  left unfailing := unfailing
  read unfailing := unfailing
  looked {cursor} unfailing _ :=
    ((Source.accounts_gather cursor.source 1).unfailing unfailing).1
  uncounted {cursor count _} unfailing _ :=
    ((Source.accounts_gather cursor.source count).unfailing unfailing).1

theorem uncounted_of_unfailing (unfailing : cursor.source.Unfailing) : cursor.uncounted = 0 := by
  unfold uncounted
  split
  · next tag length next found =>
      have behind := robust_unfailing.composed.header.ok unfailing found
      exact Source.uncounted_of_unfailing behind length
  · rfl

/-- Where no read fails, passing over the next element does just what reading
it does, but for the value: it answers with the same tag or with none, fails
with the same error, and leaves the same cursor. -/
theorem skips_as_reads (unfailing : cursor.source.Unfailing) :
    skipElement? cursor =
      (do return (← readElement?).map Element.tag : Action (Option UInt8)) cursor :=
  skipElement?_of_counted (uncounted_of_unfailing unfailing)

/-- Two containers with a text of three bytes in them, of which the last is missing. -/
def cutOff : Source :=
  ⟨[.interrupted, .bytes [0x30, 0x12, 0x30], .bytes [0x07, 0x04, 0x82], .interrupted,
    .bytes [0x00, 0x03, 0x61], .bytes [0x62], .bytes []], none⟩

/-- A cursor inside of both that has looked at the tag of the text. -/
def looking : Session :=
  (Session.start cutOff).after [.enter, .enter, .peek]

theorem skips_as_reads_looking :
    looking.cursor.source.Unfailing
      ∧ skipElement? looking.cursor =
        (do return (← readElement?).map Element.tag : Action (Option UInt8)) looking.cursor
      ∧ looking.cursor.ends = [11, 20] ∧ looking.cursor.peeked = some 0x04
      ∧ looking.observe [.skip] = [⟨.failed (.truncated 3 2), 10, []⟩] :=
  ⟨by decide, skips_as_reads (by decide), by decide, by decide, by decide +kernel⟩

end Cursor

end DirectoryInterchange.Element
