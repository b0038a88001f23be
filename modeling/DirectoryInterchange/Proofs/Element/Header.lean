import DirectoryInterchange.Proofs.Element.Meeting
import DirectoryInterchange.Proofs.Element.Passing

/-!
The header of an element, and what follows it.

Reading an element, passing over it and entering it begin alike: with the tag,
the containers that are left in front of it, the length and the limits for the
length.  Whatever the source does, a header that was read is counted, and its
length fits into the innermost container.
-/

namespace DirectoryInterchange.Element.Cursor

/-- Reads the tag and the length in front of a value, or none at the end of the input. -/
def header : Action (Option (UInt8 × Nat)) := do
  let some tag ← readTag | return none
  let length ← readLength
  return some (tag, length)

theorem Composed.header {admits : ∀ {Value : Type}, Action Value → Prop}
    (composed : Composed admits) : admits Cursor.header := by
  refine composed.bind composed.readTag fun tag => ?_
  cases tag with
  | none => exact composed.pure none
  | some tag => exact composed.bind composed.readLength fun length => composed.pure _

/-! ### What follows a header -/

theorem readElement?_eq :
    readElement? = header >>= fun found =>
      match found with
      | none => pure none
      | some (tag, length) => takeBytes length >>= fun value => pure (some ⟨tag, value⟩) := by
  simp only [readElement?, header, bind_assoc]
  congr 1
  funext tag
  cases tag with
  | none => rfl
  | some tag => simp only [bind_assoc, pure_bind]

theorem skipElement?_eq :
    skipElement? = header >>= fun found =>
      match found with
      | none => pure none
      | some (tag, length) => skipBytes length >>= fun _ => pure (some tag) := by
  simp only [skipElement?, header, bind_assoc]
  congr 1
  funext tag
  cases tag with
  | none => rfl
  | some tag => simp only [bind_assoc, pure_bind]

section

variable {cursor next : Cursor}

/-- Behind its header a container is entered, if it is not too deep. -/
theorem enter_of_header {tag : UInt8} {length : Nat}
    (found : header cursor = .ok (some (tag, length)) next) :
    enter cursor =
      if next.maximumDepth ≤ next.ends.length then
        .error (.nestingTooDeep next.maximumDepth) next
      else
        let span : Span := ⟨tag, length, next.position + length, next.ends.length⟩
        .ok span (next.inside span) := by
  obtain ⟨tag?, middle, tagged, rest⟩ := of_bind found
  cases tag? with
  | none => cases rest
  | some tag =>
      obtain ⟨length, last, sized, rest⟩ := of_bind rest
      cases rest
      rw [enter, bind_ok tagged]
      simp only
      rw [bind_ok sized]
      simp only [run_get_bind]
      split <;> rfl

theorem enter_of_header_none (found : header cursor = .ok none next) :
    enter cursor = .error (.truncated 1 0) next := by
  obtain ⟨tag?, middle, tagged, rest⟩ := of_bind found
  cases tag? with
  | none =>
      cases rest
      exact bind_ok tagged
  | some tag =>
      obtain ⟨length, last, sized, rest⟩ := of_bind rest
      cases rest

theorem enter_of_header_error {error : Error} (failed : header cursor = .error error next) :
    enter cursor = .error error next := by
  cases tagged : readTag cursor with
  | error error stopped =>
      cases (bind_error tagged).symm.trans failed
      exact bind_error tagged
  | ok tag? middle =>
      rw [header, bind_ok tagged] at failed
      rw [enter, bind_ok tagged]
      cases tag? with
      | none => cases failed
      | some tag =>
          cases sized : readLength middle with
          | error error stopped =>
              cases (bind_error sized).symm.trans failed
              exact bind_error sized
          | ok length last => cases (bind_ok sized).symm.trans failed

/-- A container that was entered stands behind its header and was not too deep. -/
theorem header_of_enter {span : Span} (entered : enter cursor = .ok span next) :
    ∃ middle, header cursor = .ok (some (span.tag, span.length)) middle ∧
      middle.ends.length < middle.maximumDepth ∧ span.stop = middle.position + span.length ∧
      span.depth = middle.ends.length ∧ next = middle.inside span := by
  cases found : header cursor with
  | error error stopped => cases (enter_of_header_error found).symm.trans entered
  | ok announced middle =>
      cases announced with
      | none => cases (enter_of_header_none found).symm.trans entered
      | some announced =>
          obtain ⟨tag, length⟩ := announced
          rw [enter_of_header found] at entered
          split at entered
          · cases entered
          · next shallow =>
              cases entered
              exact ⟨middle, rfl, Nat.lt_of_not_le shallow, rfl, rfl, rfl⟩

end

/-! ### What a header has consumed -/

section

variable {cursor next : Cursor}

theorem past_past (cursor : Cursor) (count more : Nat) (source other : Source) :
    (cursor.past count source).past more other = cursor.past (count + more) other := by
  simp [past, Nat.add_assoc]

theorem past_of_takeByte? {byte : UInt8} (taken : takeByte? cursor = .ok (some byte) next) :
    ∃ count source, 0 < count ∧ next = cursor.past count source := by
  rw [takeByte?_eq] at taken
  have pos (first : (cursor.source.gather 1).bytes.head? = some byte) :
      0 < (cursor.source.gather 1).bytes.length := by
    cases bytes : (cursor.source.gather 1).bytes with
    | nil => rw [bytes] at first; cases first
    | cons byte rest => exact Nat.succ_pos _
  cases stop : (cursor.source.gather 1).stop with
  | failed reason => rw [stop] at taken; cases taken
  | enough | ended =>
      rw [stop] at taken
      simp only [EStateM.Result.ok.injEq] at taken
      exact ⟨_, _, pos taken.1, taken.2.symm⟩

theorem past_of_takeBytes {count : Nat} {bytes : Bytes}
    (taken : takeBytes count cursor = .ok bytes next) :
    ∃ count source, next = cursor.past count source := by
  rw [takeBytes_eq] at taken
  cases stop : (cursor.source.gather count).stop with
  | enough =>
      rw [stop] at taken
      cases taken
      exact ⟨_, _, rfl⟩
  | ended => rw [stop] at taken; cases taken
  | failed reason => rw [stop] at taken; cases taken

theorem past_of_readLengthField {length : Nat}
    (read : readLengthField cursor = .ok length next) :
    ∃ count source, 0 < count ∧ next = cursor.past count source := by
  obtain ⟨first, middle, taken, rest⟩ := of_bind read
  cases first with
  | none => cases rest
  | some first =>
      obtain ⟨count, source, pos, rfl⟩ := past_of_takeByte? taken
      dsimp only at rest
      split at rest
      · cases rest
        exact ⟨count, source, pos, rfl⟩
      split at rest
      · cases rest
      split at rest
      · cases rest
      obtain ⟨octets, last, takenRest, rest⟩ := of_bind rest
      obtain ⟨more, other, rfl⟩ := past_of_takeBytes takenRest
      split at rest
      · cases rest
      · cases rest
        exact ⟨_, _, Nat.add_pos_left pos more, past_past ..⟩

theorem of_requireSize {length : Nat} {done : Unit}
    (sized : requireSize length cursor = .ok done next) : next = cursor := by
  simp only [requireSize, run_get_bind] at sized
  split at sized <;> cases sized
  rfl

/-- The room that the innermost container leaves for a length that was read. -/
theorem room_of_requireRoom {length : Nat} {done : Unit}
    (roomy : requireRoom length cursor = .ok done next) :
    ∀ stop ∈ cursor.ends.head?, length ≤ stop - cursor.position := by
  intro stop innermost
  simp only [requireRoom, run_get_bind] at roomy
  cases ends : cursor.ends with
  | nil => rw [ends] at innermost; cases innermost
  | cons first outer =>
      rw [ends] at innermost
      cases innermost
      simp only [ends] at roomy
      split at roomy
      · cases roomy
      · omega

theorem past_of_readLength {length : Nat} (read : readLength cursor = .ok length next) :
    (∃ count source, 0 < count ∧ next = cursor.past count source) ∧
      ∀ stop ∈ next.ends.head?, length ≤ stop - next.position := by
  obtain ⟨declared, middle, field, rest⟩ := of_bind read
  obtain ⟨_, checked, sized, rest⟩ := of_bind rest
  obtain ⟨_, last, roomy, rest⟩ := of_bind rest
  cases rest
  obtain rfl := of_requireSize sized
  obtain rfl := of_requireRoom roomy
  exact ⟨past_of_readLengthField field, room_of_requireRoom roomy⟩

theorem past_of_readTag {tag : UInt8} (read : readTag cursor = .ok (some tag) next) :
    ∃ count source, next = cursor.leaving.past count source := by
  simp only [readTag, run_modify_bind, run_get_bind] at read
  cases peeked : cursor.peeked with
  | some looked =>
      simp only [peeked] at read
      cases read
      exact ⟨0, cursor.source, rfl⟩
  | none =>
      simp only [peeked] at read
      obtain ⟨count, source, -, rfl⟩ := past_of_takeByte? read
      refine ⟨count, source, ?_⟩
      simp only [leaving, past]

/-- What is known of a header that was read: it was counted, the containers that
ended in front of it were left, and its length fits into the innermost of those
around it. -/
structure Headed (cursor : Cursor) (length : Nat) (next : Cursor) : Prop where
  past : ∃ count source, 0 < count ∧ next = cursor.leaving.past count source
  room : ∀ stop ∈ next.ends.head?, length ≤ stop - next.position

theorem headed_of_header {tag : UInt8} {length : Nat}
    (found : header cursor = .ok (some (tag, length)) next) : Headed cursor length next := by
  obtain ⟨tag?, middle, tagged, rest⟩ := of_bind found
  cases tag? with
  | none => cases rest
  | some tag =>
      obtain ⟨length, last, sized, rest⟩ := of_bind rest
      cases rest
      obtain ⟨count, source, rfl⟩ := past_of_readTag tagged
      obtain ⟨⟨more, other, pos, rfl⟩, room⟩ := past_of_readLength sized
      exact ⟨⟨_, _, Nat.add_pos_right count pos, past_past ..⟩, room⟩

namespace Headed

variable {length : Nat} (headed : Headed cursor length next)

include headed

theorem ends : next.ends = cursor.leaving.ends := by
  obtain ⟨count, source, -, rfl⟩ := headed.past
  rfl

theorem peeked : next.peeked = none := by
  obtain ⟨count, source, -, rfl⟩ := headed.past
  rfl

theorem maximumDepth : next.maximumDepth = cursor.maximumDepth := by
  obtain ⟨count, source, -, rfl⟩ := headed.past
  rfl

theorem position_lt : cursor.position < next.position := by
  obtain ⟨count, source, pos, rfl⟩ := headed.past
  simp only [position, Cursor.past, leaving, Option.isSome_none, Bool.false_eq_true, if_false]
  omega

theorem passes : Passes cursor next := by
  have left := (Passes.refl cursor).leave
  exact left.change headed.ends (Nat.le_of_lt headed.position_lt)

end Headed

end

end DirectoryInterchange.Element.Cursor
