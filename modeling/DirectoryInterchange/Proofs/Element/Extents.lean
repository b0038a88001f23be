import DirectoryInterchange.Proofs.Element.Header

/-!
The element that stands in front of a cursor, and what reading it comes to.

Where an element lies is told by the unread bytes alone.  A cursor that has
read its header has compared the length with what the innermost open container
leaves behind the header.
-/

namespace DirectoryInterchange.Element.Cursor

/-! ### The element in front of a cursor -/

/-- Where an element lies in the input. -/
structure Extent where
  start : Nat
  header : Nat
  length : Nat
  deriving DecidableEq, Repr

/-- The offset behind the last byte of an element. -/
def Extent.stop (extent : Extent) : Nat :=
  extent.start + extent.header + extent.length

/-- An element that starts inside of a container and goes on behind its end. -/
def Extent.Crosses (extent : Extent) (span : Span) : Prop :=
  extent.start < span.stop ∧ span.stop < extent.stop

instance (extent : Extent) (span : Span) : Decidable (extent.Crosses span) :=
  inferInstanceAs (Decidable (_ ∧ _))

/-- The element that the unread bytes start with, complete or not. -/
def upcoming (cursor : Cursor) : Option Extent :=
  match cursor.unread with
  | [] => none
  | _ :: following =>
      match Length.decode following with
      | .ok (length, content) =>
          some ⟨cursor.position, 1 + (following.length - content.length), length⟩
      | .error _ => none

theorem upcoming_of_decode {cursor : Cursor} {tag : UInt8} {following content : Bytes}
    {length : Nat} (unread : cursor.unread = tag :: following)
    (decoded : Length.decode following = .ok (length, content)) :
    cursor.upcoming = some ⟨cursor.position, 1 + (following.length - content.length), length⟩ := by
  simp only [upcoming, unread, decoded]

theorem Extent.of_upcoming {cursor : Cursor} {extent : Extent}
    (upcoming : cursor.upcoming = some extent) :
    extent.start = cursor.position ∧ 0 < extent.header := by
  unfold Cursor.upcoming at upcoming
  split at upcoming
  · cases upcoming
  split at upcoming
  · cases upcoming
    exact ⟨rfl, Nat.lt_of_lt_of_le Nat.one_pos (Nat.le_add_right _ _)⟩
  · cases upcoming

theorem readLength_of_empty {cursor next : Cursor} (field : readLengthField cursor = .ok 0 next) :
    readLength cursor = .ok 0 next := by
  have sized : requireSize 0 next = .ok ⟨⟩ next := by
    simp only [requireSize, run_get_bind, Nat.not_lt_zero, if_false, run_pure]
  have roomy : requireRoom 0 next = .ok ⟨⟩ next := by
    simp only [requireRoom, run_get_bind]
    cases next.ends with
    | nil => rfl
    | cons stop outer =>
        simp only [Nat.not_lt_zero, if_false]
        rfl
  rw [readLength, bind_ok field, bind_ok sized, bind_ok roomy, run_pure]

/-- What is known of an element when its header was read: the cursor behind the
header has left the containers that ended in front of the element. -/
structure Announced (cursor : Cursor) (extent : Extent) (next : Cursor) : Prop where
  upcoming : cursor.upcoming = some extent
  position : next.position = extent.start + extent.header
  ready : next.Ready
  ends : next.ends = cursor.leaving.ends
  room : ∀ stop ∈ next.ends.head?, extent.length ≤ stop - next.position

variable {cursor middle next last : Cursor} {total : Nat}

theorem ready_leaving (counts : Exact total cursor) : cursor.leaving.Ready :=
  ⟨counts.steady, counts.ended, rfl⟩

theorem announced_of_header (counts : Exact total cursor) {tag : UInt8} {length : Nat}
    (found : header cursor = .ok (some (tag, length)) next) :
    ∃ extent, Announced cursor extent next ∧ extent.length = length := by
  have headed := headed_of_header found
  have finish := ((robust_exact total).composed.header.ok counts found).position
  obtain ⟨tag?, middle, tagged, rest⟩ := of_bind found
  cases tag? with
  | none => cases rest
  | some tag =>
      obtain ⟨length, last, sized, rest⟩ := of_bind rest
      cases rest
      cases unread : cursor.unread with
      | nil =>
          obtain ⟨stopped, ended⟩ := readTag_of_nil counts.steady counts.ended unread
          cases ended.symm.trans tagged
      | cons first following =>
          obtain ⟨behind, count, took, content, read⟩ := readTag_of_cons counts.steady unread
          cases read.symm.trans tagged
          have ready := (ready_leaving counts).of_took took
          obtain ⟨value, octets, decoded, tookField, counted, rest, -⟩ := of_readLength ready sized
          rw [content] at decoded
          have nextReady := ready.of_took tookField
          refine ⟨_, ⟨upcoming_of_decode unread decoded, ?_, nextReady, headed.ends, headed.room⟩,
            rfl⟩
          have field := Length.length_rest_lt_of_decode decoded
          have start := counts.position
          simp only [Cursor.unread, nextReady.peeked, Option.toList_none, List.nil_append,
            rest] at finish
          rw [unread, List.length_cons] at start
          show next.position = cursor.position + (1 + (following.length - value.length))
          omega

/-! ### Elements that were read -/

/-- A cursor stands behind an element that it has read. -/
structure Read (cursor : Cursor) (extent : Extent) (next : Cursor) : Prop where
  announced : ∃ middle, Announced cursor extent middle
  position : next.position = extent.stop

/-- The value of an announced element was taken or passed over. -/
theorem Announced.read {extent : Extent} (announced : Announced cursor extent middle)
    (took : middle.Took extent.length next) : Read cursor extent next := by
  refine ⟨⟨middle, announced⟩, ?_⟩
  rw [(announced.ready.of_took took).position, took.consumed, ← announced.ready.position,
    announced.position]
  rfl

theorem of_takeBytes (ready : cursor.Ready) {count : Nat} {bytes : Bytes}
    (taken : takeBytes count cursor = .ok bytes next) : cursor.Took count next := by
  by_cases short : cursor.source.content.length < count
  · obtain ⟨stopped, -, incomplete⟩ := takeBytes_of_lt ready.steady ready.ended short
    cases incomplete.symm.trans taken
  · obtain ⟨behind, took, complete⟩ := takeBytes_of_le ready.steady count (Nat.le_of_not_lt short)
    cases complete.symm.trans taken
    exact took

/-- Passing over bytes leaves the cursor where taking them does. -/
theorem takeBytes_of_skipBytes {count : Nat} {done : Unit}
    (skipped : skipBytes count cursor = .ok done next) :
    ∃ bytes, takeBytes count cursor = .ok bytes next := by
  rw [skipBytes_eq] at skipped
  rw [takeBytes_eq]
  cases stop : (cursor.source.gather count).stop with
  | enough =>
      rw [stop] at skipped
      cases skipped
      exact ⟨_, rfl⟩
  | ended => rw [stop] at skipped; cases skipped
  | failed reason => rw [stop] at skipped; cases skipped

theorem read_of_readElement? (counts : Exact total cursor) {element : Element}
    (read : readElement? cursor = .ok (some element) next) :
    ∃ extent, Read cursor extent next := by
  rw [readElement?_eq] at read
  obtain ⟨parts, middle, found, rest⟩ := of_bind read
  cases parts with
  | none => cases rest
  | some parts =>
      obtain ⟨value, last, taken, rest⟩ := of_bind rest
      cases rest
      obtain ⟨extent, announced, length⟩ := announced_of_header counts found
      rw [← length] at taken
      exact ⟨extent, announced.read (of_takeBytes announced.ready taken)⟩

theorem read_of_skipElement? (counts : Exact total cursor) {tag : UInt8}
    (skipped : skipElement? cursor = .ok (some tag) next) :
    ∃ extent, Read cursor extent next := by
  rw [skipElement?_eq] at skipped
  obtain ⟨parts, middle, found, rest⟩ := of_bind skipped
  cases parts with
  | none => cases rest
  | some parts =>
      obtain ⟨done, last, passed, rest⟩ := of_bind rest
      cases rest
      obtain ⟨extent, announced, length⟩ := announced_of_header counts found
      obtain ⟨bytes, taken⟩ := takeBytes_of_skipBytes passed
      rw [← length] at taken
      exact ⟨extent, announced.read (of_takeBytes announced.ready taken)⟩

theorem read_of_readAs (counts : Exact total cursor) {Value : Type}
    {decode : Bytes → Except Error Value} {value : Value}
    (found : readAs decode cursor = .ok value next) : ∃ extent, Read cursor extent next := by
  obtain ⟨element, middle, read, rest⟩ := of_bind found
  obtain ⟨found, behind, read, complete⟩ := of_bind read
  cases found with
  | none => cases complete
  | some found =>
      cases complete
      cases decoded : decode element.value with
      | error error => simp only [decoded] at rest; cases rest
      | ok value =>
          simp only [decoded] at rest
          cases rest
          exact read_of_readElement? counts read

/-- A container that was entered is the element in front of the cursor. -/
theorem announced_of_enter (counts : Exact total cursor) {span : Span}
    (entered : enter cursor = .ok span next) :
    ∃ extent middle, Announced cursor extent middle ∧ span.stop = extent.stop := by
  obtain ⟨middle, found, -, stop, -, rfl⟩ := header_of_enter entered
  obtain ⟨extent, announced, length⟩ := announced_of_header counts found
  refine ⟨extent, middle, announced, ?_⟩
  rw [stop, announced.position, ← length]
  rfl

end DirectoryInterchange.Element.Cursor
