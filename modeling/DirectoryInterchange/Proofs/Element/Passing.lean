import Mathlib.Data.List.TakeWhile
import DirectoryInterchange.Proofs.Element.Requests

/-!
What every action keeps of a cursor, also when it fails.

A cursor is worked on by a few small steps only, and what each of these keeps
is kept by whatever is made of them.  Positions only grow, a container is left
at its end at the earliest, and no byte goes uncounted.
-/

namespace DirectoryInterchange.Element

namespace Cursor

/-- What two actions in a row went through that have succeeded. -/
theorem of_bind {First Second : Type} {action : Action First} {following : First → Action Second}
    {cursor next : Cursor} {result : Second}
    (ran : (action >>= following) cursor = .ok result next) :
    ∃ value middle, action cursor = .ok value middle ∧
      following value middle = .ok result next := by
  cases first : action cursor with
  | ok value middle => exact ⟨value, middle, rfl, (bind_ok first).symm.trans ran⟩
  | error error middle => cases (bind_error first).symm.trans ran

/-! ### Actions that keep something -/

/-- The cursor that an action leaves, whether it succeeds or not. -/
def leftBy {Value : Type} : EStateM.Result Error Cursor Value → Cursor
  | .ok _ next => next
  | .error _ next => next

theorem leftBy_bind_pure {First Second : Type} (action : Action First) (reply : First → Second)
    (cursor : Cursor) :
    leftBy ((action >>= fun value => Pure.pure (reply value)) cursor) = leftBy (action cursor) := by
  cases ran : action cursor with
  | ok value next => rw [bind_ok ran]; rfl
  | error error next => rw [bind_error ran]; rfl

structure Keeps {Value : Type} (holds : Cursor → Prop) (action : Action Value) : Prop where
  left : ∀ {cursor : Cursor}, holds cursor → holds (leftBy (action cursor))

namespace Keeps

variable {First Second : Type} {holds : Cursor → Prop}

theorem ok {action : Action First} (keeps : Keeps holds action) {cursor next : Cursor}
    {value : First} (before : holds cursor) (ran : action cursor = .ok value next) :
    holds next := by
  have left := keeps.left before
  rwa [ran] at left

theorem error {action : Action First} (keeps : Keeps holds action) {cursor next : Cursor}
    {error : Error} (before : holds cursor) (ran : action cursor = .error error next) :
    holds next := by
  have left := keeps.left before
  rwa [ran] at left

theorem pure (value : First) : Keeps holds (Pure.pure value : Action First) :=
  ⟨fun before => before⟩

theorem throw (error : Error) : Keeps holds (MonadExcept.throw error : Action First) :=
  ⟨fun before => before⟩

theorem bind {action : Action First} {following : First → Action Second}
    (first : Keeps holds action) (rest : ∀ value, Keeps holds (following value)) :
    Keeps holds (action >>= following) := by
  constructor
  intro cursor before
  have middle := first.left before
  cases ran : action cursor with
  | ok value next =>
      rw [ran] at middle
      rw [bind_ok ran]
      exact (rest value).left middle
  | error error next =>
      rw [ran] at middle
      rw [bind_error ran]
      exact middle

theorem look {following : Cursor → Action First} (each : ∀ cursor, Keeps holds (following cursor)) :
    Keeps holds (get >>= following) :=
  ⟨fun {cursor} before => (each cursor).left before⟩

theorem modify {change : Cursor → Cursor}
    (kept : ∀ {cursor}, holds cursor → holds (change cursor)) :
    Keeps holds (modify change : Action Unit) :=
  ⟨kept⟩

end Keeps

/-- What is kept when bytes are taken and counted, when containers that have
ended are left, and when a tag is looked at or read. -/
structure Tracked (holds : Cursor → Prop) : Prop where
  behind : ∀ {cursor : Cursor} (count : Nat), holds cursor → holds (cursor.behind count)
  left : ∀ {cursor : Cursor}, holds cursor →
    holds { cursor with ends := cursor.ends.dropWhile (· ≤ cursor.position) }
  read : ∀ {cursor : Cursor}, holds cursor → holds { cursor with peeked := none }
  looked : ∀ {cursor : Cursor}, holds cursor → cursor.peeked = none →
    holds { cursor.behind 1 with peeked := (cursor.source.gather 1).bytes.head? }

/-- What is also kept when bytes were taken and are not counted since a read failed. -/
structure Robust (holds : Cursor → Prop) : Prop extends Tracked holds where
  uncounted : ∀ {cursor : Cursor} {count : Nat} {reason : String}, holds cursor →
    (cursor.source.gather count).stop = .failed reason →
    holds (cursor.past 0 (cursor.source.gather count).source)

namespace Tracked

variable {holds : Cursor → Prop} (tracked : Tracked holds)

include tracked

theorem keeps_takeBytes (count : Nat) : Keeps holds (takeBytes count) := by
  constructor
  intro cursor before
  rw [takeBytes_eq]
  cases (cursor.source.gather count).stop <;> exact tracked.behind count before

theorem keeps_takeByte? : Keeps holds takeByte? := by
  constructor
  intro cursor before
  rw [takeByte?_eq]
  cases (cursor.source.gather 1).stop <;> exact tracked.behind 1 before

theorem keeps_peek : Keeps holds peek := by
  constructor
  intro cursor before
  cases peeked : cursor.peeked with
  | some tag =>
      simp only [peek, run_get_bind, peeked, Option.isNone_some, Bool.false_eq_true, if_false]
      exact before
  | none =>
      simp only [peek, run_get_bind, peeked, Option.isNone_none, if_true]
      have behind := tracked.behind 1 before
      have looked := tracked.looked before peeked
      have took := takeByte?_eq cursor
      cases stop : (cursor.source.gather 1).stop with
      | failed reason =>
          rw [stop] at took
          rw [bind_error took]
          exact behind
      | enough | ended =>
          rw [stop] at took
          rw [bind_ok took]
          exact looked

theorem keeps_readTag : Keeps holds readTag := by
  refine .bind (.modify tracked.left) fun _ => .look fun cursor => ?_
  cases cursor.peeked with
  | none => exact tracked.keeps_takeByte?
  | some tag => exact .bind (.modify tracked.read) fun _ => .pure _

theorem composed : Composed (Keeps holds) where
  pure := .pure
  throw := .throw
  bind := .bind
  look _ := .look
  takeBytes := tracked.keeps_takeBytes
  takeByte? := tracked.keeps_takeByte?
  peek := tracked.keeps_peek
  readTag := tracked.keeps_readTag

/-- A container that is not entered leaves no trace but its header. -/
theorem of_enter_error {cursor next : Cursor} {error : Error} (before : holds cursor)
    (failed : enter cursor = .error error next) : holds next := by
  cases tagged : readTag cursor with
  | error error stopped =>
      cases (bind_error tagged).symm.trans failed
      exact tracked.keeps_readTag.error before tagged
  | ok tag middle =>
      have behind := tracked.keeps_readTag.ok before tagged
      rw [enter, bind_ok tagged] at failed
      cases tag with
      | none =>
          cases failed
          exact behind
      | some tag =>
          cases sized : readLength middle with
          | error error stopped =>
              cases (bind_error sized).symm.trans failed
              exact tracked.composed.readLength.error behind sized
          | ok length last =>
              simp only at failed
              rw [bind_ok sized] at failed
              simp only [run_get_bind] at failed
              split at failed
              · cases failed
                exact tracked.composed.readLength.ok behind sized
              · cases failed

/-- What does not depend on the open containers is kept by every request that
does not skip an element. -/
theorem keeps_request (free : ∀ {cursor : Cursor} (stops : List Nat), holds cursor →
      holds { cursor with ends := stops }) (entered : List Span) {request : Request}
    (no_skip : request ≠ .skip) : Keeps holds (request.action entered) := by
  by_cases entry : request = .enter
  · subst entry
    refine .bind (.bind tracked.keeps_readTag fun tag => ?_) fun _ => .pure _
    cases tag with
    | none => exact .throw _
    | some tag =>
        refine .bind tracked.composed.readLength fun length => ⟨fun {cursor} before => ?_⟩
        simp only [run_get_bind]
        split
        · exact before
        · exact free _ before
  by_cases exit : ∃ index, request = .more index
  · obtain ⟨index, rfl⟩ := exit
    simp only [Request.action]
    cases entered[index]? with
    | none => exact .pure _
    | some span =>
        refine .bind ⟨fun {cursor} before => ?_⟩ fun _ => .pure _
        simp only [hasMore, run_get_bind]
        split
        · exact before
        split
        · exact before
        · exact free _ before
  · exact tracked.composed.action entered no_skip entry fun index more => exit ⟨index, more⟩

end Tracked

namespace Robust

variable {holds : Cursor → Prop} (robust : Robust holds)

include robust

theorem keeps_skipBytes (count : Nat) : Keeps holds (skipBytes count) := by
  constructor
  intro cursor before
  rw [skipBytes_eq]
  cases stop : (cursor.source.gather count).stop with
  | enough => exact robust.behind count before
  | ended => exact robust.behind count before
  | failed reason => exact robust.uncounted before stop

theorem inherited : Inherited (Keeps holds) where
  toComposed := robust.composed
  skipBytes := robust.keeps_skipBytes

/-- What does not depend on the open containers is kept by every request. -/
theorem keeps_request (free : ∀ {cursor : Cursor} (stops : List Nat), holds cursor →
      holds { cursor with ends := stops }) (entered : List Span) (request : Request) :
    Keeps holds (request.action entered) := by
  by_cases skip : request = .skip
  · subst skip
    exact .bind robust.inherited.skipElement? fun _ => .pure _
  · exact robust.toTracked.keeps_request free entered skip

end Robust

/-! ### Request after request -/

theorem Session.cursor_ask (session : Session) (request : Request) :
    (session.ask request).2.cursor = leftBy (request.action session.entered session.cursor) := by
  unfold Session.ask
  cases request.action session.entered session.cursor <;> rfl

theorem Robust.after {holds : Cursor → Prop} (robust : Robust holds)
    (free : ∀ {cursor : Cursor} (stops : List Nat), holds cursor →
      holds { cursor with ends := stops })
    {session : Session} (before : holds session.cursor) (requests : List Request) :
    holds (session.after requests).cursor := by
  refine @Session.after_keeps (fun session => holds session.cursor) ?_ session before requests
  intro session request before
  rw [Session.cursor_ask]
  exact (robust.keeps_request free session.entered request).left before

/-! ### Positions and open containers -/

/-- Between two cursors the position grew, and only containers that end in
front of it were left. -/
structure Passes (origin next : Cursor) : Prop where
  position : origin.position ≤ next.position
  left : ∃ left, origin.ends = left ++ next.ends ∧ ∀ stop ∈ left, stop ≤ next.position

theorem Passes.refl (cursor : Cursor) : Passes cursor cursor :=
  ⟨Nat.le_refl _, [], rfl, fun _ member => absurd member List.not_mem_nil⟩

/-- A change that lets the position grow and leaves the containers alone. -/
theorem Passes.change {origin cursor next : Cursor} (passes : Passes origin cursor)
    (ends : next.ends = cursor.ends) (position : cursor.position ≤ next.position) :
    Passes origin next := by
  obtain ⟨left, split, behind⟩ := passes.left
  refine ⟨Nat.le_trans passes.position position, left, ends ▸ split, ?_⟩
  intro stop member
  exact Nat.le_trans (behind stop member) position

theorem Passes.leave {origin cursor : Cursor} (passes : Passes origin cursor) :
    Passes origin { cursor with ends := cursor.ends.dropWhile (· ≤ cursor.position) } := by
  obtain ⟨left, split, behind⟩ := passes.left
  refine ⟨passes.position, left ++ cursor.ends.takeWhile (· ≤ cursor.position), ?_, ?_⟩
  · rw [List.append_assoc, List.takeWhile_append_dropWhile]
    exact split
  · intro stop member
    rcases List.mem_append.mp member with first | second
    · exact behind stop first
    · have ended := List.mem_takeWhile_imp second
      exact of_decide_eq_true ended

theorem position_le_looked (cursor : Cursor) (peeked : cursor.peeked = none) :
    cursor.position ≤
      { cursor.behind 1 with peeked := (cursor.source.gather 1).bytes.head? }.position := by
  simp only [position, peeked, behind, past]
  cases (cursor.source.gather 1).bytes <;> simp

theorem robust_passes (origin : Cursor) : Robust (Passes origin) where
  behind _ passes := passes.change rfl (Nat.sub_le_sub_right (Nat.le_add_right _ _) _)
  uncounted passes _ := passes.change rfl (Nat.le_refl _)
  left passes := passes.leave
  read passes := passes.change rfl (Nat.sub_le _ _)
  looked {cursor} passes peeked := passes.change rfl (position_le_looked cursor peeked)

/-! ### Bytes -/

/-- Of so many bytes each was counted or is still to come. -/
structure Counted (total : Nat) (cursor : Cursor) : Prop where
  counted : cursor.consumed + cursor.source.content.length = total
  looked : cursor.peeked.isSome → 0 < cursor.consumed

theorem Counted.behind {total : Nat} {cursor : Cursor} (counts : Counted total cursor)
    (count : Nat) : Counted total (cursor.behind count) := by
  refine ⟨?_, fun looked => Nat.lt_of_lt_of_le (counts.looked looked) (Nat.le_add_right _ _)⟩
  have counted := counts.counted
  have accounts := Source.accounts_gather cursor.source count
  rw [← accounts.content, List.length_append] at counted
  simp only [Cursor.behind, past]
  omega

theorem Counted.outside {total : Nat} {cursor : Cursor} (counts : Counted total cursor)
    (stops : List Nat) : Counted total { cursor with ends := stops } :=
  ⟨counts.counted, counts.looked⟩

theorem tracked_counted (total : Nat) : Tracked (Counted total) where
  behind count counts := counts.behind count
  left counts := counts.outside _
  read counts := ⟨counts.counted, fun none => by cases none⟩
  looked {cursor} counts _ := by
    refine ⟨(counts.behind 1).counted, ?_⟩
    intro looked
    simp only [Cursor.behind, Cursor.past]
    cases bytes : (cursor.source.gather 1).bytes with
    | nil => rw [bytes] at looked; cases looked
    | cons byte rest => exact Nat.succ_pos _

/-- A cursor in a steady input of so many bytes. -/
structure Exact (total : Nat) (cursor : Cursor) : Prop extends Counted total cursor where
  steady : cursor.source.Steady
  ended : cursor.source.failure = none

theorem Counted.position {total : Nat} {cursor : Cursor} (counts : Counted total cursor) :
    cursor.position + cursor.unread.length = total := by
  have counted := counts.counted
  cases peeked : cursor.peeked with
  | none => simpa [Cursor.position, unread, peeked] using counted
  | some tag =>
      have looked := counts.looked (by rw [peeked]; rfl)
      simp only [Cursor.position, unread, peeked, Option.isSome_some, if_true,
        Option.toList_some, List.length_append, List.length_singleton]
      omega

theorem Exact.outside {total : Nat} {cursor : Cursor} (counts : Exact total cursor)
    (stops : List Nat) : Exact total { cursor with ends := stops } :=
  ⟨counts.toCounted.outside stops, counts.steady, counts.ended⟩

theorem robust_exact (total : Nat) : Robust (Exact total) where
  behind {cursor} count counts := by
    have took := took_behind counts.steady count
    exact ⟨counts.behind count, took.steady, took.failure.trans counts.ended⟩
  left counts := counts.outside _
  read counts := ⟨(tracked_counted total).read counts.toCounted, counts.steady, counts.ended⟩
  looked {cursor} counts none := by
    have took := took_behind counts.steady 1
    exact ⟨(tracked_counted total).looked counts.toCounted none, took.steady,
      took.failure.trans counts.ended⟩
  uncounted {cursor count reason} counts failed := by
    have accounts := Source.accounts_gather cursor.source count
    exact absurd failed ((accounts.unfailing (counts.steady.unfailing counts.ended)).2 reason)

end Cursor

end DirectoryInterchange.Element
