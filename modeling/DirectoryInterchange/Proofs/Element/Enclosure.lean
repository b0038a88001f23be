import DirectoryInterchange.Proofs.Element.Extents

/-!
Elements and the containers around them.

Whatever was asked before, the containers that have not come to their end are
open in the order in which they were entered, each within the others.  A length
that fits into the innermost one fits into all of them.  It is compared behind
the header that declares it, though, so that a header may go beyond the end of
its container when nothing follows it.
-/

namespace DirectoryInterchange.Element.Cursor

/-- Whether an element was read, passed over or entered. -/
def Reply.reads : Reply → Bool
  | element found => found.isSome
  | skipped tag => tag.isSome
  | boolean _ | number _ | null | octets _ | text _ | entered _ => true
  | looked _ | more _ | unknown | failed _ => false

/-! ### Open containers -/

theorem position_lt_of_innermost {cursor : Cursor} {stop : Nat}
    (innermost : stop ∈ cursor.leaving.ends.head?) : cursor.position < stop := by
  have live := List.head?_dropWhile_not (· ≤ cursor.position) cursor.ends
  simp only [leaving, Option.mem_def] at innermost
  rw [innermost] at live
  exact Nat.lt_of_not_le (of_decide_eq_false live)

namespace Session

/-- The containers that were entered and have not come to their end, the last one first. -/
def unfinished (session : Session) : List Span :=
  session.entered.reverse.filter (session.cursor.position < ·.stop)

/-- The containers that have not come to their end are open, in the order in
which they were entered. -/
structure Enclosing (session : Session) : Prop where
  /-- An open container lies within those outside of it, or has come to its end. -/
  nested : session.cursor.ends.Pairwise fun inner outer =>
    inner ≤ outer ∨ inner ≤ session.cursor.position
  /-- What was entered inside of a container that has not come to its end lies within it. -/
  inside : ∀ span ∈ session.entered, session.cursor.position ≤ span.stop →
    ∀ stop ∈ session.cursor.ends.take (session.cursor.ends.length - span.depth), stop ≤ span.stop
  opened : session.cursor.ends.filter (session.cursor.position < ·) =
    (session.entered.reverse.map Span.stop).filter (session.cursor.position < ·)

namespace Enclosing

variable {session : Session} {next middle : Cursor} {extent : Extent}

theorem start (source : Source) (maximumSize maximumDepth : Option Nat) :
    Enclosing (.start source maximumSize maximumDepth) where
  nested := .nil
  inside _ member := absurd member List.not_mem_nil
  opened := rfl

theorem passes (enclosing : Enclosing session) (passes : Passes session.cursor next) :
    Enclosing { session with cursor := next } := by
  obtain ⟨left, split, behind⟩ := passes.left
  refine ⟨?_, ?_, ?_⟩
  · have nested := enclosing.nested
    rw [split] at nested
    refine (List.pairwise_append.mp nested).2.1.imp ?_
    intro inner outer either
    exact either.imp_right fun ended => Nat.le_trans ended passes.position
  · intro span member reached stop entered
    apply enclosing.inside span member (Nat.le_trans passes.position reached)
    rw [split, List.length_append]
    by_cases open_span : span.depth ≤ next.ends.length
    · rw [Nat.add_sub_assoc open_span, List.take_length_add_append]
      exact List.mem_append_right left entered
    · rw [Nat.sub_eq_zero_of_le (Nat.le_of_not_le open_span)] at entered
      cases entered
  · have none_left : left.filter (next.position < ·) = [] := by
      rw [List.filter_eq_nil_iff]
      intro stop member
      simpa using behind stop member
    have later (stops : List Nat) : stops.filter (next.position < ·) =
        (stops.filter (session.cursor.position < ·)).filter (next.position < ·) := by
      rw [List.filter_filter]
      apply List.filter_congr
      intro stop _
      rw [← Bool.decide_and]
      apply decide_eq_decide.mpr
      exact ⟨fun behind => ⟨behind, Nat.lt_of_le_of_lt passes.position behind⟩, And.left⟩
    show next.ends.filter (next.position < ·) = _
    rw [later (session.entered.reverse.map Span.stop), ← enclosing.opened, ← later, split,
      List.filter_append, none_left, List.nil_append]

/-- The innermost container that has not come to its end lies within all others. -/
theorem innermost_le (enclosing : Enclosing session) {stop : Nat}
    (innermost : stop ∈ session.cursor.leaving.ends.head?) :
    ∀ outer ∈ session.cursor.leaving.ends, stop ≤ outer := by
  have live := position_lt_of_innermost innermost
  have nested := enclosing.nested.sublist
    (List.dropWhile_sublist (l := session.cursor.ends) (· ≤ session.cursor.position))
  simp only [leaving] at innermost ⊢
  cases ends : session.cursor.ends.dropWhile (· ≤ session.cursor.position) with
  | nil => intro outer member; cases member
  | cons first others =>
      rw [ends] at innermost nested
      cases innermost
      intro outer member
      rcases List.mem_cons.mp member with same | later
      · exact Nat.le_of_eq same.symm
      · rcases (List.pairwise_cons.mp nested).1 outer later with within | ended
        · exact within
        · exact absurd ended (Nat.not_le_of_lt live)

/-- When those that have ended in front of it are left, only unfinished
containers are open, and all of these. -/
theorem ends_leaving (enclosing : Enclosing session) :
    session.cursor.leaving.ends = session.unfinished.map Span.stop := by
  have live : ∀ stop ∈ session.cursor.leaving.ends, session.cursor.position < stop := by
    intro stop member
    have innermost := List.head?_eq_some_head (List.ne_nil_of_mem member)
    have within := enclosing.innermost_le innermost stop member
    exact Nat.lt_of_lt_of_le (position_lt_of_innermost innermost) within
  have ended : (session.cursor.ends.takeWhile (· ≤ session.cursor.position)).filter
      (session.cursor.position < ·) = [] := by
    rw [List.filter_eq_nil_iff]
    intro stop member
    simpa using List.mem_takeWhile_imp member
  have split := List.takeWhile_append_dropWhile (p := (· ≤ session.cursor.position))
    (l := session.cursor.ends)
  calc session.cursor.leaving.ends
      = session.cursor.leaving.ends.filter (session.cursor.position < ·) := by
        rw [List.filter_eq_self.mpr]
        exact fun stop member => decide_eq_true (live stop member)
    _ = session.cursor.ends.filter (session.cursor.position < ·) := by
        rw [← split, List.filter_append, ended, List.nil_append]
        rfl
    _ = (session.entered.reverse.map Span.stop).filter (session.cursor.position < ·) :=
        enclosing.opened
    _ = session.unfinished.map Span.stop := List.filter_map

/-- A container that has not come to its end is open. -/
theorem mem_leaving (enclosing : Enclosing session) {span : Span} (member : span ∈ session.entered)
    (live : session.cursor.position < span.stop) : span.stop ∈ session.cursor.leaving.ends := by
  rw [enclosing.ends_leaving]
  apply List.mem_map_of_mem
  exact List.mem_filter.mpr ⟨List.mem_reverse.mpr member, decide_eq_true live⟩

/-- A length that was let into the innermost container fits into all of those
around it. -/
theorem fits (enclosing : Enclosing session) {length : Nat}
    (ends : middle.ends = session.cursor.leaving.ends)
    (room : ∀ stop ∈ middle.ends.head?, length ≤ stop - middle.position)
    (nonempty : length ≠ 0) :
    ∀ stop ∈ session.cursor.leaving.ends, middle.position + length ≤ stop := by
  intro stop member
  have innermost := List.head?_eq_some_head (List.ne_nil_of_mem member)
  rw [ends] at room
  have room := room _ innermost
  have within := enclosing.innermost_le innermost stop member
  omega

/-- An element that has a value lies within all containers around it. -/
theorem stop_le (enclosing : Enclosing session) (announced : Announced session.cursor extent middle)
    (nonempty : extent.length ≠ 0) :
    ∀ stop ∈ session.cursor.leaving.ends, extent.stop ≤ stop := by
  have fits := enclosing.fits announced.ends announced.room nonempty
  rwa [announced.position] at fits

/-- It also lies within all containers that have not come to an end behind its header. -/
theorem stop_le_of_entered (enclosing : Enclosing session) {length : Nat}
    (headed : Headed session.cursor length middle) {span : Span}
    (member : span ∈ session.entered) (reached : middle.position ≤ span.stop) :
    middle.position + length ≤ span.stop := by
  by_cases empty : length = 0
  · omega
  · have live := Nat.lt_of_lt_of_le headed.position_lt reached
    exact enclosing.fits headed.ends headed.room empty _ (enclosing.mem_leaving member live)

theorem enter (enclosing : Enclosing session) {length : Nat}
    (headed : Headed session.cursor length middle) {span : Span}
    (stop : span.stop = middle.position + length) (depth : span.depth = middle.ends.length) :
    Enclosing ⟨middle.inside span, session.entered ++ [span]⟩ := by
  have outside := enclosing.passes headed.passes
  refine ⟨?_, ?_, ?_⟩
  · refine List.pairwise_cons.mpr ⟨fun outer member => ?_, outside.nested⟩
    by_cases empty : length = 0
    · right
      exact Nat.le_of_eq (by rw [stop, empty]; rfl)
    · left
      rw [stop]
      exact enclosing.fits headed.ends headed.room empty outer (headed.ends ▸ member)
  · intro other member reached inner entered
    rcases List.mem_append.mp member with older | new
    · by_cases open_span : other.depth ≤ middle.ends.length
      · have split : (middle.inside span).ends.length - other.depth =
            middle.ends.length - other.depth + 1 := Nat.succ_sub open_span
        rw [split] at entered
        rcases List.mem_cons.mp entered with same | outer
        · rw [same, stop]
          exact enclosing.stop_le_of_entered headed older reached
        · exact outside.inside other older reached inner outer
      · have none_left : (middle.inside span).ends.length - other.depth = 0 :=
          Nat.sub_eq_zero_of_le (Nat.lt_of_not_le open_span)
        rw [none_left] at entered
        cases entered
    · cases List.mem_singleton.mp new
      have first : (middle.inside span).ends.length - span.depth = 1 := by
        rw [depth]
        exact Nat.add_sub_cancel_left ..
      rw [first] at entered
      exact Nat.le_of_eq (List.mem_singleton.mp entered)
  · show (span.stop :: middle.ends).filter (middle.position < ·) = _
    rw [List.reverse_append]
    show _ = (span.stop :: session.entered.reverse.map Span.stop).filter (middle.position < ·)
    rw [List.filter_cons, List.filter_cons, outside.opened]

/-- Whether or not there is more in a container, only containers that have come
to their end are left with it. -/
theorem passes_hasMore (enclosing : Enclosing session) {span : Span}
    (member : span ∈ session.entered) :
    Passes session.cursor (leftBy (hasMore span session.cursor)) := by
  simp only [hasMore, run_get_bind]
  split
  · exact .refl _
  split
  · exact .refl _
  next remaining beyond =>
  refine ⟨Nat.le_refl _, _, (List.take_append_drop _ _).symm, ?_⟩
  intro stop left
  have within := enclosing.inside span member (by omega) stop left
  show stop ≤ session.cursor.position
  omega

end Enclosing

/-! ### Request after request -/

variable {session : Session} {request : Request} {total : Nat}

theorem ask_of_ok {reply : Reply} {next : Cursor}
    (ran : request.action session.entered session.cursor = .ok reply next) :
    session.ask request = (reply, ⟨next, session.entered ++ reply.span?.toList⟩) := by
  simp only [ask, ran]

theorem ask_of_error {error : Error} {next : Cursor}
    (ran : request.action session.entered session.cursor = .error error next) :
    session.ask request = (.failed error, { session with cursor := next }) := by
  simp only [ask, ran]

/-- What a session keeps, whatever it is asked. -/
structure Sound (total : Nat) (session : Session) : Prop where
  counts : Exact total session.cursor
  enclosing : Enclosing session

/-- A request that does not enter a container passes over those that are open. -/
theorem passes_request (enclosing : Enclosing session) (no_entry : request ≠ .enter) :
    Passes session.cursor (leftBy (request.action session.entered session.cursor)) := by
  by_cases exit : ∃ index, request = .more index
  · obtain ⟨index, rfl⟩ := exit
    cases span : session.entered[index]? with
    | none =>
        simp only [Request.action, span]
        exact .refl _
    | some entered =>
        simp only [Request.action, span]
        rw [leftBy_bind_pure]
        exact enclosing.passes_hasMore (List.mem_of_getElem? span)
  · have keeps := (robust_passes session.cursor).inherited.action session.entered no_entry
      fun index more => exit ⟨index, more⟩
    exact keeps.left (.refl session.cursor)

/-- Only a request to enter one adds to the containers that were entered. -/
theorem ask_of_no_entry (no_entry : request ≠ .enter) :
    (session.ask request).2 =
      { session with
        cursor := leftBy (request.action session.entered session.cursor) } := by
  cases ran : request.action session.entered session.cursor with
  | error error next =>
      rw [ask_of_error ran]
      rfl
  | ok reply next =>
      have none_entered : reply.span? = none := by
        cases request with
        | enter => exact absurd rfl no_entry
        | null =>
            obtain ⟨value, middle, -, answered⟩ := of_bind ran
            cases answered
            rfl
        | more index =>
            simp only [Request.action] at ran
            cases span : session.entered[index]? with
            | none =>
                rw [span] at ran
                cases ran
                rfl
            | some span' =>
                rw [span] at ran
                obtain ⟨value, middle, -, answered⟩ := of_bind ran
                cases answered
                rfl
        | _ =>
            obtain ⟨value, middle, -, answered⟩ := of_bind ran
            cases answered
            rfl
      rw [ask_of_ok ran, none_entered]
      exact congrArg (Session.mk next) (List.append_nil _)

theorem Enclosing.ask (enclosing : Enclosing session) (request : Request) :
    Enclosing (session.ask request).2 := by
  by_cases entry : request = .enter
  · subst entry
    cases ran : Cursor.enter session.cursor with
    | error error next =>
        have passes := (robust_passes session.cursor).of_enter_error (.refl _) ran
        rw [@ask_of_error _ .enter _ _ (bind_error ran)]
        exact enclosing.passes passes
    | ok span next =>
        obtain ⟨middle, found, -, stop, depth, rfl⟩ := header_of_enter ran
        rw [@ask_of_ok _ .enter _ _ (bind_ok ran)]
        exact enclosing.enter (headed_of_header found) stop depth
  · rw [ask_of_no_entry entry]
    exact enclosing.passes (passes_request enclosing entry)

theorem Enclosing.after (enclosing : Enclosing session) (requests : List Request) :
    Enclosing (session.after requests) :=
  after_keeps (fun request before => before.ask request) enclosing requests

theorem Sound.ask (sound : Sound total session) (request : Request) :
    Sound total (session.ask request).2 := by
  refine ⟨?_, sound.enclosing.ask request⟩
  rw [cursor_ask]
  have keeps := (robust_exact total).keeps_request (fun stops counts => counts.outside stops)
    session.entered request
  exact keeps.left sound.counts

theorem Sound.after (sound : Sound total session) (requests : List Request) :
    Sound total (session.after requests) :=
  after_keeps (fun request before => before.ask request) sound requests

/-! ### Elements within their containers -/

/-- The offset behind the element that a request has read. -/
def reached (session : Session) (request : Request) : Nat :=
  ((session.ask request).1.span?.map Span.stop).getD (session.ask request).2.cursor.position

/-- No request reads an element that starts inside of a container that was
entered and goes on behind its end. -/
def KeepsWithin (session : Session) : Prop :=
  ∀ request, (session.ask request).1.reads = true →
    ∃ extent ∈ session.cursor.upcoming, session.reached request = extent.stop ∧
      ∀ span ∈ session.entered, ¬extent.Crosses span

/-- Whatever reads an element has read its header first and has come to its end. -/
theorem announced_of_reads (counts : Exact total session.cursor)
    (reads : (session.ask request).1.reads = true) :
    ∃ extent middle, Announced session.cursor extent middle ∧
      session.reached request = extent.stop := by
  unfold reached
  cases ran : request.action session.entered session.cursor with
  | error error next =>
      rw [ask_of_error ran] at reads
      cases reads
  | ok reply next =>
      rw [ask_of_ok ran] at reads ⊢
      have behind {extent : Extent} (read : Read session.cursor extent next)
          (apart : reply.span? = none) : ∃ extent middle, Announced session.cursor extent middle ∧
            (reply.span?.map Span.stop).getD next.position = extent.stop := by
        obtain ⟨middle, announced⟩ := read.announced
        rw [apart]
        exact ⟨extent, middle, announced, read.position⟩
      cases request with
      | peek =>
          obtain ⟨tag, middle, -, answered⟩ := of_bind ran
          cases answered
          cases reads
      | element =>
          obtain ⟨found, middle, read, answered⟩ := of_bind ran
          cases answered
          cases found with
          | none => cases reads
          | some element =>
              obtain ⟨extent, read⟩ := read_of_readElement? counts read
              exact behind read rfl
      | skip =>
          obtain ⟨found, middle, skipped, answered⟩ := of_bind ran
          cases answered
          cases found with
          | none => cases reads
          | some tag =>
              obtain ⟨extent, read⟩ := read_of_skipElement? counts skipped
              exact behind read rfl
      | boolean | integer | long | null | octets | text =>
          obtain ⟨value, middle, read, answered⟩ := of_bind ran
          cases answered
          obtain ⟨extent, read⟩ := read_of_readAs counts read
          exact behind read rfl
      | enter =>
          obtain ⟨span, middle, entered, answered⟩ := of_bind ran
          cases answered
          obtain ⟨extent, middle, announced, stop⟩ := announced_of_enter counts entered
          exact ⟨extent, middle, announced, stop⟩
      | more index =>
          simp only [Request.action] at ran
          cases span : session.entered[index]? with
          | none =>
              rw [span] at ran
              cases ran
              cases reads
          | some span' =>
              rw [span] at ran
              obtain ⟨left, middle, -, answered⟩ := of_bind ran
              cases answered
              cases reads

/-- An element without a value is read wherever its header is complete. -/
theorem reads_of_empty (counts : Exact total session.cursor) {extent : Extent}
    (upcoming : session.cursor.upcoming = some extent) (empty : extent.length = 0) :
    (session.ask .element).1.reads = true := by
  unfold Cursor.upcoming at upcoming
  cases unread : session.cursor.unread with
  | nil =>
      rw [unread] at upcoming
      cases upcoming
  | cons tag following =>
      cases decoded : Length.decode following with
      | error error =>
          simp only [unread, decoded] at upcoming
          cases upcoming
      | ok parts =>
          obtain ⟨length, content⟩ := parts
          simp only [unread, decoded] at upcoming
          cases upcoming
          cases empty
          obtain ⟨tagged, count, took, rest, tag_read⟩ := readTag_of_cons counts.steady unread
          obtain ⟨sized, tookField, -, field⟩ :=
            readLengthField_of_ok took.steady (rest ▸ decoded)
          obtain ⟨last, -, taken⟩ := takeBytes_of_le tookField.steady 0 (Nat.zero_le _)
          have read : readElement? session.cursor = .ok (some ⟨tag, []⟩) last := by
            rw [readElement?, bind_ok tag_read]
            simp only
            rw [bind_ok (readLength_of_empty field), bind_ok taken]
            rfl
          rw [@ask_of_ok _ .element _ _ (bind_ok read)]
          rfl

theorem Sound.start {source : Source} (steady : source.Steady) (ended : source.failure = none)
    (maximumSize maximumDepth : Option Nat) :
    Sound source.content.length (.start source maximumSize maximumDepth) where
  counts := ⟨⟨Nat.zero_add _, fun looked => by cases looked⟩, steady, ended⟩
  enclosing := .start source maximumSize maximumDepth

/-- No element that is read crosses the end of a container, whatever was asked
before, but for those that have no value: their length fits wherever their
header has ended. -/
theorem keepsWithin_iff {source : Source} (steady : source.Steady) (ended : source.failure = none)
    (maximumSize maximumDepth : Option Nat) (requests : List Request) :
    let session := (start source maximumSize maximumDepth).after requests
    session.cursor.position + session.cursor.unread.length = source.content.length ∧
      (session.KeepsWithin ↔ ∀ extent ∈ session.cursor.upcoming, extent.length = 0 →
        ∀ span ∈ session.entered, ¬extent.Crosses span) := by
  intro session
  have sound : Sound source.content.length session :=
    (Sound.start steady ended maximumSize maximumDepth).after requests
  refine ⟨sound.counts.position, ?_, ?_⟩
  · intro keeps extent upcoming empty
    obtain ⟨same, found, -, within⟩ := keeps .element (reads_of_empty sound.counts upcoming empty)
    rwa [Option.mem_unique upcoming found]
  · intro keeps request reads
    obtain ⟨extent, middle, announced, reached⟩ := announced_of_reads sound.counts reads
    refine ⟨extent, announced.upcoming, reached, ?_⟩
    intro span member crosses
    by_cases empty : extent.length = 0
    · exact keeps extent announced.upcoming empty span member crosses
    · have live := crosses.1
      rw [(Extent.of_upcoming announced.upcoming).1] at live
      have within := sound.enclosing.stop_le announced empty span.stop
        (sound.enclosing.mem_leaving member live)
      exact Nat.not_lt_of_le within crosses.2

/-- A container of three bytes with a text of one byte in it. -/
def enclosed : Source :=
  ⟨[.bytes [0x30, 0x03, 0x04, 0x01, 0x61]], none⟩

theorem keepsWithin_iff_enclosed :
    enclosed.Steady ∧ enclosed.failure = none
      ∧ ((start enclosed).after [.enter]).cursor.upcoming = some ⟨2, 2, 1⟩
      ∧ ((start enclosed).after [.enter]).entered = [⟨0x30, 3, 5, 0⟩]
      ∧ ((start enclosed).after [.enter]).KeepsWithin :=
  ⟨by decide, rfl, by decide, by decide,
    (keepsWithin_iff (by decide) rfl none none [.enter]).2.mpr (by decide)⟩

/-- A container of one byte, in which the header of a text without any bytes begins. -/
def straddled : Source :=
  ⟨[.bytes [0x30, 0x01, 0x04, 0x00]], none⟩

theorem not_keepsWithin_straddled : ¬((start straddled).after [.enter]).KeepsWithin := by
  intro keeps
  obtain ⟨extent, upcoming, -, within⟩ := keeps .element (by decide)
  have straddles : ((start straddled).after [.enter]).cursor.upcoming = some ⟨2, 2, 0⟩ := by decide
  cases Option.mem_unique upcoming straddles
  exact within ⟨0x30, 1, 3, 0⟩ (by decide) (by decide)

end Session

end DirectoryInterchange.Element.Cursor
