import DirectoryInterchange.Proofs.Element.Counting
import DirectoryInterchange.Proofs.Element.Enclosure

/-!
How many containers are open.

A container is left when the next tag is read behind its end, or before that by
a consumer who asks at its end.  Whichever of the two comes first, and whether
or not anything came in between, the containers that are open behind a header
are those that go on behind the start of that header.
-/

namespace DirectoryInterchange.Element.Cursor

theorem Passes.length_le {origin next : Cursor} (passes : Passes origin next) :
    next.ends.length ≤ origin.ends.length := by
  obtain ⟨left, split, -⟩ := passes.left
  rw [split, List.length_append]
  exact Nat.le_add_left _ _

theorem robust_maximumDepth (limit : Nat) : Robust fun cursor => cursor.maximumDepth = limit where
  behind _ same := same
  left same := same
  read same := same
  looked same _ := same
  uncounted same _ := same

namespace Session

variable {session : Session} {limit : Nat}

/-! ### Request after request -/

/-- A session in which no more containers are open than its limit allows. -/
structure Bounded (limit : Nat) (session : Session) : Prop where
  enclosing : Enclosing session
  maximum : session.cursor.maximumDepth = limit
  within : session.cursor.ends.length ≤ limit

theorem Bounded.start (source : Source) (maximumSize maximumDepth : Option Nat) :
    Bounded (Cursor.start source maximumSize maximumDepth).maximumDepth
      (.start source maximumSize maximumDepth) where
  enclosing := .start source maximumSize maximumDepth
  maximum := rfl
  within := Nat.zero_le _

theorem Bounded.ask (bounded : Bounded limit session) (request : Request) :
    Bounded limit (session.ask request).2 := by
  refine ⟨bounded.enclosing.ask request, ?_, ?_⟩
  · rw [cursor_ask]
    have keeps := (robust_maximumDepth limit).keeps_request (fun _ same => same)
      session.entered request
    exact keeps.left bounded.maximum
  · by_cases entry : request = .enter
    · subst entry
      cases ran : Cursor.enter session.cursor with
      | error error next =>
          have passes := (robust_passes session.cursor).of_enter_error (.refl _) ran
          rw [@ask_of_error _ .enter _ _ (bind_error ran)]
          exact Nat.le_trans passes.length_le bounded.within
      | ok span next =>
          -- The limit was checked in front of the only place at which a container is opened.
          obtain ⟨middle, found, shallow, -, -, rfl⟩ := header_of_enter ran
          rw [@ask_of_ok _ .enter _ _ (bind_ok ran)]
          rw [(headed_of_header found).maximumDepth, bounded.maximum] at shallow
          exact shallow
    · rw [ask_of_no_entry entry]
      exact Nat.le_trans (passes_request bounded.enclosing entry).length_le bounded.within

theorem Bounded.after (bounded : Bounded limit session) (requests : List Request) :
    Bounded limit (session.after requests) :=
  after_keeps (fun request before => before.ask request) bounded requests

/-! ### Entering one more -/

/-- Behind a header just the unfinished containers count. -/
theorem Bounded.ask_enter (bounded : Bounded limit session) {tag : UInt8} {length : Nat}
    {next : Cursor} (found : header session.cursor = .ok (some (tag, length)) next) :
    (session.ask .enter).1 =
      if limit ≤ session.unfinished.length then .failed (.nestingTooDeep limit)
      else .entered ⟨tag, length, next.position + length, session.unfinished.length⟩ := by
  have headed := headed_of_header found
  have depth : next.ends.length = session.unfinished.length := by
    rw [headed.ends, bounded.enclosing.ends_leaving, List.length_map]
  have entering := enter_of_header found
  rw [headed.maximumDepth, bounded.maximum, depth] at entering
  split
  · next deep =>
    rw [if_pos deep] at entering
    rw [@ask_of_error _ .enter _ _ (bind_error entering)]
  · next shallow =>
    rw [if_neg shallow] at entering
    rw [@ask_of_ok _ .enter _ _ (bind_ok entering)]

/-- Where no read fails, whatever was asked before: positions are those of the
source, no more containers are open than the limit allows, and behind a header
those are open that have not come to an end at its start.  Entering one more is
too deep just when these are as many as the limit allows. -/
theorem nestingTooDeep_iff {source : Source} (unfailing : source.Unfailing)
    (maximumSize maximumDepth : Option Nat) (requests : List Request) :
    let session := (start source maximumSize maximumDepth).after requests
    let limit := (Cursor.start source maximumSize maximumDepth).maximumDepth
    session.Accurate source ∧ session.cursor.ends.length ≤ limit ∧
    ∀ tag length next, header session.cursor = .ok (some (tag, length)) next →
      next.ends = session.unfinished.map Span.stop ∧
      ((session.ask .enter).1 = .failed (.nestingTooDeep limit) ↔
        limit ≤ session.unfinished.length) ∧
      ((session.ask .enter).1 =
          .entered ⟨tag, length, next.position + length, session.unfinished.length⟩ ↔
        session.unfinished.length < limit) := by
  intro session limit
  have bounded : Bounded limit session :=
    (Bounded.start source maximumSize maximumDepth).after requests
  refine ⟨?_, bounded.within, ?_⟩
  · exact accurate_of_unfailing unfailing maximumSize maximumDepth requests
  · intro tag length next found
    have answer := bounded.ask_enter found
    have ends : next.ends = session.unfinished.map Span.stop :=
      (headed_of_header found).ends.trans bounded.enclosing.ends_leaving
    by_cases deep : limit ≤ session.unfinished.length
    · rw [if_pos deep] at answer
      exact ⟨ends, by simp [answer, deep], by simp [answer, Nat.not_lt_of_le deep]⟩
    · rw [if_neg deep] at answer
      exact ⟨ends, by simp [answer, deep], by simp [answer, Nat.lt_of_not_le deep]⟩

/-- A container with two others in it, an empty one and one that holds another. -/
def crowded : Source :=
  ⟨[.bytes [0x30, 0x06], .interrupted, .bytes [0x30, 0x00, 0x30], .bytes [0x02, 0x30, 0x00]], none⟩

/-- A session in which nobody has asked whether the empty container has ended,
and in which the next tag was looked at. -/
def descended : Session :=
  (start crowded none (some 2)).after [.enter, .enter, .enter, .peek]

theorem nestingTooDeep_iff_descended :
    crowded.Unfailing
      ∧ header descended.cursor = .ok (some (0x30, 0)) (leftBy (header descended.cursor))
      ∧ descended.entered = [⟨0x30, 6, 8, 0⟩, ⟨0x30, 0, 4, 1⟩, ⟨0x30, 2, 8, 1⟩]
      ∧ descended.unfinished = [⟨0x30, 2, 8, 1⟩, ⟨0x30, 6, 8, 0⟩]
      ∧ (descended.ask .enter).1 = .failed (.nestingTooDeep 2) := by
  refine ⟨by decide, by rfl, by decide, by decide, ?_⟩
  have entering := (@nestingTooDeep_iff crowded (by decide) none (some 2)
    [.enter, .enter, .enter, .peek]).2.2 0x30 0 (leftBy (header descended.cursor)) (by rfl)
  exact entering.2.1.mpr (by decide)

end Session

end DirectoryInterchange.Element.Cursor
