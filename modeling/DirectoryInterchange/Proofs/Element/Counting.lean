import Mathlib.Data.List.Induction
import DirectoryInterchange.Proofs.Element.Skipping

/-!
The position of a cursor and the bytes that were taken from its source.

Whatever a source does and whatever is asked, each byte that was taken is
counted when it comes, with one exception: a read that fails while a value is
passed over takes the count of the bytes in front of it along.  The position
falls behind by just as many bytes and never makes up for them.
-/

namespace DirectoryInterchange.Element.Cursor.Session

variable {session : Session} {source : Source} {total : Nat}

/-- The bytes that a request takes and does not count. -/
def uncounted (session : Session) : Request → Nat
  | .skip => session.cursor.uncounted
  | _ => 0

/-- The bytes that some requests take and do not count. -/
def lost (session : Session) : List Request → Nat
  | [] => 0
  | request :: requests => session.uncounted request + (session.ask request).2.lost requests

theorem lost_append (session : Session) (front back : List Request) :
    session.lost (front ++ back) = session.lost front + (session.after front).lost back := by
  induction front generalizing session with
  | nil => simp [lost, after]
  | cons request front inductionHypothesis =>
      simp only [List.cons_append, lost, inductionHypothesis, Nat.add_assoc]
      rfl

theorem lost_concat (session : Session) (front : List Request) (request : Request) :
    session.lost (front ++ [request]) =
      session.lost front + (session.after front).uncounted request := by
  simp [lost_append, lost]

/-! ### Request after request -/

theorem counted_skipElement? {cursor : Cursor} (counts : Counted total cursor) :
    ∃ rest, rest + cursor.uncounted = total ∧ Counted rest (leftBy (skipElement? cursor)) := by
  have header := (tracked_counted total).composed.header
  rw [skipElement?_eq]
  cases found : Cursor.header cursor with
  | error error next =>
      simp only [Cursor.uncounted, found]
      rw [bind_error found]
      exact ⟨total, rfl, header.error counts found⟩
  | ok parts next =>
      have behind := header.ok counts found
      rw [bind_ok found]
      cases parts with
      | none =>
          simp only [Cursor.uncounted, found]
          exact ⟨total, rfl, behind⟩
      | some parts =>
          obtain ⟨tag, length⟩ := parts
          rw [uncounted_of_header found]
          simp only
          rw [leftBy_bind_pure]
          exact behind.skipBytes (headed_of_header found).peeked length

theorem counted_ask (counts : Counted total session.cursor) (request : Request) :
    ∃ rest, rest + session.uncounted request = total ∧
      Counted rest (session.ask request).2.cursor := by
  rw [cursor_ask]
  by_cases skip : request = .skip
  · subst skip
    simp only [Request.action]
    rw [leftBy_bind_pure]
    exact counted_skipElement? counts
  · have keeps := (tracked_counted total).keeps_request (fun stops counts => counts.outside stops)
      session.entered skip
    refine ⟨total, ?_, keeps.left counts⟩
    cases request <;> first | rfl | exact absurd rfl skip

theorem counted_after (counts : Counted total session.cursor) (requests : List Request) :
    ∃ rest, rest + session.lost requests = total ∧ Counted rest (session.after requests).cursor := by
  induction requests generalizing session total with
  | nil => exact ⟨total, rfl, counts⟩
  | cons request requests inductionHypothesis =>
      obtain ⟨middle, sum, counts⟩ := counted_ask counts request
      obtain ⟨rest, others, behind⟩ := inductionHypothesis counts
      refine ⟨rest, ?_, behind⟩
      simp only [lost]
      omega

theorem robust_suffix (content : Bytes) :
    Robust fun cursor => cursor.source.content <:+ content := by
  have gathered {cursor : Cursor} (count : Nat) :
      (cursor.source.gather count).source.content <:+ cursor.source.content :=
    ⟨_, (Source.accounts_gather cursor.source count).content⟩
  constructor
  · constructor
    · exact fun count before => (gathered count).trans before
    · exact fun before => before
    · exact fun before => before
    · exact fun before _ => (gathered 1).trans before
  · exact fun before _ => (gathered _).trans before

/-- What is left of a source is what it held, without a front that was taken. -/
theorem exists_taken (session : Session) (requests : List Request) :
    ∃ taken, session.cursor.source.content =
      taken ++ (session.after requests).cursor.source.content := by
  obtain ⟨taken, content⟩ := (robust_suffix session.cursor.source.content).after
    (fun _ before => before) (List.suffix_refl _) requests
  exact ⟨taken, content.symm⟩

/-! ### Positions -/

/-- The position tells how many bytes were taken from a source, a tag that was
only looked at left out. -/
def Accurate (session : Session) (source : Source) : Prop :=
  ∃ taken, source.content = taken ++ session.cursor.source.content ∧
    session.cursor.position + session.cursor.peeked.toList.length = taken.length

/-- The bytes that were taken are those in front of the position, the tag that
was looked at and those that were lost. -/
theorem position_add_lost (source : Source) (maximumSize maximumDepth : Option Nat)
    (requests : List Request) :
    let session := start source maximumSize maximumDepth
    let last := (session.after requests).cursor
    ∃ taken, source.content = taken ++ last.source.content ∧
      last.position + last.peeked.toList.length + session.lost requests = taken.length := by
  intro session last
  have start : Counted source.content.length session.cursor :=
    ⟨Nat.zero_add _, fun looked => by cases looked⟩
  obtain ⟨rest, sum, counts⟩ := counted_after start requests
  obtain ⟨taken, content⟩ : ∃ taken, source.content = taken ++ last.source.content :=
    exists_taken session requests
  refine ⟨taken, content, ?_⟩
  have position : last.position + last.unread.length = rest := counts.position
  rw [unread, List.length_append] at position
  rw [content, List.length_append] at sum
  omega

theorem accurate_iff_lost (source : Source) (maximumSize maximumDepth : Option Nat)
    (requests : List Request) :
    ((start source maximumSize maximumDepth).after requests).Accurate source ↔
      (start source maximumSize maximumDepth).lost requests = 0 := by
  obtain ⟨taken, content, counted⟩ := position_add_lost source maximumSize maximumDepth requests
  constructor
  · rintro ⟨other, alsoContent, position⟩
    obtain rfl : other = taken := List.append_cancel_right (alsoContent.symm.trans content)
    omega
  · intro none_lost
    exact ⟨taken, content, by omega⟩

theorem lost_of_unfailing (unfailing : session.cursor.source.Unfailing) (requests : List Request) :
    session.lost requests = 0 := by
  induction requests generalizing session with
  | nil => rfl
  | cons request requests inductionHypothesis =>
      have keeps := robust_unfailing.keeps_request (fun _ unfailing => unfailing)
        session.entered request
      have behind : (session.ask request).2.cursor.source.Unfailing := by
        rw [cursor_ask]
        exact keeps.left unfailing
      rw [lost, inductionHypothesis behind]
      cases request with
      | skip => exact uncounted_of_unfailing unfailing
      | _ => rfl

/-- Where no read fails, positions are those of the source. -/
theorem accurate_of_unfailing (unfailing : source.Unfailing) (maximumSize maximumDepth : Option Nat)
    (requests : List Request) :
    ((start source maximumSize maximumDepth).after requests).Accurate source :=
  (accurate_iff_lost source maximumSize maximumDepth requests).mpr
    (lost_of_unfailing unfailing requests)

/-- The bytes that were taken are those in front of the position, the tag that
was looked at and those that were lost.  So the position is right behind every
request just when no element was passed over in front of a read that fails
inside of its value. -/
theorem accurate_iff (source : Source) (maximumSize maximumDepth : Option Nat)
    (requests : List Request) :
    let session := start source maximumSize maximumDepth
    let last := (session.after requests).cursor
    (∃ taken, source.content = taken ++ last.source.content ∧
      last.position + last.peeked.toList.length + session.lost requests = taken.length) ∧
    ((∀ front, front <+: requests → (session.after front).Accurate source) ↔
      ∀ front, front ++ [.skip] <+: requests → (session.after front).cursor.uncounted = 0) := by
  intro session last
  have accurate (front : List Request) := accurate_iff_lost source maximumSize maximumDepth front
  refine ⟨position_add_lost source maximumSize maximumDepth requests, ?_, ?_⟩
  · intro always front skipped
    have none_lost := (accurate _).mp (always _ skipped)
    rw [lost_concat] at none_lost
    exact (Nat.add_eq_zero_iff.mp none_lost).2
  · intro counted front asked
    apply (accurate front).mpr
    -- Whatever was lost in front of the last request was lost by an earlier one.
    induction front using List.reverseRecOn with
    | nil => rfl
    | append_singleton front request inductionHypothesis =>
        have before := inductionHypothesis ((List.prefix_append front [request]).trans asked)
        rw [lost_concat, before, Nat.zero_add]
        cases request with
        | skip => exact counted front asked
        | _ => rfl

/-- A text of five bytes; reads fail behind the second one. -/
def brokenOff : Source :=
  ⟨[.bytes [0x04, 0x05, 0x61, 0x62]], some "lost"⟩

theorem not_accurate_brokenOff : ¬((start brokenOff).after [.skip]).Accurate brokenOff := by
  intro accurate
  have lost := (accurate_iff_lost brokenOff none none [.skip]).mp accurate
  revert lost
  decide +kernel

end DirectoryInterchange.Element.Cursor.Session
