import DirectoryInterchange.Proofs.Element.Breaking
import DirectoryInterchange.Proofs.Element.Enclosure

/-!
The end of the input and the containers that are open there.

Whoever meets the end in the middle of an element is told so.  Between two
elements nobody looks at the open containers: that there is nothing more is all
that is said, also where a container has lost its rest.
-/

namespace DirectoryInterchange.Element.Cursor

/-- Whether a request may be answered with nothing. -/
def Request.optional : Request → Bool
  | peek | element | skip => true
  | _ => false

/-- Whether a reply says that there is nothing more. -/
def Reply.endsInput : Reply → Bool
  | looked tag | skipped tag => tag.isNone
  | element found => found.isNone
  | _ => false

/-! ### Nothing more -/

section

variable {cursor : Cursor} {total : Nat}

theorem peek_none_iff (counts : Exact total cursor) :
    (∃ next, peek cursor = .ok none next) ↔ cursor.unread = [] := by
  cases looked : cursor.peeked with
  | some tag =>
      rw [peek_again looked, unread, looked]
      simp
  | none =>
      have ready : cursor.Ready := ⟨counts.steady, counts.ended, looked⟩
      rw [unread, looked, Option.toList_none, List.nil_append]
      cases content : cursor.source.content with
      | nil =>
          obtain ⟨next, -, peeked⟩ := peek_of_nil ready content
          exact ⟨fun _ => rfl, fun _ => ⟨next, peeked⟩⟩
      | cons tag following =>
          obtain ⟨next, -, -, peeked⟩ := peek_of_cons ready content
          rw [peeked]
          simp

theorem header_none_iff (counts : Exact total cursor) :
    (∃ next, header cursor = .ok none next) ↔ cursor.unread = [] := by
  constructor
  · rintro ⟨next, found⟩
    obtain ⟨tag, middle, tagged, rest⟩ := of_bind found
    cases unread : cursor.unread with
    | nil => rfl
    | cons first following =>
        obtain ⟨behind, count, -, -, read⟩ := readTag_of_cons counts.steady unread
        cases read.symm.trans tagged
        obtain ⟨length, last, -, rest⟩ := of_bind rest
        cases rest
  · intro unread
    obtain ⟨next, tagged⟩ := readTag_of_nil counts.steady counts.ended unread
    exact ⟨next, bind_ok tagged⟩

/-- What takes a value behind a header comes to nothing just when the header does. -/
theorem none_iff_of_header {Taken Value : Type} (take : Nat → Action Taken)
    (wrap : UInt8 → Taken → Value) :
    (∃ next, (header >>= fun found =>
        match found with
        | none => pure none
        | some (tag, length) => take length >>= fun value => pure (some (wrap tag value)))
          cursor = .ok none next) ↔
      ∃ next, header cursor = .ok none next := by
  constructor
  · rintro ⟨next, read⟩
    obtain ⟨found, middle, found_eq, rest⟩ := of_bind read
    cases found with
    | none => exact ⟨middle, found_eq⟩
    | some found =>
        obtain ⟨value, last, -, rest⟩ := of_bind rest
        cases rest
  · rintro ⟨next, found⟩
    exact ⟨next, bind_ok found⟩

theorem readElement?_none_iff :
    (∃ next, readElement? cursor = .ok none next) ↔ ∃ next, header cursor = .ok none next := by
  rw [readElement?_eq]
  exact none_iff_of_header takeBytes Element.mk

theorem skipElement?_none_iff :
    (∃ next, skipElement? cursor = .ok none next) ↔ ∃ next, header cursor = .ok none next := by
  rw [skipElement?_eq]
  exact none_iff_of_header skipBytes fun tag _ => tag

end

namespace Session

variable {session : Session} {request : Request} {total : Nat}

/-- The reply to a request that does nothing but wrap what an action answers. -/
theorem reply_of_wrapped {Value : Type} {action : Action Value} {wrap : Value → Reply}
    (wrapped : request.action session.entered = action >>= fun value => pure (wrap value)) :
    (session.ask request).1 =
      match action session.cursor with
      | .ok value _ => wrap value
      | .error error _ => .failed error := by
  cases ran : action session.cursor with
  | ok value next => rw [ask_of_ok ((congrFun wrapped _).trans (bind_ok ran))]
  | error error next => rw [ask_of_error ((congrFun wrapped _).trans (bind_error ran))]

theorem endsInput_of_optional {Value : Type} {action : Action (Option Value)}
    {wrap : Option Value → Reply}
    (wrapped : request.action session.entered = action >>= fun value => pure (wrap value))
    (ends : ∀ value, (wrap value).endsInput = value.isNone) :
    (session.ask request).1.endsInput = true ↔ ∃ next, action session.cursor = .ok none next := by
  rw [reply_of_wrapped wrapped]
  cases action session.cursor with
  | error error next => simp [Reply.endsInput]
  | ok value next => cases value <;> simp [ends]

theorem endsInput_of_wrapped {Value : Type} {action : Action Value} {wrap : Value → Reply}
    (wrapped : request.action session.entered = action >>= fun value => pure (wrap value))
    (never : ∀ value, (wrap value).endsInput = false) :
    (session.ask request).1.endsInput = false := by
  rw [reply_of_wrapped wrapped]
  cases action session.cursor with
  | error error next => rfl
  | ok value next => exact never value

/-- Nothing is answered just when no byte is left. -/
theorem endsInput_iff (counts : Exact total session.cursor) (request : Request) :
    (session.ask request).1.endsInput = true ↔
      request.optional = true ∧ session.cursor.unread = [] := by
  cases request with
  | peek =>
      rw [@endsInput_of_optional _ .peek _ _ _ rfl fun _ => rfl, peek_none_iff counts]
      simp [Request.optional]
  | element =>
      rw [@endsInput_of_optional _ .element _ _ _ rfl fun _ => rfl, readElement?_none_iff,
        header_none_iff counts]
      simp [Request.optional]
  | skip =>
      rw [@endsInput_of_optional _ .skip _ _ _ rfl fun _ => rfl, skipElement?_none_iff,
        header_none_iff counts]
      simp [Request.optional]
  | boolean | integer | long | null | octets | text | enter =>
      rw [endsInput_of_wrapped rfl fun _ => rfl]
      simp [Request.optional]
  | more index =>
      have never : (session.ask (.more index)).1.endsInput = false := by
        cases span : session.entered[index]? with
        | none => simp only [ask, Request.action, span, run_pure, Reply.endsInput]
        | some entered =>
            refine @endsInput_of_wrapped _ (.more index) _ (hasMore entered) .more ?_ fun _ => rfl
            simp only [Request.action, span]
      simp [never, Request.optional]

/-! ### Meeting the end -/

/-- The session on the source that fails where its own one ends. -/
def breaking (session : Session) (reason : String) : Session :=
  { session with cursor := session.cursor.breaking reason }

/-- A request that would fail if its source failed in place of ending. -/
def MeetsEnd (session : Session) (request : Request) : Prop :=
  ∀ reason, ((session.breaking reason).ask request).1 = .failed (.unreadable reason)

theorem heeds_action (entered : List Span) (request : Request) :
    Heeds (fun reply => reply.endsInput = true) (request.action entered) := by
  cases request with
  | peek =>
      refine heeds_peek.bind (fun _ => .pure _) ?_
      rintro _ rfl cursor
      rfl
  | element =>
      refine heeds_readElement?.bind (fun _ => .pure _) ?_
      rintro _ rfl cursor
      rfl
  | skip =>
      refine heeds_skipElement?.bind (fun _ => .pure _) ?_
      rintro _ rfl cursor
      rfl
  | boolean | integer | long | null | octets | text =>
      exact (heeds_readAs _).andThen fun _ => .pure _
  | enter => exact heeds_enter.andThen fun _ => .pure _
  | more index =>
      simp only [Request.action]
      cases entered[index]? with
      | none => exact .pure _
      | some span => exact (heeds_hasMore span).andThen fun _ => .pure _

/-- What is answered where a source fails is answered where it ends, or else
the end is reported there. -/
theorem reports_or_fails (ended : session.cursor.source.failure = none) {reason : String}
    (fails : ((session.breaking reason).ask request).1 = .failed (.unreadable reason)) :
    ((session.ask request).1.endsInput = true ∨
        ∃ needed available, (session.ask request).1 = .failed (.truncated needed available)) ∨
      (session.ask request).1 = .failed (.unreadable reason) := by
  have breaks := (heeds_action session.entered request).breaks reason ended
  simp only [ask, breaking] at fails ⊢
  generalize request.action session.entered session.cursor = left at breaks ⊢
  generalize request.action session.entered (session.cursor.breaking reason) = right at breaks fails
  cases breaks with
  | ok value ended => exact .inr fails
  | error error left right => exact .inr fails
  | met right reports =>
      left
      cases left with
      | ok value next => exact .inl reports
      | error error next =>
          obtain ⟨needed, available, rfl⟩ := reports
          exact .inr ⟨needed, available, rfl⟩

/-- A request that meets the end is answered with nothing or with an error that
says that something is truncated. -/
theorem reports_of_meetsEnd (ended : session.cursor.source.failure = none)
    (meets : session.MeetsEnd request) :
    (session.ask request).1.endsInput = true ∨
      ∃ needed available, (session.ask request).1 = .failed (.truncated needed available) := by
  -- No error tells of two different failures.
  rcases reports_or_fails ended (meets "") with reports | first
  · exact reports
  rcases reports_or_fails ended (meets "lost") with reports | second
  · exact reports
  have same := Error.unreadable.inj (Reply.failed.inj (first.symm.trans second))
  exact absurd same (by decide)

/-! ### Containers that are cut off -/

/-- No request says that there is nothing more while a container is open that
goes on there, and one that meets the end says that something is truncated then. -/
structure HeedsEnd (session : Session) : Prop where
  clean : ∀ request, (session.ask request).1.endsInput = true →
    ∀ span ∈ session.entered, span.stop ≤ (session.ask request).2.cursor.position
  truncated : ∀ request, session.MeetsEnd request →
    ∀ span ∈ session.entered, session.cursor.position < span.stop →
      ∃ needed available, (session.ask request).1 = .failed (.truncated needed available)

theorem Sound.heeds_iff (sound : Sound total session) :
    session.HeedsEnd ↔
      (session.cursor.unread = [] → ∀ span ∈ session.entered, span.stop ≤ total) := by
  have counts := sound.counts
  have here := counts.position
  constructor
  · intro heeds unread span member
    have ends := (endsInput_iff counts .peek).mpr ⟨rfl, unread⟩
    have stop_le := heeds.clean .peek ends span member
    have there := (sound.ask .peek).counts.position
    omega
  · intro clean
    constructor
    · intro request ends span member
      obtain ⟨optional, unread⟩ := (endsInput_iff counts request).mp ends
      have stop_le := clean unread span member
      have no_entry : request ≠ .enter := by
        rintro rfl
        cases optional
      have forward := (passes_request sound.enclosing no_entry).position
      rw [unread, List.length_nil] at here
      rw [cursor_ask]
      omega
    · intro request meets span member live
      rcases reports_of_meetsEnd counts.ended meets with ends | truncated
      · obtain ⟨-, unread⟩ := (endsInput_iff counts request).mp ends
        have stop_le := clean unread span member
        rw [unread, List.length_nil] at here
        omega
      · exact truncated

/-- Nothing is answered just when no byte is left, and whatever else meets the
end says that something is truncated.  So the end of the input is heeded, unless
all bytes are read and a container that was entered goes on behind them. -/
theorem heedsEnd_iff {source : Source} (steady : source.Steady) (ended : source.failure = none)
    (maximumSize maximumDepth : Option Nat) (requests : List Request) :
    let session := (start source maximumSize maximumDepth).after requests
    (∀ request, (session.ask request).1.endsInput = true ↔
      request.optional = true ∧ session.cursor.unread = []) ∧
    (∀ request, session.MeetsEnd request → (session.ask request).1.endsInput = true ∨
      ∃ needed available, (session.ask request).1 = .failed (.truncated needed available)) ∧
    (session.HeedsEnd ↔
      (session.cursor.unread = [] → ∀ span ∈ session.entered,
        span.stop ≤ source.content.length)) := by
  intro session
  have sound : Sound source.content.length session :=
    (Sound.start steady ended maximumSize maximumDepth).after requests
  refine ⟨endsInput_iff sound.counts, ?_, sound.heeds_iff⟩
  exact fun request meets => reports_of_meetsEnd sound.counts.ended meets

/-- A container of five bytes that ends behind the third one, in a text. -/
def cutShort : Source :=
  ⟨[.bytes [0x30, 0x05, 0x04, 0x03], .interrupted, .bytes [0x61]], none⟩

theorem heedsEnd_iff_cutShort :
    cutShort.Steady ∧ cutShort.failure = none
      ∧ ((start cutShort).after [.enter]).entered = [⟨0x30, 5, 7, 0⟩]
      ∧ ((start cutShort).after [.enter]).MeetsEnd .element
      ∧ (((start cutShort).after [.enter]).ask .element).1 = .failed (.truncated 3 1)
      ∧ ((start cutShort).after [.enter]).HeedsEnd :=
  ⟨by decide, rfl, by decide, fun reason => by rfl, by decide,
    (heedsEnd_iff (by decide) rfl none none [.enter]).2.2.mpr (by decide)⟩

/-- A container of five bytes that are all missing. -/
def emptied : Source :=
  ⟨[.bytes [0x30, 0x05]], none⟩

theorem not_heedsEnd_emptied : ¬((start emptied).after [.enter]).HeedsEnd := by
  intro heeds
  have stop_le := heeds.clean .element (by decide) ⟨0x30, 5, 7, 0⟩ (by decide)
  revert stop_le
  decide

end Session

end DirectoryInterchange.Element.Cursor
