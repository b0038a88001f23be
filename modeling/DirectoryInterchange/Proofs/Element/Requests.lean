import DirectoryInterchange.Proofs.Element.Actions
import DirectoryInterchange.Proofs.Element.Pieces
import DirectoryInterchange.Proofs.Element.Stream

/-!
Whatever is asked of a cursor, request after request.

A request that fails leaves a cursor too, and the requests behind it go on
from there.  What is answered, where the cursor stands and what it has left to
take do not depend on the pieces in which a steady source delivers its
content: no action ever sees more of a source than what it gathers.
-/

namespace DirectoryInterchange.Element.Cursor

/-! ### Requests -/

inductive Request
  | peek
  | element
  | skip
  | boolean
  | integer
  | long
  | null
  | octets
  | text
  | enter
  /-- Whether the container has more that was entered as number `index`. -/
  | more (index : Nat)
  deriving DecidableEq, Repr

inductive Reply
  | looked (tag : Option UInt8)
  | element (element : Option Element)
  | skipped (tag : Option UInt8)
  | boolean (value : Bool)
  | number (value : Int)
  | null
  | octets (value : Bytes)
  | text (value : String)
  | entered (span : Span)
  | more (left : Bool)
  /-- No container of this number was entered. -/
  | unknown
  | failed (error : Error)
  deriving DecidableEq, Repr

/-- What a request does to a cursor that has entered some containers. -/
def Request.action (entered : List Span) : Request → Action Reply
  | peek => return .looked (← Cursor.peek)
  | element => return .element (← readElement?)
  | skip => return .skipped (← skipElement?)
  | boolean => return .boolean (← readBoolean)
  | integer => return .number (← readInteger).toInt
  | long => return .number (← readLong).toInt
  | null => do
      readNull
      return .null
  | octets => return .octets (← readOctets)
  | text => return .text (← readText)
  | enter => return .entered (← Cursor.enter)
  | more index =>
      match entered[index]? with
      | some span => return .more (← hasMore span)
      | none => return .unknown

def Reply.span? : Reply → Option Span
  | entered span => some span
  | _ => none

/-- A cursor with the containers that it has entered, the first one first. -/
structure Session where
  cursor : Cursor
  entered : List Span := []
  deriving DecidableEq, Repr

namespace Session

/-- A session with a source that was not touched yet. -/
def start (source : Source) (maximumSize maximumDepth : Option Nat := none) : Session :=
  { cursor := Cursor.start source maximumSize maximumDepth }

/-- The answer to a request, and what the request leaves. -/
def ask (session : Session) (request : Request) : Reply × Session :=
  match request.action session.entered session.cursor with
  | .ok reply next => (reply, ⟨next, session.entered ++ reply.span?.toList⟩)
  | .error error next => (.failed error, { session with cursor := next })

/-- The session behind some requests. -/
def after (session : Session) (requests : List Request) : Session :=
  requests.foldl (fun session request => (session.ask request).2) session

/-- What every request keeps is kept by all of them together. -/
theorem after_keeps {holds : Session → Prop}
    (step : ∀ {session} request, holds session → holds (session.ask request).2)
    {session : Session} (before : holds session) (requests : List Request) :
    holds (session.after requests) := by
  induction requests generalizing session with
  | nil => exact before
  | cons request requests inductionHypothesis => exact inductionHypothesis (step request before)

/-- What can be seen of one request. -/
structure Observation where
  reply : Reply
  position : Nat
  /-- The bytes that are still to be taken from the source. -/
  left : Bytes
  deriving DecidableEq, Repr

def observe (session : Session) : List Request → List Observation
  | [] => []
  | request :: requests =>
      let (reply, next) := session.ask request
      ⟨reply, next.cursor.position, next.cursor.source.content⟩ :: next.observe requests

end Session

/-! ### Indifferent actions -/

/-- Two cursors that differ at most in how their sources deliver what they hold. -/
structure Alike (left right : Cursor) : Prop where
  eq : right = { left with source := right.source }
  content : right.source.content = left.source.content
  failure : right.source.failure = left.source.failure
  left_steady : left.source.Steady
  right_steady : right.source.Steady

/-- The same answer or the same error, and cursors that are alike. -/
inductive SameResult {Value : Type} :
    EStateM.Result Error Cursor Value → EStateM.Result Error Cursor Value → Prop
  | ok (value : Value) {left right : Cursor} (alike : Alike left right) :
      SameResult (.ok value left) (.ok value right)
  | error (error : Error) {left right : Cursor} (alike : Alike left right) :
      SameResult (.error error left) (.error error right)

/-- An action that does not depend on how a source delivers what it holds. -/
structure Indifferent {Value : Type} (action : Action Value) : Prop where
  same : ∀ {left right : Cursor}, Alike left right → SameResult (action left) (action right)

/-- A change of anything but the source keeps cursors alike. -/
theorem Alike.change {left right : Cursor} (alike : Alike left right) (change : Cursor → Cursor)
    (kept : ∀ cursor, (change cursor).source = cursor.source)
    (apart : ∀ cursor source,
      change { cursor with source } = { change cursor with source }) :
    Alike (change left) (change right) := by
  refine ⟨?_, ?_, ?_, ?_, ?_⟩
  · rw [kept, ← apart, ← alike.eq]
  · rw [kept, kept, alike.content]
  · rw [kept, kept, alike.failure]
  · rw [kept]
    exact alike.left_steady
  · rw [kept]
    exact alike.right_steady

/-- What was gathered from alike cursors, and the cursors behind it. -/
theorem Alike.gather {left right : Cursor} (alike : Alike left right) (count : Nat) :
    (right.source.gather count).bytes = (left.source.gather count).bytes ∧
      (right.source.gather count).stop = (left.source.gather count).stop ∧
      ∀ taken, Alike (left.past taken (left.source.gather count).source)
        (right.past taken (right.source.gather count).source) := by
  have leftSupplies := Source.supplies_gather alike.left_steady count
  have rightSupplies := Source.supplies_gather alike.right_steady count
  have ending : right.source.ending = left.source.ending := by
    rw [Source.ending, alike.failure]
    rfl
  refine ⟨?_, ?_, fun taken => ⟨?_, ?_, ?_, leftSupplies.steady, rightSupplies.steady⟩⟩
  · rw [rightSupplies.bytes, leftSupplies.bytes, alike.content]
  · rw [rightSupplies.stop, leftSupplies.stop, alike.content, ending]
  · rw [past, alike.eq]
    rfl
  · exact rightSupplies.rest.trans (alike.content ▸ leftSupplies.rest.symm)
  · exact rightSupplies.failure.trans (alike.failure.trans leftSupplies.failure.symm)

namespace Indifferent

variable {First Second : Type}

theorem pure (value : First) : Indifferent (Pure.pure value : Action First) :=
  ⟨fun alike => .ok value alike⟩

theorem throw (error : Error) : Indifferent (MonadExcept.throw error : Action First) :=
  ⟨fun alike => .error error alike⟩

theorem bind {action : Action First} {following : First → Action Second}
    (first : Indifferent action) (rest : ∀ value, Indifferent (following value)) :
    Indifferent (action >>= following) := by
  constructor
  intro left right alike
  have same := first.same alike
  generalize leftRan : action left = leftResult at same
  generalize rightRan : action right = rightResult at same
  cases same with
  | ok value alike =>
      rw [bind_ok leftRan, bind_ok rightRan]
      exact (rest value).same alike
  | error error alike =>
      rw [bind_error leftRan, bind_error rightRan]
      exact .error error alike

/-- An action may look at the cursor when it is indifferent whatever it sees,
and sees the same of cursors that are alike. -/
theorem look {following : Cursor → Action First}
    (blind : ∀ cursor source, following { cursor with source } = following cursor)
    (each : ∀ cursor, Indifferent (following cursor)) : Indifferent (get >>= following) := by
  constructor
  intro left right alike
  have same : following right = following left := by rw [alike.eq, blind]
  rw [run_get_bind, run_get_bind, same]
  exact (each left).same alike

theorem modify {change : Cursor → Cursor}
    (kept : ∀ cursor, (change cursor).source = cursor.source)
    (apart : ∀ cursor source, change { cursor with source } = { change cursor with source }) :
    Indifferent (modify change : Action Unit) :=
  ⟨fun alike => .ok () (alike.change _ kept apart)⟩

end Indifferent

/-! ### Taking and skipping -/

theorem indifferent_takeBytes (count : Nat) : Indifferent (takeBytes count) := by
  constructor
  intro left right alike
  obtain ⟨bytes, stop, behind⟩ := alike.gather count
  rw [takeBytes_eq, takeBytes_eq, stop, Cursor.behind, Cursor.behind, bytes]
  cases (left.source.gather count).stop with
  | enough => exact .ok _ (behind _)
  | ended => exact .error _ (behind _)
  | failed reason => exact .error _ (behind _)

theorem indifferent_takeByte? : Indifferent takeByte? := by
  constructor
  intro left right alike
  obtain ⟨bytes, stop, behind⟩ := alike.gather 1
  rw [takeByte?_eq, takeByte?_eq, stop, Cursor.behind, Cursor.behind, bytes]
  cases (left.source.gather 1).stop with
  | enough => exact .ok _ (behind _)
  | ended => exact .ok _ (behind _)
  | failed reason => exact .error _ (behind _)

theorem skipBytes_eq (count : Nat) (cursor : Cursor) :
    skipBytes count cursor =
      match (cursor.source.gather count).stop with
      | .enough => .ok () (cursor.behind count)
      | .ended =>
          .error (.truncated count (cursor.source.gather count).bytes.length)
            (cursor.behind count)
      | .failed reason =>
          .error (.unreadable reason) (cursor.past 0 (cursor.source.gather count).source) := by
  have accounts := Source.accounts_gather cursor.source count
  simp only [skipBytes, run_get_bind, run_modify_bind, Source.pass_eq, Source.told]
  cases stop : (cursor.source.gather count).stop with
  | enough =>
      simp only [Nat.zero_add, run_modify_bind, accounts.full stop, Nat.lt_irrefl, if_false]
      rw [behind, accounts.full stop]
      rfl
  | ended =>
      have short := accounts.short (by simp [stop])
      simp only [Nat.zero_add, run_modify_bind, if_pos short]
      rfl
  | failed reason => rfl

theorem indifferent_skipBytes (count : Nat) : Indifferent (skipBytes count) := by
  constructor
  intro left right alike
  obtain ⟨bytes, stop, behind⟩ := alike.gather count
  rw [skipBytes_eq, skipBytes_eq, stop, Cursor.behind, Cursor.behind, bytes]
  cases (left.source.gather count).stop with
  | enough => exact .ok _ (behind _)
  | ended => exact .error _ (behind _)
  | failed reason => exact .error _ (behind 0)

/-! ### Every request -/

/-- Every request that neither skips an element nor enters or leaves a
container on purpose. -/
theorem Composed.action {admits : ∀ {Value : Type}, Action Value → Prop}
    (composed : Composed admits) {request : Request} (entered : List Span)
    (no_skip : request ≠ .skip) (no_entry : request ≠ .enter)
    (no_exit : ∀ index, request ≠ .more index) : admits (request.action entered) := by
  cases request with
  | peek => exact composed.bind composed.peek fun _ => composed.pure _
  | element => exact composed.bind composed.readElement? fun _ => composed.pure _
  | skip => exact absurd rfl no_skip
  | boolean | integer | long | null | octets | text =>
      exact composed.bind (composed.readAs _) fun _ => composed.pure _
  | enter => exact absurd rfl no_entry
  | more index => exact absurd rfl (no_exit index)

theorem Inherited.action {admits : ∀ {Value : Type}, Action Value → Prop}
    (inherited : Inherited admits) {request : Request} (entered : List Span)
    (no_entry : request ≠ .enter) (no_exit : ∀ index, request ≠ .more index) :
    admits (request.action entered) := by
  by_cases skip : request = .skip
  · subst skip
    exact inherited.bind inherited.skipElement? fun _ => inherited.pure _
  · exact inherited.toComposed.action entered skip no_entry no_exit

theorem indifferent_peek : Indifferent peek := by
  refine .look (fun _ _ => rfl) fun cursor => ?_
  have answer : Indifferent (get >>= fun cursor => pure cursor.peeked) :=
    .look (fun _ _ => rfl) fun _ => .pure _
  cases cursor.peeked with
  | none =>
      refine .bind indifferent_takeByte? fun byte => ?_
      exact .bind (.modify (fun _ => rfl) fun _ _ => rfl) fun _ => answer
  | some tag => exact answer

theorem indifferent_readTag : Indifferent readTag := by
  refine .bind (.modify (fun _ => rfl) fun _ _ => rfl) fun _ => ?_
  refine .look (fun _ _ => rfl) fun cursor => ?_
  cases cursor.peeked with
  | none => exact indifferent_takeByte?
  | some tag => exact .bind (.modify (fun _ => rfl) fun _ _ => rfl) fun _ => .pure _

theorem inherited_indifferent : Inherited Indifferent where
  pure := Indifferent.pure
  throw := Indifferent.throw
  bind := Indifferent.bind
  look := Indifferent.look
  takeBytes := indifferent_takeBytes
  takeByte? := indifferent_takeByte?
  skipBytes := indifferent_skipBytes
  peek := indifferent_peek
  readTag := indifferent_readTag

/-- Behind its header a container is entered in the same way. -/
theorem indifferent_enter : Indifferent enter := by
  refine .bind indifferent_readTag fun tag => ?_
  cases tag with
  | none => exact .throw _
  | some tag =>
      refine .bind inherited_indifferent.readLength fun length => ⟨fun {left right} alike => ?_⟩
      have inside (stop : Nat) : Alike { left with ends := stop :: left.ends }
          { right with ends := stop :: right.ends } :=
        alike.change (fun cursor => { cursor with ends := stop :: cursor.ends })
          (fun _ => rfl) fun _ _ => rfl
      have position : right.position = left.position := by rw [alike.eq]; rfl
      have ends : right.ends = left.ends := by rw [alike.eq]
      have depth : right.maximumDepth = left.maximumDepth := by rw [alike.eq]
      simp only [run_get_bind, position, ends, depth] at inside ⊢
      split
      · exact .error _ alike
      · exact .ok _ (inside _)

theorem indifferent_hasMore (span : Span) : Indifferent (hasMore span) := by
  constructor
  intro left right alike
  have outside (count : Nat) : Alike { left with ends := left.ends.drop count }
      { right with ends := right.ends.drop count } :=
    alike.change (fun cursor => { cursor with ends := cursor.ends.drop count })
      (fun _ => rfl) fun _ _ => rfl
  have position : right.position = left.position := by rw [alike.eq]; rfl
  have ends : right.ends = left.ends := by rw [alike.eq]
  simp only [hasMore, run_get_bind, position, ends] at outside ⊢
  split
  · exact .ok true alike
  split
  · exact .error _ alike
  · exact .ok false (outside _)

theorem indifferent_action (entered : List Span) (request : Request) :
    Indifferent (request.action entered) := by
  by_cases entry : request = .enter
  · subst entry
    exact .bind indifferent_enter fun _ => .pure _
  by_cases exit : ∃ index, request = .more index
  · obtain ⟨index, rfl⟩ := exit
    simp only [Request.action]
    cases entered[index]? with
    | none => exact .pure _
    | some span => exact .bind (indifferent_hasMore span) fun _ => .pure _
  · exact inherited_indifferent.action entered entry fun index more => exit ⟨index, more⟩

/-! ### Request after request -/

namespace Session

/-- Sessions with the same containers and with cursors that are alike. -/
structure Alike (left right : Session) : Prop where
  cursor : Cursor.Alike left.cursor right.cursor
  entered : right.entered = left.entered

theorem Alike.start {left right : Source} (leftSteady : left.Steady) (rightSteady : right.Steady)
    (content : right.content = left.content) (failure : right.failure = left.failure)
    (maximumSize maximumDepth : Option Nat) :
    Alike (.start left maximumSize maximumDepth) (.start right maximumSize maximumDepth) :=
  ⟨⟨rfl, content, failure, leftSteady, rightSteady⟩, rfl⟩

/-- One request is answered the same and leaves sessions that are alike. -/
theorem Alike.ask {left right : Session} (alike : Alike left right) (request : Request) :
    (right.ask request).1 = (left.ask request).1
      ∧ Alike (left.ask request).2 (right.ask request).2 := by
  have same := (indifferent_action left.entered request).same alike.cursor
  simp only [Session.ask, alike.entered]
  generalize request.action left.entered left.cursor = leftResult at same ⊢
  generalize request.action left.entered right.cursor = rightResult at same ⊢
  cases same with
  | ok reply cursors => exact ⟨rfl, cursors, rfl⟩
  | error error cursors => exact ⟨rfl, cursors, rfl⟩

theorem Alike.position {left right : Session} (alike : Alike left right) :
    right.cursor.position = left.cursor.position := by
  rw [alike.cursor.eq]
  rfl

theorem Alike.observe {left right : Session} (alike : Alike left right)
    (requests : List Request) : left.observe requests = right.observe requests := by
  induction requests generalizing left right with
  | nil => rfl
  | cons request requests inductionHypothesis =>
      obtain ⟨reply, behind⟩ := alike.ask request
      have others := inductionHypothesis behind
      simp only [Session.observe, reply, behind.position, behind.cursor.content, others]

/-- Whatever is asked of a cursor, two sources that hold the same bytes and end
in the same way show the same, however they deliver their bytes. -/
theorem observe_delivered {left right : Source}
    (leftSteady : left.Steady) (rightSteady : right.Steady)
    (content : right.content = left.content) (failure : right.failure = left.failure)
    (maximumSize maximumDepth : Option Nat) (requests : List Request) :
    (start left maximumSize maximumDepth).observe requests
      = (start right maximumSize maximumDepth).observe requests :=
  (Alike.start leftSteady rightSteady content failure maximumSize maximumDepth).observe requests

/-- An integer with a long length field and the front of a text, inside of a
container and in front of a failure. -/
def undivided : Source :=
  ⟨[.bytes [0x30, 0x0B, 0x02, 0x81, 0x01, 0x2A, 0x04, 0x05, 0x61]], some "lost"⟩

/-- The same bytes, cut inside of both headers. -/
def divided : Source :=
  ⟨[.interrupted, .bytes [0x30], .bytes [0x0B, 0x02, 0x81], .interrupted, .interrupted,
    .bytes [0x01, 0x2A, 0x04], .bytes [0x05, 0x61], .interrupted], some "lost"⟩

theorem observe_delivered_divided :
    undivided.Steady ∧ divided.Steady ∧ divided.content = undivided.content
      ∧ divided.failure = undivided.failure
      ∧ (start undivided).observe [.peek, .enter, .integer, .peek, .skip, .more 0, .element]
        = (start divided).observe [.peek, .enter, .integer, .peek, .skip, .more 0, .element]
      ∧ (start divided).observe [.enter, .integer, .skip] =
        [⟨.entered ⟨0x30, 11, 13, 0⟩, 2, [0x02, 0x81, 0x01, 0x2A, 0x04, 0x05, 0x61]⟩,
          ⟨.number 42, 6, [0x04, 0x05, 0x61]⟩, ⟨.failed (.unreadable "lost"), 8, []⟩] :=
  ⟨by decide, by decide, rfl, rfl,
    @observe_delivered undivided divided (by decide) (by decide) rfl rfl none none _,
    by decide +kernel⟩

end Session

end DirectoryInterchange.Element.Cursor
