import DirectoryInterchange.Proofs.Element.Header

/-!
Sources that fail where others end.

Whoever reads from such a source in place of one that ends sees the failure
just when the end would have been met.  Actions meet it in two ways: they come
to nothing, as when there is no further tag, or they say that something is
truncated.  Where neither happens, there is no difference between the two.
-/

namespace DirectoryInterchange.Element

/-- The source that delivers the same and fails where this one ends. -/
def Source.breaking (source : Source) (reason : String) : Source :=
  { source with failure := some reason }

namespace Source

theorem failure_gatherFrom (failure : Option String) (count : Nat) (events : List Event) :
    (gatherFrom failure count events).source.failure = failure := by
  fun_induction gatherFrom failure count events with
  | case1 | case5 | case6 | case8 => rfl
  | case2 count ends => exact ends.symm
  | case3 count reason fails => exact fails.symm
  | case4 count events inductionHypothesis => exact inductionHypothesis
  | case7 count byte chunk events exhausted rest inductionHypothesis => exact inductionHypothesis

/-- A loop of reads that does not meet the end of its source gathers the same. -/
theorem gatherFrom_breaking (reason : String) (count : Nat) (events : List Event) :
    gatherFrom (some reason) count events =
        { gatherFrom none count events with
          source := (gatherFrom none count events).source.breaking reason } ∨
      (gatherFrom none count events).stop = .ended ∧
        (gatherFrom (some reason) count events).stop = .failed reason := by
  fun_induction gatherFrom none count events with
  | case1 events =>
      left
      rw [gatherFrom]
      rfl
  | case2 count => exact .inr ⟨rfl, rfl⟩
  | case3 count other fails => cases fails
  | case4 count events inductionHypothesis =>
      rw [gatherFrom]
      exact inductionHypothesis
  | case5 count other events => exact .inl rfl
  | case6 count events => exact .inl rfl
  | case7 count byte chunk events exhausted rest inductionHypothesis =>
      simp only [gatherFrom, exhausted]
      rcases inductionHypothesis with same | met
      · left
        rw [same]
      · exact .inr met
  | case8 count byte chunk events remaining =>
      left
      rw [gatherFrom]
      cases left_over : chunk.drop count with
      | nil => exact absurd left_over remaining
      | cons first others => rfl

end Source

namespace Cursor

/-- The cursor on the source that fails where its own one ends. -/
def breaking (cursor : Cursor) (reason : String) : Cursor :=
  { cursor with source := cursor.source.breaking reason }

/-- What a loop of reads gathers with and without an end, unless it meets it. -/
theorem gather_breaking {cursor : Cursor} (ended : cursor.source.failure = none) (reason : String)
    (count : Nat) :
    (cursor.breaking reason).source.gather count =
        { cursor.source.gather count with
          source := (cursor.source.gather count).source.breaking reason } ∨
      (cursor.source.gather count).stop = .ended ∧
        ((cursor.breaking reason).source.gather count).stop = .failed reason := by
  simp only [Source.gather, ended]
  exact Source.gatherFrom_breaking reason count cursor.source.events

theorem ended_gather {cursor : Cursor} (ended : cursor.source.failure = none) (count : Nat) :
    (cursor.source.gather count).source.failure = none :=
  (Source.failure_gatherFrom _ _ _).trans ended

/-! ### Results with and without an end -/

/-- How a result reports the end of a source: by a value that is empty, or by
an error which says that something is truncated. -/
def ReportsEnd {Value : Type} (empty : Value → Prop) : EStateM.Result Error Cursor Value → Prop
  | .ok value _ => empty value
  | .error error _ => ∃ needed available, error = .truncated needed available

/-- The results of an action on a source that ends and on the one that breaks
off instead: they are the same, or the second is the failure and the first
reports the end. -/
inductive Breaks {Value : Type} (empty : Value → Prop) (reason : String) :
    EStateM.Result Error Cursor Value → EStateM.Result Error Cursor Value → Prop
  | ok (value : Value) {next : Cursor} (ended : next.source.failure = none) :
      Breaks empty reason (.ok value next) (.ok value (next.breaking reason))
  | error (error : Error) (left right : Cursor) :
      Breaks empty reason (.error error left) (.error error right)
  | met {left : EStateM.Result Error Cursor Value} (right : Cursor)
      (reports : ReportsEnd empty left) :
      Breaks empty reason left (.error (.unreadable reason) right)

/-- An action that reports the end of a source wherever it meets it. -/
structure Heeds {Value : Type} (empty : Value → Prop) (action : Action Value) : Prop where
  breaks : ∀ {cursor : Cursor} (reason : String), cursor.source.failure = none →
    Breaks empty reason (action cursor) (action (cursor.breaking reason))

/-- For values of which none is empty. -/
abbrev Never {Value : Type} (_ : Value) : Prop := False

namespace Heeds

variable {First Second : Type} {empty : First → Prop} {nothing : Second → Prop}

theorem pure (value : First) : Heeds empty (Pure.pure value : Action First) :=
  ⟨fun _ ended => .ok value ended⟩

theorem throw (error : Error) : Heeds empty (MonadExcept.throw error : Action First) :=
  ⟨fun _ _ => .error error _ _⟩

/-- What follows an empty value has to report the end as well. -/
theorem bind {action : Action First} {following : First → Action Second}
    (first : Heeds empty action) (rest : ∀ value, Heeds nothing (following value))
    (passed : ∀ value, empty value → ∀ cursor, ReportsEnd nothing (following value cursor)) :
    Heeds nothing (action >>= following) := by
  constructor
  intro cursor reason ended
  have breaks := first.breaks reason ended
  generalize leftRan : action cursor = left at breaks
  generalize rightRan : action (cursor.breaking reason) = right at breaks
  cases breaks with
  | ok value ended =>
      rw [bind_ok leftRan, bind_ok rightRan]
      exact (rest value).breaks reason ended
  | error error left right =>
      rw [bind_error leftRan, bind_error rightRan]
      exact .error error left right
  | met right reports =>
      rw [bind_error rightRan]
      refine .met right ?_
      cases left with
      | ok value next =>
          rw [bind_ok leftRan]
          exact passed value reports next
      | error error next =>
          rw [bind_error leftRan]
          exact reports

/-- Behind an action that has no empty value there is nothing more to report. -/
theorem andThen {action : Action First} {following : First → Action Second}
    (first : Heeds Never action) (rest : ∀ value, Heeds nothing (following value)) :
    Heeds nothing (action >>= following) :=
  first.bind rest fun _ never => never.elim

/-- An action may look at anything of a cursor but whether its source ends. -/
theorem look {following : Cursor → Action First}
    (blind : ∀ cursor reason, following (cursor.breaking reason) = following cursor)
    (each : ∀ cursor, Heeds empty (following cursor)) : Heeds empty (get >>= following) := by
  constructor
  intro cursor reason ended
  rw [run_get_bind, run_get_bind, blind]
  exact (each cursor).breaks reason ended

theorem modify {change : Cursor → Cursor}
    (kept : ∀ cursor, (change cursor).source = cursor.source)
    (apart : ∀ cursor reason, change (cursor.breaking reason) = (change cursor).breaking reason) :
    Heeds Never (modify change : Action Unit) := by
  constructor
  intro cursor reason ended
  show Breaks Never reason (.ok () (change cursor)) (.ok () (change (cursor.breaking reason)))
  rw [apart]
  exact .ok () ((congrArg Source.failure (kept cursor)).trans ended)

end Heeds

/-! ### Every action -/

/-- Whatever needs all bytes that it asks for heeds the end, wherever a failing
read leaves it. -/
theorem heeds_of_gather {Value : Type} {action : Action Value} {count : Nat}
    (value : Bytes → Value) (lost : Cursor → Cursor)
    (taken : ∀ cursor, action cursor =
      match (cursor.source.gather count).stop with
      | .enough => .ok (value (cursor.source.gather count).bytes) (cursor.behind count)
      | .ended =>
          .error (.truncated count (cursor.source.gather count).bytes.length)
            (cursor.behind count)
      | .failed reason => .error (.unreadable reason) (lost cursor)) :
    Heeds Never action := by
  constructor
  intro cursor reason ended
  have behind := ended_gather ended count
  rw [taken, taken]
  rcases gather_breaking ended reason count with same | ⟨met, fails⟩
  · simp only [Cursor.behind, same]
    cases (cursor.source.gather count).stop with
    | enough => exact .ok _ behind
    | ended | failed other => exact .error _ _ _
  · rw [met, fails]
    exact .met _ ⟨_, _, rfl⟩

theorem heeds_takeBytes (count : Nat) : Heeds Never (takeBytes count) :=
  heeds_of_gather id (·.behind count) (takeBytes_eq count)

theorem heeds_skipBytes (count : Nat) : Heeds Never (skipBytes count) :=
  heeds_of_gather (fun _ => ()) (fun cursor => cursor.past 0 (cursor.source.gather count).source)
    (skipBytes_eq count)

theorem heeds_takeByte? : Heeds (· = none) takeByte? := by
  constructor
  intro cursor reason ended
  have behind := ended_gather ended 1
  rw [takeByte?_eq, takeByte?_eq]
  rcases gather_breaking ended reason 1 with same | ⟨met, fails⟩
  · simp only [Cursor.behind, same]
    cases (cursor.source.gather 1).stop with
    | enough | ended => exact .ok _ behind
    | failed other => exact .error _ _ _
  · have short := (Source.accounts_gather cursor.source 1).short (by simp [met])
    have none_left := List.length_eq_zero_iff.mp (Nat.lt_one_iff.mp short)
    rw [met, fails]
    exact .met _ (congrArg List.head? none_left)

theorem heeds_peek : Heeds (· = none) peek := by
  have answer : Heeds (· = none) (get >>= fun cursor => pure cursor.peeked) :=
    .look (fun _ _ => rfl) fun _ => .pure _
  refine .look (fun _ _ => rfl) fun cursor => ?_
  cases cursor.peeked with
  | some tag => exact answer
  | none =>
      refine heeds_takeByte?.bind (fun byte => ?_) ?_
      · exact .andThen (.modify (fun _ => rfl) fun _ _ => rfl) fun _ => answer
      · rintro _ rfl cursor
        rfl

theorem heeds_readTag : Heeds (· = none) readTag := by
  refine .andThen (.modify (fun _ => rfl) fun _ _ => rfl) fun _ => ?_
  refine .look (fun _ _ => rfl) fun cursor => ?_
  cases cursor.peeked with
  | none => exact heeds_takeByte?
  | some tag => exact .andThen (.modify (fun _ => rfl) fun _ _ => rfl) fun _ => .pure _

theorem required_heeds : Required (Heeds Never) where
  pure := .pure
  throw := .throw
  bind := .andThen
  look blind := .look fun cursor _ => blind cursor _
  takeBytes := heeds_takeBytes
  require missing present := by
    refine heeds_takeByte?.bind (fun byte => ?_) ?_
    · cases byte with
      | none => exact missing ▸ .throw _
      | some byte => exact present byte
    · rintro _ rfl cursor
      exact missing ▸ ⟨_, _, rfl⟩

theorem heeds_header : Heeds (· = none) header := by
  refine heeds_readTag.bind (fun tag => ?_) ?_
  · cases tag with
    | none => exact .pure none
    | some tag => exact required_heeds.readLength.andThen fun length => .pure _
  · rintro _ rfl cursor
    rfl

theorem heeds_readElement? : Heeds (· = none) readElement? := by
  rw [readElement?_eq]
  refine heeds_header.bind (fun found => ?_) ?_
  · cases found with
    | none => exact .pure none
    | some found => exact (heeds_takeBytes found.2).andThen fun value => .pure _
  · rintro _ rfl cursor
    rfl

theorem heeds_skipElement? : Heeds (· = none) skipElement? := by
  rw [skipElement?_eq]
  refine heeds_header.bind (fun found => ?_) ?_
  · cases found with
    | none => exact .pure none
    | some found => exact (heeds_skipBytes found.2).andThen fun _ => .pure _
  · rintro _ rfl cursor
    rfl

theorem heeds_readAs {Value : Type} (decode : Bytes → Except Error Value) :
    Heeds Never (readAs decode) := by
  have required : Heeds Never readElement := by
    refine heeds_readElement?.bind (fun found => ?_) ?_
    · cases found with
      | none => exact .throw _
      | some element => exact .pure element
    · rintro _ rfl cursor
      exact ⟨_, _, rfl⟩
  refine required.andThen fun element => ?_
  cases decode element.value with
  | error error => exact .throw error
  | ok value => exact .pure value

theorem heeds_enter : Heeds Never enter := by
  refine heeds_readTag.bind (fun tag => ?_) ?_
  · cases tag with
    | none => exact .throw _
    | some tag =>
        refine required_heeds.readLength.andThen fun length => ⟨fun {cursor} reason ended => ?_⟩
        have depth : (cursor.breaking reason).maximumDepth = cursor.maximumDepth := rfl
        have ends : (cursor.breaking reason).ends = cursor.ends := rfl
        simp only [run_get_bind, depth, ends]
        split
        · exact .error _ _ _
        · exact .ok _ ended
  · rintro _ rfl cursor
    exact ⟨_, _, rfl⟩

/-- Asking for more needs no byte. -/
theorem heeds_hasMore (span : Span) : Heeds Never (hasMore span) := by
  constructor
  intro cursor reason ended
  have position : (cursor.breaking reason).position = cursor.position := rfl
  simp only [hasMore, run_get_bind, position]
  split
  · exact .ok true ended
  split
  · exact .error _ _ _
  · exact .ok false ended

end Cursor

end DirectoryInterchange.Element
