import DirectoryInterchange.Proofs.Element.Nesting

/-!
What a walk meets next, between two elements of a source.

Between two elements a cursor holds no tag and knows where the containers
around it end.  The bytes up to the innermost of these ends are what is left
of the container, and what is met is the first element of just these.
-/

namespace DirectoryInterchange.Element

namespace Cursor

/-- A cursor between two elements of a source that delivers all of its content. -/
structure Ready (cursor : Cursor) : Prop where
  steady : cursor.source.Steady
  ended : cursor.source.failure = none
  peeked : cursor.peeked = none

/-- `bytes` are left of the innermost container, or of everything when no
container is open. -/
structure Left (cursor : Cursor) (bytes behind : Bytes) : Prop where
  content : cursor.source.content = bytes ++ behind
  outermost : cursor.ends = [] → behind = []
  innermost : ∀ stop ∈ cursor.ends.head?, stop = cursor.consumed + bytes.length

/-- The cursor when it has left the innermost container. -/
def outside (cursor : Cursor) : Cursor :=
  { cursor with ends := cursor.ends.tail }

/-- The cursor when it has entered a container. -/
def inside (cursor : Cursor) (span : Span) : Cursor :=
  { cursor with ends := span.stop :: cursor.ends }

section

variable {cursor next : Cursor} {count : Nat}

theorem Ready.of_took (ready : cursor.Ready) (took : cursor.Took count next) : next.Ready where
  steady := took.steady
  ended := took.failure.trans ready.ended
  peeked := took.peeked.trans ready.peeked

theorem Ready.position (ready : cursor.Ready) : cursor.position = cursor.consumed := by
  simp [Cursor.position, ready.peeked]

theorem Took.consumed (took : cursor.Took count next) :
    next.consumed = cursor.consumed + count := by
  rw [took.eq]
  rfl

theorem Took.maximumDepth (took : cursor.Took count next) :
    next.maximumDepth = cursor.maximumDepth := by
  rw [took.eq]
  rfl

theorem Took.outside (took : cursor.Took count next) :
    cursor.outside.Took count next.outside where
  eq := by rw [Cursor.outside, took.eq]; rfl
  content := took.content
  failure := took.failure
  steady := took.steady

/-! ### Looking and reading -/

theorem peek_of_cons (ready : cursor.Ready) {tag : UInt8} {following : Bytes}
    (content : cursor.source.content = tag :: following) :
    ∃ next, cursor.Took 1 next ∧ next.source.content = following ∧
      peek cursor = .ok (some tag) { next with peeked := some tag } := by
  obtain ⟨next, took, taken⟩ := takeByte?_of_cons ready.steady content
  refine ⟨next, took, by rw [took.content, content]; rfl, ?_⟩
  simp only [peek, run_get_bind, ready.peeked, Option.isNone_none, if_true]
  rw [bind_ok taken]
  rfl

theorem peek_of_nil (ready : cursor.Ready) (content : cursor.source.content = []) :
    ∃ next, cursor.Took 0 next ∧ peek cursor = .ok none next := by
  obtain ⟨next, took, taken⟩ := takeByte?_of_nil ready.steady ready.ended content
  refine ⟨next, took, ?_⟩
  have same : { next with peeked := none } = next := by
    rw [← took.peeked.trans ready.peeked]
  simp only [peek, run_get_bind, ready.peeked, Option.isNone_none, if_true]
  rw [bind_ok taken]
  simp only [run_modify_bind, run_get_bind, same, took.peeked.trans ready.peeked]
  rfl

theorem peek_again {tag : UInt8} (peeked : cursor.peeked = some tag) :
    peek cursor = .ok (some tag) cursor := by
  simp only [peek, run_get_bind, peeked, Option.isNone_some, Bool.false_eq_true, if_false]
  rfl

/-- Reading the tag that was looked at does not leave a container that has not
come to its end. -/
theorem readTag_of_peeked (ready : cursor.Ready) (took : cursor.Took 1 next) (tag : UInt8)
    (within : ∀ stop ∈ cursor.ends.head?, cursor.consumed < stop) :
    readTag { next with peeked := some tag } = .ok (some tag) next := by
  have kept : next.ends.dropWhile (· ≤ next.consumed - 1) = next.ends := by
    rw [took.ends, took.consumed, Nat.add_sub_cancel]
    cases ends : cursor.ends with
    | nil => rfl
    | cons stop outer =>
        have := within stop (by rw [ends]; rfl)
        rw [List.dropWhile_cons_of_neg (by simpa using this)]
  have same : { next with ends := next.ends, peeked := none } = next := by
    rw [← took.peeked.trans ready.peeked]
  simp only [readTag, run_modify_bind, run_get_bind, Cursor.position, Option.isSome_some, if_true,
    kept, same]
  rfl

theorem readLength_of_room {middle : Cursor} {length : Nat} (ready : next.Ready)
    (read : readLengthField middle = .ok length next) (fits : length ≤ next.maximumSize)
    (room : ∀ stop ∈ next.ends.head?, next.consumed + length ≤ stop) :
    readLength middle = .ok length next := by
  have sized : requireSize length next = .ok ⟨⟩ next := by
    simp only [requireSize, run_get_bind, if_neg (Nat.not_lt.mpr fits), run_pure]
  have roomy : requireRoom length next = .ok ⟨⟩ next := by
    simp only [requireRoom, run_get_bind]
    cases ends : next.ends with
    | nil => rfl
    | cons stop outer =>
        have := room stop (by rw [ends]; rfl)
        simp only [ready.position]
        rw [if_neg (by omega)]
        rfl
  rw [readLength, bind_ok read, bind_ok sized, bind_ok roomy, run_pure]

theorem of_requireRoom {length : Nat} {done : Unit}
    (roomy : requireRoom length cursor = .ok done next) : next = cursor := by
  simp only [requireRoom, run_get_bind] at roomy
  cases ends : cursor.ends with
  | nil =>
      simp only [ends] at roomy
      cases roomy
      rfl
  | cons stop outer =>
      simp only [ends] at roomy
      split at roomy <;> cases roomy
      rfl

/-- A length that is read is that of the length field, within the limit. -/
theorem of_readLength (ready : cursor.Ready) {length : Nat}
    (read : readLength cursor = .ok length next) :
    ∃ content count, Length.decode cursor.source.content = .ok (length, content) ∧
      cursor.Took count next ∧ count + content.length = cursor.source.content.length ∧
      next.source.content = content ∧ length ≤ cursor.maximumSize := by
  cases decoded : Length.decode cursor.source.content with
  | error error =>
      obtain ⟨stopped, field⟩ := readLengthField_of_error ready.steady ready.ended decoded
      rw [readLength_of_error field] at read
      cases read
  | ok parts =>
      obtain ⟨declared, content⟩ := parts
      obtain ⟨middle, took, rest, field⟩ := readLengthField_of_ok ready.steady decoded
      by_cases large : middle.maximumSize < declared
      · rw [readLength_of_large field large] at read
        cases read
      · have sized : requireSize declared middle = .ok ⟨⟩ middle := by
          simp only [requireSize, run_get_bind, if_neg large, run_pure]
        have shorter := Length.length_rest_lt_of_decode decoded
        have same : length = declared ∧ next = middle := by
          rw [readLength, bind_ok field, bind_ok sized] at read
          cases roomy : requireRoom declared middle with
          | error error stopped => rw [bind_error roomy] at read; cases read
          | ok done left =>
              rw [bind_ok roomy] at read
              cases read
              exact ⟨rfl, of_requireRoom roomy⟩
        obtain ⟨rfl, rfl⟩ := same
        refine ⟨content, _, rfl, took, by omega, rest, ?_⟩
        rw [← took.maximumSize]
        omega

/-! ### Behind a tag -/

section

variable {looked middle last : Cursor} {tag : UInt8}

/-- Behind its tag and its length a container is entered, if it is not too deep. -/
theorem enter_of_length {length : Nat} (ready : next.Ready)
    (tagged : readTag looked = .ok (some tag) middle)
    (sized : readLength middle = .ok length next) :
    enter looked =
      if next.maximumDepth ≤ next.ends.length then
        .error (.nestingTooDeep next.maximumDepth) next
      else
        let span : Span := ⟨tag, length, next.consumed + length, next.ends.length⟩
        .ok span (next.inside span) := by
  rw [enter, bind_ok tagged]
  simp only
  rw [bind_ok sized]
  simp only [run_get_bind, ready.position]
  split <;> rfl

theorem readElement_of_length {length : Nat} {value : Bytes}
    (tagged : readTag looked = .ok (some tag) middle)
    (sized : readLength middle = .ok length next)
    (taken : takeBytes length next = .ok value last) :
    readElement looked = .ok ⟨tag, value⟩ last := by
  have element : readElement? looked = .ok (some ⟨tag, value⟩) last := by
    rw [readElement?, bind_ok tagged]
    simp only
    rw [bind_ok sized, bind_ok taken]
    rfl
  rw [readElement, bind_ok element]
  rfl

theorem of_enter (ready : middle.Ready) (tagged : readTag looked = .ok (some tag) middle)
    {span : Span} (entered : enter looked = .ok span last) :
    ∃ length count next,
      Length.decode middle.source.content = .ok (length, next.source.content) ∧
      middle.Took count next ∧
      count + next.source.content.length = middle.source.content.length ∧
      length ≤ middle.maximumSize ∧ middle.ends.length < middle.maximumDepth ∧
      span = ⟨tag, length, next.consumed + length, next.ends.length⟩ ∧
      last = next.inside span := by
  cases sized : readLength middle with
  | error error stopped =>
      rw [enter, bind_ok tagged] at entered
      cases (bind_error sized).symm.trans entered
  | ok length next =>
      obtain ⟨_, count, decoded, took, counted, rfl, small⟩ := of_readLength ready sized
      rw [enter_of_length (ready.of_took took) tagged sized] at entered
      split at entered
      · cases entered
      · next shallow =>
          cases entered
          rw [took.ends, took.maximumDepth] at shallow
          exact ⟨length, count, next, decoded, took, counted, small, by omega, rfl, rfl⟩

theorem of_readElement (ready : middle.Ready) (tagged : readTag looked = .ok (some tag) middle)
    {element : Element} (read : readElement looked = .ok element last) :
    ∃ count, element.tag = tag ∧
      Length.decode middle.source.content =
        .ok (element.value.length, element.value ++ last.source.content) ∧
      middle.Took count last ∧
      count + last.source.content.length = middle.source.content.length ∧
      element.value.length ≤ middle.maximumSize := by
  cases sized : readLength middle with
  | error error stopped =>
      have failed : readElement? looked = .error error stopped := by
        rw [readElement?, bind_ok tagged]
        exact bind_error sized
      rw [readElement, bind_error failed] at read
      cases read
  | ok length next =>
      obtain ⟨_, count, decoded, took, counted, rfl, small⟩ := of_readLength ready sized
      have nextReady := ready.of_took took
      by_cases short : next.source.content.length < length
      · obtain ⟨stopped, -, incomplete⟩ := takeBytes_of_lt nextReady.steady nextReady.ended short
        have failed : readElement? looked =
            .error (.truncated length next.source.content.length) stopped := by
          rw [readElement?, bind_ok tagged]
          simp only
          rw [bind_ok sized, bind_error incomplete]
        rw [readElement, bind_error failed] at read
        cases read
      · obtain ⟨behind, tookValue, taken⟩ :=
          takeBytes_of_le nextReady.steady length (Nat.le_of_not_lt short)
        rw [readElement_of_length tagged sized taken] at read
        cases read
        have length_eq : (next.source.content.take length).length = length := by
          rw [List.length_take]
          omega
        refine ⟨_, rfl, ?_, took.trans tookValue, ?_, by rwa [length_eq]⟩
        · rw [length_eq, tookValue.content, List.take_append_drop]
          exact decoded
        · rw [tookValue.content, List.length_drop]
          omega

end

end

end Cursor

/-! ### Meeting the next element -/

namespace Outline

open Cursor

/-- The container that is walked through is the innermost of those that end
at `ends`. -/
inductive Innermost : Option Span → List Nat → Prop
  | everything : Innermost none []
  | container {span : Span} {outer : List Nat} (depth : span.depth = outer.length) :
      Innermost (some span) (span.stop :: outer)

section

variable {container : Option Span} {cursor : Cursor}

theorem meet_of_end (ready : cursor.Ready) (innermost : Innermost container cursor.ends)
    {behind : Bytes} (left : cursor.Left [] behind) :
    ∃ next, cursor.outside.Took 0 next ∧ meet container cursor = .ok none next := by
  generalize ends : cursor.ends = stops at innermost
  cases innermost with
  | everything =>
      have content : cursor.source.content = [] := by
        rw [left.content, left.outermost ends]
        rfl
      obtain ⟨next, took, looked⟩ := peek_of_nil ready content
      have same : cursor.outside = cursor := by
        rw [Cursor.outside, ends, List.tail_nil, ← ends]
      rw [same]
      refine ⟨next, took, ?_⟩
      exact bind_ok looked
  | @container span outer depth =>
      have atEnd : span.stop = cursor.consumed := left.innermost _ (by rw [ends]; rfl)
      have more : hasMore span cursor = .ok false cursor.outside := by
        simp only [hasMore, run_get_bind, ready.position, atEnd, Nat.lt_irrefl, if_false]
        simp [Cursor.outside, ends, depth]
        rfl
      refine ⟨cursor.outside, ⟨rfl, rfl, rfl, ready.steady⟩, ?_⟩
      rw [meet]
      exact bind_ok more

/-- What `meet` comes to when there is something left and a tag is next. -/
theorem meet_of_cons (ready : cursor.Ready) (innermost : Innermost container cursor.ends)
    (within : ∀ stop ∈ cursor.ends.head?, cursor.consumed < stop)
    {tag : UInt8} {following : Bytes} (content : cursor.source.content = tag :: following) :
    ∃ looked next, cursor.Took 1 next ∧ next.source.content = following ∧
      readTag looked = .ok (some tag) next ∧
      meet container cursor =
        (if Tag.isConstructed tag then do return some (.inl (← enter))
        else do return some (.inr (← readElement)) : Action (Option (Span ⊕ Element))) looked := by
  obtain ⟨next, took, rest, looked⟩ := peek_of_cons ready content
  refine ⟨_, next, took, rest, readTag_of_peeked ready took tag within, ?_⟩
  have again := @peek_again { next with peeked := some tag } tag rfl
  generalize ends : cursor.ends = stops at innermost
  cases innermost with
  | everything => exact (bind_ok looked).trans ((bind_ok (run_pure _ _)).trans (bind_ok again))
  | @container span outer depth =>
      have before : cursor.consumed < span.stop := within _ (by rw [ends]; rfl)
      have more : hasMore span cursor = .ok true cursor := by
        simp only [hasMore, run_get_bind, ready.position, before, if_true]
        rfl
      exact (bind_ok more).trans (bind_ok looked)

theorem length_lt_of_field
    {bytes following content : Bytes} {tag : UInt8} {length : Nat}
    (spelled : bytes = tag :: following)
    (decoded : Length.decode following = .ok (length, content)) :
    content.length < bytes.length := by
  have shorter := Length.length_rest_lt_of_decode decoded
  rw [spelled, List.length_cons]
  omega

/-- What a successful `meet` has done. -/
inductive Meeting (cursor : Cursor) : Option (Span ⊕ Element) → Cursor → Prop
  | finished {next : Cursor} {behind : Bytes} (left : cursor.Left [] behind)
      (took : cursor.outside.Took 0 next) : Meeting cursor none next
  | entered {next : Cursor} {tag : UInt8} {following : Bytes} {length count : Nat}
      (spelled : cursor.source.content = tag :: following)
      (decoded : Length.decode following = .ok (length, next.source.content))
      (took : cursor.Took count next)
      (counted : count + next.source.content.length = cursor.source.content.length)
      (constructed : Tag.isConstructed tag) (small : length ≤ cursor.maximumSize)
      (shallow : cursor.ends.length < cursor.maximumDepth)
      {span : Span} (span_eq : span = ⟨tag, length, next.consumed + length, next.ends.length⟩) :
      Meeting cursor (some (.inl span)) (next.inside span)
  | read {next : Cursor} {element : Element} {count : Nat}
      (first : decodeFirst cursor.source.content = .ok (element, next.source.content))
      (took : cursor.Took count next)
      (counted : count + next.source.content.length = cursor.source.content.length)
      (primitive : ¬element.isConstructed) (small : element.value.length ≤ cursor.maximumSize) :
      Meeting cursor (some (.inr element)) next

theorem meeting_of_cons (ready : cursor.Ready) (innermost : Innermost container cursor.ends)
    (within : ∀ stop ∈ cursor.ends.head?, cursor.consumed < stop)
    {tag : UInt8} {following : Bytes} (content : cursor.source.content = tag :: following)
    {what : Option (Span ⊕ Element)} {last : Cursor}
    (met : meet container cursor = .ok what last) : Meeting cursor what last := by
  obtain ⟨looked, tagged, tookTag, rest, readTagged, met_eq⟩ :=
    meet_of_cons ready innermost within content
  have taggedReady := ready.of_took tookTag
  have content_length : cursor.source.content.length = 1 + tagged.source.content.length := by
    rw [content, List.length_cons, rest, Nat.add_comm]
  rw [met_eq] at met
  by_cases constructed : Tag.isConstructed tag
  · rw [if_pos constructed] at met
    cases entered : enter looked with
    | error error stopped => cases (bind_error entered).symm.trans met
    | ok span inner =>
        obtain ⟨length, count, next, decoded, took, counted, small, shallow, span_eq, rfl⟩ :=
          of_enter taggedReady readTagged entered
        cases (bind_ok entered).symm.trans met
        rw [tookTag.maximumSize] at small
        rw [tookTag.ends, tookTag.maximumDepth] at shallow
        exact .entered content (rest ▸ decoded) (tookTag.trans took) (by omega) constructed small
          shallow span_eq
  · rw [if_neg constructed] at met
    cases read : readElement looked with
    | error error stopped => cases (bind_error read).symm.trans met
    | ok element next =>
        obtain ⟨count, rfl, decoded, took, counted, small⟩ :=
          of_readElement taggedReady readTagged read
        cases (bind_ok read).symm.trans met
        rw [tookTag.maximumSize] at small
        exact .read (decodeFirst_eq_ok.mpr ⟨following, content, rest ▸ decoded⟩)
          (tookTag.trans took) (by omega) constructed small

theorem meeting_of_ok (ready : cursor.Ready) (innermost : Innermost container cursor.ends)
    {what : Option (Span ⊕ Element)} {last : Cursor}
    (met : meet container cursor = .ok what last) : Meeting cursor what last := by
  generalize stops_eq : cursor.ends = stops at innermost
  cases innermost with
  | everything =>
      have innermost : Innermost none cursor.ends := stops_eq ▸ .everything
      cases content : cursor.source.content with
      | nil =>
          have left : cursor.Left [] [] := ⟨content, fun _ => rfl, by simp [stops_eq]⟩
          obtain ⟨next, took, ended⟩ := meet_of_end ready innermost left
          cases ended.symm.trans met
          exact .finished left took
      | cons tag following =>
          exact meeting_of_cons ready innermost (by simp [stops_eq]) content met
  | @container span outer depth =>
      have innermost : Innermost (some span) cursor.ends := stops_eq ▸ .container depth
      rcases Nat.lt_trichotomy cursor.consumed span.stop with before | atEnd | beyond
      · cases content : cursor.source.content with
        | nil =>
            have more : hasMore span cursor = .ok true cursor := by
              simp only [hasMore, run_get_bind, ready.position, before, if_true]
              rfl
            obtain ⟨next, -, looked⟩ := peek_of_nil ready content
            cases ((bind_ok more).trans (bind_ok looked)).symm.trans met
        | cons tag following =>
            exact meeting_of_cons ready innermost (by simpa [stops_eq] using before) content met
      · have left : cursor.Left [] cursor.source.content :=
          ⟨rfl, by simp [stops_eq], by simp [stops_eq, atEnd]⟩
        obtain ⟨next, took, ended⟩ := meet_of_end ready innermost left
        cases ended.symm.trans met
        exact .finished left took
      · have past : hasMore span cursor =
            .error (.readPastEnd span.stop cursor.consumed) cursor := by
          simp only [hasMore, run_get_bind, ready.position]
          rw [if_neg (by omega), if_pos beyond]
          rfl
        cases (bind_error past).symm.trans met

/-- What is met where an element and `rest` are left. -/
inductive MeetingFirst (cursor : Cursor) (element : Element) (front rest behind : Bytes) :
    Span ⊕ Element → Cursor → Prop
  | entered {next : Cursor} {span : Span} {count : Nat}
      (described : span.tag = element.tag ∧ span.length = element.value.length)
      (outside : span.depth = next.ends.length) (took : cursor.Took count next)
      (counted : count + element.value.length = front.length)
      (shorter : next.source.content.length < cursor.source.content.length)
      (constructed : element.isConstructed)
      (left : (next.inside span).Left element.value (rest ++ behind)) :
      MeetingFirst cursor element front rest behind (.inl span) (next.inside span)
  | read {next : Cursor} (took : cursor.Took front.length next)
      (primitive : ¬element.isConstructed) :
      MeetingFirst cursor element front rest behind (.inr element) next

theorem meetingFirst_of_meeting
    {what : Span ⊕ Element} {last : Cursor} (meeting : Meeting cursor (some what) last)
    {front rest behind : Bytes} (left : cursor.Left (front ++ rest) behind) {element : Element}
    (first : decodeFirst (front ++ rest) = .ok (element, rest)) :
    MeetingFirst cursor element front rest behind what last := by
  have read := decodeFirst_front first (rest ++ behind)
  rw [← List.append_assoc, ← left.content] at read
  have length_eq : cursor.source.content.length = front.length + (rest ++ behind).length := by
    rw [left.content, List.append_assoc, List.length_append]
  cases meeting with
  | @entered next tag following length count spelled decoded took counted constructed _ _ span
      span_eq =>
      obtain ⟨_, alsoSpelled, alsoDecoded⟩ := decodeFirst_eq_ok.mp read
      obtain ⟨rfl, rfl⟩ := List.cons.inj (spelled.symm.trans alsoSpelled)
      obtain ⟨rfl, content⟩ : _ ∧ _ := by
        simpa only [Except.ok.injEq, Prod.mk.injEq] using decoded.symm.trans alsoDecoded
      have total : count + element.value.length = front.length := by
        rw [content, List.length_append] at counted
        omega
      have shorter := length_lt_of_field spelled decoded
      have inside : (next.inside span).Left element.value (rest ++ behind) :=
        ⟨content, fun closed => absurd closed (List.cons_ne_nil _ _), by
          intro stop member
          cases member
          rw [span_eq]
          rfl⟩
      subst span_eq
      exact .entered ⟨rfl, rfl⟩ rfl took total shorter constructed inside
  | @read next _ count alsoRead took counted primitive =>
      obtain ⟨rfl, content⟩ : _ ∧ _ := by
        simpa only [Except.ok.injEq, Prod.mk.injEq] using alsoRead.symm.trans read
      obtain rfl : count = front.length := by
        rw [content] at counted
        omega
      exact .read took primitive

/-- Nothing stops at an element that lies within the limits. -/
theorem meets_first (ready : cursor.Ready) (innermost : Innermost container cursor.ends)
    {front rest behind : Bytes} (left : cursor.Left (front ++ rest) behind) {element : Element}
    (first : decodeFirst (front ++ rest) = .ok (element, rest))
    (small : element.value.length ≤ cursor.maximumSize)
    (shallow : element.isConstructed → cursor.ends.length < cursor.maximumDepth) :
    ∃ what next, meet container cursor = .ok (some what) next := by
  obtain ⟨following, content, decoded⟩ :=
    decodeFirst_eq_ok.mp (decodeFirst_front first (rest ++ behind))
  rw [← List.append_assoc, ← left.content] at content
  have shorter := length_lt_of_decodeFirst first
  have within : ∀ stop ∈ cursor.ends.head?, cursor.consumed < stop := by
    intro stop member
    have := left.innermost stop member
    omega
  obtain ⟨looked, tagged, tookTag, rfl, readTagged, met_eq⟩ :=
    meet_of_cons ready innermost within content
  have taggedReady := ready.of_took tookTag
  obtain ⟨next, took, inside, field⟩ := readLengthField_of_ok taggedReady.steady decoded
  have nextReady := taggedReady.of_took took
  have sized : readLength tagged = .ok element.value.length next := by
    refine readLength_of_room nextReady field ?_ ?_
    · rwa [took.maximumSize, tookTag.maximumSize]
    · intro stop member
      rw [took.ends, tookTag.ends] at member
      have stop_eq := left.innermost stop member
      have lengths := congrArg List.length (left.content.symm.trans content)
      have := Length.length_rest_lt_of_decode decoded
      rw [took.consumed, tookTag.consumed]
      simp only [List.length_append, List.length_cons] at stop_eq lengths this ⊢
      omega
  rw [met_eq]
  by_cases constructed : Tag.isConstructed element.tag
  · have entered := enter_of_length nextReady readTagged sized
    have depth := shallow constructed
    rw [took.ends, took.maximumDepth, tookTag.ends, tookTag.maximumDepth,
      if_neg (by omega)] at entered
    rw [if_pos constructed, bind_ok entered]
    exact ⟨_, _, rfl⟩
  · obtain ⟨last, -, taken⟩ := takeBytes_of_le nextReady.steady element.value.length
      (by rw [inside]; simp)
    rw [if_neg constructed, bind_ok (readElement_of_length readTagged sized taken)]
    exact ⟨_, _, rfl⟩

end

end Outline

end DirectoryInterchange.Element
