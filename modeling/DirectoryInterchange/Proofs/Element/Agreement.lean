import Mathlib.Data.List.TakeWhile
import DirectoryInterchange.Element.Frame
import DirectoryInterchange.Proofs.Element.Stream

/-!
Three ways to read one element: cutting it off a buffer, reading it from a
source, and reading it at the start of a byte sequence.  All three follow
`Length.decode` on the bytes behind the tag, and so they agree.
-/

namespace DirectoryInterchange.Element

/-! ### Reading at the start of a byte sequence -/

theorem decodeFirst_of_error {tag : UInt8} {following : Bytes} {error : Error}
    (decoded : Length.decode following = .error error) :
    decodeFirst (tag :: following) = .error error := by
  simp only [decodeFirst, decoded]

theorem decodeFirst_of_ok {tag : UInt8} {following content : Bytes} {length : Nat}
    (decoded : Length.decode following = .ok (length, content)) :
    decodeFirst (tag :: following) =
      if content.length < length then .error (.lengthExceedsAvailable length content.length)
      else .ok (⟨tag, content.take length⟩, content.drop length) := by
  simp only [decodeFirst, decoded]

theorem decodeAt_of_error {tag : UInt8} {following : Bytes} {error : Error}
    (decoded : Length.decode following = .error error) :
    decodeAt (tag :: following) 0 = .error error := by
  rw [decodeAt, List.drop_zero, decodeFirst_of_error decoded]
  rfl

theorem decodeAt_of_short {tag : UInt8} {following content : Bytes} {length : Nat}
    (decoded : Length.decode following = .ok (length, content)) (short : content.length < length) :
    decodeAt (tag :: following) 0 = .error (.lengthExceedsAvailable length content.length) := by
  rw [decodeAt, List.drop_zero, decodeFirst_of_ok decoded, if_pos short]
  rfl

theorem decodeAt_of_ok {tag : UInt8} {following content : Bytes} {length : Nat}
    (decoded : Length.decode following = .ok (length, content))
    (complete : length ≤ content.length) :
    decodeAt (tag :: following) 0 =
      .ok (⟨tag, content.take length⟩,
        (tag :: following).length - (content.drop length).length) := by
  rw [decodeAt, List.drop_zero, decodeFirst_of_ok decoded, if_neg (by omega)]
  rfl

/-! ### Cutting off a buffer -/

namespace Frame

/-- A tag alone is no exception: no length field follows it either. -/
theorem take?_cons (limit : Nat) (tag : UInt8) (following : Bytes) :
    take? limit (tag :: following) =
      match Length.decode following with
      | .error (.truncated _ _) => .ok none
      | .error error => .error error
      | .ok (length, content) =>
          if limit < length then .error (.elementTooLarge length limit)
          else if content.length < length then .ok none
          else .ok (some (⟨tag, content.take length⟩, content.drop length)) := by
  cases following <;> rfl

theorem take?_of_ok {limit length : Nat} {tag : UInt8} {following content : Bytes}
    (decoded : Length.decode following = .ok (length, content)) :
    take? limit (tag :: following) =
      if limit < length then .error (.elementTooLarge length limit)
      else if content.length < length then .ok none
      else .ok (some (⟨tag, content.take length⟩, content.drop length)) := by
  rw [take?_cons, decoded]

end Frame

/-! ### Reading from a source -/

namespace Cursor

/-- Whether every container that was entered has come to its end. -/
def Outermost (cursor : Cursor) : Prop :=
  ∀ stop ∈ cursor.ends, stop ≤ cursor.position

instance (cursor : Cursor) : Decidable cursor.Outermost :=
  inferInstanceAs (Decidable (∀ stop ∈ cursor.ends, stop ≤ cursor.position))

theorem ends_leaving {cursor : Cursor} (outermost : cursor.Outermost) :
    cursor.leaving.ends = [] := by
  simp only [leaving, List.dropWhile_eq_nil_iff, decide_eq_true_eq]
  exact outermost

theorem readLength_of_error {cursor next : Cursor} {error : Error}
    (read : readLengthField cursor = .error error next) :
    readLength cursor = .error error next := by
  rw [readLength, bind_error read]

theorem readLength_of_large {cursor next : Cursor} {length : Nat}
    (read : readLengthField cursor = .ok length next) (large : next.maximumSize < length) :
    readLength cursor = .error (.elementTooLarge length next.maximumSize) next := by
  have oversized : requireSize length next =
      .error (.elementTooLarge length next.maximumSize) next := by
    simp only [requireSize, run_get_bind, if_pos large, run_throw]
  rw [readLength, bind_ok read, bind_error oversized]

theorem readLength_of_ok {cursor next : Cursor} {length : Nat}
    (read : readLengthField cursor = .ok length next) (fits : length ≤ next.maximumSize)
    (ends : next.ends = []) : readLength cursor = .ok length next := by
  have sized : requireSize length next = .ok ⟨⟩ next := by
    simp only [requireSize, run_get_bind, if_neg (Nat.not_lt.mpr fits), run_pure]
  have roomy : requireRoom length next = .ok ⟨⟩ next := by
    simp only [requireRoom, run_get_bind, ends, run_pure]
  rw [readLength, bind_ok read, bind_ok sized, bind_ok roomy, run_pure]

section Reading

variable {cursor : Cursor} (steady : cursor.source.Steady)
  {tag : UInt8} {following : Bytes} (unread : cursor.unread = tag :: following)

include steady unread

theorem readElement?_of_error (ended : cursor.source.failure = none) {error : Error}
    (decoded : Length.decode following = .error error) :
    ∃ next, readElement? cursor = .error error next := by
  obtain ⟨tagged, count, took, rfl, readTagged⟩ := readTag_of_cons steady unread
  obtain ⟨next, read⟩ :=
    readLengthField_of_error took.steady (took.failure.trans ended) decoded
  refine ⟨next, ?_⟩
  rw [readElement?, bind_ok readTagged]
  exact bind_error (readLength_of_error read)

theorem readElement?_of_large {length : Nat} {content : Bytes}
    (decoded : Length.decode following = .ok (length, content))
    (large : cursor.maximumSize < length) :
    ∃ next, readElement? cursor = .error (.elementTooLarge length cursor.maximumSize) next := by
  obtain ⟨tagged, count, took, rfl, readTagged⟩ := readTag_of_cons steady unread
  obtain ⟨next, tookField, -, read⟩ := readLengthField_of_ok took.steady decoded
  have size_eq : next.maximumSize = cursor.maximumSize :=
    tookField.maximumSize.trans took.maximumSize
  refine ⟨next, ?_⟩
  rw [readElement?, bind_ok readTagged, ← size_eq]
  exact bind_error (readLength_of_large read (size_eq ▸ large))

/-- Where a length field within the limit leaves the cursor. -/
theorem readLength_of_decode (outermost : cursor.Outermost) {length : Nat} {content : Bytes}
    (decoded : Length.decode following = .ok (length, content))
    (fits : length ≤ cursor.maximumSize) :
    ∃ middle, middle.source.content = content ∧ middle.source.Steady ∧
      middle.source.failure = cursor.source.failure ∧
      readElement? cursor = ((do
        let value ← takeBytes length
        return some ⟨tag, value⟩ : Action (Option Element)) middle) := by
  obtain ⟨tagged, count, took, rfl, readTagged⟩ := readTag_of_cons steady unread
  obtain ⟨middle, tookField, content_eq, read⟩ := readLengthField_of_ok took.steady decoded
  have size_eq : middle.maximumSize = cursor.maximumSize :=
    tookField.maximumSize.trans took.maximumSize
  have ends_eq : middle.ends = [] := by
    rw [tookField.ends, took.ends, ends_leaving outermost]
  refine ⟨middle, content_eq, tookField.steady, tookField.failure.trans took.failure, ?_⟩
  rw [readElement?, bind_ok readTagged]
  exact bind_ok (readLength_of_ok read (size_eq ▸ fits) ends_eq)

theorem readElement?_of_short (ended : cursor.source.failure = none)
    (outermost : cursor.Outermost) {length : Nat} {content : Bytes}
    (decoded : Length.decode following = .ok (length, content))
    (fits : length ≤ cursor.maximumSize) (short : content.length < length) :
    ∃ next, readElement? cursor = .error (.truncated length content.length) next := by
  obtain ⟨middle, rfl, middleSteady, middleFailure, read⟩ :=
    readLength_of_decode steady unread outermost decoded fits
  obtain ⟨next, -, taken⟩ := takeBytes_of_lt middleSteady (middleFailure.trans ended) short
  exact ⟨next, read.trans (bind_error taken)⟩

theorem readElement?_of_ok (outermost : cursor.Outermost) {length : Nat} {content : Bytes}
    (decoded : Length.decode following = .ok (length, content))
    (fits : length ≤ cursor.maximumSize) (complete : length ≤ content.length) :
    ∃ next, next.source.content = content.drop length ∧
      readElement? cursor = .ok (some ⟨tag, content.take length⟩) next := by
  obtain ⟨middle, rfl, middleSteady, -, read⟩ :=
    readLength_of_decode steady unread outermost decoded fits
  obtain ⟨next, took, taken⟩ := takeBytes_of_le middleSteady length complete
  exact ⟨next, took.content, read.trans (bind_ok taken)⟩

end Reading

theorem readElement?_of_nil {cursor : Cursor} (steady : cursor.source.Steady)
    (ended : cursor.source.failure = none) (unread : cursor.unread = []) :
    ∃ next, readElement? cursor = .ok none next := by
  obtain ⟨next, read⟩ := readTag_of_nil steady ended unread
  exact ⟨next, bind_ok read⟩

end Cursor

/-! ### Agreement -/

/-- The errors of a length field that no further byte can mend. -/
inductive Error.Hopeless : Error → Prop
  | lengthTooLong (octets : Nat) : Hopeless (.lengthTooLong octets)
  | indefiniteLength : Hopeless .indefiniteLength
  | lengthTooLarge (length maximum : Nat) : Hopeless (.lengthTooLarge length maximum)

theorem Length.hopeless_or_truncated {bytes : Bytes} {error : Error}
    (decoded : Length.decode bytes = .error error) :
    error.Hopeless ∨ ∃ needed available, error = .truncated needed available := by
  cases bytes with
  | nil =>
      cases decoded
      exact .inr ⟨1, 0, rfl⟩
  | cons first following =>
      simp only [Length.decode] at decoded
      repeat' split at decoded
      all_goals cases decoded
      all_goals first | exact .inl (by constructor) | exact .inr ⟨_, _, rfl⟩

theorem Length.suffix_of_decode {bytes rest : Bytes} {length : Nat}
    (decoded : Length.decode bytes = .ok (length, rest)) : rest <:+ bytes := by
  cases bytes with
  | nil => cases decoded
  | cons first following =>
      simp only [Length.decode] at decoded
      split at decoded
      · simp only [Except.ok.injEq, Prod.mk.injEq] at decoded
        exact decoded.2 ▸ List.suffix_cons first following
      · repeat (split at decoded; · simp at decoded)
        simp only [Except.ok.injEq, Prod.mk.injEq] at decoded
        exact decoded.2 ▸ (List.drop_suffix _ _).trans (List.suffix_cons first following)

/-- How the readings of one element from a buffer, from a source and from the
start of the bytes themselves agree. -/
structure Agreement (limit : Nat) (bytes : Bytes)
    (framed : Except Error (Option (Element × Bytes)))
    (streamed : EStateM.Result Error Cursor (Option Element))
    (sliced : Except Error (Element × Nat)) : Prop where
  streamed_element : ∀ element rest, framed = .ok (some (element, rest)) ↔
    ∃ next, streamed = .ok (some element) next ∧ next.source.content = rest
  sliced_element : ∀ element rest, framed = .ok (some (element, rest)) ↔
    sliced = .ok (element, bytes.length - rest.length) ∧ rest <:+ bytes ∧
      element.value.length ≤ limit
  streamed_hopeless : ∀ error, error.Hopeless →
    (framed = .error error ↔ ∃ next, streamed = .error error next)
  sliced_hopeless : ∀ error, error.Hopeless → (framed = .error error ↔ sliced = .error error)
  streamed_large : ∀ length maximum, framed = .error (.elementTooLarge length maximum) ↔
    ∃ next, streamed = .error (.elementTooLarge length maximum) next
  streamed_incomplete : framed = .ok none ↔
    (∃ needed available next, streamed = .error (.truncated needed available) next) ∨
      bytes = [] ∧ ∃ next, streamed = .ok none next
  sliced_incomplete : framed = .ok none ↔
    (∃ needed available, sliced = .error (.truncated needed available)) ∨
      ∃ declared available,
        sliced = .error (.lengthExceedsAvailable declared available) ∧ declared ≤ limit

namespace Agreement

variable {limit : Nat} {bytes : Bytes} {next : Cursor}

theorem of_nil : Agreement limit [] (.ok none) (.ok none next) (.error (.truncated 1 0)) := by
  constructor
  case streamed_hopeless | sliced_hopeless => rintro _ ⟨⟩ <;> simp
  all_goals simp

theorem of_hopeless {error : Error} (hopeless : error.Hopeless) :
    Agreement limit bytes (.error error) (.error error next) (.error error) := by
  cases hopeless <;> constructor <;> simp

theorem of_truncated {needed available : Nat} :
    Agreement limit bytes (.ok none) (.error (.truncated needed available) next)
      (.error (.truncated needed available)) := by
  constructor
  case streamed_hopeless | sliced_hopeless => rintro _ ⟨⟩ <;> simp
  all_goals simp

/-- A length above the limit is refused before it is known whether the bytes
are there. -/
theorem of_large {length : Nat} {sliced : Except Error (Element × Nat)} (large : limit < length)
    (slice : (∃ available, sliced = .error (.lengthExceedsAvailable length available)) ∨
      ∃ element stop, sliced = .ok (element, stop) ∧ element.value.length = length) :
    Agreement limit bytes (.error (.elementTooLarge length limit))
      (.error (.elementTooLarge length limit) next) sliced := by
  rcases slice with ⟨available, rfl⟩ | ⟨element, stop, rfl, rfl⟩
  · constructor
    case streamed_hopeless | sliced_hopeless => rintro _ ⟨⟩ <;> simp
    all_goals simp
    omega
  · constructor
    case streamed_hopeless | sliced_hopeless => rintro _ ⟨⟩ <;> simp
    case sliced_element =>
      intro other rest
      simp only [reduceCtorEq, Except.ok.injEq, Prod.mk.injEq, false_iff]
      rintro ⟨⟨rfl, -⟩, -, fits⟩
      omega
    all_goals simp

theorem of_short {length available : Nat} (fits : length ≤ limit) :
    Agreement limit bytes (.ok none) (.error (.truncated length available) next)
      (.error (.lengthExceedsAvailable length available)) := by
  constructor
  case streamed_hopeless | sliced_hopeless => rintro _ ⟨⟩ <;> simp
  case sliced_incomplete =>
    simp only [true_iff]
    exact .inr ⟨length, available, rfl, fits⟩
  all_goals simp

theorem of_element {element : Element} {rest : Bytes} (content : next.source.content = rest)
    (suffix : rest <:+ bytes) (fits : element.value.length ≤ limit) :
    Agreement limit bytes (.ok (some (element, rest))) (.ok (some element) next)
      (.ok (element, bytes.length - rest.length)) := by
  constructor
  case streamed_hopeless | sliced_hopeless => rintro _ ⟨⟩ <;> simp
  case streamed_element =>
    intro other left
    simp only [Except.ok.injEq, Option.some.injEq, Prod.mk.injEq, EStateM.Result.ok.injEq]
    constructor
    · rintro ⟨rfl, rfl⟩
      exact ⟨next, ⟨rfl, rfl⟩, content⟩
    · rintro ⟨_, ⟨rfl, rfl⟩, rfl⟩
      exact ⟨rfl, content.symm⟩
  case sliced_element =>
    intro other left
    simp only [Except.ok.injEq, Option.some.injEq, Prod.mk.injEq]
    constructor
    · rintro ⟨rfl, rfl⟩
      exact ⟨⟨rfl, rfl⟩, suffix, fits⟩
    · rintro ⟨⟨rfl, lengths⟩, leftSuffix, -⟩
      refine ⟨rfl, ?_⟩
      -- Two suffixes of one list are equal when their lengths are.
      have restLength := suffix.length_le
      have leftLength := leftSuffix.length_le
      exact (List.suffix_of_suffix_length_le suffix leftSuffix (by omega)).eq_of_length (by omega)
  all_goals simp

end Agreement

/-- Three readers on the unread bytes of a cursor that is inside no container,
whatever the pieces in which its source delivers them. -/
theorem readers_agree {cursor : Cursor} (steady : cursor.source.Steady)
    (ended : cursor.source.failure = none) (outermost : cursor.Outermost) :
    Agreement cursor.maximumSize cursor.unread (Frame.take? cursor.maximumSize cursor.unread)
      cursor.readElement? (decodeAt cursor.unread 0) := by
  cases unread : cursor.unread with
  | nil =>
      obtain ⟨next, streamed⟩ := Cursor.readElement?_of_nil steady ended unread
      rw [streamed]
      exact .of_nil
  | cons tag following =>
      cases decoded : Length.decode following with
      | error error =>
          obtain ⟨next, streamed⟩ :=
            Cursor.readElement?_of_error steady unread ended decoded
          rw [streamed, decodeAt_of_error decoded, Frame.take?_cons, decoded]
          rcases Length.hopeless_or_truncated decoded with hopeless | ⟨needed, available, rfl⟩
          · cases hopeless <;> exact .of_hopeless (by constructor)
          · exact .of_truncated
      | ok field =>
          obtain ⟨length, content⟩ := field
          rw [Frame.take?_of_ok decoded]
          by_cases large : cursor.maximumSize < length
          · obtain ⟨next, streamed⟩ := Cursor.readElement?_of_large steady unread decoded large
            rw [if_pos large, streamed]
            refine .of_large large ?_
            by_cases short : content.length < length
            · exact .inl ⟨content.length, decodeAt_of_short decoded short⟩
            · refine .inr ⟨_, _, decodeAt_of_ok decoded (by omega), ?_⟩
              simp only [List.length_take]
              omega
          · rw [if_neg large]
            by_cases short : content.length < length
            · obtain ⟨next, streamed⟩ := Cursor.readElement?_of_short steady unread ended outermost
                decoded (by omega) short
              rw [if_pos short, streamed, decodeAt_of_short decoded short]
              exact .of_short (by omega)
            · obtain ⟨next, rest, streamed⟩ := Cursor.readElement?_of_ok steady unread outermost
                decoded (by omega) (by omega)
              rw [if_neg short, streamed, decodeAt_of_ok decoded (by omega)]
              refine .of_element rest ?_ ?_
              · exact (List.drop_suffix _ _).trans
                  ((Length.suffix_of_decode decoded).trans (List.suffix_cons tag following))
              · simp only [List.length_take]
                omega

/-- An element and one byte of the next, in three pieces with an interruption. -/
def Source.inPieces : Source :=
  ⟨[.bytes [0x04], .interrupted, .bytes [0x02, 0x61], .bytes [0x62, 0x63]], none⟩

theorem readers_agree_inPieces :
    let cursor := Cursor.start .inPieces (some 16)
    cursor.source.Steady ∧ cursor.source.failure = none ∧ cursor.Outermost ∧
      Agreement 16 [0x04, 0x02, 0x61, 0x62, 0x63]
        (.ok (some (⟨0x04, [0x61, 0x62]⟩, [0x63]))) cursor.readElement?
        (.ok (⟨0x04, [0x61, 0x62]⟩, 4)) :=
  ⟨by decide, rfl, by decide,
    @readers_agree (.start .inPieces (some 16)) (by decide) rfl (by decide)⟩

end DirectoryInterchange.Element
