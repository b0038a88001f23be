import DirectoryInterchange.Element.Cursor

/-!
What passes from the parts of an action to the whole.

Bytes are taken and skipped by a few actions only.  All others put these
together and look at the limits of the cursor on the way, so that a property
which two actions in a row inherit has to be shown for these few.  Skipping
stands apart, since it does not count what it has taken when a read fails.
-/

namespace DirectoryInterchange.Element.Cursor

/-- A property of actions that those made of others inherit, and that taking
bytes has. -/
structure Sequenced (admits : ∀ {Value : Type}, Action Value → Prop) : Prop where
  pure : ∀ {Value : Type} (value : Value), admits (Pure.pure value : Action Value)
  throw : ∀ {Value : Type} (error : Error), admits (MonadExcept.throw error : Action Value)
  bind : ∀ {First Second : Type} {action : Action First} {following : First → Action Second},
    admits action → (∀ value, admits (following value)) → admits (action >>= following)
  /-- The cursor may be looked at, but not its source. -/
  look : ∀ {Value : Type} {following : Cursor → Action Value},
    (∀ cursor source, following { cursor with source } = following cursor) →
      (∀ cursor, admits (following cursor)) → admits (get >>= following)
  takeBytes : ∀ count, admits (Cursor.takeBytes count)

/-- Such a property of actions that cannot do without the bytes they take. -/
structure Required (admits : ∀ {Value : Type}, Action Value → Prop) : Prop
    extends Sequenced admits where
  require : ∀ {Value : Type} {following : Option UInt8 → Action Value},
    following none = MonadExcept.throw (.truncated 1 0) →
      (∀ byte, admits (following (some byte))) → admits (Cursor.takeByte? >>= following)

/-- Such a property that the actions which count what they take have. -/
structure Composed (admits : ∀ {Value : Type}, Action Value → Prop) : Prop
    extends Sequenced admits where
  takeByte? : admits Cursor.takeByte?
  peek : admits Cursor.peek
  readTag : admits Cursor.readTag

/-- Such a property that all actions on a source have. -/
structure Inherited (admits : ∀ {Value : Type}, Action Value → Prop) : Prop
    extends Composed admits where
  skipBytes : ∀ count, admits (Cursor.skipBytes count)

variable {admits : ∀ {Value : Type}, Action Value → Prop}

namespace Sequenced

variable (sequenced : Sequenced admits)

include sequenced

theorem requireSize (length : Nat) : admits (Cursor.requireSize length) := by
  refine sequenced.look (fun _ _ => rfl) fun cursor => ?_
  dsimp only
  split
  · exact sequenced.throw _
  · exact sequenced.pure _

theorem requireRoom (length : Nat) : admits (Cursor.requireRoom length) := by
  refine sequenced.look (fun _ _ => rfl) fun cursor => ?_
  cases cursor.ends with
  | nil => exact sequenced.pure _
  | cons stop outer =>
      dsimp only
      split
      · exact sequenced.throw _
      · exact sequenced.pure _

end Sequenced

namespace Required

variable (required : Required admits)

include required

theorem readLengthField : admits Cursor.readLengthField := by
  refine required.require rfl fun first => ?_
  dsimp only
  split
  · exact required.pure _
  split
  · exact required.throw _
  split
  · exact required.throw _
  refine required.bind (required.takeBytes _) fun octets => ?_
  split
  · exact required.throw _
  · exact required.pure _

theorem readLength : admits Cursor.readLength := by
  refine required.bind required.readLengthField fun length => ?_
  refine required.bind (required.requireSize length) fun _ => ?_
  exact required.bind (required.requireRoom length) fun _ => required.pure length

end Required

namespace Composed

variable (composed : Composed admits)

include composed

theorem required : Required admits where
  toSequenced := composed.toSequenced
  require missing present := by
    refine composed.bind composed.takeByte? fun byte => ?_
    cases byte with
    | none => exact missing ▸ composed.throw _
    | some byte => exact present byte

theorem readLength : admits Cursor.readLength :=
  composed.required.readLength

theorem readElement? : admits Cursor.readElement? := by
  refine composed.bind composed.readTag fun tag => ?_
  cases tag with
  | none => exact composed.pure none
  | some tag =>
      refine composed.bind composed.readLength fun length => ?_
      exact composed.bind (composed.takeBytes length) fun value => composed.pure _

theorem readAs {Value : Type} (decode : Bytes → Except Error Value) :
    admits (Cursor.readAs decode) := by
  refine composed.bind (composed.bind composed.readElement? fun found => ?_) fun element => ?_
  · cases found with
    | none => exact composed.throw _
    | some element => exact composed.pure element
  · cases decode element.value with
    | error error => exact composed.throw error
    | ok value => exact composed.pure value

end Composed

theorem Inherited.skipElement? (inherited : Inherited admits) : admits Cursor.skipElement? := by
  refine inherited.bind inherited.readTag fun tag => ?_
  cases tag with
  | none => exact inherited.pure none
  | some tag =>
      refine inherited.bind inherited.readLength fun length => ?_
      exact inherited.bind (inherited.skipBytes length) fun _ => inherited.pure _

end DirectoryInterchange.Element.Cursor
