import DirectoryInterchange.Element.Container
import DirectoryInterchange.Proofs.Element.Writing

/-!
Any well-bracketed use of a buffer.

The operations on a buffer come in a row, but where containers are closed in
the opposite order of their opening they are those of a forest.  What such a
row appends is what the forest's elements, put together from the inside
outwards, encode to.
-/

namespace DirectoryInterchange.Element

/-! ### Operations -/

/-- What is appended in one operation. -/
inductive Entry where
  | boolean (tag : UInt8) (value : Bool)
  | integer (tag : UInt8) (value : Int64)
  | null (tag : UInt8)
  | octets (tag : UInt8) (value : Bytes)
  | text (tag : UInt8) (value : String)
  | estimated (tag : UInt8) (value : String) (estimate : Nat)
  | element (element : Element)
  deriving DecidableEq, Repr

namespace Entry

def put (buffer : Buffer) : Entry → Except Length.Overflow Buffer
  | boolean tag value => .ok (buffer.boolean tag value)
  | integer tag value => .ok (buffer.integer tag value)
  | null tag => .ok (buffer.null tag)
  | octets tag value => .ok (buffer.octets tag value)
  | text tag value => .ok (buffer.text tag value)
  | estimated tag value estimate => buffer.estimated tag value estimate
  | element entry => .ok (buffer.element entry)

/-- The element that is built without a buffer. -/
def toElement : Entry → Element
  | boolean tag value => .ofBoolean value tag
  | integer tag value => .ofInteger value tag
  | null tag => ⟨tag, []⟩
  | octets tag value => .ofOctets value tag
  | text tag value => .ofText value tag
  | estimated tag value _ => .ofText value tag
  | element entry => entry

/-- Whether a length field can hold what is estimated. -/
def Estimable : Entry → Prop
  | estimated _ _ estimate => estimate ≤ Length.maximum
  | _ => True

/-- The same without an estimate. -/
def exactly : Entry → Entry
  | estimated tag value _ => text tag value
  | entry => entry

instance (entry : Entry) : Decidable entry.Estimable := by
  cases entry <;> unfold Estimable <;> infer_instance

theorem put_of_estimable {entry : Entry} (estimable : entry.Estimable) (buffer : Buffer) :
    entry.put buffer = .ok (buffer.append entry.toElement.encode) := by
  cases entry with
  | estimated tag value estimate =>
      have fits : estimate ≤ Length.maximum := estimable
      rw [put, Buffer.estimated, if_pos fits]
      exact congrArg Except.ok (Buffer.Writes.withEstimate tag value estimate buffer)
  | boolean | integer | null | octets | text | element => rfl

theorem estimable_exactly (entry : Entry) : entry.exactly.Estimable := by
  cases entry <;> trivial

theorem toElement_exactly (entry : Entry) : entry.exactly.toElement = entry.toElement := by
  cases entry <;> rfl

end Entry

inductive Operation where
  | put (entry : Entry)
  | begin (tag : UInt8)
  | close
  deriving DecidableEq, Repr

namespace Operation

def perform (buffer : Buffer) : Operation → Except Length.Overflow Buffer
  | put entry => entry.put buffer
  | begin tag => .ok (buffer.begin tag)
  | close => .ok buffer.close

def Estimable : Operation → Prop
  | put entry => entry.Estimable
  | _ => True

def exactly : Operation → Operation
  | put entry => put entry.exactly
  | operation => operation

instance (operation : Operation) : Decidable operation.Estimable := by
  cases operation <;> unfold Estimable <;> infer_instance

theorem estimable_exactly (operation : Operation) : operation.exactly.Estimable := by
  cases operation with
  | put entry => exact entry.estimable_exactly
  | begin tag => trivial
  | close => trivial

/-- How many containers are open behind the operations when `count` are open
before them; `none` when one is closed that is not open. -/
def openBehind : Nat → List Operation → Option Nat
  | count, [] => some count
  | count, put _ :: operations => openBehind count operations
  | count, begin _ :: operations => openBehind (count + 1) operations
  | 0, close :: _ => none
  | count + 1, close :: operations => openBehind count operations

/-- Whatever is opened is closed again, and nothing else is. -/
def Balanced (operations : List Operation) : Prop :=
  openBehind 0 operations = some 0

instance (operations : List Operation) : Decidable (Balanced operations) :=
  inferInstanceAs (Decidable (_ = _))

end Operation

namespace Buffer

def performAll (buffer : Buffer) (operations : List Operation) :
    Except Length.Overflow Buffer :=
  operations.foldlM Operation.perform buffer

theorem performAll_cons {buffer next : Buffer} {operation : Operation}
    (performed : operation.perform buffer = .ok next) (operations : List Operation) :
    buffer.performAll (operation :: operations) = next.performAll operations := by
  rw [performAll, List.foldlM_cons, performed]
  rfl

end Buffer

/-! ### Forests -/

/-- Entries and containers side by side. -/
inductive Forest where
  | done
  | entry (first : Entry) (rest : Forest)
  | container (tag : UInt8) (inside rest : Forest)
  deriving DecidableEq, Repr

namespace Forest

def operations : Forest → List Operation
  | done => []
  | entry first rest => .put first :: rest.operations
  | container tag inside rest =>
      .begin tag :: (inside.operations ++ .close :: rest.operations)

/-- The elements that are built without a buffer. -/
def elements : Forest → List Element
  | done => []
  | entry first rest => first.toElement :: rest.elements
  | container tag inside rest =>
      Container.toElement { tag, elements := inside.elements } :: rest.elements

/-- Tag, shortest length field and content, one after another. -/
def encoding : Forest → Bytes
  | done => []
  | entry first rest => first.toElement.encode ++ rest.encoding
  | container tag inside rest =>
      tag :: (Length.encode inside.encoding.length ++ inside.encoding) ++ rest.encoding

/-- The same without estimates. -/
def exactly : Forest → Forest
  | done => done
  | entry first rest => entry first.exactly rest.exactly
  | container tag inside rest => container tag inside.exactly rest.exactly

theorem encoding_eq_encodeAll (forest : Forest) :
    forest.encoding = encodeAll forest.elements := by
  induction forest with
  | done => rfl
  | entry first rest restInduction => rw [encoding, restInduction]; rfl
  | container tag inside rest insideInduction restInduction =>
      rw [encoding, insideInduction, restInduction]
      rfl

theorem operations_exactly (forest : Forest) :
    forest.exactly.operations = forest.operations.map Operation.exactly := by
  induction forest with
  | done => rfl
  | entry first rest restInduction => simp [exactly, operations, restInduction, Operation.exactly]
  | container tag inside rest insideInduction restInduction =>
      simp [exactly, operations, insideInduction, restInduction, Operation.exactly]

theorem elements_exactly (forest : Forest) : forest.exactly.elements = forest.elements := by
  induction forest with
  | done => rfl
  | entry first rest restInduction =>
      rw [exactly, elements, elements, first.toElement_exactly, restInduction]
  | container tag inside rest insideInduction restInduction =>
      rw [exactly, elements, elements, insideInduction, restInduction]

/-- Operations that close `count` containers more than they open are those of
a forest, and of one more behind each of these closings. -/
theorem exists_operations {count : Nat} {operations : List Operation}
    (balanced : Operation.openBehind count operations = some 0) :
    ∃ (forest : Forest) (outer : List Forest), outer.length = count ∧
      operations = forest.operations ++ outer.flatMap fun next => .close :: next.operations := by
  fun_induction Operation.openBehind count operations with
  | case1 count =>
      cases balanced
      exact ⟨done, [], rfl, rfl⟩
  | case2 count first operations inductionHypothesis =>
      obtain ⟨forest, outer, layers, rfl⟩ := inductionHypothesis balanced
      exact ⟨entry first forest, outer, layers, rfl⟩
  | case3 count tag operations inductionHypothesis =>
      obtain ⟨inside, outer, layers, rfl⟩ := inductionHypothesis balanced
      -- The innermost of the containers to be closed is the one opened here.
      cases outer with
      | nil => simp at layers
      | cons rest outer =>
          refine ⟨container tag inside rest, outer, by simpa using layers, ?_⟩
          simp [Forest.operations]
  | case4 => cases balanced
  | case5 count operations inductionHypothesis =>
      obtain ⟨forest, outer, layers, rfl⟩ := inductionHypothesis balanced
      exact ⟨done, forest :: outer, by simp [layers], rfl⟩

theorem performAll_operations {forest : Forest}
    (estimable : ∀ operation ∈ forest.operations, operation.Estimable)
    (buffer : Buffer) (following : List Operation) :
    buffer.performAll (forest.operations ++ following) =
      (buffer.append forest.encoding).performAll following := by
  induction forest generalizing buffer following with
  | done => simp [operations, encoding]
  | entry first rest restInduction =>
      have restEstimable : ∀ operation ∈ rest.operations, operation.Estimable :=
        fun operation member => estimable operation (List.mem_cons_of_mem _ member)
      have performed : (Operation.put first).perform buffer =
          .ok (buffer.append first.toElement.encode) :=
        Entry.put_of_estimable (estimable _ List.mem_cons_self) buffer
      rw [operations, List.cons_append, Buffer.performAll_cons performed,
        restInduction restEstimable, Buffer.append_append, encoding]
  | container tag inside rest insideInduction restInduction =>
      have insideEstimable : ∀ operation ∈ inside.operations, operation.Estimable :=
        fun operation member => estimable operation (by simp [operations, member])
      have restEstimable : ∀ operation ∈ rest.operations, operation.Estimable :=
        fun operation member => estimable operation (by simp [operations, member])
      have closed : ((buffer.begin tag).append inside.encoding).close =
          buffer.append (Element.encode ⟨tag, inside.encoding⟩) :=
        Buffer.Writes.within (fun _ => rfl) tag buffer
      calc buffer.performAll ((container tag inside rest).operations ++ following)
          = (buffer.begin tag).performAll
              (inside.operations ++ .close :: (rest.operations ++ following)) := by
            rw [operations, List.cons_append, Buffer.performAll_cons rfl, List.append_assoc,
              List.cons_append]
        _ = ((buffer.begin tag).append inside.encoding).close.performAll
              (rest.operations ++ following) := by
            rw [insideInduction insideEstimable, Buffer.performAll_cons rfl]
        _ = ((buffer.append (Element.encode ⟨tag, inside.encoding⟩)).append
              rest.encoding).performAll following := by
            rw [closed, restInduction restEstimable]
        _ = (buffer.append (container tag inside rest).encoding).performAll following := by
            rw [Buffer.append_append]
            rfl

end Forest

namespace Buffer

/-- Whatever a buffer holds and whatever is open in it, a well-bracketed row of
operations appends what its forest encodes to, and does so as well without the
estimates. -/
theorem performAll_of_balanced (buffer : Buffer) {operations : List Operation}
    (balanced : Operation.Balanced operations)
    (estimable : ∀ operation ∈ operations, operation.Estimable) :
    ∃ forest : Forest, forest.operations = operations
      ∧ forest.encoding = encodeAll forest.elements
      ∧ buffer.performAll operations = .ok (buffer.append forest.encoding)
      ∧ buffer.performAll (operations.map Operation.exactly) =
          .ok (buffer.append forest.encoding) := by
  obtain ⟨forest, outer, layers, rfl⟩ := Forest.exists_operations balanced
  obtain rfl : outer = [] := List.length_eq_zero_iff.mp layers
  simp only [List.flatMap_nil, List.append_nil] at estimable ⊢
  have exactEstimable : ∀ operation ∈ forest.exactly.operations, operation.Estimable := by
    rw [forest.operations_exactly]
    exact fun operation member =>
      let ⟨estimated, _, same⟩ := List.mem_map.mp member
      same ▸ estimated.estimable_exactly
  have performed := Forest.performAll_operations estimable buffer []
  have performedExactly := Forest.performAll_operations exactEstimable buffer []
  rw [List.append_nil] at performed performedExactly
  refine ⟨forest, rfl, forest.encoding_eq_encodeAll, performed, ?_⟩
  rw [← forest.operations_exactly, performedExactly, Forest.encoding_eq_encodeAll,
    forest.elements_exactly, ← Forest.encoding_eq_encodeAll]
  rfl

/-- A set inside a sequence, beside a text of seven bytes that is taken for one
of five and later for one of two hundred. -/
def misjudged : List Operation :=
  [.begin Tag.sequence, .put (.integer Tag.integer (-129)),
    .put (.estimated Tag.octetString "größe" 5), .begin Tag.set,
    .put (.estimated Tag.octetString "größe" 200), .close, .close, .put (.null Tag.null)]

theorem performAll_misjudged :
    Operation.Balanced misjudged ∧ (∀ operation ∈ misjudged, operation.Estimable)
      ∧ (Buffer.mk [0x30, 0x05] [1]).performAll misjudged =
          .ok ⟨[0x30, 0x05,
            0x30, 0x18, 0x02, 0x02, 0xFF, 0x7F,
              0x04, 0x07, 0x67, 0x72, 0xC3, 0xB6, 0xC3, 0x9F, 0x65,
              0x31, 0x09, 0x04, 0x07, 0x67, 0x72, 0xC3, 0xB6, 0xC3, 0x9F, 0x65,
            0x05, 0x00], [1]⟩
      ∧ ∃ forest : Forest, forest.operations = misjudged
        ∧ (Buffer.mk [0x30, 0x05] [1]).performAll misjudged =
            .ok ((Buffer.mk [0x30, 0x05] [1]).append (encodeAll forest.elements)) := by
  refine ⟨by decide, by decide, rfl, ?_⟩
  obtain ⟨forest, same, encoded, performed, -⟩ :=
    @performAll_of_balanced ⟨[0x30, 0x05], [1]⟩ misjudged (by decide) (by decide)
  exact ⟨forest, same, encoded ▸ performed⟩

end Buffer

end DirectoryInterchange.Element
