import DirectoryInterchange.Element.Buffer

/-!
Writing in one pass.

A way of writing `Writes` some bytes when it appends just these to every
buffer, whatever is open there.  A container whose length is put in at the end
then writes the encoding of the element around its content.
-/

namespace DirectoryInterchange.Element.Buffer

def Writes (write : Buffer → Buffer) (bytes : Bytes) : Prop :=
  ∀ buffer, write buffer = buffer.append bytes

@[simp] theorem append_nil (buffer : Buffer) : buffer.append [] = buffer := by
  simp [append]

@[simp] theorem append_append (buffer : Buffer) (first second : Bytes) :
    (buffer.append first).append second = buffer.append (first ++ second) := by
  simp [append]

namespace Writes

theorem nothing : Writes id [] :=
  fun buffer => buffer.append_nil.symm

theorem andThen {first second : Buffer → Buffer} {front back : Bytes}
    (start : Writes first front) (following : Writes second back) :
    Writes (fun buffer => second (first buffer)) (front ++ back) := by
  intro buffer
  show second (first buffer) = _
  rw [start buffer, following, append_append]

theorem octets (tag : UInt8) (value : Bytes) :
    Writes (·.octets tag value) (Element.encode ⟨tag, value⟩) :=
  fun _ => rfl

theorem boolean (tag : UInt8) (value : Bool) :
    Writes (·.boolean tag value) (Element.ofBoolean value tag).encode :=
  fun _ => rfl

theorem integer (tag : UInt8) (value : Int64) :
    Writes (·.integer tag value) (Element.ofInteger value tag).encode :=
  fun _ => rfl

theorem text (tag : UInt8) (value : String) :
    Writes (·.text tag value) (Element.ofText value tag).encode :=
  fun _ => rfl

/-- The field for the estimate never stays when it is wrong, so the estimate
leaves no trace. -/
theorem withEstimate (tag : UInt8) (value : String) (estimate : Nat) :
    Writes (·.withEstimate tag value estimate) (Element.ofText value tag).encode := by
  intro buffer
  simp only [Buffer.withEstimate]
  split
  · next exact_estimate =>
      rw [← exact_estimate]
      rfl
  · have front : (buffer.bytes ++ [tag]).length = buffer.bytes.length + 1 := by simp
    simp only [putLength, append, Buffer.mk.injEq, and_true]
    rw [show buffer.bytes ++ tag :: (Length.encode estimate ++ Utf8.encode value) =
      (buffer.bytes ++ [tag]) ++ (Length.encode estimate ++ Utf8.encode value) by simp]
    rw [List.take_left' front, ← front, ← List.drop_drop, List.drop_left, List.drop_left]
    simp [Element.encode, Element.ofText]

theorem within {content : Buffer → Buffer} {bytes : Bytes} (inside : Writes content bytes)
    (tag : UInt8) : Writes (Buffer.within tag content) (Element.encode ⟨tag, bytes⟩) := by
  intro buffer
  have front : (buffer.bytes ++ [tag]).length = buffer.bytes.length + 1 := by simp
  rw [Buffer.within, inside]
  simp only [begin, append, close, putLength, Buffer.mk.injEq, and_true]
  rw [List.take_left' front, List.drop_left' front, List.length_append, front,
    Nat.add_sub_cancel_left]
  simp [Element.encode]

theorem each {Item : Type} {write : Item → Buffer → Buffer} {element : Item → Element}
    (one : ∀ item, Writes (write item) (element item).encode) (items : List Item) :
    Writes (Buffer.each write items) (encodeAll (items.map element)) := by
  induction items with
  | nil => exact nothing
  | cons item items inductionHypothesis =>
      intro buffer
      calc Buffer.each write (item :: items) buffer
          = Buffer.each write items (write item buffer) := rfl
        _ = (buffer.append (element item).encode).append (encodeAll (items.map element)) := by
            rw [inductionHypothesis, one item buffer]
        _ = buffer.append (encodeAll ((item :: items).map element)) := append_append ..

end Writes

end DirectoryInterchange.Element.Buffer
