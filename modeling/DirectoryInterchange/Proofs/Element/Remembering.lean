import DirectoryInterchange.Element.Container
import DirectoryInterchange.Proofs.Element.Shortening
import DirectoryInterchange.Proofs.Element.Splitting
import DirectoryInterchange.Proofs.Steps

/-!
Containers and the content that they remember.

Content that was read or written spells the elements of its container.  What
was read may spell them at greater length than what would be written anew: the
two are the same just when every length field in it is a shortest one.
-/

namespace DirectoryInterchange

/-- A number has one spelling of so many digits. -/
theorem Bytes.eq_of_toNat_eq {bytes others : Bytes} (alike : bytes.length = others.length)
    (same : toNat bytes = toNat others) : bytes = others := by
  induction bytes using List.reverseRecOn generalizing others with
  | nil => exact (List.eq_nil_of_length_eq_zero alike.symm).symm
  | append_singleton bytes last inductionHypothesis =>
      rcases List.eq_nil_or_concat' others with rfl | ⟨front, other, rfl⟩
      · simp at alike
      · rw [toNat_concat, toNat_concat] at same
        have low := UInt8.toNat_lt last
        have otherLow := UInt8.toNat_lt other
        have fronts : toNat bytes = toNat front := by omega
        have lasts : last = other := UInt8.toNat_inj.mp (by omega)
        rw [inductionHypothesis (by simpa using alike) fronts, lasts]

namespace Element

/-! ### Shortest length fields -/

namespace Length

variable {field other : Bytes} {length : Nat}

/-- A field that spells a length in as few bytes as any other. -/
structure Shortest (field : Bytes) (length : Nat) : Prop where
  spells : Spells field length
  least : ∀ other, Spells other length → field.length ≤ other.length

theorem spells_encode (fits : length ≤ maximum) : Spells (encode length) length := by
  obtain ⟨field, spells, whole⟩ := decode_eq_ok.mp (decode_encode fits [])
  rwa [List.append_cancel_right whole]

theorem size_le_of_spells (spells : Spells field length) : size length ≤ field.length := by
  have shortest := size_le_of_decode (decode_of_spells spells [])
  rwa [List.append_nil] at shortest

theorem eq_of_spells (spells : Spells field length) (otherSpells : Spells other length)
    (alike : field.length = other.length) : field = other := by
  cases spells with
  | short low =>
      cases otherSpells with
      | short => rfl
      | long some_octets =>
          rw [List.length_singleton, List.length_cons] at alike
          omega
  | @long octets some_octets few bounded =>
      generalize same : Bytes.toNat octets = number at otherSpells
      cases otherSpells with
      | short =>
          rw [List.length_singleton, List.length_cons] at alike
          omega
      | @long others =>
          rw [List.length_cons, List.length_cons, Nat.succ_inj] at alike
          rw [Bytes.eq_of_toNat_eq alike same]

/-- The field that is written is the only shortest one. -/
theorem shortest_iff (fits : length ≤ maximum) : Shortest field length ↔ field = encode length := by
  constructor
  · intro shortest
    have written := spells_encode fits
    have upper := shortest.least _ written
    have lower := size_le_of_spells shortest.spells
    apply eq_of_spells shortest.spells written
    rw [length_encode] at upper ⊢
    omega
  · rintro rfl
    refine ⟨spells_encode fits, fun other spells => ?_⟩
    rw [length_encode]
    exact size_le_of_spells spells

end Length

/-- The bytes that spell an element with a shortest length field. -/
def SpellsShortest (piece : Bytes) (element : Element) : Prop :=
  ∃ field, Length.Shortest field element.value.length ∧
    piece = element.tag :: (field ++ element.value)

theorem spellsShortest_iff {piece : Bytes} {element : Element} (fits : element.Fits) :
    SpellsShortest piece element ↔ piece = element.encode := by
  unfold SpellsShortest
  simp only [Length.shortest_iff fits, exists_eq_left]
  rfl

theorem forall₂_spellsShortest_iff {pieces : List Bytes} {elements : List Element}
    (fit : ∀ element ∈ elements, element.Fits) :
    List.Forall₂ SpellsShortest pieces elements ↔ pieces = elements.map encode := by
  induction elements generalizing pieces with
  | nil => rw [List.forall₂_nil_right_iff, List.map_nil]
  | cons element elements inductionHypothesis =>
      obtain ⟨fits, others_fit⟩ := List.forall_mem_cons.mp fit
      rw [List.forall₂_cons_right_iff, List.map_cons]
      simp only [spellsShortest_iff fits, inductionHypothesis others_fit]
      constructor
      · rintro ⟨piece, others, rfl, rfl, rfl⟩
        rfl
      · rintro rfl
        exact ⟨_, _, rfl, rfl, rfl⟩

/-- Elements are spelled with shortest length fields just where they are written. -/
theorem exists_spellsShortest_iff {bytes : Bytes} {elements : List Element}
    (fit : ∀ element ∈ elements, element.Fits) :
    (∃ pieces, List.Forall₂ SpellsShortest pieces elements ∧ bytes = pieces.flatten) ↔
      encodeAll elements = bytes := by
  simp only [forall₂_spellsShortest_iff fit, exists_eq_left]
  exact eq_comm

theorem fit_of_decodeAll {bytes : Bytes} {elements : List Element}
    (read : decodeAll bytes = .ok elements) : ∀ element ∈ elements, element.Fits := by
  induction elements generalizing bytes with
  | nil =>
      intro element member
      cases member
  | cons element elements inductionHypothesis =>
      rcases decodeAll_eq_ok.mp read with ⟨-, absent⟩ | ⟨_, rest, _, first, restRead, same⟩
      · cases absent
      · cases same
        exact List.forall_mem_cons.mpr ⟨fits_of_decodeFirst first, inductionHypothesis restRead⟩

/-- Contents under one tag are written differently when they differ. -/
theorem encode_inj {tag : UInt8} {value other : Bytes} :
    encode ⟨tag, value⟩ = encode ⟨tag, other⟩ ↔ value = other := by
  constructor
  · intro same
    have sizes := congrArg List.length same
    simp only [length_encode, encodedSize] at sizes
    have alike : value.length = other.length := by
      rcases Nat.le_total value.length other.length with le | le
      · have := Length.size_mono le
        omega
      · have := Length.size_mono le
        omega
    rw [encode, encode, alike] at same
    exact List.append_cancel_left (List.cons.inj same).2
  · rintro rfl
    rfl

/-! ### Containers -/

namespace Container

variable {container : Container} {element : Element}

/-- How a container comes about: built from elements, read, or asked for its
content.  A copy is the container itself. -/
inductive Obtained : Container → Prop
  | built (tag : UInt8) {elements : List Element} (fit : ∀ element ∈ elements, element.Fits) :
      Obtained { tag, elements }
  | read {element : Element} {container : Container} (decoded : ofElement element = .ok container) :
      Obtained container
  | asked {container : Container} (obtained : Obtained container) : Obtained container.remember

/-- The container that is built from the same tag and elements. -/
def rebuilt (container : Container) : Container :=
  { tag := container.tag, elements := container.elements }

theorem rebuilt_beq (container : Container) : (container.rebuilt == container) = true := by
  show (container.tag == container.tag && container.elements == container.elements) = true
  simp

theorem ofElement_eq_ok :
    ofElement element = .ok container ↔
      decodeAll element.value = .ok container.elements ∧
        container = ⟨element.tag, container.elements, some element.value⟩ := by
  rw [ofElement, map_eq_ok]
  constructor
  · rintro ⟨elements, read, rfl⟩
    exact ⟨read, rfl⟩
  · rintro ⟨read, same⟩
    exact ⟨_, read, same.symm⟩

theorem toElement_of_ofElement (decoded : ofElement element = .ok container) :
    container.toElement = element := by
  obtain ⟨-, same⟩ := ofElement_eq_ok.mp decoded
  rw [same]
  rfl

theorem value_of_ofElement (decoded : ofElement element = .ok container) :
    container.value = element.value :=
  congrArg Element.value (toElement_of_ofElement decoded)

/-- The content spells the elements, wherever it comes from. -/
theorem decodeAll_value (obtained : Obtained container) :
    decodeAll container.value = .ok container.elements := by
  induction obtained with
  | built tag fit => exact decodeAll_encodeAll fit
  | read decoded =>
      rw [value_of_ofElement decoded]
      exact (ofElement_eq_ok.mp decoded).1
  | asked _ inductionHypothesis => exact inductionHypothesis

/-- A container is read from what it is written as, with its content at hand. -/
theorem decode_encode (obtained : Obtained container) (fits : container.toElement.Fits) :
    (Element.decode container.encode >>= ofElement) = .ok container.remember := by
  have whole : Element.decode container.encode = .ok container.toElement :=
    Element.decode_encode fits
  rw [whole, ok_bind]
  exact ofElement_eq_ok.mpr ⟨decodeAll_value obtained, rfl⟩

theorem length_encode_rebuilt_le (decoded : ofElement element = .ok container) :
    container.rebuilt.encode.length ≤ container.encode.length := by
  have shorter := length_encodeAll_le_of_decodeAll (decodeAll_value (.read decoded))
  have field := Length.size_mono shorter
  rw [encode, encode, Element.length_encode, Element.length_encode]
  show 1 + Length.size (encodeAll container.elements).length
      + (encodeAll container.elements).length
    ≤ 1 + Length.size container.value.length + container.value.length
  omega

theorem encode_rebuilt_eq_iff (decoded : ofElement element = .ok container) :
    container.rebuilt.encode = container.encode ↔
      ∃ pieces, List.Forall₂ SpellsShortest pieces container.elements ∧
        element.value = pieces.flatten := by
  have read := decodeAll_value (.read decoded)
  rw [exists_spellsShortest_iff (fit_of_decodeAll read), ← value_of_ofElement decoded]
  exact encode_inj

/-- What a container remembers agrees with its elements.  Its content is split into
them; it is read back from what it is written as, and written the same again.  One
that was read gives back its element, and is written anew in no more bytes: in the
same ones just when its content has shortest length fields only. -/
theorem content_coherent :
    (∀ container, Obtained container →
      decodeAll container.value = .ok container.elements ∧
        (container.toElement.Fits →
          ∃ again, (Element.decode container.encode >>= ofElement) = .ok again ∧
            (again == container) = true ∧ again.encode = container.encode)) ∧
    ∀ element container, ofElement element = .ok container →
      container.toElement = element ∧ (container.rebuilt == container) = true ∧
        container.rebuilt.encode.length ≤ container.encode.length ∧
        (container.rebuilt.encode = container.encode ↔
          ∃ pieces, List.Forall₂ SpellsShortest pieces container.elements ∧
            element.value = pieces.flatten) := by
  constructor
  · intro container obtained
    refine ⟨decodeAll_value obtained, fun fits => ?_⟩
    exact ⟨container.remember, decode_encode obtained fits, remember_beq container, rfl⟩
  · intro element container decoded
    exact ⟨toElement_of_ofElement decoded, rebuilt_beq container,
      length_encode_rebuilt_le decoded, encode_rebuilt_eq_iff decoded⟩

/-- A sequence whose first element has a length field of three bytes, where one is enough. -/
def padded : Element :=
  ⟨Tag.sequence, [0x04, 0x82, 0x00, 0x01, 0x61, 0x05, 0x00]⟩

theorem content_coherent_padded :
    ∃ container, ofElement padded = .ok container ∧
      container.elements = [⟨0x04, [0x61]⟩, null] ∧ container.toElement = padded ∧
      decodeAll container.remember.value = .ok container.elements ∧
      (∃ again, (Element.decode container.encode >>= ofElement) = .ok again ∧
        (again == container) = true ∧ again.encode = container.encode) ∧
      container.rebuilt.encode = [0x30, 0x05, 0x04, 0x01, 0x61, 0x05, 0x00] ∧
      ¬∃ pieces, List.Forall₂ SpellsShortest pieces container.elements ∧
        padded.value = pieces.flatten := by
  have decoded : ofElement padded =
      .ok ⟨Tag.sequence, [⟨0x04, [0x61]⟩, null], some padded.value⟩ := by
    rw [ofElement_eq_ok]
    exact ⟨by decide +kernel, rfl⟩
  obtain ⟨coherent, read⟩ := content_coherent
  obtain ⟨given_back, -, -, same_iff⟩ := read _ _ decoded
  have fits : (Container.toElement ⟨Tag.sequence, [⟨0x04, [0x61]⟩, null],
      some padded.value⟩).Fits := by
    unfold Fits
    decide
  refine ⟨_, decoded, rfl, given_back, (coherent _ (.asked (.read decoded))).1,
    (coherent _ (.read decoded)).2 fits, by decide, fun shortest => ?_⟩
  exact absurd (same_iff.mpr shortest) (by decide)

end Container

end Element

end DirectoryInterchange
