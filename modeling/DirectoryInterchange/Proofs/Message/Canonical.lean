import DirectoryInterchange.Proofs.Element.Shortening
import DirectoryInterchange.Proofs.Message.Framing
import DirectoryInterchange.Proofs.Message.RoundTrip

/-!
What was read as a message is written again in no more bytes.

Reading forgives long length fields and integers, any byte for true, a false
that is spelled out, an empty list of controls, and parts behind the last one
expected.  None of it is written again, so the form of what was read takes the
place of the element without growing.
-/

namespace DirectoryInterchange.Message

open Element (encodeAll)

variable {element : Element}

/-! ### Steps of reading -/

theorem ofElement_eq_ok {Value : Type} {result : Except Element.Error Value} {value : Value} :
    ofElement result = .ok value ↔ result = .ok value := by
  cases result <;> simp [ofElement, Except.mapError]

theorem next_eq_ok {part : Part} {parts rest : List Element} {first : Element}
    (split : next part parts = .ok (first, rest)) : parts = first :: rest := by
  cases parts with
  | nil => cases split
  | cons head tail => cases split; rfl

/-- Parts that are written in no more bytes than the children of an element
fit around the tag in its place. -/
theorem around_of_children {tag : UInt8} {parts written : List Element}
    (read : children element = .ok parts)
    (shorter : (encodeAll written).length ≤ (encodeAll parts).length) :
    (around tag written).NoLongerThan element := by
  have bounded := Element.length_encodeAll_le_of_decodeAll (ofElement_eq_ok.mp read)
  exact .of_value (Nat.le_trans shorter bounded)

theorem length_encodeAll_cons_le {form first : Element} {written parts : List Element}
    (one : form.NoLongerThan first)
    (others : (encodeAll written).length ≤ (encodeAll parts).length) :
    (encodeAll (form :: written)).length ≤ (encodeAll (first :: parts)).length := by
  rw [Element.encodeAll_cons, Element.encodeAll_cons, List.length_append, List.length_append,
    Element.length_encode, Element.length_encode]
  exact Nat.add_le_add one others

/-- Behind the second part nothing is written. -/
theorem around_two_of_children {tag : UInt8} {front back first second : Element}
    {behind : List Element} (read : children element = .ok (first :: second :: behind))
    (one : front.NoLongerThan first) (other : back.NoLongerThan second) :
    (around tag [front, back]).NoLongerThan element :=
  around_of_children read
    (length_encodeAll_cons_le one (length_encodeAll_cons_le other (Nat.zero_le _)))

section Items

variable {Item : Type} {form : Item → Element} {decode : Element → Decoded Item}
  (one : ∀ element item, decode element = .ok item → (form item).NoLongerThan element)

include one

theorem length_forms_le {elements : List Element} {items : List Item}
    (decoded : elements.mapM decode = .ok items) :
    (encodeAll (items.map form)).length ≤ (encodeAll elements).length := by
  induction elements generalizing items with
  | nil =>
      cases decoded
      exact Nat.le_refl _
  | cons element elements inductionHypothesis =>
      rw [List.mapM_cons] at decoded
      obtain ⟨item, first, decoded⟩ := bind_eq_ok.mp decoded
      obtain ⟨others, rest, same⟩ := bind_eq_ok.mp decoded
      cases same
      exact length_encodeAll_cons_le (one element item first) (inductionHypothesis rest)

/-- A part that may be missing, with whatever is behind it. -/
theorem length_optional_le {parts : List Element} {item : Option Item}
    (decoded : parts.head?.mapM decode = .ok item) :
    (encodeAll (item.map form).toList).length ≤ (encodeAll parts).length := by
  cases parts with
  | nil =>
      cases decoded
      exact Nat.le_refl _
  | cons first rest =>
      have present : (decode first).map some = .ok item := decoded
      obtain ⟨found, read, rfl⟩ := map_eq_ok.mp present
      exact length_encodeAll_cons_le (one first found read) (Nat.zero_le _)

end Items

/-! ### Texts, values, truth values and integers -/

theorem encode_of_asText {text : String} (read : element.asText = .ok text) :
    Utf8.encode text = element.value := by
  rw [Element.asText, Element.Text.decode] at read
  split at read
  · next found =>
      cases read
      exact Utf8.encode_of_decode? found
  · cases read

theorem ofText_of_asText {text : String} (read : element.asText = .ok text) (tag : UInt8) :
    (Element.ofText text tag).NoLongerThan element :=
  .of_value (Nat.le_of_eq (congrArg List.length (encode_of_asText read)))

theorem ofText_of_decodeText {tag : UInt8} {text : String}
    (decoded : decodeText tag element = .ok text) :
    (Element.ofText text tag).NoLongerThan element := by
  obtain ⟨_, -, read⟩ := bind_eq_ok.mp decoded
  exact ofText_of_asText (ofElement_eq_ok.mp read) tag

theorem valueForm_of_decodeValue {value : Bytes} (decoded : decodeValue element = .ok value) :
    (valueForm value).NoLongerThan element := by
  obtain ⟨_, -, read⟩ := bind_eq_ok.mp decoded
  cases read
  exact .of_value (Nat.le_refl _)

theorem ofBoolean_of_asBoolean {flag : Bool} (read : element.asBoolean = .ok flag) (tag : UInt8) :
    (Element.ofBoolean flag tag).NoLongerThan element := by
  refine .of_value ?_
  rw [Element.asBoolean] at read
  cases value : element.value with
  | nil => rw [value] at read; cases read
  | cons byte rest => cases flag <;> simp [Element.ofBoolean, Element.Boolean.encode]

theorem ofInteger_of_asInteger {number : Int32} (read : element.asInteger = .ok number)
    (tag : UInt8) : (Element.ofInteger number.toInt64 tag).NoLongerThan element :=
  .of_value (Element.Integer.length_encode_le_of_decode read)

/-! ### Attributes and modifications -/

theorem attributeForm_of_decode {attr : Attribute} (decoded : decodeAttribute element = .ok attr) :
    (attributeForm attr).NoLongerThan element := by
  simp only [decodeAttribute, bind_eq_ok, Prod.exists] at decoded
  obtain ⟨_, -, parts, read, type, afterType, first, name, named, set, afterSet, second, _, -,
    inside, readSet, values, valued, same⟩ := decoded
  cases same
  cases next_eq_ok first
  cases next_eq_ok second
  refine around_two_of_children read (ofText_of_decodeText named) ?_
  exact around_of_children readSet (length_forms_le (fun _ _ => valueForm_of_decodeValue) valued)

theorem attributesForm_of_decode {attributes : List Attribute}
    (decoded : decodeAttributes element = .ok attributes) :
    (attributesForm attributes).NoLongerThan element := by
  obtain ⟨_, -, decoded⟩ := bind_eq_ok.mp decoded
  obtain ⟨parts, read, decoded⟩ := bind_eq_ok.mp decoded
  exact around_of_children read (length_forms_le (fun _ _ => attributeForm_of_decode) decoded)

theorem code_of_ofCode? {code : Int32} {kind : ModificationKind}
    (found : ModificationKind.ofCode? code = some kind) : kind.code = code := by
  simpa using List.find?_some found

theorem modificationForm_of_decode {modification : Modification}
    (decoded : decodeModification element = .ok modification) :
    (modificationForm modification).NoLongerThan element := by
  simp only [decodeModification, bind_eq_ok, Prod.exists] at decoded
  obtain ⟨_, -, parts, read, operation, afterOperation, first, _, -, code, number, decoded⟩ :=
    decoded
  cases found : ModificationKind.ofCode? code with
  | none => simp [found] at decoded
  | some kind =>
      simp only [found, bind_eq_ok, Prod.exists] at decoded
      obtain ⟨target, afterTarget, second, attr, targeted, same⟩ := decoded
      cases same
      cases next_eq_ok first
      cases next_eq_ok second
      refine around_two_of_children read ?_ (attributeForm_of_decode targeted)
      rw [Element.ofEnumerated, code_of_ofCode? found]
      exact ofInteger_of_asInteger (ofElement_eq_ok.mp number) _

/-! ### Operations -/

theorem entry_of_decode {dn : String} {attributes : List Attribute} (tag : UInt8)
    (decoded : decodeEntry element = .ok (dn, attributes)) :
    (around tag [textForm dn, attributesForm attributes]).NoLongerThan element := by
  simp only [decodeEntry, bind_eq_ok, Prod.exists] at decoded
  obtain ⟨parts, read, name, afterName, first, text, named, list, afterList, second, found, listed,
    same⟩ := decoded
  cases same
  cases next_eq_ok first
  cases next_eq_ok second
  exact around_two_of_children read (ofText_of_decodeText named) (attributesForm_of_decode listed)

theorem modify_of_decode {dn : String} {modifications : List Modification} (tag : UInt8)
    (decoded : decodeModify element = .ok (dn, modifications)) :
    (around tag [textForm dn,
      around Element.Tag.sequence (modifications.map modificationForm)]).NoLongerThan element := by
  simp only [decodeModify, bind_eq_ok, Prod.exists] at decoded
  obtain ⟨parts, read, name, afterName, first, text, named, changes, afterChanges, second, _, -,
    inside, readChanges, found, modified, same⟩ := decoded
  cases same
  cases next_eq_ok first
  cases next_eq_ok second
  refine around_two_of_children read (ofText_of_decodeText named) ?_
  exact around_of_children readChanges
    (length_forms_le (fun _ _ => modificationForm_of_decode) modified)

theorem modifyDn_of_decode {dn : String} {change : Change}
    (decoded : decodeModifyDn element = .ok (dn, change)) :
    (operationForm dn (.request change)).NoLongerThan element := by
  simp only [decodeModifyDn, bind_eq_ok, Prod.exists] at decoded
  obtain ⟨parts, read, name, afterName, first, text, named, rdn, afterRdn, second, newRdn, renamed,
    flag, afterFlag, third, _, -, deleteOldRdn, flagged, newSuperior, moved, same⟩ := decoded
  cases same
  cases next_eq_ok first
  cases next_eq_ok second
  cases next_eq_ok third
  refine around_of_children read (length_encodeAll_cons_le ?_ (length_encodeAll_cons_le ?_
    (length_encodeAll_cons_le ?_ ?_)))
  · exact ofText_of_decodeText named
  · exact ofText_of_decodeText renamed
  · exact ofBoolean_of_asBoolean (ofElement_eq_ok.mp flagged) _
  · exact length_optional_le (fun _ _ => ofText_of_decodeText) moved

theorem operationForm_of_decode {dn : String} {operation : Operation}
    (decoded : decodeOperation element = .ok (dn, operation)) :
    (operationForm dn operation).NoLongerThan element := by
  rw [decodeOperation] at decoded
  split at decoded
  · obtain ⟨text, read, same⟩ := bind_eq_ok.mp decoded
    cases same
    exact ofText_of_asText (ofElement_eq_ok.mp read) _
  split at decoded
  · obtain ⟨⟨name, attributes⟩, read, same⟩ := bind_eq_ok.mp decoded
    cases same
    exact entry_of_decode _ read
  split at decoded
  · obtain ⟨⟨name, attributes⟩, read, same⟩ := bind_eq_ok.mp decoded
    cases same
    exact entry_of_decode _ read
  split at decoded
  · obtain ⟨⟨name, modifications⟩, read, same⟩ := bind_eq_ok.mp decoded
    cases same
    exact modify_of_decode _ read
  split at decoded
  · obtain ⟨⟨name, change⟩, read, same⟩ := bind_eq_ok.mp decoded
    cases same
    exact modifyDn_of_decode read
  · cases decoded

/-! ### Controls -/

theorem length_criticality_le {parts rest : List Element} {critical : Bool}
    {written : List Element} (decoded : decodeCriticality parts = .ok (critical, rest))
    (behind : (encodeAll written).length ≤ (encodeAll rest).length) :
    (encodeAll ((if critical then [.ofBoolean true] else []) ++ written)).length
      ≤ (encodeAll parts).length := by
  cases parts with
  | nil =>
      cases decoded
      exact behind
  | cons first others =>
      rw [decodeCriticality] at decoded
      split at decoded
      · obtain ⟨flag, read, same⟩ := map_eq_ok.mp (ofElement_eq_ok.mp decoded)
        cases same
        cases critical with
        | true => exact length_encodeAll_cons_le (ofBoolean_of_asBoolean read _) behind
        | false =>
            refine Nat.le_trans behind ?_
            rw [Element.encodeAll_cons, List.length_append]
            exact Nat.le_add_left _ _
      · cases decoded
        exact behind

theorem controlForm_of_decode {control : Control} (decoded : decodeControl element = .ok control) :
    (controlForm control).NoLongerThan element := by
  simp only [decodeControl, bind_eq_ok, Prod.exists] at decoded
  obtain ⟨_, -, parts, read, type, afterType, first, oid, typed, critical, afterFlag, flagged,
    value, valued, same⟩ := decoded
  cases same
  cases next_eq_ok first
  refine around_of_children read (length_encodeAll_cons_le ?_ (length_criticality_le flagged ?_))
  · exact ofText_of_decodeText typed
  · exact length_optional_le (fun _ _ => valueForm_of_decodeValue) valued

theorem length_controlsForm_le {controls : List Control}
    (decoded : decodeControls element = .ok controls) :
    (encodeAll (controlsForm controls)).length ≤ (encodeAll [element]).length := by
  obtain ⟨_, -, decoded⟩ := bind_eq_ok.mp decoded
  obtain ⟨parts, read, decoded⟩ := bind_eq_ok.mp decoded
  rw [controlsForm]
  split
  · exact Nat.zero_le _
  · exact length_encodeAll_cons_le (around_of_children read
      (length_forms_le (fun _ _ => controlForm_of_decode) decoded)) (Nat.le_refl _)

/-! ### Messages -/

/-- The parts behind the operation: none, or the controls and nothing else. -/
theorem parts_of_decode {message : Message} (decoded : decode element = .ok message) :
    ∃ number body behind, children element = .ok (number :: body :: behind)
      ∧ (number.asInteger = .ok message.id ∧ 0 ≤ message.id)
      ∧ decodeOperation body = .ok (message.dn, message.operation)
      ∧ (message.controls = [] ∨
        ∃ held, behind = [held] ∧ decodeControls held = .ok message.controls) := by
  simp only [decode, bind_eq_ok, Prod.exists] at decoded
  obtain ⟨_, -, parts, read, number, afterNumber, first, _, -, id, numbered, decoded⟩ := decoded
  cases next_eq_ok first
  split at decoded
  · cases decoded
  next counts =>
  simp only [bind_eq_ok, Prod.exists] at decoded
  obtain ⟨body, behind, second, dn, operation, operated, decoded⟩ := decoded
  cases next_eq_ok second
  have identified : number.asInteger = .ok id ∧ 0 ≤ id :=
    ⟨ofElement_eq_ok.mp numbered, Int32.not_lt.mp counts⟩
  refine ⟨number, body, behind, read, ?_⟩
  rcases behind with _ | ⟨held, _ | ⟨extra, more⟩⟩
  · cases decoded
    exact ⟨identified, operated, .inl rfl⟩
  · obtain ⟨controls, controlled, same⟩ := bind_eq_ok.mp decoded
    cases same
    exact ⟨identified, operated, .inr ⟨held, rfl, controlled⟩⟩
  · obtain ⟨controls, controlled, failed⟩ := bind_eq_ok.mp decoded
    cases failed

/-- The form of what was read is no longer than what it was read from. -/
theorem form_of_decode {message : Message} (decoded : decode element = .ok message) :
    message.form.value.length ≤ element.value.length ∧ 0 ≤ message.id := by
  obtain ⟨number, body, behind, read, ⟨numbered, counts⟩, operated, controlled⟩ :=
    parts_of_decode decoded
  have bounded := Element.length_encodeAll_le_of_decodeAll (ofElement_eq_ok.mp read)
  refine ⟨Nat.le_trans (length_encodeAll_cons_le ?_ (length_encodeAll_cons_le ?_ ?_)) bounded, counts⟩
  · exact ofInteger_of_asInteger numbered _
  · exact operationForm_of_decode operated
  · rcases controlled with none_held | ⟨held, rfl, listed⟩
    · rw [none_held]
      exact Nat.zero_le _
    · exact length_controlsForm_le listed

namespace Codec

variable {codec : Codec} {buffer rest : Bytes} {message : Message}

/-- Whatever is taken in can be passed on: it is written in no more bytes than
it came in, and is taken in again as it is, whatever the limit. -/
theorem passes_on (codec : Codec)
    (accepted : codec.decode buffer = (.ok (some message), rest)) :
    ∃ consumed, buffer = consumed ++ rest ∧ message.encode.length ≤ consumed.length
      ∧ codec.decode message.encode = (.ok (some message), [])
      ∧ ∀ again, (codec.decode message.encode).1 = .ok (some again) →
        again.encode = message.encode := by
  obtain ⟨element, taken, decoded⟩ := decode_eq_some_iff.mp accepted
  obtain ⟨read, within⟩ := Element.Frame.take?_eq_some_iff.mp taken
  obtain ⟨shorter, nonnegative⟩ := form_of_decode decoded
  obtain ⟨consumed, rfl⟩ := Element.suffix_of_decodeFirst read
  have fits : message.form.Fits := Nat.le_trans shorter (Element.fits_of_decodeFirst read)
  have returned := decode_encode nonnegative fits (Nat.le_trans shorter within) []
  rw [List.append_nil] at returned
  refine ⟨consumed, rfl, ?_, returned, fun again answered => ?_⟩
  · have grown := Element.NoLongerThan.of_value shorter
    have used := Element.encodedSize_le_of_decodeFirst read
    rw [Element.NoLongerThan] at grown
    rw [List.length_append] at used
    rw [encode_eq_form, Element.length_encode]
    omega
  · rw [returned] at answered
    cases answered
    rfl

/-- A renaming with long length fields, a padded number, a true of 7, a false
spelled out, and parts that nothing is made of, in front of the next element. -/
def verbose : Bytes :=
  [0x30, 0x82, 0x00, 0x2b, 0x02, 0x03, 0x00, 0x00, 0x05,
    0x6c, 0x12, 0x04, 0x82, 0x00, 0x01, 0x61, 0x04, 0x01, 0x62, 0x01, 0x01, 0x07,
    0x80, 0x82, 0x00, 0x01, 0x63, 0x05, 0x00,
    0xa0, 0x82, 0x00, 0x0e, 0x30, 0x0c, 0x04, 0x03, 0x31, 0x2e, 0x32, 0x01, 0x01, 0x00,
    0x04, 0x00, 0x05, 0x00, 0x30, 0x05]

/-- What `verbose` says. -/
def renamed : Message where
  id := 5
  dn := "a"
  operation := .request (.modifyDn "b" true (some "c"))
  controls := [⟨"1.2", false, some []⟩]

theorem passes_on_verbose :
    ({ limit := 43 } : Codec).decode verbose = (.ok (some renamed), [0x30, 0x05])
      ∧ renamed.encode.length = 30
      ∧ ∃ consumed, verbose = consumed ++ [0x30, 0x05] ∧ renamed.encode.length ≤ consumed.length
        ∧ ({ limit := 43 } : Codec).decode renamed.encode = (.ok (some renamed), [])
        ∧ ∀ again, (({ limit := 43 } : Codec).decode renamed.encode).1 = .ok (some again) →
          again.encode = renamed.encode := by
  have accepted : ({ limit := 43 } : Codec).decode verbose =
      (.ok (some renamed), [0x30, 0x05]) := by decide +kernel
  exact ⟨accepted, by decide +kernel, passes_on { limit := 43 } accepted⟩

end Codec

end DirectoryInterchange.Message
