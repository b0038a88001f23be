import DirectoryInterchange.Message.Decoding
import DirectoryInterchange.Proofs.Element.Integer
import DirectoryInterchange.Proofs.Message.Form
import DirectoryInterchange.Proofs.Steps

/-!
What is written as a message is read as that message.

Reading takes the form of a message apart again.  The only bound is that the
content of the outermost element fits its length field; every element inside
is shorter.
-/

namespace DirectoryInterchange.Message

open Element (encodeAll)

theorem mapM_form {Item : Type} {form : Item → Element} {decode : Element → Decoded Item}
    {items : List Item} (one : ∀ item ∈ items, decode (form item) = .ok item) :
    (items.map form).mapM decode = .ok items := by
  induction items with
  | nil => rfl
  | cons item items inductionHypothesis =>
      have first := one item List.mem_cons_self
      have rest := inductionHypothesis fun other member => one other (List.mem_cons_of_mem _ member)
      rw [List.map_cons, List.mapM_cons, first, rest]
      rfl

/-! ### Taking elements apart -/

theorem fits_of_around {tag : UInt8} {parts : List Element} (fits : (around tag parts).Fits)
    {part : Element} (member : part ∈ parts) : part.Fits := by
  have inside : (part.encode).length ≤ (encodeAll parts).length := by
    obtain ⟨before, after, rfl⟩ := List.append_of_mem member
    simp
    omega
  have shorter : part.value.length ≤ part.encode.length := by
    rw [Element.length_encode, Element.encodedSize]
    omega
  exact Nat.le_trans (Nat.le_trans shorter inside) fits

theorem children_around {tag : UInt8} {parts : List Element} (fits : (around tag parts).Fits) :
    children (around tag parts) = .ok parts := by
  rw [children, Element.children, around, Element.decodeAll_encodeAll]
  · rfl
  · exact fun part member => fits_of_around fits member

theorem expectTag_self (element : Element) : expectTag element element.tag = .ok () := by
  rw [expectTag, Element.expectTag, if_pos rfl]
  rfl

theorem decodeText_ofText (text : String) (tag : UInt8) :
    decodeText tag (.ofText text tag) = .ok text := by
  have tagged : expectTag (.ofText text tag) tag = .ok () :=
    expectTag_self (.ofText text tag)
  rw [decodeText, tagged, ok_bind, Element.asText, Element.Text.decode]
  simp only [Element.ofText, Utf8.decode?_encode]
  rfl

@[simp] theorem decodeText_form (text : String) :
    decodeText Element.Tag.octetString (textForm text) = .ok text :=
  decodeText_ofText text Element.Tag.octetString

@[simp] theorem decodeValue_form (value : Bytes) : decodeValue (valueForm value) = .ok value :=
  rfl

@[simp] theorem expectTag_around (tag : UInt8) (parts : List Element) :
    expectTag (around tag parts) tag = .ok () :=
  expectTag_self (around tag parts)

@[simp] theorem next_cons (part : Part) (element : Element) (rest : List Element) :
    next part (element :: rest) = .ok (element, rest) := rfl

/-- A part that may be missing is read when it is there. -/
theorem mapM_optional {Item : Type} {form : Item → Element} {decode : Element → Decoded Item}
    (one : ∀ item, decode (form item) = .ok item) (item : Option Item) :
    (item.map form).toList.head?.mapM decode = .ok item := by
  cases item with
  | none => rfl
  | some item => exact congrArg (Except.map some) (one item)

/-- Whatever is laid around parts of the same form is read part by part. -/
theorem mapM_around {Item : Type} {itemForm : Item → Element} {decodeItem : Element → Decoded Item}
    {tag : UInt8} {items : List Item} (fits : (around tag (items.map itemForm)).Fits)
    (one : ∀ item, (itemForm item).Fits → decodeItem (itemForm item) = .ok item) :
    (items.map itemForm).mapM decodeItem = .ok items := by
  refine mapM_form fun item member => one item ?_
  exact fits_of_around fits (List.mem_map_of_mem member)

/-! ### Attributes and modifications -/

theorem decodeAttribute_form {attr : Attribute} (fits : (attributeForm attr).Fits) :
    decodeAttribute (attributeForm attr) = .ok attr := by
  rw [attributeForm] at fits ⊢
  have fitting := fits_of_around fits (List.mem_cons_of_mem _ List.mem_cons_self)
  have parts := children_around fits
  have set := children_around fitting
  have values := mapM_around fitting fun value _ => decodeValue_form value
  simp only [decodeAttribute, expectTag_around, parts, set, values, next_cons, ok_bind,
    decodeText_form, pure_eq_ok]

theorem decodeAttributes_form {attributes : List Attribute}
    (fits : (attributesForm attributes).Fits) :
    decodeAttributes (attributesForm attributes) = .ok attributes := by
  rw [attributesForm] at fits ⊢
  have parts := children_around fits
  have decoded := mapM_around fits fun _ => decodeAttribute_form
  simp only [decodeAttributes, expectTag_around, parts, ok_bind, decoded]

theorem asInteger_kind (kind : ModificationKind) :
    (Element.ofEnumerated kind.code.toInt64).asInteger = .ok kind.code :=
  Element.Integer.decode_encode kind.code

theorem expectTag_kind (kind : ModificationKind) :
    expectTag (.ofEnumerated kind.code.toInt64) Element.Tag.enumerated = .ok () :=
  expectTag_self (.ofEnumerated kind.code.toInt64)

theorem decodeModification_form {modification : Modification}
    (fits : (modificationForm modification).Fits) :
    decodeModification (modificationForm modification) = .ok modification := by
  rw [modificationForm] at fits ⊢
  have fitting := fits_of_around fits (List.mem_cons_of_mem _ List.mem_cons_self)
  have parts := children_around fits
  have target := decodeAttribute_form fitting
  have code : ofElement (.ok modification.kind.code) = .ok modification.kind.code := rfl
  simp only [decodeModification, expectTag_around, parts, next_cons, ok_bind, expectTag_kind,
    asInteger_kind, code, ModificationKind.ofCode?_code, target, pure_eq_ok]

/-! ### Operations -/

theorem decodeEntry_form {tag : UInt8} {dn : String} {attributes : List Attribute}
    (fits : (around tag [textForm dn, attributesForm attributes]).Fits) :
    decodeEntry (around tag [textForm dn, attributesForm attributes]) = .ok (dn, attributes) := by
  have fitting := fits_of_around fits (List.mem_cons_of_mem _ List.mem_cons_self)
  have parts := children_around fits
  have decoded := decodeAttributes_form fitting
  simp only [decodeEntry, parts, next_cons, ok_bind, decodeText_form, decoded, pure_eq_ok]

theorem decodeModify_form {tag : UInt8} {dn : String} {modifications : List Modification}
    (fits : (around tag [textForm dn,
      around Element.Tag.sequence (modifications.map modificationForm)]).Fits) :
    decodeModify (around tag [textForm dn,
      around Element.Tag.sequence (modifications.map modificationForm)])
      = .ok (dn, modifications) := by
  have fitting := fits_of_around fits (List.mem_cons_of_mem _ List.mem_cons_self)
  have parts := children_around fits
  have changes := children_around fitting
  have decoded := mapM_around fitting fun _ => decodeModification_form
  simp only [decodeModify, parts, next_cons, ok_bind, decodeText_form, expectTag_around, changes,
    decoded, pure_eq_ok]

theorem decodeFlag_form (flag : Bool) :
    expectTag (.ofBoolean flag) Element.Tag.boolean = .ok ()
      ∧ ofElement (Element.ofBoolean flag).asBoolean = .ok flag := by
  refine ⟨expectTag_self (.ofBoolean flag), ?_⟩
  rw [Element.asBoolean, Element.ofBoolean, Element.Boolean.decode_encode]
  rfl

theorem decodeModifyDn_form {dn newRdn : String} {deleteOldRdn : Bool}
    {newSuperior : Option String}
    (fits : (operationForm dn (.request (.modifyDn newRdn deleteOldRdn newSuperior))).Fits) :
    decodeModifyDn (operationForm dn (.request (.modifyDn newRdn deleteOldRdn newSuperior)))
      = .ok (dn, .modifyDn newRdn deleteOldRdn newSuperior) := by
  rw [operationForm] at fits ⊢
  have parts := children_around fits
  rw [List.cons_append, List.cons_append, List.cons_append, List.nil_append] at parts ⊢
  obtain ⟨flagged, flag⟩ := decodeFlag_form deleteOldRdn
  have superior : (newSuperior.map superiorForm).toList.head?.mapM (decodeText newSuperiorTag)
      = .ok newSuperior :=
    mapM_optional (fun name => decodeText_ofText name newSuperiorTag) newSuperior
  simp only [decodeModifyDn, parts, next_cons, ok_bind, decodeText_form, flagged, flag, superior,
    pure_eq_ok]

theorem tag_operationForm (dn : String) (operation : Operation) :
    (operationForm dn operation).tag = operation.tag := by
  cases operation with
  | searchResult attributes => rfl
  | request change => cases change <;> rfl

theorem decodeOperation_form {dn : String} {operation : Operation}
    (fits : (operationForm dn operation).Fits) :
    decodeOperation (operationForm dn operation) = .ok (dn, operation) := by
  rw [decodeOperation, tag_operationForm]
  cases operation with
  | searchResult attributes =>
      have decoded := @decodeEntry_form 0x64 dn attributes fits
      simp [Operation.tag, operationForm, decoded]
  | request change =>
      cases change with
      | add attributes =>
          have decoded := @decodeEntry_form 0x68 dn attributes fits
          simp [Operation.tag, operationForm, decoded]
      | delete =>
          have name : ofElement (.ok dn) = .ok dn := rfl
          simp [Operation.tag, operationForm, Element.asText, Element.ofText, Element.Text.decode,
            name]
      | modify modifications =>
          have decoded := @decodeModify_form 0x66 dn modifications fits
          simp [Operation.tag, operationForm, decoded]
      | modifyDn newRdn deleteOldRdn newSuperior =>
          have decoded := decodeModifyDn_form fits
          simp [Operation.tag, decoded]

/-! ### Controls -/

theorem decodeCriticality_form (critical : Bool) (value : Option Bytes) :
    decodeCriticality ((if critical then [.ofBoolean true] else [])
        ++ (value.map valueForm).toList) = .ok (critical, (value.map valueForm).toList) := by
  cases critical with
  | true => rfl
  | false => cases value <;> rfl

theorem decodeControl_form {control : Control} (fits : (controlForm control).Fits) :
    decodeControl (controlForm control) = .ok control := by
  rw [controlForm, List.cons_append] at fits ⊢
  have parts := children_around fits
  have criticality := decodeCriticality_form control.critical control.value
  have value := mapM_optional decodeValue_form control.value
  simp only [decodeControl, expectTag_around, parts, next_cons, ok_bind, decodeText_form,
    criticality, value, pure_eq_ok]

theorem decodeControls_form {controls : List Control}
    (fits : (around controlsTag (controls.map controlForm)).Fits) :
    decodeControls (around controlsTag (controls.map controlForm)) = .ok controls := by
  have parts := children_around fits
  have decoded := mapM_around fits fun _ => decodeControl_form
  simp only [decodeControls, expectTag_around, parts, ok_bind, decoded]

/-! ### Messages -/

theorem asInteger_id (id : Int32) :
    expectTag (.ofInteger id.toInt64) Element.Tag.integer = .ok ()
      ∧ ofElement (Element.ofInteger id.toInt64).asInteger = .ok id := by
  refine ⟨expectTag_self (.ofInteger id.toInt64), ?_⟩
  rw [Element.asInteger, Element.ofInteger, Element.Integer.decode_encode]
  rfl

theorem decode_form {message : Message} (nonnegative : 0 ≤ message.id)
    (fits : message.form.Fits) : decode message.form = .ok message := by
  obtain ⟨id, dn, operation, controls⟩ := message
  have parts := children_around fits
  have body := decodeOperation_form
    (fits_of_around fits (List.mem_cons_of_mem _ List.mem_cons_self))
  obtain ⟨numbered, number⟩ := asInteger_id id
  have counts : ¬id < 0 := Int32.not_lt.mpr nonnegative
  simp only at parts body
  cases controls with
  | nil =>
      simp only [decode, form, controlsForm, List.isEmpty_nil, if_true] at parts ⊢
      simp only [expectTag_around, parts, next_cons, ok_bind, numbered, number, if_neg counts,
        body, pure_eq_ok, List.drop_nil]
  | cons control controls =>
      have held : around controlsTag ((control :: controls).map controlForm) ∈
          controlsForm (control :: controls) := List.mem_singleton.mpr rfl
      have decoded := decodeControls_form (fits_of_around fits
        (List.mem_cons_of_mem _ (List.mem_cons_of_mem _ held)))
      simp only [decode, form, controlsForm, List.isEmpty_cons, Bool.false_eq_true, if_false]
        at parts ⊢
      simp only [expectTag_around, parts, next_cons, ok_bind, numbered, number, if_neg counts,
        body, pure_eq_ok, decoded]
      rfl

/-- What is written as a message is one element, and that element is read as
the message. -/
theorem decode_written {message : Message} (nonnegative : 0 ≤ message.id)
    (fits : message.form.Fits) :
    ∃ element, Element.decode message.encode = .ok element ∧ decode element = .ok message := by
  refine ⟨message.form, ?_, decode_form nonnegative fits⟩
  rw [encode_eq_form]
  exact Element.decode_encode fits

/-- A change with an attribute that has no values and with an empty control. -/
def modifyRequest : Message where
  id := 7
  dn := "cn=ü"
  operation := .request (.modify [⟨.delete, "mail", []⟩, ⟨.add, "sn", [[0x61], []]⟩])
  controls := [⟨"1.2", true, some []⟩, ⟨"1.3", false, none⟩]

theorem decode_written_modifyRequest :
    ∃ element, Element.decode modifyRequest.encode = .ok element
      ∧ decode element = .ok modifyRequest :=
  @decode_written modifyRequest (by decide) (by unfold Element.Fits; decide +kernel)

end DirectoryInterchange.Message
