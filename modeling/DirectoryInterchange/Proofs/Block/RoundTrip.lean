import Mathlib.Data.List.Forall2
import DirectoryInterchange.Proofs.Block.Form

/-!
The lines of a record that keeps the rules are read as that record.
-/

namespace DirectoryInterchange.Block

open Rendering

variable (context : Context)

/-! ### Lines of text -/

theorem line_nameValue
    {name : String} (described : Line.isDescription name = true) (value : Bytes) :
    context.line (nameValue name value) = .ok ⟨name, value⟩ :=
  Line.parse_nameValue context.files context.options.maximumFileSize described value

theorem text_encode (name text what : String) :
    Line.text ⟨name, Utf8.encode text⟩ what = .ok text := by
  rw [Line.text, Utf8.decode?_encode]

theorem parseDn_textLine (dn : String) : parseDn context (textLine "dn" dn) = .ok dn := by
  have same : Line.hasName ⟨"dn", Utf8.encode dn⟩ "dn" = true := Ascii.sameLetters_self "dn"
  rw [parseDn, textLine, line_nameValue context (by decide), ok_bind]
  simp [same, text_encode]

theorem parseKeyword_textLine
    {keyword : String} (described : Line.isDescription keyword = true) (text : String) :
    parseKeyword context keyword (textLine keyword text) = .ok text := by
  have same : Line.hasName ⟨keyword, Utf8.encode text⟩ keyword = true :=
    Ascii.sameLetters_self keyword
  rw [parseKeyword, textLine, line_nameValue context described, ok_bind]
  simp [same, text_encode]

theorem parseChangeType_keyword (kind : Change) :
    parseChangeType context (textLine "changetype" kind.keyword) = .ok (some kind.keyword) := by
  have same : Line.hasName ⟨"changetype", Utf8.encode kind.keyword⟩ "changetype" = true :=
    Ascii.sameLetters_self "changetype"
  have lowered : Ascii.lower (Blank.trimmed kind.keyword.toList) = kind.keyword := by
    cases kind <;> rw [Change.keyword] <;> decide
  rw [parseChangeType, textLine, line_nameValue context (by decide), ok_bind]
  simp [same, text_encode, lowered]

theorem lacksName_nameValue
    {name other : String} (described : Line.isDescription name = true) (value : Bytes)
    (different : Ascii.sameLetters name other = false) :
    LacksName context other (nameValue name value) :=
  ⟨⟨name, value⟩, line_nameValue context described value, different⟩

/-! ### Attributes -/

theorem foldlM_attributeLines
    {attr : Attribute} (collected : Collected context.options attr) {before : List Attribute}
    (absent : ∀ other ∈ before, other.hasName attr.name = false) :
    (attributeLines attr).foldlM
        (fun attributes raw => do
          let line ← context.line raw
          context.addValue line.name line.value attributes)
        before
      = .ok (before ++ [attr]) := by
  rw [attributeLines, List.foldlM_map]
  simp only [line_nameValue context collected.described, ok_bind]
  exact addValues_collected collected absent

theorem parseAttributes_lines
    {attributes : List Attribute} (grouped : Grouped context.options attributes) :
    parseAttributes context (attributes.flatMap attributeLines) = .ok attributes := by
  have from_before : ∀ before, Grouped context.options (before ++ attributes) →
      (attributes.flatMap attributeLines).foldlM
          (fun attributes raw => do
            let line ← context.line raw
            context.addValue line.name line.value attributes)
          before
        = .ok (before ++ attributes) := by
    induction attributes with
    | nil =>
        intro before _
        rw [List.append_nil]
        rfl
    | cons attr rest inductionHypothesis =>
        intro before whole
        have collected := whole.each attr (List.mem_append_right _ List.mem_cons_self)
        have absent : ∀ other ∈ before, other.hasName attr.name = false := by
          intro other member
          have apart := whole.apart
          rw [List.map_append, Apart, List.pairwise_append] at apart
          exact apart.2.2 other.name (List.mem_map_of_mem member) attr.name List.mem_cons_self
        rw [List.append_cons] at whole ⊢
        rw [List.flatMap_cons, List.foldlM_append, foldlM_attributeLines context collected absent,
          ok_bind]
        exact inductionHypothesis grouped.tail (before ++ [attr]) whole
  exact from_before [] grouped

/-! ### Modifications -/

theorem isSeparator_separator : isSeparator separator = true := by
  decide

/-- A line with a value ends no modification. -/
theorem isSeparator_nameValue (name : String) (value : Bytes) :
    isSeparator (nameValue name value) = false := by
  rw [isSeparator, beq_eq_false_iff_ne]
  intro ends
  have colon : ':' ∈ Blank.trimEnd Blank.isBlank (nameValue name value).toList := by
    refine Blank.mem_trimEnd ?_ rfl
    rw [toList_nameValue]
    exact List.mem_append_right _ List.mem_cons_self
  rw [ends] at colon
  exact absurd colon (by decide)

theorem parseHeader_textLine
    (kind : ModificationKind) {name : String} (described : Line.isDescription name = true) :
    parseHeader context (textLine kind.keyword name) = .ok (kind, name) := by
  have keyword : Line.isDescription kind.keyword = true := by
    cases kind <;> decide
  rw [parseHeader, textLine, line_nameValue context keyword, ok_bind]
  simp [text_encode, Line.trimmed_description described, described]

theorem parseModifiedValues_lines
    (kind : ModificationKind) {attr : Attribute}
    (described : Line.isDescription attr.name = true)
    (distinct : Distinct context.options attr.values) :
    parseModifiedValues context kind attr.name (attributeLines attr) = .ok attr.values := by
  have named : ∀ value, Line.hasName ⟨attr.name, value⟩ attr.name = true :=
    fun _ => Ascii.sameLetters_self attr.name
  rw [parseModifiedValues, attributeLines, List.foldlM_map]
  simp only [line_nameValue context described, ok_bind, named]
  by_cases empty : attr.values = []
  · rw [empty]
    rfl
  · have collected : Collected context.options attr := ⟨described, empty, distinct⟩
    have added := @addValues_collected context attr collected [] (fun _ member => by cases member)
    rw [Context.addValues, List.nil_append] at added
    have flat : [attr].flatMap (·.values) = attr.values := List.flatMap_singleton _ attr
    simp [added, flat]

theorem parseModification_lines
    {modification : Modification} (regular : RegularModification context.options modification) :
    parseModification context (textLine modification.kind.keyword modification.target.name)
        (attributeLines modification.target)
      = .ok modification := by
  obtain ⟨kind, name, values⟩ := modification
  have header := parseHeader_textLine context kind regular.described
  have modified := parseModifiedValues_lines context kind regular.described regular.distinct
  have added : ¬(kind = .add ∧ values.isEmpty = true) := by
    rintro ⟨same, empty⟩
    exact regular.add_some same (List.isEmpty_iff.mp empty)
  have one : ¬(kind = .increment ∧ (attributeLines ⟨name, values⟩).length ≠ 1) := by
    rintro ⟨same, several⟩
    refine several ?_
    rw [attributeLines, List.length_map]
    exact regular.increment_one same
  rw [parseModification, header, ok_bind]
  simp only [modified, ok_bind, if_neg added, if_neg one, pure_eq_ok]

/-- Lines without a separator reach up to the next one. -/
theorem until_separator
    {lines rest : List String} (whole : ∀ raw ∈ lines, isSeparator raw = false)
    (ends : ∀ raw ∈ rest.head?, isSeparator raw = true) :
    (lines ++ rest).takeWhile (!isSeparator ·) = lines
      ∧ (lines ++ rest).dropWhile (!isSeparator ·) = rest := by
  have kept : ∀ raw ∈ lines, (!isSeparator raw) = true := by
    intro raw member
    rw [whole raw member]
    rfl
  rw [List.takeWhile_append_of_pos kept, List.dropWhile_append_of_pos kept]
  cases rest with
  | nil => simp
  | cons raw rest => simp [ends raw rfl]

theorem not_isSeparator_attributeLines (attr : Attribute) :
    ∀ raw ∈ attributeLines attr, isSeparator raw = false := by
  intro raw member
  obtain ⟨value, -, rfl⟩ := List.mem_map.mp member
  exact isSeparator_nameValue attr.name value

/-- Modifications with separators between them are read one by one. -/
theorem parseModifications_lines
    {modifications : List Modification}
    (regular : ∀ modification ∈ modifications, RegularModification context.options modification) :
    parseModifications context
        ((modifications.map modificationLines).intersperse [separator]).flatten
      = .ok modifications := by
  induction modifications with
  | nil => rw [List.map_nil, List.intersperse_nil, List.flatten_nil, parseModifications]
  | cons modification rest inductionHypothesis =>
      have first := parseModification_lines context (regular modification List.mem_cons_self)
      have others := inductionHypothesis fun other member =>
        regular other (List.mem_cons_of_mem _ member)
      cases rest with
      | nil =>
          obtain ⟨taken, left⟩ := @until_separator _ []
            (not_isSeparator_attributeLines modification.target) (fun raw found => by cases found)
          rw [List.append_nil] at taken left
          rw [List.map_cons, List.map_nil, List.intersperse_singleton, List.flatten_cons,
            List.flatten_nil, List.append_nil, modificationLines, parseModifications, taken, left,
            first, ok_bind, List.drop_nil, parseModifications]
          rfl
      | cons next rest =>
          obtain ⟨taken, left⟩ := @until_separator _
            (separator :: (((next :: rest).map modificationLines).intersperse [separator]).flatten)
            (not_isSeparator_attributeLines modification.target)
            (fun raw found => by cases found; exact isSeparator_separator)
          rw [List.map_cons, List.map_cons, List.intersperse_cons_cons, List.flatten_cons,
            List.flatten_cons, ← List.map_cons, modificationLines, List.cons_append,
            List.singleton_append, parseModifications, taken, left, first, ok_bind,
            List.drop_one, List.tail_cons, others, ok_bind]
          rfl

/-! ### Changes -/

theorem parseModifyDn_lines (newRdn : String) (deleteOldRdn : Bool) (newSuperior : Option String) :
    parseModifyDn context (changeLines (.modifyDn newRdn deleteOldRdn newSuperior))
      = .ok (.modifyDn newRdn deleteOldRdn newSuperior) := by
  have first := @parseKeyword_textLine context "newrdn" (by decide) newRdn
  have second := @parseKeyword_textLine context "deleteoldrdn" (by decide)
    (if deleteOldRdn then "1" else "0")
  have flag : parseFlag (Blank.trimmed (if deleteOldRdn then "1" else "0").toList)
      = .ok deleteOldRdn := by
    cases deleteOldRdn <;> decide
  cases newSuperior with
  | none =>
      simp only [changeLines, Option.map_none, Option.toList_none, List.append_nil,
        parseModifyDn, first, second, flag, ok_bind, pure_eq_ok]
  | some newSuperior =>
      have third := @parseKeyword_textLine context "newsuperior" (by decide)
        newSuperior
      simp only [changeLines, Option.map_some, Option.toList_some, List.cons_append,
        List.nil_append, parseModifyDn, first, second, third, flag, ok_bind, pure_eq_ok]

theorem parseChange_lines
    {kind : Change} (regular : RegularChange context.options kind) :
    parseChange context kind.keyword (changeLines kind) = .ok kind := by
  cases kind with
  | add attributes =>
      obtain ⟨grouped, nonempty⟩ := regular
      simp [parseChange, Change.keyword, changeLines, parseAttributes_lines context grouped,
        nonempty]
  | delete => rfl
  | modify modifications =>
      obtain ⟨each, nonempty⟩ := regular
      simp [parseChange, Change.keyword, changeLines, parseModifications_lines context each,
        nonempty]
  | modifyDn newRdn deleteOldRdn newSuperior =>
      have read := parseModifyDn_lines context newRdn deleteOldRdn newSuperior
      simp [parseChange, Change.keyword, read]

/-! ### Records -/

theorem parseControls_lines
    {raws rest : List String} {controls : List Control}
    (read : List.Forall₂ (ReadsControl context) raws controls)
    (behind : ∀ raw ∈ rest.head?, LacksName context "control" raw) :
    parseControls context (raws ++ rest) = .ok (controls, rest) := by
  induction read with
  | nil =>
      cases rest with
      | nil => rfl
      | cons raw rest =>
          obtain ⟨line, parsed, other⟩ := behind raw rfl
          rw [List.nil_append, parseControls, parsed, ok_bind, if_neg (by simp [other])]
          rfl
  | cons first _ inductionHypothesis =>
      obtain ⟨line, parsed, named, control⟩ := first
      rw [List.cons_append, parseControls, parsed, ok_bind, if_pos named, control, ok_bind,
        inductionHypothesis, ok_bind]
      rfl

theorem parseBody_change
    (dn : String) (controls : List Control) {kind : Change}
    (regular : RegularChange context.options kind) :
    parseBody context dn controls (textLine "changetype" kind.keyword :: changeLines kind)
      = .ok (.change dn controls kind) := by
  have announced := parseChangeType_keyword context kind
  have read := parseChange_lines context regular
  simp only [parseBody, List.head?_cons, Option.bindM, announced, read, List.drop_one,
    List.tail_cons, ok_bind, pure_eq_ok]

/-- The attributes of an entry start with a line that announces no change. -/
theorem lacks_of_leadsEntry
    {attributes : List Attribute} (grouped : Grouped context.options attributes)
    (leads : LeadsEntry attributes) :
    ∀ raw ∈ (attributes.flatMap attributeLines).head?,
      LacksName context "control" raw ∧ LacksName context "changetype" raw := by
  intro raw first
  cases attributes with
  | nil => cases first
  | cons attr rest =>
      have collected := grouped.each attr List.mem_cons_self
      obtain ⟨control, changetype⟩ := leads attr rfl
      rcases spelled : attr.values with _ | ⟨value, values⟩
      · exact absurd spelled collected.nonempty
      · rw [List.flatMap_cons, attributeLines, spelled, List.map_cons, List.cons_append,
          List.head?_cons] at first
        cases first
        exact ⟨lacksName_nameValue context collected.described value control,
          lacksName_nameValue context collected.described value changetype⟩

theorem parseChangeType_lacks
    {raw : String} (lacks : LacksName context "changetype" raw) :
    parseChangeType context raw = .ok none := by
  obtain ⟨line, parsed, other⟩ := lacks
  rw [parseChangeType, parsed, ok_bind, if_neg (by simp [other])]
  rfl

theorem parseBody_entry
    (dn : String) {attributes : List Attribute} (grouped : Grouped context.options attributes)
    (leads : LeadsEntry attributes) :
    parseBody context dn [] (attributes.flatMap attributeLines) = .ok (.entry dn attributes) := by
  have lacks := lacks_of_leadsEntry context grouped leads
  have announced : (attributes.flatMap attributeLines).head?.bindM (parseChangeType context)
      = .ok none := by
    rcases first : (attributes.flatMap attributeLines).head? with _ | raw
    · rfl
    · have none_announced := parseChangeType_lacks context (lacks raw first).2
      simp only [Option.bindM, none_announced]
  have read := parseAttributes_lines context grouped
  simp [parseBody, announced, read]

/-! ### Blocks -/

theorem mapM_bodyLines
    (policy : Policy) {lines : List String} (body : ∀ raw ∈ lines, BodyLine raw) :
    lines.mapM (applyTrailing policy) = .ok lines := by
  induction lines with
  | nil => rfl
  | cons raw rest inductionHypothesis =>
      have stable := stable_of_bodyLine policy (body raw List.mem_cons_self)
      have others := inductionHypothesis fun other member =>
        body other (List.mem_cons_of_mem _ member)
      rw [List.mapM_cons, stable, ok_bind, others]
      rfl

theorem mapM_controls
    {controls : List Control}
    (allowed : ∀ control ∈ controls, ¬RefusedControl context.options.trailingSpaces control)
    (numeric : ∀ control ∈ controls, Line.isNumericOid control.oid.toList = true) :
    ∃ raws,
      (controls.map controlLine).mapM (applyTrailing context.options.trailingSpaces) = .ok raws
      ∧ List.Forall₂ (ReadsControl context) raws controls := by
  induction controls with
  | nil => exact ⟨[], rfl, .nil⟩
  | cons control rest inductionHypothesis =>
      obtain ⟨raw, done, read⟩ := readsControl_trailing context
        (allowed control List.mem_cons_self) (numeric control List.mem_cons_self)
      obtain ⟨raws, others, more⟩ := inductionHypothesis
        (fun other member => allowed other (List.mem_cons_of_mem _ member))
        (fun other member => numeric other (List.mem_cons_of_mem _ member))
      refine ⟨raw :: raws, ?_, .cons read more⟩
      rw [List.map_cons, List.mapM_cons, done, ok_bind, others]
      rfl

theorem parseRecord_entry
    (dn : String) {attributes : List Attribute} (grouped : Grouped context.options attributes)
    (leads : LeadsEntry attributes) :
    parseRecord context (textLine "dn" dn :: attributes.flatMap attributeLines)
      = .ok (.entry dn attributes) := by
  have uncontrolled := @parseControls_lines context [] (attributes.flatMap attributeLines) [] .nil
    (fun raw first => (lacks_of_leadsEntry context grouped leads raw first).1)
  rw [List.nil_append] at uncontrolled
  rw [parseRecord, parseDn_textLine, ok_bind, uncontrolled, ok_bind]
  exact parseBody_entry context dn grouped leads

theorem parseRecord_change
    (dn : String) {raws : List String} {controls : List Control}
    (read : List.Forall₂ (ReadsControl context) raws controls) {kind : Change}
    (regular : RegularChange context.options kind) :
    parseRecord context
        (textLine "dn" dn :: (raws ++ textLine "changetype" kind.keyword :: changeLines kind))
      = .ok (.change dn controls kind) := by
  have announces : LacksName context "control" (textLine "changetype" kind.keyword) :=
    lacksName_nameValue context (by decide) _ (by decide)
  have controlled := @parseControls_lines context raws
    (textLine "changetype" kind.keyword :: changeLines kind) controls read
    (fun raw first => by cases first; exact announces)
  rw [parseRecord, parseDn_textLine, ok_bind, controlled, ok_bind]
  exact parseBody_change context dn controls regular

theorem parse_of_mapM
    {block : Block} {lines : List String} (valid : block.invalidLine = none)
    (kept : block.lines.mapM (applyTrailing context.options.trailingSpaces) = .ok lines) :
    parse context block = parseRecord context lines := by
  simp only [parse, valid, kept, ok_bind]

theorem mapM_entry
    (policy : Policy) {options : ReadOptions} (dn : String) {attributes : List Attribute}
    (grouped : Grouped options attributes) :
    (Record.entry dn attributes).unfoldedLines.mapM (applyTrailing policy)
      = .ok (textLine "dn" dn :: attributes.flatMap attributeLines) := by
  refine mapM_bodyLines policy fun raw member => ?_
  rcases List.mem_cons.mp member with rfl | member
  · exact .value (by decide) _
  · exact bodyLine_attributes grouped member

theorem mapM_change
    (dn : String) {controls : List Control}
    (allowed : ∀ control ∈ controls, ¬RefusedControl context.options.trailingSpaces control)
    (numeric : ∀ control ∈ controls, Line.isNumericOid control.oid.toList = true) {kind : Change}
    (regular : RegularChange context.options kind) :
    ∃ raws,
      (Record.change dn controls kind).unfoldedLines.mapM
          (applyTrailing context.options.trailingSpaces)
        = .ok (textLine "dn" dn :: (raws ++ textLine "changetype" kind.keyword :: changeLines kind))
      ∧ List.Forall₂ (ReadsControl context) raws controls := by
  obtain ⟨raws, trimmed, read⟩ := mapM_controls context allowed numeric
  have first : BodyLine (textLine "dn" dn) := .value (by decide) _
  have behind : (textLine "changetype" kind.keyword :: changeLines kind).mapM
      (applyTrailing context.options.trailingSpaces)
        = .ok (textLine "changetype" kind.keyword :: changeLines kind) := by
    refine mapM_bodyLines _ fun raw member => ?_
    rcases List.mem_cons.mp member with rfl | member
    · exact .value (by decide) _
    · exact bodyLine_changeLines regular member
  refine ⟨raws, ?_, read⟩
  rw [Record.unfoldedLines, List.cons_append, List.mapM_cons, stable_of_bodyLine _ first, ok_bind,
    List.mapM_append, trimmed, ok_bind, behind]
  rfl

/-- Whether a policy refuses a record as it is written. -/
def Refused (policy : Policy) (record : Record) : Prop :=
  ∃ control ∈ record.controls, RefusedControl policy control

instance (policy : Policy) (record : Record) : Decidable (Refused policy record) :=
  inferInstanceAs (Decidable (∃ control ∈ record.controls, RefusedControl policy control))

/-- A block of the lines of a record is read as that record, unless the policy
about spaces refuses it. -/
theorem decode_of_allowed
    {record : Record} (allowed : ¬Refused context.options.trailingSpaces record)
    (regular : Regular context.options record) {block : Block}
    (lines : block.lines = record.unfoldedLines) (valid : block.invalidLine = none) :
    block.decode context = .ok record := by
  refine decode_eq_ok_iff.mpr ?_
  cases record with
  | entry dn attributes =>
      obtain ⟨grouped, leads⟩ := regular
      have trimmed := mapM_entry context.options.trailingSpaces dn grouped
      rw [← lines] at trimmed
      rw [parse_of_mapM context valid trimmed, parseRecord_entry context dn grouped leads]
  | change dn controls kind =>
      obtain ⟨numeric, changing⟩ := regular
      obtain ⟨raws, trimmed, read⟩ := mapM_change context dn
        (fun control (member : control ∈ controls) refused => allowed ⟨control, member, refused⟩)
        numeric changing
      rw [← lines] at trimmed
      rw [parse_of_mapM context valid trimmed, parseRecord_change context dn read changing]

theorem decode_unfoldedLines
    (kept : context.options.trailingSpaces ≠ .reject) {record : Record}
    (regular : Regular context.options record) {block : Block}
    (lines : block.lines = record.unfoldedLines) (valid : block.invalidLine = none) :
    block.decode context = .ok record :=
  decode_of_allowed context (fun ⟨_, _, refused⟩ => kept refused.1) regular lines valid

/-! ### Refused records -/

theorem mapM_refused
    {policy : Policy} {controls : List Control}
    (numeric : ∀ control ∈ controls, Line.isNumericOid control.oid.toList = true)
    (refused : ∃ control ∈ controls, RefusedControl policy control) (behind : List String) :
    ∃ control ∈ controls, RefusedControl policy control
      ∧ (controls.map controlLine ++ behind).mapM (applyTrailing policy)
        = .error (.trailingSpace (controlLine control)) := by
  -- The first control that is refused is told; those behind it are not looked at.
  induction controls with
  | nil =>
      obtain ⟨control, member, -⟩ := refused
      cases member
  | cons control rest inductionHypothesis =>
      have first := numeric control List.mem_cons_self
      rw [List.map_cons, List.cons_append, List.mapM_cons]
      by_cases here : RefusedControl policy control
      · refine ⟨control, List.mem_cons_self, here, ?_⟩
        rw [applyTrailing_refused here first]
        rfl
      · obtain ⟨other, member, there⟩ := refused
        rcases List.mem_cons.mp member with rfl | inside
        · exact absurd there here
        · obtain ⟨found, listed, ends, told⟩ := inductionHypothesis
            (fun other member => numeric other (List.mem_cons_of_mem _ member))
            ⟨other, inside, there⟩
          obtain ⟨raw, kept, -⟩ := readsControl_trailing
            ⟨{ trailingSpaces := policy }, fun _ => none⟩ here first
          refine ⟨found, List.mem_cons_of_mem _ listed, ends, ?_⟩
          rw [kept, ok_bind, told]
          rfl

/-- What is told about a block with a control that is refused. -/
def refusal (block : Block) (control : Control) : Record.Error where
  problem := .trailingSpace (controlLine control)
  lineNumber := some block.firstLine
  dataLines := block.lines
  mayContinue := true

/-- A block of the lines of a record is refused where one of its controls is. -/
theorem decode_of_refused
    {record : Record} (refused : Refused context.options.trailingSpaces record)
    (regular : Regular context.options record) {block : Block}
    (lines : block.lines = record.unfoldedLines) (valid : block.invalidLine = none) :
    ∃ control ∈ record.controls, RefusedControl context.options.trailingSpaces control
      ∧ block.decode context = .error (block.refusal control) := by
  cases record with
  | entry dn attributes =>
      obtain ⟨control, member, -⟩ := refused
      cases member
  | change dn controls kind =>
      obtain ⟨control, member, there, told⟩ := mapM_refused regular.1 refused
        (textLine "changetype" kind.keyword :: changeLines kind)
      have first : BodyLine (textLine "dn" dn) := .value (by decide) _
      have stopped : block.lines.mapM (applyTrailing context.options.trailingSpaces)
          = .error (.trailingSpace (controlLine control)) := by
        rw [lines, Record.unfoldedLines, List.cons_append, List.mapM_cons,
          stable_of_bodyLine _ first, ok_bind, told]
        rfl
      refine ⟨control, member, there, ?_⟩
      simp only [decode, parse, valid, stopped]
      rfl

end DirectoryInterchange.Block
