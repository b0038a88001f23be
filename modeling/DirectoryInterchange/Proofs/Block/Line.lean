import DirectoryInterchange.Block.Decoding
import DirectoryInterchange.Proofs.Block.Controls
import DirectoryInterchange.Proofs.Block.Description
import DirectoryInterchange.Proofs.Record.Rendering

/-!
Lines that are written are read as what they were written from.

The policy about spaces at the end of a line leaves every such line alone but
that of a control with an empty value, which may lose its last space.
-/

namespace DirectoryInterchange.Block

open Rendering

/-! ### Names and values -/

theorem toList_nameValue (name : String) (value : Bytes) :
    (nameValue name value).toList = name.toList ++ ':' :: valueCharacters value := by
  rw [nameValue, String.toList_append, toList_valuePart]

namespace Line

theorem splitColon_append {before : List Char} (absent : ':' ∉ before) (rest : List Char) :
    splitColon (before ++ ':' :: rest) = some (before, rest) := by
  have different : ∀ c ∈ before, (c != ':') = true := by
    intro c member
    rw [bne_iff_ne]
    rintro rfl
    exact absent member
  rw [splitColon, List.dropWhile_append_of_pos different, List.takeWhile_append_of_pos different]
  simp

theorem eq_of_splitColon {text before rest : List Char}
    (found : splitColon text = some (before, rest)) : text = before ++ ':' :: rest := by
  rw [splitColon] at found
  split at found
  · cases found
  · next c others dropped =>
      cases found
      have stopped := List.head?_dropWhile_not (· != ':') text
      rw [dropped] at stopped
      obtain rfl : c = ':' := bne_eq_false_iff_eq.mp stopped
      rw [← dropped, List.takeWhile_append_dropWhile]

theorem parse_nameValue
    (files : Files) (limit : Nat) {name : String} (described : isDescription name = true)
    (value : Bytes) : parse files limit (nameValue name value) = .ok ⟨name, value⟩ := by
  rw [parse, toList_nameValue, splitColon_append (colon_not_mem described)]
  simp only [String.ofList_toList, described, if_true, decodeValue_characters]
  rfl

end Line

theorem getLast?_nameValue (name : String) (value : Bytes) :
    (nameValue name value).toList.getLast? = (valueCharacters value).getLast? := by
  obtain ⟨last, found⟩ :=
    Option.isSome_iff_exists.mp (List.getLast?_isSome.mpr (valueCharacters_ne_nil value))
  rw [toList_nameValue, List.getLast?_append, List.getLast?_cons, found]
  rfl

theorem applyTrailing_nameValue
    (policy : Policy) {name : String} (described : Line.isDescription name = true)
    (value : Bytes) : applyTrailing policy (nameValue name value) = .ok (nameValue name value) := by
  unfold applyTrailing
  rw [if_pos]
  by_cases ends : (valueCharacters value).getLast? = some ' '
  · have empty := last_of_characters ends
    have blank : (valueCharacters value).all Blank.isSpace = true := by rw [empty]; rfl
    rw [Bool.or_eq_true, hasBlankValue, toList_nameValue,
      Line.splitColon_append (Line.colon_not_mem described)]
    exact Or.inr blank
  · rw [getLast?_nameValue]
    simp [ends]

/-- A line that does not end in a space is left alone. -/
theorem applyTrailing_of_last
    (policy : Policy) {raw : String} (last : raw.toList.getLast? ≠ some ' ') :
    applyTrailing policy raw = .ok raw := by
  unfold applyTrailing
  rw [if_pos]
  simp [last]

/-! ### Controls -/

variable (context : Context)

/-- What stands between the number of a control and its value. -/
def criticalCharacters (critical : Bool) : List Char :=
  if critical then " true".toList else []

theorem criticality_characters (critical : Bool) :
    Criticality (criticalCharacters critical) critical := by
  cases critical with
  | false => exact .absent (List.forall_mem_nil _)
  | true =>
      have leading : ∀ c ∈ [' '], Blank.isBlank c = true := List.forall_mem_singleton.mpr rfl
      exact @Criticality.word [' '] "true".toList [] true leading (List.forall_mem_nil _) rfl

/-- Only one space stands in front of a colon that no word stands before. -/
theorem not_hides_criticalCharacters (critical : Bool) (tail : List Char) :
    ¬Hides (criticalCharacters critical) tail := by
  rintro ⟨-, blanks, c, member, -⟩
  cases critical with
  | false => cases member
  | true => exact absurd (blanks 't' (by decide)) (by decide)

theorem parseControl_text
    {oid : String} (numeric : Line.isNumericOid oid.toList = true) (critical : Bool)
    {tail : List Char} (ends : IsTail tail) {value : Option Bytes}
    (parsed : parseControlValue context oid tail = .ok value) {name : String} :
    parseControl context
        ⟨name, Utf8.encode (String.ofList (oid.toList ++ (criticalCharacters critical ++ tail)))⟩
      = .ok ⟨oid, critical, value⟩ := by
  generalize spelled : String.ofList (oid.toList ++ (criticalCharacters critical ++ tail)) = text
  have decoded : Utf8.decode? (Line.value ⟨name, Utf8.encode text⟩) = some text :=
    Utf8.decode?_encode text
  have cut : Cut text.toList oid.toList (criticalCharacters critical) tail := by
    refine ⟨⟨[], List.forall_mem_nil _, ?_⟩, Grammar.isNumericOid_iff.mp numeric, ?_, ?_, ends⟩
    · rw [← spelled, String.toList_ofList, List.nil_append]
    · intro c first
      cases critical <;> cases first
      rfl
    · cases critical <;> decide
  rw [cut.parseControl_eq context decoded, readBehind_eq_ok_iff context cut.uncut ends,
    if_neg (not_hides_criticalCharacters critical tail)]
  exact ⟨String.ofList_toList.symm, criticality_characters critical,
    (parseControlValue_eq_ok_iff context ends).mp parsed⟩

/-- Whether a line is read as that control. -/
def ReadsControl (raw : String) (control : Control) : Prop :=
  ∃ line, context.line raw = .ok line ∧ line.hasName "control" = true
    ∧ parseControl context line = .ok control

/-- The text of a control behind the colon of its line and one space. -/
def controlCharacters (control : Control) (tail : List Char) : List Char :=
  control.oid.toList ++ (criticalCharacters control.critical ++ tail)

theorem readsControl_of_characters
    {control : Control} (numeric : Line.isNumericOid control.oid.toList = true)
    {tail : List Char} (ends : IsTail tail)
    (parsed : parseControlValue context control.oid tail = .ok control.value)
    {raw : String}
    (spelled : raw.toList = "control".toList ++ ':' :: ' ' :: controlCharacters control tail) :
    ReadsControl context raw control := by
  have first : ∀ c ∈ (controlCharacters control tail).head?, Blank.isSpace c = false :=
    fun c found => Line.not_space_of_descriptionCharacter (Line.head_of_oid numeric _ c found)
  have value : Line.plainValue (' ' :: controlCharacters control tail)
      = Utf8.encode (String.ofList (controlCharacters control tail)) := by
    rw [Line.plainValue, Blank.trimStart_cons rfl first]
  refine ⟨⟨"control", Utf8.encode (String.ofList (controlCharacters control tail))⟩, ?_,
    Ascii.sameLetters_self _, parseControl_text context numeric control.critical ends parsed⟩
  have described : Line.isDescription (String.ofList "control".toList) = true := by decide
  have decoded : Line.decodeValue context.files context.options.maximumFileSize
      (String.ofList "control".toList) (.invalidBase64 (String.ofList "control".toList))
      (' ' :: controlCharacters control tail)
        = .ok (Utf8.encode (String.ofList (controlCharacters control tail))) :=
    congrArg Except.ok value
  rw [Context.line, Line.parse, spelled, Line.splitColon_append (by decide)]
  simp only [described, if_true, decoded]
  rfl

/-- What is written for the value of a control. -/
def tailCharacters : Option Bytes → List Char
  | none => []
  | some value => ':' :: valueCharacters value

theorem isTail_tailCharacters (value : Option Bytes) : IsTail (tailCharacters value) := by
  intro c first
  cases value <;> cases first
  rfl

theorem parseControlValue_tailCharacters (oid : String) (value : Option Bytes) :
    parseControlValue context oid (tailCharacters value) = .ok value := by
  cases value with
  | none => rfl
  | some value =>
      rw [tailCharacters, parseControlValue, decodeValue_characters]
      rfl

theorem toList_controlLine (control : Control) :
    (controlLine control).toList
      = "control".toList
        ++ ':' :: ' ' :: controlCharacters control (tailCharacters control.value) := by
  obtain ⟨oid, critical, value⟩ := control
  have start : "control: ".toList = "control".toList ++ [':', ' '] := rfl
  have middle : (if critical then " true" else "").toList = criticalCharacters critical := by
    cases critical <;> rfl
  have last : ((value.map valuePart).getD "").toList = tailCharacters value := by
    cases value with
    | none => rfl
    | some value => exact toList_valuePart value
  simp only [controlLine, String.toList_append, start, middle, last, controlCharacters,
    List.append_assoc, List.cons_append, List.nil_append]

theorem getLast?_append_of_ne_nil {after : List Char} (more : after ≠ []) (before : List Char) :
    (before ++ after).getLast? = after.getLast? := by
  obtain ⟨last, found⟩ := Option.isSome_iff_exists.mp (List.getLast?_isSome.mpr more)
  rw [List.getLast?_append, found]
  rfl

/-- Only an empty value leaves a space at the end of a control. -/
theorem last_of_controlLine
    {control : Control} (numeric : Line.isNumericOid control.oid.toList = true)
    (ends : (controlLine control).toList.getLast? = some ' ') : control.value = some [] := by
  have oid_ne_nil := Line.numericOid_ne_nil numeric
  rw [toList_controlLine, List.append_cons, List.append_cons, controlCharacters,
    getLast?_append_of_ne_nil (by simp [oid_ne_nil])] at ends
  cases stated : control.value with
  | some value =>
      rw [stated, tailCharacters, ← List.append_assoc, List.append_cons,
        getLast?_append_of_ne_nil (valueCharacters_ne_nil value)] at ends
      rw [last_of_characters ends]
  | none =>
      exfalso
      rw [stated, tailCharacters, List.append_nil] at ends
      cases critical : control.critical with
      | true =>
          rw [critical, getLast?_append_of_ne_nil (by decide)] at ends
          cases ends
      | false =>
          rw [critical, criticalCharacters, if_neg (by decide), List.append_nil] at ends
          have bounds := Line.toNat_of_descriptionCharacter
            (Line.isDescriptionCharacter_of_oid numeric (List.mem_of_getLast? ends))
          exact absurd bounds.1 (by decide)

theorem trimEnd_tail (control : Control) :
    Blank.trimEnd Blank.isSpace
        ("control".toList ++ ':' :: ' ' :: controlCharacters control (tailCharacters (some [])))
      = "control".toList ++ ':' :: ' ' :: controlCharacters control [':'] := by
  have tail : tailCharacters (some []) = [':'] ++ [' '] := rfl
  have last : ∀ c ∈ ("control".toList ++ ':' :: ' ' :: controlCharacters control [':']).getLast?,
      Blank.isSpace c = false := by
    rw [controlCharacters, List.append_cons, List.append_cons, ← List.append_assoc,
      ← List.append_assoc, List.getLast?_concat]
    exact fun c found => by cases found; rfl
  have whole : "control".toList ++ ':' :: ' ' :: controlCharacters control ([':'] ++ [' '])
      = ("control".toList ++ ':' :: ' ' :: controlCharacters control [':']) ++ [' '] := by
    simp only [controlCharacters, List.append_assoc, List.cons_append]
  rw [tail, whole, Blank.trimEnd_concat rfl last]

/-! ### Controls and the policy about spaces -/

/-- Whether a policy refuses a control as it is written.  An empty value leaves
a space at the end of the line, which is not the value of the line itself. -/
def RefusedControl (policy : Policy) (control : Control) : Prop :=
  policy = .reject ∧ control.value = some []

instance (policy : Policy) (control : Control) : Decidable (RefusedControl policy control) :=
  inferInstanceAs (Decidable (_ ∧ _))

/-- The policy may take the last space of a control, and nothing else. -/
theorem readsControl_trailing
    {control : Control} (allowed : ¬RefusedControl context.options.trailingSpaces control)
    (numeric : Line.isNumericOid control.oid.toList = true) :
    ∃ raw, applyTrailing context.options.trailingSpaces (controlLine control) = .ok raw
      ∧ ReadsControl context raw control := by
  have whole : ReadsControl context (controlLine control) control :=
    readsControl_of_characters context numeric (isTail_tailCharacters control.value)
      (parseControlValue_tailCharacters context control.oid control.value)
      (toList_controlLine control)
  unfold applyTrailing
  split
  · exact ⟨controlLine control, rfl, whole⟩
  · next ends =>
      simp only [Bool.or_eq_true, decide_eq_true_eq, not_or, ne_eq, not_not] at ends
      have empty := last_of_controlLine numeric ends.1
      split
      · have trimmed : Blank.trimEnd Blank.isSpace (controlLine control).toList
            = "control".toList ++ ':' :: ' ' :: controlCharacters control [':'] := by
          rw [toList_controlLine, empty]
          exact trimEnd_tail control
        have ends : IsTail [':'] := fun c first => by cases first; rfl
        have parsed : parseControlValue context control.oid [':'] = .ok control.value := by
          rw [empty]
          rfl
        refine ⟨_, rfl, readsControl_of_characters context numeric ends parsed ?_⟩
        rw [String.toList_ofList, trimmed]
      · exact ⟨controlLine control, rfl, whole⟩
      · next rejected => exact absurd ⟨rejected, empty⟩ allowed

/-- The number of a control stands behind the first colon. -/
theorem hasBlankValue_controlLine
    {control : Control} (numeric : Line.isNumericOid control.oid.toList = true) :
    hasBlankValue (controlLine control) = false := by
  have oid_ne_nil := Line.numericOid_ne_nil numeric
  rw [hasBlankValue, toList_controlLine, Line.splitColon_append (by decide), List.all_eq_false]
  obtain ⟨first, rest, spelled⟩ := List.exists_cons_of_ne_nil oid_ne_nil
  have inside : first ∈ control.oid.toList := by
    rw [spelled]
    exact List.mem_cons_self
  have visible := Line.not_space_of_descriptionCharacter
    (Line.isDescriptionCharacter_of_oid numeric inside)
  refine ⟨first, List.mem_cons_of_mem _ (List.mem_append_left _ inside), ?_⟩
  rw [visible]
  decide

theorem applyTrailing_refused
    {policy : Policy} {control : Control} (refused : RefusedControl policy control)
    (numeric : Line.isNumericOid control.oid.toList = true) :
    applyTrailing policy (controlLine control)
      = .error (.trailingSpace (controlLine control)) := by
  obtain ⟨rfl, empty⟩ := refused
  have last : (controlLine control).toList.getLast? = some ' ' := by
    have spelled : tailCharacters (some []) = [':'] ++ [' '] := rfl
    rw [toList_controlLine, empty, spelled, controlCharacters, List.append_cons, List.append_cons]
    simp only [← List.append_assoc, List.getLast?_concat]
  simp [applyTrailing, last, hasBlankValue_controlLine numeric]

end DirectoryInterchange.Block
