import DirectoryInterchange.Block.Decoding
import DirectoryInterchange.Proofs.Steps

/-!
Problems that mention no line by its number.

Wherever the lines of a block are interpreted, what is wrong is told by the
text of lines, of names and of values, and never by where they stand.
-/

namespace DirectoryInterchange

/-- The line that a problem mentions by its number. -/
def Record.Problem.line? : Problem → Option Nat
  | nothingToContinue line | invalidUtf8 line => some line
  | _ => none

namespace Block

open Record (Problem)

/-- Whether an answer fails, if at all, without the number of a line. -/
def Numberless {Value : Type} (answer : Parsed Value) : Prop :=
  ∀ problem, answer = .error problem → problem.line? = none

namespace Numberless

variable {First Second : Type}

theorem ok (value : First) : Numberless (.ok value) :=
  fun _ failed => by cases failed

theorem error {problem : Problem} (numberless : problem.line? = none) :
    Numberless (.error problem : Parsed First) := by
  intro other failed
  cases failed
  exact numberless

theorem bind
    {step : Parsed First} (first : Numberless step) {following : First → Parsed Second}
    (each : ∀ value, Numberless (following value)) : Numberless (step >>= following) := by
  cases step with
  | error problem => exact error (first problem rfl)
  | ok value => exact each value

theorem map {step : Parsed First} (first : Numberless step) (change : First → Second) :
    Numberless (step.map change) := by
  cases step with
  | error problem => exact error (first problem rfl)
  | ok value => exact ok (change value)

theorem mapM {step : First → Parsed Second} (each : ∀ item, Numberless (step item))
    (items : List First) : Numberless (items.mapM step) := by
  induction items with
  | nil => exact ok []
  | cons item rest inductionHypothesis =>
      rw [List.mapM_cons]
      exact (each item).bind fun value => inductionHypothesis.bind fun others => ok _

theorem foldlM {step : Second → First → Parsed Second}
    (each : ∀ state item, Numberless (step state item)) (items : List First) (state : Second) :
    Numberless (items.foldlM step state) := by
  induction items generalizing state with
  | nil => exact ok state
  | cons item rest inductionHypothesis =>
      rw [List.foldlM_cons]
      exact (each state item).bind inductionHypothesis

end Numberless

open Numberless

/-! ### Lines -/

theorem numberless_readFile (files : Files) (limit : Nat) (name url : String) :
    Numberless (Line.readFile files limit name url) := by
  rw [Line.readFile]
  split
  · exact error rfl
  split
  · exact error rfl
  split
  · exact error rfl
  split
  · exact error rfl
  · exact ok _

theorem numberless_decodeValue
    (files : Files) (limit : Nat) (name : String) {invalid : Problem}
    (numberless : invalid.line? = none) (text : List Char) :
    Numberless (Line.decodeValue files limit name invalid text) := by
  rw [Line.decodeValue.eq_def]
  split
  · split
    · exact ok _
    · exact error numberless
  · exact numberless_readFile files limit name _
  · exact ok _

theorem numberless_text (line : Line) (what : String) : Numberless (line.text what) := by
  rw [Line.text]
  split
  · exact ok _
  · exact error rfl

variable {Rule : Type} (context : Context Rule)

theorem numberless_line (raw : String) : Numberless (context.line raw) := by
  rw [Context.line, Line.parse]
  split
  · exact error rfl
  · dsimp only
    split
    · exact (numberless_decodeValue _ _ _ rfl _).map _
    · exact error rfl

theorem numberless_applyTrailing (policy : Policy) (raw : String) :
    Numberless (applyTrailing policy raw) := by
  unfold applyTrailing
  split
  · exact ok _
  · cases policy with
    | strip => exact ok _
    | retain => exact ok _
    | reject => exact error rfl

/-! ### Values -/

theorem numberless_extend [Matching Rule]
    (policy : Policy) (rule : Rule) (attr : Attribute) (value : Bytes) :
    Numberless (Values.extend policy rule attr value) := by
  unfold Values.extend
  dsimp only
  split
  · cases policy with
    | strip => exact ok _
    | retain => exact ok _
    | reject => exact error rfl
  · exact ok _

theorem numberless_addValue [Matching Rule]
    (name : String) (value : Bytes) (attributes : List Attribute) :
    Numberless (context.addValue name value attributes) := by
  rw [Context.addValue]
  induction attributes with
  | nil => exact ok _
  | cons attr rest inductionHypothesis =>
      rw [Values.add]
      split
      · exact (numberless_extend _ _ attr value).map _
      · exact inductionHypothesis.map _

/-! ### Controls -/

theorem numberless_parseCriticality (text : List Char) : Numberless (parseCriticality text) := by
  rw [parseCriticality]
  dsimp only
  split
  · exact ok _
  split
  · exact ok _
  split
  · exact ok _
  · exact error rfl

theorem numberless_parseControlValue (oid : String) (text : List Char) :
    Numberless (parseControlValue context oid text) := by
  rw [parseControlValue.eq_def]
  split
  · exact (numberless_decodeValue _ _ _ rfl _).map _
  · exact ok _

theorem numberless_parseControl (line : Line) : Numberless (parseControl context line) := by
  rw [parseControl]
  refine (numberless_text line _).bind fun text => ?_
  dsimp only
  split
  · exact error rfl
  · refine (numberless_parseCriticality _).bind fun criticality => ?_
    exact (numberless_parseControlValue context _ _).bind fun value => ok _

theorem numberless_parseControls (lines : List String) :
    Numberless (parseControls context lines) := by
  induction lines with
  | nil => exact ok _
  | cons raw rest inductionHypothesis =>
      rw [parseControls]
      refine (numberless_line context raw).bind fun line => ?_
      split
      · refine (numberless_parseControl context line).bind fun control => ?_
        exact inductionHypothesis.bind fun found => ok _
      · exact ok _

/-! ### Attributes and modifications -/

theorem numberless_parseAttributes [Matching Rule] (lines : List String) :
    Numberless (parseAttributes context lines) :=
  foldlM (fun attributes raw => (numberless_line context raw).bind fun line =>
    numberless_addValue context line.name line.value attributes) lines []

theorem numberless_parseHeader (raw : String) : Numberless (parseHeader context raw) := by
  rw [parseHeader]
  refine (numberless_line context raw).bind fun line => ?_
  dsimp only
  split
  · refine (numberless_text line _).bind fun text => ?_
    split
    · exact error rfl
    · exact ok _
  · exact error rfl

theorem numberless_parseModifiedValues [Matching Rule]
    (kind : ModificationKind) (name : String) (lines : List String) :
    Numberless (parseModifiedValues context kind name lines) := by
  rw [parseModifiedValues]
  refine (foldlM (fun attributes raw => ?_) lines []).bind fun attributes => ok _
  refine (numberless_line context raw).bind fun line => ?_
  dsimp only
  split
  · exact error rfl
  · exact numberless_addValue context name line.value attributes

theorem numberless_parseModification [Matching Rule] (header : String) (lines : List String) :
    Numberless (parseModification context header lines) := by
  rw [parseModification]
  refine (numberless_parseHeader context header).bind fun found => ?_
  refine (numberless_parseModifiedValues context found.1 found.2 lines).bind fun values => ?_
  dsimp only
  split
  · exact error rfl
  split
  · exact error rfl
  · exact ok _

theorem numberless_parseModifications [Matching Rule] (lines : List String) :
    Numberless (parseModifications context lines) := by
  induction lines using parseModifications.induct with
  | case1 =>
      rw [parseModifications]
      exact ok _
  | case2 header rest inductionHypothesis =>
      rw [parseModifications]
      refine (numberless_parseModification context header _).bind fun first => ?_
      exact inductionHypothesis.bind fun others => ok _

/-! ### Changes -/

theorem numberless_parseKeyword (keyword raw : String) :
    Numberless (parseKeyword context keyword raw) := by
  rw [parseKeyword]
  refine (numberless_line context raw).bind fun line => ?_
  dsimp only
  split
  · exact error rfl
  · exact numberless_text line keyword

theorem numberless_parseFlag (word : String) : Numberless (parseFlag word) := by
  rw [parseFlag]
  split
  · exact ok _
  split
  · exact ok _
  · exact error rfl

theorem numberless_parseModifyDn (lines : List String) :
    Numberless (parseModifyDn context lines) := by
  rw [parseModifyDn.eq_def]
  split
  · exact error rfl
  · exact (numberless_parseKeyword context "newrdn" _).bind fun newRdn => error rfl
  · refine (numberless_parseKeyword context "newrdn" _).bind fun newRdn => ?_
    refine (numberless_parseKeyword context "deleteoldrdn" _).bind fun word => ?_
    refine (numberless_parseFlag _).bind fun deleteOldRdn => ?_
    split
    · exact ok _
    · refine (numberless_parseKeyword context "newsuperior" _).bind fun newSuperior => ?_
      split
      · exact error rfl
      · exact ok _

theorem numberless_parseChange [Matching Rule] (keyword : String) (lines : List String) :
    Numberless (parseChange context keyword lines) := by
  rw [parseChange]
  split
  · refine (numberless_parseAttributes context lines).bind fun attributes => ?_
    split
    · exact error rfl
    · exact ok _
  split
  · split
    · exact error rfl
    · exact ok _
  split
  · refine (numberless_parseModifications context lines).bind fun modifications => ?_
    split
    · exact error rfl
    · exact ok _
  split
  · exact numberless_parseModifyDn context lines
  · exact error rfl

/-! ### Records -/

theorem numberless_parseChangeType (raw : String) :
    Numberless (parseChangeType context raw) := by
  rw [parseChangeType]
  refine (numberless_line context raw).bind fun line => ?_
  split
  · exact (numberless_text line _).bind fun text => ok _
  · exact ok _

theorem numberless_parseBody [Matching Rule]
    (dn : String) (controls : List Control) (lines : List String) :
    Numberless (parseBody context dn controls lines) := by
  rw [parseBody]
  have announced : Numberless (lines.head?.bindM (parseChangeType context)) := by
    cases lines with
    | nil => exact ok none
    | cons raw rest => exact numberless_parseChangeType context raw
  refine announced.bind fun keyword => ?_
  cases keyword with
  | some keyword => exact (numberless_parseChange context keyword _).bind fun kind => ok _
  | none =>
      dsimp only
      split
      · exact error rfl
      · exact (numberless_parseAttributes context lines).bind fun attributes => ok _

theorem numberless_parseDn (raw : String) : Numberless (parseDn context raw) := by
  rw [parseDn]
  refine (numberless_line context raw).bind fun line => ?_
  dsimp only
  split
  · exact error rfl
  · exact numberless_text line _

theorem numberless_parseRecord [Matching Rule] (lines : List String) :
    Numberless (parseRecord context lines) := by
  cases lines with
  | nil => exact error rfl
  | cons first rest =>
      rw [parseRecord]
      refine (numberless_parseDn context first).bind fun dn => ?_
      refine (numberless_parseControls context rest).bind fun found => ?_
      exact numberless_parseBody context dn found.1 found.2

/-- Only a line that is no text is told by its number. -/
theorem numberless_parse [Matching Rule] {block : Block} (valid : block.invalidLine = none) :
    Numberless (parse context block) := by
  simp only [parse, valid]
  refine (mapM (numberless_applyTrailing context.options.trailingSpaces) block.lines).bind ?_
  exact numberless_parseRecord context

/-- The message of an error mentions by number just the line that was no text. -/
theorem line?_of_decode [Matching Rule] {context : Context Rule} {block : Block}
    {error : Record.Error} (failed : block.decode context = .error error) :
    error.problem.line? = block.invalidLine := by
  rw [decode] at failed
  cases parsed : parse context block with
  | ok record =>
      rw [parsed] at failed
      cases failed
  | error problem =>
      rw [parsed] at failed
      cases failed
      cases marked : block.invalidLine with
      | none => exact numberless_parse context marked problem parsed
      | some line =>
          simp only [parse, marked] at parsed
          cases parsed
          rfl

end Block

end DirectoryInterchange
