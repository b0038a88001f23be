import DirectoryInterchange.Block.Grouping
import DirectoryInterchange.Block.Line
import DirectoryInterchange.Block.Values

/-!
Records from blocks of lines.

A record starts with its distinguished name.  Controls and the kind of change
come next where the record is a change; the rest depends on the kind.  Every
problem is reported with the line on which the record starts and with its
lines as they were read, and never keeps the next record from being read.
-/

namespace DirectoryInterchange.Block

open Record (Problem)

/-- What lines are decoded with. -/
structure Context (Rule : Type := MatchingRule) where
  options : ReadOptions Rule
  files : Files

variable {Rule : Type} (context : Context Rule)

namespace Context

def line (raw : String) : Parsed Line :=
  Line.parse context.files context.options.maximumFileSize raw

def addValue [Matching Rule] (name : String) (value : Bytes) (attributes : List Attribute) :
    Parsed (List Attribute) :=
  Values.add context.options.duplicates context.options.rule name value attributes

end Context

/-! ### Controls -/

/-- Splits a text where `stop` first holds. -/
def splitWhere (stop : Char → Bool) (text : List Char) : List Char × List Char :=
  (text.takeWhile (!stop ·), text.dropWhile (!stop ·))

/-- The criticality in front of a value, and the text that the value is in.
Without a word there, the text stays as it is. -/
def parseCriticality (text : List Char) : Parsed (Bool × List Char) :=
  let (before, value) := splitWhere (· == ':') text
  let word := Blank.trimmed before
  if word = "" then .ok (false, text)
  else if Ascii.sameLetters word "true" then .ok (true, value)
  else if Ascii.sameLetters word "false" then .ok (false, value)
  else .error (.invalidCriticality word)

/-- The value of a control: present exactly when a colon introduces it. -/
def parseControlValue (oid : String) : List Char → Parsed (Option Bytes)
  | ':' :: rest =>
      (Line.decodeValue context.files context.options.maximumFileSize "control"
        (.invalidControlBase64 oid) rest).map some
  | _ => .ok none

def parseControl (line : Line) : Parsed Control := do
  let text ← line.text "control"
  let (type, rest) := splitWhere (fun c => c == ' ' || c == ':')
    (Blank.trimStart Blank.isBlank text.toList)
  let oid := String.ofList type
  if !Line.isNumericOid type then throw (.invalidOid oid)
  let (critical, rest) ← parseCriticality (Blank.trimStart Blank.isSpace rest)
  let value ← parseControlValue context oid rest
  return { oid, critical, value }

/-- The leading control lines, and the lines behind them. -/
def parseControls : List String → Parsed (List Control × List String)
  | [] => .ok ([], [])
  | raw :: rest => do
      let line ← context.line raw
      if line.hasName "control" then
        let control ← parseControl context line
        let (controls, rest) ← parseControls rest
        return (control :: controls, rest)
      else return ([], raw :: rest)

/-! ### Attributes -/

def parseAttributes [Matching Rule] (lines : List String) : Parsed (List Attribute) :=
  lines.foldlM
    (fun attributes raw => do
      let line ← context.line raw
      context.addValue line.name line.value attributes)
    []

/-! ### Modifications -/

/-- A line that ends a modification. -/
def isSeparator (raw : String) : Bool :=
  Blank.trimEnd Blank.isBlank raw.toList == ['-']

/-- The kind of a modification and the name of the attribute it is about. -/
def parseHeader (raw : String) : Parsed (ModificationKind × String) := do
  let line ← context.line raw
  let some kind := ModificationKind.ofKeyword? line.name | throw (.notAModification raw)
  let name := Blank.trimmed (← line.text "modification attribute").toList
  if !Line.isDescription name then throw (.invalidModifiedName name)
  return (kind, name)

/-- The values of a modification, all of the attribute `name`. -/
def parseModifiedValues [Matching Rule] (kind : ModificationKind) (name : String)
    (lines : List String) : Parsed (List Bytes) := do
  let attributes ← lines.foldlM
    (fun attributes raw => do
      let line ← context.line raw
      if !line.hasName name then throw (.otherAttribute line.name name kind)
      context.addValue name line.value attributes)
    []
  return attributes.flatMap (·.values)

/-- One modification: its first line and the lines of its values. -/
def parseModification [Matching Rule] (header : String) (lines : List String) :
    Parsed Modification := do
  let (kind, name) ← parseHeader context header
  let values ← parseModifiedValues context kind name lines
  if kind = .add ∧ values.isEmpty then throw (.addWithoutValues name)
  if kind = .increment ∧ lines.length ≠ 1 then throw (.incrementWithoutOneValue name)
  return { kind, target := { name, values } }

/-- Modifications with separators between them and perhaps one at the end. -/
def parseModifications [Matching Rule] : List String → Parsed (List Modification)
  | [] => .ok []
  | header :: rest => do
      let modification ← parseModification context header (rest.takeWhile (!isSeparator ·))
      let others ← parseModifications ((rest.dropWhile (!isSeparator ·)).drop 1)
      return modification :: others
  termination_by lines => lines.length
  decreasing_by
    have := (List.dropWhile_sublist (!isSeparator ·) : rest.dropWhile _ |>.Sublist rest).length_le
    simp
    omega

/-! ### Changes -/

/-- The text of the next line, which must have the name `keyword`. -/
def parseKeyword (keyword raw : String) : Parsed String := do
  let line ← context.line raw
  if !line.hasName keyword then throw (.otherKeyword keyword raw)
  line.text keyword

def parseFlag (word : String) : Parsed Bool :=
  if ["1", "true", "yes"].any (Ascii.sameLetters word) then .ok true
  else if ["0", "false", "no"].any (Ascii.sameLetters word) then .ok false
  else .error (.invalidDeleteOldRdn word)

def parseModifyDn : List String → Parsed Change
  | [] => .error (.missingKeyword "newrdn")
  | [first] => do
      let _ ← parseKeyword context "newrdn" first
      throw (.missingKeyword "deleteoldrdn")
  | first :: second :: rest => do
      let newRdn ← parseKeyword context "newrdn" first
      let word ← parseKeyword context "deleteoldrdn" second
      let deleteOldRdn ← parseFlag (Blank.trimmed word.toList)
      match rest with
      | [] => return .modifyDn newRdn deleteOldRdn none
      | third :: rest =>
          let newSuperior ← parseKeyword context "newsuperior" third
          if let extra :: _ := rest then throw (.extraInModifyDn extra)
          return .modifyDn newRdn deleteOldRdn (some newSuperior)

def parseChange [Matching Rule] (keyword : String) (lines : List String) : Parsed Change := do
  if keyword = "add" then
    let attributes ← parseAttributes context lines
    if attributes.isEmpty then throw .addWithoutAttributes
    return .add attributes
  else if keyword = "delete" then
    if let extra :: _ := lines then throw (.extraInDelete extra)
    return .delete
  else if keyword = "modify" then
    let modifications ← parseModifications context lines
    if modifications.isEmpty then throw .modifyWithoutModifications
    return .modify modifications
  else if keyword = "moddn" ∨ keyword = "modrdn" then parseModifyDn context lines
  else throw (.unsupportedChange keyword)

/-! ### Records -/

/-- The kind of change that a line announces, if it does. -/
def parseChangeType (raw : String) : Parsed (Option String) := do
  let line ← context.line raw
  if line.hasName "changetype" then
    return some (Ascii.lower (Blank.trimmed (← line.text "changetype").toList))
  else return none

/-- The part of a record behind its distinguished name and controls. -/
def parseBody [Matching Rule] (dn : String) (controls : List Control) (lines : List String) :
    Parsed Record := do
  let keyword ← lines.head?.bindM (parseChangeType context)
  match keyword with
  | some keyword => return .change dn controls (← parseChange context keyword (lines.drop 1))
  | none =>
      if !controls.isEmpty then throw .controlsOnEntry
      return .entry dn (← parseAttributes context lines)

def parseDn (raw : String) : Parsed String := do
  let line ← context.line raw
  if !line.hasName "dn" then throw (.missingDn raw)
  line.text "DN"

def parseRecord [Matching Rule] : List String → Parsed Record
  | [] => .error .noLines
  | first :: rest => do
      let dn ← parseDn context first
      let (controls, body) ← parseControls context rest
      parseBody context dn controls body

def parse [Matching Rule] (block : Block) : Parsed Record := do
  if let some line := block.invalidLine then throw (.invalidUtf8 line)
  parseRecord context (← block.lines.mapM (applyTrailing context.options.trailingSpaces))

/-- Reads a block as a record, or tells what is wrong with it and where. -/
def decode [Matching Rule] (block : Block) : Except Record.Error Record :=
  (parse context block).mapError fun problem =>
    { problem, lineNumber := some block.firstLine, dataLines := block.lines, mayContinue := true }

/-- An error that a block is the place of: it tells on which line the block
starts and what lines it has, as they were read, and the records behind it can
still be read. -/
structure Locates (block : Block) (error : Record.Error) : Prop where
  mayContinue : error.mayContinue = true
  lineNumber : error.lineNumber = some block.firstLine
  dataLines : error.dataLines = block.lines

theorem locates_of_decode [Matching Rule] {context : Context Rule} {block : Block}
    {error : Record.Error} (failed : block.decode context = .error error) :
    block.Locates error := by
  rw [decode] at failed
  cases parsed : parse context block with
  | ok record =>
      rw [parsed] at failed
      cases failed
  | error problem =>
      rw [parsed] at failed
      cases failed
      exact ⟨rfl, rfl, rfl⟩

end DirectoryInterchange.Block
