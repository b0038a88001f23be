import DirectoryInterchange.Block.Files
import DirectoryInterchange.Block.Options
import DirectoryInterchange.Record.Error
import DirectoryInterchange.Text.Base64

/-!
Lines of the form `name: value`.

Behind the colon a second one announces base 64, and `<` a file to take the
value from; otherwise the text behind leading spaces is the value.
-/

namespace DirectoryInterchange.Block

open Record (Problem)

/-- An answer, or what is wrong with the record. -/
abbrev Parsed (Value : Type) := Except Problem Value

/-- A line with its value decoded. -/
structure Line where
  name : String
  value : Bytes
  deriving DecidableEq, Repr

namespace Line

def isNameStart (c : Char) : Bool := c.isAlpha

def isNameCharacter (c : Char) : Bool := c.isAlphanum || c == '-'

/-- Digits, or several groups of them with dots between. -/
def isNumericOid (text : List Char) : Bool :=
  (Blank.split '.' text).all fun group => !group.isEmpty && group.all Char.isDigit

/-- A short name that starts with a letter. -/
def isShortName : List Char → Bool
  | [] => false
  | first :: rest => isNameStart first && rest.all isNameCharacter

/-- A type, given by name or number, and any options behind semicolons. -/
def isDescription (name : String) : Bool :=
  match Blank.split ';' name.toList with
  | [] => false
  | type :: options =>
      (isShortName type || isNumericOid type)
        && options.all fun option => !option.isEmpty && option.all isNameCharacter

/-- The parts in front of and behind the first colon. -/
def splitColon (text : List Char) : Option (List Char × List Char) :=
  match text.dropWhile (· != ':') with
  | [] => none
  | _ :: rest => some (text.takeWhile (· != ':'), rest)

/-- The path of a `file:` reference. -/
def filePath? (url : String) : Option String :=
  (Ascii.dropStart? "file:" url).map fun path =>
    match path.toList with
    | '/' :: '/' :: rest => String.ofList rest
    | _ => path

def readFile (files : Files) (limit : Nat) (name url : String) : Parsed Bytes :=
  match filePath? url with
  | none => .error (.unsupportedUrl url name)
  | some path =>
      match files path with
      | none => .error (.unreadableFile path name)
      | some status =>
          if limit < status.size then .error (.oversizedFile path name status.size limit)
          else match status.content with
            | none => .error (.unreadableFile path name)
            | some bytes => .ok bytes

/-- The text behind leading spaces. -/
def plainValue (text : List Char) : Bytes :=
  Utf8.encode (String.ofList (Blank.trimStart Blank.isSpace text))

/-- The value that the text behind a colon stands for. -/
def decodeValue (files : Files) (limit : Nat) (name : String) (invalid : Problem) :
    List Char → Parsed Bytes
  | ':' :: encoded =>
      match Base64.decode? (Blank.trim Blank.isBlank encoded) with
      | some bytes => .ok bytes
      | none => .error invalid
  | '<' :: url => readFile files limit name (Blank.trimmed url)
  | text => .ok (plainValue text)

def parse (files : Files) (limit : Nat) (raw : String) : Parsed Line :=
  match splitColon raw.toList with
  | none => .error (.missingColon raw)
  | some (characters, rest) =>
      let name := String.ofList characters
      if isDescription name then
        (decodeValue files limit name (.invalidBase64 name) rest).map (⟨name, ·⟩)
      else .error (.invalidName name raw)

def hasName (line : Line) (name : String) : Bool :=
  Ascii.sameLetters line.name name

/-- The value as text; `what` says whose value it is. -/
def text (line : Line) (what : String) : Parsed String :=
  match Utf8.decode? line.value with
  | some text => .ok text
  | none => .error (.notText what)

end Line

/-- Whether only spaces follow the first colon of a line. -/
def hasBlankValue (raw : String) : Bool :=
  match Line.splitColon raw.toList with
  | none => false
  | some (_, rest) => rest.all Blank.isSpace

/-- What becomes of a line that may end in a space.  An empty value is no
trailing space. -/
def applyTrailing (policy : Policy) (raw : String) : Parsed String :=
  if raw.toList.getLast? ≠ some ' ' || hasBlankValue raw then .ok raw
  else match policy with
    | .strip => .ok (String.ofList (Blank.trimEnd Blank.isSpace raw.toList))
    | .retain => .ok raw
    | .reject => .error (.trailingSpace raw)

end DirectoryInterchange.Block
