import DirectoryInterchange.Settings.Value

/-!
Keys as paths.  Behind its first name a key may lead on into fields of tables and
into elements of lists, as in `one.two[3]`.  In the name that a key ends with the case
of letters does not count; what leads on is taken as it is spelled.

What stands under a key makes room for what a longer key puts below it: a value
that is no table becomes one when it is to get a field, and one that is no list
becomes one when it is to get an element.  Tables are merged.
-/

namespace DirectoryInterchange.Settings

/-- A step into a value. -/
inductive Step
  | field (name : String)
  | element
  deriving DecidableEq, Repr

structure Key where
  name : String
  steps : List Step := []
  deriving DecidableEq, Repr

namespace Key

def isNameCharacter (c : Char) : Bool :=
  c.isAlphanum || c == '_' || c == '-' || c == ' '

/-- Splits off a name of at least one character. -/
def name? (text : List Char) : Option (String × List Char) :=
  match text.takeWhile isNameCharacter with
  | [] => none
  | name => some (String.ofList name, text.dropWhile isNameCharacter)

/-- Whether a text is a whole number, perhaps with a minus sign and with spaces
around it. -/
def isIndex (text : List Char) : Bool :=
  let isSpace (c : Char) : Bool := c == ' ' || c == '\t'
  let number := Blank.trimEnd isSpace (text.dropWhile isSpace)
  number.head? != some '+' && (Numeral.integer? number).isSome

/-- The steps that a text spells; as many as it has characters are enough. -/
def steps? : (fuel : Nat) → List Char → Option (List Step)
  | _, [] => some []
  | 0, _ => none
  | fuel + 1, '.' :: rest => do
      let (name, rest) ← name? rest
      return .field name :: (← steps? fuel rest)
  | fuel + 1, '[' :: rest =>
      match rest.dropWhile (· != ']') with
      | ']' :: behind =>
          if isIndex (rest.takeWhile (· != ']')) then (steps? fuel behind).map (.element :: ·)
          else none
      | _ => none
  | _, _ => none

def parse? (text : String) : Option Key := do
  let (name, rest) ← name? text.toList
  return { name, steps := ← steps? rest.length rest }

/-- A text that is no path is a name as a whole. -/
def ofText (text : String) : Key :=
  (parse? text).getD { name := text }

/-- The name under which a key leads to something. -/
def root (key : Key) : String :=
  if key.steps.isEmpty then Ascii.lower key.name else key.name

end Key

/-- What is under a name after a value was put below it.  Of the steps only the
first can matter. -/
def Value.below (former : Option Value) (steps : List Step) (value : Value) : Value :=
  let fields := (former.map keys).getD []
  match steps with
  | .field name :: further =>
      .ofKeys (fields ++ [if further.isEmpty then Ascii.lower name else name])
  | .element :: _ => .list
  | [] =>
      match value with
      | .table [] => former.getD (.table [])
      | .table keys => .ofKeys (fields ++ keys.map Ascii.lower)
      | value => value

namespace Entries

/-- Puts a value where a key leads. -/
def assign (entries : Entries) (text : String) (value : Value) : Entries :=
  let key := Key.ofText text
  entries.put key.root (.below (entries.find? key.root) key.steps value)

/-- Puts the entries of one source after another where their keys lead. -/
def gather (sources : List Entries) : Entries :=
  (sources.flatMap latest).foldl (fun entries entry => entries.assign entry.1 entry.2) []

end Entries

end DirectoryInterchange.Settings
