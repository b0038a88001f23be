import DirectoryInterchange.Settings.Value

/-!
Where reading has come to in a YAML text.

Every line ends with a line feed, whatever it ended with before, and the text ends
in front of its first null character.
-/

namespace DirectoryInterchange.Settings.Yaml

/-! ### Characters -/

def isSpace (c : Char) : Bool :=
  c == ' ' || c == '\t'

def isBlank (c : Char) : Bool :=
  isSpace c || c == '\n'

/-- The characters that divide what is in brackets. -/
def isFlow (c : Char) : Bool :=
  c == ',' || c == '[' || c == ']' || c == '{' || c == '}'

/-- The characters of names. -/
def isNameCharacter (c : Char) : Bool :=
  c.isAlphanum || c == '_' || c == '-'

/-- Whether a character is a blank, or there is none. -/
def isBlankOrEnd (c : Option Char) : Bool :=
  (c.map isBlank).getD true

/-- Whether a line or the text ends. -/
def isEnd (c : Option Char) : Bool :=
  c = none || c = some '\n'

/-- A text whose lines all end with a line feed. -/
def withLineFeeds : List Char → List Char
  | '\r' :: '\n' :: rest => '\n' :: withLineFeeds rest
  | '\r' :: rest => '\n' :: withLineFeeds rest
  | c :: rest => c :: withLineFeeds rest
  | [] => []

/-! ### Positions -/

structure Here where
  rest : List Char
  index : Nat := 0
  line : Nat := 1
  column : Nat := 0
  /-- Whether nothing but blanks has come on this line. -/
  isFresh : Bool := true
  deriving DecidableEq, Repr

namespace Here

def ofText (text : String) : Here :=
  { rest := withLineFeeds (text.toList.takeWhile (· != '\x00')) }

def next (here : Here) : Option Char :=
  here.rest.head?

/-- One character further. -/
def step (here : Here) : Here :=
  match here.rest with
  | [] => here
  | c :: rest =>
      if c = '\n' then
        { rest, index := here.index + 1, line := here.line + 1, column := 0, isFresh := true }
      else
        { here with
          rest
          index := here.index + 1
          column := here.column + 1
          isFresh := here.isFresh && isSpace c }

def advance : (count : Nat) → Here → Here
  | 0, here => here
  | count + 1, here => advance count here.step

def skipWhile (condition : Char → Bool) (here : Here) : Here :=
  here.advance (here.rest.takeWhile condition).length

/-- The end of this line. -/
def lineEnd (here : Here) : Here :=
  here.skipWhile (· != '\n')

/-- Whether a mark of three characters stands here by itself. -/
def isAt (mark : String) (here : Here) : Bool :=
  here.column = 0 && here.rest.take 3 == mark.toList && isBlankOrEnd (here.rest.drop 3).head?

/-- Whether a document starts or ends here. -/
def isAtMark (here : Here) : Bool :=
  here.isAt "---" || here.isAt "..."

/-- Skips spaces, tabs if they are allowed, and a comment behind them.  A comment
does not follow anything else directly.  The blanks in front of it are told. -/
def skipSpaces? (tabs : Bool) (here : Here) : Option (List Char × Here) :=
  let isSkipped (c : Char) : Bool := c == ' ' || (tabs && c == '\t')
  let spaces := here.rest.takeWhile isSkipped
  let behind := here.advance spaces.length
  if behind.next = some '#' then
    if spaces.isEmpty then none else some (spaces, behind.lineEnd)
  else some (spaces, behind)

/-- The end of this line, when nothing but spaces and a comment is left on it. -/
def emptyLine? (here : Here) : Option Here := do
  let (_, here) ← here.skipSpaces? true
  if isEnd here.next then return here else none

/-- Skips blanks and comments, and tells whether a line ended.  Tabs do not stand
for the indentation of a block. -/
def skipBlanks? (inBlock : Bool) (indent : Int) : (fuel : Nat) → Here → Option (Bool × Here)
  | 0, _ => none
  | fuel + 1, here =>
      match here.next with
      | some '\t' =>
          if inBlock && here.isFresh && here.column < indent then do
            skipBlanks? inBlock indent fuel (← here.emptyLine?)
          else skipBlanks? inBlock indent fuel here.step
      | some ' ' => skipBlanks? inBlock indent fuel here.step
      | some '\n' => (skipBlanks? inBlock indent fuel here.step).map fun (_, here) => (true, here)
      | some '#' => skipBlanks? inBlock indent fuel here.lineEnd
      | _ => some (false, here)

end Here

end DirectoryInterchange.Settings.Yaml
