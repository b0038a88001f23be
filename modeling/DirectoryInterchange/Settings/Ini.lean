import DirectoryInterchange.Settings.Value

/-!
Settings as an INI file.

A key goes up to `=` or `:` and a value to the end of its line, or to a closing
quote and then to the end of the line.  Behind a name in brackets the keys belong
to a section of that name; of several sections with one name the last counts.
Every value is a text.  A comment begins in the first column.
-/

namespace DirectoryInterchange.Settings.Ini

def isLineEnd (c : Char) : Bool :=
  c == '\n' || c == '\r'

/-- What is behind a backslash.  At the end of a line it stands for nothing, and
in front of most characters the backslash does not count. -/
def escaped (c : Char) : List Char :=
  if c = '0' then ['\x00']
  else if c = 'a' then ['\x07']
  else if c = 'b' then ['\x08']
  else if c = 't' then ['\t']
  else if c = 'r' then ['\r']
  else if c = 'n' then ['\n']
  else if c = '\n' then []
  else [c]

/-- The character that four digits stand for; the first may be a plus sign. -/
def code? (digits : List Char) : Option Char := do
  if digits.length ≠ 4 then none
  else
    let digits := match digits with
      | '+' :: digits => digits
      | digits => digits
    character? (← Numeral.inBase? 16 digits)

/-- A text up to where it ends, which is left over, and an end of the file is only
an end for it where that is said. -/
def until? (isEnd : Char → Bool) (orFile : Bool) : Scan (List Char)
  | [] => if orFile then some ([], []) else none
  | c :: rest =>
      if isEnd c then some ([], c :: rest)
      else
        match c, rest with
        | '\\', [] => none
        | '\\', 'x' :: rest => do
            let character ← code? (rest.take 4)
            (until? isEnd orFile (rest.drop 4)).map fun (text, rest) => (character :: text, rest)
        | '\\', mark :: rest =>
            (until? isEnd orFile rest).map fun (text, rest) => (escaped mark ++ text, rest)
        | c, rest => (until? isEnd orFile rest).map fun (text, rest) => (c :: text, rest)
  termination_by text => text.length

/-- A value behind its mark.  What follows a closing quote belongs to it. -/
def value? : Scan (List Char) := fun text =>
  let text := text.dropWhile fun c => Blank.isBlank c && !isLineEnd c
  let behindQuote (quote : Char) (rest : List Char) : Option (List Char × List Char) := do
    let (quoted, rest) ← until? (· == quote) false rest
    let (more, rest) ← until? isLineEnd true (rest.drop 1)
    return (quoted ++ more, rest)
  match text with
  | '"' :: rest => behindQuote '"' rest
  | '\'' :: rest => behindQuote '\'' rest
  | text => until? isLineEnd true text

/-- Keys with their values under the name of a section, or under none. -/
structure Part where
  name : Option String := none
  entries : Entries := []
  deriving DecidableEq, Repr

def Part.settings (part : Part) : Entries :=
  match part.name with
  | none => part.entries
  | some name => [(name, .ofKeys (part.entries.map (·.1)))]

/-- Whether the character behind blanks is the first of its line. -/
def startsLine (starts : Bool) (blanks : List Char) : Bool :=
  match blanks.getLast? with
  | none => starts
  | some c => c = '\n'

/-- The parts of a file from what was read of it: the parts that are complete, the
one that is being read, a key without a value, and whether a line starts here. -/
def parts? : (fuel : Nat) → List Part → Part → (key : List Char) → (starts : Bool) → List Char →
    Option (List Part)
  | 0, _, _, _, _, _ => none
  | fuel + 1, earlier, part, key, starts, text =>
      let starts := startsLine starts (text.takeWhile Blank.isBlank)
      match text.dropWhile Blank.isBlank with
      | [] => some (earlier ++ [part])
      | '[' :: rest => do
          let (name, rest) ← until? (· == ']') false rest
          let next : Part := { name := some (Blank.trimmed name) }
          parts? fuel (earlier ++ [part]) next key false (rest.drop 1)
      | c :: rest =>
          if c = ';' ∨ c = '#' then
            if starts then
              parts? fuel earlier part key true ((rest.dropWhile (· != '\n')).drop 1)
            else none
          else if c = '=' ∨ c = ':' then
            if key.isEmpty then none
            else do
              let (value, rest) ← value? rest
              let entry := (String.ofList key, .text (Blank.trimmed value))
              parts? fuel earlier { part with entries := part.entries ++ [entry] } [] false rest
          else do
            let (name, rest) ← until? (fun c => c == '=' || c == ':') false (c :: rest)
            parts? fuel earlier part (Blank.trim Blank.isBlank name) false rest

def parse? (text : String) : Option Entries :=
  let characters := text.toList
  (parts? (characters.length + 1) [] {} [] true characters).map fun parts =>
    parts.flatMap Part.settings

end DirectoryInterchange.Settings.Ini
