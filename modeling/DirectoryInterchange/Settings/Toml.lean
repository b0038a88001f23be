import DirectoryInterchange.Settings.Moment
import DirectoryInterchange.Settings.Toml.Document

/-!
Settings as a TOML document.

A statement assigns a value to a path of keys or opens a table, under which the
paths of the following statements lie.  Brackets and the keys of one path are
nested less than 80 levels deep.
-/

namespace DirectoryInterchange.Settings.Toml

def isSpace (c : Char) : Bool :=
  c == ' ' || c == '\t'

def skip (text : List Char) : List Char :=
  text.dropWhile isSpace

/-- Whether a character may stand in a comment or a string: no control character
but the tab. -/
def isContent (c : Char) : Bool :=
  c == '\t' || (0x20 ≤ c.toNat && c.toNat ≠ 0x7F)

/-- Skips a comment, if there is one, up to what cannot stand in it. -/
def skipComment (text : List Char) : List Char :=
  match text with
  | '#' :: rest => rest.dropWhile isContent
  | text => text

/-- Skips the rest of a line, which may hold a comment. -/
def endLine? (text : List Char) : Option (List Char) :=
  match skipComment (skip text) with
  | [] => some []
  | '\n' :: rest => some rest
  | _ => none

theorem length_skipComment_le (text : List Char) : (skipComment text).length ≤ text.length := by
  unfold skipComment
  split
  · exact Nat.le_trans (List.dropWhile_sublist _).length_le (by simp)
  · exact Nat.le_refl _

/-- Skips spaces, ends of lines and comments, each of which ends with its line. -/
def skipLines (text : List Char) : List Char :=
  match _found : skipComment (skip text) with
  | '\n' :: rest => skipLines rest
  | _ => skip text
  termination_by text.length
  decreasing_by
    have commented := length_skipComment_le (skip text)
    have skipped := (List.dropWhile_sublist (l := text) isSpace).length_le
    rw [_found] at commented
    simp only [skip, List.length_cons] at *
    omega

/-! ### Strings -/

def escaped? : Char → Option Char
  | '"' => some '"'
  | '\\' => some '\\'
  | 'b' => some '\x08'
  | 'f' => some '\x0C'
  | 'n' => some '\n'
  | 'r' => some '\r'
  | 't' => some '\t'
  | _ => none

/-- Whether a character may stand in a string over one line or over several. -/
def isStringContent (triple : Bool) (c : Char) : Bool :=
  isContent c || (triple && c == '\n')

/-- The rest of a string in double quotes.  A string in three quotes runs over
lines, and a backslash at the end of a line skips to the next word. -/
def basic? (triple : Bool) : Scan (List Char)
  | [] => none
  | '"' :: rest =>
      if !triple then some ([], rest)
      else
        match rest with
        | '"' :: '"' :: rest =>
            let quotes := rest.takeWhile (· == '"')
            if quotes.length ≤ 2 then some (quotes, rest.dropWhile (· == '"')) else none
        | rest => (basic? triple rest).map fun (text, rest) => ('"' :: text, rest)
  | '\\' :: 'u' :: a :: b :: c :: d :: rest => do
      let character ← character? (← Numeral.inBase? 16 [a, b, c, d])
      (basic? triple rest).map fun (text, rest) => (character :: text, rest)
  | '\\' :: 'U' :: a :: b :: c :: d :: e :: f :: g :: h :: rest => do
      let character ← character? (← Numeral.inBase? 16 [a, b, c, d, e, f, g, h])
      (basic? triple rest).map fun (text, rest) => (character :: text, rest)
  | '\\' :: rest =>
      if triple && (skip rest).head? == some '\n' then
        basic? triple (rest.dropWhile fun c => isSpace c || c == '\n')
      else
        match rest with
        | [] => none
        | mark :: rest => do
            let character ← escaped? mark
            (basic? triple rest).map fun (text, rest) => (character :: text, rest)
  | character :: rest =>
      if isStringContent triple character then
        (basic? triple rest).map fun (text, rest) => (character :: text, rest)
      else none
  termination_by text => text.length
  decreasing_by
    all_goals
      have shorter := (List.dropWhile_sublist (l := rest) fun c => isSpace c || c == '\n').length_le
      simp_all
      try omega

/-- The rest of a string in single quotes, which knows no escapes. -/
def literal? (triple : Bool) : Scan (List Char)
  | [] => none
  | '\'' :: rest =>
      if !triple then some ([], rest)
      else
        match rest with
        | '\'' :: '\'' :: rest =>
            let quotes := rest.takeWhile (· == '\'')
            if quotes.length ≤ 2 then some (quotes, rest.dropWhile (· == '\'')) else none
        | rest => (literal? triple rest).map fun (text, rest) => ('\'' :: text, rest)
  | character :: rest =>
      if isStringContent triple character then
        (literal? triple rest).map fun (text, rest) => (character :: text, rest)
      else none

/-- A string in one or three quotes of either kind; in three, an end of line
right behind the quotes does not count. -/
def string? (text : List Char) : Option (String × List Char) :=
  let firstLine (text : List Char) : List Char :=
    match text with
    | '\n' :: rest => rest
    | rest => rest
  let found := match text with
    | '"' :: '"' :: '"' :: rest => basic? true (firstLine rest)
    | '"' :: rest => basic? false rest
    | '\'' :: '\'' :: '\'' :: rest => literal? true (firstLine rest)
    | '\'' :: rest => literal? false rest
    | _ => none
  found.map fun (text, rest) => (String.ofList text, rest)

/-! ### Keys -/

/-- How deep brackets are nested and how long paths are at most. -/
def deepest : Nat := 79

def isKeyCharacter (c : Char) : Bool :=
  c.isAlphanum || c == '_' || c == '-'

def key? (text : List Char) : Option (String × List Char) :=
  match text with
  | '"' :: rest => (basic? false rest).map fun (text, rest) => (String.ofList text, rest)
  | '\'' :: rest => (literal? false rest).map fun (text, rest) => (String.ofList text, rest)
  | text =>
      let key := text.takeWhile isKeyCharacter
      if key.isEmpty then none else some (String.ofList key, text.dropWhile isKeyCharacter)

/-- So many keys at most with points between them, and with spaces around them. -/
def path? : (most : Nat) → Scan (List String)
  | 0, _ => none
  | most + 1, text => do
      let (key, rest) ← key? (skip text)
      match skip rest with
      | '.' :: rest => (path? most rest).map fun (keys, rest) => (key :: keys, rest)
      | rest => return ([key], rest)

/-! ### Numbers -/

/-- Splits off digits; single underscores between them do not count. -/
def digits (isDigit : Char → Bool) : List Char → List Char × List Char
  | [] => ([], [])
  | c :: rest =>
      let isBetween := c == '_' && (rest.head?.map isDigit).getD false
      if isDigit c then
        let (digits, rest) := digits isDigit rest
        (c :: digits, rest)
      else if isBetween then digits isDigit rest
      else ([], c :: rest)

/-- At least one digit. -/
def digits? (isDigit : Char → Bool) : Scan (List Char) := fun text =>
  if (text.head?.map isDigit).getD false then some (digits isDigit text) else none

/-- A number in another base has no sign. -/
def inBase? (base : Nat) : Scan Value := fun text => do
  let isDigit (c : Char) : Bool := c.isAlphanum && Numeral.digitValue c < base
  let (digits, rest) ← digits? isDigit text
  let number ← Numeral.inBase? base digits
  if number < Numeral.signedLimit then return (.integer number, rest) else none

/-- Digits without a zero in front; a zero stands alone. -/
def whole? : Scan (List Char)
  | '0' :: rest => some (['0'], rest)
  | text => digits? Char.isDigit text

/-- Digits behind a point; none when there is no point. -/
def fraction? : Scan (List Char)
  | '.' :: rest => digits? Char.isDigit rest
  | rest => some ([], rest)

/-- An exponent; zero when there is none. -/
def exponent? : Scan Int
  | mark :: rest =>
      if mark == 'e' || mark == 'E' then do
        let (negative, rest) := Decimal.splitSign rest
        let (digits, rest) ← digits? Char.isDigit rest
        let number : Int := Numeral.value digits
        return (if negative then -number else number, rest)
      else some (0, mark :: rest)
  | [] => some (0, [])

/-- A number in decimal digits, which may not be too large. -/
def decimal? : Scan Value := fun text => do
  let (negative, rest) := Decimal.splitSign text
  match rest with
  | 'i' :: 'n' :: 'f' :: rest => return (.real (.infinite negative), rest)
  | 'n' :: 'a' :: 'n' :: rest => return (.real .undefined, rest)
  | _ =>
      let (whole, behind) ← whole? rest
      let (fraction, rest) ← fraction? behind
      let (exponent, rest) ← exponent? rest
      if rest.length = behind.length then
        let number : Int := Numeral.value whole
        let number := if negative then -number else number
        if -Numeral.signedLimit ≤ number && number < Numeral.signedLimit then
          return (.integer number, rest)
        else none
      else
        let number := (Decimal.ofDigits negative whole fraction exponent).nearest
        if number = .infinite false then none else return (.real number, rest)

def number? (text : List Char) : Option (Value × List Char) :=
  match text with
  | '0' :: 'x' :: digits => inBase? 16 digits
  | '0' :: 'o' :: digits => inBase? 8 digits
  | '0' :: 'b' :: digits => inBase? 2 digits
  | text => decimal? text

/-! ### Values -/

mutual

/-- A value, with so many levels of brackets left. -/
def value? : (fuel levels : Nat) → Scan Value
  | 0, _, _ => none
  | fuel + 1, levels, text =>
      match text with
      | '[' :: rest =>
          if levels = 0 then none else (elements? fuel (levels - 1) rest).map (.list, ·)
      | '{' :: rest =>
          if levels = 0 then none
          else
            match skip rest with
            | '}' :: rest => some (.table [], rest)
            | rest => (members? fuel (levels - 1) {} rest).map fun (document, rest) =>
                (.ofKeys (document.keys []), rest)
      | '"' :: _ | '\'' :: _ => (string? text).map fun (text, rest) => (.text text, rest)
      | 't' :: 'r' :: 'u' :: 'e' :: rest => some (.flag true, rest)
      | 'f' :: 'a' :: 'l' :: 's' :: 'e' :: rest => some (.flag false, rest)
      | text =>
          match Moment.parse? text with
          | some (moment, rest) => some (.text moment.text, rest)
          | none => number? text

/-- The text behind the elements of a list and its closing bracket. -/
def elements? : (fuel levels : Nat) → List Char → Option (List Char)
  | 0, _, _ => none
  | fuel + 1, levels, text =>
      match skipLines text with
      | ']' :: rest => some rest
      | text => do
          let (_, rest) ← value? fuel levels text
          match skipLines rest with
          | ',' :: rest => elements? fuel levels rest
          | ']' :: rest => some rest
          | _ => none

/-- The members of a table on one line, and the text behind its closing bracket. -/
def members? : (fuel levels : Nat) → Document → Scan Document
  | 0, _, _, _ => none
  | fuel + 1, levels, document, text => do
      let (path, rest) ← path? deepest text
      let '=' :: rest := rest | none
      let (value, rest) ← value? fuel levels (skip rest)
      let document ← document.assign? [] path value
      match skip rest with
      | ',' :: rest => members? fuel levels document rest
      | '}' :: rest => some (document, rest)
      | _ => none

end

/-! ### Documents -/

/-- What statements make of a document in which a table is open. -/
def statements? : (fuel : Nat) → Document → (table : Site) → List Char → Option Document
  | 0, _, _, _ => none
  | fuel + 1, document, table, text =>
      match skip text with
      | [] => some document
      | '\n' :: rest => statements? fuel document table rest
      | '#' :: rest => do statements? fuel document table (← endLine? ('#' :: rest))
      | '[' :: '[' :: rest => do
          let (path, rest) ← path? deepest rest
          let ']' :: ']' :: rest := rest | none
          let (document, table) ← document.openElement? path
          statements? fuel document table (← endLine? rest)
      | '[' :: rest => do
          let (path, rest) ← path? deepest rest
          let ']' :: rest := rest | none
          let (document, table) ← document.openTable? path
          statements? fuel document table (← endLine? rest)
      | text => do
          let (path, rest) ← path? deepest text
          let '=' :: rest := rest | none
          let (value, rest) ← value? (2 * rest.length + 2) deepest (skip rest)
          statements? fuel (← document.assign? table path value) table (← endLine? rest)

/-- Carriage returns in front of line feeds do not count. -/
def withoutReturns : List Char → List Char
  | '\r' :: '\n' :: rest => '\n' :: withoutReturns rest
  | c :: rest => c :: withoutReturns rest
  | [] => []

/-- A text without a mark of the byte order in front. -/
def withoutMark : List Char → List Char
  | '\uFEFF' :: rest => rest
  | text => text

def parse? (text : String) : Option Entries :=
  let characters := withoutReturns (withoutMark text.toList)
  (statements? (characters.length + 1) {} [] characters).map Document.entries

end DirectoryInterchange.Settings.Toml
