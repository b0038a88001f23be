import DirectoryInterchange.Settings.Value

/-!
Settings as a RON value: a map, or a structure with named fields.

The names of structures do not count, an optional value counts as the value that
it holds, and what has no fields counts as nothing.  Brackets are nested at most
128 levels deep.
-/

namespace DirectoryInterchange.Settings.Ron

def isBlank (c : Char) : Bool :=
  c == ' ' || c == '\n' || c == '\t' || c == '\r'

/-- The text behind a comment that is nested so deep. -/
def behindComment? : (depth : Nat) → List Char → Option (List Char)
  | 0, rest => some rest
  | depth + 1, '/' :: '*' :: rest => behindComment? (depth + 2) rest
  | depth + 1, '*' :: '/' :: rest => behindComment? depth rest
  | depth + 1, _ :: rest => behindComment? (depth + 1) rest
  | _ + 1, [] => none

/-- Skips blanks and comments; there are no other strokes. -/
def skip? : (fuel : Nat) → List Char → Option (List Char)
  | 0, _ => none
  | fuel + 1, text =>
      match text.dropWhile isBlank with
      | '/' :: '/' :: rest => skip? fuel (rest.dropWhile (· != '\n'))
      | '/' :: '*' :: rest => do skip? fuel (← behindComment? 1 rest)
      | '/' :: _ => none
      | rest => some rest

def blanks? (text : List Char) : Option (List Char) :=
  skip? (text.length + 1) text

/-! ### Names -/

def startsName (c : Char) : Bool :=
  c.isAlpha || c == '_'

def isNameCharacter (c : Char) : Bool :=
  c.isAlphanum || c == '_'

/-- What a name may hold that is marked as raw. -/
def isRawCharacter (c : Char) : Bool :=
  isNameCharacter c || c == '.' || c == '+' || c == '-'

/-- The text behind a word, unless a longer name starts here. -/
def word? (word : String) (text : List Char) : Option (List Char) :=
  let rest := text.drop word.length
  if text.take word.length = word.toList && !(rest.head?.map isNameCharacter).getD false then
    some rest
  else none

/-- A name.  One that is not marked as raw is not followed by what only a raw name
may hold, and a raw string is no name. -/
def name? (text : List Char) : Option (List Char × List Char) :=
  let plain (text : List Char) : Option (List Char × List Char) :=
    let rest := text.dropWhile isNameCharacter
    if (rest.head?.map isRawCharacter).getD false then none
    else some (text.takeWhile isNameCharacter, rest)
  match text with
  | ['r'] => none
  | 'r' :: '"' :: _ => none
  | 'r' :: '#' :: rest =>
      if (rest.head?.map isRawCharacter).getD false then
        some (rest.takeWhile isRawCharacter, rest.dropWhile isRawCharacter)
      else none
  | c :: rest => if startsName c then plain (c :: rest) else none
  | [] => none

/-! ### Strings -/

/-- A character by its code point, one to six digits in braces. -/
def unicode? : Scan Char
  | '{' :: rest => do
      let digits := (rest.take 6).takeWhile (· != '}')
      let character ← character? (← Numeral.inBase? 16 digits)
      let '}' :: rest := rest.drop digits.length | none
      return (character, rest)
  | _ => none

/-- The character that stands behind a backslash. -/
def escape? : Scan Char
  | '\'' :: rest => some ('\'', rest)
  | '"' :: rest => some ('"', rest)
  | '\\' :: rest => some ('\\', rest)
  | 'n' :: rest => some ('\n', rest)
  | 'r' :: rest => some ('\r', rest)
  | 't' :: rest => some ('\t', rest)
  | '0' :: rest => some ('\x00', rest)
  | 'x' :: a :: b :: rest => do
      return (← character? (← Numeral.inBase? 16 [a, b]), rest)
  | 'u' :: rest => unicode? rest
  | _ => none

/-- The rest of a string behind its opening quote. -/
def string? : (fuel : Nat) → Scan (List Char)
  | 0, _ => none
  | _ + 1, [] => none
  | _ + 1, '"' :: rest => some ([], rest)
  | fuel + 1, '\\' :: rest => do
      let (character, rest) ← escape? rest
      (string? fuel rest).map fun (text, rest) => (character :: text, rest)
  | fuel + 1, c :: rest => (string? fuel rest).map fun (text, rest) => (c :: text, rest)

/-- A text up to an ending. -/
def until? (ending : List Char) : Scan (List Char)
  | [] => none
  | c :: rest =>
      if ending.isPrefixOf (c :: rest) then some ([], (c :: rest).drop ending.length)
      else (until? ending rest).map fun (text, rest) => (c :: text, rest)

/-- A string in which nothing stands for anything else, behind its mark. -/
def raw? : Scan (List Char) := fun text => do
  let marks := text.takeWhile (· == '#')
  let '"' :: rest := text.dropWhile (· == '#') | none
  until? ('"' :: marks) rest

/-- The rest of a single character behind its opening quote. -/
def single? : Scan (List Char)
  | '\\' :: rest => do
      let (c, '\'' :: rest) ← escape? rest | none
      return ([c], rest)
  | c :: '\'' :: rest => if c = '\'' then none else some ([c], rest)
  | _ => none

/-- The rest of a string or a character from its opening mark. -/
def text? (text : List Char) : Option (Value × List Char) :=
  let found := match text with
    | '"' :: rest => string? (rest.length + 1) rest
    | 'r' :: rest => raw? rest
    | '\'' :: rest => single? rest
    | _ => none
  found.map fun (text, rest) => (.text (String.ofList text), rest)

/-! ### Numbers -/

def isIntegerCharacter (c : Char) : Bool :=
  c == '_' || (c.isAlphanum && Numeral.digitValue c < 16)

def isRealCharacter (c : Char) : Bool :=
  c.isDigit || c == 'e' || c == 'E' || c == '.' || c == '+' || c == '-' || c == '_'

/-- The base of a number and its digits. -/
def based : List Char → Nat × List Char
  | '0' :: 'x' :: rest => (16, rest)
  | '0' :: 'b' :: rest => (2, rest)
  | '0' :: 'o' :: rest => (8, rest)
  | rest => (10, rest)

/-- A whole number of 64 bits, perhaps with underscores behind its first digit. -/
def integer? (signed negative : Bool) : Scan Value := fun text => do
  let (base, rest) := based text
  let spelled := rest.takeWhile isIntegerCharacter
  if spelled.isEmpty || spelled.head? == some '_' then none
  else
    let number ← Numeral.inBase? base (spelled.filter (· != '_'))
    let behind := rest.dropWhile isIntegerCharacter
    if !signed then
      if number ≤ Numeral.largest then return (.ofNat number, behind) else none
    else
      let number : Int := if negative then -number else number
      if -Numeral.signedLimit ≤ number && number < Numeral.signedLimit then
        return (.integer number, behind)
      else none

/-- The words for what is infinite or no number. -/
def numberWords : List String :=
  ["inf", "+inf", "-inf", "NaN", "+NaN", "-NaN"]

/-- A number that need not be whole. -/
def real? : Scan Value := fun text =>
  let spelled :=
    match numberWords.find? fun word => (word? word text).isSome with
    | some word => word.toList
    | none => text.takeWhile isRealCharacter
  (Decimal.parse? spelled).map fun number => (.real number, text.drop spelled.length)

/-- A number that is not spelled like a whole one, or is too large for that, is read
as one that need not be whole. -/
def number? (text : List Char) : Option (Value × List Char) :=
  let (negative, unsigned) := Decimal.splitSign text
  let signed := unsigned.length < text.length
  let isReal :=
    (unsigned.takeWhile isIntegerCharacter).length < (unsigned.takeWhile isRealCharacter).length
  if isReal then real? text
  else match integer? signed negative unsigned with
    | some found => some found
    | none => real? text

/-- A word for a number that has no plus sign. -/
def numberWord? (text : List Char) : Option (Value × List Char) :=
  if ["inf", "-inf", "NaN"].any fun word => (word? word text).isSome then real? text else none

/-! ### Values -/

/-- Whether a structure has named fields, seen from behind its opening bracket. -/
def isNamed (text : List Char) : Bool :=
  let found := do
    let (_, rest) ← name? (← blanks? text)
    blanks? rest
  (found.map fun rest => rest.head? == some ':').getD false

/-- Skips a comma, and blanks in front of it and behind it. -/
def comma? (text : List Char) : Option (Bool × List Char) := do
  match ← blanks? text with
  | ',' :: rest => return (true, ← blanks? rest)
  | rest => return (false, rest)

mutual

/-- A value, with so many levels of brackets left. -/
def value? : (fuel levels : Nat) → Scan Value
  | 0, _, _ => none
  | fuel + 1, levels, text =>
      match word? "true" text, word? "false" text, word? "Some" text, word? "None" text,
        numberWord? text with
      | some rest, _, _, _, _ => some (.flag true, rest)
      | _, some rest, _, _, _ => some (.flag false, rest)
      | _, _, some rest, _, _ => do
          let '(' :: rest ← blanks? rest | none
          if levels = 0 then none
          else
            let (value, rest) ← value? fuel (levels - 1) (← blanks? rest)
            let (_, ')' :: rest) ← comma? rest | none
            return (value, rest)
      | _, _, _, some rest, _ => some (.null, rest)
      | _, _, _, _, some found => some found
      | none, none, none, none, none =>
          match text, name? text with
          | '(' :: ')' :: rest, _ => some (.null, rest)
          | _, some (_, rest) => do
              match ← blanks? rest with
              | '(' :: rest => structure? fuel levels rest
              | rest => return (.null, rest)
          | '(' :: rest, none => structure? fuel levels rest
          | '[' :: rest, none =>
              if levels = 0 then none else (elements? fuel (levels - 1) ']' rest).map (.list, ·)
          | '{' :: rest, none =>
              if levels = 0 then none
              else (members? fuel (levels - 1) rest).map fun (entries, rest) =>
                (.ofKeys (entries.map (·.1)), rest)
          | '"' :: _, none | 'r' :: _, none | '\'' :: _, none => text? text
          | '.' :: _, none => real? text
          | c :: _, none => if c.isDigit || c == '+' || c == '-' then number? text else none
          | [], none => none

/-- A structure behind its opening bracket, with names for its fields or without. -/
def structure? : (fuel levels : Nat) → Scan Value
  | 0, _, _ => none
  | fuel + 1, levels, text =>
      if levels = 0 then none
      else if isNamed text then
        (fields? fuel (levels - 1) text).map fun (entries, rest) =>
          (.ofKeys (entries.map (·.1)), rest)
      else (elements? fuel (levels - 1) ')' text).map (.list, ·)

/-- The text behind elements and their closing bracket. -/
def elements? : (fuel levels : Nat) → (closing : Char) → List Char → Option (List Char)
  | 0, _, _, _ => none
  | fuel + 1, levels, closing, text => do
      let text ← blanks? text
      if text.head? = some closing then return text.drop 1
      else
        let (_, rest) ← value? fuel levels text
        let (goesOn, rest) ← comma? rest
        if goesOn then elements? fuel levels closing rest
        else if rest.head? = some closing then return rest.drop 1
        else none

/-- The fields of a structure, and the text behind its closing bracket. -/
def fields? : (fuel levels : Nat) → Scan Entries
  | 0, _, _ => none
  | fuel + 1, levels, text => do
      match ← blanks? text with
      | ')' :: rest => return ([], rest)
      | text =>
          let (name, rest) ← name? text
          let (entry, goesOn, rest) ← entry? fuel levels (String.ofList name) rest
          match goesOn, rest with
          | true, rest =>
              (fields? fuel levels rest).map fun (entries, rest) => (entry :: entries, rest)
          | false, ')' :: rest => return ([entry], rest)
          | false, _ => none

/-- The members of a map, whose keys are texts, and the text behind its closing
brace. -/
def members? : (fuel levels : Nat) → Scan Entries
  | 0, _, _ => none
  | fuel + 1, levels, text => do
      match ← blanks? text with
      | '}' :: rest => return ([], rest)
      | text =>
          let (.text name, rest) ← text? text | none
          let (entry, goesOn, rest) ← entry? fuel levels name rest
          match goesOn, rest with
          | true, rest =>
              (members? fuel levels rest).map fun (entries, rest) => (entry :: entries, rest)
          | false, '}' :: rest => return ([entry], rest)
          | false, _ => none

/-- The value behind a name and its colon, and whether a comma follows. -/
def entry? : (fuel levels : Nat) → (name : String) → List Char →
    Option ((String × Value) × Bool × List Char)
  | 0, _, _, _ => none
  | fuel + 1, levels, name, text => do
      let ':' :: rest ← blanks? text | none
      let (value, rest) ← value? fuel levels (← blanks? rest)
      let (goesOn, rest) ← comma? rest
      return ((name, value), goesOn, rest)

end

/-! ### Documents -/

/-- What may be enabled in front of the value; nothing of it matters here. -/
def extensions : List String :=
  ["unwrap_newtypes", "implicit_some", "unwrap_variant_newtypes"]

/-- The text behind several marks, which may have blanks between them. -/
def marks? : List (List Char) → List Char → Option (List Char)
  | [], text => some text
  | mark :: marks, text => do
      let text ← blanks? text
      if mark.isPrefixOf text then marks? marks (text.drop mark.length) else none

/-- The text behind the names of extensions. -/
def extensions? : (fuel : Nat) → List Char → Option (List Char)
  | 0, _ => none
  | fuel + 1, text => do
      let (name, rest) ← name? text
      if !extensions.contains (String.ofList name) then none
      else
        let (goesOn, rest) ← comma? rest
        if goesOn && (rest.head?.map isNameCharacter).getD false then extensions? fuel rest
        else return rest

/-- The text behind the extensions that are enabled. -/
def header? : (fuel : Nat) → List Char → Option (List Char)
  | 0, _ => none
  | fuel + 1, text => do
      match ← blanks? text with
      | '#' :: rest =>
          let names ← marks? (["!", "[", "enable", "("].map String.toList) rest
          let rest ← extensions? (names.length + 1) (← blanks? names)
          header? fuel (← marks? [[')'], [']']] rest)
      | rest => return rest

/-- How deep brackets are nested at most. -/
def deepest : Nat := 128

/-- The fields of the structure or the members of the map that a text spells. -/
def parse? (text : String) : Option Entries := do
  let characters := text.toList
  let text ← header? (characters.length + 1) characters
  let (entries, rest) ← root? (3 * text.length + 3) deepest text
  if (← blanks? rest).isEmpty then return entries else none
where
  /-- The outermost value, which has to hold entries. -/
  root? : (fuel levels : Nat) → Scan Entries
    | 0, _, _ => none
    | fuel + 1, levels, text =>
        if levels = 0 then none
        else match text, word? "Some" text, name? text with
          | _, some rest, _ => do
              let '(' :: rest ← blanks? rest | none
              let (entries, rest) ← root? fuel (levels - 1) (← blanks? rest)
              let (_, ')' :: rest) ← comma? rest | none
              return (entries, rest)
          | '{' :: rest, none, _ => members? fuel (levels - 1) rest
          | '(' :: rest, none, none =>
              if isNamed rest then fields? fuel (levels - 1) rest else none
          | _, none, some (_, rest) => do
              let '(' :: rest ← blanks? rest | none
              if isNamed rest then fields? fuel (levels - 1) rest else none
          | _, none, none => none

end DirectoryInterchange.Settings.Ron
