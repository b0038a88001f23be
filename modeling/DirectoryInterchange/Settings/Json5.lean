import DirectoryInterchange.Settings.Value
import DirectoryInterchange.Text.Letter

/-!
Settings as a JSON5 object.

Beyond the strict grammar there are comments, names without quotes, single quotes,
commas in front of a closing bracket, and more ways to spell numbers.
-/

namespace DirectoryInterchange.Settings.Json5

def isLineEnd (c : Char) : Bool :=
  c == '\n' || c == '\r' || c == '\u2028' || c == '\u2029'

/-- All blanks but one, and the mark of the byte order. -/
def isBlank (c : Char) : Bool :=
  (Blank.isBlank c && c != '\u0085') || c == '\uFEFF'

/-- The text behind the end of a comment. -/
def behindComment? : List Char → Option (List Char)
  | [] => none
  | '*' :: '/' :: rest => some rest
  | _ :: rest => behindComment? rest

theorem length_behindComment? {text rest : List Char} (found : behindComment? text = some rest) :
    rest.length < text.length := by
  fun_induction behindComment? text with
  | case1 => cases found
  | case2 =>
      cases found
      simp only [List.length_cons]
      omega
  | case3 _ _ _ inductionHypothesis => exact Nat.lt_succ_of_lt (inductionHypothesis found)

/-- Skips blanks and comments. -/
def skip (text : List Char) : List Char :=
  match _here : text.dropWhile isBlank with
  | '/' :: '/' :: rest => skip (rest.dropWhile fun c => !isLineEnd c)
  | '/' :: '*' :: rest =>
      match _found : behindComment? rest with
      | some behind => skip behind
      | none => '/' :: '*' :: rest
  | rest => rest
  termination_by text.length
  decreasing_by
    all_goals
      have shorter := (List.dropWhile_sublist (l := text) isBlank).length_le
      rw [_here] at shorter
      simp only [List.length_cons] at shorter
    · have := (List.dropWhile_sublist (l := rest) fun c => !isLineEnd c).length_le
      omega
    · have := length_behindComment? _found
      omega

/-! ### Names and strings -/

/-- A character by four digits, or by twice four for a pair of surrogates. -/
def escape? : Scan Char
  | a :: b :: c :: d :: rest => do
      let code ← Numeral.inBase? 16 [a, b, c, d]
      match character? code, rest with
      | some character, rest => return (character, rest)
      | none, '\\' :: 'u' :: e :: f :: g :: h :: rest => do
          return (← joined? code (← Numeral.inBase? 16 [e, f, g, h]), rest)
      | none, _ => none
  | _ => none

/-- What a character stands for behind a backslash; a digit stands for nothing. -/
def escaped? (c : Char) : Option Char :=
  if c = 'b' then some '\x08'
  else if c = 'f' then some '\x0C'
  else if c = 'n' then some '\n'
  else if c = 'r' then some '\r'
  else if c = 't' then some '\t'
  else if c = 'v' then some '\x0B'
  else if c = '0' then some '\x00'
  else if c.isDigit then none
  else some c

/-- The rest of a string in quotes of one kind.  A line may only end in it behind a
backslash. -/
def string? (quote : Char) : (fuel : Nat) → Scan (List Char)
  | 0, _ => none
  | _ + 1, [] => none
  | fuel + 1, '\\' :: rest =>
      match rest with
      | '\r' :: '\n' :: rest => string? quote fuel rest
      | 'u' :: rest => do
          let (character, rest) ← escape? rest
          (string? quote fuel rest).map fun (text, rest) => (character :: text, rest)
      | 'x' :: a :: b :: rest => do
          let character ← character? (← Numeral.inBase? 16 [a, b])
          (string? quote fuel rest).map fun (text, rest) => (character :: text, rest)
      | 'x' :: _ => none
      | mark :: rest =>
          if isLineEnd mark then string? quote fuel rest
          else do
            let character ← escaped? mark
            (string? quote fuel rest).map fun (text, rest) => (character :: text, rest)
      | [] => none
  | fuel + 1, c :: rest =>
      if c = quote then some ([], rest)
      else if isLineEnd c then none
      else (string? quote fuel rest).map fun (text, rest) => (c :: text, rest)

def startsName (c : Char) : Bool :=
  c == '$' || c == '_' || Letter.isLetter c

/-- The rest of a name, in which characters may be spelled by their code points. -/
def nameRest : (fuel : Nat) → List Char → List Char × List Char
  | 0, text => ([], text)
  | fuel + 1, '\\' :: 'u' :: rest =>
      match escape? rest with
      | some (c, behind) =>
          let (name, rest) := nameRest fuel behind
          (c :: name, rest)
      | none => ([], '\\' :: 'u' :: rest)
  | fuel + 1, c :: rest =>
      if startsName c || Letter.isFollower c then
        let (name, rest) := nameRest fuel rest
        (c :: name, rest)
      else ([], c :: rest)
  | _ + 1, [] => ([], [])

/-- A name without quotes or a string. -/
def key? (text : List Char) : Option (String × List Char) :=
  let quoted (quote : Char) (rest : List Char) : Option (String × List Char) :=
    (string? quote (rest.length + 1) rest).map fun (text, rest) => (String.ofList text, rest)
  match text with
  | '"' :: rest => quoted '"' rest
  | '\'' :: rest => quoted '\'' rest
  | text =>
      if (text.head?.map fun c => startsName c || c == '\\').getD false then
        match nameRest text.length text with
        | ([], _) => none
        | (name, rest) => some (String.ofList name, rest)
      else none

/-! ### Numbers -/

/-- The largest number that may be spelled in base 16. -/
def largestHexadecimal : Nat := 4294967295

def isHexadecimal (c : Char) : Bool :=
  c.isAlphanum && Numeral.digitValue c < 16

/-- Digits without a zero in front of others. -/
def whole : List Char → List Char × List Char
  | '0' :: rest => (['0'], rest)
  | text => Decimal.splitDigits text

/-- An exponent with what it is spelled with, when there is one. -/
def exponent : List Char → Option Int × List Char
  | [] => (none, [])
  | mark :: rest =>
      let (negative, behind) := Decimal.splitSign rest
      let (digits, behind) := Decimal.splitDigits behind
      if (mark == 'e' || mark == 'E') && !digits.isEmpty then
        let number : Int := Numeral.value digits
        (some (if negative then -number else number), behind)
      else (none, mark :: rest)

/-- Digits with a point or an exponent make a number that need not be whole. -/
def decimal? (negative : Bool) : Scan Value := fun text =>
  let (digits, rest) := whole text
  let (fraction, behind) : Option (List Char) × List Char :=
    match rest with
    | '.' :: rest =>
        let (fraction, rest) := Decimal.splitDigits rest
        (some fraction, rest)
    | rest => (none, rest)
  let (power, behind) := exponent behind
  if digits.isEmpty && (fraction.getD []).isEmpty then none
  else if fraction.isNone && power.isNone then
    let number : Int := Numeral.value digits
    let number := if negative then -number else number
    if -Numeral.signedLimit ≤ number && number < Numeral.signedLimit then
      some (.integer number, behind)
    else none
  else
    let number := (Decimal.ofDigits negative digits (fraction.getD []) (power.getD 0)).nearest
    if number.isInfinite then none else some (.real number, behind)

/-- Only decimal digits have any sign; what is infinite or no number has no plus
sign. -/
def number? (text : List Char) : Option (Value × List Char) :=
  let (negative, unsigned) := Decimal.splitSign text
  let hexadecimal? (rest : List Char) : Option (Value × List Char) := do
    let number ← Numeral.inBase? 16 (rest.takeWhile isHexadecimal)
    if text.length = unsigned.length && number ≤ largestHexadecimal then
      return (.integer number, rest.dropWhile isHexadecimal)
    else none
  let isPlus := text.head? == some '+'
  match unsigned with
  | '0' :: 'x' :: rest | '0' :: 'X' :: rest => hexadecimal? rest
  | 'I' :: 'n' :: 'f' :: 'i' :: 'n' :: 'i' :: 't' :: 'y' :: rest =>
      if isPlus then none else some (.real (.infinite negative), rest)
  | 'N' :: 'a' :: 'N' :: rest => if isPlus then none else some (.real .undefined, rest)
  | unsigned => decimal? negative unsigned

/-! ### Values -/

mutual

def value? : (fuel : Nat) → Scan Value
  | 0, _ => none
  | fuel + 1, text =>
      match skip text with
      | 'n' :: 'u' :: 'l' :: 'l' :: rest => some (.null, rest)
      | 't' :: 'r' :: 'u' :: 'e' :: rest => some (.flag true, rest)
      | 'f' :: 'a' :: 'l' :: 's' :: 'e' :: rest => some (.flag false, rest)
      | '{' :: rest =>
          (members? fuel rest).map fun (entries, rest) => (.ofKeys (entries.map (·.1)), rest)
      | '[' :: rest => (elements? fuel rest).map (.list, ·)
      | '"' :: rest => (key? ('"' :: rest)).map fun (text, rest) => (.text text, rest)
      | '\'' :: rest => (key? ('\'' :: rest)).map fun (text, rest) => (.text text, rest)
      | text => number? text

/-- The text behind the elements of a list and its closing bracket. -/
def elements? : (fuel : Nat) → List Char → Option (List Char)
  | 0, _ => none
  | fuel + 1, text =>
      match skip text with
      | ']' :: rest => some rest
      | text => do
          let (_, rest) ← value? fuel text
          match skip rest with
          | ',' :: rest => elements? fuel rest
          | ']' :: rest => some rest
          | _ => none

/-- The members of an object, and the text behind its closing bracket. -/
def members? : (fuel : Nat) → Scan Entries
  | 0, _ => none
  | fuel + 1, text =>
      match skip text with
      | '}' :: rest => some ([], rest)
      | text => do
          let (name, rest) ← key? text
          let ':' :: rest := skip rest | none
          let (value, rest) ← value? fuel rest
          match skip rest with
          | ',' :: rest => (members? fuel rest).map fun (entries, rest) =>
              ((name, value) :: entries, rest)
          | '}' :: rest => some ([(name, value)], rest)
          | _ => none

end

/-- The members of the object that a text spells. -/
def parse? (text : String) : Option Entries := do
  let '{' :: rest := skip text.toList | none
  let (entries, rest) ← members? (2 * rest.length + 2) rest
  if (skip rest).isEmpty then return entries else none

end DirectoryInterchange.Settings.Json5
