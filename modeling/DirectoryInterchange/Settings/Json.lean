import DirectoryInterchange.Settings.Value

/-!
Settings as a JSON object.

The grammar is the strict one: no comments, no commas in front of a closing
bracket, and brackets are nested less than 128 levels deep.
-/

namespace DirectoryInterchange.Settings.Json

def isBlank (c : Char) : Bool :=
  c == ' ' || c == '\t' || c == '\n' || c == '\r'

def skip (text : List Char) : List Char :=
  text.dropWhile isBlank

/-- What stands for itself or for a control character behind a backslash. -/
def escaped? : Char → Option Char
  | '"' => some '"'
  | '\\' => some '\\'
  | '/' => some '/'
  | 'b' => some '\x08'
  | 'f' => some '\x0C'
  | 'n' => some '\n'
  | 'r' => some '\r'
  | 't' => some '\t'
  | _ => none

/-- The rest of a string behind its opening quote. -/
def string? : Scan (List Char)
  | [] => none
  | '"' :: rest => some ([], rest)
  | '\\' :: 'u' :: a :: b :: c :: d :: rest => do
      let code ← Numeral.inBase? 16 [a, b, c, d]
      match character? code, rest with
      | some character, rest => (string? rest).map fun (text, rest) => (character :: text, rest)
      | none, '\\' :: 'u' :: e :: f :: g :: h :: rest => do
          let character ← joined? code (← Numeral.inBase? 16 [e, f, g, h])
          (string? rest).map fun (text, rest) => (character :: text, rest)
      | none, _ => none
  | '\\' :: mark :: rest => do
      let character ← escaped? mark
      (string? rest).map fun (text, rest) => (character :: text, rest)
  | character :: rest =>
      if character.toNat < 0x20 then none
      else (string? rest).map fun (text, rest) => (character :: text, rest)
  termination_by text => text.length

/-! ### Numbers

A number that is not whole is worked out from as many leading digits as fit into
64 bits.  They are rounded, and then multiplied or divided by a power of ten and
rounded once more. -/

/-- Appends digits to a significand as long as it fits into 64 bits, and gives
back those that are left. -/
def significand (number : Nat) : List Char → Nat × List Char
  | [] => (number, [])
  | digit :: digits =>
      let longer := number * 10 + Numeral.digitValue digit
      if longer ≤ Numeral.largest then significand longer digits else (number, digit :: digits)

/-- The largest exponent that one multiplication or division is enough for. -/
def largestPower : Nat := 308

/-- A number times a power of ten, unless that is infinite. -/
def scaled? (number : Binary64) (exponent : Int) : Option Binary64 :=
  if exponent.natAbs ≤ largestPower then
    let power := Binary64.powerOfTen exponent.natAbs
    let product := if 0 ≤ exponent then number.times power else number.dividedBy power
    if product.isInfinite then none else some product
  else if number.isZero then some number
  else if _small : 0 ≤ exponent then none
  else scaled? (number.dividedBy (.powerOfTen largestPower)) (exponent + largestPower)
  termination_by exponent.natAbs
  decreasing_by simp only [largestPower] at *; omega

/-- The largest exponent that can be spelled, and behind its sign the smallest. -/
def largestExponent : Nat := 2147483647

/-- A number from its digits, of which those in front of the point are perhaps too
many, and its exponent. -/
def real? (whole fraction : List Char) (exponent : Int) : Option Binary64 :=
  let (number, excess) := significand 0 whole
  let (number, ignored) := significand number fraction
  if largestExponent < exponent.natAbs then
    if number ≠ 0 ∧ 0 < exponent then none else some (.zero false)
  else
    scaled? (.ofNat number) (exponent + excess.length - (fraction.length - ignored.length : Nat))

/-- A number without a zero in front and without a point or mark that no digit
follows. -/
def number? (spelled : List Char) : Option Value := do
  let (negative, unsigned) := match spelled with
    | '-' :: rest => (true, rest)
    | rest => (false, rest)
  let (whole, fraction, rest) := Decimal.mantissa unsigned
  if whole.isEmpty || (1 < whole.length && whole.head? == some '0') then none
  else if unsigned.contains '.' && fraction.isEmpty then none
  else if whole = unsigned && Numeral.value whole ≤ Numeral.largest then
    let number := Numeral.value whole
    if !negative then return .ofNat number
    else if number ≠ 0 ∧ number ≤ Numeral.signedLimit then return .integer (-number)
    else return .real (Binary64.ofNat number).negate
  else
    let number ← real? whole fraction (← Decimal.exponent? rest)
    return .real (if negative then number.negate else number)

def isWordCharacter (c : Char) : Bool :=
  c.isAlphanum || c == '+' || c == '-' || c == '.'

def word? (word : List Char) : Option Value :=
  if word = "null".toList then some .null
  else if word = "true".toList then some (.flag true)
  else if word = "false".toList then some (.flag false)
  else number? word

mutual

/-- A value, with so many levels of brackets left. -/
def value? : (fuel levels : Nat) → Scan Value
  | 0, _, _ => none
  | fuel + 1, levels, text =>
      match skip text with
      | '"' :: rest => (string? rest).map fun (text, rest) => (.text (String.ofList text), rest)
      | '{' :: rest =>
          if levels ≤ 1 then none
          else (object? fuel (levels - 1) rest).map fun (entries, rest) =>
            (.ofKeys (entries.map (·.1)), rest)
      | '[' :: rest =>
          if levels ≤ 1 then none
          else
            match skip rest with
            | ']' :: rest => some (.list, rest)
            | rest => (elements? fuel (levels - 1) rest).map fun rest => (.list, rest)
      | text => do
          let value ← word? (text.takeWhile isWordCharacter)
          return (value, text.dropWhile isWordCharacter)

/-- The text behind the elements of a list and its closing bracket. -/
def elements? : (fuel levels : Nat) → List Char → Option (List Char)
  | 0, _, _ => none
  | fuel + 1, levels, text => do
      let (_, rest) ← value? fuel levels text
      match skip rest with
      | ',' :: rest => elements? fuel levels rest
      | ']' :: rest => some rest
      | _ => none

/-- The rest of an object behind its opening bracket. -/
def object? : (fuel levels : Nat) → Scan Entries
  | 0, _, _ => none
  | fuel + 1, levels, text =>
      match skip text with
      | '}' :: rest => some ([], rest)
      | text => members? fuel levels text

/-- The members of an object and its closing bracket. -/
def members? : (fuel levels : Nat) → Scan Entries
  | 0, _, _ => none
  | fuel + 1, levels, text =>
      match skip text with
      | '"' :: rest => do
          let (name, rest) ← string? rest
          let ':' :: rest := skip rest | none
          let (value, rest) ← value? fuel levels rest
          let entry := (String.ofList name, value)
          match skip rest with
          | ',' :: rest => (members? fuel levels rest).map fun (entries, rest) =>
              (entry :: entries, rest)
          | '}' :: rest => some ([entry], rest)
          | _ => none
      | _ => none

end

/-- The members of the object that a text spells. -/
def parse? (text : String) : Option Entries := do
  let '{' :: rest := skip text.toList | none
  let (entries, rest) ← object? (2 * rest.length + 2) 127 rest
  if (skip rest).isEmpty then return entries else none

end DirectoryInterchange.Settings.Json
