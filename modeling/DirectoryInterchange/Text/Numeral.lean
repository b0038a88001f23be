/-!
Whole numbers as they are written: digits, perhaps with a sign in front.
`natural?` and `integer?` accept no more than fits into 64 bits.
-/

namespace DirectoryInterchange.Numeral

/-- The number that a sequence of digits spells. -/
def value (digits : List Char) : Nat :=
  digits.foldl (fun number digit => number * 10 + (digit.toNat - '0'.toNat)) 0

def digitValue (c : Char) : Nat :=
  if c.isDigit then c.toNat - '0'.toNat else c.toLower.toNat - 'a'.toNat + 10

/-- The number that digits in a base up to 36 spell. -/
def inBase? (base : Nat) (digits : List Char) : Option Nat :=
  if !digits.isEmpty && digits.all (fun c => c.isAlphanum && digitValue c < base) then
    some (digits.foldl (fun number digit => number * base + digitValue digit) 0)
  else none

def isNumeral (text : List Char) : Bool :=
  !text.isEmpty && text.all Char.isDigit

/-- The largest number without a sign in 64 bits. -/
def largest : Nat := 18446744073709551615

/-- The smallest number that is too large for 64 bits with a sign. -/
def signedLimit : Nat := 9223372036854775808

/-- Digits with perhaps a plus sign in front. -/
def natural? (text : List Char) : Option Nat :=
  let digits := match text with
    | '+' :: digits => digits
    | digits => digits
  if isNumeral digits && value digits ≤ largest then some (value digits) else none

/-- Digits with perhaps a sign in front. -/
def integer? (text : List Char) : Option Int :=
  let (number, digits) := match text with
    | '+' :: digits => ((value digits : Int), digits)
    | '-' :: digits => (-(value digits : Int), digits)
    | digits => ((value digits : Int), digits)
  if isNumeral digits && -signedLimit ≤ number && number < signedLimit then some number else none

end DirectoryInterchange.Numeral
