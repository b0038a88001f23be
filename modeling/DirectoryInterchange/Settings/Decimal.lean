import DirectoryInterchange.Settings.Binary64
import DirectoryInterchange.Text.Ascii

/-!
Numbers as decimal digits spell them.  `nearest` is the number that they are
rounded to, and `parse?` also knows the words for what is infinite or no number.
-/

namespace DirectoryInterchange.Settings

/-- Some digits times a power of ten. -/
structure Decimal where
  negative : Bool
  digits : Nat
  exponent : Int
  deriving DecidableEq, Repr

namespace Decimal

/-- Digits in front of and behind a point, and the power of ten behind them. -/
def ofDigits (negative : Bool) (whole fraction : List Char) (exponent : Int) : Decimal :=
  { negative, digits := Numeral.value (whole ++ fraction), exponent := exponent - fraction.length }

/-- The power of ten that all digits stay below. -/
def magnitude (decimal : Decimal) : Int :=
  (Nat.toDigits 10 decimal.digits).length + decimal.exponent

/-- The number that a decimal is rounded to.  What is far out of range is settled
by its magnitude alone. -/
def nearest (decimal : Decimal) : Binary64 :=
  if decimal.digits = 0 || decimal.magnitude < -330 then .zero decimal.negative
  else if 310 < decimal.magnitude then .infinite decimal.negative
  else
    let (up, down) := powerFraction 10 decimal.exponent
    .ofQuotient decimal.negative (decimal.digits * up) down

/-- Splits off a sign; without one a number is positive. -/
def splitSign : List Char → Bool × List Char
  | '-' :: rest => (true, rest)
  | '+' :: rest => (false, rest)
  | rest => (false, rest)

/-- Splits off leading digits. -/
def splitDigits (text : List Char) : List Char × List Char :=
  (text.takeWhile Char.isDigit, text.dropWhile Char.isDigit)

/-- An exponent up to the end of the text, zero when nothing is left. -/
def exponent? : List Char → Option Int
  | [] => some 0
  | mark :: rest =>
      let (negative, digits) := splitSign rest
      if (mark == 'e' || mark == 'E') && Numeral.isNumeral digits then
        some (if negative then -Numeral.value digits else Numeral.value digits)
      else none

/-- The digits in front of a point and those behind it, and the rest. -/
def mantissa (text : List Char) : List Char × List Char × List Char :=
  let (whole, rest) := splitDigits text
  match rest with
  | '.' :: rest =>
      let (fraction, rest) := splitDigits rest
      (whole, fraction, rest)
  | rest => (whole, [], rest)

/-- A number with digits in front of the point, behind it or both, or a word
for what is infinite or no number. -/
def parse? (text : List Char) : Option Binary64 :=
  let (negative, unsigned) := splitSign text
  let word := Ascii.lower (String.ofList unsigned)
  if word = "inf" ∨ word = "infinity" then some (.infinite negative)
  else if word = "nan" then some .undefined
  else
    let (whole, fraction, rest) := mantissa unsigned
    if whole.isEmpty && fraction.isEmpty then none
    else (exponent? rest).map fun exponent =>
      (ofDigits negative whole fraction exponent).nearest

end Decimal

end DirectoryInterchange.Settings
