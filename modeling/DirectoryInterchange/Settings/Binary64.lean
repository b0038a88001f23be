import DirectoryInterchange.Text.Numeral

/-!
Numbers with 53 significant binary digits, and the results of rounding to them.

A finite number is a significand times a power of two.  Whatever is rounded goes
to the nearest number, and to the one with the even significand when two are
equally near.
-/

namespace DirectoryInterchange.Settings

inductive Binary64
  /-- The significand times two to the power of the exponent. -/
  | finite (negative : Bool) (significand : Nat) (exponent : Int)
  | infinite (negative : Bool)
  | undefined
  deriving DecidableEq, Repr

/-- A quotient rounded to a whole number, a half to the even one. -/
def roundToEven (numerator denominator : Nat) : Nat :=
  let quotient := numerator / denominator
  let excess := 2 * (numerator % denominator)
  if excess < denominator then quotient
  else if denominator < excess then quotient + 1
  else quotient + quotient % 2

/-- A power as a fraction whose numerator or denominator is one. -/
def powerFraction (base : Nat) (exponent : Int) : Nat × Nat :=
  (Nat.pow base exponent.toNat, Nat.pow base (-exponent).toNat)

namespace Binary64

/-- The exponent of the smallest numbers. -/
def lowest : Int := -1074

/-- The exponent of the largest numbers. -/
def highest : Int := 971

/-- The smallest significand with all 53 digits. -/
def fullSignificand : Nat := 4503599627370496

def zero (negative : Bool) : Binary64 :=
  .finite negative 0 lowest

/-- The power of two that the leading digit of a positive quotient stands for. -/
def leadingExponent (numerator denominator : Nat) : Int :=
  let estimate : Int := numerator.log2 - denominator.log2
  let (up, down) := powerFraction 2 estimate
  if denominator * up ≤ numerator * down then estimate else estimate - 1

/-- The number nearest to a quotient. -/
def ofQuotient (negative : Bool) (numerator denominator : Nat) : Binary64 :=
  if numerator = 0 then zero negative
  else
    let exponent := max lowest (leadingExponent numerator denominator - 52)
    let (up, down) := powerFraction 2 exponent
    let significand := roundToEven (numerator * down) (denominator * up)
    if significand = 2 * fullSignificand then
      if exponent < highest then .finite negative fullSignificand (exponent + 1)
      else .infinite negative
    else if highest < exponent then .infinite negative
    else .finite negative significand exponent

def ofNat (number : Nat) : Binary64 :=
  ofQuotient false number 1

def isInfinite : Binary64 → Bool
  | infinite _ => true
  | finite .. | undefined => false

def isZero : Binary64 → Bool
  | finite _ significand _ => significand = 0
  | infinite _ | undefined => false

def negate : Binary64 → Binary64
  | finite negative significand exponent => finite (!negative) significand exponent
  | infinite negative => infinite (!negative)
  | undefined => undefined

/-- The product of two finite numbers; nothing else is ever multiplied. -/
def times : Binary64 → Binary64 → Binary64
  | finite negative first exponent, finite negative' second exponent' =>
      let (up, down) := powerFraction 2 (exponent + exponent')
      ofQuotient (negative != negative') (first * second * up) down
  | _, _ => undefined

/-- The quotient of two finite numbers; nothing is ever divided by zero. -/
def dividedBy : Binary64 → Binary64 → Binary64
  | finite negative first exponent, finite negative' second exponent' =>
      let (up, down) := powerFraction 2 (exponent - exponent')
      ofQuotient (negative != negative') (first * up) (second * down)
  | _, _ => undefined

/-- The number nearest to a power of ten that is not negative. -/
def powerOfTen (exponent : Nat) : Binary64 :=
  ofNat (Nat.pow 10 exponent)

/-- The nearest number without a sign in 64 bits; a half goes up. -/
def toCount : Binary64 → Nat
  | infinite false => Numeral.largest
  | infinite true | undefined | finite true .. => 0
  | finite false significand exponent =>
      let (up, down) := powerFraction 2 exponent
      min ((2 * significand * up + down) / (2 * down)) Numeral.largest

end Binary64

end DirectoryInterchange.Settings
