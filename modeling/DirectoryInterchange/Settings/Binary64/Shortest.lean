import DirectoryInterchange.Settings.Binary64
import DirectoryInterchange.Text.Blank

/-!
The fewest decimal digits that read back as a number, and the text made of them.

Of all decimals with so few digits the nearest is taken, and the larger of two
that are equally near.  The text is positional however large or small the number
is, and a whole number has no point.
-/

namespace DirectoryInterchange.Settings.Binary64

/-- A positive number as a fraction between the ends of what rounds to it.  All
three share the denominator, and the ends count when the significand is even. -/
structure Neighbourhood where
  low : Nat
  middle : Nat
  high : Nat
  denominator : Nat
  isClosed : Bool
  deriving DecidableEq, Repr

namespace Neighbourhood

/-- The number below a full significand is only half as far away, unless there
are no smaller exponents. -/
def ofParts (significand : Nat) (exponent : Int) : Neighbourhood :=
  let (up, down) := powerFraction 2 (exponent - 2)
  let below := if significand = fullSignificand && lowest < exponent then 1 else 2
  { low := (4 * significand - below) * up
    middle := 4 * significand * up
    high := (4 * significand + 2) * up
    denominator := down
    isClosed := significand % 2 = 0 }

/-- Whether a number with this denominator rounds to the one in the middle. -/
def holds (near : Neighbourhood) (numerator : Nat) : Bool :=
  if near.isClosed then near.low ≤ numerator && numerator ≤ near.high
  else near.low < numerator && numerator < near.high

/-- How many digits stand in front of the point; no digit there and zeros behind
it count downwards. -/
def magnitude (near : Neighbourhood) : Int :=
  if near.denominator ≤ near.middle then
    (Nat.toDigits 10 (near.middle / near.denominator)).length
  else 1 - (Nat.toDigits 10 ((near.denominator - 1) / near.middle)).length

/-- The multiple of a power of ten that is nearest to the number, when it rounds
to it. -/
def multiple? (near : Neighbourhood) (exponent : Int) : Option Nat :=
  let (up, down) := powerFraction 10 exponent
  let unit := near.denominator * up
  let lower := near.middle * down / unit
  let excess := near.middle * down - lower * unit
  let scaled : Neighbourhood :=
    { near with low := near.low * down, middle := near.middle * down, high := near.high * down }
  let fits (digits : Nat) : Bool := scaled.holds (digits * unit)
  if fits (lower + 1) && (unit ≤ 2 * excess || !fits lower) then some (lower + 1)
  else if fits lower then some lower
  else none

/-- The digits and the power of ten behind them.  Seventeen digits always read
back. -/
def shortest (near : Neighbourhood) : Nat × Int :=
  let found := (List.range 17).findSome? fun (count : Nat) =>
    let exponent : Int := near.magnitude - 1 - count
    (near.multiple? exponent).map (·, exponent)
  found.getD (0, 0)

end Neighbourhood

/-- Digits with a point where it is due and without zeros at the end. -/
def positional (digits : Nat) (exponent : Int) : List Char :=
  let places := (-exponent).toNat
  let spelled := Nat.toDigits 10 digits ++ List.replicate exponent.toNat '0'
  let padded := List.replicate (places + 1 - spelled.length) '0' ++ spelled
  let whole := padded.take (padded.length - places)
  match Blank.trimEnd (· == '0') (padded.drop (padded.length - places)) with
  | [] => whole
  | fraction => whole ++ '.' :: fraction

def text (number : Binary64) : String :=
  let sign (negative : Bool) : String := if negative then "-" else ""
  match number with
  | infinite negative => sign negative ++ "inf"
  | undefined => "NaN"
  | finite negative 0 _ => sign negative ++ "0"
  | finite negative significand exponent =>
      let (digits, exponent) := (Neighbourhood.ofParts significand exponent).shortest
      sign negative ++ String.ofList (positional digits exponent)

end DirectoryInterchange.Settings.Binary64
