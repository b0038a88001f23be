import DirectoryInterchange.Settings.Value

/-!
Dates and times of day, as they are spelled and as they are written.

A moment is a date, a time or both, and with both it may tell how far its clock is
from the common one.  A second is written with as many places as it needs, nine
at most.
-/

namespace DirectoryInterchange.Settings

structure Date where
  year : Nat
  month : Nat
  day : Nat
  deriving DecidableEq, Repr

structure Clock where
  hour : Nat
  minute : Nat
  second : Nat
  /-- Nine digits for the billionths of a second. -/
  places : List Char
  deriving DecidableEq, Repr

inductive Offset
  /-- The common clock itself. -/
  | none
  | by (negative : Bool) (hours minutes : Nat)
  deriving DecidableEq, Repr

inductive Moment
  | date (date : Date)
  | clock (clock : Clock)
  | both (date : Date) (clock : Clock) (offset : Option Offset)
  deriving DecidableEq, Repr

namespace Moment

/-- So many digits for a number between two bounds. -/
def number? (width low high : Nat) : Scan Nat := fun text =>
  let digits := text.take width
  let number := Numeral.value digits
  if digits.length = width && digits.all Char.isDigit && low ≤ number && number ≤ high then
    some (number, text.drop width)
  else none

def isLeapYear (year : Nat) : Bool :=
  year % 4 = 0 && (year % 100 ≠ 0 || year % 400 = 0)

def daysIn (year month : Nat) : Nat :=
  if month = 2 then (if isLeapYear year then 29 else 28)
  else if [4, 6, 9, 11].contains month then 30
  else 31

def date? : Scan Date := fun text => do
  let (year, '-' :: rest) ← number? 4 0 9999 text | none
  let (month, '-' :: rest) ← number? 2 1 12 rest | none
  let (day, rest) ← number? 2 1 (daysIn year month) rest
  return ({ year, month, day }, rest)

/-- Billionths of a second behind a point; digits that are left over do not count. -/
def places : List Char → List Char × List Char
  | '.' :: rest =>
      match rest.takeWhile Char.isDigit with
      | [] => (List.replicate 9 '0', '.' :: rest)
      | digits => ((digits ++ List.replicate 9 '0').take 9, rest.dropWhile Char.isDigit)
  | rest => (List.replicate 9 '0', rest)

/-- A minute may have 61 seconds. -/
def clock? : Scan Clock := fun text => do
  let (hour, ':' :: rest) ← number? 2 0 23 text | none
  let (minute, ':' :: rest) ← number? 2 0 59 rest | none
  let (second, rest) ← number? 2 0 60 rest
  let (places, rest) := places rest
  return ({ hour, minute, second, places }, rest)

def offset? : Scan Offset
  | 'Z' :: rest | 'z' :: rest => some (.none, rest)
  | sign :: rest => do
      if sign ≠ '+' ∧ sign ≠ '-' then none
      else
        let (hours, ':' :: rest) ← number? 2 0 23 rest | none
        let (minutes, rest) ← number? 2 0 59 rest
        return (.by (sign = '-') hours minutes, rest)
  | [] => none

/-- A time behind a date and what divides them. -/
def clockBehind? : Scan Clock
  | mark :: rest => if ['T', 't', ' '].contains mark then clock? rest else none
  | [] => none

def parse? : Scan Moment := fun text =>
  match date? text with
  | none => (clock? text).map fun (hands, rest) => (.clock hands, rest)
  | some (day, rest) =>
      match clockBehind? rest with
      | none => some (.date day, rest)
      | some (hands, rest) =>
          match offset? rest with
          | none => some (.both day hands none, rest)
          | some (offset, rest) => some (.both day hands (some offset), rest)

/-! ### Text -/

/-- A number with zeros in front up to a width. -/
def padded (width number : Nat) : List Char :=
  let digits := Nat.toDigits 10 number
  List.replicate (width - digits.length) '0' ++ digits

def dateText (date : Date) : List Char :=
  padded 4 date.year ++ '-' :: padded 2 date.month ++ '-' :: padded 2 date.day

def clockText (clock : Clock) : List Char :=
  let places :=
    match Blank.trimEnd (· == '0') clock.places with
    | [] => []
    | digits => '.' :: digits
  padded 2 clock.hour ++ ':' :: padded 2 clock.minute ++ ':' :: padded 2 clock.second ++ places

/-- A clock that is not off is never behind. -/
def offsetText : Offset → List Char
  | .none => ['Z']
  | .by negative hours minutes =>
      let behind := negative && (hours ≠ 0 || minutes ≠ 0)
      (if behind then '-' else '+') :: padded 2 hours ++ ':' :: padded 2 minutes

def text (moment : Moment) : String :=
  String.ofList <|
    match moment with
    | .date day => dateText day
    | .clock hands => clockText hands
    | .both day hands offset =>
        dateText day ++ 'T' :: clockText hands ++ ((offset.map offsetText).getD [])

end Moment

end DirectoryInterchange.Settings
