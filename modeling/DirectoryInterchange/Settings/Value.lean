import DirectoryInterchange.Block.Options
import DirectoryInterchange.Settings.Binary64.Shortest
import DirectoryInterchange.Settings.Decimal

/-!
What a setting may be given as, and what each kind of setting makes of it.

Of lists and tables only what can matter is kept: a table with one key may
stand for that key.
-/

namespace DirectoryInterchange.Settings

inductive Value
  | null
  | flag (value : Bool)
  | integer (number : Int)
  | real (number : Binary64)
  | text (spelled : String)
  | list
  | table (keys : List String)
  deriving DecidableEq, Repr

/-- Settings by name; of several with one name the last counts. -/
abbrev Entries := List (String × Value)

namespace Entries

def find? (entries : Entries) (name : String) : Option Value :=
  entries.reverse.lookup name

/-- Gives a name a value, in the place of the one it had. -/
def put (entries : Entries) (name : String) (value : Value) : Entries :=
  if entries.any (·.1 = name) then
    entries.map fun entry => if entry.1 = name then (name, value) else entry
  else entries ++ [(name, value)]

/-- The last entry of each name. -/
def latest (entries : Entries) : Entries :=
  entries.foldl (fun entries entry => entries.put entry.1 entry.2) []

end Entries

/-- A table with these keys, each named once. -/
def Value.ofKeys (keys : List String) : Value :=
  .table keys.eraseDups

namespace Value

/-- The value of a bare word: a flag, a number, or else the word itself. -/
def ofWord (word : String) : Value :=
  if Ascii.sameLetters word "true" then .flag true
  else if Ascii.sameLetters word "false" then .flag false
  else match Numeral.integer? word.toList with
    | some number => .integer number
    | none =>
        match Decimal.parse? word.toList with
        | some number => .real number
        | none => .text word

/-- A whole number without a sign; what is too large for 64 bits with a sign is
rounded. -/
def ofNat (number : Nat) : Value :=
  if number < Numeral.signedLimit then .integer number else .real (.ofNat number)

/-- A value as a number of things.  Words for yes and no count as one and zero. -/
def count? : Value → Option Nat
  | flag value => some value.toNat
  | integer number => if 0 ≤ number then some number.toNat else none
  | real number => some number.toCount
  | text spelled =>
      if ["true", "on", "yes"].any (Ascii.sameLetters spelled) then some 1
      else if ["false", "off", "no"].any (Ascii.sameLetters spelled) then some 0
      else Numeral.natural? spelled.toList
  | null | list | table _ => none

def text? : Value → Option String
  | flag value => some (if value then "true" else "false")
  | integer number => some (toString number)
  | real number => some number.text
  | text spelled => some spelled
  | null | list | table _ => none

/-- A policy by its name, the case of letters aside. -/
def policy? : Value → Option Policy
  | text name | table [name] => Policy.ofName? (Ascii.lower name)
  | _ => none

/-- The keys of a table; nothing else has keys. -/
def keys : Value → List String
  | table keys => keys
  | _ => []

end Value

/-- How the text of a settings file spells values. -/
abbrev Scan (Result : Type) := List Char → Option (Result × List Char)

/-- The character with a code point, unless there is none. -/
def character? (code : Nat) : Option Char :=
  if code.isValidChar then some (Char.ofNat code) else none

/-- The character that two surrogates stand for. -/
def joined? (high low : Nat) : Option Char :=
  if 0xD800 ≤ high ∧ high < 0xDC00 ∧ 0xDC00 ≤ low ∧ low < 0xE000 then
    character? (0x10000 + (high - 0xD800) * 0x400 + (low - 0xDC00))
  else none

end DirectoryInterchange.Settings
