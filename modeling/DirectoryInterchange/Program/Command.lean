import DirectoryInterchange.Block.Options

/-!
What the program can be told to do.
-/

namespace DirectoryInterchange

/-- What is to be done with a file. -/
inductive Verb
  | validate
  | reformat
  /-- Records become messages. -/
  | convert
  /-- The elements of a file are printed. -/
  | outline
  deriving DecidableEq, Repr

namespace Verb

def name : Verb → String
  | validate => "validate"
  | reformat => "reformat"
  | convert => "to-ber"
  | outline => "dump-ber"

def ofName? (name : String) : Option Verb :=
  [validate, reformat, convert, outline].find? (·.name == name)

/-- Whether the output may go to a file. -/
def takesOutput : Verb → Bool
  | reformat | convert => true
  | validate | outline => false

end Verb

structure Command where
  verb : Verb
  file : String
  /-- Where the output goes, when not to the standard output. -/
  output : Option String := none
  deriving DecidableEq, Repr

/-- Choices on the command line that come before the settings. -/
structure Overrides where
  settingsFile : Option String := none
  verbose : Bool := false
  logLevel : Option String := none
  duplicates : Option Policy := none
  trailingSpaces : Option Policy := none
  threads : Option Nat := none
  wrapColumn : Option Nat := none
  deriving DecidableEq, Repr

/-- The choices of both, the first before the second. -/
def Overrides.orElse (first second : Overrides) : Overrides where
  settingsFile := first.settingsFile <|> second.settingsFile
  verbose := first.verbose || second.verbose
  logLevel := first.logLevel <|> second.logLevel
  duplicates := first.duplicates <|> second.duplicates
  trailingSpaces := first.trailingSpaces <|> second.trailingSpaces
  threads := first.threads <|> second.threads
  wrapColumn := first.wrapColumn <|> second.wrapColumn

structure Arguments where
  command : Command
  overrides : Overrides := {}
  deriving DecidableEq, Repr

end DirectoryInterchange
