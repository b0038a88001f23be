import DirectoryInterchange.Program.Command
import DirectoryInterchange.Text.Numeral

/-!
Reading the command line.

Options stand in front of the verb or behind it; an option on either side may
be given once there, and the one behind the verb counts.  A value follows its
option as the next word or behind `=`, and a value in the next word does not
look like an option.  Behind `--` there are no options.

A value in the next word is looked at only when the next option or file has
been recognised, so a request for help can come before its refusal.
-/

namespace DirectoryInterchange.CommandLine

/-- Why no arguments come of a command line. -/
inductive Halt
  | help
  | version
  | misuse
  deriving DecidableEq, Repr

inductive Flag
  | config
  | verbose
  | logLevel
  | duplicates
  | trailingSpaces
  | threads
  | wrapColumn
  | output
  | help
  | version
  /-- The word that stands for itself, without an option in front. -/
  | file
  deriving DecidableEq, Repr

namespace Flag

def takesValue : Flag → Bool
  | verbose | help | version => false
  | _ => true

/-- Options by their long names; `verb` is the verb that stands in front. -/
def ofLong? (verb : Option Verb) : String → Option Flag
  | "config" => some config
  | "verbose" => some verbose
  | "log-level" => some logLevel
  | "duplicate-values" => some duplicates
  | "trailing-spaces" => some trailingSpaces
  | "threads" => some threads
  | "wrap-column" => some wrapColumn
  | "help" => some help
  | "version" => if verb.isNone then some version else none
  | "output" => if verb.any (·.takesOutput) then some output else none
  | _ => none

/-- Options by their letters. -/
def ofLetter? (verb : Option Verb) : Char → Option Flag
  | 'v' => some verbose
  | 'h' => some help
  | 'V' => if verb.isNone then some version else none
  | 'o' => if verb.any (·.takesOutput) then some output else none
  | _ => none

end Flag

/-- What was given on one side of the verb. -/
structure Given where
  overrides : Overrides := {}
  file : Option String := none
  output : Option String := none
  deriving DecidableEq, Repr

namespace Given

/-- Fills what is still empty. -/
def once {Item : Type} (present new : Option Item) : Option (Option Item) :=
  if present.isSome then none else new.map some

def path? (word : String) : Option String :=
  if word = "" then none else some word

def count? (word : String) : Option Nat :=
  Numeral.natural? word.toList

/-- Takes note of an option and its value.  None when it was given before or
when the value makes no sense. -/
def set? (given : Given) (flag : Flag) (word : String) : Option Given :=
  let overrides := given.overrides
  match flag with
  | .config => (once overrides.settingsFile (path? word)).map fun settingsFile =>
      { given with overrides := { overrides with settingsFile } }
  | .verbose =>
      if overrides.verbose then none
      else some { given with overrides := { overrides with verbose := true } }
  | .logLevel => (once overrides.logLevel (some word)).map fun logLevel =>
      { given with overrides := { overrides with logLevel } }
  | .duplicates => (once overrides.duplicates (Policy.ofName? word)).map fun duplicates =>
      { given with overrides := { overrides with duplicates } }
  | .trailingSpaces => (once overrides.trailingSpaces (Policy.ofName? word)).map
      fun trailingSpaces => { given with overrides := { overrides with trailingSpaces } }
  | .threads => (once overrides.threads (count? word)).map fun threads =>
      { given with overrides := { overrides with threads } }
  | .wrapColumn => (once overrides.wrapColumn (count? word)).map fun wrapColumn =>
      { given with overrides := { overrides with wrapColumn } }
  | .output => (once given.output (path? word)).map fun output => { given with output }
  | .file => (once given.file (path? word)).map fun file => { given with file }
  | .help | .version => none

end Given

/-- Where reading stands. -/
structure Scan where
  given : Given := {}
  /-- An option whose value is still to come. -/
  awaiting : Option Flag := none
  /-- An option and a value that was not yet looked at. -/
  pending : Option (Flag × String) := none
  deriving DecidableEq, Repr

namespace Scan

/-- Looks at what is pending. -/
def settled (scan : Scan) : Except Halt Given :=
  match scan.awaiting, scan.pending with
  | some _, _ => .error .misuse
  | none, none => .ok scan.given
  | none, some (flag, word) =>
      match scan.given.set? flag word with
      | some given => .ok given
      | none => .error .misuse

/-- Takes an option that needs no value or brings it along. -/
def take (scan : Scan) (flag : Flag) (word : String) : Except Halt Scan := do
  let given ← scan.settled
  match flag with
  | .help => throw .help
  | .version => throw .version
  | flag =>
      match given.set? flag word with
      | some given => return { given }
      | none => throw .misuse

/-- Takes an option whose value comes in the next word. -/
def await (scan : Scan) (flag : Flag) : Except Halt Scan := do
  return { given := ← scan.settled, awaiting := some flag }

/-- Takes a file. -/
def takeFile (scan : Scan) (word : String) : Except Halt Scan := do
  let given ← scan.settled
  if given.file.isSome then throw .misuse
  return { given, pending := some (.file, word) }

/-- An option by its long name, perhaps with a value. -/
def long (verb : Option Verb) (scan : Scan) (text : List Char) : Except Halt Scan :=
  let name := String.ofList (text.takeWhile (· != '='))
  match Flag.ofLong? verb name, text.dropWhile (· != '=') with
  | none, _ => .error .misuse
  | some flag, [] => if flag.takesValue then scan.await flag else scan.take flag ""
  | some flag, _ :: value =>
      if flag.takesValue then scan.take flag (String.ofList value) else .error .misuse

/-- Options by their letters, the last perhaps with a value. -/
def letters (verb : Option Verb) (scan : Scan) : List Char → Except Halt Scan
  | [] => .ok scan
  | letter :: rest =>
      match Flag.ofLetter? verb letter with
      | none => .error .misuse
      | some flag =>
          if flag.takesValue then
            match rest with
            | [] => scan.await flag
            | '=' :: value => scan.take flag (String.ofList value)
            | value => scan.take flag (String.ofList value)
          else do letters verb (← scan.take flag "") rest

/-- A word that may be an option, a value or a file. -/
def word (verb : Option Verb) (scan : Scan) (word : String) : Except Halt Scan :=
  match word.toList with
  | '-' :: '-' :: name => scan.long verb name
  | '-' :: first :: rest => scan.letters verb (first :: rest)
  | _ =>
      match scan.awaiting with
      | some flag => .ok { scan with awaiting := none, pending := some (flag, word) }
      | none => if verb.isSome then scan.takeFile word else .error .misuse

end Scan

/-- The part behind the verb. -/
def behind (verb : Verb) (scan : Scan) : List String → Except Halt Given
  | [] => scan.settled
  | "--" :: files => do (← files.foldlM Scan.takeFile scan).settled
  | word :: rest => do behind verb (← scan.word (some verb) word) rest

/-- What the request for help with some topics leads to. -/
def helpOn : List String → Halt
  | [] | ["help"] => .help
  | [topic] => if (Verb.ofName? topic).isSome then .help else .misuse
  | _ => .misuse

/-- The arguments of a verb from what was given on both sides of it. -/
def arguments (verb : Verb) (front back : Given) : Except Halt Arguments :=
  match back.file with
  | none => .error .misuse
  | some file =>
      .ok
        { command := { verb, file, output := back.output }
          overrides := back.overrides.orElse front.overrides }

/-- The part in front of the verb and all behind it. -/
def front (scan : Scan) : List String → Except Halt Arguments
  | [] => .error .misuse
  | word :: rest => do
      if scan.awaiting.isNone then
        if word = "help" then throw (helpOn rest)
        if let some verb := Verb.ofName? word then
          let back ← behind verb {} rest
          let front ← scan.settled
          return ← arguments verb front back
      if word = "--" then throw .misuse
      front (← scan.word none word) rest

def parse (words : List String) : Except Halt Arguments :=
  front {} words

end DirectoryInterchange.CommandLine
