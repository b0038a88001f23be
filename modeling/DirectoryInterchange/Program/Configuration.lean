import DirectoryInterchange.Program.Command
import DirectoryInterchange.Settings.Basic

/-!
What the program goes by, from the command line and the settings.
-/

namespace DirectoryInterchange

/-- How much the program tells about its work. -/
inductive LogLevel
  | debug
  | info
  | warn
  | error
  deriving DecidableEq, Repr

namespace LogLevel

def name : LogLevel → String
  | debug => "DEBUG"
  | info => "INFO"
  | warn => "WARN"
  | error => "ERROR"

/-- A level by its name, the case of letters aside; any other name means `info`. -/
def ofName (name : String) : LogLevel :=
  ([debug, info, warn, error].find? fun level => Ascii.sameLetters level.name name).getD info

end LogLevel

structure Configuration where
  command : Command
  logLevel : LogLevel
  reading : ReadOptions
  /-- How many workers decode records; none for as many as there are processors. -/
  workers : Option Nat
  queueCapacity : Nat
  wrapColumn : Nat
  queueCapacity_pos : 0 < queueCapacity
  wrapColumn_ne_one : wrapColumn ≠ 1

namespace Configuration

def ofParts (arguments : Arguments) (settings : Settings) :
    Except ConfigurationProblem Configuration :=
  let overrides := arguments.overrides
  let logLevel :=
    if overrides.verbose then .debug
    else LogLevel.ofName (overrides.logLevel.getD settings.logLevel)
  let wrapColumn := overrides.wrapColumn.getD settings.wrapColumn
  let threads := overrides.threads.getD settings.threads
  if empty : settings.queueCapacity = 0 then .error .zeroQueueCapacity
  else if narrow : wrapColumn = 1 then .error .wrapColumnOfOne
  else
    .ok
      { command := arguments.command
        logLevel
        reading :=
          { duplicates := overrides.duplicates.getD settings.duplicates
            trailingSpaces := overrides.trailingSpaces.getD settings.trailingSpaces
            maximumFileSize := settings.maximumFileSize }
        workers := if threads = 0 then none else some threads
        queueCapacity := settings.queueCapacity
        wrapColumn
        queueCapacity_pos := Nat.pos_of_ne_zero empty
        wrapColumn_ne_one := narrow }

/-- Loads the settings that the arguments ask for. -/
def load (arguments : Arguments) (fileSystem : FileSystem) (environment : Environment) :
    Except ConfigurationProblem Configuration := do
  let settings ← Settings.load fileSystem arguments.overrides.settingsFile environment
  ofParts arguments settings

end Configuration

end DirectoryInterchange
