import DirectoryInterchange.Environment
import DirectoryInterchange.Fault
import DirectoryInterchange.FileSystem.Basic
import DirectoryInterchange.Settings.Ini
import DirectoryInterchange.Settings.Json
import DirectoryInterchange.Settings.Json5
import DirectoryInterchange.Settings.Key
import DirectoryInterchange.Settings.Ron
import DirectoryInterchange.Settings.Toml
import DirectoryInterchange.Settings.Yaml

/-!
The settings, and where they come from: a file, whose format its name tells,
and the variables of the environment, which override the file.  Where the path of
the file leads to a folder, a file beside it is taken that has the same name and an
extension.  A setting that is given nowhere has its default, and names that mean
nothing are ignored.
-/

namespace DirectoryInterchange

structure Settings where
  logLevel : String := "info"
  duplicates : Policy := .strip
  trailingSpaces : Policy := .reject
  /-- Zero for as many as there are processors. -/
  threads : Nat := 0
  queueCapacity : Nat := 500
  wrapColumn : Nat := 76
  maximumFileSize : Nat := 10485760
  deriving DecidableEq, Repr

namespace Settings

def names : List String :=
  ["log_level", "duplicate_values", "trailing_spaces", "threads", "queue_capacity", "wrap_column",
    "max_url_file_size"]

/-- A setting as given, or its default; none when it makes no sense. -/
def read? {Setting : Type} (entries : Entries) (name : String)
    (meaning : Value → Option Setting) (default : Setting) : Option Setting :=
  match entries.find? name with
  | some value => meaning value
  | none => some default

def ofEntries? (entries : Entries) : Option Settings := do
  let defaults : Settings := {}
  return {
    logLevel := ← read? entries "log_level" Value.text? defaults.logLevel
    duplicates := ← read? entries "duplicate_values" Value.policy? defaults.duplicates
    trailingSpaces := ← read? entries "trailing_spaces" Value.policy? defaults.trailingSpaces
    threads := ← read? entries "threads" Value.count? defaults.threads
    queueCapacity := ← read? entries "queue_capacity" Value.count? defaults.queueCapacity
    wrapColumn := ← read? entries "wrap_column" Value.count? defaults.wrapColumn
    maximumFileSize := ← read? entries "max_url_file_size" Value.count? defaults.maximumFileSize
  }

/-! ### Files -/

inductive Format
  | ini
  | json
  | json5
  | ron
  | toml
  | yaml
  deriving DecidableEq, Repr

/-- The names on a path, without what leads nowhere at its end. -/
def pathNames (path : String) : List String :=
  ((path.splitOn "/").reverse.dropWhile fun name => name = "" || name = ".").reverse

/-- What stands behind the last point of a file's name; a point in front of
the whole name does not count. -/
def extension? (path : String) : Option String :=
  match (pathNames path).getLast? with
  | none | some ".." => none
  | some name =>
      match name.splitOn "." with
      | [] | [_] | ["", _] => none
      | parts => parts.getLast?

/-- A path to a file beside a folder, with an extension behind the folder's name.
A path that goes up at its end names no folder. -/
def besides? (path extension : String) : Option String :=
  let names := pathNames path
  match names.getLast? with
  | none | some ".." => none
  | some _ => some ("/".intercalate names ++ "." ++ extension)

namespace Format

def extensions : List (String × Format) :=
  [("toml", toml), ("json", json), ("yaml", yaml), ("yml", yaml), ("ini", ini), ("ron", ron),
    ("json5", json5)]

def ofExtension? (extension : String) : Option Format :=
  extensions.lookup extension

def parse? : Format → String → Option Entries
  | ini => Ini.parse?
  | json => Json.parse?
  | json5 => Json5.parse?
  | ron => Ron.parse?
  | toml => Toml.parse?
  | yaml => Yaml.parse?

end Format

def ofFile? (path : String) (bytes : Bytes) : Option Entries := do
  let format ← Format.ofExtension? (← extension? path)
  format.parse? (← Utf8.decode? bytes)

/-- The paths that stand for a folder, by the formats of their files. -/
def alternatives (path : String) : List (String × Format) :=
  Format.extensions.filterMap fun (extension, format) =>
    (besides? path extension).map (·, format)

/-- The settings in a file beside a folder. -/
def ofFolder? (fileSystem : FileSystem) (path : String) : Option Entries := do
  let (format, bytes) ← (alternatives path).findSome? fun (path, format) =>
    match fileSystem.place path with
    | .file bytes => some (format, bytes)
    | .folder | .nothing _ => none
  format.parse? (← Utf8.decode? bytes)

/-! ### The environment -/

/-- How the names of variables for the program begin. -/
def variableStart : String := "LDIFBER_"

def ofEnvironment (environment : Environment) : Entries :=
  environment.filterMap fun (name, word) =>
    (Ascii.dropStart? variableStart name).map fun name => (Ascii.lower name, Value.ofWord word)

/-- The settings from a file, when there is to be one, and the environment. -/
def load (fileSystem : FileSystem) (path : Option String) (environment : Environment) :
    Except ConfigurationProblem Settings := do
  let fromFile ←
    match path with
    | none => pure (some [])
    | some path =>
        match fileSystem.place path with
        | .nothing _ => throw (.settingsNotFound path)
        | .folder => pure (ofFolder? fileSystem path)
        | .file bytes => pure (ofFile? path bytes)
  let some entries := fromFile | throw .invalidSettings
  match ofEntries? (.gather [entries, ofEnvironment environment]) with
  | some settings => return settings
  | none => throw .invalidSettings

end Settings

end DirectoryInterchange
