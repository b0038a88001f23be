import DirectoryInterchange.Program.Report

/-!
The program as it is run: it looks up the files that are asked for, works out
the report, writes what there is to write and tells the outcome.
-/

namespace DirectoryInterchange.Main

/-- What an error says about a path.  Error numbers may come with a minus sign. -/
def problem (error : IO.Error) : PathProblem :=
  match error with
  | .noFileOrDirectory .. => .notFound
  | .inappropriateType _ code _ =>
      if code = 21 ∨ code = -21 then .isAFolder
      else if code = 20 ∨ code = -20 then .notAFolder
      else .other (toString error)
  | .invalidArgument _ code _ =>
      if code = 36 ∨ code = -36 then .nameTooLong else .other (toString error)
  | error => .other (toString error)

/-- Looks up what a path leads to. -/
def look (path : String) : IO Place := do
  try
    return .file (← IO.FS.readBinFile path).toList
  catch error =>
    match problem error with
    | .isAFolder => return .folder
    | problem => return .nothing problem

abbrev Table := List (String × Place)

def lookAll (paths : List String) : IO Table :=
  paths.mapM fun path => do return (path, ← look path)

/-- Works with what was looked up, and looks further where that was not enough. -/
partial def report (words : List String) (environment : Environment) (table : Table)
    (obstacle : Option PathProblem) : IO Report := do
  let place (path : String) : Place := (table.lookup path).getD (.nothing .notFound)
  let report := Report.ofWords words { place, obstacle? := fun _ => obstacle } environment
  match report.missing.filter fun path => (table.lookup path).isNone with
  | [] => return report
  | paths => Main.report words environment (table ++ (← lookAll paths.eraseDups)) obstacle

/-- The variables that the program was started with.  Where the system does not
show their block, each setting is asked for by its name. -/
def environment : IO Environment := do
  try
    return .ofBlock (← IO.FS.readBinFile "/proc/self/environ").toList
  catch _ =>
    Settings.names.filterMapM fun name => do
      let full := Settings.variableStart ++ name.map Char.toUpper
      return (← IO.getEnv full).map (full, ·)

/-- The paths that the settings may come from. -/
def settingsPaths (overrides : Overrides) : List String :=
  match overrides.settingsFile with
  | some path => path :: (Settings.alternatives path).map (·.1)
  | none => []

/-- Why a file cannot be written, if it cannot. -/
def write (path : String) (bytes : Bytes) : IO (Option PathProblem) := do
  try
    IO.FS.writeBinFile path ⟨bytes.toArray⟩
    return none
  catch error => return some (problem error)

end DirectoryInterchange.Main

open DirectoryInterchange in
def main (words : List String) : IO UInt32 := do
  let environment ← Main.environment
  let paths := match CommandLine.parse words with
    | .ok arguments => arguments.command.file :: Main.settingsPaths arguments.overrides
    | .error _ => []
  let table ← Main.lookAll paths
  let mut report ← Main.report words environment table none
  if let some (path, bytes) := report.written then
    if let some problem ← Main.write path bytes then
      report ← Main.report words environment table problem
  (← IO.getStdout).write ⟨report.printed.toArray⟩
  if let some note := report.note then IO.eprintln note
  return report.exitCode.toUInt32
