import DirectoryInterchange.Program.CommandLine
import DirectoryInterchange.Program.Run

/-!
The program from its command line to its exit code.
-/

namespace DirectoryInterchange

/-- What the program leaves behind. -/
structure Report where
  exitCode : Nat
  /-- What went to the standard output. -/
  printed : Bytes := []
  /-- The last word to the user. -/
  note : Option String := none
  /-- The file that was written, and its content. -/
  written : Option (String × Bytes) := none
  /-- Paths that values were wanted from and that led nowhere. -/
  missing : List String := []
  deriving DecidableEq, Repr

namespace CommandLine

def usage : String :=
  "Usage: ldifber [OPTIONS] validate <FILE>\n" ++
  "       ldifber [OPTIONS] reformat <FILE> [-o <OUT>]\n" ++
  "       ldifber [OPTIONS] to-ber <FILE> [-o <OUT>]\n" ++
  "       ldifber [OPTIONS] dump-ber <FILE>\n"

def help : String :=
  "Validate, reformat and convert LDIF files and inspect BER-encoded LDAP data\n\n" ++ usage ++
  "\nCommands:\n" ++
  "  validate  Parse every record and report errors\n" ++
  "  reformat  Parse and reformat an LDIF file\n" ++
  "  to-ber    Write each record as a BER-encoded LDAP message\n" ++
  "  dump-ber  Print the element tree of a BER file\n" ++
  "  help      Print this message\n" ++
  "\nOptions:\n" ++
  "      --config <FILE>                Settings file (TOML, YAML or JSON)\n" ++
  "  -v, --verbose                      Enable verbose logging\n" ++
  "      --log-level <LEVEL>            Set log level: debug, info, warn, error\n" ++
  "      --duplicate-values <POLICY>    How to treat duplicate attribute values: strip, retain, reject\n" ++
  "      --trailing-spaces <POLICY>     How to treat lines ending in a space: strip, retain, reject\n" ++
  "      --threads <THREADS>            Number of parser threads (0 uses all available cores)\n" ++
  "      --wrap-column <COLUMN>         Fold output lines longer than this (0 disables folding)\n" ++
  "  -o, --output <OUT>                 Output file (defaults to stdout)\n" ++
  "  -h, --help                         Print help\n" ++
  "  -V, --version                      Print version\n"

def version : String := "ldifber 0.1.0\n"

end CommandLine

namespace Report

def ofHalt : CommandLine.Halt → Report
  | .help => { exitCode := 0, printed := Utf8.encode CommandLine.help }
  | .version => { exitCode := 0, printed := Utf8.encode CommandLine.version }
  | .misuse => { exitCode := 2, note := some CommandLine.usage }

def ofFault (fault : Fault) : Report :=
  { exitCode := 1, note := some s!"Error: {fault.message}" }

/-- The end of a command.  Records that could not be read make it a failure. -/
def ofRun (verb : Verb) (run : Run) : Report :=
  let report := match run.outcome with
    | .error fault => ofFault fault
    | .ok summary =>
        if summary.errors ≠ 0 then
          let total := summary.records + summary.errors
          { exitCode := 1
            note := some s!"Error: {summary.errors} of {total} records failed to parse" }
        else
          { exitCode := 0
            note := if verb = Verb.validate then some s!"{summary.records} records OK" else none }
  { report with printed := run.printed, written := run.written, missing := run.missing }

/-- The program: its words, the files it finds and its environment. -/
def ofWords (words : List String) (fileSystem : FileSystem)
    (environment : Environment) : Report :=
  match CommandLine.parse words with
  | .error halt => ofHalt halt
  | .ok arguments =>
      match Configuration.load arguments fileSystem environment with
      | .error problem => ofFault (.configuration problem)
      | .ok configuration =>
          ofRun configuration.command.verb (configuration.run fileSystem)

end Report

end DirectoryInterchange
