import DirectoryInterchange.Element.Error
import DirectoryInterchange.Message.Basic
import DirectoryInterchange.Record.Error

/-!
Everything that can stop an operation, with its wording.
-/

namespace DirectoryInterchange

/-- Why a configuration is refused. -/
inductive ConfigurationProblem
  | settingsNotFound (path : String)
  | invalidSettings
  | zeroQueueCapacity
  | wrapColumnOfOne
  deriving DecidableEq, Repr

def ConfigurationProblem.message : ConfigurationProblem → String
  | settingsNotFound path => s!"Settings file not found: {path}"
  | invalidSettings => "Invalid settings"
  | zeroQueueCapacity => "queue_capacity must be at least 1"
  | wrapColumnOfOne => "wrap_column must be 0 (no folding) or at least 2"

inductive Fault
  | element (error : Element.Error)
  | record (error : Record.Error)
  | file (reason : String)
  | configuration (problem : ConfigurationProblem)
  | protocol (problem : Message.Problem)
  deriving DecidableEq, Repr

namespace Fault

def message : Fault → String
  | element error => s!"BER error: {error.message}"
  | record error => s!"LDIF error: {error.message}"
  | file reason => s!"IO error: {reason}"
  | configuration problem => s!"Configuration error: {problem.message}"
  | protocol problem => s!"LDAP protocol error: {problem.message}"

/-- Whether a reader that met the fault can go on to the next record. -/
def mayContinue : Fault → Bool
  | record error => error.mayContinue
  | _ => false

end Fault

end DirectoryInterchange
