import Vigil.Config.Validation
import Vigil.Fault

/-!
# Problems with Configurations

Why there is nothing to run: the file cannot be found or read, its text is no configuration, what it
says is not valid, or the probes asked for are not there.
-/

namespace Vigil

/-- Why a file cannot be read. -/
inductive ReadFailure
  | absent
  | directory
  | notText
  deriving DecidableEq, Repr

/-- The wording of a failure to read. -/
def ReadFailure.message : ReadFailure → String
  | absent => "No such file or directory (os error 2)"
  | directory => "Is a directory (os error 21)"
  | notText => "stream did not contain valid UTF-8"

/-- Why there is nothing to run. -/
inductive ConfigProblem
  /-- None of the places searched has a file. -/
  | notFound
  | unreadable (reason : ReadFailure)
  /-- The text is no configuration. -/
  | malformed
  | invalid (violations : List Violation)
  | invalidCheck (probe : String) (source : Fault)
  | unknownProbe (name : String)
  | noProbes
  deriving DecidableEq, Repr

/-- The wording of a problem, but for what is added to it by the libraries that read and validate a
text. -/
def ConfigProblem.message : ConfigProblem → String
  | notFound => "Configuration file not found in search paths"
  | unreadable reason => "Failed to read configuration file: " ++ reason.message
  | malformed => "Failed to parse YAML"
  | invalid _ => "Invalid configuration"
  | invalidCheck probe source => "Invalid check in probe " ++ Text.quoted probe ++ ": " ++ source.message
  | unknownProbe name => "Unknown probe " ++ Text.quoted name
  | noProbes => "No probes configured"

end Vigil
