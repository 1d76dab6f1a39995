import Vigil.Guard
import Vigil.Duration.Basic

/-!
# Faults and Outcomes

Everything that can go wrong on the way from settings to a report, with its wording, and what one
execution of a check concludes. A fault that wraps others keeps their messages, outermost first.
Ordinary failure of a check is an unhealthy outcome; a fault means that the check itself could not be
carried out.
-/

namespace Vigil

/-- Messages of an error and its causes, outermost first. -/
abbrev Chain := List String

/-- The messages of a chain on one line. -/
def Chain.text (chain : Chain) : String := ": ".intercalate chain

/-- Why an operation failed. -/
inductive Fault
  | invalidInput (message : String)
  | refused (reason : Refusal)
  /-- The probe did not settle within its budget, so its health is unknown. -/
  | timeout (probe : String) (budget : Duration)
  /-- A hook failed while a probe was running. -/
  | hook (chain : Chain)
  | config (message : String)
  | io (message : String)
  | serialization (message : String)
  deriving DecidableEq, Repr

namespace Fault

/-- The wording of a fault. -/
def message : Fault → String
  | invalidInput m => "Invalid input: " ++ m
  | refused reason => "SSRF validation failed: " ++ reason.message
  | timeout probe budget => "Probe " ++ Text.quoted probe ++ " timed out after " ++ budget.debugText
  | hook chain => "Probe hook failed: " ++ chain.text
  | config m => "Configuration error: " ++ m
  | io m => "IO error: " ++ m
  | serialization m => "Serialization error: " ++ m

/-- Whether the input was at fault, refused targets included. -/
def isInvalidInput : Fault → Bool
  | invalidInput _ => true
  | refused _ => true
  | _ => false

/-- Whether a run ended without a report for lack of time. -/
def isTimeout : Fault → Bool
  | timeout _ _ => true
  | _ => false

end Fault

/-- What a check found. -/
structure Outcome where
  healthy : Bool
  detail : Option String
  deriving DecidableEq, Repr

namespace Outcome

/-- All is well. -/
def ok : Outcome := ⟨true, none⟩

/-- Not well, for a reason. -/
def unhealthy (detail : String) : Outcome := ⟨false, some detail⟩

/-- A bare verdict. -/
def ofBool (healthy : Bool) : Outcome := ⟨healthy, none⟩

end Outcome

/-- What a check came to: an outcome or a fault with its causes. -/
abbrev Conclusion := Except Chain Outcome

end Vigil
