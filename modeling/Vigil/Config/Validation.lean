import Vigil.Config.Basic
import Vigil.Text.Blank

/-!
# Validation

What a configuration has to satisfy beyond its form: a run takes between a millisecond and ten
minutes, counted in whole milliseconds, and probes have a name that is not blank and no other probe
has, and at least one check. The first place at fault is reported, the run before the probes, and a
probe's own violations before the repetition of a name.

## Main definitions

* `Config.Valid`: what is demanded;
* `Config.violations`: what is reported, nothing if the configuration is valid.
-/

namespace Vigil

/-- The longest time that a run may take, in milliseconds. -/
def longestRun : Nat := 600000

/-- One thing that is wrong with a configuration. -/
inductive Violation
  | runTimeout (timeout : Duration)
  | blankName (name : String)
  | noChecks
  | repeatedName (name : String)
  deriving DecidableEq, Repr

namespace Violation

/-- The setting that is at fault. -/
def field : Violation → String
  | runTimeout _ => "timeout"
  | blankName _ => "name"
  | noChecks => "checks"
  | repeatedName _ => "probes"

/-- The word for a violation. -/
def code : Violation → String
  | runTimeout _ => "run_timeout_out_of_range"
  | blankName _ => "probe_name_empty"
  | noChecks => "length"
  | repeatedName _ => "duplicate_probe_name"

/-- What a violation says of the setting and its bounds. -/
def params : Violation → Json.Fields
  | runTimeout t =>
    [("value", .obj [("nanos", Json.nat t.subsecNanos), ("secs", Json.nat t.secs)])]
  | blankName name => [("value", .str name)]
  | noChecks => [("min", Json.nat 1), ("value", .arr [])]
  | repeatedName name => [("name", .str name)]

end Violation

/-- Whether a run may take that long. -/
def RunSettings.inRange (s : RunSettings) : Bool :=
  1 ≤ s.timeout.millis && s.timeout.millis ≤ longestRun

/-- What is wrong with settings of runs. -/
def RunSettings.violations (s : RunSettings) : List Violation :=
  if s.inRange then [] else [.runTimeout s.timeout]

/-- Whether a probe's name is blank. -/
def ProbeSettings.isBlank (p : ProbeSettings) : Bool := (Text.trim p.name).isEmpty

/-- What is wrong with a probe by itself. -/
def ProbeSettings.violations (p : ProbeSettings) : List Violation :=
  (if p.isBlank then [.blankName p.name] else []) ++ if p.checks.isEmpty then [.noChecks] else []

/-- What is wrong with the first faulty one of probes that come after probes of the names `seen`. -/
def probeViolations (seen : List String) : List ProbeSettings → List Violation
  | [] => []
  | p :: rest =>
    match p.violations with
    | [] => if seen.contains p.name then [.repeatedName p.name] else probeViolations (p.name :: seen) rest
    | faults => faults

/-- What is reported of a configuration. -/
def Config.violations (c : Config) : List Violation :=
  match c.run.violations with
  | [] => probeViolations [] c.probes
  | faults => faults

/-- A configuration that can be run. -/
structure Config.Valid (c : Config) : Prop where
  timeout : 1 ≤ c.run.timeout.millis ∧ c.run.timeout.millis ≤ longestRun
  named : ∀ p ∈ c.probes, ∃ ch ∈ p.name.toList, Text.isBlank ch = false
  checked : ∀ p ∈ c.probes, p.checks ≠ []
  distinct : (c.probes.map (·.name)).Nodup

end Vigil
