import Vigil.Probe
import Vigil.Redaction
import Vigil.Report

/-!
# Events

What a run tells an observer: a level, a name and fields, which are ordered by key. Fields are redacted
when an event is made ready for a sink, so no sink sees a credential. A run has five kinds of events.
-/

namespace Vigil

/-- How important an event is. -/
inductive Level
  | error | warn | info | debug | trace
  deriving DecidableEq, Repr

/-- The name of a level. -/
def Level.text : Level → String
  | error => "ERROR"
  | warn => "WARN"
  | info => "INFO"
  | debug => "DEBUG"
  | trace => "TRACE"

/-- One event as a sink receives it. -/
structure Event where
  level : Level
  name : String
  fields : Json.Fields
  deriving Repr

/-- The event that a sink receives for the given fields. -/
def Event.emit (level : Level) (name : String) (fields : Json.Fields) : Event :=
  ⟨level, name, Redaction.redactFields fields⟩

/-! ### The events of a run -/

namespace Run

/-- A count of milliseconds in an event, which is a word of 64 bits. -/
def millis (d : Duration) : Json := Json.nat (d.millis % wordSize)

/-- A run begins. -/
def probeStart (probe : Probe) (timeout : Option Duration) : Event :=
  .emit .info "probe_start"
    [("checks", Json.nat probe.checks.length), ("probe", .str probe.name),
      ("timeout_ms", (timeout.map millis).getD .null)]

/-- A check is dispatched. -/
def checkStart (probe : String) (check : Check) (index : Nat) : Event :=
  .emit .debug "check_start"
    [("check", .str check.name), ("config", .obj check.describe), ("index", Json.nat index),
      ("probe", .str probe)]

/-- A check has settled or was given up. -/
def checkEnd (probe : String) (index : Nat) (result : CheckResult) : Event :=
  .emit .debug "check_end"
    [("check", .str result.name), ("detail", Json.optional result.detail),
      ("duration_ms", millis result.duration), ("healthy", .bool result.healthy),
      ("index", Json.nat index), ("probe", .str probe)]

/-- The budget of a run was used up with checks still pending. -/
def probeTimeout (probe : String) (budget : Duration) (pending : List String) : Event :=
  .emit .warn "probe_timeout"
    [("pending", .arr (pending.map .str)), ("probe", .str probe), ("timeout_ms", millis budget)]

/-- A run has a report. -/
def probeEnd (report : Report) (elapsed : Duration) : Event :=
  .emit .info "probe_end"
    [("duration_ms", millis elapsed), ("healthy", .bool report.healthy), ("probe", .str report.probe)]

end Run

end Vigil
