import Vigil.Duration.Text
import Vigil.Json.Printer
import Vigil.Fault

/-!
# Reports

The results of one run of a probe, in the order of its checks, and the verdict they add up to. A
probe needs every check to pass, or at least one where partial failure is allowed; without any
checks the first holds and the second does not.
-/

namespace Vigil

/-- The detail of a check that was cut off by the deadline of its probe. -/
def probeTimeoutDetail : String := "Probe timed out"

/-- The result of one check in one run. -/
structure CheckResult where
  name : String
  healthy : Bool
  detail : Option String
  /-- The time from the beginning of the check until it settled or was given up. -/
  duration : Duration
  deriving DecidableEq, Repr

/-- The word for a verdict. -/
def healthWord (healthy : Bool) : String := if healthy then "healthy" else "unhealthy"

namespace CheckResult

/-- The result that an outcome makes. -/
def ofOutcome (name : String) (outcome : Outcome) (duration : Duration) : CheckResult :=
  ⟨name, outcome.healthy, outcome.detail, duration⟩

/-- The result of a check that faulted. -/
def failed (name detail : String) (duration : Duration) : CheckResult :=
  ⟨name, false, some detail, duration⟩

/-- The result of a check that was cut off by the deadline of its probe. -/
def timedOut (name : String) (duration : Duration) : CheckResult :=
  failed name probeTimeoutDetail duration

/-- A result on one line. -/
def display (r : CheckResult) : String := r.name ++ ": " ++ healthWord r.healthy

/-- The value of a result. -/
def toJson (r : CheckResult) : Json :=
  .obj ([("name", .str r.name), ("healthy", .bool r.healthy)] ++
    (r.detail.toList.map fun d => ("detail", Json.str d)) ++
    [("duration", .str r.duration.text)])

end CheckResult

/-- The outcome of one run of a probe. -/
structure Report where
  probe : String
  healthy : Bool
  allowPartialFailure : Bool
  results : List CheckResult
  deriving DecidableEq, Repr

namespace Report

/-- The verdict of results. -/
def verdict (results : List CheckResult) (allowPartialFailure : Bool) : Bool :=
  if allowPartialFailure then results.any (·.healthy) else results.all (·.healthy)

/-- The report of results. -/
def ofResults (probe : String) (results : List CheckResult) (allowPartialFailure : Bool) : Report :=
  ⟨probe, verdict results allowPartialFailure, allowPartialFailure, results⟩

/-- The result of the first check of that name. -/
def result? (r : Report) (name : String) : Option CheckResult := r.results.find? (·.name == name)

/-- A report with one line for each result. -/
def display (r : Report) : String := "\n".intercalate (r.results.map CheckResult.display)

/-- The value of a report. -/
def toJson (r : Report) : Json :=
  .obj [("probe", .str r.probe), ("healthy", .bool r.healthy),
    ("allow_partial_failure", .bool r.allowPartialFailure),
    ("results", .arr (r.results.map CheckResult.toJson))]

/-- A report as a line of text. -/
def serialized (r : Report) : String := r.toJson.text

end Report

end Vigil
