import Vigil.Run.Runner

/-!
# Records

What is written of each probe of a batch: its report, or that its time was up. A record is either a
few lines of text, one for the probe and one for each result, or one line with a structured value.
-/

namespace Vigil

/-- How a batch of probes stands at its end; the worse the later. -/
inductive Standing
  | healthy
  | unhealthy
  /-- The time of a probe was up, so its health is unknown. -/
  | timedOut
  /-- There was nothing to run. -/
  | unusable
  deriving DecidableEq, Repr

namespace Standing

/-- The exit code. -/
def code : Standing → Nat
  | healthy => 0
  | unhealthy => 1
  | timedOut => 2
  | unusable => 3

/-- The worse of two standings. -/
def worse (a b : Standing) : Standing := if a.code < b.code then b else a

/-- The word for a standing. -/
def name : Standing → String
  | healthy => "Healthy"
  | unhealthy => "Unhealthy"
  | timedOut => "TimedOut"
  | unusable => "ConfigError"

end Standing

/-- What is written of one probe. -/
inductive Record
  | report (report : Report)
  | timeout (probe : String) (budget : Duration)
  deriving DecidableEq, Repr

namespace Record

/-- The name of the probe. -/
def probe : Record → String
  | report r => r.probe
  | timeout probe _ => probe

/-- The standing of a record by itself. -/
def standing : Record → Standing
  | report r => if r.healthy then .healthy else .unhealthy
  | timeout _ _ => .timedOut

/-- The line of one result. -/
def resultLine (r : CheckResult) : String :=
  "  " ++ r.name ++ ": " ++ healthWord r.healthy ++ " (" ++ r.duration.debugText ++ ")" ++
    match r.detail with
    | some detail => " " ++ detail
    | none => ""

/-- The lines of a record. -/
def lines : Record → List String
  | report r => (r.probe ++ ": " ++ healthWord r.healthy) :: r.results.map resultLine
  | timeout probe budget => [probe ++ ": timed out after " ++ budget.debugText]

/-- The structured value of a record. -/
def toJson : Record → Json
  | report r => r.toJson
  | timeout probe budget =>
    .obj [("error", .str "timeout"), ("healthy", .null), ("probe", .str probe),
      ("timeout", .str budget.debugText)]

/-- A record as it is written. -/
def text (json : Bool) (r : Record) : String :=
  String.join ((if json then [r.toJson.text] else r.lines).map (· ++ "\n"))

/-- The standing of records. -/
def standingOf (records : List Record) : Standing :=
  records.foldl (fun worst r => worst.worse r.standing) .healthy

end Record

end Vigil
