import Vigil.Batch.Basic
import Vigil.Config.Source
import Vigil.Logging

/-!
# Launches

The program as a whole: from its arguments and the files it finds to its exit code and what it
writes. Output goes to one stream, and the log and messages about mistakes to another.
-/

namespace Vigil

/-- What the program finds around it. -/
structure Surroundings where
  /-- What stands at a path. -/
  entry : String → PathEntry
  /-- The home of the user. -/
  home : Option String := none
  network : Network

/-- A launch of the program at its end. -/
structure Launch where
  code : Nat
  output : String
  errors : String
  requests : List Http.Request := []

namespace Batch

/-- The lines that go with an event of a run. -/
def runLines (event : Event) : List LogLine :=
  let healthy : Bool :=
    match Json.field? "healthy" event.fields with
    | some (.bool b) => b
    | _ => false
  match event.name with
  | "probe_start" => [⟨.debug, "Running probe"⟩]
  | "check_end" => [if healthy then ⟨.debug, "Check passed"⟩ else ⟨.warn, "Check failed"⟩]
  | "probe_timeout" => [⟨.warn, "Probe timed out"⟩]
  | "probe_end" => [if healthy then ⟨.debug, "Probe healthy"⟩ else ⟨.info, "Probe unhealthy"⟩]
  | _ => []

/-- The line of an event itself. -/
def eventLine (event : Event) : LogLine := ⟨event.level, event.name ++ " " ++ (Json.obj event.fields).text⟩

/-- The line of a record. -/
def recordLine : Record → LogLine
  | .report r => ⟨.info, "Probe finished: " ++ Text.quoted r.probe⟩
  | .timeout probe _ => ⟨.warn, "Probe health unknown: " ++ Text.quoted probe⟩

/-- The line of a release that failed. -/
def releaseLine (f : FailedRelease) : LogLine :=
  ⟨.warn, "Failed to release check resources: " ++ Text.quoted f.check ++ " of " ++ Text.quoted f.probe⟩

/-- The lines of a run. -/
def linesOf (s : LogSettings) (run : Run) : List LogLine :=
  run.trace.events.flatMap fun e => runLines e ++ if s.probeEvents then [eventLine e] else []

/-- The log of a batch. -/
def Execution.log (e : Execution) (s : LogSettings) : List LogLine :=
  ⟨.debug, "Configuration loaded"⟩ :: e.runs.flatMap (linesOf s) ++ e.records.map recordLine ++
    e.failedReleases.map releaseLine ++
    match e.result with
    | .ok _ => []
    | .error failure => [⟨.error, "Probe run aborted: " ++ failure.message⟩]

end Batch

namespace Launch

/-- The launch with a command line that asks for no run. -/
def ofUsage (usage : Usage) : Launch :=
  let text := CommandLine.mistakeText usage
  if usage.isWish then ⟨0, text, "", []⟩ else ⟨2, "", text, []⟩

/-- The launch with a batch. -/
def ofBatch (o : Options) (c : Config) (net : Network) : Launch :=
  let e := Batch.execute o c net
  let log := (LogFilter.ofSettings c.logging).render (e.log c.logging)
  match e.result with
  | .ok standing => ⟨standing.code, e.output, log, e.requests⟩
  | .error failure => ⟨failure.standing.code, e.output, log ++ failure.message ++ "\n", e.requests⟩

/-- The launch with a command line. -/
def run (args : List String) (s : Surroundings) : Launch :=
  match CommandLine.read args with
  | .error usage => ofUsage usage
  | .ok o =>
    match Config.load (o.config.map s.entry) ((Config.searchPaths s.home).map s.entry) with
    | .error problem =>
      ⟨Standing.unusable.code, "", "Configuration error: " ++ problem.message ++ "\n", []⟩
    | .ok c => ofBatch o c s.network

end Launch

end Vigil
