import Vigil.Batch.Record
import Vigil.CommandLine
import Vigil.Config.Probes
import Vigil.Session

/-!
# Batches

The selected probes of a configuration run one after another, each once. What stands on the command
line goes before what the configuration says, and is validated like it. Before anything runs all the
selected probes are built; after the last run the resources of all checks are released.

## Main definitions

* `Batch.runner`: the runner, with the options taken into account;
* `Batch.execute`: a batch with all that it comes to.
-/

namespace Vigil.Batch

/-- The settings of runs with the options taken into account. -/
def settings (o : Options) (c : Config) : RunSettings :=
  ⟨o.timeout.getD c.run.timeout, o.failureOnTimeout || c.run.failureOnTimeout⟩

/-- The runner of a batch. -/
def runner (o : Options) (c : Config) : Except ConfigProblem Runner :=
  let s := settings o c
  match s.violations with
  | [] => .ok ⟨some s.timeout, s.failureOnTimeout, none⟩
  | violations => .error (.invalid violations)

/-- Why a batch has no standing of its own. -/
inductive Failure
  /-- There is nothing to run. -/
  | config (problem : ConfigProblem)
  /-- A run came to no report other than for lack of time. -/
  | probe (fault : Fault)
  /-- A run did not return, which it does under a budget of a batch. -/
  | endless
  deriving DecidableEq, Repr

/-- The wording of a failure. -/
def Failure.message : Failure → String
  | config problem => problem.message
  | probe fault => "Probe run failed: " ++ fault.message
  | endless => "Probe run failed"

/-- The standing that a failure means. -/
def Failure.standing : Failure → Standing
  | config _ => .unusable
  | _ => .unhealthy

/-- The record of a run, if it is one that ends the batch not. -/
def recordOf (probe : String) (budget : Duration) : Run.Result → Except Failure Record
  | .report r => .ok (.report r)
  | .failed fault => if fault.isTimeout then .ok (.timeout probe budget) else .error (.probe fault)
  | .never | .panicked => .error .endless

/-- Runs of probes one after another. -/
structure Progress where
  session : Session
  runs : List Run
  records : List Record
  failure : Option Failure

/-- The probes from the one of that number on, run one after another. -/
def runAll (runner : Runner) (session : Session) (index : Nat) : List Probe → Progress
  | [] => ⟨session, [], [], none⟩
  | probe :: rest =>
    let (run, session) := session.runProbe index probe runner
    match recordOf probe.name (runner.timeout.getD .zero) run.result with
    | .error failure => ⟨session, [run], [], some failure⟩
    | .ok record =>
      let later := runAll runner session (index + 1) rest
      { later with runs := run :: later.runs, records := record :: later.records }

/-- A batch at its end. -/
structure Execution where
  result : Except Failure Standing
  runs : List Run := []
  records : List Record := []
  /-- What was written. -/
  output : String := ""
  requests : List Http.Request := []
  /-- The probes and what became of their checks, after release. -/
  session : Session := Session.ofProbes []
  /-- The releases that failed. -/
  failedReleases : List FailedRelease := []

/-- A batch for which there is nothing to run. -/
def Execution.refused (problem : ConfigProblem) : Execution := { result := .error (.config problem) }

/-- The probes of a batch with their runner. -/
def prepare (o : Options) (c : Config) : Except ConfigProblem (Runner × List ConfiguredProbe) := do
  let runner ← runner o c
  let probes ← c.buildProbes o.probes
  if probes.isEmpty then .error .noProbes else return (runner, probes)

/-- A batch in a network. -/
def execute (o : Options) (c : Config) (net : Network) : Execution :=
  match prepare o c with
  | .error problem => .refused problem
  | .ok (runner, configured) =>
    let (probes, requests, _) := ConfiguredProbe.toProbes net configured
    let progress := runAll runner (Session.ofProbes probes) 0 probes
    { result :=
        match progress.failure with
        | some failure => .error failure
        | none => .ok (Record.standingOf progress.records)
      runs := progress.runs
      records := progress.records
      output := String.join (progress.records.map (Record.text o.json))
      requests
      session := progress.session.closeAll
      failedReleases := progress.session.failedReleases }

end Vigil.Batch
