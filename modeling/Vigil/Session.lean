import Vigil.Endpoint

/-!
# Sessions

Probes in use: they are run one after another, their checks are called again and again, and in the
end their resources are released. Events go to the runner's own sink or to a shared one, which
records nothing until it is set. The calls of each check are counted.
-/

namespace Vigil

/-- What has become of a check so far. -/
structure Tally where
  begun : Nat := 0
  finished : Nat := 0
  released : Nat := 0
  deriving DecidableEq, Repr

/-- A release that failed. -/
structure FailedRelease where
  probe : String
  check : String
  chain : Chain
  deriving DecidableEq, Repr

/-- Probes in use. -/
structure Session where
  probes : List Probe
  /-- The tallies of each probe's checks. -/
  tallies : List (List Tally)
  /-- Whether the shared sink records. -/
  recording : Bool := false

/-- What is done in a session. -/
inductive Session.Step
  /-- A run, with its own sink or the shared one. -/
  | run (probe : Nat) (runner : Runner) (shared : Bool)
  /-- A run rendered into a response. -/
  | respond (probe : Nat) (options : EndpointOptions) (hooks : Option Hooks)
  /-- All probes are released. -/
  | close
  | record
  | stopRecording

/-- What a step comes to. -/
inductive Session.Answer
  | run (result : Run.Result)
  | response (response : Response) (report : Report)
  | none

/-- What is seen of a step. -/
structure Session.Seen where
  answer : Session.Answer
  elapsed : Nat
  trace : Trace
  /-- The events of the runner's own sink. -/
  own : List Event
  /-- The events of the shared sink. -/
  shared : List Event

namespace Session

/-- A session with probes that have not been used. -/
def ofProbes (probes : List Probe) : Session :=
  { probes, tallies := probes.map fun p => p.checks.map fun _ => {} }

/-- A tally with one more run counted. -/
def Tally.add (t : Tally) (a : Activity) : Tally :=
  { t with begun := t.begun + a.begun.toNat, finished := t.finished + a.finished.toNat }

/-- The tallies of a probe after a run of it. -/
def addRun (tallies : List Tally) (activity : List Activity) : List Tally :=
  List.zipWith Tally.add tallies activity

/-- A tally after release. -/
def Tally.release (check : Check) (t : Tally) : Tally :=
  if check.holdsResources then { t with released := t.released + 1 } else t

/-- The release of a check of a probe, if it is released at all and that fails. -/
def failedRelease? (probe : String) (check : Check) : Option FailedRelease :=
  if check.holdsResources then check.releaseFailure.map (⟨probe, check.name, ·⟩) else none

/-- The checks of a probe released one after another: the tallies after it, and the releases that
failed. A release that fails is noted, and the next one follows. -/
def releaseChecks (probe : String) : List Check → List Tally → List Tally × List FailedRelease
  | check :: checks, t :: tallies =>
    let (later, failed) := releaseChecks probe checks tallies
    match failedRelease? probe check with
    | none => (Tally.release check t :: later, failed)
    | some failure => (Tally.release check t :: later, failure :: failed)
  | _, _ => ([], [])

/-- Probes released one after another. -/
def releaseProbes : List Probe → List (List Tally) → List (List Tally) × List FailedRelease
  | probe :: probes, ts :: tallies =>
    let (here, failed) := releaseChecks probe.name probe.checks ts
    let (later, failedLater) := releaseProbes probes tallies
    (here :: later, failed ++ failedLater)
  | _, _ => ([], [])

/-- The session after all probes were released. -/
def closeAll (s : Session) : Session := { s with tallies := (releaseProbes s.probes s.tallies).1 }

/-- The releases that fail when all probes are released. They are logged and show nowhere else. -/
def failedReleases (s : Session) : List FailedRelease := (releaseProbes s.probes s.tallies).2

/-- Every check of a probe is released, whichever of the releases fail. -/
theorem releaseChecks_eq (probe : String) (checks : List Check) (tallies : List Tally) :
    releaseChecks probe checks tallies =
      (List.zipWith Tally.release checks tallies,
        (checks.take tallies.length).filterMap (failedRelease? probe)) := by
  induction checks generalizing tallies with
  | nil => simp [releaseChecks]
  | cons check checks ih =>
    cases tallies with
    | nil => rfl
    | cons t tallies =>
      rw [releaseChecks, ih, List.length_cons, List.take_succ_cons, List.filterMap_cons]
      cases failedRelease? probe check <;> rfl

/-- All probes are released, whichever of the releases fail. -/
theorem releaseProbes_fst (probes : List Probe) (tallies : List (List Tally)) :
    (releaseProbes probes tallies).1 =
      List.zipWith (fun p ts => List.zipWith Tally.release p.checks ts) probes tallies := by
  induction probes generalizing tallies with
  | nil => simp [releaseProbes]
  | cons probe probes ih =>
    cases tallies with
    | nil => rfl
    | cons ts tallies => simp only [releaseProbes, releaseChecks_eq, ih, List.zipWith_cons_cons]

/-- A run of a probe in a session. -/
def runProbe (s : Session) (index : Nat) (probe : Probe) (runner : Runner) : Run × Session :=
  let before := s.tallies.getD index []
  let run := runner.run probe (before.map (·.begun))
  (run, { s with tallies := s.tallies.set index (addRun before run.activity) })

/-- What a step that runs nothing shows. -/
def quiet : Seen := ⟨.none, 0, [], [], []⟩

/-- What a run shows. -/
def seen (s : Session) (run : Run) (answer : Answer) (shared : Bool) : Seen :=
  let events := run.trace.events
  ⟨answer, run.elapsed, run.trace, if shared then [] else events,
    if shared && s.recording then events else []⟩

/-- One step. -/
def step (s : Session) : Step → Seen × Session
  | .run index runner shared =>
    match s.probes[index]? with
    | none => (quiet, s)
    | some probe =>
      let (run, after) := s.runProbe index probe runner
      (s.seen run (.run run.result) shared, after)
  | .respond index options hooks =>
    match s.probes[index]? with
    | none => (quiet, s)
    | some probe =>
      let (run, after) := s.runProbe index probe (Endpoint.runner options hooks)
      let answer : Answer :=
        match run.result with
        | .report report => .response (Endpoint.render options report) report
        | other => .run other
      (s.seen run answer true, after)
  | .close => (quiet, s.closeAll)
  | .record => (quiet, { s with recording := true })
  | .stopRecording => (quiet, { s with recording := false })

/-- Steps one after another, each with the session after it. -/
def steps (s : Session) : List Step → List (Seen × Session)
  | [] => []
  | step :: rest =>
    let (seen, after) := s.step step
    (seen, after) :: after.steps rest

end Session

end Vigil
