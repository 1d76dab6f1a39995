import Vigil.Run.Collect

/-!
# Runs

A run of a probe: all checks are dispatched at once, their results are collected under a shared
budget of time that begins when dispatch ends, and a report is made. When the budget is used up the
pending checks are cut off, and the run either fails or reports them as failed.

Instants are counted in nanoseconds from the beginning of the run. Time passes only where the run waits,
for a task, a hook or the deadline. The machine's clock, which reads something when the run begins, comes
to an end at some time, and a deadline beyond that makes the run panic.

## Main definitions

* `Runner`: the budget, what to do when it is used up, and the hooks;
* `Runner.runInOrder`: a run whose tasks settle in a given order, with all that can be seen of it;
* `Runner.run`: a run whose tasks settle by turns.
-/

namespace Vigil

/-- How probes are run. -/
structure Runner where
  /-- The budget of each run. -/
  timeout : Option Duration := none
  /-- Whether pending checks are reported as failed when the budget is used up. -/
  failureOnTimeout : Bool := false
  hooks : Option Hooks := none

/-- How a run ends. -/
inductive Run.Result
  | report (report : Report)
  | failed (fault : Fault)
  /-- The run never returns. -/
  | never
  /-- The run panics, because its deadline is past the end of the machine's clock. -/
  | panicked
  deriving Repr

/-- What became of the call of one check in a run. -/
structure Activity where
  begun : Bool
  /-- Whether the work came to its own end. -/
  finished : Bool
  deriving DecidableEq, Repr

/-- A run of a probe. -/
structure Run where
  result : Run.Result
  trace : Trace
  elapsed : Nat
  /-- What became of each check's call, in the order of the checks. -/
  activity : List Activity

namespace Run

/-- What became of a task in a run whose tasks were cut off at an instant. -/
def activityOf (waited : Bool) (now : Nat) (t : Task) : Activity :=
  let begun := hasBegun waited now t.since
  ⟨begun, begun && t.finishes.any (· ≤ now)⟩

/-- The end of the machine's clock, which counts seconds in a signed word of 64 bits. -/
def clockEnd : Nat := 0x8000000000000000 * nanosPerSecond

/-- The activity of all checks of a probe, of which those without a task did not begin. -/
def activities (count : Nat) (waited : Bool) (now : Nat) (tasks : List Task) : List Activity :=
  (tasks.map (activityOf waited now)) ++ List.replicate (count - tasks.length) ⟨false, false⟩

/-- The checks without a result, with their names, in the order of the probe. -/
def pending (checks : List Check) (results : List (Nat × CheckResult)) : List (Nat × String) :=
  (checks.zipIdx.map fun (check, index) => (index, check.name)).filter fun (index, _) =>
    (results.lookup index).isNone

/-- The results in the order of the checks. -/
def arrange (checks : List Check) (results : List (Nat × CheckResult)) : List CheckResult :=
  checks.zipIdx.map fun (check, index) =>
    (results.lookup index).getD (.failed check.name "Check did not report a result" .zero)

/-- The report of results and the event that ends the run. -/
def conclude (probe : Probe) (results : List (Nat × CheckResult)) (now : Nat) : Report × Event :=
  let report := Report.ofResults probe.name (arrange probe.checks results) probe.allowPartialFailure
  (report, probeEnd report (Duration.clamp now))

end Run

namespace Runner

open Run

/-- The event that tells of the deadline and of the checks that are pending at it. -/
def notice (r : Runner) (probe : Probe) (c : Collected) : Event :=
  probeTimeout probe.name (r.timeout.getD .zero) ((pending probe.checks c.results).map Prod.snd)

/-- The pending checks given up at the deadline. -/
def givenUp (r : Runner) (probe : Probe) (c : Collected) : GivenUp :=
  giveUp probe.name r.hooks (Duration.clamp c.now) c.now (pending probe.checks c.results)

/-- The part of a run after collection. -/
def close (r : Runner) (probe : Probe) (c : Collected) : Run.Result × Trace × Nat :=
  match c.closing with
  | .never => (.never, [], c.now)
  | .hook chain => (.failed (.hook chain), [], c.now)
  | .complete =>
    let (report, event) := conclude probe c.results c.now
    (.report report, [.event event], c.now)
  | .deadline =>
    let notice := Sight.event (r.notice probe c)
    if r.failureOnTimeout then
      let given := r.givenUp probe c
      match given.failure with
      | some chain => (.failed (.hook chain), notice :: given.trace, given.now)
      | none =>
        let (report, event) := conclude probe (c.results ++ given.results) given.now
        (.report report, notice :: given.trace ++ [.event event], given.now)
    else (.failed (.timeout probe.name (r.timeout.getD .zero)), [notice], c.now)

/-- The dispatch of a probe's checks, given the number of calls of each begun before. -/
def dispatched (r : Runner) (probe : Probe) (calls : List Nat) : Dispatched :=
  dispatch probe.name r.hooks 0 0
    (probe.checks.zipIdx.map fun (check, index) => (check, calls.getD index 0))

/-- The instant at which the budget of a run is used up: it begins when dispatch ends. -/
def deadline? (r : Runner) (d : Dispatched) : Option Nat :=
  r.timeout.map fun budget => d.now + budget.nanos

/-- Whether the deadline of a run that begins at an instant of the machine's clock is past its end. -/
def overruns (r : Runner) (d : Dispatched) (begins : Nat) : Bool :=
  (r.deadline? d).any (clockEnd ≤ begins + ·)

/-- The collection of dispatched tasks that settle in a given order. -/
def collected (r : Runner) (probe : Probe) (d : Dispatched) (s : Schedule d.tasks) : Collected :=
  collect probe.name r.hooks (r.deadline? d) (d.tasks.any fun t => t.settles.isNone) d.now false s.order

/-- A run of a probe, given the number of calls of each check begun before, the order in which the tasks
settle and the reading of the machine's clock when the run begins. -/
def runInOrder (r : Runner) (probe : Probe) (calls : List Nat)
    (s : Schedule (r.dispatched probe calls).tasks) : Run :=
  let start := Sight.event (probeStart probe r.timeout)
  let d := r.dispatched probe calls
  let count := probe.checks.length
  match d.failure with
  | some chain =>
    ⟨.failed (.hook chain), start :: d.trace, d.now, activities count false d.now d.tasks⟩
  | none =>
    if r.overruns d s.begins then
      ⟨.panicked, start :: d.trace, d.now, activities count false d.now d.tasks⟩
    else
      let c := r.collected probe d s
      let (result, trace, elapsed) := r.close probe c
      ⟨result, start :: d.trace ++ c.trace ++ trace, elapsed,
        activities count c.waited c.now d.tasks⟩

/-- The schedule in which the tasks of a run take turns. -/
def turns (r : Runner) (probe : Probe) (calls : List Nat) : Schedule (r.dispatched probe calls).tasks :=
  .byTurns _ (dispatch_since_mono _ _ _ _ _)

/-- A run of a probe, given the number of calls of each check begun before. -/
def run (r : Runner) (probe : Probe) (calls : List Nat) : Run :=
  r.runInOrder probe calls (r.turns probe calls)

end Runner

end Vigil
