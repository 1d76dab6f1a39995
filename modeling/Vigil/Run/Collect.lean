import Vigil.Run.Executor

/-!
# Collection

The second part of a run. Tasks that have settled queue up, first come, first served, and the run takes
one after another. As long as one is in the queue it is taken whatever the time is. Only where the queue
is empty is the deadline looked at, and the run waits until the next task settles or the deadline
passes, whichever comes first. The hook after a check is not bounded by the deadline, so it may carry
the run past it; tasks that settle meanwhile are in the queue when it returns.

## Main definitions

* `Pool`: the tasks that have yet to be joined, some of them in the queue;
* `Pool.next?`: the task that is joined next, and when;
* `joinAll`, `collect`: the loop that joins tasks, and its beginning.
-/

namespace Vigil.Run

/-- The event and the hook call after a check. -/
def finishCheck (probe : String) (hooks : Option Hooks) (now index : Nat) (result : CheckResult) :
    Stretch :=
  let hook := Hooks.call hooks (.endHook probe index result) (·.onEnd index) now
  { hook with trace := .event (checkEnd probe index result) :: hook.trace }

/-- How collection ends. -/
inductive Closing
  /-- Every task has settled. -/
  | complete
  /-- The deadline passed with tasks still pending. -/
  | deadline
  /-- A hook failed. -/
  | hook (chain : Chain)
  /-- A task never settles and there is no deadline. -/
  | never
  deriving Repr

/-- Collection at its end. -/
structure Collected where
  trace : Trace
  now : Nat
  /-- Whether the run has waited, so that every task has begun. -/
  waited : Bool
  results : List (Nat × CheckResult)
  closing : Closing

/-- Whether a task has begun: the run has waited, or time has passed since its dispatch. -/
def hasBegun (waited : Bool) (now since : Nat) : Bool := waited || since < now

/-- Collection that has come to a wait with nothing left to take before the deadline. -/
def awaitDeadline (deadline : Option Nat) (now : Nat) (waited : Bool) : Collected :=
  match deadline with
  | none => ⟨[], now, true, [], .never⟩
  | some d => ⟨[], max now d, waited || now < d, [], .deadline⟩

/-- Whether a task can be joined without waiting. -/
def isAtHand (waited : Bool) (now : Nat) (a : Arrival) : Bool :=
  hasBegun waited now a.task.since && a.time ≤ now

/-- Whether a task settles in a wait for it that ends with the deadline. -/
def settlesInTime (deadline : Option Nat) (now : Nat) (a : Arrival) : Bool :=
  match deadline with
  | none => true
  | some d => now < d && a.time ≤ d

/-- The tasks that settle and have yet to be joined. -/
structure Pool where
  /-- The queue of those that have settled. -/
  ready : List Arrival
  /-- Those on their way, in the order in which they will settle. -/
  running : List Arrival

namespace Pool

/-- Whoever has settled by now joins the queue. -/
def refresh (p : Pool) (waited : Bool) (now : Nat) : Pool where
  ready := p.ready ++ p.running.takeWhile (isAtHand waited now)
  running := p.running.dropWhile (isAtHand waited now)

/-- A task that is joined: at which instant, whether the run has waited by then, and who is left. -/
structure Joint where
  arrival : Arrival
  now : Nat
  waited : Bool
  pool : Pool

/-- The task that is joined next, unless the deadline passes before one settles: the first in the
queue, or where the queue is empty the one for which the run waits. -/
def next? (p : Pool) (deadline : Option Nat) (now : Nat) (waited : Bool) : Option Joint :=
  match p.refresh waited now with
  | ⟨a :: ready, running⟩ => some ⟨a, now, waited, ⟨ready, running⟩⟩
  | ⟨[], a :: running⟩ =>
    if settlesInTime deadline now a then some ⟨a, max now a.time, true, ⟨[], running⟩⟩ else none
  | ⟨[], []⟩ => none

end Pool

/-- The loop that joins tasks, from a time on, with the number of those that have yet to be joined and
will settle. `stuck` tells whether some task never settles. -/
def joinAll (probe : String) (hooks : Option Hooks) (deadline : Option Nat) (stuck : Bool) :
    Nat → Nat → Bool → Pool → Collected
  | 0, now, waited, _ =>
    if stuck then awaitDeadline deadline now waited else ⟨[], now, waited, [], .complete⟩
  | left + 1, now, waited, pool =>
    match pool.next? deadline now waited with
    | none => awaitDeadline deadline now waited
    | some joint =>
      let index := joint.arrival.task.index
      let result := joint.arrival.result
      let finish := finishCheck probe hooks joint.now index result
      match finish.failure with
      | some chain => ⟨finish.trace, finish.now, joint.waited, [(index, result)], .hook chain⟩
      | none =>
        let later := joinAll probe hooks deadline stuck left finish.now joint.waited joint.pool
        { later with
          trace := finish.trace ++ later.trace
          results := (index, result) :: later.results }

/-- Collection from a time on, with the tasks that have yet to settle, in the order in which they
will. -/
def collect (probe : String) (hooks : Option Hooks) (deadline : Option Nat) (stuck : Bool) (now : Nat)
    (waited : Bool) (order : List Arrival) : Collected :=
  joinAll probe hooks deadline stuck order.length now waited ⟨[], order⟩

/-- The ends of checks that were given up: their results, the time, and the hook failure that ended
the run. -/
structure GivenUp where
  trace : Trace
  now : Nat
  results : List (Nat × CheckResult)
  failure : Option Chain

/-- Pending checks given up one after another. -/
def giveUp (probe : String) (hooks : Option Hooks) (elapsed : Duration) :
    Nat → List (Nat × String) → GivenUp
  | now, [] => ⟨[], now, [], none⟩
  | now, (index, name) :: rest =>
    let result := CheckResult.timedOut name elapsed
    let finish := finishCheck probe hooks now index result
    match finish.failure with
    | some chain => ⟨finish.trace, finish.now, [], some chain⟩
    | none =>
      let later := giveUp probe hooks elapsed finish.now rest
      { later with
        trace := finish.trace ++ later.trace
        results := (index, result) :: later.results }

end Vigil.Run
