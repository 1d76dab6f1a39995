import Vigil.Run.Hooks

/-!
# Dispatch

The first part of a run: check by check, the start hook is called, the event is emitted and a task
is made. A task begins when the run next waits, which is at the instant of its dispatch, because
time only passes in waits. What is later found of a task that settles is its arrival.

## Main definitions

* `dispatch`: the tasks of a run;
* `Arrival`: a task that settles, with the instant at which it does.
-/

namespace Vigil.Run

/-- A dispatched check. -/
structure Task where
  index : Nat
  check : Check
  /-- The instant of its dispatch. -/
  since : Nat
  work : Work

namespace Task

/-- When a task settles, and how. -/
def settles (t : Task) : Option (Nat × Ending) :=
  (t.check.settling t.work).map fun (delay, ending) => (t.since + delay, ending)

/-- When the work of a task comes to its own end. -/
def finishes (t : Task) : Option Nat := (t.check.finishing t.work).map (t.since + ·)

end Task

/-- What is found when a task is joined. -/
inductive Joined
  | ended (ending : Ending)
  /-- The task was cut off before it came to an end. -/
  | cancelled
  deriving Repr

/-- A task that is joined, with the instant from which it can be. -/
structure Arrival where
  task : Task
  time : Nat
  joined : Joined

namespace Arrival

/-- The arrival of a task that settles. -/
def ofTask? (task : Task) : Option Arrival :=
  task.settles.map fun (time, ending) => ⟨task, time, .ended ending⟩

/-- Whether a task settles at the instant of its dispatch. -/
def immediate (a : Arrival) : Bool := a.time ≤ a.task.since

/-- Whether a task settles in the turn in which it begins: it neither waits nor has a thread of its
own to wait for. -/
def inTurn (a : Arrival) : Bool := a.immediate && !a.task.check.blocking

/-- The result that an arrival makes. -/
def result (a : Arrival) : CheckResult :=
  let name := a.task.check.name
  let duration := Duration.clamp (a.time - a.task.since)
  match a.joined with
  | .ended (.concluded (.ok outcome)) => .ofOutcome name outcome duration
  | .ended (.concluded (.error chain)) => .failed name chain.text duration
  | .ended (.panicked (some message)) => .failed name ("Check panicked: " ++ message) .zero
  | .ended (.panicked none) => .failed name "Check panicked" .zero
  | .cancelled => .failed name "Check was cancelled" .zero

end Arrival

/-- Dispatch at its end. -/
structure Dispatched where
  trace : Trace
  now : Nat
  tasks : List Task
  failure : Option Chain

/-- The checks from `index` on dispatched at a time, each with the number of its calls begun
before. -/
def dispatch (probe : String) (hooks : Option Hooks) : Nat → Nat → List (Check × Nat) → Dispatched
  | _, now, [] => ⟨[], now, [], none⟩
  | index, now, (check, calls) :: rest =>
    let hook := Hooks.call hooks (.startHook probe check.name index) (·.onStart index) now
    match hook.failure with
    | some chain => ⟨hook.trace, hook.now, [], some chain⟩
    | none =>
      let later := dispatch probe hooks (index + 1) hook.now rest
      { later with
        trace := hook.trace ++ .event (checkStart probe check index) :: later.trace
        tasks := ⟨index, check, hook.now, check.work calls⟩ :: later.tasks }

/-- Tasks are dispatched no earlier than dispatch begins. -/
theorem dispatch_since_ge {probe : String} {hooks : Option Hooks} {index now : Nat}
    {checks : List (Check × Nat)} :
    ∀ t ∈ (dispatch probe hooks index now checks).tasks, now ≤ t.since := by
  induction checks generalizing index now with
  | nil => simp [dispatch]
  | cons head rest ih =>
      have hcall := Hooks.le_call_now hooks (.startHook probe head.1.name index) (·.onStart index) now
      rw [dispatch]
      split
      · simp
      · exact List.forall_mem_cons.mpr ⟨hcall, fun t ht => Nat.le_trans hcall (ih t ht)⟩

/-- Tasks are dispatched one after another. -/
theorem dispatch_since_mono (probe : String) (hooks : Option Hooks) (index now : Nat)
    (checks : List (Check × Nat)) :
    (dispatch probe hooks index now checks).tasks.Pairwise (·.since ≤ ·.since) := by
  induction checks generalizing index now with
  | nil => exact .nil
  | cons head rest ih =>
      rw [dispatch]
      split
      · exact .nil
      · exact .cons dispatch_since_ge (ih _ _)

end Vigil.Run
