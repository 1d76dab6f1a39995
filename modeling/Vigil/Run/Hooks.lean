import Vigil.Run.Events

/-!
# Hooks and Traces

A run calls a hook right before each check begins and right after each check has settled. A hook
takes some time, which delays the run, and may fail, which ends it. What a run does that an observer
can see, its events and its hook calls, is its trace.
-/

namespace Vigil

/-- What a hook does when it is called. -/
structure Act where
  delay : Nat := 0
  failure : Option Chain := none
  deriving DecidableEq, Repr

/-- The hooks of a run, by the index of the check. -/
structure Hooks where
  onStart : Nat → Act
  onEnd : Nat → Act

/-- One thing that an observer sees of a run. -/
inductive Sight
  | event (event : Event)
  /-- The hook before a check was called. -/
  | startHook (probe check : String) (index : Nat)
  /-- The hook after a check was called. -/
  | endHook (probe : String) (index : Nat) (result : CheckResult)
  deriving Repr

/-- What is seen of a run, in order. -/
abbrev Trace := List Sight

/-- The events of a trace. -/
def Trace.events (t : Trace) : List Event :=
  t.filterMap fun
    | .event e => some e
    | _ => none

/-- A stretch of a run: what was seen in it, the time at its end, and the failure that ended the run
in it. -/
structure Stretch where
  trace : Trace
  now : Nat
  failure : Option Chain

namespace Hooks

/-- The call of a hook at a time, where there are hooks. -/
def call (hooks : Option Hooks) (sight : Sight) (act : Hooks → Act) (now : Nat) : Stretch :=
  match hooks with
  | none => ⟨[], now, none⟩
  | some hooks => ⟨[sight], now + (act hooks).delay, (act hooks).failure⟩

/-- A hook does not turn back the clock. -/
theorem le_call_now (hooks : Option Hooks) (sight : Sight) (act : Hooks → Act) (now : Nat) :
    now ≤ (call hooks sight act now).now := by
  cases hooks with
  | none => exact Nat.le_refl _
  | some hooks => exact Nat.le_add_right _ _

end Hooks

end Vigil
