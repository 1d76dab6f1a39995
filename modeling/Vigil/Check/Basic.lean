import Vigil.Json.Basic
import Vigil.Fault

/-!
# Checks

A check as a run sees it: its name, what events show of it, and what each call of it does. A call
takes some time, or never settles, and ends in an outcome, a fault or a panic. A check that wraps a
function bounds the time of each call; a call beyond the bound is a fault, and the function itself
never comes to its end.
-/

namespace Vigil

/-- How a call of a check ends. -/
inductive Ending
  | concluded (conclusion : Conclusion)
  /-- The check panicked, with a message where the panic had one. -/
  | panicked (message : Option String)
  deriving Repr

/-- What one call of a check does when it is left alone. -/
structure Work where
  /-- The time until it ends, if it ever does. -/
  delay : Option Nat
  ending : Ending
  deriving Repr

/-- Work that never ends. -/
def Work.never : Work := ⟨none, .concluded (.ok .ok)⟩

/-- A check. -/
structure Check where
  name : String
  describe : Json.Fields := []
  /-- Whether there is something to release. -/
  holdsResources : Bool := false
  /-- Why releasing fails. -/
  releaseFailure : Option Chain := none
  /-- Whether the work is done on a thread of its own, apart from the tasks that take turns. -/
  blocking : Bool := false
  /-- The time that one call may take. -/
  limit : Option Duration := none
  /-- What the calls do, by the number of calls begun before. -/
  work : Nat → Work

namespace Check

/-- The wording of a call that took longer than the limit. -/
def limitText (limit : Duration) : String := "function check timed out after " ++ limit.debugText

/-- When a call that does `work` settles after its beginning, and how. -/
def settling (c : Check) (work : Work) : Option (Nat × Ending) :=
  match c.limit with
  | none => work.delay.map (·, work.ending)
  | some limit =>
    let cut := (limit.nanos, Ending.concluded (.error [limitText limit]))
    match work.delay with
    | none => some cut
    | some delay => if delay ≤ limit.nanos then some (delay, work.ending) else some cut

/-- When the work of a call comes to its own end after its beginning. -/
def finishing (c : Check) (work : Work) : Option Nat :=
  match c.limit with
  | none => work.delay
  | some limit => work.delay.filter (· ≤ limit.nanos)

/-- A check that wraps a function. -/
def function (name : String) (limit : Duration) (work : Nat → Work) : Check where
  name
  describe := [("name", .str name), ("timeout", .str limit.debugText)]
  limit := some limit
  work

end Check

end Vigil
