import Mathlib.Logic.Relation
import Vigil.Client.Use

/-!
# Tasks at the Slot Take Turns

However long the holder of the lock connects and whatever becomes of its attempt, the tasks at a slot
come to what they would come to one after another. `Contention.Step` says what a step can be, and
`Contention.outcome` what is still to come; no step changes it.

## Main results

* `Contention.step?_eq_some_iff`: what a step can be.
* `Contention.outcome_eq_of_step`: a step leaves the outcome as it is.
* `ClientSlot.getMany_eq_getEach`: many tasks at once are answered as one after another.
-/

namespace Vigil.ClientSlot

/-! ### One use -/

/-- A client in the slot is handed out. -/
theorem get_of_cached {s : ClientSlot} {client : Nat} (h : s.cached = some client) :
    s.get = (.ok client, s) := by
  rw [get, h]

/-- With an empty slot one attempt is made. -/
theorem get_of_empty {s : ClientSlot} (h : s.cached = none) :
    s.get = s.begin.conclude s.attempts s.nextAttempt.failure := by
  rw [get, h]

namespace Contention

/-! ### Steps -/

/-- What a step of the tasks at a slot can be. -/
inductive Step (c : Contention) : Contention → Prop
  /-- The attempt of the holder takes its time. -/
  | lasts {h : Connecting} : c.holder = some h → h.left ≠ 0 →
      Step c { c with holder := some { h with left := h.left - 1 } }
  /-- The attempt of the holder comes to its end. -/
  | ends {h : Connecting} : c.holder = some h → h.left = 0 → Step c (c.settle h)
  /-- The next task finds a client. -/
  | served {n client : Nat} : c.holder = none → c.waiting = n + 1 → c.slot.cached = some client →
      Step c { c with waiting := n, answers := c.answers ++ [.ok client] }
  /-- The next task finds the slot empty and begins an attempt. -/
  | connects {n : Nat} : c.holder = none → c.waiting = n + 1 → c.slot.cached = none →
      Step c { c with
        slot := c.slot.begin
        waiting := n
        holder := some ⟨c.slot.attempts, c.slot.nextAttempt.delay, c.slot.nextAttempt.failure⟩ }

variable {c d : Contention}

/-- What a step can be. -/
theorem step?_eq_some_iff : c.step? = some d ↔ Step c d := by
  constructor
  · intro h
    unfold step? at h
    split at h
    next holder hheld =>
      split at h
      next hleft => exact Option.some.inj h ▸ .ends hheld hleft
      next hleft => exact Option.some.inj h ▸ .lasts hheld hleft
    next => cases h
    next n hfree hwaiting =>
      obtain rfl := Option.some.inj h
      unfold letIn
      split
      next client hcached => exact .served hfree hwaiting hcached
      next hempty => exact .connects hfree hwaiting hempty
  · intro h
    cases h with
    | lasts hheld hleft => simp only [step?, hheld, if_neg hleft]
    | ends hheld hleft => simp only [step?, hheld, if_pos hleft]
    | served hfree hwaiting hcached => simp only [step?, hfree, hwaiting, letIn, hcached]
    | connects hfree hwaiting hempty => simp only [step?, hfree, hwaiting, letIn, hempty]

/-- Steps lead from one state of the tasks to another. -/
abbrev Leads : Contention → Contention → Prop := Relation.ReflTransGen Step

/-- Without a step to take the tasks are through. -/
theorem finish_of_none (h : c.step? = none) : c.finish = c := by
  rw [finish]
  split
  next => rfl
  next hstep => rw [h] at hstep; cases hstep

/-- The end of the tasks is the one after their next step. -/
theorem finish_of_step (h : Step c d) : c.finish = d.finish := by
  have hstep := step?_eq_some_iff.mpr h
  rw [finish]
  split
  next hnone => rw [hnone] at hstep; cases hstep
  next hsome => exact congrArg finish (Option.some.inj (hsome.symm.trans hstep))

/-- The steps of the tasks lead to their end. -/
theorem leads_finish (c : Contention) : c.Leads c.finish := by
  induction c using finish.induct with
  | case1 c hdone => rw [finish_of_none hdone]
  | case2 c d hstep _ ih =>
      have h := step?_eq_some_iff.mp hstep
      exact .head h (finish_of_step h ▸ ih)

/-- At their end the tasks are through: none holds the lock and none waits for it. -/
theorem finish_through (c : Contention) : c.finish.holder = none ∧ c.finish.waiting = 0 := by
  induction c using finish.induct with
  | case1 c hdone =>
      rw [finish_of_none hdone]
      unfold step? at hdone
      split at hdone
      next => split at hdone <;> cases hdone
      next hfree hwaiting => exact ⟨hfree, hwaiting⟩
      next => cases hdone
  | case2 c d hstep _ ih => rwa [finish_of_step (step?_eq_some_iff.mp hstep)]

/-! ### The outcome -/

/-- What the tasks come to if the holder of the lock comes to the end of its attempt and those that
wait use the slot one after another. -/
def outcome (c : Contention) : List Answer × ClientSlot :=
  match c.holder with
  | none => (c.answers ++ (getEach c.waiting c.slot).1, (getEach c.waiting c.slot).2)
  | some h =>
    let (answer, slot) := c.slot.conclude h.number h.failure
    (c.answers ++ answer :: (getEach c.waiting slot).1, (getEach c.waiting slot).2)

/-- **A step leaves the outcome as it is.** -/
theorem outcome_eq_of_step (h : Step c d) : d.outcome = c.outcome := by
  cases h with
  | lasts hheld hleft => simp only [outcome, hheld]
  | ends hheld hleft => simp only [outcome, settle, hheld, List.append_assoc, List.singleton_append]
  | served hfree hwaiting hcached =>
      simp only [outcome, hfree, hwaiting, getEach, get_of_cached hcached, List.append_assoc,
        List.singleton_append]
  | connects hfree hwaiting hempty =>
      simp only [outcome, hfree, hwaiting, getEach, get_of_empty hempty]

/-- The steps to the end leave the outcome as it is. -/
theorem outcome_of_leads (h : c.Leads d) : d.outcome = c.outcome := by
  induction h with
  | refl => rfl
  | tail _ hstep ih => exact (outcome_eq_of_step hstep).trans ih

/-- At their end the tasks have come to their outcome. -/
theorem finish_eq_outcome (c : Contention) : (c.finish.answers, c.finish.slot) = c.outcome := by
  obtain ⟨hholder, hwaiting⟩ := c.finish_through
  rw [← outcome_of_leads c.leads_finish, outcome, hholder, hwaiting, getEach]
  simp only [List.append_nil]

end Contention

/-- **Many tasks at once are answered as one after another**, and leave the slot so. -/
theorem getMany_eq_getEach (n : Nat) (s : ClientSlot) : s.getMany n = s.getEach n :=
  calc s.getMany n
      = Contention.outcome ⟨s, none, n, []⟩ := Contention.finish_eq_outcome _
    _ = s.getEach n := by rw [Contention.outcome, List.nil_append]

end Vigil.ClientSlot
