import Vigil.Client.Slot

/-!
# Contention for the Slot

Several tasks that want the client of one slot at once. The slot is locked by one task at a time,
in the order in which they came, and stays locked while that task connects, which may take a while.
The tasks are followed step by step: the holder of the lock waits, or comes to the end of its
attempt, or the next task takes the lock.
-/

namespace Vigil.ClientSlot

/-- An attempt to connect under way. -/
structure Connecting where
  /-- The number that its client will have. -/
  number : Nat
  /-- The time that it still takes. -/
  left : Nat
  failure : Option String

/-- Tasks at one slot. -/
structure Contention where
  slot : ClientSlot
  /-- The attempt of the task that holds the lock. -/
  holder : Option Connecting
  /-- The number of tasks that wait for the lock. -/
  waiting : Nat
  /-- The answers of the tasks that are through, in the order of the tasks. -/
  answers : List Answer

namespace Contention

/-- The task next in line takes the lock. With a client in the slot it is through at once. -/
def letIn (c : Contention) (waiting : Nat) : Contention :=
  match c.slot.cached with
  | some client => { c with waiting, answers := c.answers ++ [.ok client] }
  | none =>
    let attempt := c.slot.nextAttempt
    { c with
      slot := c.slot.begin
      waiting
      holder := some ⟨c.slot.attempts, attempt.delay, attempt.failure⟩ }

/-- The holder's attempt comes to its end and the lock is free. -/
def settle (c : Contention) (h : Connecting) : Contention :=
  let (answer, slot) := c.slot.conclude h.number h.failure
  { c with slot, holder := none, answers := c.answers ++ [answer] }

/-- The time that the holder of the lock still needs. -/
def holderTime (c : Contention) : Nat :=
  match c.holder with
  | some h => h.left + 1
  | none => 0

/-- One step, or nothing where all tasks are through. -/
def step? (c : Contention) : Option Contention :=
  match c.holder, c.waiting with
  | some h, _ =>
    if h.left = 0 then some (c.settle h)
    else some { c with holder := some { h with left := h.left - 1 } }
  | none, 0 => none
  | none, n + 1 => some (c.letIn n)

theorem step?_decreases {c d : Contention} (h : c.step? = some d) :
    d.waiting < c.waiting ∨ (d.waiting = c.waiting ∧ d.holderTime < c.holderTime) := by
  unfold step? at h
  split at h
  · next holder hh =>
    right
    split at h
    · obtain rfl := Option.some.inj h
      simp [settle, holderTime, hh]
    · obtain rfl := Option.some.inj h
      simp only [holderTime, hh, true_and]
      omega
  · simp at h
  · next n _ hw =>
    left
    obtain rfl := Option.some.inj h
    unfold letIn
    split <;> simp [hw]

/-- All steps until the tasks are through. -/
def finish (c : Contention) : Contention :=
  match h : c.step? with
  | none => c
  | some d =>
    have := step?_decreases h
    finish d
termination_by (c.waiting, c.holderTime)
decreasing_by
  rcases this with hw | ⟨hw, ht⟩
  · exact Prod.Lex.left _ _ hw
  · rw [hw]
    exact Prod.Lex.right _ ht

end Contention

/-- The answers of `n` tasks that want the client at once, in the order of the tasks. -/
def getMany (n : Nat) (s : ClientSlot) : List Answer × ClientSlot :=
  let c := Contention.finish ⟨s, none, n, []⟩
  (c.answers, c.slot)

end Vigil.ClientSlot
