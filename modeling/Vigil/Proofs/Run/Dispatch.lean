import Vigil.Run.Runner

/-!
# What Dispatch Leaves Behind

Dispatch makes one task for each check, in the order of the checks, until a start hook fails. This
module says so of the tasks, of the trace and of the clock, and carries it over to the schedules in
which the tasks settle. A hook that is absent is treated as one that takes no time and never fails
(`Hooks.actOf`), so that no later proof has to ask whether there are hooks.

## Main results

* `dispatch_task`: the task at a place belongs to the check at that place and to its next call.
* `length_dispatch`, `length_dispatch_of_failure`: all checks have a task, or all before the one
  whose hook failed.
* `dispatch_trace`, `dispatch_trace_of_failure`: what is seen of the tasks, in order, and the failing
  call after it.
* `Schedule.mem_order_iff`, `Schedule.nodup_indices`: a schedule holds the arrivals of the tasks that
  settle, each index once.
-/

namespace Vigil

/-- What a hook does, which is nothing where there are no hooks. -/
def Hooks.actOf (hooks : Option Hooks) (act : Hooks → Act) : Act := (hooks.map act).getD {}

/-- A call of a hook in terms of what the hook does. -/
theorem Hooks.call_eq (hooks : Option Hooks) (sight : Sight) (act : Hooks → Act) (now : Nat) :
    Hooks.call hooks sight act now =
      ⟨if hooks.isSome then [sight] else [], now + (Hooks.actOf hooks act).delay,
        (Hooks.actOf hooks act).failure⟩ := by
  cases hooks <;> rfl

/-- Only a hook that is there can fail. -/
theorem Hooks.isSome_of_failure {hooks : Option Hooks} {act : Hooks → Act} {chain : Chain}
    (h : (Hooks.actOf hooks act).failure = some chain) : hooks.isSome = true := by
  cases hooks with
  | none => simp [Hooks.actOf] at h
  | some hooks => rfl

namespace Run

variable {probe : String} {hooks : Option Hooks}

/-- What is seen of the dispatch of a check with its index: the hook before it, if there are hooks,
and its event. -/
def startSights (probe : String) (hooked : Bool) (p : Check × Nat) : Trace :=
  (if hooked then [.startHook probe p.1.name p.2] else []) ++ [.event (checkStart probe p.1 p.2)]

/-- The check of a task with its index. -/
def Task.place (t : Task) : Check × Nat := (t.check, t.index)

/-! ### The tasks -/

/-- The task at a place belongs to the check at that place and does the work of its next call. -/
theorem dispatch_task {index now : Nat} {checks : List (Check × Nat)} {k : Nat} {t : Task}
    (h : (dispatch probe hooks index now checks).tasks[k]? = some t) :
    ∃ c n, checks[k]? = some (c, n) ∧ t.index = index + k ∧ t.check = c ∧ t.work = c.work n := by
  induction checks generalizing index now k with
  | nil => simp [dispatch] at h
  | cons head rest ih =>
      obtain ⟨c, n⟩ := head
      rw [dispatch, Hooks.call_eq] at h
      cases hf : (Hooks.actOf hooks (·.onStart index)).failure with
      | some chain => simp [hf] at h
      | none =>
          simp only [hf] at h
          cases k with
          | zero =>
              simp only [List.getElem?_cons_zero, Option.some.injEq] at h
              subst h
              exact ⟨c, n, rfl, rfl, rfl, rfl⟩
          | succ k =>
              rw [List.getElem?_cons_succ] at h
              obtain ⟨c', n', hc, hi, ht, hw⟩ := ih h
              exact ⟨c', n', hc, by omega, ht, hw⟩

/-- Where no start hook fails every check has a task. -/
theorem length_dispatch {index now : Nat} {checks : List (Check × Nat)}
    (h : (dispatch probe hooks index now checks).failure = none) :
    (dispatch probe hooks index now checks).tasks.length = checks.length := by
  induction checks generalizing index now with
  | nil => rfl
  | cons head rest ih =>
      rw [dispatch, Hooks.call_eq] at h ⊢
      cases hf : (Hooks.actOf hooks (·.onStart index)).failure with
      | some chain => simp [hf] at h
      | none =>
          simp only [hf] at h ⊢
          rw [List.length_cons, List.length_cons, ih h]

/-- Where a start hook fails the check that it was called for has no task, nor has any after it. -/
theorem length_dispatch_of_failure {index now : Nat} {checks : List (Check × Nat)} {chain : Chain}
    (h : (dispatch probe hooks index now checks).failure = some chain) :
    (dispatch probe hooks index now checks).tasks.length < checks.length ∧
      (Hooks.actOf hooks
        (·.onStart (index + (dispatch probe hooks index now checks).tasks.length))).failure =
          some chain := by
  induction checks generalizing index now with
  | nil => simp [dispatch] at h
  | cons head rest ih =>
      rw [dispatch, Hooks.call_eq] at h ⊢
      cases hf : (Hooks.actOf hooks (·.onStart index)).failure with
      | some chain' =>
          simp only [hf] at h ⊢
          exact ⟨Nat.succ_pos _, hf.trans h⟩
      | none =>
          simp only [hf] at h ⊢
          obtain ⟨hlt, hact⟩ := ih h
          refine ⟨Nat.succ_lt_succ hlt, ?_⟩
          rw [List.length_cons]
          simpa only [Nat.add_assoc, Nat.add_comm 1] using hact

/-- A task is dispatched between the beginning and the end of dispatch. -/
theorem dispatch_since {index now : Nat} {checks : List (Check × Nat)} {t : Task}
    (h : t ∈ (dispatch probe hooks index now checks).tasks) :
    now ≤ t.since ∧ t.since ≤ (dispatch probe hooks index now checks).now := by
  suffices hs : now ≤ (dispatch probe hooks index now checks).now ∧
      ∀ t ∈ (dispatch probe hooks index now checks).tasks,
        t.since ≤ (dispatch probe hooks index now checks).now from ⟨dispatch_since_ge t h, hs.2 t h⟩
  clear h
  induction checks generalizing index now with
  | nil => simp [dispatch]
  | cons head rest ih =>
      rw [dispatch, Hooks.call_eq]
      cases hf : (Hooks.actOf hooks (·.onStart index)).failure with
      | some chain => simp
      | none =>
          simp only [List.forall_mem_cons]
          obtain ⟨hle, hall⟩ := @ih (index + 1) (now + (Hooks.actOf hooks (·.onStart index)).delay)
          exact ⟨Nat.le_trans (Nat.le_add_right _ _) hle, hle, hall⟩

/-- The tasks are those of an initial part of the checks, each with its index. -/
theorem dispatch_places (index now : Nat) (checks : List (Check × Nat)) :
    (dispatch probe hooks index now checks).tasks.map Task.place =
      ((checks.map Prod.fst).zipIdx index).take
        (dispatch probe hooks index now checks).tasks.length := by
  induction checks generalizing index now with
  | nil => rfl
  | cons head rest ih =>
      rw [dispatch, Hooks.call_eq]
      cases hf : (Hooks.actOf hooks (·.onStart index)).failure with
      | some chain => rfl
      | none =>
          simp only [List.map_cons, List.length_cons, List.zipIdx_cons, List.take_succ_cons]
          exact congrArg ((head.1, index) :: ·) (ih _ _)

/-! ### The trace -/

/-- Where no start hook fails the trace is that of the tasks. -/
theorem dispatch_trace {index now : Nat} {checks : List (Check × Nat)}
    (h : (dispatch probe hooks index now checks).failure = none) :
    (dispatch probe hooks index now checks).trace =
      ((dispatch probe hooks index now checks).tasks.map Task.place).flatMap
        (startSights probe hooks.isSome) := by
  induction checks generalizing index now with
  | nil => rfl
  | cons head rest ih =>
      rw [dispatch, Hooks.call_eq] at h ⊢
      cases hf : (Hooks.actOf hooks (·.onStart index)).failure with
      | some chain => simp [hf] at h
      | none =>
          simp only [hf] at h ⊢
          rw [List.map_cons, List.flatMap_cons, ih h, startSights]
          simp [Task.place]

/-- Where a start hook fails the failing call is seen after the tasks, and nothing after it. -/
theorem dispatch_trace_of_failure {index now : Nat} {checks : List (Check × Nat)} {chain : Chain}
    (h : (dispatch probe hooks index now checks).failure = some chain) :
    ∃ c n, checks[(dispatch probe hooks index now checks).tasks.length]? = some (c, n) ∧
      (dispatch probe hooks index now checks).trace =
        ((dispatch probe hooks index now checks).tasks.map Task.place).flatMap
          (startSights probe hooks.isSome) ++
          [.startHook probe c.name (index + (dispatch probe hooks index now checks).tasks.length)] := by
  induction checks generalizing index now with
  | nil => simp [dispatch] at h
  | cons head rest ih =>
      rw [dispatch, Hooks.call_eq] at h ⊢
      cases hf : (Hooks.actOf hooks (·.onStart index)).failure with
      | some chain' => exact ⟨head.1, head.2, rfl, by simp [Hooks.isSome_of_failure hf]⟩
      | none =>
          simp only [hf] at h ⊢
          obtain ⟨c, n, hc, htrace⟩ := ih h
          refine ⟨c, n, by simpa using hc, ?_⟩
          rw [htrace, List.map_cons, List.flatMap_cons, startSights]
          simp only [Task.place, List.length_cons, List.append_assoc, List.cons_append,
            List.nil_append]
          rw [Nat.add_assoc index 1, Nat.add_comm 1]

/-! ### Schedules -/

namespace Arrival

/-- A task that settles arrives when it does. -/
theorem ofTask?_of_settles {t : Task} {time : Nat} {ending : Ending}
    (h : t.settles = some (time, ending)) : ofTask? t = some ⟨t, time, .ended ending⟩ := by
  rw [ofTask?, h]
  rfl

/-- What arrives for a task is that task. -/
theorem task_of_ofTask? {t : Task} {a : Arrival} (h : ofTask? t = some a) : a.task = t :=
  (since_le_of_ofTask? h).1

/-- No two arrivals share an index if no two tasks do. -/
theorem nodup_of_perm {tasks : List Task} {arrivals : List Arrival}
    (hperm : arrivals.Perm (tasks.filterMap ofTask?)) (h : (tasks.map (·.index)).Nodup) :
    (arrivals.map fun a => a.task.index).Nodup := by
  refine (hperm.map _).nodup_iff.mpr ?_
  rw [List.Nodup, List.pairwise_map] at h ⊢
  refine List.Pairwise.filterMap _ ?_ h
  intro t u hne a ha b hb
  obtain ⟨_, -, rfl⟩ := Option.map_eq_some_iff.mp ha
  obtain ⟨_, -, rfl⟩ := Option.map_eq_some_iff.mp hb
  exact hne

end Arrival

namespace Schedule

variable {tasks : List Task} (s : Schedule tasks)

/-- A schedule holds the arrivals of the tasks that settle. -/
theorem mem_order_iff {a : Arrival} : a ∈ s.order ↔ ∃ t ∈ tasks, Arrival.ofTask? t = some a := by
  rw [s.perm.mem_iff, List.mem_filterMap]

/-- An arrival is that of its own task. -/
theorem task_mem {a : Arrival} (h : a ∈ s.order) : a.task ∈ tasks := by
  obtain ⟨t, ht, ha⟩ := s.mem_order_iff.mp h
  rw [Arrival.task_of_ofTask? ha]
  exact ht

/-- No index is in a schedule twice if no two tasks share one. -/
theorem nodup_indices (h : (tasks.map (·.index)).Nodup) :
    (s.order.map fun a => a.task.index).Nodup := Arrival.nodup_of_perm s.perm h

end Schedule

end Run

end Vigil
