import Vigil.Proofs.Run.Dispatch

/-!
# What Collection Takes and What It Leaves

Collection drains a queue into which tasks come as they settle. What carries its loop is that whoever is
in the queue has settled (`Pool.Queued`): then the task that is joined next is always the first to
settle of those that are left, and the loop is a walk along the order of settling (`joinAll_eq_walk`).

Collection takes an initial part of that order and leaves the rest (`collect_results`). What is
seen of it are the ends of what it took, in that order (`collect_trace`), whichever way it closes.
Each way of closing has one lemma that says what it tells.

The deadline is looked at only where nothing is at hand. The lemma that carries this to all tasks
that are left is `not_isAtHand_of_head`: if the next task of a schedule is not at hand at the moment
at which the deadline is seen, no task after it is. A schedule does not put a task dispatched at that
moment ahead of one under way before it, which is the only case in which that could go wrong.

## Main definitions

* `Pool.order`, `Pool.Queued`: the order in which the tasks of a pool settle, and the invariant of the
  loop.
* `walk`: collection without its queue.

## Main results

* `Pool.next?_of_order`, `joinAll_eq_walk`: the queue hands tasks over in the order of settling.
* `collect_of_complete`, `collect_of_never`, `collect_of_hook`, `collect_of_deadline`: the ways in
  which collection closes.
* `not_isAtHand_of_mem_left`: no task that is left at the deadline was at hand at it.
* `isAtHand_of_mem_taken`: every task that is taken was.
* `giveUp_of_ok`, `giveUp_of_failure`: the ends of the checks that are given up.
-/

namespace Vigil.Run

variable {probe : String} {hooks : Option Hooks} {deadline : Option Nat} {stuck : Bool}

/-- What collection records of an arrival: the index of its check and its result. -/
def Arrival.entry (a : Arrival) : Nat × CheckResult := (a.task.index, a.result)

/-- What is seen of the end of a check: its event, and the hook after it, if there are hooks. -/
def endSights (probe : String) (hooked : Bool) (e : Nat × CheckResult) : Trace :=
  .event (checkEnd probe e.1 e.2) :: if hooked then [.endHook probe e.1 e.2] else []

/-- The end of a check in terms of what the hook after it does. -/
theorem finishCheck_eq (now index : Nat) (result : CheckResult) :
    finishCheck probe hooks now index result =
      ⟨endSights probe hooks.isSome (index, result),
        now + (Hooks.actOf hooks (·.onEnd index)).delay,
        (Hooks.actOf hooks (·.onEnd index)).failure⟩ := by
  rw [finishCheck, Hooks.call_eq]
  rfl

/-! ### A wait for the deadline -/

/-- Waiting for the deadline takes nothing. -/
@[simp] theorem awaitDeadline_results (now : Nat) (waited : Bool) :
    (awaitDeadline deadline now waited).results = [] := by
  cases deadline <;> rfl

/-- Waiting for the deadline shows nothing. -/
@[simp] theorem awaitDeadline_trace (now : Nat) (waited : Bool) :
    (awaitDeadline deadline now waited).trace = [] := by
  cases deadline <;> rfl

/-- Waiting for the deadline ends at it, or never. -/
theorem awaitDeadline_closing (now : Nat) (waited : Bool) :
    (awaitDeadline deadline now waited).closing = if deadline.isSome then .deadline else .never := by
  cases deadline <;> rfl

/-! ### The queue -/

/-- Collection without its queue: the tasks one after another in the order in which they settle. -/
def walk (probe : String) (hooks : Option Hooks) (deadline : Option Nat) (stuck : Bool) :
    Nat → Bool → List Arrival → Collected
  | now, waited, [] =>
    if stuck then awaitDeadline deadline now waited else ⟨[], now, waited, [], .complete⟩
  | now, waited, a :: rest =>
    if isAtHand waited now a || settlesInTime deadline now a then
      let index := a.task.index
      let finish := finishCheck probe hooks (max now a.time) index a.result
      let waited := waited || !isAtHand waited now a
      match finish.failure with
      | some chain => ⟨finish.trace, finish.now, waited, [(index, a.result)], .hook chain⟩
      | none =>
        let later := walk probe hooks deadline stuck finish.now waited rest
        { later with
          trace := finish.trace ++ later.trace
          results := (index, a.result) :: later.results }
    else awaitDeadline deadline now waited

/-- What is taken is an initial part of the tasks. -/
theorem walk_results (now : Nat) (waited : Bool) (order : List Arrival) :
    (walk probe hooks deadline stuck now waited order).results =
      (order.take (walk probe hooks deadline stuck now waited order).results.length).map
        Arrival.entry := by
  fun_induction walk probe hooks deadline stuck now waited order with
  | case1 | case2 | case5 => simp
  | case3 => rfl
  | case4 now waited a rest _ _ _ _ _ later ih =>
      rw [List.length_cons, List.take_succ_cons, List.map_cons]
      exact congrArg (Arrival.entry a :: ·) ih

/-- What is at hand stays so. -/
theorem isAtHand_mono {waited later : Bool} {now now' : Nat} {a : Arrival}
    (hwaited : waited = true → later = true) (hnow : now ≤ now') (h : isAtHand waited now a = true) :
    isAtHand later now' a = true := by
  simp only [isAtHand, hasBegun, Bool.and_eq_true, Bool.or_eq_true, decide_eq_true_eq] at h ⊢
  refine ⟨h.1.imp hwaited fun hlt => ?_, Nat.le_trans h.2 hnow⟩
  exact Nat.lt_of_lt_of_le hlt hnow

namespace Pool

/-- The order in which the tasks of a pool settle: those in the queue have done so. -/
def order (p : Pool) : List Arrival := p.ready ++ p.running

/-- **The invariant of the loop.** Whoever is in the queue has settled. -/
def Queued (p : Pool) (waited : Bool) (now : Nat) : Prop :=
  ∀ a ∈ p.ready, isAtHand waited now a = true

variable {p : Pool} {waited : Bool} {now : Nat} {deadline : Option Nat}

/-- Who joins the queue keeps its place in the order of settling. -/
theorem order_refresh : (p.refresh waited now).order = p.order := by
  rw [order, refresh, List.append_assoc, List.takeWhile_append_dropWhile, order]

/-- Who joins the queue has settled. -/
theorem Queued.refresh (h : p.Queued waited now) : (p.refresh waited now).Queued waited now := by
  intro a ha
  rcases List.mem_append.mp ha with ha | ha
  · exact h a ha
  · exact List.all_eq_true.mp List.all_takeWhile a ha

/-- With an empty queue the next to settle has not settled yet. -/
theorem not_isAtHand_of_refresh {a : Arrival} {running : List Arrival}
    (h : p.refresh waited now = ⟨[], a :: running⟩) : isAtHand waited now a = false := by
  have hrunning : p.running.dropWhile (isAtHand waited now) = a :: running :=
    congrArg Pool.running h
  have hhead := List.head?_dropWhile_not (isAtHand waited now) p.running
  rw [hrunning] at hhead
  exact hhead

/-- Whoever is in the queue still is when time has passed. -/
theorem Queued.mono (h : p.Queued waited now) {later : Bool} {now' : Nat}
    (hwaited : waited = true → later = true) (hnow : now ≤ now') : p.Queued later now' :=
  fun a ha => isAtHand_mono hwaited hnow (h a ha)

/-- **The queue hands tasks over in the order of settling.** The task that is joined next is the first
to settle of those that are left, at once if it has settled and else after a wait. -/
theorem next?_of_order (deadline : Option Nat) (hq : p.Queued waited now) {a : Arrival}
    {rest : List Arrival} (h : p.order = a :: rest) :
    (isAtHand waited now a || settlesInTime deadline now a) = true ∧
        (∃ pool, pool.order = rest ∧ pool.Queued (waited || !isAtHand waited now a) (max now a.time) ∧
          p.next? deadline now waited =
            some ⟨a, max now a.time, waited || !isAtHand waited now a, pool⟩) ∨
      (isAtHand waited now a || settlesInTime deadline now a) = false ∧
        p.next? deadline now waited = none := by
  have hqueued := hq.refresh
  have horder : (p.refresh waited now).order = a :: rest := order_refresh.trans h
  rw [next?]
  cases hp : p.refresh waited now with
  | mk ready running =>
      rw [hp] at hqueued horder
      cases ready with
      | cons b ready =>
          obtain ⟨rfl, rfl⟩ := List.cons.inj horder
          have hhand := hqueued b List.mem_cons_self
          have htime : b.time ≤ now := of_decide_eq_true (Bool.and_eq_true_iff.mp hhand).2
          refine .inl ⟨by rw [hhand, Bool.true_or], ⟨ready, running⟩, rfl, ?_, ?_⟩
          · exact Queued.mono (fun c hc => hqueued c (List.mem_cons_of_mem _ hc))
              (fun hw => by rw [hw, Bool.true_or]) (Nat.le_max_left _ _)
          · simp [hhand, Nat.max_eq_left htime]
      | nil =>
          cases running with
          | nil => cases horder
          | cons b running =>
              obtain ⟨rfl, rfl⟩ := List.cons.inj horder
              have hhand := not_isAtHand_of_refresh hp
              cases htime : settlesInTime deadline now b with
              | true =>
                  exact .inl ⟨by rw [Bool.or_true], ⟨[], running⟩, rfl,
                    fun _ h => absurd h List.not_mem_nil, by simp [hhand, htime]⟩
              | false => exact .inr ⟨by rw [hhand, Bool.or_false], by simp [htime]⟩

end Pool

/-- **The loop takes the tasks in the order in which they settle**, however many queue up meanwhile. -/
theorem joinAll_eq_walk {left now : Nat} {waited : Bool} {p : Pool} (hleft : left = p.order.length)
    (hq : p.Queued waited now) :
    joinAll probe hooks deadline stuck left now waited p =
      walk probe hooks deadline stuck now waited p.order := by
  induction left generalizing now waited p with
  | zero => rw [List.length_eq_zero_iff.mp hleft.symm, joinAll, walk]
  | succ left ih =>
      obtain ⟨a, rest, horder⟩ := List.exists_cons_of_length_eq_add_one hleft.symm
      rw [joinAll, horder, walk]
      rcases Pool.next?_of_order deadline hq horder with
        ⟨hc, pool, hrest, hqueued, hnext⟩ | ⟨hc, hnext⟩
      · rw [hnext, if_pos hc]
        dsimp only
        cases (finishCheck probe hooks (max now a.time) a.task.index a.result).failure with
        | some chain => rfl
        | none =>
            -- the hook takes its time, and whoever is in the queue stays in it
            have hlater := hqueued.mono id (Nat.le_add_right _
              (Hooks.actOf hooks (·.onEnd a.task.index)).delay)
            have hrest' : left = pool.order.length := by
              rw [hrest]
              simpa [horder] using hleft
            rw [← hrest, ← ih hrest' (by rw [finishCheck_eq]; exact hlater)]
      · rw [hnext, if_neg (Bool.not_eq_true _ ▸ hc)]

/-- Collection in terms of the order in which the tasks settle. -/
theorem collect_eq_walk {now : Nat} {waited : Bool} {order : List Arrival} :
    collect probe hooks deadline stuck now waited order =
      walk probe hooks deadline stuck now waited order :=
  joinAll_eq_walk rfl fun _ h => absurd h List.not_mem_nil

/-! ### What is taken -/

/-- **What is taken is an initial part of the schedule.** -/
theorem collect_results (now : Nat) (waited : Bool) (order : List Arrival) :
    (collect probe hooks deadline stuck now waited order).results =
      (order.take (collect probe hooks deadline stuck now waited order).results.length).map
        Arrival.entry := by
  rw [collect_eq_walk]
  exact walk_results now waited order

/-- What is seen of collection are the ends of what it took. -/
theorem collect_trace (now : Nat) (waited : Bool) (order : List Arrival) :
    (collect probe hooks deadline stuck now waited order).trace =
      (collect probe hooks deadline stuck now waited order).results.flatMap
        (endSights probe hooks.isSome) := by
  simp only [collect_eq_walk]
  fun_induction walk probe hooks deadline stuck now waited order with
  | case1 | case2 | case5 => simp
  | case3 now waited a rest _ index finish =>
      simp only [finish, index, finishCheck_eq, List.flatMap_cons, List.flatMap_nil, List.append_nil]
  | case4 now waited a rest _ index finish _ _ later ih =>
      simp only [finish, index, finishCheck_eq, List.flatMap_cons]
      exact congrArg (endSights probe hooks.isSome (a.task.index, a.result) ++ ·) ih

/-- Collection does not turn back the clock. -/
theorem le_collect_now (now : Nat) (waited : Bool) (order : List Arrival) :
    now ≤ (collect probe hooks deadline stuck now waited order).now := by
  simp only [collect_eq_walk]
  fun_induction walk probe hooks deadline stuck now waited order with
  | case1 now waited | case5 now waited =>
      cases deadline with
      | none => exact Nat.le_refl _
      | some d => exact Nat.le_max_left _ _
  | case2 => exact Nat.le_refl _
  | case3 now waited a rest _ index finish =>
      simp only [finish, finishCheck_eq]
      omega
  | case4 now waited a rest _ index finish _ _ later ih =>
      refine Nat.le_trans ?_ ih
      simp only [finish, finishCheck_eq]
      omega

/-! ### The ways of closing -/

/-- Collection is complete when it has taken the whole schedule and no task is missing from it. -/
theorem collect_of_complete {now : Nat} {waited : Bool} {order : List Arrival}
    (h : (collect probe hooks deadline stuck now waited order).closing = .complete) :
    (collect probe hooks deadline stuck now waited order).results.length = order.length ∧
      stuck = false := by
  simp only [collect_eq_walk] at h ⊢
  fun_induction walk probe hooks deadline stuck now waited order with
  | case1 | case5 =>
      rw [awaitDeadline_closing] at h
      split at h <;> cases h
  | case2 now waited hs => exact ⟨rfl, Bool.eq_false_iff.mpr hs⟩
  | case3 => cases h
  | case4 now waited a rest _ _ _ _ _ later ih =>
      obtain ⟨hlen, hs⟩ := ih h
      exact ⟨congrArg (· + 1) hlen, hs⟩

/-- Collection goes on for ever only without a deadline, when a task is missing from the schedule. -/
theorem collect_of_never {now : Nat} {waited : Bool} {order : List Arrival}
    (h : (collect probe hooks deadline stuck now waited order).closing = .never) :
    deadline = none ∧ stuck = true := by
  simp only [collect_eq_walk] at h ⊢
  fun_induction walk probe hooks deadline stuck now waited order with
  | case1 now waited hs =>
      rw [awaitDeadline_closing] at h
      cases deadline with
      | none => exact ⟨rfl, hs⟩
      | some d => cases h
  | case2 | case3 => cases h
  | case4 now waited a rest _ _ _ _ _ later ih => exact ih h
  | case5 now waited a rest hc =>
      rw [awaitDeadline_closing] at h
      cases deadline with
      | none => simp [settlesInTime] at hc
      | some d => cases h

/-- Collection that a hook ends has the failing call at its end. -/
theorem collect_of_hook {now : Nat} {waited : Bool} {order : List Arrival} {chain : Chain}
    (h : (collect probe hooks deadline stuck now waited order).closing = .hook chain) :
    ∃ e, (collect probe hooks deadline stuck now waited order).results.getLast? = some e ∧
      (Hooks.actOf hooks (·.onEnd e.1)).failure = some chain := by
  simp only [collect_eq_walk] at h ⊢
  fun_induction walk probe hooks deadline stuck now waited order with
  | case1 | case5 =>
      rw [awaitDeadline_closing] at h
      split at h <;> cases h
  | case2 => cases h
  | case3 now waited a rest _ index finish _ chain' hf =>
      cases h
      simp only [finish, finishCheck_eq] at hf
      exact ⟨(index, a.result), rfl, hf⟩
  | case4 now waited a rest _ _ _ _ _ later ih =>
      obtain ⟨e, hlast, hf⟩ := ih h
      refine ⟨e, ?_, hf⟩
      rw [List.getLast?_cons, hlast]
      rfl

/-- Collection that the deadline ends has reached it, and something is left: tasks of the schedule, or
one that is missing from it. -/
theorem collect_of_deadline {now : Nat} {waited : Bool} {order : List Arrival}
    (h : (collect probe hooks deadline stuck now waited order).closing = .deadline) :
    (∃ d, deadline = some d ∧ d ≤ (collect probe hooks deadline stuck now waited order).now) ∧
      ((collect probe hooks deadline stuck now waited order).results.length < order.length ∨
        stuck = true) := by
  simp only [collect_eq_walk] at h ⊢
  fun_induction walk probe hooks deadline stuck now waited order with
  | case1 now waited hs =>
      rw [awaitDeadline_closing] at h
      cases deadline with
      | none => cases h
      | some d => exact ⟨⟨d, rfl, Nat.le_max_right _ _⟩, .inr hs⟩
  | case2 | case3 => cases h
  | case4 now waited a rest _ _ _ _ _ later ih =>
      obtain ⟨hd, hleft⟩ := ih h
      exact ⟨hd, hleft.imp_left Nat.succ_lt_succ⟩
  | case5 now waited a rest =>
      rw [awaitDeadline_closing] at h
      cases deadline with
      | none => cases h
      | some d => exact ⟨⟨d, rfl, Nat.le_max_right _ _⟩, .inl (by simp)⟩

/-! ### What is left at the deadline -/

/-- If a task is neither at hand nor settles before the deadline, none that may come after it is at
hand when the deadline is seen. -/
theorem not_isAtHand_of_head {now d : Nat} {waited : Bool} {a b : Arrival}
    (hhand : isAtHand waited now a = false) (htime : settlesInTime (some d) now a = false)
    (hab : b = a ∨ a.MayPrecede b) (hsince : a.task.since ≤ now) (hstart : a.task.since ≤ a.time) :
    isAtHand (waited || now < d) (max now d) b = false := by
  simp only [isAtHand, hasBegun, settlesInTime, Bool.and_eq_false_iff, Bool.or_eq_false_iff,
    decide_eq_false_iff_not, Nat.not_lt, Nat.not_le] at hhand htime ⊢
  have hle : a.time ≤ b.time := by
    rcases hab with rfl | hlt | ⟨heq, -⟩
    · exact Nat.le_refl _
    · exact Nat.le_of_lt hlt
    · exact Nat.le_of_eq heq
  rcases Nat.lt_or_ge now d with hnow | hnow
  · -- the run waits until the deadline, and `a` settles after it
    exact .inr (by omega)
  · -- the deadline is seen at once
    rcases hhand with ⟨hwaited, hbegun⟩ | hlate
    · rcases Nat.lt_or_ge now b.time with hb | hb
      · exact .inr (by omega)
      · refine .inl ⟨⟨hwaited, hnow⟩, ?_⟩
        rcases hab with rfl | hlt | ⟨heq, himm⟩
        · omega
        · omega
        · simp only [Arrival.immediate, decide_eq_true_eq] at himm
          have := himm (by omega)
          omega
    · exact .inr (by omega)

/-- **No task that is left at the deadline was at hand when it was seen.** -/
theorem not_isAtHand_of_mem_left {now : Nat} {waited : Bool} {order : List Arrival}
    (h : (collect probe hooks deadline stuck now waited order).closing = .deadline)
    (hsorted : order.Pairwise Arrival.MayPrecede) (hsince : ∀ a ∈ order, a.task.since ≤ now)
    (hstart : ∀ a ∈ order, a.task.since ≤ a.time) :
    ∀ a ∈ order.drop (collect probe hooks deadline stuck now waited order).results.length,
      isAtHand (collect probe hooks deadline stuck now waited order).waited
        (collect probe hooks deadline stuck now waited order).now a = false := by
  simp only [collect_eq_walk] at h ⊢
  fun_induction walk probe hooks deadline stuck now waited order with
  | case1 | case2 => simp
  | case3 => cases h
  | case4 now waited a rest _ index finish _ _ later ih =>
      rw [List.length_cons, List.drop_succ_cons]
      refine ih hsorted.of_cons (fun b hb => ?_) (fun b hb => hstart b (List.mem_cons_of_mem _ hb)) h
      have := hsince b (List.mem_cons_of_mem _ hb)
      simp only [finish, finishCheck_eq]
      omega
  | case5 now waited a rest hc =>
      rw [Bool.not_eq_true, Bool.or_eq_false_iff] at hc
      cases deadline with
      | none => simp [settlesInTime] at hc
      | some d =>
          intro b hb
          rw [awaitDeadline_results, List.length_nil, List.drop_zero] at hb
          refine not_isAtHand_of_head hc.1 hc.2 ?_ (hsince a List.mem_cons_self)
            (hstart a List.mem_cons_self)
          rcases List.mem_cons.mp hb with rfl | hb
          · exact .inl rfl
          · exact .inr (List.rel_of_pairwise_cons hsorted hb)

/-! ### What is taken was at hand -/

/-- A run that has waited remains one that has. -/
theorem collect_waited {now : Nat} {waited : Bool} {order : List Arrival} (h : waited = true) :
    (collect probe hooks deadline stuck now waited order).waited = true := by
  simp only [collect_eq_walk]
  fun_induction walk probe hooks deadline stuck now waited order with
  | case1 now waited | case5 now waited =>
      subst h
      cases deadline <;> rfl
  | case2 => exact h
  | case3 now waited a rest _ _ _ waited' => exact Bool.or_eq_true_iff.mpr (.inl h)
  | case4 now waited a rest _ _ _ waited' _ later ih =>
      exact ih (Bool.or_eq_true_iff.mpr (.inl h))

/-- After a task is taken it is at hand, by a wait for it if it was not before. -/
theorem isAtHand_of_taken (waited : Bool) (now delay : Nat) (a : Arrival) :
    isAtHand (waited || !isAtHand waited now a) (max now a.time + delay) a = true := by
  cases h : isAtHand waited now a with
  | true => exact isAtHand_mono (fun hw => Bool.or_eq_true_iff.mpr (.inl hw)) (by omega) h
  | false => simp [isAtHand, hasBegun]; omega

/-- **Every task that is taken was at hand by the time collection closed.** -/
theorem isAtHand_of_mem_taken (now : Nat) (waited : Bool) (order : List Arrival) :
    ∀ a ∈ order.take (collect probe hooks deadline stuck now waited order).results.length,
      isAtHand (collect probe hooks deadline stuck now waited order).waited
        (collect probe hooks deadline stuck now waited order).now a = true := by
  simp only [collect_eq_walk]
  fun_induction walk probe hooks deadline stuck now waited order with
  | case1 | case2 | case5 => simp
  | case3 now waited a rest _ index finish waited' =>
      simp only [finish, finishCheck_eq, List.length_cons, List.length_nil, List.take_succ_cons,
        List.take_zero, List.mem_singleton]
      rintro b rfl
      exact isAtHand_of_taken _ _ _ _
  | case4 now waited a rest _ index finish waited' _ later ih =>
      have hlater : collect probe hooks deadline stuck finish.now waited' rest = later := collect_eq_walk
      rw [List.length_cons, List.take_succ_cons]
      intro b hb
      rcases List.mem_cons.mp hb with rfl | hb
      · refine isAtHand_mono (fun h => hlater ▸ collect_waited h) (hlater ▸ le_collect_now _ _ _) ?_
        simp only [finish, finishCheck_eq]
        exact isAtHand_of_taken _ _ _ _
      · exact ih b hb

/-! ### Checks that are given up -/

/-- What is recorded of a check that is given up. -/
def cutOff (elapsed : Duration) (p : Nat × String) : Nat × CheckResult :=
  (p.1, .timedOut p.2 elapsed)

/-- Where no end hook fails all pending checks are given up, and their ends are seen in order. -/
theorem giveUp_of_ok {elapsed : Duration} {now : Nat} {left : List (Nat × String)}
    (h : (giveUp probe hooks elapsed now left).failure = none) :
    (giveUp probe hooks elapsed now left).results = left.map (cutOff elapsed) ∧
      (giveUp probe hooks elapsed now left).trace =
        (left.map (cutOff elapsed)).flatMap (endSights probe hooks.isSome) := by
  fun_induction giveUp probe hooks elapsed now left with
  | case1 => exact ⟨rfl, rfl⟩
  | case2 => cases h
  | case3 now index name rest result finish _ later ih =>
      obtain ⟨hresults, htrace⟩ := ih h
      simp only [finish, finishCheck_eq, List.map_cons, List.flatMap_cons]
      exact ⟨congrArg (cutOff elapsed (index, name) :: ·) hresults,
        congrArg (endSights probe hooks.isSome (cutOff elapsed (index, name)) ++ ·) htrace⟩

/-- Where an end hook fails the checks up to its own are seen to end, and the failing call is the last
thing that is seen. -/
theorem giveUp_of_failure {elapsed : Duration} {now : Nat} {left : List (Nat × String)} {chain : Chain}
    (h : (giveUp probe hooks elapsed now left).failure = some chain) :
    ∃ k p, left[k]? = some p ∧ (Hooks.actOf hooks (·.onEnd p.1)).failure = some chain ∧
      (giveUp probe hooks elapsed now left).trace =
        ((left.take (k + 1)).map (cutOff elapsed)).flatMap (endSights probe hooks.isSome) := by
  fun_induction giveUp probe hooks elapsed now left with
  | case1 => cases h
  | case2 now index name rest result finish chain' hf =>
      cases h
      simp only [finish, finishCheck_eq] at hf
      refine ⟨0, (index, name), rfl, hf, ?_⟩
      simp [finish, finishCheck_eq, cutOff, result]
  | case3 now index name rest result finish _ later ih =>
      obtain ⟨k, p, hp, hf, htrace⟩ := ih h
      refine ⟨k + 1, p, hp, hf, ?_⟩
      simp only [finish, finishCheck_eq, List.take_succ_cons, List.map_cons, List.flatMap_cons]
      exact congrArg (endSights probe hooks.isSome (cutOff elapsed (index, name)) ++ ·) htrace

end Vigil.Run
