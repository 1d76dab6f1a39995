import Vigil.Proofs.Run.Isolation

/-!
# How Long a Run Takes

Time passes in a run in two ways: hooks take theirs, and the run waits. What hooks take is read off
the trace (`Trace.hookTime`). All waiting lies before one instant, namely the deadline, or the last
time at which a task settles if every task settles (`WaitsEndBy`). Hooks may carry the clock past that
instant again and again, but from then on the run no longer waits. So the time that a run takes is
bounded by the two added up, whichever way the run goes.

Where hooks take no time nothing but waiting is left, and the time is exact.

## Main results

* `dispatch_now`, `giveUp_now`: dispatch and giving up take the time of their hooks.
* `collect_now_le`: collection waits until one instant at most, apart from its hooks.
* `Runner.elapsed_le`: the bound on whole runs, with the guarantee that the run returns.
* `Runner.elapsed_bounded`: the bounds by the budget and by the limits of the checks, and the exact
  time where hooks take none.
-/

namespace Vigil

/-- How long the hook takes that a sight is a call of. -/
def Sight.delay (hooks : Option Hooks) : Sight → Nat
  | .event _ => 0
  | .startHook _ _ index => (Hooks.actOf hooks (·.onStart index)).delay
  | .endHook _ index _ => (Hooks.actOf hooks (·.onEnd index)).delay

namespace Trace

/-- How long the hooks take whose calls a trace shows, all together. -/
def hookTime (hooks : Option Hooks) : Trace → Nat
  | [] => 0
  | sight :: t => sight.delay hooks + hookTime hooks t

variable {hooks : Option Hooks}

@[simp] theorem hookTime_nil : hookTime hooks [] = 0 := rfl

@[simp] theorem hookTime_cons (sight : Sight) (t : Trace) :
    hookTime hooks (sight :: t) = sight.delay hooks + hookTime hooks t := rfl

@[simp] theorem hookTime_append (t u : Trace) :
    hookTime hooks (t ++ u) = hookTime hooks t + hookTime hooks u := by
  induction t with
  | nil => exact (Nat.zero_add _).symm
  | cons sight t ih =>
      rw [List.cons_append, hookTime_cons, hookTime_cons, ih, Nat.add_assoc]

/-- Hooks that are idle take no time. -/
theorem hookTime_of_idle (h : Hooks.Idle hooks) (t : Trace) : hookTime hooks t = 0 := by
  induction t with
  | nil => rfl
  | cons sight t ih =>
      rw [hookTime_cons, ih]
      cases sight with
      | event => rfl
      | startHook _ _ index => rw [Sight.delay, (h index).1]
      | endHook _ index _ => rw [Sight.delay, (h index).2]

end Trace

namespace Run

variable {probe : String} {hooks : Option Hooks} {deadline : Option Nat} {stuck : Bool}

/-! ### The time of hooks -/

/-- The end of a check takes the time of the hook after it. -/
theorem hookTime_endSights (e : Nat × CheckResult) :
    Trace.hookTime hooks (endSights probe hooks.isSome e) =
      (Hooks.actOf hooks (·.onEnd e.1)).delay := by
  cases hooks with
  | none => rfl
  | some hooks => simp [endSights, Sight.delay]

/-- Dispatch takes the time of its hooks. -/
theorem dispatch_now (index now : Nat) (checks : List (Check × Nat)) :
    (dispatch probe hooks index now checks).now =
      now + Trace.hookTime hooks (dispatch probe hooks index now checks).trace := by
  have hcall (name : String) (index : Nat) :
      Trace.hookTime hooks (if hooks.isSome then [.startHook probe name index] else []) =
        (Hooks.actOf hooks (·.onStart index)).delay := by
    cases hooks with
    | none => rfl
    | some hooks => simp [Sight.delay]
  induction checks generalizing index now with
  | nil => rfl
  | cons head rest ih =>
      rw [dispatch, Hooks.call_eq]
      cases hf : (Hooks.actOf hooks (·.onStart index)).failure with
      | some chain => simp only [hcall]
      | none =>
          simp only [ih, Trace.hookTime_append, Trace.hookTime_cons, hcall, Sight.delay]
          omega

/-- Giving up takes the time of its hooks. -/
theorem giveUp_now (elapsed : Duration) (now : Nat) (left : List (Nat × String)) :
    (giveUp probe hooks elapsed now left).now =
      now + Trace.hookTime hooks (giveUp probe hooks elapsed now left).trace := by
  fun_induction giveUp probe hooks elapsed now left with
  | case1 => rfl
  | case2 now index name rest result finish =>
      simp only [finish, finishCheck_eq, hookTime_endSights]
  | case3 now index name rest result finish _ later ih =>
      have hfinish : finish.now = now + Trace.hookTime hooks finish.trace := by
        simp only [finish, finishCheck_eq, hookTime_endSights]
      have hlater : later.now = finish.now + Trace.hookTime hooks later.trace := ih
      rw [Trace.hookTime_append, ← Nat.add_assoc, ← hfinish]
      exact hlater

/-! ### Waiting -/

/-- No wait of collection ends after an instant: the deadline comes by then, or every task settles by
then. -/
def WaitsEndBy (deadline : Option Nat) (stuck : Bool) (order : List Arrival) (limit : Nat) : Prop :=
  (∃ d, deadline = some d ∧ d ≤ limit) ∨ (stuck = false ∧ ∀ a ∈ order, a.time ≤ limit)

namespace WaitsEndBy

variable {a : Arrival} {rest : List Arrival} {limit later now : Nat} {waited : Bool}

/-- What holds of an instant holds of every later one. -/
theorem mono {order : List Arrival} (h : WaitsEndBy deadline stuck order limit)
    (hle : limit ≤ later) : WaitsEndBy deadline stuck order later := by
  rcases h with ⟨d, hd, hlimit⟩ | ⟨hs, hall⟩
  · exact .inl ⟨d, hd, Nat.le_trans hlimit hle⟩
  · exact .inr ⟨hs, fun a ha => Nat.le_trans (hall a ha) hle⟩

theorem of_cons (h : WaitsEndBy deadline stuck (a :: rest) limit) :
    WaitsEndBy deadline stuck rest limit :=
  h.imp_right fun ⟨hs, hall⟩ => ⟨hs, fun b hb => hall b (List.mem_cons_of_mem _ hb)⟩

/-- A task that is taken has been waited for no longer than that. -/
theorem time_le (h : WaitsEndBy deadline stuck (a :: rest) limit) (hnow : now ≤ limit)
    (htaken : (isAtHand waited now a || settlesInTime deadline now a) = true) : a.time ≤ limit := by
  rcases h with ⟨d, rfl, hd⟩ | ⟨-, hall⟩
  · simp only [isAtHand, settlesInTime, Bool.or_eq_true, Bool.and_eq_true, decide_eq_true_eq]
      at htaken
    omega
  · exact hall a List.mem_cons_self

/-- Where no task is missing the deadline is awaited only if some task settles after it, so that this
wait, too, ends by then. -/
theorem awaitDeadline_now_le {order : List Arrival} (h : WaitsEndBy deadline stuck order limit)
    (hnow : now ≤ limit) (hleft : stuck = true ∨ ∃ a ∈ order, settlesInTime deadline now a = false) :
    (awaitDeadline deadline now waited).now ≤ limit := by
  rcases h with ⟨d, rfl, hd⟩ | ⟨hs, hall⟩
  · exact Nat.max_le.mpr ⟨hnow, hd⟩
  · obtain ⟨a, ha, hlate⟩ := hleft.resolve_left (by rw [hs]; exact Bool.false_ne_true)
    have htime := hall a ha
    cases deadline with
    | none => cases hlate
    | some d =>
        simp only [settlesInTime, Bool.and_eq_false_iff, decide_eq_false_iff_not] at hlate
        exact Nat.max_le.mpr ⟨hnow, by omega⟩

end WaitsEndBy

/-- **Collection waits until that instant at most.** The rest of its time is that of its hooks. -/
theorem collect_now_le {now : Nat} {waited : Bool} {order : List Arrival} : ∀ limit,
    WaitsEndBy deadline stuck order limit → now ≤ limit →
      (collect probe hooks deadline stuck now waited order).now ≤
        limit + Trace.hookTime hooks (collect probe hooks deadline stuck now waited order).trace := by
  -- each hook moves the instant by its own time, so that the clock stays behind it
  simp only [collect_eq_walk]
  fun_induction walk probe hooks deadline stuck now waited order with
  | case1 now waited hs =>
      intro limit h hnow
      rw [awaitDeadline_trace, Trace.hookTime_nil]
      exact h.awaitDeadline_now_le hnow (.inl hs)
  | case2 =>
      intro limit h hnow
      exact hnow
  | case3 now waited a rest htaken index finish =>
      intro limit h hnow
      have htime := h.time_le hnow htaken
      simp only [finish, finishCheck_eq, hookTime_endSights]
      omega
  | case4 now waited a rest htaken index finish _ _ later ih =>
      intro limit h hnow
      have htime := h.time_le hnow htaken
      have hfinish : finish.now ≤ limit + Trace.hookTime hooks finish.trace := by
        simp only [finish, finishCheck_eq, hookTime_endSights]
        omega
      rw [Trace.hookTime_append, ← Nat.add_assoc]
      exact ih _ (h.of_cons.mono (Nat.le_add_right _ _)) hfinish
  | case5 now waited a rest htaken =>
      intro limit h hnow
      rw [Bool.not_eq_true, Bool.or_eq_false_iff] at htaken
      rw [awaitDeadline_trace, Trace.hookTime_nil]
      exact h.awaitDeadline_now_le hnow (.inr ⟨a, List.mem_cons_self, htaken.2⟩)

/-- Collection does not go on for ever if its waits end. -/
theorem collect_closing_ne_never {limit now : Nat} {waited : Bool} {order : List Arrival}
    (h : WaitsEndBy deadline stuck order limit) :
    (collect probe hooks deadline stuck now waited order).closing ≠ .never := by
  intro hc
  obtain ⟨hnone, hs⟩ := collect_of_never hc
  rcases h with ⟨d, hd, -⟩ | ⟨hs', -⟩
  · rw [hnone] at hd
    cases hd
  · rw [hs] at hs'
    cases hs'

/-- Where hooks are idle a complete collection ends when it began or when one of its tasks settles. -/
theorem collect_now_of_complete (h : Hooks.Idle hooks) {now : Nat} {waited : Bool}
    {order : List Arrival}
    (hc : (collect probe hooks deadline stuck now waited order).closing = .complete) :
    (collect probe hooks deadline stuck now waited order).now = now ∨
      ∃ a ∈ order, (collect probe hooks deadline stuck now waited order).now = a.time := by
  simp only [collect_eq_walk] at hc ⊢
  fun_induction walk probe hooks deadline stuck now waited order with
  | case1 | case5 =>
      rw [awaitDeadline_closing] at hc
      split at hc <;> cases hc
  | case2 => exact .inl rfl
  | case3 => cases hc
  | case4 now waited a rest _ index finish _ _ later ih =>
      have hfinish : finish.now = max now a.time := by
        simp only [finish, finishCheck_eq, (h _).2, Nat.add_zero]
      rcases ih hc with hnow | ⟨b, hb, hnow⟩
      · rcases Nat.le_total a.time now with hle | hle
        · exact .inl (hnow.trans (hfinish.trans (Nat.max_eq_left hle)))
        · exact .inr ⟨a, List.mem_cons_self, hnow.trans (hfinish.trans (Nat.max_eq_right hle))⟩
      · exact .inr ⟨b, List.mem_cons_of_mem _ hb, hnow⟩

end Run

/-- A call of a check settles, and within the budget if there is one. -/
def Check.SettlesWithin (c : Check) (call : Nat) (budget : Option Duration) : Prop :=
  ∃ delay, c.settlesAfter call = some delay ∧ ∀ b, budget = some b → delay ≤ b.nanos

/-- The upcoming call that settles last does so after that time. -/
def Probe.SettlesLastAfter (probe : Probe) (calls : List Nat) (time : Nat) : Prop :=
  (∃ p ∈ probe.upcoming calls, p.1.settlesAfter p.2 = some time) ∧
    ∀ p ∈ probe.upcoming calls, ∀ delay, p.1.settlesAfter p.2 = some delay → delay ≤ time

/-- Every check of a probe limits the time of its calls, and none to more than that. -/
def Probe.LimitedTo (probe : Probe) (limit : Nat) : Prop :=
  ∀ c ∈ probe.checks, ∃ l, c.limit = some l ∧ l.nanos ≤ limit

namespace Runner

open Run

variable {r : Runner} {probe : Probe} {calls : List Nat}
  {s : Schedule (r.dispatched probe calls).tasks}

/-! ### The bound -/

/-- **A run whose waits end by an instant after dispatch returns**, and the time that it takes is at
most the time up to then and that of its hooks. -/
theorem elapsed_le {limit : Nat}
    (h : WaitsEndBy (r.deadline? (r.dispatched probe calls))
      ((r.dispatched probe calls).tasks.any fun t => t.settles.isNone) s.order
      ((r.dispatched probe calls).now + limit)) :
    (r.runInOrder probe calls s).result ≠ .never ∧
      (r.runInOrder probe calls s).elapsed ≤
        limit + (r.runInOrder probe calls s).trace.hookTime r.hooks := by
  have hdispatch : (r.dispatched probe calls).now =
      0 + Trace.hookTime r.hooks (r.dispatched probe calls).trace := dispatch_now _ _ _
  have hcollect : (r.collected probe (r.dispatched probe calls) s).now ≤
      (r.dispatched probe calls).now + limit + Trace.hookTime r.hooks
        (r.collected probe (r.dispatched probe calls) s).trace :=
    collect_now_le _ h (Nat.le_add_right _ _)
  have hreturns : (r.collected probe (r.dispatched probe calls) s).closing ≠ .never :=
    collect_closing_ne_never h
  have hgive : (r.givenUp probe (r.collected probe (r.dispatched probe calls) s)).now =
      (r.collected probe (r.dispatched probe calls) s).now + Trace.hookTime r.hooks
        (r.givenUp probe (r.collected probe (r.dispatched probe calls) s)).trace :=
    giveUp_now _ _ _
  have hcourse := r.course_runInOrder probe calls s
  generalize r.runInOrder probe calls s = run at hcourse
  cases hcourse with
  | never _ hc => exact absurd hc hreturns
  | startFailed | panicked | complete | endFailed | timedOut | givingUpFailed | givenUp =>
      refine ⟨nofun, ?_⟩
      simp only [Trace.hookTime_cons, Trace.hookTime_append, Trace.hookTime_nil, List.cons_append,
        Sight.delay]
      omega

/-- The waits of a run under a budget end by the deadline. -/
theorem waitsEndBy_of_timeout {budget : Duration} (ht : r.timeout = some budget) {stuck : Bool}
    {order : List Arrival} :
    WaitsEndBy (r.deadline? (r.dispatched probe calls)) stuck order
      ((r.dispatched probe calls).now + budget.nanos) :=
  .inl ⟨_, by rw [deadline?, ht]; rfl, Nat.le_refl _⟩

/-- The waits of a run end when the last call has settled, if all calls settle. -/
theorem waitsEndBy_of_settlesAfter {limit : Nat}
    (h : ∀ p ∈ probe.upcoming calls, ∃ delay, p.1.settlesAfter p.2 = some delay ∧ delay ≤ limit) :
    WaitsEndBy (r.deadline? (r.dispatched probe calls))
      ((r.dispatched probe calls).tasks.any fun t => t.settles.isNone) s.order
      ((r.dispatched probe calls).now + limit) := by
  refine .inr ⟨any_isNone_of_settles fun p hp => ?_, fun a ha => ?_⟩
  · obtain ⟨delay, hdelay, -⟩ := h p hp
    rw [hdelay]
    rfl
  · obtain ⟨t, ht, hta⟩ := s.mem_order_iff.mp ha
    obtain ⟨hup, hwork⟩ := upcoming_of_task ht
    obtain ⟨delay, hdelay, htime⟩ := Arrival.settlesAfter_eq hta hwork
    obtain ⟨delay', hdelay', hle⟩ := h _ hup
    obtain rfl := Option.some.inj (hdelay.symm.trans hdelay')
    have hsince : t.since ≤ (r.dispatched probe calls).now := (dispatch_since ht).2
    omega

/-- Calls that are limited settle within the largest limit. -/
theorem settlesAfter_of_limitedTo {limit : Nat} (h : probe.LimitedTo limit) :
    ∀ p ∈ probe.upcoming calls, ∃ delay, p.1.settlesAfter p.2 = some delay ∧ delay ≤ limit := by
  intro p hp
  obtain ⟨⟨c, index⟩, hc, rfl⟩ := List.mem_map.mp hp
  obtain ⟨l, hl, hle⟩ := h c (List.mem_of_getElem? (List.mem_zipIdx_iff_getElem?.mp hc))
  refine ⟨_, Check.settlesAfter_of_limit hl _, ?_⟩
  cases (c.work (calls.getD index 0)).delay with
  | none => exact hle
  | some delay => exact Nat.le_trans (Nat.min_le_right _ _) hle

/-! ### The time where hooks take none -/

/-- Where hooks are idle a run that does not panic comes to collection. -/
theorem collects_of_ne_panicked (h : Hooks.Idle r.hooks)
    (hnot : (r.runInOrder probe calls s).result ≠ .panicked) :
    r.Collects (r.dispatched probe calls) s.begins := by
  have hd : (r.dispatched probe calls).failure = none := dispatched_of_neverFail h.neverFail
  exact ⟨hd, Bool.eq_false_iff.mpr fun ho => hnot (panicked_iff.mpr ⟨hd, ho⟩)⟩

/-- Where hooks are idle a run that comes to collection ends when that does. -/
theorem elapsed_of_idle (h : Hooks.Idle r.hooks) (hd : r.Collects (r.dispatched probe calls) s.begins) :
    (r.runInOrder probe calls s).elapsed =
      (r.collected probe (r.dispatched probe calls) s).now := by
  have hgive : (r.givenUp probe (r.collected probe (r.dispatched probe calls) s)).now =
      (r.collected probe (r.dispatched probe calls) s).now := by
    rw [givenUp, giveUp_now, Trace.hookTime_of_idle h, Nat.add_zero]
  have hcourse := r.course_runInOrder probe calls s
  generalize r.runInOrder probe calls s = run at hcourse
  cases hcourse with
  | startFailed hd' =>
      rw [hd.dispatched] at hd'
      cases hd'
  | panicked _ ho =>
      rw [hd.onClock] at ho
      cases ho
  | complete | never | endFailed | timedOut => rfl
  | givingUpFailed | givenUp => exact hgive

/-- A run of no checks takes no time, apart from its hooks. -/
theorem elapsed_of_nil (h : Hooks.Idle r.hooks) (hnil : probe.checks = []) :
    (r.runInOrder probe calls s).elapsed = 0 := by
  have hnone : ∀ p ∈ probe.upcoming calls, ∃ delay, p.1.settlesAfter p.2 = some delay ∧
      delay ≤ 0 := by
    intro p hp
    simp [Probe.upcoming, hnil] at hp
  have hle := (elapsed_le (s := s) (waitsEndBy_of_settlesAfter hnone)).2
  rw [Trace.hookTime_of_idle h] at hle
  exact Nat.le_zero.mp hle

/-- Where hooks are idle a run that comes to its deadline takes the budget. -/
theorem elapsed_of_deadline (h : Hooks.Idle r.hooks)
    (hd : r.Collects (r.dispatched probe calls) s.begins) {budget : Duration}
    (ht : r.timeout = some budget)
    (hc : (r.collected probe (r.dispatched probe calls) s).closing = .deadline) :
    (r.runInOrder probe calls s).elapsed = budget.nanos := by
  have hle := (elapsed_le (s := s) (waitsEndBy_of_timeout ht)).2
  rw [Trace.hookTime_of_idle h, Nat.add_zero] at hle
  have hge := deadline_le_now ht hc
  rw [dispatched_now_of_idle h, Nat.zero_add, ← elapsed_of_idle h hd] at hge
  exact Nat.le_antisymm hle hge

/-- Where hooks are idle and collection is complete every upcoming call has settled, at a time at which
its task was taken. -/
theorem exists_taken_of_upcoming (h : Hooks.Idle r.hooks)
    (hc : (r.collected probe (r.dispatched probe calls) s).closing = .complete) {p : Check × Nat}
    (hp : p ∈ probe.upcoming calls) :
    ∃ a ∈ s.order.take (r.collected probe (r.dispatched probe calls) s).results.length,
      p.1.settlesAfter p.2 = some a.time := by
  obtain ⟨c, n⟩ := p
  obtain ⟨i, hi⟩ := List.getElem?_of_mem hp
  have hd : (r.dispatched probe calls).failure = none := dispatched_of_neverFail h.neverFail
  obtain ⟨t, hmem, rfl, rfl, hwork⟩ := exists_task_of_upcoming hd hi
  have hindex := (List.getElem?_eq_some_iff.mp (getElem?_of_mem_dispatched hmem)).1
  rw [length_dispatched hd] at hindex
  obtain ⟨a, ha, hta⟩ := exists_arrival_of_collected hmem (mem_collected_of_complete hd hc hindex)
  obtain ⟨delay, hdelay, htime⟩ := Arrival.settlesAfter_eq hta hwork
  rw [since_of_idle h hmem, Nat.zero_add] at htime
  exact ⟨a, ha, htime ▸ hdelay⟩

/-- Where hooks are idle the run comes to its deadline if some call does not settle by then. -/
theorem closing_of_late (h : Hooks.Idle r.hooks) {budget : Duration} (ht : r.timeout = some budget)
    {p : Check × Nat} (hp : p ∈ probe.upcoming calls) (hlate : ¬p.1.SettlesWithin p.2 r.timeout) :
    (r.collected probe (r.dispatched probe calls) s).closing = .deadline := by
  refine (closing_of_neverFail h.neverFail ht).resolve_left fun hc => hlate ?_
  -- the task would be taken, hence settle by the deadline
  obtain ⟨a, ha, hsettles⟩ := exists_taken_of_upcoming h hc hp
  have hnow : (r.dispatched probe calls).now = 0 := dispatched_now_of_idle h
  have hdeadline : r.deadline? (r.dispatched probe calls) = some budget.nanos := by
    rw [deadline?, ht, hnow, Option.map_some, Nat.zero_add]
  have hle := time_le_of_mem_taken h hdeadline (by rw [hnow]; exact Nat.zero_le _) a ha
  refine ⟨a.time, hsettles, fun b hb => ?_⟩
  obtain rfl := Option.some.inj (ht.symm.trans hb)
  exact hle

/-- Where hooks are idle and collection is complete the run takes as long as the call that settles
last. -/
theorem elapsed_of_complete (h : Hooks.Idle r.hooks)
    (hd : r.Collects (r.dispatched probe calls) s.begins) (hne : probe.checks ≠ [])
    (hc : (r.collected probe (r.dispatched probe calls) s).closing = .complete) :
    probe.SettlesLastAfter calls (r.runInOrder probe calls s).elapsed := by
  rw [elapsed_of_idle h hd]
  have hle : ∀ p ∈ probe.upcoming calls, ∃ delay, p.1.settlesAfter p.2 = some delay ∧
      delay ≤ (r.collected probe (r.dispatched probe calls) s).now := by
    intro p hp
    obtain ⟨a, ha, hsettles⟩ := exists_taken_of_upcoming h hc hp
    have hhand := isAtHand_of_mem_taken _ _ _ a ha
    simp only [isAtHand, Bool.and_eq_true, decide_eq_true_eq] at hhand
    exact ⟨a.time, hsettles, hhand.2⟩
  constructor
  · rcases collect_now_of_complete h hc with hnow | ⟨a, ha, hnow⟩
    · -- every call settles at once, and there is one
      obtain ⟨p, hp⟩ : ∃ p, p ∈ probe.upcoming calls :=
        List.exists_mem_of_ne_nil _ (by simp [Probe.upcoming, hne])
      obtain ⟨delay, hdelay, hlt⟩ := hle p hp
      have hzero : (r.collected probe (r.dispatched probe calls) s).now = 0 :=
        hnow.trans (dispatched_now_of_idle h)
      rw [hzero, Nat.le_zero] at hlt
      exact ⟨p, hp, by rw [hdelay, hlt, hzero]⟩
    · obtain ⟨t, ht, hta⟩ := s.mem_order_iff.mp ha
      obtain ⟨hup, hwork⟩ := upcoming_of_task ht
      obtain ⟨delay, hdelay, htime⟩ := Arrival.settlesAfter_eq hta hwork
      rw [since_of_idle h ht, Nat.zero_add] at htime
      exact ⟨_, hup, hdelay.trans (congrArg some (hnow.trans htime).symm)⟩
  · intro p hp delay hdelay
    obtain ⟨delay', hdelay', hlt⟩ := hle p hp
    obtain rfl := Option.some.inj (hdelay.symm.trans hdelay')
    exact hlt

/-- Where hooks are idle and every call settles by the deadline the run takes as long as the one that
settles last, also if that settles at the very instant of the deadline. -/
theorem elapsed_of_settles (h : Hooks.Idle r.hooks)
    (hd : r.Collects (r.dispatched probe calls) s.begins) (hne : probe.checks ≠ [])
    (hall : ∀ p ∈ probe.upcoming calls, p.1.SettlesWithin p.2 r.timeout) :
    probe.SettlesLastAfter calls (r.runInOrder probe calls s).elapsed := by
  cases ht : r.timeout with
  | none =>
      refine elapsed_of_complete h hd hne (closing_of_noTimeout h.neverFail ht fun p hp => ?_)
      obtain ⟨delay, hdelay, -⟩ := hall p hp
      rw [hdelay]
      rfl
  | some budget =>
      rcases closing_of_neverFail (s := s) h.neverFail ht with hc | hc
      · exact elapsed_of_complete h hd hne hc
      rw [elapsed_of_deadline h hd ht hc]
      constructor
      · -- some task had not settled before the deadline, so it settles at it
        obtain ⟨t, hmem, hlate⟩ := exists_late_of_deadline h.neverFail ht hc
        obtain ⟨hup, hwork⟩ := upcoming_of_task hmem
        obtain ⟨delay, hdelay, hle⟩ := hall _ hup
        obtain ⟨⟨delay', ending⟩, hsettling, rfl⟩ := Option.map_eq_some_iff.mp hdelay
        have hge := hlate (t.since + delay') ending (by rw [Task.settles, hwork, hsettling]; rfl)
        rw [dispatched_now_of_idle h, since_of_idle h hmem, Nat.zero_add, Nat.zero_add] at hge
        exact ⟨_, hup, hdelay.trans (congrArg some (Nat.le_antisymm (hle budget ht) hge))⟩
      · intro p hp delay hdelay
        obtain ⟨delay', hdelay', hle⟩ := hall p hp
        obtain rfl := Option.some.inj (hdelay.symm.trans hdelay')
        exact hle budget ht

/-- **The time of a run is bounded by its budget.** Whatever the checks do, hanging among them, and in
whichever order the tasks settle, a run with a budget ends, and it takes at most the budget and the
time of the hooks that it calls, whether it ends with a report, for lack of time or for a hook. Where
hooks take no time and never fail the time is exact: none for no checks, the budget if some call does
not settle within it, and otherwise the time of the call that settles last. If every check limits the
time of its calls a run returns without a budget, too, and it takes at most the largest limit and the
time of its hooks.

A run panics exactly if it has dispatched all checks and its budget reaches past the end of the machine's
clock. This takes no more time than its hooks. -/
theorem elapsed_bounded (r : Runner) (probe : Probe) (calls : List Nat)
    (s : Schedule (r.dispatched probe calls).tasks) :
    let run := r.runInOrder probe calls s
    (run.result = .panicked ↔ (r.dispatched probe calls).failure = none ∧
        ∃ budget, r.timeout = some budget ∧
          clockEnd ≤ s.begins + ((r.dispatched probe calls).now + budget.nanos)) ∧
      (∀ budget, r.timeout = some budget →
        run.result ≠ .never ∧ run.elapsed ≤ budget.nanos + run.trace.hookTime r.hooks) ∧
      (Hooks.Idle r.hooks →
        (probe.checks = [] ∨ run.result = .panicked → run.elapsed = 0) ∧
        (run.result ≠ .panicked →
          (∀ budget, r.timeout = some budget →
            (∃ p ∈ probe.upcoming calls, ¬p.1.SettlesWithin p.2 r.timeout) →
            run.elapsed = budget.nanos) ∧
          (probe.checks ≠ [] → (∀ p ∈ probe.upcoming calls, p.1.SettlesWithin p.2 r.timeout) →
            probe.SettlesLastAfter calls run.elapsed))) ∧
      ∀ limit, probe.LimitedTo limit →
        run.result ≠ .never ∧ run.elapsed ≤ limit + run.trace.hookTime r.hooks := by
  intro run
  refine ⟨panicked_iff.trans (and_congr_right fun _ => ?_),
    fun budget ht => elapsed_le (waitsEndBy_of_timeout ht), fun h => ⟨?_, fun hnot => ?_⟩,
    fun limit hlimit => elapsed_le (waitsEndBy_of_settlesAfter (settlesAfter_of_limitedTo hlimit))⟩
  · cases ht : r.timeout <;> simp [overruns, deadline?, ht]
  · rintro (hnil | hpanicked)
    · exact elapsed_of_nil h hnil
    · obtain ⟨hd, ho⟩ := panicked_iff.mp hpanicked
      exact (runInOrder_of_overruns hd ho).2.2.trans (dispatched_now_of_idle h)
  · have hd := collects_of_ne_panicked h hnot
    refine ⟨fun budget ht hsome => ?_, elapsed_of_settles h hd⟩
    obtain ⟨p, hp, hlate⟩ := hsome
    exact elapsed_of_deadline h hd ht (closing_of_late h ht hp hlate)

/-! ### Functions that hang -/

/-- Two functions, one of which hangs. -/
def halting : Probe where
  name := "warmup"
  checks := [
    .function "cache" (.clamp 6) fun _ => ⟨some 2, .concluded (.ok .ok)⟩,
    .function "index" (.clamp 9) fun _ => .never]

/-- A runner without a budget, whose hooks take their time. -/
def patient : Runner where
  hooks := some ⟨fun _ => { delay := 3 }, fun _ => { delay := 20 }⟩

/-- The tasks settle in the order of their checks. -/
def haltingOrder : Schedule (patient.dispatched halting []).tasks where
  order := (patient.dispatched halting []).tasks.filterMap Arrival.ofTask?
  perm := .refl _
  inTime := .cons (fun b hb => by
    obtain rfl := List.mem_singleton.mp hb
    exact .inl (by decide)) (List.pairwise_singleton _ _)

/-- A run without a budget returns although a function hangs, and it takes at most the larger of the
two limits and the time of its four hooks. -/
theorem elapsed_bounded_halting :
    halting.LimitedTo 9 ∧ (patient.runInOrder halting [] haltingOrder).result ≠ .never ∧
      (patient.runInOrder halting [] haltingOrder).elapsed ≤ 9 + 46 := by
  have hlimit : halting.LimitedTo 9 := by
    intro c hc
    simp only [halting, List.mem_cons, List.not_mem_nil, or_false] at hc
    rcases hc with rfl | rfl
    · exact ⟨_, rfl, by decide⟩
    · exact ⟨_, rfl, by decide⟩
  have htime : (patient.runInOrder halting [] haltingOrder).trace.hookTime patient.hooks = 46 := rfl
  obtain ⟨hreturns, hle⟩ := (elapsed_bounded patient halting [] haltingOrder).2.2.2 9 hlimit
  rw [htime] at hle
  exact ⟨hlimit, hreturns, hle⟩

end Runner

end Vigil
