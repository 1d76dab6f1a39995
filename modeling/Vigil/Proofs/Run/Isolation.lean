import Vigil.Proofs.Run.Deadline

/-!
# Isolation of Checks

Where no hook waits or fails, what a report says of a check is a matter of that check alone: its own
result if it settles within the budget of the run, and that the probe timed out otherwise. The closed
form is `Check.finding`, which knows neither the other checks nor the order in which tasks settle. So
two runs agree on each check that they have in common, whatever stands beside it.

A check that settles at the very instant of the deadline is left out, because there the order in which
the run is woken decides.

## Main results

* `Run.time_le_of_mem_taken`: where hooks take no time nothing is collected after the deadline.
* `Runner.Unhindered.finding_eq`: an entry of a report is the closed form of its check.
* `Runner.checks_isolated`: what two runs say of one check, and their verdicts.
-/

namespace Vigil

/-- What a result says of its check, the time that it took left aside. -/
structure Finding where
  name : String
  healthy : Bool
  detail : Option String
  deriving DecidableEq, Repr

/-- What a result says of its check. -/
def CheckResult.finding (result : CheckResult) : Finding :=
  ⟨result.name, result.healthy, result.detail⟩

/-- What an ending says of the check of that name. -/
def Ending.finding (name : String) : Ending → Finding
  | .concluded (.ok outcome) => ⟨name, outcome.healthy, outcome.detail⟩
  | .concluded (.error chain) => ⟨name, false, some chain.text⟩
  | .panicked (some message) => ⟨name, false, some ("Check panicked: " ++ message)⟩
  | .panicked none => ⟨name, false, some "Check panicked"⟩

namespace Check

/-- How long after its dispatch a call of a check settles, if it ever does. -/
def settlesAfter (c : Check) (call : Nat) : Option Nat := (c.settling (c.work call)).map Prod.fst

/-- What a check comes to by itself: the ending of its call if that settles within the budget, and
that the probe timed out otherwise. -/
def finding (c : Check) (budget : Option Duration) (call : Nat) : Finding :=
  match c.settling (c.work call) with
  | none => ⟨c.name, false, some probeTimeoutDetail⟩
  | some (delay, ending) =>
    if budget.all (delay < ·.nanos) then ending.finding c.name
    else ⟨c.name, false, some probeTimeoutDetail⟩

/-- A check whose calls are limited settles when its work is done or the limit is reached, whichever
comes first. -/
theorem settlesAfter_of_limit {c : Check} {limit : Duration} (h : c.limit = some limit) (call : Nat) :
    c.settlesAfter call =
      some (((c.work call).delay.map (min · limit.nanos)).getD limit.nanos) := by
  rw [settlesAfter, settling, h]
  cases (c.work call).delay with
  | none => rfl
  | some delay =>
      simp only [Option.map_some, Option.getD_some]
      split
      next hle => rw [Option.map_some, Nat.min_eq_left hle]
      next hlt => rw [Option.map_some, Nat.min_eq_right (by omega)]

end Check

/-- The checks of a probe with the number of calls of each begun before. -/
def Probe.upcoming (probe : Probe) (calls : List Nat) : List (Check × Nat) :=
  probe.checks.zipIdx.map fun (check, index) => (check, calls.getD index 0)

/-- The hooks neither wait nor fail. -/
def Hooks.Idle (hooks : Option Hooks) : Prop :=
  ∀ index, Hooks.actOf hooks (·.onStart index) = {} ∧ Hooks.actOf hooks (·.onEnd index) = {}

/-- Hooks that are idle never fail. -/
theorem Hooks.Idle.neverFail {hooks : Option Hooks} (h : Hooks.Idle hooks) : Hooks.NeverFail hooks := by
  intro index
  rw [(h index).1, (h index).2]
  exact ⟨rfl, rfl⟩

namespace Run

variable {probe : String} {hooks : Option Hooks}

/-! ### Time where hooks are idle -/

/-- Where hooks are idle dispatch takes no time. -/
theorem dispatch_now_of_idle (h : Hooks.Idle hooks) (index now : Nat) (checks : List (Check × Nat)) :
    (dispatch probe hooks index now checks).now = now := by
  induction checks generalizing index now with
  | nil => rfl
  | cons head rest ih =>
      rw [dispatch, Hooks.call_eq, (h index).1]
      exact ih _ _

/-- Where hooks take no time nothing is collected that settles after the deadline. -/
theorem time_le_of_mem_taken {stuck : Bool} {deadline : Option Nat} {d now : Nat} {waited : Bool}
    {order : List Arrival} (h : Hooks.Idle hooks) (hd : deadline = some d) (hnow : now ≤ d) :
    ∀ a ∈ order.take (collect probe hooks deadline stuck now waited order).results.length,
      a.time ≤ d := by
  -- the clock is at the deadline at most as long as there is something to take
  have htake {now : Nat} {waited : Bool} {a : Arrival} (hnow : now ≤ d)
      (hc : (isAtHand waited now a || settlesInTime deadline now a) = true) : a.time ≤ d := by
    rw [hd] at hc
    simp only [isAtHand, settlesInTime, Bool.or_eq_true, Bool.and_eq_true, decide_eq_true_eq] at hc
    omega
  simp only [collect_eq_walk]
  fun_induction walk probe hooks deadline stuck now waited order with
  | case1 | case2 | case5 => simp
  | case3 now waited a rest hc =>
      simp only [List.length_cons, List.length_nil, List.take_succ_cons, List.take_zero,
        List.mem_singleton]
      rintro b rfl
      exact htake hnow hc
  | case4 now waited a rest hc index finish _ _ later ih =>
      have hfinish : finish.now ≤ d := by
        have := htake hnow hc
        simp only [finish, finishCheck_eq, (h _).2]
        omega
      rw [List.length_cons, List.take_succ_cons]
      intro b hb
      rcases List.mem_cons.mp hb with rfl | hb
      · exact htake hnow hc
      · exact ih hfinish b hb

/-- The time of an arrival is that of the call which its task makes. -/
theorem Arrival.settlesAfter_eq {t : Task} {a : Arrival} {call : Nat}
    (h : Arrival.ofTask? t = some a) (hwork : t.work = t.check.work call) :
    ∃ delay, t.check.settlesAfter call = some delay ∧ a.time = t.since + delay := by
  obtain ⟨⟨time, ending⟩, hsettles, rfl⟩ := Option.map_eq_some_iff.mp h
  obtain ⟨⟨delay, ending'⟩, hsettling, he⟩ := Option.map_eq_some_iff.mp hsettles
  obtain ⟨rfl, -⟩ := Prod.mk.inj he
  exact ⟨delay, by rw [Check.settlesAfter, ← hwork, hsettling]; rfl, rfl⟩

/-- The result of an ending says what the ending says. -/
theorem Arrival.finding_result {a : Arrival} {ending : Ending} (h : a.joined = .ended ending) :
    a.result.finding = ending.finding a.task.check.name := by
  obtain ⟨hname, hsays⟩ := Arrival.says_result h
  rw [CheckResult.finding, hname]
  generalize a.result.healthy = healthy at hsays
  generalize a.result.detail = detail at hsays
  cases hsays with
  | outcome | fault | panic | silentPanic => rfl

end Run

namespace Runner

open Run

/-- Nothing keeps a run from a report: the hooks neither wait nor fail, a budget that is used up makes
pending checks fail and not the run, and without a budget every check settles. -/
structure Unhindered (r : Runner) (probe : Probe) (calls : List Nat) : Prop where
  idle : Hooks.Idle r.hooks
  reports : r.timeout.isSome = true → r.failureOnTimeout = true
  settles : r.timeout = none → ∀ p ∈ probe.upcoming calls, (p.1.settlesAfter p.2).isSome = true

/-- The deadline of a run that begins at an instant of the machine's clock, without hooks that wait, is
an instant of that clock. -/
def DeadlineOnClock (r : Runner) (begins : Nat) : Prop :=
  ∀ budget, r.timeout = some budget → begins + budget.nanos < clockEnd

/-- A call of a check settles at the very instant of the deadline. -/
def SettlesAtDeadline (r : Runner) (c : Check) (call : Nat) : Prop :=
  ∃ budget, r.timeout = some budget ∧ c.settlesAfter call = some budget.nanos

variable {r : Runner} {probe : Probe} {calls : List Nat}
  {s : Schedule (r.dispatched probe calls).tasks}

/-- Each upcoming call has its task. -/
theorem exists_task_of_upcoming (hd : (r.dispatched probe calls).failure = none) {i n : Nat} {c : Check}
    (h : (probe.upcoming calls)[i]? = some (c, n)) :
    ∃ t ∈ (r.dispatched probe calls).tasks, t.index = i ∧ t.check = c ∧ t.work = c.work n := by
  rw [Probe.upcoming, List.getElem?_map, List.getElem?_zipIdx, Option.map_map,
    Option.map_eq_some_iff] at h
  obtain ⟨c', hc, he⟩ := h
  obtain ⟨rfl, rfl⟩ := Prod.mk.inj he
  have hi : i < (r.dispatched probe calls).tasks.length :=
    length_dispatched hd ▸ (List.getElem?_eq_some_iff.mp hc).1
  obtain ⟨hcheck, hindex, hwork⟩ := dispatched_task (List.getElem?_eq_getElem hi)
  obtain rfl := Option.some.inj (hcheck.symm.trans hc)
  exact ⟨_, List.getElem_mem hi, hindex, rfl, by simpa using hwork⟩

/-- The verdict of a report is one on what its results say. -/
theorem healthy_eq {report : Report} (h : (r.runInOrder probe calls s).result = .report report) :
    report.healthy =
      if probe.allowPartialFailure then (report.results.map CheckResult.finding).any (·.healthy)
      else (report.results.map CheckResult.finding).all (·.healthy) := by
  rw [report_eq h, List.any_map, List.all_map]
  rfl

/-- A task whose time comes before the deadline is collected, as is every one that settles where there
is no deadline. -/
theorem mem_collected_of_within (hok : Hooks.NeverFail r.hooks) {t : Task} {a : Arrival}
    (h : t ∈ (r.dispatched probe calls).tasks) (ha : Arrival.ofTask? t = some a)
    (hwithin : ∀ budget, r.timeout = some budget →
      a.time < (r.dispatched probe calls).now + budget.nanos)
    (hc : r.timeout = none →
      (r.collected probe (r.dispatched probe calls) s).closing = .complete) :
    a.entry ∈ (r.collected probe (r.dispatched probe calls) s).results := by
  cases ht : r.timeout with
  | some budget => exact mem_collected_of_lt hok ht h ha (hwithin budget ht)
  | none => exact entry_mem_collected_of_complete (hc ht) h ha

/-- Each task does the work of an upcoming call. -/
theorem upcoming_of_task {t : Task} (h : t ∈ (r.dispatched probe calls).tasks) :
    (t.check, calls.getD t.index 0) ∈ probe.upcoming calls ∧
      t.work = t.check.work (calls.getD t.index 0) := by
  obtain ⟨hcheck, -, hwork⟩ := dispatched_task (getElem?_of_mem_dispatched h)
  exact ⟨List.mem_map.mpr ⟨(t.check, t.index), List.mem_zipIdx_iff_getElem?.mpr hcheck, rfl⟩, hwork⟩

/-- If every upcoming call settles every task does. -/
theorem any_isNone_of_settles
    (h : ∀ p ∈ probe.upcoming calls, (p.1.settlesAfter p.2).isSome = true) :
    ((r.dispatched probe calls).tasks.any fun t => t.settles.isNone) = false := by
  refine List.any_eq_false.mpr fun t ht hnone => ?_
  obtain ⟨hup, hwork⟩ := upcoming_of_task ht
  have hsettles := h _ hup
  rw [Check.settlesAfter, ← hwork, Option.isSome_map] at hsettles
  rw [Task.settles, Option.isNone_map, Option.isNone_iff_eq_none] at hnone
  rw [hnone] at hsettles
  cases hsettles

/-- Without a budget collection is complete, if no hook fails and every upcoming call settles. -/
theorem closing_of_noTimeout (hok : Hooks.NeverFail r.hooks) (ht : r.timeout = none)
    (hsettles : ∀ p ∈ probe.upcoming calls, (p.1.settlesAfter p.2).isSome = true) :
    (r.collected probe (r.dispatched probe calls) s).closing = .complete := by
  have hdeadline : r.deadline? (r.dispatched probe calls) = none := by
    rw [deadline?, ht]
    rfl
  cases hc : (r.collected probe (r.dispatched probe calls) s).closing with
  | complete => rfl
  | deadline =>
      obtain ⟨⟨d, hd, -⟩, -⟩ := collect_of_deadline hc
      rw [hdeadline] at hd
      cases hd
  | hook chain =>
      obtain ⟨e, -, hfails⟩ := collect_of_hook hc
      rw [(hok _).2] at hfails
      cases hfails
  | never =>
      obtain ⟨-, hstuck⟩ := collect_of_never hc
      rw [any_isNone_of_settles hsettles] at hstuck
      cases hstuck

/-- Where hooks are idle dispatch takes no time. -/
theorem dispatched_now_of_idle (h : Hooks.Idle r.hooks) : (r.dispatched probe calls).now = 0 :=
  dispatch_now_of_idle h _ _ _

/-- Where hooks are idle every task is dispatched at the beginning. -/
theorem since_of_idle (h : Hooks.Idle r.hooks) {t : Task}
    (ht : t ∈ (r.dispatched probe calls).tasks) : t.since = 0 := by
  have hsince : t.since ≤ (r.dispatched probe calls).now := (dispatch_since ht).2
  rw [dispatched_now_of_idle h] at hsince
  exact Nat.le_zero.mp hsince

/-- Where hooks are idle the deadline is an instant of the machine's clock if the budget reaches no
further. -/
theorem overruns_eq_false_iff (h : Hooks.Idle r.hooks) {begins : Nat} :
    r.overruns (r.dispatched probe calls) begins = false ↔ r.DeadlineOnClock begins := by
  cases ht : r.timeout <;> simp [overruns, deadline?, DeadlineOnClock, ht, dispatched_now_of_idle h]

/-- Where hooks are idle a run comes to collection if its deadline is an instant of the machine's
clock. -/
theorem collects_of_idle (h : Hooks.Idle r.hooks) {begins : Nat} (hclock : r.DeadlineOnClock begins) :
    r.Collects (r.dispatched probe calls) begins :=
  ⟨dispatched_of_neverFail h.neverFail, (overruns_eq_false_iff h).mpr hclock⟩

/-- Where hooks are idle a run whose deadline is past the end of the machine's clock panics, in no
time. -/
theorem panicked_of_idle (h : Hooks.Idle r.hooks) (hclock : ¬r.DeadlineOnClock s.begins) :
    (r.runInOrder probe calls s).result = .panicked ∧ (r.runInOrder probe calls s).elapsed = 0 := by
  have ho : r.overruns (r.dispatched probe calls) s.begins = true :=
    (Bool.eq_false_or_eq_true _).resolve_right (mt (overruns_eq_false_iff h).mp hclock)
  obtain ⟨hresult, -, htime⟩ := runInOrder_of_overruns (dispatched_of_neverFail h.neverFail) ho
  exact ⟨hresult, htime.trans (dispatched_now_of_idle h)⟩

namespace Unhindered

variable (h : r.Unhindered probe calls)
include h

/-- The run has a report, if its deadline is an instant of the machine's clock. -/
theorem exists_report (hclock : r.DeadlineOnClock s.begins) :
    ∃ report, (r.runInOrder probe calls s).result = .report report := by
  have hok := h.idle.neverFail
  have hcourse := r.course_runInOrder probe calls s
  generalize r.runInOrder probe calls s = run at hcourse
  cases hcourse with
  | complete | givenUp => exact ⟨_, rfl⟩
  | startFailed hd =>
      rw [dispatched_of_neverFail hok] at hd
      cases hd
  | panicked _ ho =>
      rw [(overruns_eq_false_iff h.idle).mpr hclock] at ho
      cases ho
  | never _ hc =>
      cases ht : r.timeout with
      | none =>
          rw [closing_of_noTimeout hok ht (h.settles ht)] at hc
          cases hc
      | some budget => rcases closing_of_neverFail hok ht with hc' | hc' <;> rw [hc'] at hc <;> cases hc
  | endFailed _ hc =>
      obtain ⟨e, -, hfails⟩ := collect_of_hook hc
      rw [(hok _).2] at hfails
      cases hfails
  | timedOut _ hc hr =>
      cases ht : r.timeout with
      | none =>
          rw [closing_of_noTimeout hok ht (h.settles ht)] at hc
          cases hc
      | some budget =>
          rw [h.reports (ht ▸ rfl)] at hr
          cases hr
  | givingUpFailed _ _ _ hg =>
      obtain ⟨_, _, -, hfails, -⟩ := giveUp_of_failure hg
      rw [(hok _).2] at hfails
      cases hfails

variable {report : Report}

/-- A check that settles within the budget has its own result in the report. -/
theorem finding_of_within (hreport : (r.runInOrder probe calls s).result = .report report) {i n : Nat}
    {c : Check} (hi : (probe.upcoming calls)[i]? = some (c, n)) {delay : Nat} {ending : Ending}
    (hsettling : c.settling (c.work n) = some (delay, ending))
    (hwithin : ∀ budget, r.timeout = some budget → delay < budget.nanos) :
    report.results[i]?.map CheckResult.finding = some (ending.finding c.name) := by
  obtain ⟨t, hmem, rfl, rfl, hwork⟩ :=
    exists_task_of_upcoming (dispatched_of_neverFail h.idle.neverFail) hi
  have ha : Arrival.ofTask? t = some ⟨t, t.since + delay, .ended ending⟩ := by
    rw [Arrival.ofTask?, Task.settles, hwork, hsettling]
    rfl
  have hentry := mem_collected_of_within (s := s) h.idle.neverFail hmem ha
    (fun budget ht => by
      rw [dispatched_now_of_idle h.idle, since_of_idle h.idle hmem]
      simpa using hwithin budget ht)
    fun ht => closing_of_noTimeout h.idle.neverFail ht (h.settles ht)
  have hresult := getElem?_of_mem_ends hreport (List.mem_append_left _ hentry)
  rw [Arrival.entry] at hresult
  rw [hresult, Option.map_some, Arrival.finding_result rfl]

/-- A check that does not settle by the deadline is reported to have timed out. -/
theorem finding_of_late (hreport : (r.runInOrder probe calls s).result = .report report) {i n : Nat}
    {c : Check} (hi : (probe.upcoming calls)[i]? = some (c, n)) {budget : Duration}
    (ht : r.timeout = some budget)
    (hlate : ∀ delay, c.settlesAfter n = some delay → budget.nanos < delay) :
    report.results[i]?.map CheckResult.finding = some ⟨c.name, false, some probeTimeoutDetail⟩ := by
  obtain ⟨t, hmem, rfl, rfl, hwork⟩ :=
    exists_task_of_upcoming (dispatched_of_neverFail h.idle.neverFail) hi
  have hdeadline : r.deadline? (r.dispatched probe calls) = some budget.nanos := by
    rw [deadline?, ht, dispatched_now_of_idle h.idle, Option.map_some, Nat.zero_add]
  have hnot : t.index ∉
      (r.collected probe (r.dispatched probe calls) s).results.map Prod.fst := by
    intro hcollected
    -- what is collected has settled by the deadline
    obtain ⟨a, ha, hta⟩ := exists_arrival_of_collected hmem hcollected
    have hle := time_le_of_mem_taken h.idle hdeadline
      (by rw [dispatched_now_of_idle h.idle]; exact Nat.zero_le _) a ha
    obtain ⟨delay, hdelay, htime⟩ := Arrival.settlesAfter_eq hta hwork
    have hlt := hlate delay hdelay
    rw [since_of_idle h.idle hmem] at htime
    omega
  rw [getElem?_of_not_collected hmem hnot hreport]
  rfl

/-- **What a report says of a check is the closed form of that check.** -/
theorem finding_eq (hreport : (r.runInOrder probe calls s).result = .report report) {i n : Nat}
    {c : Check} (hi : (probe.upcoming calls)[i]? = some (c, n)) (hnot : ¬r.SettlesAtDeadline c n) :
    report.results[i]?.map CheckResult.finding = some (c.finding r.timeout n) := by
  rw [Check.finding]
  cases hsettling : c.settling (c.work n) with
  | none =>
      cases ht : r.timeout with
      | none =>
          have := h.settles ht (c, n) (List.mem_of_getElem? hi)
          rw [Check.settlesAfter, hsettling] at this
          cases this
      | some budget =>
          refine h.finding_of_late hreport hi ht fun delay hdelay => ?_
          rw [Check.settlesAfter, hsettling] at hdelay
          cases hdelay
  | some p =>
      obtain ⟨delay, ending⟩ := p
      simp only
      split
      next hwithin =>
        refine h.finding_of_within hreport hi hsettling fun budget ht => ?_
        rw [ht] at hwithin
        exact of_decide_eq_true hwithin
      next hlate =>
        obtain ⟨budget, ht, hle⟩ : ∃ budget, r.timeout = some budget ∧ budget.nanos ≤ delay := by
          cases ht : r.timeout with
          | none => simp [ht] at hlate
          | some budget => exact ⟨budget, rfl, by simpa [ht] using hlate⟩
        refine h.finding_of_late hreport hi ht fun delay' hdelay => ?_
        have hafter : c.settlesAfter n = some delay := by rw [Check.settlesAfter, hsettling]; rfl
        obtain rfl := Option.some.inj (hafter.symm.trans hdelay)
        refine Nat.lt_of_le_of_ne hle fun he => hnot ⟨budget, ht, ?_⟩
        rw [hafter, he]

/-- Where no check settles at the deadline the report says of the checks what they come to by
themselves, in order. -/
theorem findings_eq (hreport : (r.runInOrder probe calls s).result = .report report)
    (hnot : ∀ p ∈ probe.upcoming calls, ¬r.SettlesAtDeadline p.1 p.2) :
    report.results.map CheckResult.finding =
      (probe.upcoming calls).map fun p => p.1.finding r.timeout p.2 := by
  refine List.ext_getElem? fun i => ?_
  rw [List.getElem?_map, List.getElem?_map]
  cases hi : (probe.upcoming calls)[i]? with
  | some p => exact h.finding_eq hreport hi (hnot p (List.mem_of_getElem? hi))
  | none =>
      have hlen : report.results.length = (probe.upcoming calls).length := by
        rw [report_eq hreport, Probe.upcoming, List.length_map, List.length_zipIdx]
        exact length_arrange _ _
      rw [List.getElem?_eq_none (hlen ▸ List.getElem?_eq_none_iff.mp hi)]
      rfl

end Unhindered

/-- **Checks are isolated from each other.** A run that nothing hinders has a report, in whichever
order the tasks settle. Its entry for a check says what the check comes to by itself: its own result if
it settles before the deadline, which a check with a limit does at its delay or the limit, whichever is
smaller, and that the probe timed out otherwise. So another run under the same budget, of whatever
probe and in whatever order, says the same of each check that the two have in common, at its place
there; and if its checks are the same in another order the verdict is the same, too. A run has no
report if its budget reaches past the end of the machine's clock, since it panics then. -/
theorem checks_isolated (r : Runner) (probe : Probe) (calls : List Nat)
    (s : Schedule (r.dispatched probe calls).tasks) (h : r.Unhindered probe calls) :
    (¬r.DeadlineOnClock s.begins → (r.runInOrder probe calls s).result = .panicked) ∧
    (r.DeadlineOnClock s.begins →
      ∃ report : Report, (r.runInOrder probe calls s).result = .report report ∧
        report.results.length = probe.checks.length ∧
        (∀ (i : Nat) (c : Check) (n : Nat), (probe.upcoming calls)[i]? = some (c, n) →
          ¬r.SettlesAtDeadline c n →
          report.results[i]?.map CheckResult.finding = some (c.finding r.timeout n)) ∧
        (∀ (c : Check) (n : Nat) (limit : Duration), c.limit = some limit → c.settlesAfter n =
          some (((c.work n).delay.map (min · limit.nanos)).getD limit.nanos)) ∧
        ∀ (r' : Runner) (probe' : Probe) (calls' : List Nat)
          (s' : Schedule (r'.dispatched probe' calls').tasks),
          r'.timeout = r.timeout → r'.Unhindered probe' calls' → r'.DeadlineOnClock s'.begins →
          ∃ report' : Report, (r'.runInOrder probe' calls' s').result = .report report' ∧
            (∀ (i j : Nat) (c : Check) (n : Nat), (probe.upcoming calls)[i]? = some (c, n) →
              (probe'.upcoming calls')[j]? = some (c, n) → ¬r.SettlesAtDeadline c n →
              ∃ result result' : CheckResult, report.results[i]? = some result ∧
                report'.results[j]? = some result' ∧ result.finding = result'.finding) ∧
            ((probe.upcoming calls).Perm (probe'.upcoming calls') →
              probe.allowPartialFailure = probe'.allowPartialFailure →
              (∀ p ∈ probe.upcoming calls, ¬r.SettlesAtDeadline p.1 p.2) →
              report.healthy = report'.healthy)) := by
  refine ⟨fun hclock => (panicked_of_idle h.idle hclock).1, fun hclock => ?_⟩
  obtain ⟨report, hreport⟩ := h.exists_report hclock
  refine ⟨report, hreport, ?_, fun i c n hi hnot => h.finding_eq hreport hi hnot,
    fun c n limit hlimit => Check.settlesAfter_of_limit hlimit n, ?_⟩
  · rw [report_eq hreport]
    exact length_arrange _ _
  intro r' probe' calls' s' hsame h' hclock'
  obtain ⟨report', hreport'⟩ := h'.exists_report hclock'
  have hdeadline {c : Check} {n : Nat} (hnot : ¬r.SettlesAtDeadline c n) :
      ¬r'.SettlesAtDeadline c n := by
    rwa [SettlesAtDeadline, hsame]
  refine ⟨report', hreport', fun i j c n hi hj hnot => ?_, fun hperm hpolicy hnot => ?_⟩
  · -- both entries are the closed form of the check
    have hown := h.finding_eq hreport hi hnot
    have hown' := h'.finding_eq hreport' hj (hdeadline hnot)
    obtain ⟨result, hresult, hfinding⟩ := Option.map_eq_some_iff.mp hown
    obtain ⟨result', hresult', hfinding'⟩ := Option.map_eq_some_iff.mp hown'
    refine ⟨result, result', hresult, hresult', ?_⟩
    rw [hfinding, hfinding', hsame]
  · have hfindings := h.findings_eq hreport hnot
    have hfindings' := h'.findings_eq hreport' fun p hp =>
      hdeadline (hnot p (hperm.mem_iff.mpr hp))
    rw [hsame] at hfindings'
    have hsays : (report.results.map CheckResult.finding).Perm
        (report'.results.map CheckResult.finding) := by
      rw [hfindings, hfindings']
      exact hperm.map _
    rw [healthy_eq hreport, healthy_eq hreport', hpolicy, hsays.any_eq, hsays.all_eq]

/-! ### A check in two places -/

/-- A check that takes longer with each call. -/
def tiring : Check where
  name := "db"
  limit := some (.clamp 8)
  work := fun call => ⟨some (call + 1), .concluded (.ok .ok)⟩

/-- A check that panics. -/
def panicking : Check where
  name := "cache"
  work := fun _ => ⟨some 2, .panicked (some "no host")⟩

/-- A check that hangs. -/
def hanging : Check where
  name := "disk"
  work := fun _ => .never

/-- The three checks side by side. -/
def crowded : Probe where
  name := "readiness"
  checks := [tiring, panicking, hanging]
  allowPartialFailure := true

/-- The three checks in another order. -/
def rearranged : Probe where
  name := "liveness"
  checks := [hanging, panicking, tiring]
  allowPartialFailure := true

/-- The third call of `tiring` is found healthy in both probes, first in one and last in the other,
and both probes pass. -/
theorem checks_isolated_rearranged :
    hasty.Unhindered crowded [2] ∧ hasty.Unhindered rearranged [0, 0, 2] ∧
      ∃ report report' : Report,
        (hasty.run crowded [2]).result = .report report ∧
          (hasty.run rearranged [0, 0, 2]).result = .report report' ∧
          report.results[0]?.map CheckResult.finding = some ⟨"db", true, none⟩ ∧
          report'.results[2]?.map CheckResult.finding = some ⟨"db", true, none⟩ ∧
          report.healthy = report'.healthy := by
  have h : hasty.Unhindered crowded [2] := ⟨fun _ => ⟨rfl, rfl⟩, fun _ => rfl, nofun⟩
  have h' : hasty.Unhindered rearranged [0, 0, 2] := ⟨fun _ => ⟨rfl, rfl⟩, fun _ => rfl, nofun⟩
  have hnot : ∀ p ∈ crowded.upcoming [2], ¬hasty.SettlesAtDeadline p.1 p.2 := by
    rintro p hp ⟨budget, ht, hafter⟩
    obtain rfl := Option.some.inj ht
    simp only [Probe.upcoming, crowded, List.zipIdx_cons, List.zipIdx_nil, List.map_cons,
      List.map_nil, List.mem_cons, List.not_mem_nil, or_false] at hp
    rcases hp with rfl | rfl | rfl <;> revert hafter <;> decide
  have hclock : hasty.DeadlineOnClock 0 := by
    rintro budget ht
    obtain rfl := Option.some.inj ht
    decide
  obtain ⟨report, hreport, -, hown, -, htwo⟩ :=
    (checks_isolated hasty crowded [2] (hasty.turns crowded [2]) h).2 hclock
  obtain ⟨report', hreport', hcommon, hverdict⟩ :=
    htwo hasty rearranged [0, 0, 2] (hasty.turns rearranged [0, 0, 2]) rfl h' hclock
  have hfirst := hown 0 tiring 2 rfl (hnot _ List.mem_cons_self)
  refine ⟨h, h', report, report', hreport, hreport', hfirst, ?_,
    hverdict (List.reverse_perm (crowded.upcoming [2])).symm rfl hnot⟩
  obtain ⟨result, result', hresult, hresult', hsame⟩ :=
    hcommon 0 2 tiring 2 rfl rfl (hnot _ List.mem_cons_self)
  rw [hresult, Option.map_some, hsame] at hfirst
  rw [hresult', Option.map_some, hfirst]
  rfl

end Runner

end Vigil
