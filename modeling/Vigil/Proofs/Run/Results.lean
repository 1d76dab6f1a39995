import Vigil.Proofs.Run.Course

/-!
# What a Report Says

A report is made of the ends of a run: what was collected, and the pending checks cut off at the
deadline. Since these are one for each check, the report has neither a gap to fill with a made-up
result nor room for the result of another check, whatever the order in which the tasks settle.

## Main results

* `Runner.report_eq`: the report of a run in terms of its ends.
* `Runner.report_accounts`: each result of a report is the check's own, or says that the deadline
  cut the check off, and the verdict follows from them.
-/

namespace Vigil

/-- The deadline was seen in a run: an event tells of it. -/
def Run.SawDeadline (run : Run) : Prop :=
  ∃ e, Sight.event e ∈ run.trace ∧ e.name = "probe_timeout"

/-- A verdict in terms of the results: one has to be healthy where partial failure is allowed, and
all of them otherwise. -/
theorem Report.verdict_iff {results : List CheckResult} {partialFailure : Bool} :
    Report.verdict results partialFailure = true ↔
      if partialFailure then ∃ result ∈ results, result.healthy = true
      else ∀ result ∈ results, result.healthy = true := by
  cases partialFailure with
  | false => simp [Report.verdict]
  | true => simp [Report.verdict]

namespace Runner

open Run

variable {r : Runner} {probe : Probe} {calls : List Nat}
  {s : Schedule (r.dispatched probe calls).tasks}

/-- The report of a run is made of its ends. -/
theorem report_eq {report : Report} (h : (r.runInOrder probe calls s).result = .report report) :
    report = Report.ofResults probe.name
      (arrange probe.checks (ends probe (r.collected probe (r.dispatched probe calls) s)))
      probe.allowPartialFailure := by
  have hcourse := r.course_runInOrder probe calls s
  generalize r.runInOrder probe calls s = run at h hcourse
  cases hcourse with
  | complete hd hc =>
      obtain rfl := Result.report.inj h
      rw [ends, pending_eq_nil hd.dispatched hc, List.map_nil, List.append_nil]
      rfl
  | givenUp hd hc hr hg =>
      obtain rfl := Result.report.inj h
      rw [ends, ← (giveUp_of_ok hg).1]
      rfl
  | startFailed | panicked | never | endFailed | timedOut | givingUpFailed => cases h

/-- In a run with a report a check is pending only if the deadline was seen. -/
theorem sawDeadline_of_pending {report : Report} {p : Nat × String}
    (h : (r.runInOrder probe calls s).result = .report report)
    (hp : p ∈ pending probe.checks (r.collected probe (r.dispatched probe calls) s).results) :
    (r.runInOrder probe calls s).SawDeadline := by
  have hcourse := r.course_runInOrder probe calls s
  generalize r.runInOrder probe calls s = run at h hcourse
  cases hcourse with
  | complete hd hc =>
      rw [pending_eq_nil hd.dispatched hc] at hp
      cases hp
  | givenUp hd hc hr hg => exact ⟨_, List.mem_append_right _ List.mem_cons_self, rfl⟩
  | startFailed | panicked | never | endFailed | timedOut | givingUpFailed => cases h

/-- A report holds each end of its run at the place of its check. -/
theorem getElem?_of_mem_ends {report : Report} {e : Nat × CheckResult}
    (h : (r.runInOrder probe calls s).result = .report report)
    (he : e ∈ ends probe (r.collected probe (r.dispatched probe calls) s)) :
    report.results[e.1]? = some e.2 := by
  have hperm := @ends_perm r probe calls s
  have hi := List.mem_range.mp (hperm.mem_iff.mp (List.mem_map_of_mem he))
  rw [report_eq h]
  exact arrange_eq (hperm.nodup_iff.mpr List.nodup_range) hi he

/-- At each place a report holds an end of its run. -/
theorem exists_end_of_report {report : Report} {i : Nat}
    (h : (r.runInOrder probe calls s).result = .report report) (hi : i < probe.checks.length) :
    ∃ result, (i, result) ∈ ends probe (r.collected probe (r.dispatched probe calls) s) ∧
      report.results[i]? = some result := by
  have hperm := @ends_perm r probe calls s
  obtain ⟨⟨j, result⟩, he, rfl⟩ := List.mem_map.mp (hperm.mem_iff.mpr (List.mem_range.mpr hi))
  exact ⟨result, he, getElem?_of_mem_ends h he⟩

/-- An end of a run is the own result of a check or stands for a check that was pending. -/
theorem yields_or_pending {i : Nat} {result : CheckResult}
    (h : (i, result) ∈ ends probe (r.collected probe (r.dispatched probe calls) s)) :
    ∃ c, probe.checks[i]? = some c ∧
      (c.Yields (calls.getD i 0) result ∨
        (i, c.name) ∈ pending probe.checks (r.collected probe (r.dispatched probe calls) s).results ∧
          ∃ elapsed, result = .timedOut c.name elapsed) := by
  rcases List.mem_append.mp h with hc | hp
  · obtain ⟨c, hcheck, hyields⟩ := joined_yields hc
    exact ⟨c, hcheck, .inl hyields⟩
  · obtain ⟨⟨j, name⟩, hmem, he⟩ := List.mem_map.mp hp
    obtain ⟨rfl, rfl⟩ := Prod.mk.inj he
    obtain ⟨c, hcheck, rfl⟩ := Option.map_eq_some_iff.mp (mem_pending_iff.mp hmem).1
    exact ⟨c, hcheck, .inr ⟨hmem, _, rfl⟩⟩

/-- The results of a report bear the names of the checks, in order. -/
theorem report_names {report : Report} (h : (r.runInOrder probe calls s).result = .report report) :
    report.results.map (·.name) = probe.checks.map (·.name) := by
  refine List.ext_getElem? fun i => ?_
  rw [List.getElem?_map, List.getElem?_map]
  rcases Nat.lt_or_ge i probe.checks.length with hi | hi
  · obtain ⟨result, hend, hresult⟩ := exists_end_of_report h hi
    obtain ⟨c, hcheck, hyields | ⟨-, _, rfl⟩⟩ := yields_or_pending hend
    · obtain ⟨-, -, -, hname, -⟩ := hyields
      rw [hresult, hcheck, Option.map_some, Option.map_some, hname]
    · rw [hresult, hcheck]
      rfl
  · have hlen : report.results.length = probe.checks.length := by
      rw [report_eq h]
      exact length_arrange _ _
    rw [List.getElem?_eq_none hi, List.getElem?_eq_none (hlen ▸ hi)]
    rfl

/-- **A report accounts for every check.** In whichever order the tasks settle, the report has one
result for each check, in the order of the checks and by their names. A result is the own result of
the check's call in this run, or it says that the probe timed out, and that only if the deadline was
seen. The texts that stand for a missing result or a cancelled task appear in it only if a check came
to them itself. -/
theorem report_accounts (r : Runner) (probe : Probe) (calls : List Nat)
    (s : Schedule (r.dispatched probe calls).tasks) {report : Report}
    (h : (r.runInOrder probe calls s).result = .report report) :
    report.probe = probe.name ∧
      report.results.map (·.name) = probe.checks.map (·.name) ∧
      (∀ (i : Nat) (c : Check) (result : CheckResult),
        probe.checks[i]? = some c → report.results[i]? = some result →
        (c.Yields (calls.getD i 0) result ∨
          (r.runInOrder probe calls s).SawDeadline ∧ result.healthy = false ∧
            result.detail = some "Probe timed out") ∧
        (result.detail = some "Check did not report a result" ∨
            result.detail = some "Check was cancelled" →
          c.Yields (calls.getD i 0) result)) ∧
      (report.healthy = true ↔
        if probe.allowPartialFailure then ∃ result ∈ report.results, result.healthy = true
        else ∀ result ∈ report.results, result.healthy = true) := by
  have hreport := report_eq h
  refine ⟨by rw [hreport]; rfl, report_names h, ?_, ?_⟩
  · intro i c result hcheck hresult
    obtain ⟨result', hend, hresult'⟩ :=
      exists_end_of_report h (List.getElem?_eq_some_iff.mp hcheck).1
    obtain rfl := Option.some.inj (hresult.symm.trans hresult')
    obtain ⟨c', hcheck', hown⟩ := yields_or_pending hend
    obtain rfl := Option.some.inj (hcheck.symm.trans hcheck')
    rcases hown with hyields | ⟨hp, elapsed, rfl⟩
    · exact ⟨.inl hyields, fun _ => hyields⟩
    · -- the synthesized detail is neither of the two texts
      refine ⟨.inr ⟨sawDeadline_of_pending h hp, rfl, rfl⟩, fun htext => ?_⟩
      simp [CheckResult.timedOut, CheckResult.failed, probeTimeoutDetail] at htext
  · rw [hreport]
    exact Report.verdict_iff

/-! ### A run with a panic and a hang -/

/-- Three checks of one name: one panics after a while, one hangs, and one is healthy early. -/
def unruly : Probe where
  name := "nightly"
  checks := [
    { name := "db", work := fun _ => ⟨some 5, .panicked (some "no table")⟩ },
    { name := "db", work := fun _ => .never },
    { name := "db", work := fun _ => ⟨some 1, .concluded (.ok .ok)⟩ }]

/-- A runner that gives pending checks up after a short time. -/
def hasty : Runner where
  timeout := some (.clamp 10)
  failureOnTimeout := true

/-- The third check settles first, then the first one. -/
def unrulyOrder : Schedule (hasty.dispatched unruly []).tasks where
  order := ((hasty.dispatched unruly []).tasks.filterMap Arrival.ofTask?).reverse
  perm := List.reverse_perm _
  inTime := .cons (fun b hb => by
    obtain rfl := List.mem_singleton.mp hb
    exact .inl (by decide)) (List.pairwise_singleton _ _)

/-- The report on `unruly` names its three checks in order and is unhealthy, although the checks
settle in another order and one of them does not settle at all. -/
theorem report_accounts_unruly : ∃ report : Report,
    (hasty.runInOrder unruly [] unrulyOrder).result = .report report ∧
      report.results.map (·.name) = ["db", "db", "db"] ∧
      report.results.map (·.detail) =
        [some "Check panicked: no table", some "Probe timed out", none] ∧
      (report.healthy = true ↔ ∀ result ∈ report.results, result.healthy = true) := by
  obtain ⟨report, h⟩ : ∃ report, (hasty.runInOrder unruly [] unrulyOrder).result = .report report :=
    ⟨_, rfl⟩
  obtain ⟨-, hnames, -, hverdict⟩ := report_accounts hasty unruly [] unrulyOrder h
  refine ⟨report, h, hnames, ?_, hverdict⟩
  obtain rfl := Result.report.inj h
  rfl

end Runner

end Vigil
