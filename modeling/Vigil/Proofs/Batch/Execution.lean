import Vigil.Batch.Basic
import Vigil.Proofs.Batch.Record
import Vigil.Proofs.Config.Probes
import Vigil.Proofs.Run.Modes
import Vigil.Proofs.Session.Calls

/-!
# Batches as a Whole

A batch has no hooks and always a budget, far below what the machine's clock can count. So a run of it
comes to a report, or it fails for lack of time where that is not to be reported: nothing else can end a
run (`Runner.result_of_collects`), and nothing ends the loop before its last probe. The loop is then a
map over the probes (`Batch.runAll_eq`), with the tallies of the probes done in front of those of the
probes to come. What a batch stands as is the worst of its records, which is told by codes and does not
depend on their order. What it writes is one text for each record, and each text is its record as it is
to be written (`Record.Written`).

Before all this comes what a batch needs in order to run at all (`Batch.Ready`), and that it is prepared
exactly if it has this.

## Main results

* `Runner.result_of_collects`: the two ways in which a run under a budget without failing hooks ends.
* `Record.standingOf_eq`, `Record.standingOf_perm`: the standing of records, in any order.
* `Batch.prepare_eq_ok_iff`: what is ready is prepared, and nothing else.
* `Batch.runAll_eq`: every probe is run once, in order.
* `Batch.execution_accounted`: what a batch comes to.
-/

namespace Vigil

namespace Runner

open Run

variable {r : Runner} {probe : Probe} {calls : List Nat}
  {s : Schedule (r.dispatched probe calls).tasks} {budget : Duration} {j : Nat} {a : Activity}

/-! ### Runs under a budget whose hooks never fail -/

/-- A run under a budget whose hooks never fail comes to a report, or it fails for lack of time where
this is not to be reported. -/
theorem result_of_collects (hok : Hooks.NeverFail r.hooks) (ht : r.timeout = some budget)
    (hd : r.Collects (r.dispatched probe calls) s.begins) :
    (∃ report, (r.runInOrder probe calls s).result = .report report ∧ report.probe = probe.name ∧
      ((r.runInOrder probe calls s).SawDeadline → r.failureOnTimeout = true)) ∨
    ((r.runInOrder probe calls s).result = .failed (.timeout probe.name budget) ∧
      (r.runInOrder probe calls s).SawDeadline ∧ r.failureOnTimeout = false) := by
  have hsaw : (r.runInOrder probe calls s).SawDeadline ↔
      (r.collected probe (r.dispatched probe calls) s).closing = .deadline := sawDeadline_iff hd
  have hclosing : (r.collected probe (r.dispatched probe calls) s).closing = .complete ∨
      (r.collected probe (r.dispatched probe calls) s).closing = .deadline :=
    closing_of_neverFail hok ht
  have hcourse := r.course_runInOrder probe calls s
  generalize r.runInOrder probe calls s = run at hsaw hcourse
  cases hcourse with
  | startFailed hfailed =>
    rw [hd.dispatched] at hfailed
    cases hfailed
  | panicked _ ho =>
    rw [hd.onClock] at ho
    cases ho
  | complete hd hc => exact .inl ⟨_, rfl, rfl, fun h => by rw [hsaw.mp h] at hc; cases hc⟩
  | never hd hc | endFailed hd hc => rcases hclosing with h | h <;> rw [h] at hc <;> cases hc
  | timedOut hd hc hr => exact .inr ⟨by rw [ht, Option.getD_some], hsaw.mpr hc, hr⟩
  | givingUpFailed hd hc hr hg =>
    obtain ⟨k, p, -, hfails, -⟩ := giveUp_of_failure hg
    rw [(hok _).2] at hfails
    cases hfails
  | givenUp hd hc hr hg => exact .inl ⟨_, rfl, rfl, fun _ => hr⟩

/-- A run with some budget whose hooks never fail begins the call of every check. -/
theorem begun_of_collects (hok : Hooks.NeverFail r.hooks) (ht : r.timeout = some budget)
    (hpos : 0 < budget.nanos) (hd : r.Collects (r.dispatched probe calls) s.begins)
    (ha : (r.runInOrder probe calls s).activity[j]? = some a) (hj : j < probe.checks.length) :
    a.begun = true := by
  obtain hc | hc : (r.collected probe (r.dispatched probe calls) s).closing = .complete ∨
      (r.collected probe (r.dispatched probe calls) s).closing = .deadline :=
    closing_of_neverFail hok ht
  · obtain ⟨⟨i, result⟩, he, rfl⟩ := List.mem_map.mp (mem_collected_of_complete hd.dispatched hc hj)
    exact begun_of_collected hd he ha
  · -- the deadline is later than any dispatch
    have hj' : j < (r.dispatched probe calls).tasks.length := length_dispatched hd.dispatched ▸ hj
    have hmem := List.getElem_mem hj'
    obtain ⟨-, hindex, -⟩ := dispatched_task (List.getElem?_eq_getElem hj')
    have hactivity := activity_of_mem (s := s) hd hmem
    rw [hindex, ha] at hactivity
    rw [Option.some.inj hactivity]
    have hsince : (r.dispatched probe calls).tasks[j].since ≤ (r.dispatched probe calls).now :=
      (dispatch_since hmem).2
    have hnow := deadline_le_now ht hc
    simp only [activityOf, hasBegun, Bool.or_eq_true, decide_eq_true_eq]
    exact .inr (by omega)

end Runner

/-! ### The standing of records -/

namespace Standing

/-- The worse of two standings has the larger code. -/
theorem code_worse (a b : Standing) : (a.worse b).code = max a.code b.code := by
  rw [worse]
  split <;> omega

/-- A standing is told by its code. -/
theorem eq_of_code {a b : Standing} (h : a.code = b.code) : a = b := by
  cases a <;> cases b <;> first | rfl | cases h

end Standing

namespace Record

variable {records : List Record}

/-- Records that follow on a standing are as bad as the worst of all. -/
theorem le_code_foldl {k : Nat} (worst : Standing) :
    k ≤ (records.foldl (fun worst r => worst.worse r.standing) worst).code ↔
      k ≤ worst.code ∨ ∃ r ∈ records, k ≤ r.standing.code := by
  induction records generalizing worst with
  | nil => simp
  | cons r records ih =>
    have hmax : k ≤ max worst.code r.standing.code ↔ k ≤ worst.code ∨ k ≤ r.standing.code := by omega
    simp only [List.foldl_cons, ih, Standing.code_worse, hmax, List.mem_cons, exists_eq_or_imp, or_assoc]

/-- Records are as bad as the worst of them. -/
theorem le_code_standingOf {k : Nat} (hk : 0 < k) :
    k ≤ (standingOf records).code ↔ ∃ r ∈ records, k ≤ r.standing.code := by
  have hhealthy : ¬k ≤ Standing.healthy.code := Nat.not_le.mpr hk
  rw [standingOf, le_code_foldl, or_iff_right hhealthy]

/-- **The standing does not depend on the order of the records.** -/
theorem standingOf_perm {records' : List Record} (h : records'.Perm records) :
    standingOf records' = standingOf records := by
  have hle : ∀ k, k ≤ (standingOf records').code ↔ k ≤ (standingOf records).code := by
    intro k
    rw [standingOf, standingOf, le_code_foldl, le_code_foldl]
    simp only [h.mem_iff]
  exact Standing.eq_of_code (Nat.le_antisymm ((hle _).mp (Nat.le_refl _)) ((hle _).mpr (Nat.le_refl _)))

/-- A record stands as timed out if it is of a timeout, and as unhealthy if it is of a report that is. -/
theorem code_standing (r : Record) :
    r.standing.code ≤ 2 ∧ (2 ≤ r.standing.code ↔ ∃ probe budget, r = .timeout probe budget) ∧
      (1 ≤ r.standing.code ↔ (∃ probe budget, r = .timeout probe budget) ∨
        ∃ report, r = .report report ∧ report.healthy = false) := by
  cases r with
  | timeout probe budget => simp [standing, Standing.code]
  | report report =>
    rw [standing]
    cases hhealthy : report.healthy <;> simp [Standing.code, hhealthy]

/-- **What the standing of records is**: timed out if some record is of a timeout, else unhealthy if
some report is, and else healthy. -/
theorem standingOf_eq (records : List Record) :
    (standingOf records = .timedOut ↔ ∃ probe budget, .timeout probe budget ∈ records) ∧
      (standingOf records = .unhealthy ↔ (¬∃ probe budget, .timeout probe budget ∈ records) ∧
        ∃ report, .report report ∈ records ∧ report.healthy = false) ∧
      (standingOf records = .healthy ↔ (¬∃ probe budget, .timeout probe budget ∈ records) ∧
        ¬∃ report, .report report ∈ records ∧ report.healthy = false) := by
  have htop : ¬3 ≤ (standingOf records).code := by
    rw [le_code_standingOf (by omega)]
    rintro ⟨r, -, hr⟩
    have := (code_standing r).1
    omega
  have htwo : 2 ≤ (standingOf records).code ↔ ∃ probe budget, .timeout probe budget ∈ records := by
    rw [le_code_standingOf (by omega)]
    constructor
    · rintro ⟨r, hr, hcode⟩
      obtain ⟨probe, budget, rfl⟩ := (code_standing r).2.1.mp hcode
      exact ⟨probe, budget, hr⟩
    · rintro ⟨probe, budget, hr⟩
      exact ⟨_, hr, (code_standing _).2.1.mpr ⟨probe, budget, rfl⟩⟩
  have hone : 1 ≤ (standingOf records).code ↔ (∃ probe budget, .timeout probe budget ∈ records) ∨
      ∃ report, .report report ∈ records ∧ report.healthy = false := by
    rw [le_code_standingOf (by omega)]
    constructor
    · rintro ⟨r, hr, hcode⟩
      rcases (code_standing r).2.2.mp hcode with ⟨probe, budget, rfl⟩ | ⟨report, rfl, hhealthy⟩
      · exact .inl ⟨probe, budget, hr⟩
      · exact .inr ⟨report, hr, hhealthy⟩
    · rintro (⟨probe, budget, hr⟩ | ⟨report, hr, hhealthy⟩)
      · exact ⟨_, hr, (code_standing _).2.2.mpr (.inl ⟨probe, budget, rfl⟩)⟩
      · exact ⟨_, hr, (code_standing _).2.2.mpr (.inr ⟨report, rfl, hhealthy⟩)⟩
  generalize (∃ probe budget, timeout probe budget ∈ records) = T at htwo hone ⊢
  generalize (∃ r, report r ∈ records ∧ r.healthy = false) = U at hone ⊢
  generalize standingOf records = worst at htop htwo hone ⊢
  cases worst <;> simp_all [Standing.code]

end Record

/-! ### Preparation -/

namespace Batch

open ProbeSettings (exists_build_iff name_of_build)

variable {o : Options} {c : Config}

/-- There is something to run, and it can be: the budget is in range, the probes asked for are known,
each check of those selected can be built, and some probe is selected. -/
structure Ready (o : Options) (c : Config) : Prop where
  inRange : (settings o c).inRange = true
  known : ∀ name ∈ o.probes, c.hasProbe name = true
  buildable : ∀ p ∈ c.selected o.probes, ∀ check ∈ p.checks, ∃ built, check.build = .ok built
  selected : c.selected o.probes ≠ []

/-- The runner of a batch that is ready. -/
def settled (o : Options) (c : Config) : Runner :=
  ⟨some (settings o c).timeout, (settings o c).failureOnTimeout, none⟩

theorem runner_eq (o : Options) (c : Config) : runner o c =
    if (settings o c).inRange = true then .ok (settled o c)
    else .error (.invalid [.runTimeout (settings o c).timeout]) := by
  rw [runner, RunSettings.violations]
  cases (settings o c).inRange <;> rfl

/-- Selected probes that are built are there if and only if some are selected. -/
theorem ready_iff_of_built {configured : List ConfiguredProbe} (hin : (settings o c).inRange = true)
    (hknown : o.probes.find? (!c.hasProbe ·) = none)
    (h : (c.selected o.probes).mapM ProbeSettings.build = .ok configured) :
    Ready o c ↔ configured ≠ [] := by
  have hlength := congrArg List.length (map_of_mapM (fun _ _ => name_of_build) h)
  rw [List.length_map, List.length_map] at hlength
  constructor
  · intro hready hnil
    rw [hnil, List.length_nil] at hlength
    exact hready.selected (List.eq_nil_of_length_eq_zero hlength.symm)
  · intro hne
    refine ⟨hin, by simpa using hknown, fun p hp => ?_, fun hnil => hne ?_⟩
    · exact exists_build_iff.mp (exists_mapM_eq_ok_iff.mp ⟨configured, h⟩ p hp)
    · rw [hnil, List.length_nil] at hlength
      exact List.eq_nil_of_length_eq_zero hlength

/-- **What is ready is prepared**, and nothing else. -/
theorem prepare_eq_ok_iff {r : Runner} {configured : List ConfiguredProbe} :
    prepare o c = .ok (r, configured) ↔ Ready o c ∧
      r = settled o c ∧
      (c.selected o.probes).mapM ProbeSettings.build = .ok configured := by
  rw [prepare, runner_eq, Config.buildProbes]
  by_cases hin : (settings o c).inRange = true
  case neg => exact iff_of_false (by simp [hin, bind, Except.bind]) fun h => hin h.1.inRange
  rw [if_pos hin]
  cases hfind : o.probes.find? (!c.hasProbe ·) with
  | some name =>
    refine iff_of_false (by simp [bind, Except.bind]) fun h => ?_
    have hknown := h.1.known name (List.mem_of_find?_eq_some hfind)
    have hunknown := List.find?_some hfind
    simp [hknown] at hunknown
  | none =>
    cases hmap : (c.selected o.probes).mapM ProbeSettings.build with
    | error problem => exact iff_of_false (by simp [bind, Except.bind]) fun h => by cases h.2.2
    | ok built =>
      rw [ready_iff_of_built hin hfind hmap]
      cases built with
      | nil => simp [bind, Except.bind]
      | cons p ps =>
        simp [bind, Except.bind, pure, Except.pure, eq_comm]

/-- What is not ready is refused for a problem with the configuration. -/
theorem prepare_of_not_ready (h : ¬Ready o c) : ∃ problem, prepare o c = .error problem := by
  cases hprepare : prepare o c with
  | error problem => exact ⟨problem, rfl⟩
  | ok p => exact absurd (prepare_eq_ok_iff.mp hprepare).1 h

/-! ### The loop -/

/-- The run of a probe none of whose checks has been called. -/
def firstRun (r : Runner) (p : Probe) : Run := r.run p (p.checks.map fun _ => 0)

/-- The record of a probe's first run, be it a report or the end of its budget. -/
def ending (r : Runner) (p : Probe) : Record :=
  match (firstRun r p).result with
  | .report report => .report report
  | _ => .timeout p.name (r.timeout.getD .zero)

/-- A record tells how a run of a probe ended: in the report of that probe, or with the budget used up
where this is not reported as ill health. -/
inductive Tells (r : Runner) (p : Probe) (run : Run) : Record → Prop
  | report {report : Report} (hresult : run.result = .report report) (hname : report.probe = p.name)
      (hmode : run.SawDeadline → r.failureOnTimeout = true) : Tells r p run (.report report)
  | timeout {budget : Duration} (hresult : run.result = .failed (.timeout p.name budget))
      (hbudget : r.timeout = some budget) (hmode : r.failureOnTimeout = false)
      (hsaw : run.SawDeadline) : Tells r p run (.timeout p.name budget)

variable {r : Runner} {p : Probe} {probes : List Probe} {budget : Duration}

/-- A runner as batches have it: its hooks are idle, and its budget is within what the machine's clock
can count. -/
structure Steady (r : Runner) (budget : Duration) : Prop where
  idle : Hooks.Idle r.hooks
  timeout : r.timeout = some budget
  onClock : budget.nanos < Run.clockEnd

/-- The first run of a probe comes to collection. -/
theorem Steady.collects (h : Steady r budget) :
    r.Collects (r.dispatched p (p.checks.map fun _ => 0))
      (r.turns p (p.checks.map fun _ => 0)).begins := by
  refine Runner.collects_of_idle h.idle fun budget' hbudget => ?_
  obtain rfl := Option.some.inj (h.timeout.symm.trans hbudget)
  exact (Nat.zero_add _).symm ▸ h.onClock

/-- A record that tells of a run names its probe. -/
theorem Tells.name_eq {run : Run} {record : Record} (h : Tells r p run record) :
    record.probe = p.name := by
  cases h with
  | report _ hname => exact hname
  | timeout => rfl

/-- Under a steady runner the first run of a probe ends so that a record tells. -/
theorem tells_ending (h : Steady r budget) :
    Tells r p (firstRun r p) (ending r p) ∧
      recordOf p.name (r.timeout.getD .zero) (firstRun r p).result = .ok (ending r p) := by
  rcases Runner.result_of_collects h.idle.neverFail h.timeout h.collects with
    ⟨report, hresult, hname, hmode⟩ | ⟨hresult, hsaw, hmode⟩
  · have hfirst : (firstRun r p).result = .report report := hresult
    rw [ending, hfirst]
    exact ⟨.report hfirst hname hmode, rfl⟩
  · have hfirst : (firstRun r p).result = .failed (.timeout p.name budget) := hresult
    rw [ending, hfirst, h.timeout]
    exact ⟨.timeout hfirst h.timeout hmode hsaw, rfl⟩

/-- The tallies of a probe none of whose checks has been called. -/
def freshTallies (p : Probe) : List Tally := p.checks.map fun _ => {}

/-- The tallies of a probe after its first run. -/
def ranTallies (r : Runner) (p : Probe) : List Tally :=
  Session.addRun (freshTallies p) (firstRun r p).activity

/-- **Every probe of a batch is run once, in order**, whatever has been run before: none of its checks
has been called, its record follows, and no run ends the batch. -/
theorem runAll_eq (h : Steady r budget) (s : Session) (done : List (List Tally))
    (hs : s.tallies = done ++ probes.map freshTallies) :
    runAll r s done.length probes =
      ⟨{ s with tallies := done ++ probes.map (ranTallies r) }, probes.map (firstRun r),
        probes.map (ending r), none⟩ := by
  induction probes generalizing s done with
  | nil =>
    rw [List.map_nil] at hs
    rw [runAll, List.map_nil, List.map_nil, List.map_nil, ← hs]
  | cons p probes ih =>
    have hbefore : s.tallies.getD done.length [] = freshTallies p := by
      rw [hs, List.map_cons, List.getD_eq_getElem?_getD, List.getElem?_append_right (Nat.le_refl _),
        Nat.sub_self]
      rfl
    have hcalls : (freshTallies p).map (·.begun) = p.checks.map fun _ => 0 := by
      rw [freshTallies, List.map_map]
      rfl
    have hset : s.tallies.set done.length (ranTallies r p) =
        (done ++ [ranTallies r p]) ++ probes.map freshTallies := by
      rw [hs, List.map_cons, List.set_append_right _ _ (Nat.le_refl _), Nat.sub_self, List.set_cons_zero,
        List.append_assoc, List.singleton_append]
    have hrun : s.runProbe done.length p r =
        (firstRun r p, { s with tallies := (done ++ [ranTallies r p]) ++ probes.map freshTallies }) := by
      simp only [Session.runProbe, hbefore, hcalls]
      exact congrArg (fun tallies => (firstRun r p, { s with tallies })) hset
    have hrest := ih { s with tallies := (done ++ [ranTallies r p]) ++ probes.map freshTallies }
      (done ++ [ranTallies r p]) rfl
    rw [List.length_append, List.length_singleton] at hrest
    rw [runAll, hrun]
    simp only [(tells_ending h).2, hrest]
    simp only [List.map_cons, List.append_assoc, List.singleton_append]

/-! ### The whole -/

/-- The tallies of a batch at its end: each check has been called once, and released once if it holds
resources. -/
theorem tally_closed (h : Steady r budget) (hpos : 0 < budget.nanos) {i j : Nat} {check : Check}
    (hp : probes[i]? = some p)
    (hc : p.checks[j]? = some check) :
    ∃ t, ({ Session.ofProbes probes with tallies := probes.map (ranTallies r) }).closeAll.tally? i j =
      some t ∧ t.begun = 1 ∧ t.released = if check.holdsResources then 1 else 0 := by
  obtain ⟨a, ha⟩ : ∃ a, (firstRun r p).activity[j]? = some a := Runner.exists_activity hc
  have hbegun : a.begun = true := Runner.begun_of_collects h.idle.neverFail h.timeout hpos h.collects ha
    (List.getElem?_eq_some_iff.mp hc).1
  have hran : (ranTallies r p)[j]? = some (Session.Tally.add {} a) := by
    rw [ranTallies, Session.addRun, List.getElem?_zipWith, freshTallies, List.getElem?_map, hc, ha]
    rfl
  refine ⟨Session.Tally.release check (Session.Tally.add {} a), ?_, ?_, ?_⟩
  · rw [Session.tally?, Session.closeAll, Session.releaseProbes_fst, List.getElem?_zipWith]
    simp only [Session.ofProbes, hp, List.getElem?_map, Option.map_some, Option.bind_some,
      List.getElem?_zipWith, hc, hran]
  · rw [Session.Tally.release, Session.Tally.add, hbegun]
    split <;> rfl
  · rw [Session.Tally.release]
    split <;> rfl

/-- What a batch of probes comes to. -/
structure Completed (o : Options) (c : Config) (probes : List Probe) (e : Execution) : Prop where
  /-- Every probe is run once, in order. -/
  runs : e.runs = probes.map (firstRun (settled o c))
  /-- One record is made of each probe, in order, and tells how its run ended. -/
  records : e.records = probes.map (ending (settled o c))
  tells : ∀ p ∈ probes, Tells (settled o c) p (firstRun (settled o c) p) (ending (settled o c) p)
  /-- What is written is one text for each record, in order, and nothing else. -/
  output : ∃ texts, e.output = String.join texts ∧
    List.Forall₂ (Record.Written o.json) e.records texts
  /-- The batch stands as timed out if the time of a probe was up where this is not reported as ill
  health, else as unhealthy if some report is, and else as healthy. -/
  stands : ∃ standing, e.result = .ok standing ∧
    (standing = .timedOut ↔
      (settings o c).failureOnTimeout = false ∧ ∃ run ∈ e.runs, run.SawDeadline) ∧
    (standing = .unhealthy ↔
      ¬((settings o c).failureOnTimeout = false ∧ ∃ run ∈ e.runs, run.SawDeadline) ∧
        ∃ report, .report report ∈ e.records ∧ report.healthy = false) ∧
    (standing = .healthy ↔
      ¬((settings o c).failureOnTimeout = false ∧ ∃ run ∈ e.runs, run.SawDeadline) ∧
        ¬∃ report, .report report ∈ e.records ∧ report.healthy = false)
  /-- The same probes in another order come to the same. -/
  anyOrder : ∀ probes' : List Probe, probes'.Perm probes →
    (runAll (settled o c) (.ofProbes probes') 0 probes').failure = none ∧
      e.result = .ok (Record.standingOf (runAll (settled o c) (.ofProbes probes') 0 probes').records)
  /-- Every check is called once, and in the end released once if it holds resources. -/
  released : ∀ i p j check, probes[i]? = some p → p.checks[j]? = some check →
    ∃ t, e.session.tally? i j = some t ∧ t.begun = 1 ∧
      t.released = if check.holdsResources then 1 else 0

/-- With a budget in range the runner of a batch is steady. -/
theorem steady_settled (h : (settings o c).inRange = true) :
    Steady (settled o c) (settings o c).timeout := by
  refine ⟨fun _ => ⟨rfl, rfl⟩, rfl, ?_⟩
  rw [RunSettings.inRange, Bool.and_eq_true, Duration.millis] at h
  have hlongest : (settings o c).timeout.nanos / 1000000 ≤ longestRun := of_decide_eq_true h.2
  have hclock : (longestRun + 1) * 1000000 ≤ Run.clockEnd := by decide
  omega

/-- A budget in range is one. -/
theorem Ready.nanos_pos (h : Ready o c) : 0 < (settings o c).timeout.nanos := by
  have hmillis := h.inRange
  rw [RunSettings.inRange, Bool.and_eq_true, Duration.millis] at hmillis
  have hone : 1 ≤ (settings o c).timeout.nanos / 1000000 := of_decide_eq_true hmillis.1
  omega

/-- A fresh session of the probes has the tallies of none called. -/
theorem runAll_ofProbes (h : Steady r budget) (probes : List Probe) :
    runAll r (.ofProbes probes) 0 probes =
      ⟨{ Session.ofProbes probes with tallies := probes.map (ranTallies r) }, probes.map (firstRun r),
        probes.map (ending r), none⟩ :=
  runAll_eq h (.ofProbes probes) [] rfl

/-- Some record is of a timeout if the time of some probe was up where this is not reported. -/
theorem exists_timeout_iff (htells : ∀ p ∈ probes, Tells r p (firstRun r p) (ending r p)) :
    (∃ name budget, Record.timeout name budget ∈ probes.map (ending r)) ↔
      r.failureOnTimeout = false ∧ ∃ run ∈ probes.map (firstRun r), run.SawDeadline := by
  constructor
  · rintro ⟨name, budget, hmem⟩
    obtain ⟨p, hp, hending⟩ := List.mem_map.mp hmem
    have htold := htells p hp
    rw [hending] at htold
    cases htold with
    | timeout hresult hbudget hmode hsaw => exact ⟨hmode, _, List.mem_map_of_mem hp, hsaw⟩
  · rintro ⟨hmode, run, hmem, hsaw⟩
    obtain ⟨p, hp, rfl⟩ := List.mem_map.mp hmem
    have htold := htells p hp
    generalize hending : ending r p = record at htold
    cases htold with
    | report hresult hname hreported =>
      rw [hreported hsaw] at hmode
      cases hmode
    | timeout => exact ⟨_, _, List.mem_map.mpr ⟨p, hp, hending⟩⟩

/-- **A batch that is ready is completed.** -/
theorem completed_of_ready (h : Ready o c) (net : Network) {configured : List ConfiguredProbe}
    (hbuilt : (c.selected o.probes).mapM ProbeSettings.build = .ok configured) :
    Completed o c (ConfiguredProbe.toProbes net configured).1 (execute o c net) := by
  have hsteady := steady_settled h.inRange
  have hprepare : prepare o c = .ok (settled o c, configured) := prepare_eq_ok_iff.mpr ⟨h, rfl, hbuilt⟩
  generalize hprobes : (ConfiguredProbe.toProbes net configured).1 = probes
  have hrun := runAll_ofProbes hsteady probes
  have htells : ∀ p ∈ probes, Tells (settled o c) p (firstRun (settled o c) p)
      (ending (settled o c) p) := fun p _ => (tells_ending hsteady).1
  rw [execute, hprepare]
  simp only [hprobes, hrun]
  refine ⟨rfl, rfl, htells, ⟨_, rfl, Record.written_texts o.json _⟩, ⟨_, rfl, ?_⟩,
    fun probes' hperm => ?_, fun i p j check hp hc => ?_⟩
  · have hstanding := Record.standingOf_eq (probes.map (ending (settled o c)))
    rwa [exists_timeout_iff htells] at hstanding
  · rw [runAll_ofProbes hsteady probes']
    exact ⟨rfl, congrArg _ (Record.standingOf_perm (hperm.map _)).symm⟩
  · exact tally_closed hsteady h.nanos_pos hp hc

/-- Probes in a network keep their names. -/
theorem names_toProbes (net : Network) (configured : List ConfiguredProbe) :
    (ConfiguredProbe.toProbes net configured).1.map (·.name) = configured.map (·.name) := by
  induction configured generalizing net with
  | nil => rfl
  | cons p rest ih => exact congrArg (p.name :: ·) (ih _)

/-- The records of a batch name its probes in order. -/
theorem Completed.names {e : Execution} (h : Completed o c probes e) :
    e.records.map Record.probe = probes.map (·.name) := by
  rw [h.records, List.map_map]
  exact List.map_congr_left fun p hp => (h.tells p hp).name_eq

/-- **What a batch comes to**, for any command line, configuration and network. Unless it is ready it is
refused for a problem with the configuration: nothing is written, run, asked for or released. If it is
ready the selected probes are all built, and the batch is completed: each of them is run once and has one
record, in the order of the configuration, the batch stands as its records do, and in the end the
resources of every check are released. How the records are written makes no difference to it. -/
theorem execution_accounted (o : Options) (c : Config) (net : Network) :
    (¬Ready o c → ∃ problem, execute o c net = .refused problem) ∧
    (Ready o c → ∃ configured, (c.selected o.probes).mapM ProbeSettings.build = .ok configured ∧
      Completed o c (ConfiguredProbe.toProbes net configured).1 (execute o c net) ∧
      (execute o c net).records.map Record.probe = (c.selected o.probes).map (·.name)) ∧
    ∀ json, (execute { o with json } c net).result = (execute o c net).result ∧
      (execute { o with json } c net).records = (execute o c net).records := by
  refine ⟨fun h => ?_, fun h => ?_, fun json => ?_⟩
  · obtain ⟨problem, hproblem⟩ := prepare_of_not_ready h
    exact ⟨problem, by rw [execute, hproblem]⟩
  · obtain ⟨configured, hbuilt⟩ : ∃ configured, (c.selected o.probes).mapM ProbeSettings.build =
        .ok configured :=
      exists_mapM_eq_ok_iff.mpr fun p hp => exists_build_iff.mpr (h.buildable p hp)
    have hcompleted := completed_of_ready h net hbuilt
    refine ⟨configured, hbuilt, hcompleted, ?_⟩
    rw [hcompleted.names, names_toProbes, map_of_mapM (fun _ _ => name_of_build) hbuilt]
  · have hsame : prepare { o with json } c = prepare o c := rfl
    rw [execute, execute, hsame]
    cases prepare o c <;> exact ⟨rfl, rfl⟩

/-! ### A port and a page -/

/-- The settings of a check of a page on the machine itself. -/
def page : UrlSettings := { url := "http://[::1]/" }

/-- A probe of a port and a probe of a page, with a budget of ten milliseconds. -/
def outage : Config where
  run := { timeout := .clamp 10000000 }
  probes := [
    { name := "db", checks := [⟨"port", .tcp { host := "db", port := 5432 }⟩] },
    { name := "web", checks := [⟨"home", .url page⟩] }]

/-- The probes are built. -/
def outageBuilt : List ConfiguredProbe :=
  [⟨"db", none, false, [.tcp ⟨"port", { host := "db", port := 5432 }⟩]⟩,
    ⟨"web", none, false, [.url ⟨"home", page, ⟨.http, "", none, .v6 1#128, none, [""], none, none⟩⟩]⟩]

/-- Without a network both probes are run and recorded, and the client of the page is released. A batch
that asks for another probe as well is refused, and so is none of the two run. -/
theorem execution_accounted_outage :
    Ready {} outage ∧ (execute {} outage .unreachable).records.map Record.probe = ["db", "web"] ∧
      (∃ standing, (execute {} outage .unreachable).result = .ok standing) ∧
      (∃ t, (execute {} outage .unreachable).session.tally? 1 0 = some t ∧ t.begun = 1 ∧ t.released = 1) ∧
      ¬Ready { probes := ["db", "cache"] } outage ∧
      ∃ problem, execute { probes := ["db", "cache"] } outage .unreachable = .refused problem := by
  have hbuilt : (outage.selected []).mapM ProbeSettings.build = .ok outageBuilt := rfl
  have hprepare : prepare {} outage = .ok (settled {} outage, outageBuilt) := rfl
  have hready : Ready {} outage := (prepare_eq_ok_iff.mp hprepare).1
  have hunknown : ¬Ready { probes := ["db", "cache"] } outage := fun h =>
    absurd (h.known "cache" (by decide)) (by decide)
  obtain ⟨-, hrun, -⟩ := execution_accounted {} outage .unreachable
  obtain ⟨configured, hconfigured, hcompleted, hnames⟩ := hrun hready
  obtain rfl := Except.ok.inj (hbuilt.symm.trans hconfigured)
  obtain ⟨standing, hstanding, -⟩ := hcompleted.stands
  refine ⟨hready, hnames, ⟨standing, hstanding⟩, hcompleted.released 1 _ 0 _ rfl rfl, hunknown, ?_⟩
  exact (execution_accounted { probes := ["db", "cache"] } outage .unreachable).1 hunknown

end Batch

end Vigil
