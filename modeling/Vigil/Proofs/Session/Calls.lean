import Vigil.Proofs.Run.Elapsed
import Vigil.Proofs.Run.HookFailures

/-!
# Calls over a Session

A session counts for each check how many of its calls have begun and how many of them came to their
own end. A run makes at most one call of each check, with the number of those begun before, and when
it returns the call has come to its end or is cut off. So a count of calls is also an index: over all
runs, whichever way they ended, the call that begins as number `n` does the work that the check has for
`n`. A call with a thread of its own counts as cut off with the task that waits for it.

`CallsOnce` says what one step does to the tally of a check in the probe that it runs. Everything about
sessions follows from it by going through the steps.

## Main results

* `Runner.activity_eq`, `Runner.finished_of_activity`: what a run says became of a call.
* `Session.tally_step`: what a step does to the tally of a check.
* `Session.callsOnce_step`: a step makes one call of a check at most.
* `Session.tally_after`: what holds of the tallies after any steps.
* `Session.calls_accounted`: the account of all calls.
-/

namespace Vigil

namespace Run

/-- What became of a check's call is told of its task, and without a task there was no call. -/
theorem getElem?_activities {count j now : Nat} {waited : Bool} {tasks : List Task}
    (hj : j < count) (hlen : tasks.length ≤ count) :
    (activities count waited now tasks)[j]? =
      some ((tasks[j]?.map (activityOf waited now)).getD ⟨false, false⟩) := by
  rw [activities]
  rcases Nat.lt_or_ge j tasks.length with hlt | hge
  · rw [List.getElem?_append_left (by rw [List.length_map]; exact hlt), List.getElem?_map,
      List.getElem?_eq_getElem hlt]
    rfl
  · rw [List.getElem?_append_right (by rw [List.length_map]; exact hge), List.length_map,
      List.getElem?_replicate, if_pos (by omega), List.getElem?_eq_none hge]
    rfl

end Run

namespace Runner

open Run

variable {r : Runner} {probe : Probe} {calls : List Nat}
  {s : Schedule (r.dispatched probe calls).tasks} {c : Check} {j : Nat} {a : Activity}

/-! ### The calls of one run -/

/-- There are no more tasks than checks. -/
theorem length_tasks_le : (r.dispatched probe calls).tasks.length ≤ probe.checks.length := by
  have hplaces := congrArg List.length (@dispatched_places r probe calls)
  rw [List.length_map, List.length_take, List.length_zipIdx] at hplaces
  omega

/-- What became of the calls is told as of an instant no later than the end of the run. -/
theorem activity_eq (r : Runner) (probe : Probe) (calls : List Nat)
    (s : Schedule (r.dispatched probe calls).tasks) :
    ∃ waited now, (r.runInOrder probe calls s).activity =
        activities probe.checks.length waited now (r.dispatched probe calls).tasks ∧
      now ≤ (r.runInOrder probe calls s).elapsed := by
  have hgive : (r.givenUp probe (r.collected probe (r.dispatched probe calls) s)).now =
      (r.collected probe (r.dispatched probe calls) s).now + Trace.hookTime r.hooks
        (r.givenUp probe (r.collected probe (r.dispatched probe calls) s)).trace :=
    giveUp_now _ _ _
  have hcourse := r.course_runInOrder probe calls s
  generalize r.runInOrder probe calls s = run at hcourse
  cases hcourse with
  | startFailed | panicked | complete | never | endFailed | timedOut =>
      exact ⟨_, _, rfl, Nat.le_refl _⟩
  | givingUpFailed | givenUp => exact ⟨_, _, rfl, hgive ▸ Nat.le_add_right _ _⟩

/-- A run says of each check what became of its call. -/
theorem exists_activity (hc : probe.checks[j]? = some c) :
    ∃ a, (r.runInOrder probe calls s).activity[j]? = some a := by
  obtain ⟨waited, now, hactivity, -⟩ := activity_eq r probe calls s
  rw [hactivity, getElem?_activities (List.getElem?_eq_some_iff.mp hc).1 length_tasks_le]
  exact ⟨_, rfl⟩

/-- **A call that came to its end had begun**, and it did the work of the check's next call, within the
time of the run. -/
theorem finished_of_activity (hc : probe.checks[j]? = some c)
    (ha : (r.runInOrder probe calls s).activity[j]? = some a) (hf : a.finished = true) :
    a.begun = true ∧ ∃ delay, c.finishing (c.work (calls.getD j 0)) = some delay ∧
      delay ≤ (r.runInOrder probe calls s).elapsed := by
  obtain ⟨waited, now, hactivity, hnow⟩ := activity_eq r probe calls s
  rw [hactivity, getElem?_activities (List.getElem?_eq_some_iff.mp hc).1 length_tasks_le] at ha
  obtain rfl := Option.some.inj ha
  cases ht : (r.dispatched probe calls).tasks[j]? with
  | none =>
      rw [ht] at hf
      cases hf
  | some t =>
      rw [ht] at hf
      obtain ⟨hcheck, -, hwork⟩ := dispatched_task ht
      obtain rfl := Option.some.inj (hcheck.symm.trans hc)
      obtain ⟨hbegun, hfinishes⟩ := Bool.and_eq_true_iff.mp hf
      refine ⟨hbegun, ?_⟩
      rw [Option.any_eq_true] at hfinishes
      obtain ⟨time, htime, hle⟩ := hfinishes
      obtain ⟨delay, hdelay, rfl⟩ := Option.map_eq_some_iff.mp htime
      rw [decide_eq_true_eq] at hle
      exact ⟨delay, hwork ▸ hdelay, by omega⟩

/-- The call of a check that is collected has begun. -/
theorem begun_of_collected (hd : r.Collects (r.dispatched probe calls) s.begins)
    {result : CheckResult}
    (h : (j, result) ∈ (r.collected probe (r.dispatched probe calls) s).results)
    (ha : (r.runInOrder probe calls s).activity[j]? = some a) : a.begun = true := by
  obtain ⟨c, hc, -⟩ := joined_yields h
  have hj : j < (r.dispatched probe calls).tasks.length :=
    length_dispatched hd.dispatched ▸ (List.getElem?_eq_some_iff.mp hc).1
  obtain ⟨-, hindex, -⟩ := dispatched_task (List.getElem?_eq_getElem hj)
  obtain ⟨⟨a', ha', hbegun⟩, -⟩ :=
    hadSettled_of_collected hd (List.getElem_mem hj) (hindex.symm ▸ h)
  rw [hindex, ha] at ha'
  obtain rfl := Option.some.inj ha'
  exact hbegun

/-- **In a run with a report that does not see the deadline every check's call has begun.** -/
theorem begun_of_report {report : Report}
    (hreport : (r.runInOrder probe calls s).result = .report report)
    (hsaw : ¬(r.runInOrder probe calls s).SawDeadline)
    (ha : (r.runInOrder probe calls s).activity[j]? = some a) (hj : j < probe.checks.length) :
    a.begun = true := by
  have hclosing : r.Collects (r.dispatched probe calls) s.begins ∧
      (r.collected probe (r.dispatched probe calls) s).closing = .complete := by
    rw [sawDeadline_iff_closing] at hsaw
    have hcourse := r.course_runInOrder probe calls s
    generalize r.runInOrder probe calls s = run at hcourse hreport
    cases hcourse with
    | complete hd hc => exact ⟨hd, hc⟩
    | givenUp hd hc => exact absurd ⟨hd, hc⟩ hsaw
    | startFailed | panicked | never | endFailed | timedOut | givingUpFailed => cases hreport
  obtain ⟨hd, hc⟩ := hclosing
  obtain ⟨⟨i, result⟩, he, rfl⟩ := List.mem_map.mp (mem_collected_of_complete hd.dispatched hc hj)
  exact begun_of_collected hd he ha

/-- If a hook fails before a check neither its call nor that of any check after it begins. -/
theorem not_begun_of_startFailure {name check : String} {k : Nat}
    (h : .startHook name check k ∈ (r.runInOrder probe calls s).trace)
    (hf : (Sight.startHook name check k).failure? r.hooks ≠ none) (hkj : k ≤ j)
    (hj : j < probe.checks.length)
    (ha : (r.runInOrder probe calls s).activity[j]? = some a) : a = ⟨false, false⟩ := by
  obtain ⟨rfl, -⟩ := trace_of_startFailure h hf
  obtain ⟨waited, now, hactivity, -⟩ := activity_eq r probe calls s
  rw [hactivity, getElem?_activities hj length_tasks_le, List.getElem?_eq_none hkj] at ha
  exact (Option.some.inj ha).symm

/-- **An end that a run tells of a check is the own result of its call**, which has begun, or the one
that is made up for it when the deadline has been seen. -/
theorem end_of_note {check : String} {healthy : Bool} {detail : Option String}
    (hc : probe.checks[j]? = some c)
    (ha : (r.runInOrder probe calls s).activity[j]? = some a)
    (h : Note.checkEnd j check healthy detail ∈
      (r.runInOrder probe calls s).trace.events.filterMap Note.ofEvent?) :
    ∃ result : CheckResult,
      (check = result.name ∧ healthy = result.healthy ∧ detail = result.detail) ∧
        (c.Yields (calls.getD j 0) result ∧ a.begun = true ∨
          (r.runInOrder probe calls s).SawDeadline ∧
            ∃ elapsed, result = .timedOut c.name elapsed) := by
  obtain ⟨l, htrace, -, -, hl⟩ := trace_eq_log r probe calls s
  rw [htrace, Log.notes_eq] at h
  obtain ⟨result, hend, hsays⟩ := Log.exists_of_checkEnd_mem h
  obtain ⟨c', hc', hown⟩ := Runner.collected_or_sawDeadline hl hend
  obtain rfl := Option.some.inj (hc.symm.trans hc')
  refine ⟨result, hsays, hown.imp_left ?_⟩
  rintro ⟨hd, hjoined, hyields⟩
  exact ⟨hyields, begun_of_collected hd hjoined ha⟩

end Runner

namespace Session

/-! ### Steps -/

/-- The probe that a step runs, with the runner. -/
def Step.run? : Step → Option (Nat × Runner)
  | .run probe runner _ => some (probe, runner)
  | .respond probe options hooks => some (probe, Endpoint.runner options hooks)
  | .close | .record | .stopRecording => none

/-- Whether a step releases the probes. -/
def Step.closes : Step → Bool
  | .close => true
  | _ => false

/-- The report that an answer gives or was made from. -/
def Answer.report? : Answer → Option Report
  | .run (.report report) => some report
  | .response _ report => some report
  | _ => Option.none

/-- The session after steps. -/
def after (s : Session) (steps : List Step) : Session := steps.foldl (fun s step => (s.step step).2) s

/-- Among steps one after another each is taken in the session after those before it. -/
theorem getElem?_steps (s : Session) (before : List Step) (step : Step) (later : List Step) :
    (s.steps (before ++ step :: later))[before.length]? = some ((s.after before).step step) := by
  induction before generalizing s with
  | nil => rfl
  | cons head rest ih => exact ih (s.step head).2

/-- The tally of the check at a place of a probe. -/
def tally? (s : Session) (i j : Nat) : Option Tally := s.tallies[i]?.bind (·[j]?)

/-- What a step that runs a probe does to the tally of the check at a place in it. -/
structure CallsOnce (r : Runner) (seen : Seen) (c : Check) (j : Nat) (t t' : Tally) : Prop where
  /-- At most one call begins. -/
  begun : t'.begun = t.begun ∨ t'.begun = t.begun + 1
  /-- A call that comes to its end is the one that begins in this step. It does the work which the
  check has for the number of calls begun before, and within the time of the step. -/
  finished : t'.finished = t.finished ∨
    t'.finished = t.finished + 1 ∧ t'.begun = t.begun + 1 ∧
      ∃ delay, c.finishing (c.work t.begun) = some delay ∧ delay ≤ seen.elapsed
  /-- A call begins if the step comes to a report and no event tells of the deadline. -/
  reported : ∀ report, seen.answer.report? = some report → ¬seen.trace.TellsDeadline →
    t'.begun = t.begun + 1
  /-- No call begins if a hook fails before this check or before one ahead of it. -/
  refused : ∀ name check k, .startHook name check k ∈ seen.trace →
    (Sight.startHook name check k).failure? r.hooks ≠ none → k ≤ j → t'.begun = t.begun
  /-- An end that is told of the check is the own result of the call that begins, or is made up for it
  when the deadline is told. -/
  answered : ∀ check healthy detail,
    Run.Note.checkEnd j check healthy detail ∈ seen.trace.events.filterMap Run.Note.ofEvent? →
    ∃ result : CheckResult,
      (check = result.name ∧ healthy = result.healthy ∧ detail = result.detail) ∧
        (c.Yields t.begun result ∧ t'.begun = t.begun + 1 ∨
          seen.trace.TellsDeadline ∧ ∃ elapsed, result = .timedOut c.name elapsed)

variable {s : Session} {step : Step} {i j : Nat} {r : Runner} {probe : Probe} {c : Check} {t : Tally}

/-- No step changes the probes. -/
theorem step_probes (s : Session) (step : Step) : (s.step step).2.probes = s.probes := by
  cases step with
  | run index runner shared | respond index options hooks =>
      simp only [Session.step]
      cases s.probes[index]? <;> rfl
  | close | record | stopRecording => rfl

/-- No steps change the probes. -/
theorem after_probes (s : Session) (steps : List Step) : (s.after steps).probes = s.probes := by
  induction steps generalizing s with
  | nil => rfl
  | cons step rest ih => exact (ih _).trans (step_probes s step)

/-- A step that runs a probe does not release the probes. -/
theorem closes_of_run? {p : Nat × Runner} (h : step.run? = some p) : step.closes = false := by
  cases step with
  | close => cases h
  | run | respond | record | stopRecording => rfl

/-- An answer that is the result of a run gives a report only if the run did. -/
theorem Answer.eq_of_report? {result : Run.Result} {report : Report}
    (h : (Answer.run result).report? = some report) : result = .report report := by
  cases result with
  | report report' =>
      cases h
      rfl
  | failed | never | panicked => cases h

/-- A step that runs a probe makes one run of it, given the calls begun before, and counts what became
of its calls. -/
theorem step_of_run (hrun : step.run? = some (i, r)) (hp : s.probes[i]? = some probe) :
    let run := r.run probe ((s.tallies.getD i []).map (·.begun))
    (s.step step).1.trace = run.trace ∧ (s.step step).1.elapsed = run.elapsed ∧
      (∀ report, (s.step step).1.answer.report? = some report → run.result = .report report) ∧
      (s.step step).2.tallies = s.tallies.set i (addRun (s.tallies.getD i []) run.activity) := by
  intro run
  cases step with
  | run index runner shared =>
      cases hrun
      simp only [Session.step, hp]
      exact ⟨rfl, rfl, fun report => Answer.eq_of_report?, rfl⟩
  | respond index options hooks =>
      cases hrun
      simp only [Session.step, hp]
      refine ⟨rfl, rfl, fun report hreport => ?_, rfl⟩
      simp only [seen, runProbe] at hreport
      cases hresult : run.result with
      | report report' =>
          rw [hresult] at hreport
          cases hreport
          rfl
      | failed | never | panicked =>
          rw [hresult] at hreport
          cases hreport
  | close | record | stopRecording => cases hrun

/-- A step that is to run a probe which is not there does nothing. -/
theorem step_of_missing (hrun : step.run? = some (i, r)) (hp : s.probes[i]? = none) :
    (s.step step).2 = s := by
  cases step with
  | run | respond =>
      cases hrun
      simp only [Session.step, hp]
  | close | record | stopRecording => cases hrun

/-- A tally is where the tallies of its probe are. -/
theorem tally?_eq_some_iff :
    s.tally? i j = some t ↔ ∃ ts, s.tallies[i]? = some ts ∧ ts[j]? = some t :=
  Option.bind_eq_some_iff

/-- The tally with a run counted has one call more if the call of the check began in it. -/
theorem begun_add {a : Activity} (h : a.begun = true) : (Tally.add t a).begun = t.begun + 1 := by
  rw [Tally.add, h]
  rfl

/-- **A run makes one call at most of each check.** -/
theorem callsOnce_add {calls : List Nat} {seen : Seen} {a : Activity}
    (hc : probe.checks[j]? = some c) (hcalls : calls.getD j 0 = t.begun)
    (ha : (r.run probe calls).activity[j]? = some a)
    (htrace : seen.trace = (r.run probe calls).trace)
    (helapsed : seen.elapsed = (r.run probe calls).elapsed)
    (hreport : ∀ report, seen.answer.report? = some report →
      (r.run probe calls).result = .report report) :
    CallsOnce r seen c j t (Tally.add t a) where
  begun := by
    cases hb : a.begun with
    | true => exact .inr (begun_add hb)
    | false => exact .inl (by rw [Tally.add, hb]; rfl)
  finished := by
    cases hf : a.finished with
    | true =>
        obtain ⟨hb, hdelay⟩ := Runner.finished_of_activity hc ha hf
        rw [hcalls] at hdelay
        rw [helapsed]
        exact .inr ⟨by rw [Tally.add, hf]; rfl, begun_add hb, hdelay⟩
    | false => exact .inl (by rw [Tally.add, hf]; rfl)
  reported report h hsaw := by
    rw [htrace] at hsaw
    exact begun_add (Runner.begun_of_report (hreport report h) hsaw ha
      (List.getElem?_eq_some_iff.mp hc).1)
  refused name check k hmem hf hkj := by
    rw [htrace] at hmem
    rw [Runner.not_begun_of_startFailure hmem hf hkj (List.getElem?_eq_some_iff.mp hc).1 ha]
    rfl
  answered check healthy detail hnote := by
    rw [htrace] at hnote ⊢
    obtain ⟨result, hsays, hown⟩ := Runner.end_of_note hc ha hnote
    rw [hcalls] at hown
    exact ⟨result, hsays, hown.imp_left fun h => ⟨h.1, begun_add h.2⟩⟩

/-- **What a step does to the tally of a check**: the run of its probe is counted, or its release, or
nothing. -/
theorem tally_step (step : Step) (hp : s.probes[i]? = some probe) (hc : probe.checks[j]? = some c)
    (ht : s.tally? i j = some t) :
    ∃ t', (s.step step).2.tally? i j = some t' ∧
      ((∃ r a, step.run? = some (i, r) ∧ t' = Tally.add t a ∧
          (r.run probe ((s.tallies.getD i []).map (·.begun))).activity[j]? = some a) ∨
        ((∀ r, step.run? ≠ some (i, r)) ∧
          t' = if step.closes then Tally.release c t else t)) := by
  obtain ⟨ts, hts, htj⟩ := tally?_eq_some_iff.mp ht
  cases hrun : step.run? with
  | some p =>
      obtain ⟨i', r⟩ := p
      cases hp' : s.probes[i']? with
      | none =>
          have hne : i' ≠ i := fun he => by rw [he, hp] at hp'; cases hp'
          rw [step_of_missing hrun hp', closes_of_run? hrun]
          exact ⟨t, ht, .inr ⟨fun r hr => hne (Prod.mk.inj (Option.some.inj hr)).1, rfl⟩⟩
      | some probe' =>
          obtain ⟨-, -, -, htallies⟩ := step_of_run hrun hp'
          by_cases hi : i' = i
          · subst hi
            obtain rfl := Option.some.inj (hp.symm.trans hp')
            obtain ⟨a, ha⟩ : ∃ a, (r.run probe ((s.tallies.getD i' []).map (·.begun))).activity[j]? =
                some a := Runner.exists_activity hc
            refine ⟨Tally.add t a, ?_, .inl ⟨r, a, rfl, rfl, ha⟩⟩
            have hbefore : s.tallies.getD i' [] = ts := by
              rw [List.getD_eq_getElem?_getD, hts]
              rfl
            rw [hbefore] at htallies ha
            rw [tally?, htallies, List.getElem?_set_self (List.getElem?_eq_some_iff.mp hts).1,
              Option.bind_some, addRun, List.getElem?_zipWith, htj, ha]
          · rw [tally?, htallies, List.getElem?_set_ne hi, closes_of_run? hrun]
            exact ⟨t, ht, .inr ⟨fun r hr => hi (Prod.mk.inj (Option.some.inj hr)).1, rfl⟩⟩
  | none =>
      refine ⟨if step.closes then Tally.release c t else t, ?_, .inr ⟨nofun, rfl⟩⟩
      cases step with
      | run | respond => cases hrun
      | record | stopRecording => exact ht
      | close =>
          have hclosed : (s.step .close).2.tallies[i]? =
              some (List.zipWith Tally.release probe.checks ts) := by
            rw [Session.step, closeAll, releaseProbes_fst, List.getElem?_zipWith, hp, hts]
          rw [tally?, hclosed, Option.bind_some, List.getElem?_zipWith, hc, htj]
          rfl

/-- **A step makes one call at most of each check of the probe that it runs.** -/
theorem callsOnce_step (hrun : step.run? = some (i, r)) (hp : s.probes[i]? = some probe)
    (hc : probe.checks[j]? = some c) (ht : s.tally? i j = some t) :
    ∃ t', (s.step step).2.tally? i j = some t' ∧ CallsOnce r (s.step step).1 c j t t' := by
  obtain ⟨t', ht', ⟨r', a, hrun', rfl, ha⟩ | ⟨hnot, -⟩⟩ := tally_step step hp hc ht
  · obtain rfl : r = r' := (Prod.mk.inj (Option.some.inj (hrun.symm.trans hrun'))).2
    obtain ⟨ts, hts, htj⟩ := tally?_eq_some_iff.mp ht
    have hcalls : ((s.tallies.getD i []).map (·.begun)).getD j 0 = t.begun := by
      rw [List.getD_eq_getElem?_getD (l := s.tallies), hts, Option.getD_some,
        List.getD_eq_getElem?_getD, List.getElem?_map, htj]
      rfl
    obtain ⟨htrace, helapsed, hreport, -⟩ := step_of_run hrun hp
    exact ⟨_, ht', callsOnce_add hc hcalls ha htrace helapsed hreport⟩
  · exact absurd hrun (hnot r)

/-- **A step makes no call of a check in another probe than the one that it runs.** -/
theorem tally_of_elsewhere (hnot : ∀ r, step.run? ≠ some (i, r)) (hp : s.probes[i]? = some probe)
    (hc : probe.checks[j]? = some c) (ht : s.tally? i j = some t) :
    ∃ t', (s.step step).2.tally? i j = some t' ∧ t'.begun = t.begun ∧ t'.finished = t.finished := by
  obtain ⟨t', ht', ⟨r, -, hrun, -⟩ | ⟨-, rfl⟩⟩ := tally_step step hp hc ht
  · exact absurd hrun (hnot r)
  · have hrelease : (Tally.release c t).begun = t.begun ∧ (Tally.release c t).finished = t.finished := by
      rw [Tally.release]
      split <;> exact ⟨rfl, rfl⟩
    refine ⟨_, ht', ?_⟩
    split
    · exact hrelease
    · exact ⟨rfl, rfl⟩

/-! ### Runs of steps -/

/-- A tally is followed by one in which no fewer calls are counted, and the calls that finished in
between are no more than those that began in between. -/
structure Leads (t t' : Tally) : Prop where
  begun_le : t.begun ≤ t'.begun
  finished_le : t.finished ≤ t'.finished
  between : t'.finished - t.finished ≤ t'.begun - t.begun

namespace Leads

variable {t' t'' : Tally}

theorem refl (t : Tally) : Leads t t := ⟨Nat.le_refl _, Nat.le_refl _, by omega⟩

theorem trans (h : Leads t t') (h' : Leads t' t'') : Leads t t'' := by
  obtain ⟨hbegun, hfinished, hbetween⟩ := h
  obtain ⟨hbegun', hfinished', hbetween'⟩ := h'
  exact ⟨by omega, by omega, by omega⟩

/-- One call more, finished or not. -/
theorem of_callsOnce {seen : Seen} (h : CallsOnce r seen c j t t') : Leads t t' := by
  have hbegun := h.begun
  rcases h.finished with hf | ⟨hf, hb, -⟩
  · exact ⟨by omega, by omega, by omega⟩
  · exact ⟨by omega, by omega, by omega⟩

end Leads

/-- One step leads a tally on. -/
theorem leads_step (step : Step) (hp : s.probes[i]? = some probe) (hc : probe.checks[j]? = some c)
    (ht : s.tally? i j = some t) : ∃ t', (s.step step).2.tally? i j = some t' ∧ Leads t t' := by
  by_cases hrun : ∃ r, step.run? = some (i, r)
  · obtain ⟨r, hrun⟩ := hrun
    obtain ⟨t', ht', hcalls⟩ := callsOnce_step hrun hp hc ht
    exact ⟨t', ht', .of_callsOnce hcalls⟩
  · obtain ⟨t', ht', hb, hf⟩ := tally_of_elsewhere (fun r hr => hrun ⟨r, hr⟩) hp hc ht
    exact ⟨t', ht', by omega, by omega, by omega⟩

/-- **Any steps lead a tally on**, and they leave the probes alone. -/
theorem tally_after (steps : List Step) (hp : s.probes[i]? = some probe)
    (hc : probe.checks[j]? = some c) (ht : s.tally? i j = some t) :
    (s.after steps).probes = s.probes ∧
      ∃ t', (s.after steps).tally? i j = some t' ∧ Leads t t' := by
  refine ⟨after_probes s steps, ?_⟩
  induction steps generalizing s t with
  | nil => exact ⟨t, ht, .refl t⟩
  | cons step rest ih =>
      obtain ⟨t₁, ht₁, hleads⟩ := leads_step step hp hc ht
      obtain ⟨t₂, ht₂, hleads'⟩ := ih (step_probes s step ▸ hp) ht₁
      exact ⟨t₂, ht₂, hleads.trans hleads'⟩

/-- At the beginning of a session no call of a check is counted. -/
theorem tally?_ofProbes {probes : List Probe} (hp : probes[i]? = some probe)
    (hc : probe.checks[j]? = some c) : (ofProbes probes).tally? i j = some {} := by
  rw [tally?, ofProbes, List.getElem?_map, hp, Option.map_some, Option.bind_some, List.getElem?_map,
    hc]
  rfl

/-- **No call of a check outlives its run, and no run repeats a call.** Take any step in a session,
after any others. If it runs a probe, with whatever runner and however the run ends, it makes one call
at most of each check of it, as `CallsOnce` says: just one if it comes to a report without the deadline,
none from the check on before which a hook fails, and always the one that the check has for the number
of calls begun before. It makes no call of a check in another probe, and none at all if it runs nothing.
No more calls finish than begin, neither in all nor from any step on, so that a call which has not
finished when its run returns is never counted as finished later. -/
theorem calls_accounted (probes : List Probe) (before : List Step) (step : Step)
    (later : List Step) :
    let s := (ofProbes probes).after before
    let seen := (s.step step).1
    let s' := (s.step step).2
    ((ofProbes probes).steps (before ++ step :: later))[before.length]? = some (seen, s') ∧
      ∀ i j probe c, probes[i]? = some probe → probe.checks[j]? = some c →
        (ofProbes probes).tally? i j = some {} ∧
        ∃ t t' t'', s.tally? i j = some t ∧ s'.tally? i j = some t' ∧
          (s'.after later).tally? i j = some t'' ∧
          (∀ r, step.run? = some (i, r) → CallsOnce r seen c j t t') ∧
          ((∀ r, step.run? ≠ some (i, r)) → t'.begun = t.begun ∧ t'.finished = t.finished) ∧
          t'.finished ≤ t'.begun ∧
          t'.begun ≤ t''.begun ∧ t'.finished ≤ t''.finished ∧
          t''.finished - t'.finished ≤ t''.begun - t'.begun := by
  intro s seen s'
  refine ⟨getElem?_steps _ _ _ _, fun i j probe c hp hc => ?_⟩
  have hfirst := tally?_ofProbes hp hc
  obtain ⟨hprobes, t, ht, hleads⟩ := tally_after before (s := ofProbes probes) hp hc hfirst
  have hps : s.probes[i]? = some probe := by
    rw [hprobes]
    exact hp
  have hps' : s'.probes[i]? = some probe := by
    rw [step_probes]
    exact hps
  obtain ⟨t', ht', hleads'⟩ := leads_step step hps hc ht
  obtain ⟨-, t'', ht'', hleads''⟩ := tally_after later hps' hc ht'
  refine ⟨hfirst, t, t', t'', ht, ht', ht'', fun r hrun => ?_, fun hnot => ?_, ?_,
    hleads''.begun_le, hleads''.finished_le, hleads''.between⟩
  · obtain ⟨u, hu, hcalls⟩ := callsOnce_step hrun hps hc ht
    obtain rfl := Option.some.inj (ht'.symm.trans hu)
    exact hcalls
  · obtain ⟨u, hu, hsame⟩ := tally_of_elsewhere hnot hps hc ht
    obtain rfl := Option.some.inj (ht'.symm.trans hu)
    exact hsame
  · exact (hleads.trans hleads').between

/-! ### A hook that fails between two checks -/

/-- A runner whose hook waits and then fails before the second check. -/
def stopping : Runner where
  hooks := some ⟨fun index => if index = 1 then ⟨1, some ["no room"]⟩ else {}, fun _ => {}⟩

/-- The first function has begun when the hook fails and is cut off before its end. The second one has
not begun. -/
theorem calls_accounted_stopped : ∃ t t' : Tally,
    ((ofProbes [Runner.halting]).step (.run 0 stopping true)).2.tally? 0 0 = some t ∧
      ((ofProbes [Runner.halting]).step (.run 0 stopping true)).2.tally? 0 1 = some t' ∧
      t = ⟨1, 0, 0⟩ ∧ t'.begun = 0 := by
  obtain ⟨-, haccount⟩ := calls_accounted [Runner.halting] [] (.run 0 stopping true) []
  obtain ⟨hfirst, t, t', -, ht, ht', -, hcalls, -⟩ := haccount 0 1 _ _ rfl rfl
  obtain rfl := Option.some.inj (hfirst.symm.trans ht)
  have hmem : Sight.startHook "warmup" "index" 1 ∈
      ((ofProbes [Runner.halting]).step (.run 0 stopping true)).1.trace :=
    List.mem_of_getLast? rfl
  have hbegun := (hcalls stopping rfl).refused "warmup" "index" 1 hmem (by decide) (Nat.le_refl 1)
  exact ⟨⟨1, 0, 0⟩, t', rfl, ht', rfl, hbegun⟩

end Session

end Vigil
