import Vigil.Proofs.Run.Deadline

/-!
# The Two Modes

A runner either fails when its budget is used up or gives the pending checks up and reports them as
failed. Up to the event that tells of the deadline the two modes are one run: the same tasks, the same
results collected, the same hooks called, the same tasks cut off. A run that does not come to this
event knows nothing of its mode.

## Main results

* `Runner.runInOrder_withMode`: a run that does not see the deadline is the same in either mode.
* `Runner.trace_of_deadline`: a run that sees the deadline, cut at the event that tells of it.
* `Runner.modes_agree`: the two modes are one run seen twice.
-/

namespace Vigil

/-- An event of a trace tells of the deadline. -/
def Trace.TellsDeadline (t : Trace) : Prop := ∃ e, Sight.event e ∈ t ∧ e.name = "probe_timeout"

/-- A trace in two parts tells of the deadline if one of them does. -/
theorem Trace.tellsDeadline_append {t u : Trace} :
    TellsDeadline (t ++ u) ↔ t.TellsDeadline ∨ u.TellsDeadline := by
  simp only [TellsDeadline, List.mem_append, or_and_right, exists_or]

/-- A single event tells of the deadline if it has the name for it. -/
theorem Trace.tellsDeadline_event {e : Event} :
    TellsDeadline [.event e] ↔ e.name = "probe_timeout" := by
  simp [TellsDeadline]

namespace Run

/-- The dispatch of checks does not tell of the deadline. -/
theorem not_tellsDeadline_starts (probe : String) (hooked : Bool) (places : List (Check × Nat)) :
    ¬Trace.TellsDeadline (places.flatMap (startSights probe hooked)) := by
  rintro ⟨e, he, hname⟩
  obtain ⟨p, -, hp⟩ := List.mem_flatMap.mp he
  have hstart : e = checkStart probe p.1 p.2 := by
    cases hooked <;> simpa [startSights] using hp
  rw [hstart] at hname
  exact absurd hname (by simp [checkStart, Event.emit])

/-- The ends of checks do not tell of the deadline. -/
theorem not_tellsDeadline_ends (probe : String) (hooked : Bool) (ends : List (Nat × CheckResult)) :
    ¬Trace.TellsDeadline (ends.flatMap (endSights probe hooked)) := by
  rintro ⟨e, he, hname⟩
  obtain ⟨p, -, hp⟩ := List.mem_flatMap.mp he
  have hend : e = checkEnd probe p.1 p.2 := by
    cases hooked <;> simpa [endSights] using hp
  rw [hend] at hname
  exact absurd hname (by simp [checkEnd, Event.emit])

end Run

namespace Runner

open Run

/-- The runner in one of the two modes. -/
def withMode (r : Runner) (failureOnTimeout : Bool) : Runner := { r with failureOnTimeout }

variable {r : Runner} {probe : Probe} {calls : List Nat}
  {s : Schedule (r.dispatched probe calls).tasks}

/-- Before a run sees the deadline nothing tells of it. -/
theorem not_tellsDeadline_prologue (hd : (r.dispatched probe calls).failure = none) :
    ¬Trace.TellsDeadline
      (r.prologue probe (r.dispatched probe calls) (r.collected probe (r.dispatched probe calls) s)) := by
  rw [prologue, dispatched_trace hd, collected_trace, List.cons_append, ← List.singleton_append,
    Trace.tellsDeadline_append, Trace.tellsDeadline_append, Trace.tellsDeadline_event]
  rintro (hstart | hstarts | hends)
  · simp [probeStart, Event.emit] at hstart
  · exact not_tellsDeadline_starts _ _ _ hstarts
  · exact not_tellsDeadline_ends _ _ _ hends

/-- Unless the deadline ends collection the rest of a run is the same in either mode. -/
theorem close_withMode (mode : Bool) {c : Collected} (h : c.closing ≠ .deadline) :
    (r.withMode mode).close probe c = r.close probe c := by
  rw [close, close]
  cases hc : c.closing with
  | deadline => exact absurd hc h
  | complete | hook | never => rfl

/-- Whether a run comes to collection is the same in either mode. -/
theorem collects_withMode {mode : Bool} {d : Dispatched} {begins : Nat} :
    (r.withMode mode).Collects d begins ↔ r.Collects d begins :=
  ⟨fun h => ⟨h.dispatched, h.onClock⟩, fun h => ⟨h.dispatched, h.onClock⟩⟩

/-- A run that does not see the deadline is the same in either mode. -/
theorem runInOrder_withMode (mode : Bool)
    (h : ¬(r.Collects (r.dispatched probe calls) s.begins ∧
      (r.collected probe (r.dispatched probe calls) s).closing = .deadline)) :
    (r.withMode mode).runInOrder probe calls s = r.runInOrder probe calls s := by
  have hdispatched : (r.withMode mode).dispatched probe calls = r.dispatched probe calls := rfl
  have hovers (d : Dispatched) : (r.withMode mode).overruns d s.begins = r.overruns d s.begins := rfl
  cases hd : (r.dispatched probe calls).failure with
  | some chain =>
      simp only [runInOrder, hdispatched, hd]
      rfl
  | none =>
      cases ho : r.overruns (r.dispatched probe calls) s.begins with
      | true =>
          simp only [runInOrder, hdispatched, hd, hovers, ho, if_true]
          rfl
      | false =>
          have hcollects : r.Collects (r.dispatched probe calls) s.begins := ⟨hd, ho⟩
          have hclose :
              (r.withMode mode).close probe (r.collected probe (r.dispatched probe calls) s) =
                r.close probe (r.collected probe (r.dispatched probe calls) s) :=
            close_withMode mode fun hc => h ⟨hcollects, hc⟩
          refine (runInOrder_of_collects (r := r.withMode mode) ⟨hd, ho⟩).trans ?_
          refine Eq.trans ?_ (runInOrder_of_collects hcollects).symm
          exact congrArg (fun closed : Run.Result × Trace × Nat => (⟨closed.1, r.prologue probe
            (r.dispatched probe calls) (r.collected probe (r.dispatched probe calls) s) ++ closed.2.1,
            closed.2.2, _⟩ : Run)) hclose

/-- **A run that sees the deadline, cut at the event that tells of it.** Nothing after that event tells
of the deadline again, and where the budget makes the run fail nothing comes after it at all. -/
theorem trace_of_deadline (hd : r.Collects (r.dispatched probe calls) s.begins)
    (hc : (r.collected probe (r.dispatched probe calls) s).closing = .deadline) :
    ∃ after : Trace,
      (r.runInOrder probe calls s).trace =
        r.prologue probe (r.dispatched probe calls) (r.collected probe (r.dispatched probe calls) s) ++
          .event (r.notice probe (r.collected probe (r.dispatched probe calls) s)) :: after ∧
      ¬after.TellsDeadline ∧
      (r.failureOnTimeout = false → after = [] ∧ (r.runInOrder probe calls s).result =
        .failed (.timeout probe.name (r.timeout.getD .zero))) := by
  have hcourse := r.course_runInOrder probe calls s
  generalize r.runInOrder probe calls s = run at hcourse
  cases hcourse with
  | startFailed hd' =>
      rw [hd.dispatched] at hd'
      cases hd'
  | panicked _ ho =>
      rw [hd.onClock] at ho
      cases ho
  | complete _ hc' | never _ hc' | endFailed _ hc' =>
      rw [hc] at hc'
      cases hc'
  | timedOut =>
      refine ⟨[], rfl, ?_, fun _ => ⟨rfl, rfl⟩⟩
      rintro ⟨e, he, -⟩
      cases he
  | givingUpFailed _ _ hr hg =>
      refine ⟨_, rfl, ?_, fun hr' => by rw [hr] at hr'; cases hr'⟩
      obtain ⟨k, p, -, -, htrace⟩ := giveUp_of_failure hg
      rw [givenUp, htrace]
      exact not_tellsDeadline_ends _ _ _
  | givenUp _ _ hr hg =>
      refine ⟨(r.givenUp probe _).trace ++ [_], rfl, ?_, fun hr' => by rw [hr] at hr'; cases hr'⟩
      rw [givenUp, (giveUp_of_ok hg).2, Trace.tellsDeadline_append, Trace.tellsDeadline_event]
      rintro (hends | hend)
      · exact not_tellsDeadline_ends _ _ _ hends
      · simp [conclude, probeEnd, Event.emit] at hend

/-- A run fails for lack of time only with the name of its probe and the budget of its runner. -/
theorem eq_of_timeout {name : String} {limit : Duration}
    (h : (r.runInOrder probe calls s).result = .failed (.timeout name limit)) :
    name = probe.name ∧ r.timeout = some limit ∧ r.failureOnTimeout = false := by
  have hcourse := r.course_runInOrder probe calls s
  generalize r.runInOrder probe calls s = run at h hcourse
  cases hcourse with
  | timedOut _ hc hr =>
      obtain ⟨rfl, rfl⟩ := Fault.timeout.inj (Run.Result.failed.inj h)
      obtain ⟨⟨d, hdeadline, -⟩, -⟩ := collect_of_deadline hc
      obtain ⟨budget, ht, -⟩ := Option.map_eq_some_iff.mp hdeadline
      exact ⟨rfl, by rw [ht, Option.getD_some], hr⟩
  | startFailed | panicked | complete | never | endFailed | givingUpFailed | givenUp => cases h

/-- Whether a run sees the deadline is the same in either mode. -/
theorem sawDeadline_withMode_iff (mode : Bool) :
    ((r.withMode mode).runInOrder probe calls s).SawDeadline ↔
      r.Collects (r.dispatched probe calls) s.begins ∧
        (r.collected probe (r.dispatched probe calls) s).closing = .deadline :=
  (sawDeadline_iff_closing (r := r.withMode mode)).trans (and_congr_left' collects_withMode)

/-- The two modes are the same for a run that does not see the deadline. -/
theorem runInOrder_withMode_eq
    (h : ¬((r.withMode true).runInOrder probe calls s).SawDeadline) :
    (r.withMode false).runInOrder probe calls s = (r.withMode true).runInOrder probe calls s := by
  have hmode := fun mode => runInOrder_withMode mode (mt (sawDeadline_withMode_iff true).mpr h)
  exact (hmode false).trans (hmode true).symm

/-- For one that does, they show the same up to the event that tells of the deadline, and the run that
fails shows no more. -/
theorem trace_withMode (h : ((r.withMode true).runInOrder probe calls s).SawDeadline) :
    ∃ (before after : Trace) (e : Event), e.name = "probe_timeout" ∧
      ¬before.TellsDeadline ∧ ¬after.TellsDeadline ∧
      ((r.withMode true).runInOrder probe calls s).trace = before ++ .event e :: after ∧
      ((r.withMode false).runInOrder probe calls s).trace = before ++ [.event e] := by
  obtain ⟨hd, hc⟩ := (sawDeadline_withMode_iff true).mp h
  obtain ⟨_, ha, -, hlast⟩ :=
    trace_of_deadline (r := r.withMode false) (s := s) (collects_withMode.mpr hd) hc
  obtain ⟨after, hb, hafter, -⟩ :=
    trace_of_deadline (r := r.withMode true) (s := s) (collects_withMode.mpr hd) hc
  rw [(hlast rfl).1] at ha
  exact ⟨_, after, _, rfl, not_tellsDeadline_prologue (r := r) (s := s) hd.dispatched, hafter, hb, ha⟩

/-- What becomes of the calls is the same in either mode. -/
theorem activity_withMode :
    ((r.withMode false).runInOrder probe calls s).activity =
      ((r.withMode true).runInOrder probe calls s).activity := by
  by_cases h : ((r.withMode true).runInOrder probe calls s).SawDeadline
  · have hd := ((sawDeadline_withMode_iff true).mp h).1
    have hmode := fun mode => congrArg Run.activity
      (runInOrder_of_collects (r := r.withMode mode) (s := s) (collects_withMode.mpr hd))
    exact (hmode false).trans (hmode true).symm
  · rw [runInOrder_withMode_eq h]

/-- The events of the run that fails are the first of those of the other. -/
theorem events_withMode :
    ((r.withMode false).runInOrder probe calls s).trace.events <+:
      ((r.withMode true).runInOrder probe calls s).trace.events := by
  by_cases h : ((r.withMode true).runInOrder probe calls s).SawDeadline
  · obtain ⟨before, after, e, -, -, -, hb, ha⟩ := trace_withMode h
    rw [ha, hb, List.append_cons before _ after]
    exact (List.prefix_append _ _).filterMap _
  · exact runInOrder_withMode_eq h ▸ List.prefix_refl _

end Runner

/-- A run with the first of the events of another one shows each sink the first of what the other
shows. -/
theorem Session.seen_mono (session : Session) (shared : Bool) {a b : Run} (answer answer' : Answer)
    (h : a.trace.events <+: b.trace.events) :
    (session.seen a answer shared).own <+: (session.seen b answer' shared).own ∧
      (session.seen a answer shared).shared <+: (session.seen b answer' shared).shared := by
  cases shared with
  | false => exact ⟨h, List.prefix_refl _⟩
  | true =>
      refine ⟨List.prefix_refl _, ?_⟩
      simp only [Session.seen, Bool.true_and]
      split
      · exact h
      · exact List.prefix_refl _

namespace Runner

open Run

/-- **The two modes are one run seen twice.** Take the run `a` that fails when the budget is used up
and the run `b` that reports the pending checks as failed, of the same probe in the same state and with
the tasks in the same order. Then `a` fails for lack of time, with the name of the probe and the
budget, exactly if an event of `b` tells of the deadline. In this case `a` shows what `b` shows up to
and including that event, and no more. In every other case the two runs are equal in all that can be
seen of them. What becomes of the checks' calls is the same in any case, and without a budget neither
run fails for lack of time. -/
theorem modes_agree (r : Runner) (probe : Probe) (calls : List Nat)
    (s : Schedule (r.dispatched probe calls).tasks) :
    let a := (r.withMode false).runInOrder probe calls s
    let b := (r.withMode true).runInOrder probe calls s
    (b.SawDeadline ↔ ∃ budget, r.timeout = some budget ∧
      a.result = .failed (.timeout probe.name budget)) ∧
      (∀ name limit, a.result = .failed (.timeout name limit) →
        name = probe.name ∧ r.timeout = some limit) ∧
      (b.SawDeadline → ∃ (before after : Trace) (e : Event), e.name = "probe_timeout" ∧
        ¬before.TellsDeadline ∧ ¬after.TellsDeadline ∧
        b.trace = before ++ .event e :: after ∧ a.trace = before ++ [.event e]) ∧
      (¬b.SawDeadline → a = b) ∧
      a.activity = b.activity ∧
      (∀ (session : Session) (shared : Bool),
        (session.seen a (.run a.result) shared).own <+: (session.seen b (.run b.result) shared).own ∧
          (session.seen a (.run a.result) shared).shared <+:
            (session.seen b (.run b.result) shared).shared) ∧
      (r.timeout = none → ∀ name limit, a.result ≠ .failed (.timeout name limit) ∧
        b.result ≠ .failed (.timeout name limit)) := by
  intro a b
  have hsaw : b.SawDeadline ↔ _ := sawDeadline_withMode_iff true
  refine ⟨⟨fun h => ?_, fun ⟨budget, _, h⟩ => ?_⟩, fun name limit h => ?_, trace_withMode,
    runInOrder_withMode_eq, activity_withMode,
    fun session shared => session.seen_mono shared _ _ events_withMode,
    fun ht name limit => ⟨fun h => ?_, fun h => ?_⟩⟩
  · obtain ⟨hd, hc⟩ := hsaw.mp h
    obtain ⟨_, -, -, hlast⟩ :=
      trace_of_deadline (r := r.withMode false) (s := s) (collects_withMode.mpr hd) hc
    obtain ⟨-, ht, -⟩ := eq_of_timeout (r := r.withMode false) (hlast rfl).2
    exact ⟨_, ht, (hlast rfl).2⟩
  · exact hsaw.mpr ((sawDeadline_withMode_iff false).mp (sawDeadline_of_timeout h))
  · obtain ⟨hname, ht, -⟩ := eq_of_timeout (r := r.withMode false) h
    exact ⟨hname, ht⟩
  · obtain ⟨-, hsome, -⟩ := eq_of_timeout (r := r.withMode false) h
    rw [show (r.withMode false).timeout = r.timeout from rfl, ht] at hsome
    cases hsome
  · obtain ⟨-, -, hmode⟩ := eq_of_timeout (r := r.withMode true) h
    cases hmode

end Runner

end Vigil
