import Mathlib.Data.List.Perm.Basic
import Vigil.Proofs.Redaction
import Vigil.Proofs.Run.Log

/-!
# Secrecy of Credentials

What a check shows of its settings may hold credentials, and the only way from there to an observer is
the event of its dispatch, which is redacted. So a probe and the probe with its settings redacted
beforehand have the same runs (`Runner.runInOrder_redacted`), and two probes that differ in credentials
alone are redacted to one probe.

## Main results

* `Runner.runInOrder_redacted`, `Runner.run_redacted`: redacting a probe beforehand changes no run.
* `Session.steps_redacted`: nor does it change what is seen of a session.
* `Runner.redacted_of_mem_events`: the events of a run are redacted.
* `Session.secrets_unseen`: credentials do not influence what is seen, and every sink receives
  redacted events.
-/

namespace Vigil

/-- The check with the credentials in its settings replaced. -/
def Check.redacted (c : Check) : Check := { c with describe := Redaction.redactFields c.describe }

/-- The probe with the credentials in the settings of its checks replaced. -/
def Probe.redacted (p : Probe) : Probe := { p with checks := p.checks.map Check.redacted }

/-- The session with its probes redacted. -/
def Session.redacted (s : Session) : Session := { s with probes := s.probes.map Probe.redacted }

/-- Nothing is left to redact in an event. -/
def Event.Redacted (e : Event) : Prop := Redaction.redactFields e.fields = e.fields

/-- An event that is ready for a sink is redacted. -/
theorem Event.redacted_emit (level : Level) (name : String) (fields : Json.Fields) :
    (Event.emit level name fields).Redacted := Redaction.redactFields_redactFields fields

/-- A function makes two lists one if it makes their members the same one by one. -/
theorem map_eq_map_iff_forall₂ {α β : Type} {f : α → β} {l l' : List α} :
    l.map f = l'.map f ↔ List.Forall₂ (fun a a' => f a = f a') l l' := by
  rw [← List.forall₂_eq_eq_eq, List.forall₂_map_left_iff, List.forall₂_map_right_iff]

namespace Run

variable {probe : String} {hooks : Option Hooks}

/-- The task of the redacted check. -/
def Task.redacted (t : Task) : Task := { t with check := t.check.redacted }

/-- The arrival of the redacted task. -/
def Arrival.redacted (a : Arrival) : Arrival := { a with task := a.task.redacted }

/-! ### Dispatch and collection -/

/-- The event of a dispatch does not tell whether the check was redacted beforehand. -/
theorem checkStart_redacted (c : Check) (index : Nat) :
    checkStart probe c.redacted index = checkStart probe c index := by
  simp only [checkStart, Check.redacted, Event.emit, Redaction.redactFields, Redaction.redact,
    Redaction.redactFields_redactFields]

/-- Dispatch of redacted checks makes the tasks of these and is the same otherwise. -/
theorem dispatch_redacted (index now : Nat) (checks : List (Check × Nat)) :
    dispatch probe hooks index now (checks.map fun p => (p.1.redacted, p.2)) =
      { dispatch probe hooks index now checks with
        tasks := (dispatch probe hooks index now checks).tasks.map Task.redacted } := by
  induction checks generalizing index now with
  | nil => rfl
  | cons head rest ih =>
      obtain ⟨c, n⟩ := head
      rw [List.map_cons, dispatch, dispatch, Hooks.call_eq, Hooks.call_eq]
      cases hf : (Hooks.actOf hooks (·.onStart index)).failure with
      | some chain => rfl
      | none =>
          simp only [ih, checkStart_redacted]
          rfl

/-- A redacted task settles as the task does. -/
theorem Arrival.ofTask?_redacted (t : Task) :
    Arrival.ofTask? t.redacted = (Arrival.ofTask? t).map Arrival.redacted := by
  rw [Arrival.ofTask?, Arrival.ofTask?, Option.map_map]
  rfl

/-- The arrivals of redacted tasks are redacted. -/
theorem Arrival.filterMap_redacted (tasks : List Task) :
    (tasks.map Task.redacted).filterMap Arrival.ofTask? =
      (tasks.filterMap Arrival.ofTask?).map Arrival.redacted := by
  rw [List.filterMap_map, List.map_filterMap]
  exact congrArg (List.filterMap · tasks) (funext Arrival.ofTask?_redacted)

/-- Collection does not look at the settings of checks. -/
theorem collect_redacted (deadline : Option Nat) (stuck : Bool) (now : Nat) (waited : Bool)
    (order : List Arrival) :
    collect probe hooks deadline stuck now waited (order.map Arrival.redacted) =
      collect probe hooks deadline stuck now waited order := by
  simp only [collect_eq_walk]
  induction order generalizing now waited with
  | nil => rfl
  | cons a rest ih =>
      rw [List.map_cons, walk, walk]
      simp only [ih]
      rfl

/-- The order in which redacted tasks settle. -/
def Schedule.redacted {tasks tasks' : List Task} (s : Schedule tasks)
    (h : tasks' = tasks.map Task.redacted) : Schedule tasks' where
  order := s.order.map Arrival.redacted
  perm := by
    rw [h, Arrival.filterMap_redacted]
    exact s.perm.map _
  inTime := List.pairwise_map.mpr s.inTime
  begins := s.begins

namespace Executor

/-- The executor of the redacted tasks. -/
def redacted (e : Executor) : Executor where
  now := e.now
  coming := e.coming.map Task.redacted
  fresh := e.fresh.map Task.redacted
  underway := e.underway.map Arrival.redacted
  begun := e.begun.map Task.redacted
  settled := e.settled.map Arrival.redacted

/-- A redacted arrival has the place of the arrival. -/
theorem insert_redacted (a : Arrival) (underway : List Arrival) :
    insert a.redacted (underway.map Arrival.redacted) = (insert a underway).map Arrival.redacted := by
  induction underway with
  | nil => rfl
  | cons b rest ih =>
      rw [List.map_cons, insert, insert, ih, apply_ite (List.map Arrival.redacted)]
      rfl

/-- A redacted task has its first turn as the task does. -/
theorem turn_redacted (e : Executor) (t : Task) (fresh : List Task) :
    e.redacted.turn t.redacted (fresh.map Task.redacted) = (e.turn t fresh).redacted := by
  rw [turn, turn, Arrival.ofTask?_redacted]
  cases Arrival.ofTask? t with
  | none => simp [redacted]
  | some a =>
      have hturn : a.redacted.inTurn = a.inTurn := rfl
      cases h : a.inTurn <;> simp [redacted, hturn, h, insert_redacted]

/-- Redacted tasks have their first turns as the tasks do. -/
theorem turns_redacted (fresh : List Task) (e : Executor) :
    turns (fresh.map Task.redacted) e.redacted = (turns fresh e).redacted := by
  induction fresh generalizing e with
  | nil => rfl
  | cons t fresh ih => rw [List.map_cons, turns, turns, turn_redacted, ih]

/-- Redacted tasks settle as time passes as the tasks do. -/
theorem elapse_redacted (e : Executor) (later : Nat) :
    e.redacted.elapse later = (e.elapse later).redacted := by
  have htime : (fun a : Arrival => decide (a.time ≤ later)) ∘ Arrival.redacted =
      fun a => decide (a.time ≤ later) := rfl
  simp [elapse, pass, redacted, List.takeWhile_map, List.dropWhile_map, htime]

/-- All redacted tasks have settled when the tasks have. -/
theorem horizon_redacted (e : Executor) : e.redacted.horizon = e.horizon := by
  rw [horizon, redacted, List.foldr_map]
  rfl

/-- Redacted tasks take turns as the tasks do. -/
theorem takeTurns_redacted (coming : List Task) (e : Executor) :
    takeTurns (coming.map Task.redacted) e.redacted = (takeTurns coming e).redacted := by
  have hturns (e : Executor) : turns e.redacted.fresh e.redacted = (turns e.fresh e).redacted :=
    turns_redacted _ _
  induction coming generalizing e with
  | nil => simp only [List.map_nil, takeTurns, hturns, horizon_redacted, elapse_redacted]
  | cons t coming ih =>
      have hdispatch (e : Executor) : e.redacted.dispatch t.redacted (coming.map Task.redacted) =
          (e.dispatch t coming).redacted := by
        simp [dispatch, redacted]
      have hsince : t.redacted.since = t.since := rfl
      have hnow : e.redacted.now = e.now := rfl
      rw [List.map_cons, takeTurns, takeTurns, hsince, hnow, hturns, elapse_redacted]
      split <;> rw [hdispatch, ih]

end Executor

/-- What is pending does not depend on the settings of checks. -/
theorem pending_redacted (checks : List Check) (results : List (Nat × CheckResult)) :
    pending (checks.map Check.redacted) results = pending checks results := by
  rw [pending, pending, List.zipIdx_map, List.map_map]
  rfl

/-- The results of a report do not depend on the settings of checks. -/
theorem arrange_redacted (checks : List Check) (results : List (Nat × CheckResult)) :
    arrange (checks.map Check.redacted) results = arrange checks results := by
  rw [arrange, arrange, List.zipIdx_map, List.map_map]
  rfl

end Run

namespace Runner

open Run

variable {r : Runner} {probe probe' : Probe} {calls : List Nat}

/-! ### Runs -/

/-- The dispatch of a redacted probe makes redacted tasks and is the same otherwise. -/
theorem dispatched_redacted :
    r.dispatched probe.redacted calls =
      { r.dispatched probe calls with
        tasks := (r.dispatched probe calls).tasks.map Task.redacted } := by
  rw [dispatched, dispatched, ← dispatch_redacted, Probe.redacted, List.zipIdx_map, List.map_map,
    List.map_map]
  rfl

/-- The tasks of a redacted probe are redacted. -/
theorem tasks_redacted :
    (r.dispatched probe.redacted calls).tasks =
      (r.dispatched probe calls).tasks.map Task.redacted := by
  rw [dispatched_redacted]

/-- Once collected a run of the redacted probe ends as one of the probe does. -/
theorem close_redacted (c : Collected) : r.close probe.redacted c = r.close probe c := by
  have hpending : pending probe.redacted.checks c.results = pending probe.checks c.results :=
    pending_redacted _ _
  have hnotice : r.notice probe.redacted c = r.notice probe c := by rw [notice, hpending]; rfl
  have hgiven : r.givenUp probe.redacted c = r.givenUp probe c := by rw [givenUp, hpending]; rfl
  have hconclude (results : List (Nat × CheckResult)) (now : Nat) :
      conclude probe.redacted results now = conclude probe results now := by
    rw [conclude, Probe.redacted, arrange_redacted]
    rfl
  simp only [close, hnotice, hgiven, hconclude]
  rfl

/-- **A probe that is redacted beforehand has the same runs**, in whichever order the tasks settle. -/
theorem runInOrder_redacted (s : Schedule (r.dispatched probe calls).tasks) :
    r.runInOrder probe.redacted calls (s.redacted tasks_redacted) = r.runInOrder probe calls s := by
  have hstart : probeStart probe.redacted r.timeout = probeStart probe r.timeout := by
    rw [probeStart, Probe.redacted, List.length_map]
    rfl
  have hcount : probe.redacted.checks.length = probe.checks.length := List.length_map _
  have hactivities (count now : Nat) (waited : Bool) :
      activities count waited now ((r.dispatched probe calls).tasks.map Task.redacted) =
        activities count waited now (r.dispatched probe calls).tasks := by
    rw [activities, activities, List.map_map, List.length_map]
    rfl
  have hoverruns : r.overruns (r.dispatched probe.redacted calls) (s.redacted tasks_redacted).begins =
      r.overruns (r.dispatched probe calls) s.begins := by
    simp only [overruns, deadline?, dispatched_redacted]
    rfl
  have hcollected : r.collected probe.redacted (r.dispatched probe.redacted calls)
      (s.redacted tasks_redacted) = r.collected probe (r.dispatched probe calls) s := by
    rw [collected, collected, deadline?, deadline?]
    simp only [dispatched_redacted, List.any_map]
    exact collect_redacted _ _ _ _ _
  simp only [runInOrder, hcollected, hoverruns, hstart, hcount, close_redacted]
  simp only [dispatched_redacted, hactivities]

/-- A run depends on its schedule by the order and the beginning alone. -/
theorem runInOrder_congr (h : probe = probe') {s : Schedule (r.dispatched probe calls).tasks}
    {s' : Schedule (r.dispatched probe' calls).tasks} (ho : s.order = s'.order)
    (hbegins : s.begins = s'.begins) :
    r.runInOrder probe calls s = r.runInOrder probe' calls s' := by
  subst h
  obtain ⟨order, _, _, begins⟩ := s
  obtain ⟨order', _, _, begins'⟩ := s'
  obtain rfl : order = order' := ho
  obtain rfl : begins = begins' := hbegins
  rfl

/-- A probe that is redacted beforehand has the same run by turns. -/
theorem run_redacted : r.run probe.redacted calls = r.run probe calls := by
  have horder : (r.turns probe.redacted calls).order =
      ((r.turns probe calls).redacted tasks_redacted).order :=
    calc (Executor.takeTurns (r.dispatched probe.redacted calls).tasks (.start _)).settled
        = (Executor.takeTurns ((r.dispatched probe calls).tasks.map Task.redacted) (.start _)).settled :=
          congrArg (fun tasks => (Executor.takeTurns tasks (.start tasks)).settled) tasks_redacted
      _ = (Executor.takeTurns (r.dispatched probe calls).tasks (.start _)).settled.map
            Arrival.redacted :=
          congrArg Executor.settled (Executor.takeTurns_redacted _ (.start _))
  exact (runInOrder_congr rfl horder rfl).trans (runInOrder_redacted _)

/-- Two probes that are redacted to one have the same runs where their tasks settle in the same
order. -/
theorem runInOrder_eq (h : probe.redacted = probe'.redacted)
    {s : Schedule (r.dispatched probe calls).tasks} {s' : Schedule (r.dispatched probe' calls).tasks}
    (ho : s.order.map Arrival.redacted = s'.order.map Arrival.redacted)
    (hbegins : s.begins = s'.begins) :
    r.runInOrder probe calls s = r.runInOrder probe' calls s' :=
  calc r.runInOrder probe calls s
      = r.runInOrder probe.redacted calls (s.redacted tasks_redacted) := (runInOrder_redacted s).symm
    _ = r.runInOrder probe'.redacted calls (s'.redacted tasks_redacted) := runInOrder_congr h ho hbegins
    _ = r.runInOrder probe' calls s' := runInOrder_redacted s'

/-- If two probes are redacted to one, each order in which the tasks of the first may settle is one in
which the tasks of the second may. -/
theorem exists_schedule (h : probe.redacted = probe'.redacted)
    (s : Schedule (r.dispatched probe calls).tasks) :
    ∃ s' : Schedule (r.dispatched probe' calls).tasks,
      s.order.map Arrival.redacted = s'.order.map Arrival.redacted ∧ s.begins = s'.begins := by
  have harrivals :
      ((r.dispatched probe calls).tasks.filterMap Arrival.ofTask?).map Arrival.redacted =
        ((r.dispatched probe' calls).tasks.filterMap Arrival.ofTask?).map Arrival.redacted := by
    rw [← Arrival.filterMap_redacted, ← Arrival.filterMap_redacted, ← tasks_redacted,
      ← tasks_redacted, h]
  obtain ⟨order, hsame, hperm⟩ :=
    List.perm_comp_forall₂ s.perm (map_eq_map_iff_forall₂.mp harrivals)
  replace hsame := map_eq_map_iff_forall₂.mpr hsame
  refine ⟨⟨order, hperm, ?_, s.begins⟩, hsame, rfl⟩
  -- whether one task may settle before another does not depend on settings
  have hintime : (s.order.map Arrival.redacted).Pairwise Arrival.MayPrecede :=
    List.pairwise_map.mpr s.inTime
  rw [hsame] at hintime
  exact (List.pairwise_map (f := Arrival.redacted) (R := Arrival.MayPrecede)).mp hintime

/-! ### Redacted events -/

/-- All events of a log are redacted. -/
theorem redacted_of_mem_log {l : Log} {e : Event} (he : .event e ∈ l.trace r probe) :
    e.Redacted := by
  simp only [Log.trace, startSights, endSights, List.append_assoc, List.mem_cons, List.mem_append,
    List.mem_flatMap, List.mem_ite_nil_right, List.not_mem_nil, Option.mem_toList,
    Option.map_eq_some_iff, Prod.exists, Sight.event.injEq, reduceCtorEq, and_false, exists_false,
    or_self, or_false, false_or] at he
  -- one case for each kind of event, each of them made by `Event.emit`
  rcases he with rfl | ⟨c, i, -, rfl⟩ | ⟨i, x, -, rfl⟩ | ⟨p, -, rfl⟩ | ⟨i, x, -, rfl⟩ |
    ⟨x, t, -, rfl⟩ <;> exact Event.redacted_emit _ _ _

/-- All events of a run are redacted. -/
theorem redacted_of_mem_events {s : Schedule (r.dispatched probe calls).tasks} {e : Event}
    (he : e ∈ (r.runInOrder probe calls s).trace.events) : e.Redacted := by
  obtain ⟨l, htrace, -⟩ := trace_eq_log r probe calls s
  rw [htrace, Trace.events, List.mem_filterMap] at he
  obtain ⟨sight, hmem, hsight⟩ := he
  cases sight with
  | event e' =>
      obtain rfl := Option.some.inj hsight
      exact redacted_of_mem_log hmem
  | startHook | endHook => cases hsight

end Runner

namespace Session

/-! ### Sessions -/

/-- A run in a session of redacted probes leaves the session redacted and is the same otherwise. -/
theorem runProbe_redacted (s : Session) (index : Nat) (probe : Probe) (runner : Runner) :
    s.redacted.runProbe index probe.redacted runner =
      ((s.runProbe index probe runner).1, (s.runProbe index probe runner).2.redacted) := by
  simp only [runProbe, Runner.run_redacted]
  rfl

/-- The release of probes does not look at the settings of checks. -/
theorem closeAll_redacted (s : Session) : s.redacted.closeAll = s.closeAll.redacted := by
  have hrelease : (fun (p : Probe) ts => List.zipWith Tally.release p.redacted.checks ts) =
      fun p ts => List.zipWith Tally.release p.checks ts := by
    funext p ts
    exact List.zipWith_map_left
  simp only [closeAll, releaseProbes_fst, redacted, List.zipWith_map_left, hrelease]

/-- A step in a session of redacted probes shows the same and leaves the session redacted. -/
theorem step_redacted (s : Session) (step : Step) :
    s.redacted.step step = ((s.step step).1, (s.step step).2.redacted) := by
  have hprobe (index : Nat) : s.redacted.probes[index]? = s.probes[index]?.map Probe.redacted :=
    List.getElem?_map
  cases step with
  | run index runner shared =>
      simp only [Session.step, hprobe]
      cases s.probes[index]? with
      | none => rfl
      | some probe =>
          simp only [Option.map_some, runProbe_redacted]
          rfl
  | respond index options hooks =>
      simp only [Session.step, hprobe]
      cases s.probes[index]? with
      | none => rfl
      | some probe =>
          simp only [Option.map_some, runProbe_redacted]
          rfl
  | close => rw [Session.step, Session.step, closeAll_redacted]
  | record | stopRecording => rfl

/-- **What is seen of a session of redacted probes is what is seen of the session.** -/
theorem steps_redacted (s : Session) (steps : List Step) :
    s.redacted.steps steps = (s.steps steps).map fun x => (x.1, x.2.redacted) := by
  induction steps generalizing s with
  | nil => rfl
  | cons step rest ih =>
      simp only [Session.steps, step_redacted, ih, List.map_cons]

/-- Both sinks together receive the events of a run, or nothing where it logs to a shared sink that
does not record. -/
theorem seen_sinks (s : Session) (run : Run) (answer : Answer) (shared : Bool) :
    (s.seen run answer shared).own ++ (s.seen run answer shared).shared =
      if shared && !s.recording then [] else run.trace.events := by
  cases shared <;> cases h : s.recording <;> simp [seen, h]

/-- Every event that a sink receives of a run is redacted. -/
theorem redacted_of_mem_seen {s : Session} {index : Nat} {probe : Probe} {runner : Runner}
    {answer : Answer} {shared : Bool} {e : Event}
    (he : e ∈ (s.seen (s.runProbe index probe runner).1 answer shared).own ++
      (s.seen (s.runProbe index probe runner).1 answer shared).shared) : e.Redacted := by
  rw [seen_sinks] at he
  split at he
  next => cases he
  next => exact Runner.redacted_of_mem_events he

/-- Every event that a sink receives in a step is redacted. -/
theorem redacted_of_mem_step {s : Session} {step : Step} {e : Event}
    (he : e ∈ (s.step step).1.own ++ (s.step step).1.shared) : e.Redacted := by
  cases step with
  | run index runner shared =>
      simp only [Session.step] at he
      split at he
      next => cases he
      next => exact redacted_of_mem_seen he
  | respond index options hooks =>
      simp only [Session.step] at he
      split at he
      next => cases he
      next => exact redacted_of_mem_seen he
  | close | record | stopRecording => cases he

/-- Every event that a sink receives in a session is redacted. -/
theorem redacted_of_mem_steps {s : Session} {steps : List Step} {x : Seen × Session}
    (hx : x ∈ s.steps steps) {e : Event} (he : e ∈ x.1.own ++ x.1.shared) : e.Redacted := by
  induction steps generalizing s with
  | nil => cases hx
  | cons step rest ih =>
      rcases List.mem_cons.mp hx with rfl | hx
      · exact redacted_of_mem_step he
      · exact ih hx

end Session

/-! ### What cannot be seen -/

/-- Two checks differ at most in the credentials that their settings hold. -/
structure Check.Alike (c c' : Check) : Prop where
  describe : Redaction.AlikeFields c.describe c'.describe
  rest : c' = { c with describe := c'.describe }

/-- Two probes differ at most in the credentials that the settings of their checks hold. -/
structure Probe.Alike (p p' : Probe) : Prop where
  checks : List.Forall₂ Check.Alike p.checks p'.checks
  rest : p' = { p with checks := p'.checks }

/-- Two sessions differ at most in the credentials that the settings of their checks hold. -/
structure Session.Alike (s s' : Session) : Prop where
  probes : List.Forall₂ Probe.Alike s.probes s'.probes
  rest : s' = { s with probes := s'.probes }

/-- Checks that are alike are redacted to one. -/
theorem Check.Alike.redacted_eq {c c' : Check} (h : c.Alike c') : c.redacted = c'.redacted := by
  rw [h.rest]
  simp only [Check.redacted, h.describe.redactFields_eq]

/-- Probes that are alike are redacted to one. -/
theorem Probe.Alike.redacted_eq {p p' : Probe} (h : p.Alike p') : p.redacted = p'.redacted := by
  rw [h.rest]
  simp only [Probe.redacted, map_eq_map_iff_forall₂.mpr (h.checks.imp fun _ _ => Check.Alike.redacted_eq)]

/-- Sessions that are alike are redacted to one. -/
theorem Session.Alike.redacted_eq {s s' : Session} (h : s.Alike s') :
    s.redacted = s'.redacted := by
  rw [h.rest]
  simp only [Session.redacted, map_eq_map_iff_forall₂.mpr (h.probes.imp fun _ _ => Probe.Alike.redacted_eq)]

namespace Session

/-- What is seen of a session, step by step, together with the tallies after each. -/
def view (s : Session) (steps : List Step) : List (Seen × List (List Tally)) :=
  (s.steps steps).map fun x => (x.1, x.2.tallies)

/-- The view of a session of redacted probes is that of the session. -/
theorem view_redacted (s : Session) (steps : List Step) : s.redacted.view steps = s.view steps := by
  rw [view, steps_redacted, List.map_map]
  rfl

/-- **Credentials are not seen.** Of two sessions whose probes differ in credentials alone, whatever
steps are taken, the same is seen, at both sinks and otherwise, and the same tallies are kept. This
holds of each run of two such probes in every order in which tasks may settle. Each event that a sink
receives is redacted. -/
theorem secrets_unseen {s s' : Session} (h : s.Alike s') (steps : List Step) :
    s.view steps = s'.view steps ∧
      (∀ x ∈ s.steps steps, ∀ e ∈ x.1.own ++ x.1.shared, e.Redacted) ∧
      ∀ (i : Nat) (p p' : Probe), s.probes[i]? = some p → s'.probes[i]? = some p' →
        ∀ (r : Runner) (calls : List Nat) (σ : Run.Schedule (r.dispatched p calls).tasks),
          (∃ σ' : Run.Schedule (r.dispatched p' calls).tasks,
            σ.order.map (·.task.index) = σ'.order.map (·.task.index) ∧
              r.runInOrder p calls σ = r.runInOrder p' calls σ') ∧
          ∀ e ∈ (r.runInOrder p calls σ).trace.events, e.Redacted := by
  refine ⟨?_, fun x hx e he => redacted_of_mem_steps hx he, ?_⟩
  · rw [← view_redacted, h.redacted_eq, view_redacted]
  · intro i p p' hp hp' r calls σ
    refine ⟨?_, fun e he => Runner.redacted_of_mem_events he⟩
    obtain ⟨hi, rfl⟩ := List.getElem?_eq_some_iff.mp hp
    obtain ⟨hi', rfl⟩ := List.getElem?_eq_some_iff.mp hp'
    have halike : s.probes[i].Alike s'.probes[i] := h.probes.get hi hi'
    obtain ⟨σ', hsame, hbegins⟩ := Runner.exists_schedule halike.redacted_eq σ
    refine ⟨σ', ?_, Runner.runInOrder_eq halike.redacted_eq hsame hbegins⟩
    have hindices := congrArg (List.map (·.task.index)) hsame
    rw [List.map_map, List.map_map] at hindices
    exact hindices

/-- A probe of a store whose settings hold a password among options in a list, and a token. -/
def store (password token : String) : Probe where
  name := "store"
  checks := [{
    name := "db"
    describe := [("replicas", .arr [.obj [("host", .str "db-1"), ("password", .str password)]]),
      ("session_token", .str token)]
    work := fun _ => ⟨some 3, .concluded (.ok .ok)⟩ }]

/-- Neither the password of a store nor its token is seen in a run with a sink of its own, a run that
is recorded, a response and the release. -/
theorem secrets_unseen_store :
    (ofProbes [store "tiger" "t-1"]).Alike (ofProbes [store "lion" "t-2"]) ∧
      (ofProbes [store "tiger" "t-1"]).view
          [.run 0 {} false, .record, .run 0 {} true, .respond 0 {} none, .close] =
        (ofProbes [store "lion" "t-2"]).view
          [.run 0 {} false, .record, .run 0 {} true, .respond 0 {} none, .close] := by
  have hreplica : Redaction.AlikeFields
      [("host", .str "db-1"), ("password", .str "tiger")]
      [("host", .str "db-1"), ("password", .str "lion")] :=
    .plain (.same _) (.secret (by decide) .nil)
  have hcheck : List.Forall₂ Check.Alike (store "tiger" "t-1").checks (store "lion" "t-2").checks :=
    .cons ⟨.plain (.arr (.cons (.obj hreplica) .nil)) (.secret (by decide) .nil), rfl⟩ .nil
  have h : (ofProbes [store "tiger" "t-1"]).Alike (ofProbes [store "lion" "t-2"]) :=
    ⟨.cons ⟨hcheck, rfl⟩ .nil, rfl⟩
  exact ⟨h, (secrets_unseen h _).1⟩

end Session

end Vigil
