import Vigil.Proofs.Run.Log

/-!
# What the Deadline Cuts Off

The deadline of a run is a fixed time after dispatch, but the run looks at it only between the ends
of checks, and a hook may keep it from looking. So there are two instants: the deadline itself, and
the later one at which the run sees it. A task that settles before the first keeps its own result,
and so does each that has settled by the second. All others are cut off, and nothing that they do
afterwards counts.

The hooks of the run are taken to be of any delay but never to fail, because a failing hook ends the
run.

## Main results

* `Runner.endsWith_of_mem`: a check has the end that the log holds for it, and no other.
* `Runner.settled_at_deadline`: which checks keep their own result and which are cut off.
-/

namespace Vigil

/-- The hooks never fail. -/
def Hooks.NeverFail (hooks : Option Hooks) : Prop :=
  ∀ index, (Hooks.actOf hooks (·.onStart index)).failure = none ∧
    (Hooks.actOf hooks (·.onEnd index)).failure = none

namespace Run

/-- A check ends with a result: the event of its end tells it, the hook after it is called with it,
a report holds it, and nothing that is seen of the run tells another end of the check. -/
structure EndsWith (r : Runner) (probe : Probe) (run : Run) (index : Nat) (result : CheckResult) :
    Prop where
  event : .event (checkEnd probe.name index result) ∈ run.trace
  hook : r.hooks.isSome = true → .endHook probe.name index result ∈ run.trace
  report : ∀ report, run.result = .report report → report.results[index]? = some result
  told_once : ∀ check healthy detail,
    Note.checkEnd index check healthy detail ∈ run.trace.events.filterMap Note.ofEvent? →
      check = result.name ∧ healthy = result.healthy ∧ detail = result.detail
  hooked_once : ∀ name other, .endHook name index other ∈ run.trace → other = result

/-- A task had settled by an instant of the run: its call had begun, and its time had come. -/
def HadSettled (run : Run) (t : Task) (now : Nat) : Prop :=
  (∃ a, run.activity[t.index]? = some a ∧ a.begun = true) ∧
    ∃ time ending, t.settles = some (time, ending) ∧ time ≤ now

namespace Log

/-- The notes of a log are what its events tell. -/
theorem notes_eq (r : Runner) (probe : Probe) (l : Log) :
    (l.trace r probe).events.filterMap Note.ofEvent? = l.notes probe.checks := by
  have h := congrArg (List.filterMap id) (l.read_trace r probe)
  rw [read, List.filterMap_map, List.filterMap_map] at h
  simpa using h

/-- An end that is noted is one of the log. -/
theorem exists_of_checkEnd_mem {l : Log} {checks : List Check} {index : Nat} {check : String}
    {healthy : Bool} {detail : Option String}
    (h : .checkEnd index check healthy detail ∈ l.notes checks) :
    ∃ result, (index, result) ∈ l.joined ++ l.givenUp ∧ check = result.name ∧
      healthy = result.healthy ∧ detail = result.detail := by
  have hends : .checkEnd index check healthy detail ∈ (l.joined ++ l.givenUp).map endNote := by
    rw [List.map_append, List.mem_append]
    simpa [notes, -List.map_take] using h
  obtain ⟨⟨i, result⟩, he, hnote⟩ := List.mem_map.mp hends
  obtain ⟨rfl, rfl, rfl, rfl⟩ := Note.checkEnd.inj hnote
  exact ⟨result, he, rfl, rfl, rfl⟩

/-- Among the sights of ends the calls of the hook are with these ends. -/
theorem mem_of_endHook_mem_endSights {probe name : String} {hooked : Bool}
    {ends : List (Nat × CheckResult)} {index : Nat} {result : CheckResult}
    (h : .endHook name index result ∈ ends.flatMap (endSights probe hooked)) :
    (index, result) ∈ ends := by
  obtain ⟨e, he, hmem⟩ := List.mem_flatMap.mp h
  rw [endSights] at hmem
  rcases List.mem_cons.mp hmem with hevent | hmem
  · cases hevent
  · split at hmem
    · cases List.mem_singleton.mp hmem
      exact he
    · cases hmem

/-- The hook after a check is called with an end of the log. -/
theorem mem_of_endHook_mem {r : Runner} {probe : Probe} {l : Log} {name : String} {index : Nat}
    {result : CheckResult} (h : .endHook name index result ∈ l.trace r probe) :
    (index, result) ∈ l.joined ++ l.givenUp := by
  simp only [trace, List.mem_cons, List.mem_append] at h
  rcases h with hevent | ((((hstart | hrefused) | hjoined) | hpending) | hgiven) | hreport
  · cases hevent
  · obtain ⟨p, -, hp⟩ := List.mem_flatMap.mp hstart
    cases hooked : r.hooks.isSome <;> simp [startSights, hooked] at hp
  · simp at hrefused
  · exact List.mem_append_left _ (mem_of_endHook_mem_endSights hjoined)
  · simp at hpending
  · exact List.mem_append_right _ (mem_of_endHook_mem_endSights hgiven)
  · simp at hreport

/-- **A check ends with what the log holds for it.** -/
theorem endsWith_of_mem {r : Runner} {probe : Probe} {run : Run} {l : Log} {index : Nat}
    {result : CheckResult} (htrace : run.trace = l.trace r probe) (hshaped : l.Shaped probe.checks)
    (hcloses : l.Closes r probe run) (h : (index, result) ∈ l.joined ++ l.givenUp) :
    run.EndsWith r probe index result := by
  have hsights : ∀ sight ∈ endSights probe.name r.hooks.isSome (index, result), sight ∈ run.trace := by
    intro sight hs
    rw [htrace, trace]
    rcases List.mem_append.mp h with h | h
    · have := List.mem_flatMap_of_mem h hs
      simp [this]
    · have := List.mem_flatMap_of_mem h hs
      simp [this]
  have hunique : ∀ other, (index, other) ∈ l.joined ++ l.givenUp → other = result := fun other ho =>
    Option.some.inj ((lookup_of_mem hshaped.once ho).symm.trans (lookup_of_mem hshaped.once h))
  refine ⟨hsights _ List.mem_cons_self, fun hooked => hsights _ ?_, fun report hreport => ?_,
    fun check healthy detail hnote => ?_, fun name other ho => ?_⟩
  · simp [endSights, hooked]
  · rw [Closes, hreport] at hcloses
    exact hcloses.2.2.1 _ h
  · rw [htrace, notes_eq] at hnote
    obtain ⟨other, ho, rfl, rfl, rfl⟩ := exists_of_checkEnd_mem hnote
    rw [hunique other ho]
    exact ⟨rfl, rfl, rfl⟩
  · rw [htrace] at ho
    exact hunique other (mem_of_endHook_mem ho)

/-- A log tells of the deadline only if it has pending checks. -/
theorem pending_ne_none_of_sawDeadline {r : Runner} {probe : Probe} {run : Run} {l : Log}
    (htrace : run.trace = l.trace r probe) (h : run.SawDeadline) : l.pending ≠ none := by
  intro hnone
  obtain ⟨e, he, hname⟩ := h
  rw [htrace] at he
  simp [trace, startSights, endSights, hnone] at he
  rcases he with rfl | ⟨c, i, -, rfl⟩ | ⟨i, x, -, rfl⟩ | ⟨i, x, -, rfl⟩ | ⟨x, t, -, rfl⟩ <;>
    simp [probeStart, checkStart, checkEnd, probeEnd, Event.emit] at hname

end Log

end Run

namespace Runner

open Run

variable {r : Runner} {probe : Probe} {calls : List Nat}
  {s : Schedule (r.dispatched probe calls).tasks} {budget : Duration}

/-! ### Runs whose hooks never fail -/

/-- If no hook fails all checks are dispatched. -/
theorem dispatched_of_neverFail (hok : Hooks.NeverFail r.hooks) :
    (r.dispatched probe calls).failure = none := by
  cases h : (r.dispatched probe calls).failure with
  | none => rfl
  | some chain =>
      obtain ⟨-, hfails⟩ := length_dispatch_of_failure h
      rw [(hok _).1] at hfails
      cases hfails

/-- If no hook fails and there is a budget, collection is complete or ends with the deadline. -/
theorem closing_of_neverFail (hok : Hooks.NeverFail r.hooks) (ht : r.timeout = some budget) :
    (r.collected probe (r.dispatched probe calls) s).closing = .complete ∨
      (r.collected probe (r.dispatched probe calls) s).closing = .deadline := by
  cases hc : (r.collected probe (r.dispatched probe calls) s).closing with
  | complete => exact .inl rfl
  | deadline => exact .inr rfl
  | hook chain =>
      obtain ⟨e, -, hfails⟩ := collect_of_hook hc
      rw [(hok _).2] at hfails
      cases hfails
  | never =>
      obtain ⟨hnone, -⟩ := collect_of_never hc
      rw [deadline?, ht] at hnone
      cases hnone

/-! ### The two instants -/

/-- The run sees the deadline no earlier than it is. -/
theorem deadline_le_now (ht : r.timeout = some budget)
    (hc : (r.collected probe (r.dispatched probe calls) s).closing = .deadline) :
    (r.dispatched probe calls).now + budget.nanos ≤
      (r.collected probe (r.dispatched probe calls) s).now := by
  obtain ⟨⟨d, hd, hle⟩, -⟩ := collect_of_deadline hc
  rw [deadline?, ht] at hd
  obtain rfl := Option.some.inj hd
  exact hle

/-- A run under a budget whose hooks never fail comes to collection exactly if its deadline is one of the
machine's clock. -/
theorem collects_iff (hok : Hooks.NeverFail r.hooks) (ht : r.timeout = some budget) {begins : Nat} :
    r.Collects (r.dispatched probe calls) begins ↔
      begins + ((r.dispatched probe calls).now + budget.nanos) < clockEnd := by
  have honClock : r.overruns (r.dispatched probe calls) begins = false ↔
      begins + ((r.dispatched probe calls).now + budget.nanos) < clockEnd := by
    simp [overruns, deadline?, ht]
  exact ⟨fun h => honClock.mp h.onClock, fun h => ⟨dispatched_of_neverFail hok, honClock.mpr h⟩⟩

/-- What becomes of the call of a task is told as of the end of collection. -/
theorem activity_of_mem (hd : r.Collects (r.dispatched probe calls) s.begins) {t : Task}
    (h : t ∈ (r.dispatched probe calls).tasks) :
    (r.runInOrder probe calls s).activity[t.index]? = some (activityOf
      (r.collected probe (r.dispatched probe calls) s).waited
      (r.collected probe (r.dispatched probe calls) s).now t) := by
  have hmap : ((r.dispatched probe calls).tasks.map (activityOf
      (r.collected probe (r.dispatched probe calls) s).waited
      (r.collected probe (r.dispatched probe calls) s).now))[t.index]? = some (activityOf
        (r.collected probe (r.dispatched probe calls) s).waited
        (r.collected probe (r.dispatched probe calls) s).now t) := by
    rw [List.getElem?_map, getElem?_of_mem_dispatched h]
    rfl
  rw [runInOrder_of_collects hd]
  simp only [activities]
  rw [List.getElem?_append_left (List.getElem?_eq_some_iff.mp hmap).1]
  exact hmap

/-- A task had settled by the end of collection if its arrival was at hand then. -/
theorem hadSettled_iff (hd : r.Collects (r.dispatched probe calls) s.begins) {t : Task}
    (h : t ∈ (r.dispatched probe calls).tasks) :
    (r.runInOrder probe calls s).HadSettled t
        (r.collected probe (r.dispatched probe calls) s).now ↔
      ∃ a, Arrival.ofTask? t = some a ∧
        isAtHand (r.collected probe (r.dispatched probe calls) s).waited
          (r.collected probe (r.dispatched probe calls) s).now a = true := by
  rw [HadSettled, activity_of_mem hd h]
  constructor
  · rintro ⟨⟨_, ha, hbegun⟩, time, ending, hsettles, hle⟩
    obtain rfl := Option.some.inj ha
    exact ⟨⟨t, time, .ended ending⟩, Arrival.ofTask?_of_settles hsettles,
      Bool.and_eq_true_iff.mpr ⟨hbegun, decide_eq_true hle⟩⟩
  · rintro ⟨a, ha, hhand⟩
    obtain ⟨⟨time, ending⟩, hsettles, rfl⟩ := Option.map_eq_some_iff.mp ha
    obtain ⟨hbegun, hle⟩ := Bool.and_eq_true_iff.mp hhand
    exact ⟨⟨_, rfl, hbegun⟩, time, ending, hsettles, of_decide_eq_true hle⟩

/-- At the deadline no task that is left is at hand. -/
theorem not_isAtHand_of_left (hc : (r.collected probe (r.dispatched probe calls) s).closing = .deadline)
    {a : Arrival}
    (h : a ∈ s.order.drop (r.collected probe (r.dispatched probe calls) s).results.length) :
    isAtHand (r.collected probe (r.dispatched probe calls) s).waited
      (r.collected probe (r.dispatched probe calls) s).now a = false := by
  refine not_isAtHand_of_mem_left hc s.inTime (fun b hb => ?_) (fun b hb => ?_) a h
  · exact (dispatch_since (s.task_mem hb)).2
  · obtain ⟨t, -, ht⟩ := s.mem_order_iff.mp hb
    exact Arrival.since_le_time ht

/-- **A task that settles before the deadline is collected**, whatever keeps the run from looking. -/
theorem mem_collected_of_lt (hok : Hooks.NeverFail r.hooks) (ht : r.timeout = some budget) {t : Task}
    {a : Arrival} (h : t ∈ (r.dispatched probe calls).tasks) (ha : Arrival.ofTask? t = some a)
    (hlt : a.time < (r.dispatched probe calls).now + budget.nanos) :
    a.entry ∈ (r.collected probe (r.dispatched probe calls) s).results := by
  rcases closing_of_neverFail (s := s) hok ht with hc | hc
  · exact entry_mem_collected_of_complete hc h ha
  · refine (mem_collected_or_mem_left (s := s) h ha).resolve_right fun hleft => ?_
    have hle := deadline_le_now ht hc
    have hstart := Arrival.since_le_time ha
    have hhand := not_isAtHand_of_left hc hleft
    simp only [isAtHand, hasBegun, Bool.and_eq_false_iff, Bool.or_eq_false_iff,
      decide_eq_false_iff_not] at hhand
    omega

/-- A task is collected only if it had settled by the end of collection. -/
theorem hadSettled_of_collected (hd : r.Collects (r.dispatched probe calls) s.begins) {t : Task}
    {result : CheckResult} (h : t ∈ (r.dispatched probe calls).tasks)
    (he : (t.index, result) ∈ (r.collected probe (r.dispatched probe calls) s).results) :
    (r.runInOrder probe calls s).HadSettled t
      (r.collected probe (r.dispatched probe calls) s).now := by
  obtain ⟨a, ha, hta⟩ := exists_arrival_of_collected h (List.mem_map_of_mem he)
  exact (hadSettled_iff hd h).mpr ⟨a, hta, isAtHand_of_mem_taken _ _ _ _ ha⟩

/-! ### Who keeps a result and who is cut off -/

/-- A check ends with the result that is collected for it. -/
theorem endsWith_of_collected (hd : r.Collects (r.dispatched probe calls) s.begins) {i : Nat}
    {result : CheckResult}
    (he : (i, result) ∈ (r.collected probe (r.dispatched probe calls) s).results) :
    (r.runInOrder probe calls s).EndsWith r probe i result := by
  obtain ⟨l, htrace, hshaped, hcloses, hl⟩ := trace_eq_log r probe calls s
  refine Log.endsWith_of_mem htrace hshaped hcloses (List.mem_append_left _ ?_)
  rw [hl.joined hd]
  exact he

/-- A check whose task is collected keeps its own result. -/
theorem keeps_of_collected (hd : r.Collects (r.dispatched probe calls) s.begins) {t : Task}
    {result : CheckResult} (h : t ∈ (r.dispatched probe calls).tasks)
    (he : (t.index, result) ∈ (r.collected probe (r.dispatched probe calls) s).results) :
    t.check.Yields (calls.getD t.index 0) result ∧
      (r.runInOrder probe calls s).EndsWith r probe t.index result := by
  obtain ⟨c, hc, hyields⟩ := joined_yields he
  obtain ⟨hcheck, -, -⟩ := dispatched_task (getElem?_of_mem_dispatched h)
  obtain rfl := Option.some.inj (hcheck.symm.trans hc)
  exact ⟨hyields, endsWith_of_collected hd he⟩

/-- A report says of a check whose task is not collected that the probe timed out. -/
theorem getElem?_of_not_collected {report : Report} {t : Task}
    (h : t ∈ (r.dispatched probe calls).tasks)
    (hnot : t.index ∉ (r.collected probe (r.dispatched probe calls) s).results.map Prod.fst)
    (hreport : (r.runInOrder probe calls s).result = .report report) :
    report.results[t.index]? = some (.timedOut t.check.name
      (.clamp (r.collected probe (r.dispatched probe calls) s).now)) := by
  obtain ⟨hcheck, -, -⟩ := dispatched_task (getElem?_of_mem_dispatched h)
  have hpending : (t.index, t.check.name) ∈
      pending probe.checks (r.collected probe (r.dispatched probe calls) s).results :=
    mem_pending_iff.mpr ⟨by rw [hcheck]; rfl, hnot⟩
  exact getElem?_of_mem_ends hreport
    (List.mem_append_right _ (List.mem_map_of_mem (f := cutOff _) hpending))

/-- In a run with a report a check whose task is not collected is cut off. -/
theorem cutOff_of_not_collected {report : Report} {t : Task}
    (h : t ∈ (r.dispatched probe calls).tasks)
    (hnot : t.index ∉ (r.collected probe (r.dispatched probe calls) s).results.map Prod.fst)
    (hreport : (r.runInOrder probe calls s).result = .report report) :
    (r.runInOrder probe calls s).EndsWith r probe t.index (.timedOut t.check.name
      (.clamp (r.collected probe (r.dispatched probe calls) s).now)) := by
  obtain ⟨l, htrace, hshaped, hcloses, -⟩ := trace_eq_log r probe calls s
  obtain ⟨hcheck, -, -⟩ := dispatched_task (getElem?_of_mem_dispatched h)
  have hend := getElem?_of_not_collected h hnot hreport
  -- the log has an end of the check, and the report holds it
  have hlog := hcloses
  rw [Log.Closes, hreport] at hlog
  obtain ⟨-, hperm, hheld, -⟩ := hlog
  obtain ⟨⟨i, result⟩, he, rfl⟩ := List.mem_map.mp (hperm.mem_iff.mpr
    (List.mem_range.mpr (List.getElem?_eq_some_iff.mp hcheck).1))
  obtain rfl := Option.some.inj ((hheld _ he).symm.trans hend)
  exact Log.endsWith_of_mem htrace hshaped hcloses he

/-- **A run sees the deadline if the deadline ends its collection, and only then.** -/
theorem sawDeadline_iff_closing :
    (r.runInOrder probe calls s).SawDeadline ↔
      r.Collects (r.dispatched probe calls) s.begins ∧
        (r.collected probe (r.dispatched probe calls) s).closing = .deadline := by
  constructor
  · intro h
    obtain ⟨l, htrace, -, -, hl⟩ := trace_eq_log r probe calls s
    exact hl.pending (Log.pending_ne_none_of_sawDeadline htrace h)
  · rintro ⟨hd, h⟩
    have hcourse := r.course_runInOrder probe calls s
    generalize r.runInOrder probe calls s = run at hcourse
    have hnotice (tail : Trace) (before : Trace) :
        Sight.event (r.notice probe (r.collected probe (r.dispatched probe calls) s)) ∈
          before ++ .event (r.notice probe (r.collected probe (r.dispatched probe calls) s)) :: tail :=
      List.mem_append_right _ List.mem_cons_self
    cases hcourse with
    | startFailed hd' =>
        rw [hd.dispatched] at hd'
        cases hd'
    | panicked _ ho =>
        rw [hd.onClock] at ho
        cases ho
    | timedOut => exact ⟨_, hnotice _ _, rfl⟩
    | givingUpFailed => exact ⟨_, hnotice _ _, rfl⟩
    | givenUp => exact ⟨_, hnotice _ _, rfl⟩
    | complete _ hc | never _ hc | endFailed _ hc =>
        rw [h] at hc
        cases hc

/-- A run that comes to collection sees the deadline if that ends it. -/
theorem sawDeadline_iff (hd : r.Collects (r.dispatched probe calls) s.begins) :
    (r.runInOrder probe calls s).SawDeadline ↔
      (r.collected probe (r.dispatched probe calls) s).closing = .deadline :=
  sawDeadline_iff_closing.trans (and_iff_right hd)

/-- A run that fails for lack of time has seen the deadline. -/
theorem sawDeadline_of_timeout {name : String} {limit : Duration}
    (h : (r.runInOrder probe calls s).result = .failed (.timeout name limit)) :
    (r.runInOrder probe calls s).SawDeadline := by
  have hcourse := r.course_runInOrder probe calls s
  generalize r.runInOrder probe calls s = run at h hcourse
  cases hcourse with
  | timedOut => exact ⟨_, List.mem_append_right _ List.mem_cons_self, rfl⟩
  | startFailed | panicked | complete | never | endFailed | givingUpFailed | givenUp => cases h

/-- Without a failing hook each check has its task. -/
theorem dispatched_checks (hd : (r.dispatched probe calls).failure = none) :
    (r.dispatched probe calls).tasks.map (·.check) = probe.checks := by
  have hplaces := congrArg (List.map Prod.fst) (@dispatched_places r probe calls)
  rw [length_dispatched hd, List.map_take, List.zipIdx_map_fst, List.map_map, List.take_length]
    at hplaces
  exact hplaces

/-- If the deadline ends collection some task had not settled before it. -/
theorem exists_late_of_deadline (hok : Hooks.NeverFail r.hooks) (ht : r.timeout = some budget)
    (hc : (r.collected probe (r.dispatched probe calls) s).closing = .deadline) :
    ∃ t ∈ (r.dispatched probe calls).tasks, ∀ time ending, t.settles = some (time, ending) →
      (r.dispatched probe calls).now + budget.nanos ≤ time := by
  obtain ⟨⟨i, name⟩, hp⟩ := List.exists_mem_of_ne_nil _ (pending_ne_nil hc)
  obtain ⟨hcheck, hnot⟩ := mem_pending_iff.mp hp
  obtain ⟨c, hcheck, -⟩ := Option.map_eq_some_iff.mp hcheck
  have hi : i < (r.dispatched probe calls).tasks.length :=
    length_dispatched (dispatched_of_neverFail hok) ▸ (List.getElem?_eq_some_iff.mp hcheck).1
  obtain ⟨-, hindex, -⟩ := dispatched_task (List.getElem?_eq_getElem hi)
  refine ⟨_, List.getElem_mem hi, fun time ending hsettles => Nat.le_of_not_lt fun hlt => hnot ?_⟩
  have hentry := mem_collected_of_lt (s := s) hok ht (List.getElem_mem hi)
    (Arrival.ofTask?_of_settles hsettles) hlt
  exact List.mem_map.mpr ⟨_, hentry, hindex⟩

/-- A task that has settled by the end of collection is collected, and if the deadline was not seen
every task is. -/
theorem collected_of_hadSettled (hok : Hooks.NeverFail r.hooks) (ht : r.timeout = some budget)
    (hd : r.Collects (r.dispatched probe calls) s.begins) {t : Task}
    (hmem : t ∈ (r.dispatched probe calls).tasks)
    (h : (r.runInOrder probe calls s).HadSettled t
        (r.collected probe (r.dispatched probe calls) s).now ∨
      ¬(r.runInOrder probe calls s).SawDeadline) :
    ∃ result, (t.index, result) ∈ (r.collected probe (r.dispatched probe calls) s).results := by
  rcases closing_of_neverFail (s := s) hok ht with hc | hc
  · have hi := (List.getElem?_eq_some_iff.mp (getElem?_of_mem_dispatched hmem)).1
    rw [length_dispatched hd.dispatched] at hi
    obtain ⟨⟨i, result⟩, he, rfl⟩ :=
      List.mem_map.mp (mem_collected_of_complete hd.dispatched hc hi)
    exact ⟨result, he⟩
  · have hsettled := h.resolve_right fun hsaw => hsaw ((sawDeadline_iff hd).mpr hc)
    obtain ⟨a, ha, hhand⟩ := (hadSettled_iff hd hmem).mp hsettled
    have htask := Arrival.task_of_ofTask? ha
    have he := (mem_collected_or_mem_left (s := s) hmem ha).resolve_right fun hleft => by
      rw [not_isAtHand_of_left hc hleft] at hhand
      cases hhand
    refine ⟨a.result, ?_⟩
    rwa [Arrival.entry, htask] at he

/-- The events of a run that panics tell no end of a check. -/
theorem not_checkEnd_of_panicked (h : (r.runInOrder probe calls s).result = .panicked) (index : Nat)
    (check : String) (healthy : Bool) (detail : Option String) :
    Note.checkEnd index check healthy detail ∉
      (r.runInOrder probe calls s).trace.events.filterMap Note.ofEvent? := by
  obtain ⟨l, htrace, -, hcloses, -⟩ := trace_eq_log r probe calls s
  rw [Log.Closes, h] at hcloses
  obtain ⟨-, hjoined, -, hgiven, -⟩ := hcloses
  rw [htrace, Log.notes_eq]
  intro hmem
  obtain ⟨result, he, -⟩ := Log.exists_of_checkEnd_mem hmem
  rw [hjoined, hgiven] at he
  cases he

/-- **The deadline cuts off the tasks that have not settled when it is seen, and no other.** A check
whose task settles before the deadline keeps its own result, however long hooks keep the run from
looking. So a run that sees the deadline, as does each that fails for lack of time, sees it when it
has passed, and some task had not settled before it. At the instant at which it is seen all is
decided: who has settled by then keeps the own result, and in the report everyone else is cut off.

The deadline has to be an instant of the machine's clock for all this. If the budget reaches past the
end of the clock there is no deadline: the run panics once all checks are dispatched, no check is told
to have ended, and nothing tells of a deadline. -/
theorem settled_at_deadline (r : Runner) (probe : Probe) (calls : List Nat)
    (s : Schedule (r.dispatched probe calls).tasks) {budget : Duration}
    (ht : r.timeout = some budget) (hok : Hooks.NeverFail r.hooks) :
    let tasks := (r.dispatched probe calls).tasks
    let deadline := (r.dispatched probe calls).now + budget.nanos
    let seen := (r.collected probe (r.dispatched probe calls) s).now
    let run := r.runInOrder probe calls s
    tasks.map (·.check) = probe.checks ∧
      (clockEnd ≤ s.begins + deadline → run.result = .panicked ∧ ¬run.SawDeadline ∧
        ∀ index check healthy detail,
          Note.checkEnd index check healthy detail ∉ run.trace.events.filterMap Note.ofEvent?) ∧
      (s.begins + deadline < clockEnd →
        (∀ t ∈ tasks, ∀ time ending, t.settles = some (time, ending) → time < deadline →
          ∃ result, t.check.Yields (calls.getD t.index 0) result ∧
            run.EndsWith r probe t.index result) ∧
        (∀ name limit, run.result = .failed (.timeout name limit) → run.SawDeadline) ∧
        (run.SawDeadline → deadline ≤ seen ∧
          ∃ t ∈ tasks, ∀ time ending, t.settles = some (time, ending) → deadline ≤ time) ∧
        ∀ t ∈ tasks,
          (run.HadSettled t seen ∨ ¬run.SawDeadline →
            ∃ result, t.check.Yields (calls.getD t.index 0) result ∧
              run.EndsWith r probe t.index result) ∧
          (¬run.HadSettled t seen → ∀ report, run.result = .report report →
            run.EndsWith r probe t.index (.timedOut t.check.name (.clamp seen)))) := by
  intro tasks deadline seen run
  have hdispatched : (r.dispatched probe calls).failure = none := dispatched_of_neverFail hok
  refine ⟨dispatched_checks hdispatched, fun hpast => ?_, fun hrange => ?_⟩
  · have ho : r.overruns (r.dispatched probe calls) s.begins = true := by
      simpa [overruns, deadline?, ht] using hpast
    have hpanicked := (runInOrder_of_overruns hdispatched ho).1
    refine ⟨hpanicked, fun hsaw => ?_, not_checkEnd_of_panicked hpanicked⟩
    have honClock := (sawDeadline_iff_closing.mp hsaw).1.onClock
    rw [ho] at honClock
    cases honClock
  · have hd := (collects_iff hok ht).mpr hrange
    refine ⟨fun t hmem time ending hsettles hlt => ?_, fun _ _ => sawDeadline_of_timeout,
      fun hsaw => ?_, fun t hmem => ⟨fun h => ?_, fun h report hreport => ?_⟩⟩
    · have ha : Arrival.ofTask? t = some ⟨t, time, .ended ending⟩ := Arrival.ofTask?_of_settles hsettles
      exact ⟨_, keeps_of_collected hd hmem (mem_collected_of_lt hok ht hmem ha hlt)⟩
    · have hc := (sawDeadline_iff hd).mp hsaw
      exact ⟨deadline_le_now ht hc, exists_late_of_deadline hok ht hc⟩
    · obtain ⟨result, he⟩ := collected_of_hadSettled hok ht hd hmem h
      exact ⟨result, keeps_of_collected hd hmem he⟩
    · refine cutOff_of_not_collected hmem (fun hcollected => h ?_) hreport
      obtain ⟨⟨i, result⟩, he, rfl⟩ := List.mem_map.mp hcollected
      exact hadSettled_of_collected hd hmem he

/-! ### A hook that is busy at the deadline -/

/-- Three checks: one settles at once, one soon after, and one hangs. -/
def staggered : Probe where
  name := "release"
  checks := [
    { name := "cache", work := fun _ => ⟨some 1, .concluded (.ok .ok)⟩ },
    { name := "queue", work := fun _ => ⟨some 5, .concluded (.error ["connect", "refused"])⟩ },
    { name := "disk", work := fun _ => .never }]

/-- A runner whose hook after the first check is busy until long after the deadline. -/
def busy : Runner where
  timeout := some (.clamp 10)
  failureOnTimeout := true
  hooks := some ⟨fun _ => {}, fun index => { delay := if index = 0 then 20 else 0 }⟩

/-- The tasks settle in the order of their checks. -/
def staggeredOrder : Schedule (busy.dispatched staggered []).tasks where
  order := (busy.dispatched staggered []).tasks.filterMap Arrival.ofTask?
  perm := .refl _
  inTime := .cons (fun b hb => by
    obtain rfl := List.mem_singleton.mp hb
    exact .inl (by decide)) (List.pairwise_singleton _ _)

/-- The second check settles before the deadline and keeps its result, although the run does not look
before the deadline is over. The third one is cut off when it looks. -/
theorem settled_at_deadline_busy :
    busy.timeout = some (.clamp 10) ∧ Hooks.NeverFail busy.hooks ∧
      (∃ result, result.detail = some "connect: refused" ∧
        (busy.runInOrder staggered [] staggeredOrder).EndsWith busy staggered 1 result) ∧
      (busy.runInOrder staggered [] staggeredOrder).EndsWith busy staggered 2
        (.timedOut "disk" (.clamp 21)) := by
  have hok : Hooks.NeverFail busy.hooks := fun _ => ⟨rfl, rfl⟩
  obtain ⟨-, -, hrange⟩ := settled_at_deadline busy staggered [] staggeredOrder rfl hok
  obtain ⟨hearly, -, -, hdecided⟩ := hrange (by decide)
  refine ⟨rfl, hok, ?_, ?_⟩
  · obtain ⟨⟨_, _, _, _⟩, ⟨_, _, hsettling, -, hsays⟩, hends⟩ :=
      hearly _ (List.mem_of_getElem? (i := 1) rfl) 5 _ rfl (by decide)
    cases hsettling
    cases hsays
    exact ⟨_, rfl, hends⟩
  · refine (hdecided _ (List.mem_of_getElem? (i := 2) rfl)).2 ?_ _ rfl
    rintro ⟨-, _, _, hsettles, -⟩
    cases hsettles

end Runner

end Vigil
