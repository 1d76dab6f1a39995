import Vigil.Proofs.Run.Notes
import Vigil.Proofs.Run.Results
import Vigil.Session

/-!
# The Log of a Run

The events of a run have one shape, whichever way the run goes: the beginning, the dispatch of checks
in order, the ends of tasks that are joined, and then perhaps the deadline, the ends of checks that
are given up, and the end of the run. `Run.Log` holds these parts, `Log.trace` is what an observer
sees of them, and `Log.notes` what their events tell. A log is `Shaped` if its parts fit together, it
`Closes` a run if it ends as the result of the run demands, and it `Records` what the run collected and
gave up.

## Main results

* `Log.read_trace`: the events of a log tell its notes.
* `Runner.trace_eq_log`: every run leaves a log that is shaped, closes it and records its ends.
* `Runner.events_shaped`: what the events of a run tell, and the sink they go to.
-/

namespace Vigil

/-- The start hooks that a trace shows, by the index of the check. -/
def Trace.startCalls (t : Trace) : List Nat :=
  t.filterMap fun
    | .startHook _ _ index => some index
    | _ => none

@[simp] theorem Trace.startCalls_append (t u : Trace) :
    startCalls (t ++ u) = startCalls t ++ startCalls u := List.filterMap_append

@[simp] theorem Trace.startCalls_cons_event (e : Event) (t : Trace) :
    startCalls (.event e :: t) = startCalls t := rfl

/-- How the hook fails that a sight is a call of. -/
def Sight.failure? (hooks : Option Hooks) : Sight → Option Chain
  | .event _ => none
  | .startHook _ _ index => (Hooks.actOf hooks (·.onStart index)).failure
  | .endHook _ index _ => (Hooks.actOf hooks (·.onEnd index)).failure

namespace Run

/-- The log of a run in its parts. -/
structure Log where
  /-- How many checks are dispatched. -/
  started : Nat
  /-- The check before which a hook fails. -/
  refused : Option (Check × Nat) := none
  /-- The ends of the tasks that are joined. -/
  joined : List (Nat × CheckResult) := []
  /-- The checks that are pending when the deadline is seen. -/
  pending : Option (List (Nat × String)) := none
  /-- The ends of the checks that are given up. -/
  givenUp : List (Nat × CheckResult) := []
  /-- The report and the time that the run took. -/
  report : Option (Report × Duration) := none

namespace Log

/-- What an observer sees of a log. -/
def trace (r : Runner) (probe : Probe) (l : Log) : Trace :=
  .event (probeStart probe r.timeout) ::
    ((probe.checks.zipIdx.take l.started).flatMap (startSights probe.name r.hooks.isSome) ++
      (l.refused.map fun p => Sight.startHook probe.name p.1.name p.2).toList ++
      l.joined.flatMap (endSights probe.name r.hooks.isSome) ++
      (l.pending.map fun p =>
        Sight.event (probeTimeout probe.name (r.timeout.getD .zero) (p.map Prod.snd))).toList ++
      l.givenUp.flatMap (endSights probe.name r.hooks.isSome) ++
      (l.report.map fun p => Sight.event (probeEnd p.1 p.2)).toList)

/-- What the end of a check tells. -/
def endNote (e : Nat × CheckResult) : Note :=
  .checkEnd e.1 e.2.name e.2.healthy e.2.detail

/-- What the events of a log tell, in order. -/
def notes (checks : List Check) (l : Log) : List Note :=
  .probeStart ::
    ((checks.zipIdx.take l.started).map (fun p => .checkStart p.2 p.1.name) ++
      l.joined.map endNote ++
      (l.pending.map fun p => Note.probeTimeout (p.map Prod.snd)).toList ++
      l.givenUp.map endNote ++
      (l.report.map fun p => Note.probeEnd p.1.healthy).toList)

/-- The parts of a log fit together. Unless a hook refuses a check all checks are dispatched; each
check ends at most once and by its name; the checks that are pending are those that have not ended,
in order, and those that are given up are an initial part of them. -/
structure Shaped (checks : List Check) (l : Log) : Prop where
  started_le : l.started ≤ checks.length
  started_eq : l.refused = none → l.started = checks.length
  of_refused : ∀ p, l.refused = some p → checks.zipIdx[l.started]? = some p ∧ l.joined = [] ∧
    l.pending = none ∧ l.report = none
  once : ((l.joined ++ l.givenUp).map Prod.fst).Nodup
  named : ∀ e ∈ l.joined ++ l.givenUp, checks[e.1]?.map (·.name) = some e.2.name
  pending_ne_nil : ∀ p, l.pending = some p → p ≠ []
  pending_sorted : ∀ p, l.pending = some p → (p.map Prod.fst).Pairwise (· < ·)
  mem_pending_iff : ∀ p, l.pending = some p → ∀ i name, (i, name) ∈ p ↔
    checks[i]?.map (·.name) = some name ∧ i ∉ l.joined.map Prod.fst
  givenUp_prefix : l.givenUp.map Prod.fst <+: (l.pending.getD []).map Prod.fst

/-- A log ends as the result of the run demands. With a report every check has ended with the result
that the report holds for it, and the end of the run is told. A run that fails for lack of time tells
of the deadline last, and one that fails for a hook shows the failing call last. One that panics has
dispatched all checks, and nothing is seen of it after that. -/
def Closes (r : Runner) (probe : Probe) (run : Run) (l : Log) : Prop :=
  match run.result with
  | .report report =>
    l.started = probe.checks.length ∧
      ((l.joined ++ l.givenUp).map Prod.fst).Perm (List.range probe.checks.length) ∧
      (∀ e ∈ l.joined ++ l.givenUp, report.results[e.1]? = some e.2) ∧
      ∃ elapsed, l.report = some (report, elapsed)
  | .failed (.timeout _ _) => l.pending ≠ none ∧ l.givenUp = [] ∧ l.report = none
  | .failed (.hook chain) =>
    l.report = none ∧
      ∃ call, run.trace.getLast? = some call ∧ call.failure? r.hooks = some chain
  | .failed _ => False
  | .never => l.refused = none ∧ l.pending = none ∧ l.report = none
  | .panicked =>
    l.started = probe.checks.length ∧ l.joined = [] ∧ l.pending = none ∧ l.givenUp = [] ∧
      l.report = none

/-- A log records what is collected in a run and what is given up of it, if it comes to that. Once all
checks are dispatched none is refused, and it tells of pending checks only when the deadline ends
collection. -/
structure Records (r : Runner) (probe : Probe) (d : Dispatched) (begins : Nat) (c : Collected)
    (l : Log) : Prop where
  refused : d.failure = none → l.refused = none
  joined : r.Collects d begins → l.joined = c.results
  pending : l.pending ≠ none → r.Collects d begins ∧ c.closing = .deadline
  ends : ∀ e ∈ l.joined ++ l.givenUp, r.Collects d begins ∧ (e ∈ c.results ∨ c.closing = .deadline ∧
    e ∈ (Run.pending probe.checks c.results).map (cutOff (Duration.clamp c.now)))

/-! ### Reading a log -/

/-- The notes that a trace tells. -/
def read (t : Trace) : List (Option Note) := t.events.map Note.ofEvent?

@[simp] theorem read_append (t u : Trace) : read (t ++ u) = read t ++ read u := by
  rw [read, Trace.events, List.filterMap_append, List.map_append]
  rfl

@[simp] theorem read_cons_event (e : Event) (t : Trace) :
    read (.event e :: t) = Note.ofEvent? e :: read t := rfl

/-- What tells one note for each item tells the notes of the items. -/
theorem read_flatMap {α : Type} {sights : α → Trace} {note : α → Note}
    (h : ∀ x, read (sights x) = [some (note x)]) (items : List α) :
    read (items.flatMap sights) = (items.map note).map some := by
  induction items with
  | nil => rfl
  | cons x rest ih =>
      rw [List.flatMap_cons, read_append, h, ih]
      rfl

/-- The dispatch of a check tells one note. -/
theorem read_startSights (probe : String) (hooked : Bool) (p : Check × Nat) :
    read (startSights probe hooked p) = [some (.checkStart p.2 p.1.name)] := by
  cases hooked <;> simp [startSights, read, Trace.events, Note.ofEvent?_checkStart]

/-- The end of a check tells one note. -/
theorem read_endSights (probe : String) (hooked : Bool) (e : Nat × CheckResult) :
    read (endSights probe hooked e) = [some (endNote e)] := by
  cases hooked <;> simp [endSights, endNote, read, Trace.events, Note.ofEvent?_checkEnd]

/-- **The events of a log tell its notes.** -/
theorem read_trace (r : Runner) (probe : Probe) (l : Log) :
    read (l.trace r probe) = (l.notes probe.checks).map some := by
  have hrefused : read (l.refused.map fun p =>
      Sight.startHook probe.name p.1.name p.2).toList = [] := by
    cases l.refused <;> rfl
  have hpending : read (l.pending.map fun p =>
      Sight.event (probeTimeout probe.name (r.timeout.getD .zero) (p.map Prod.snd))).toList =
      (l.pending.map fun p => Note.probeTimeout (p.map Prod.snd)).toList.map some := by
    cases l.pending with
    | none => rfl
    | some p => simp [read, Trace.events, Note.ofEvent?_probeTimeout]
  have hreport : read (l.report.map fun p => Sight.event (probeEnd p.1 p.2)).toList =
      (l.report.map fun p => Note.probeEnd p.1.healthy).toList.map some := by
    cases l.report with
    | none => rfl
    | some p => simp [read, Trace.events, Note.ofEvent?_probeEnd]
  simp only [trace, notes, read_cons_event, read_append, Note.ofEvent?_probeStart, hrefused, hpending,
    hreport, read_flatMap (read_startSights _ _), read_flatMap (read_endSights _ _), List.map_cons,
    List.map_append, List.append_nil]

/-! ### Start hooks -/

/-- Start hooks are called for the checks in order: for those that are dispatched and for the one that
is refused. -/
theorem startCalls_trace {r : Runner} {probe : Probe} {l : Log} (h : l.Shaped probe.checks)
    (hooked : r.hooks.isSome = true) :
    (l.trace r probe).startCalls = List.range (l.started + l.refused.toList.length) := by
  have hends (ends : List (Nat × CheckResult)) :
      Trace.startCalls (ends.flatMap (endSights probe.name true)) = [] := by
    rw [Trace.startCalls, List.filterMap_flatMap, List.flatMap_eq_nil_iff]
    exact fun _ _ => rfl
  have hstarts : Trace.startCalls
      ((probe.checks.zipIdx.take l.started).flatMap (startSights probe.name true)) =
        List.range l.started := by
    rw [Trace.startCalls, List.filterMap_flatMap]
    calc (probe.checks.zipIdx.take l.started).flatMap (fun p => [p.2])
        = (probe.checks.zipIdx.map Prod.snd).take l.started := by
          rw [← List.map_eq_flatMap, List.map_take]
      _ = List.range l.started := by
          rw [List.zipIdx_map_snd, ← List.range_eq_range', List.take_range,
            Nat.min_eq_left h.started_le]
  have hrefused : Trace.startCalls (l.refused.map fun p =>
      Sight.startHook probe.name p.1.name p.2).toList = l.refused.toList.map fun _ => l.started := by
    cases hr : l.refused with
    | none => rfl
    | some p =>
        obtain ⟨hp, -⟩ := h.of_refused p hr
        rw [List.getElem?_zipIdx, Option.map_eq_some_iff] at hp
        obtain ⟨c, -, rfl⟩ := hp
        simp [Trace.startCalls]
  have hpending : Trace.startCalls (l.pending.map fun p =>
      Sight.event (probeTimeout probe.name (r.timeout.getD .zero) (p.map Prod.snd))).toList = [] := by
    cases l.pending <;> rfl
  have hreport : Trace.startCalls
      (l.report.map fun p => Sight.event (probeEnd p.1 p.2)).toList = [] := by
    cases l.report <;> rfl
  simp only [trace, hooked, Trace.startCalls_cons_event, Trace.startCalls_append, hstarts, hrefused,
    hends,
    hpending, hreport, List.append_nil]
  cases hr : l.refused with
  | none => simp
  | some p => simp [List.range_succ]

end Log

end Run

namespace Runner

open Run

variable {r : Runner} {probe : Probe} {calls : List Nat}
  {s : Schedule (r.dispatched probe calls).tasks}

/-! ### The log that a run leaves -/

/-- What is seen of dispatch if no hook fails in it. -/
theorem dispatched_trace (hd : (r.dispatched probe calls).failure = none) :
    (r.dispatched probe calls).trace =
      (probe.checks.zipIdx.take probe.checks.length).flatMap
        (startSights probe.name r.hooks.isSome) := by
  rw [dispatched, dispatch_trace hd, ← dispatched, dispatched_places, length_dispatched hd]

/-- What is seen of dispatch if a hook fails in it: the failing call comes after the tasks, and the
check it is for is the next one. -/
theorem dispatched_trace_of_failure {chain : Chain}
    (hd : (r.dispatched probe calls).failure = some chain) :
    ∃ p, probe.checks.zipIdx[(r.dispatched probe calls).tasks.length]? = some p ∧
      (Hooks.actOf r.hooks (·.onStart p.2)).failure = some chain ∧
      (r.dispatched probe calls).trace =
        (probe.checks.zipIdx.take (r.dispatched probe calls).tasks.length).flatMap
          (startSights probe.name r.hooks.isSome) ++ [.startHook probe.name p.1.name p.2] := by
  obtain ⟨c, n, hc, htrace⟩ := dispatch_trace_of_failure hd
  obtain ⟨-, hfails⟩ := length_dispatch_of_failure hd
  rw [List.getElem?_map, List.getElem?_zipIdx, Option.map_map, Option.map_eq_some_iff] at hc
  obtain ⟨c, hc, he⟩ := hc
  obtain ⟨rfl, rfl⟩ := Prod.mk.inj he
  rw [Nat.zero_add] at hfails htrace
  refine ⟨(c, (r.dispatched probe calls).tasks.length), ?_, hfails, ?_⟩
  · rw [List.getElem?_zipIdx, dispatched, hc, Nat.zero_add]
    rfl
  · rw [← dispatched_places]
    exact htrace

/-- What is seen of collection are the ends of what it took. -/
theorem collected_trace :
    (r.collected probe (r.dispatched probe calls) s).trace =
      (r.collected probe (r.dispatched probe calls) s).results.flatMap
        (endSights probe.name r.hooks.isSome) := collect_trace _ _ _

/-- An end of a run bears the name of its check. -/
theorem name_of_mem_ends {e : Nat × CheckResult}
    (h : e ∈ ends probe (r.collected probe (r.dispatched probe calls) s)) :
    probe.checks[e.1]?.map (·.name) = some e.2.name := by
  obtain ⟨c, hcheck, hyields | ⟨-, _, hcut⟩⟩ := yields_or_pending h
  · obtain ⟨-, -, -, hname, -⟩ := hyields
    rw [hcheck, hname]
    rfl
  · rw [hcheck, hcut]
    rfl

/-- Where there are hooks the last thing that is seen of ends is the call of the last one's hook. -/
theorem getLast?_ends {name : String} {ends : List (Nat × CheckResult)} {e : Nat × CheckResult}
    (h : ends.getLast? = some e) (before : Trace) :
    (before ++ ends.flatMap (endSights name true)).getLast? = some (.endHook name e.1 e.2) := by
  obtain ⟨init, rfl⟩ := List.getLast?_eq_some_iff.mp h
  simp [endSights]

/-- The log of a run in whose dispatch a hook fails is shaped. -/
theorem shaped_of_refused {started : Nat} {p : Check × Nat}
    (hp : probe.checks.zipIdx[started]? = some p) :
    Log.Shaped probe.checks ⟨started, some p, [], none, [], none⟩ where
  started_le := by
    have := (List.getElem?_eq_some_iff.mp hp).1
    rw [List.length_zipIdx] at this
    exact Nat.le_of_lt this
  started_eq := nofun
  of_refused _ h := Option.some.inj h ▸ ⟨hp, rfl, rfl, rfl⟩
  once := List.nodup_nil
  named := nofun
  pending_ne_nil := nofun
  pending_sorted := nofun
  mem_pending_iff := nofun
  givenUp_prefix := List.nil_prefix

/-- The log of a run that panics once all checks are dispatched is shaped. -/
theorem shaped_of_panicked (checks : List Check) :
    Log.Shaped checks ⟨checks.length, none, [], none, [], none⟩ where
  started_le := Nat.le_refl _
  started_eq _ := rfl
  of_refused := nofun
  once := List.nodup_nil
  named := nofun
  pending_ne_nil := nofun
  pending_sorted := nofun
  mem_pending_iff := nofun
  givenUp_prefix := List.nil_prefix

/-- The log of a run that has dispatched all checks is shaped, if it tells of the pending checks when
the deadline is seen and gives up none but them. -/
theorem shaped_of_dispatched (s : Schedule (r.dispatched probe calls).tasks)
    (told : Option (List (Nat × String))) (given : List (Nat × CheckResult))
    (report : Option (Report × Duration))
    (h : told = none ∧ given = [] ∨
      (r.collected probe (r.dispatched probe calls) s).closing = .deadline ∧
        told = some (pending probe.checks (r.collected probe (r.dispatched probe calls) s).results) ∧
        given <+: (pending probe.checks (r.collected probe (r.dispatched probe calls) s).results).map
          (cutOff (Duration.clamp (r.collected probe (r.dispatched probe calls) s).now))) :
    Log.Shaped probe.checks
      ⟨probe.checks.length, none, (r.collected probe (r.dispatched probe calls) s).results, told, given,
        report⟩ := by
  have hends : ((r.collected probe (r.dispatched probe calls) s).results ++ given).Sublist
      (ends probe (r.collected probe (r.dispatched probe calls) s)) := by
    refine List.Sublist.append_left ?_ _
    rcases h with ⟨-, rfl⟩ | ⟨-, -, hgiven⟩
    · exact List.nil_sublist _
    · exact hgiven.sublist
  refine
    { started_le := Nat.le_refl _
      started_eq := fun _ => rfl
      of_refused := fun p hp => by cases hp
      once := (hends.map _).nodup (ends_perm.nodup_iff.mpr List.nodup_range)
      named := fun e he => name_of_mem_ends (hends.subset he)
      pending_ne_nil := fun p hp => ?_
      pending_sorted := fun p hp => ?_
      mem_pending_iff := fun p hp i name => ?_
      givenUp_prefix := ?_ }
  · rcases h with ⟨rfl, -⟩ | ⟨hc, rfl, -⟩ <;> cases hp
    exact pending_ne_nil hc
  · rcases h with ⟨rfl, -⟩ | ⟨-, rfl, -⟩ <;> cases hp
    exact pending_sorted _ _
  · rcases h with ⟨rfl, -⟩ | ⟨-, rfl, -⟩ <;> cases hp
    exact mem_pending_iff
  · rcases h with ⟨-, rfl⟩ | ⟨-, rfl, hgiven⟩
    · exact List.nil_prefix
    · have hkeys := hgiven.map Prod.fst
      rw [List.map_map] at hkeys
      exact hkeys

/-- The log of a run in whose dispatch a hook fails records that nothing is collected. -/
theorem records_of_refused {d : Dispatched} {begins : Nat} {c : Collected} {chain : Chain}
    {started : Nat} {p : Check × Nat} (hd : d.failure = some chain) :
    Log.Records r probe d begins c ⟨started, some p, [], none, [], none⟩ where
  refused h := by rw [hd] at h; cases h
  joined h := by have := h.dispatched; rw [hd] at this; cases this
  pending h := absurd rfl h
  ends := nofun

/-- The log of a run that panics records that nothing is collected. -/
theorem records_of_panicked {d : Dispatched} {begins started : Nat} {c : Collected}
    (ho : r.overruns d begins = true) :
    Log.Records r probe d begins c ⟨started, none, [], none, [], none⟩ where
  refused _ := rfl
  joined h := by have := h.onClock; rw [ho] at this; cases this
  pending h := absurd rfl h
  ends := nofun

/-- The log of a run that comes to collection records what is collected, if it tells of pending checks
only when the deadline is seen and gives up none but them. -/
theorem records_of_collects {d : Dispatched} {begins : Nat} {c : Collected}
    {told : Option (List (Nat × String))} {given : List (Nat × CheckResult)}
    {report : Option (Report × Duration)} (hd : r.Collects d begins)
    (h : told = none ∧ given = [] ∨ c.closing = .deadline ∧
      given <+: (pending probe.checks c.results).map (cutOff (.clamp c.now))) :
    Log.Records r probe d begins c ⟨probe.checks.length, none, c.results, told, given, report⟩ where
  refused _ := rfl
  joined _ := rfl
  pending htold := ⟨hd, (h.resolve_left fun h => htold h.1).1⟩
  ends e he := by
    refine ⟨hd, (List.mem_append.mp he).imp_right fun he => ?_⟩
    rcases h with ⟨-, rfl⟩ | ⟨hc, hgiven⟩
    · cases he
    · exact ⟨hc, hgiven.subset he⟩

/-- **Every run leaves a log that is shaped and closes it**, and that records its ends. -/
theorem trace_eq_log (r : Runner) (probe : Probe) (calls : List Nat)
    (s : Schedule (r.dispatched probe calls).tasks) :
    ∃ l : Log, (r.runInOrder probe calls s).trace = l.trace r probe ∧ l.Shaped probe.checks ∧
      l.Closes r probe (r.runInOrder probe calls s) ∧
      l.Records r probe (r.dispatched probe calls) s.begins
        (r.collected probe (r.dispatched probe calls) s) := by
  have hcourse := r.course_runInOrder probe calls s
  have hreport := @getElem?_of_mem_ends r probe calls s
  generalize r.runInOrder probe calls s = run at hcourse hreport
  cases hcourse with
  | startFailed hd =>
      obtain ⟨p, hp, hfails, htrace⟩ := dispatched_trace_of_failure hd
      refine ⟨⟨(r.dispatched probe calls).tasks.length, some p, [], none, [], none⟩, ?_,
        shaped_of_refused hp, ⟨rfl, .startHook probe.name p.1.name p.2, ?_, hfails⟩,
        records_of_refused hd⟩
      · simp [Log.trace, htrace]
      · rw [htrace, ← List.cons_append, List.getLast?_concat]
  | panicked hd ho =>
      refine ⟨_, ?_, shaped_of_panicked probe.checks, ⟨rfl, rfl, rfl, rfl, rfl⟩,
        records_of_panicked ho⟩
      simp [Log.trace, dispatched_trace hd]
  | complete hd hc =>
      have hpending := pending_eq_nil hd.dispatched hc
      refine ⟨_, ?_, shaped_of_dispatched s none []
        (some (_, .clamp (r.collected probe (r.dispatched probe calls) s).now)) (.inl ⟨rfl, rfl⟩),
        ⟨rfl, ?_, fun e he => hreport rfl ?_, _, rfl⟩, records_of_collects hd (.inl ⟨rfl, rfl⟩)⟩
      · simp [Log.trace, dispatched_trace hd.dispatched, collected_trace, conclude]
      · simpa [ends, hpending] using @ends_perm r probe calls s
      · simpa [ends, hpending] using he
  | never hd hc =>
      refine ⟨_, ?_, shaped_of_dispatched s none [] none (.inl ⟨rfl, rfl⟩), ⟨rfl, rfl, rfl⟩,
        records_of_collects hd (.inl ⟨rfl, rfl⟩)⟩
      simp [Log.trace, dispatched_trace hd.dispatched, collected_trace]
  | endFailed hd hc =>
      obtain ⟨e, hlast, hfails⟩ := collect_of_hook hc
      refine ⟨_, ?_, shaped_of_dispatched s none [] none (.inl ⟨rfl, rfl⟩),
        ⟨rfl, .endHook probe.name e.1 e.2, ?_, hfails⟩, records_of_collects hd (.inl ⟨rfl, rfl⟩)⟩
      · simp [Log.trace, dispatched_trace hd.dispatched, collected_trace]
      · rw [List.append_nil, collected_trace, Hooks.isSome_of_failure hfails]
        exact getLast?_ends hlast _
  | timedOut hd hc hr =>
      refine ⟨_, ?_, shaped_of_dispatched s (some _) [] none (.inr ⟨hc, rfl, List.nil_prefix⟩),
        ⟨Option.some_ne_none _, rfl, rfl⟩, records_of_collects hd (.inr ⟨hc, List.nil_prefix⟩)⟩
      simp [Log.trace, dispatched_trace hd.dispatched, collected_trace, notice]
  | givingUpFailed hd hc hr hg =>
      obtain ⟨k, p, hp, hfails, htrace⟩ := giveUp_of_failure hg
      have hgiven := (List.take_prefix (k + 1) (pending probe.checks
        (r.collected probe (r.dispatched probe calls) s).results)).map
          (cutOff (.clamp (r.collected probe (r.dispatched probe calls) s).now))
      refine ⟨_, ?_, shaped_of_dispatched s (some _) _ none (.inr ⟨hc, rfl, hgiven⟩),
        ⟨rfl, .endHook probe.name p.1 (.timedOut p.2
          (.clamp (r.collected probe (r.dispatched probe calls) s).now)), ?_, hfails⟩,
        records_of_collects hd (.inr ⟨hc, hgiven⟩)⟩
      · simp [Log.trace, dispatched_trace hd.dispatched, collected_trace, notice, givenUp, htrace]
      · rw [givenUp, htrace, Hooks.isSome_of_failure hfails, List.append_cons]
        refine getLast?_ends (e := cutOff _ p) ?_ _
        rw [List.getLast?_map, List.take_add_one, hp, Option.toList_some, List.getLast?_concat]
        rfl
  | givenUp hd hc hr hg =>
      obtain ⟨hresults, htrace⟩ := giveUp_of_ok hg
      refine ⟨_, ?_, shaped_of_dispatched s (some _) _ (some (_, .clamp (r.givenUp probe
        (r.collected probe (r.dispatched probe calls) s)).now)) (.inr ⟨hc, rfl, List.prefix_refl _⟩),
        ⟨rfl, ends_perm, fun e he => hreport rfl he, _, rfl⟩,
        records_of_collects hd (.inr ⟨hc, List.prefix_refl _⟩)⟩
      simp [Log.trace, dispatched_trace hd.dispatched, collected_trace, notice, givenUp, hresults, htrace,
        conclude]

/-- **The events of every run have one shape and go to one sink.** They tell the notes of a log whose
parts fit together and which ends as the result of the run demands. The hooks before checks are
called in order, each right before the event of its check. All events go to the runner's own sink, if
it has one, and otherwise to the shared one, which keeps them if it records. -/
theorem events_shaped (r : Runner) (probe : Probe) (calls : List Nat)
    (s : Schedule (r.dispatched probe calls).tasks) :
    ∃ l : Log,
      (r.runInOrder probe calls s).trace.events.map Note.ofEvent? = (l.notes probe.checks).map some ∧
        l.Shaped probe.checks ∧
        l.Closes r probe (r.runInOrder probe calls s) ∧
        (r.runInOrder probe calls s).trace = l.trace r probe ∧
        (r.hooks.isSome = true → (r.runInOrder probe calls s).trace.startCalls =
          List.range (l.started + l.refused.toList.length)) ∧
        ∀ (session : Session) (answer : Session.Answer),
          ((session.seen (r.runInOrder probe calls s) answer false).own =
              (r.runInOrder probe calls s).trace.events ∧
            (session.seen (r.runInOrder probe calls s) answer false).shared = []) ∧
          ((session.seen (r.runInOrder probe calls s) answer true).own = [] ∧
            (session.seen (r.runInOrder probe calls s) answer true).shared =
              if session.recording then (r.runInOrder probe calls s).trace.events else []) := by
  obtain ⟨l, htrace, hshaped, hcloses, -⟩ := trace_eq_log r probe calls s
  refine ⟨l, ?_, hshaped, hcloses, htrace, fun hooked => ?_, fun session answer => ?_⟩
  · rw [htrace]
    exact l.read_trace r probe
  · rw [htrace]
    exact Log.startCalls_trace hshaped hooked
  · exact ⟨⟨rfl, rfl⟩, rfl, by simp [Session.seen]⟩

end Runner

end Vigil
