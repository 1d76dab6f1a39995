import Vigil.Proofs.Run.Collection

/-!
# The Course of a Run

A run goes one of eight ways: a start hook fails, the deadline is past the end of the machine's clock,
collection is complete, never ends or is ended by a hook, or the deadline is seen, after which the run
fails or gives the pending checks up, with or without a hook failing over it. `Runner.Course` lists the
eight with all that an observer gets, and `Runner.course_runInOrder` says that there is no other. Every
property of runs is proved by going through this list.

The rest of the module is the account of the indices that the list needs: what is collected belongs
to the checks of the probe, each index once, and what is pending are exactly the others.

## Main results

* `Runner.course_runInOrder`: the ways in which a run goes.
* `Runner.panicked_iff`: when a run panics.
* `Runner.joined_yields`: what is recorded under an index is the own result of the check there.
* `Runner.pending_ne_nil`: at the deadline some check is pending.
* `arrange_eq`: with an entry for every index the report needs no other.
-/

namespace Vigil

/-- What an ending says of its check: the verdict of an outcome with its detail, and ill health with
the whole chain of a fault or the detail of a panic. -/
inductive Ending.Says : Ending → Bool → Option String → Prop
  | outcome (o : Outcome) : Says (.concluded (.ok o)) o.healthy o.detail
  | fault (chain : Chain) : Says (.concluded (.error chain)) false (some (": ".intercalate chain))
  | panic (message : String) :
      Says (.panicked (some message)) false (some ("Check panicked: " ++ message))
  | silentPanic : Says (.panicked none) false (some "Check panicked")

/-- A result is the own result of a check's call: it bears the check's name and says what the ending
of that call says. -/
def Check.Yields (c : Check) (call : Nat) (result : CheckResult) : Prop :=
  ∃ delay ending, c.settling (c.work call) = some (delay, ending) ∧ result.name = c.name ∧
    ending.Says result.healthy result.detail

namespace Run

/-! ### Tables by index -/

/-- In a table without repeated keys an entry is found under its key. -/
theorem lookup_of_mem {α : Type} {table : List (Nat × α)} (h : (table.map Prod.fst).Nodup) {i : Nat}
    {x : α} (hmem : (i, x) ∈ table) : table.lookup i = some x := by
  obtain ⟨before, after, rfl⟩ := List.append_of_mem hmem
  refine List.lookup_eq_some_iff.mpr ⟨before, after, rfl, fun p hp => ?_⟩
  rw [List.map_append, List.map_cons, List.nodup_append] at h
  simpa using fun he => h.2.2 p.1 (List.mem_map_of_mem hp) i List.mem_cons_self he.symm

/-- A table has an entry under each of its keys and no other. -/
theorem lookup_isNone_iff {α : Type} {table : List (Nat × α)} {i : Nat} :
    (table.lookup i).isNone = true ↔ i ∉ table.map Prod.fst := by
  rw [Option.isNone_iff_eq_none, List.lookup_eq_none_iff, List.mem_map]
  constructor
  · rintro h ⟨p, hp, rfl⟩
    simpa using h p hp
  · intro h p hp
    exact bne_iff_ne.mpr fun he => h ⟨p, hp, he.symm⟩

/-- The pending checks are those without an entry. -/
theorem mem_pending_iff {checks : List Check} {results : List (Nat × CheckResult)} {i : Nat}
    {name : String} :
    (i, name) ∈ pending checks results ↔
      checks[i]?.map (·.name) = some name ∧ i ∉ results.map Prod.fst := by
  rw [pending, List.mem_filter, lookup_isNone_iff, List.mem_map, Option.map_eq_some_iff]
  refine and_congr_left fun _ => ?_
  constructor
  · rintro ⟨⟨c, j⟩, hc, he⟩
    obtain ⟨rfl, rfl⟩ := Prod.mk.inj he
    exact ⟨c, List.mem_zipIdx_iff_getElem?.mp hc, rfl⟩
  · rintro ⟨c, hc, rfl⟩
    exact ⟨(c, i), List.mem_zipIdx_iff_getElem?.mpr hc, rfl⟩

/-- Pending checks stand in the order of the probe. -/
theorem pending_sorted (checks : List Check) (results : List (Nat × CheckResult)) :
    ((pending checks results).map Prod.fst).Pairwise (· < ·) := by
  rw [List.pairwise_map]
  refine List.Pairwise.filter _ ?_
  rw [← List.pairwise_map, List.map_map]
  have he : (Prod.fst ∘ fun x : Check × Nat => (x.2, x.1.name)) = Prod.snd := rfl
  rw [he, List.zipIdx_map_snd]
  exact List.pairwise_lt_range'

/-- With an entry for every index the results of a report are the entries, in order. -/
theorem arrange_eq {checks : List Check} {results : List (Nat × CheckResult)}
    (hnodup : (results.map Prod.fst).Nodup) {i : Nat} {result : CheckResult}
    (hi : i < checks.length) (hmem : (i, result) ∈ results) :
    (arrange checks results)[i]? = some result := by
  rw [arrange, List.getElem?_map, List.getElem?_zipIdx, List.getElem?_eq_getElem hi]
  simp [lookup_of_mem hnodup hmem]

/-- A report has one result for each check. -/
theorem length_arrange (checks : List Check) (results : List (Nat × CheckResult)) :
    (arrange checks results).length = checks.length := by
  rw [arrange, List.length_map, List.length_zipIdx]

/-! ### What an arrival yields -/

/-- The result that is made of an ending says what the ending says. -/
theorem Arrival.says_result {a : Arrival} {ending : Ending} (h : a.joined = .ended ending) :
    a.result.name = a.task.check.name ∧ ending.Says a.result.healthy a.result.detail := by
  rw [Arrival.result, h]
  cases ending with
  | concluded conclusion =>
      cases conclusion with
      | ok outcome => exact ⟨rfl, .outcome outcome⟩
      | error chain => exact ⟨rfl, .fault chain⟩
  | panicked message =>
      cases message with
      | some message => exact ⟨rfl, .panic message⟩
      | none => exact ⟨rfl, .silentPanic⟩

/-- The result of a task that settles is the own result of the call it makes. -/
theorem Arrival.yields {t : Task} {a : Arrival} {call : Nat} (h : Arrival.ofTask? t = some a)
    (hwork : t.work = t.check.work call) : t.check.Yields call a.result := by
  obtain ⟨⟨time, ending⟩, hs, rfl⟩ := Option.map_eq_some_iff.mp h
  obtain ⟨⟨delay, ending'⟩, hsettle, he⟩ := Option.map_eq_some_iff.mp hs
  obtain ⟨-, rfl⟩ := Prod.mk.inj he
  have hsays := Arrival.says_result (a := ⟨t, time, .ended ending'⟩) rfl
  exact ⟨delay, ending', hwork ▸ hsettle, hsays.1, hsays.2⟩

/-- A task settles no earlier than it is dispatched. -/
theorem Arrival.since_le_time {t : Task} {a : Arrival} (h : Arrival.ofTask? t = some a) :
    a.task.since ≤ a.time := by
  obtain ⟨rfl, hle⟩ := Arrival.since_le_of_ofTask? h
  exact hle

end Run

namespace Runner

open Run

variable {r : Runner} {probe : Probe} {calls : List Nat}

/-! ### The tasks of a run -/

/-- The tasks are those of an initial part of the probe's checks. -/
theorem dispatched_places :
    (r.dispatched probe calls).tasks.map Task.place =
      probe.checks.zipIdx.take (r.dispatched probe calls).tasks.length := by
  rw [dispatched, dispatch_places, List.map_map]
  have he : (Prod.fst ∘ fun x : Check × Nat => (x.1, calls.getD x.2 0)) = Prod.fst := rfl
  rw [he, List.zipIdx_map_fst]

/-- The task at a place belongs to the check at that place and does the work of its next call. -/
theorem dispatched_task {k : Nat} {t : Task} (h : (r.dispatched probe calls).tasks[k]? = some t) :
    probe.checks[k]? = some t.check ∧ t.index = k ∧ t.work = t.check.work (calls.getD k 0) := by
  obtain ⟨c, n, hc, hi, rfl, hw⟩ := dispatch_task h
  rw [List.getElem?_map, List.getElem?_zipIdx, Option.map_map, Option.map_eq_some_iff] at hc
  obtain ⟨c, hc, he⟩ := hc
  obtain ⟨rfl, rfl⟩ := Prod.mk.inj he
  rw [Nat.zero_add] at hi hw
  exact ⟨hc, hi, hw⟩

/-- A task stands at the place of its index. -/
theorem getElem?_of_mem_dispatched {t : Task} (h : t ∈ (r.dispatched probe calls).tasks) :
    (r.dispatched probe calls).tasks[t.index]? = some t := by
  obtain ⟨k, hk⟩ := List.getElem?_of_mem h
  obtain ⟨-, rfl, -⟩ := dispatched_task hk
  exact hk

/-- Where no start hook fails every check has a task. -/
theorem length_dispatched (h : (r.dispatched probe calls).failure = none) :
    (r.dispatched probe calls).tasks.length = probe.checks.length := by
  rw [dispatched, length_dispatch h, List.length_map, List.length_zipIdx]

/-- No two tasks share an index. -/
theorem nodup_dispatched : ((r.dispatched probe calls).tasks.map (·.index)).Nodup := by
  have he : (fun t : Task => t.index) = Prod.snd ∘ Task.place := rfl
  rw [he, ← List.map_map, dispatched_places, List.map_take, List.zipIdx_map_snd]
  exact (List.take_sublist _ _).nodup List.nodup_range'

/-! ### What is collected -/

variable {s : Schedule (r.dispatched probe calls).tasks}

/-- What is collected are entries of the schedule. -/
theorem exists_of_mem_collected {e : Nat × CheckResult}
    (h : e ∈ (r.collected probe (r.dispatched probe calls) s).results) :
    ∃ a ∈ s.order, e = a.entry := by
  rw [collected, collect_results] at h
  obtain ⟨a, ha, rfl⟩ := List.mem_map.mp h
  exact ⟨a, List.mem_of_mem_take ha, rfl⟩

/-- No index is collected twice. -/
theorem nodup_collected :
    ((r.collected probe (r.dispatched probe calls) s).results.map Prod.fst).Nodup := by
  rw [collected, collect_results, List.map_map]
  exact ((List.take_sublist _ _).map _).nodup (s.nodup_indices nodup_dispatched)

/-- What is recorded under an index is the own result of the check there. -/
theorem joined_yields {e : Nat × CheckResult}
    (h : e ∈ (r.collected probe (r.dispatched probe calls) s).results) :
    ∃ c, probe.checks[e.1]? = some c ∧ c.Yields (calls.getD e.1 0) e.2 := by
  obtain ⟨a, ha, rfl⟩ := exists_of_mem_collected h
  obtain ⟨t, ht, hta⟩ := s.mem_order_iff.mp ha
  obtain ⟨hcheck, -, hwork⟩ := dispatched_task (getElem?_of_mem_dispatched ht)
  rw [Arrival.entry, Arrival.task_of_ofTask? hta]
  exact ⟨t.check, hcheck, Arrival.yields hta hwork⟩

/-- What is collected under the index of a task is the arrival of that task. -/
theorem exists_arrival_of_collected {t : Task} (ht : t ∈ (r.dispatched probe calls).tasks)
    (h : t.index ∈ (r.collected probe (r.dispatched probe calls) s).results.map Prod.fst) :
    ∃ a ∈ s.order.take (r.collected probe (r.dispatched probe calls) s).results.length,
      Arrival.ofTask? t = some a := by
  rw [collected, collect_results, List.map_map, List.mem_map] at h
  obtain ⟨a, ha, hindex⟩ := h
  obtain ⟨u, hu, hua⟩ := s.mem_order_iff.mp (List.mem_of_mem_take ha)
  have hau := Arrival.task_of_ofTask? hua
  -- two tasks of one index are one task
  have hut := getElem?_of_mem_dispatched hu
  rw [← hau, show a.task.index = t.index from hindex, getElem?_of_mem_dispatched ht] at hut
  exact ⟨a, ha, by rw [Option.some.inj hut, hau, hua]⟩

/-- An arrival of the schedule that has not been taken has no entry. -/
theorem notMem_collected_of_mem_left {a : Arrival}
    (h : a ∈ s.order.drop (r.collected probe (r.dispatched probe calls) s).results.length) :
    a.task.index ∉ (r.collected probe (r.dispatched probe calls) s).results.map Prod.fst := by
  intro hmem
  have hnodup := s.nodup_indices nodup_dispatched
  rw [← List.take_append_drop (r.collected probe (r.dispatched probe calls) s).results.length s.order,
    List.map_append, List.nodup_append] at hnodup
  refine hnodup.2.2 a.task.index ?_ a.task.index (List.mem_map_of_mem h) rfl
  rw [collected, collect_results, List.map_map] at hmem
  exact hmem

/-- The entry of a task that settles has been taken, or its arrival is left. -/
theorem mem_collected_or_mem_left {t : Task} {a : Arrival}
    (ht : t ∈ (r.dispatched probe calls).tasks) (ha : Arrival.ofTask? t = some a) :
    a.entry ∈ (r.collected probe (r.dispatched probe calls) s).results ∨
      a ∈ s.order.drop (r.collected probe (r.dispatched probe calls) s).results.length := by
  have hmem : a ∈ s.order := s.mem_order_iff.mpr ⟨t, ht, ha⟩
  rw [← List.take_append_drop (r.collected probe (r.dispatched probe calls) s).results.length s.order,
    List.mem_append] at hmem
  refine hmem.imp_left fun h => ?_
  rw [collected, collect_results]
  exact List.mem_map_of_mem h

/-- Where collection is complete every task that settles is collected. -/
theorem entry_mem_collected_of_complete
    (hc : (r.collected probe (r.dispatched probe calls) s).closing = .complete) {t : Task}
    {a : Arrival} (h : t ∈ (r.dispatched probe calls).tasks) (ha : Arrival.ofTask? t = some a) :
    a.entry ∈ (r.collected probe (r.dispatched probe calls) s).results := by
  refine (mem_collected_or_mem_left (s := s) h ha).resolve_right fun hleft => ?_
  rw [collected, (collect_of_complete hc).1, List.drop_length] at hleft
  cases hleft

/-- When collection is complete every index is collected. -/
theorem mem_collected_of_complete (hd : (r.dispatched probe calls).failure = none)
    (hc : (r.collected probe (r.dispatched probe calls) s).closing = .complete) {i : Nat}
    (hi : i < probe.checks.length) :
    i ∈ (r.collected probe (r.dispatched probe calls) s).results.map Prod.fst := by
  obtain ⟨-, hstuck⟩ := collect_of_complete hc
  rw [← length_dispatched hd] at hi
  have ht := List.getElem_mem hi
  obtain ⟨-, hindex, -⟩ := dispatched_task (List.getElem?_eq_getElem hi)
  have hsettles := List.any_eq_false.mp hstuck _ ht
  rw [Option.isNone_iff_eq_none] at hsettles
  obtain ⟨v, hv⟩ := Option.ne_none_iff_exists'.mp hsettles
  have ha := Arrival.ofTask?_of_settles hv
  exact List.mem_map.mpr ⟨_, entry_mem_collected_of_complete hc ht ha, hindex⟩

/-- At the deadline some check is pending. -/
theorem pending_ne_nil
    (hc : (r.collected probe (r.dispatched probe calls) s).closing = .deadline) :
    pending probe.checks (r.collected probe (r.dispatched probe calls) s).results ≠ [] := by
  suffices h : ∃ t ∈ (r.dispatched probe calls).tasks,
      t.index ∉ (r.collected probe (r.dispatched probe calls) s).results.map Prod.fst by
    obtain ⟨t, ht, hnot⟩ := h
    obtain ⟨hcheck, -, -⟩ := dispatched_task (getElem?_of_mem_dispatched ht)
    refine List.ne_nil_of_mem (a := (t.index, t.check.name)) (mem_pending_iff.mpr ⟨?_, hnot⟩)
    rw [hcheck]
    rfl
  obtain ⟨-, hleft | hstuck⟩ := collect_of_deadline hc
  · -- a task of the schedule is left
    obtain ⟨a, rest, hdrop⟩ := List.exists_cons_of_ne_nil
      (fun h => absurd (List.drop_eq_nil_iff.mp h) (Nat.not_le.mpr hleft))
    have ha : a ∈ s.order.drop (r.collected probe (r.dispatched probe calls) s).results.length :=
      hdrop ▸ List.mem_cons_self
    exact ⟨a.task, s.task_mem (List.mem_of_mem_drop ha), notMem_collected_of_mem_left ha⟩
  · -- a task never settles
    obtain ⟨t, ht, hnone⟩ := List.any_eq_true.mp hstuck
    refine ⟨t, ht, fun hmem => ?_⟩
    obtain ⟨a, -, hta⟩ := exists_arrival_of_collected ht hmem
    obtain ⟨v, hv, -⟩ := Option.map_eq_some_iff.mp hta
    simp [hv] at hnone

/-- At the end of a complete collection no check is pending. -/
theorem pending_eq_nil (hd : (r.dispatched probe calls).failure = none)
    (hc : (r.collected probe (r.dispatched probe calls) s).closing = .complete) :
    pending probe.checks (r.collected probe (r.dispatched probe calls) s).results = [] := by
  refine List.eq_nil_iff_forall_not_mem.mpr fun p hp => ?_
  obtain ⟨hcheck, hnot⟩ := mem_pending_iff.mp hp
  obtain ⟨c, hc', -⟩ := Option.map_eq_some_iff.mp hcheck
  exact hnot (mem_collected_of_complete hd hc (List.getElem?_eq_some_iff.mp hc').1)

/-- The ends of all checks of a run: what is collected, and the pending checks cut off. -/
def ends (probe : Probe) (c : Collected) : List (Nat × CheckResult) :=
  c.results ++ (pending probe.checks c.results).map (cutOff (Duration.clamp c.now))

/-- **What is collected and what is pending make up the checks**, each index once. -/
theorem ends_perm :
    ((ends probe (r.collected probe (r.dispatched probe calls) s)).map Prod.fst).Perm
      (List.range probe.checks.length) := by
  have hkeys (elapsed : Duration) : (Prod.fst ∘ cutOff elapsed) = Prod.fst := rfl
  rw [ends, List.map_append, List.map_map, hkeys]
  refine (List.perm_ext_iff_of_nodup ?_ List.nodup_range).mpr fun i => ?_
  · refine List.nodup_append.mpr ⟨nodup_collected, ?_, ?_⟩
    · exact (pending_sorted _ _).imp Nat.ne_of_lt
    · rintro i hi j hj rfl
      obtain ⟨⟨k, name⟩, hp, rfl⟩ := List.mem_map.mp hj
      exact (mem_pending_iff.mp hp).2 hi
  · rw [List.mem_append, List.mem_range]
    constructor
    · rintro (hi | hi)
      · obtain ⟨e, he, rfl⟩ := List.mem_map.mp hi
        obtain ⟨c, hc, -⟩ := joined_yields he
        exact (List.getElem?_eq_some_iff.mp hc).1
      · obtain ⟨⟨k, name⟩, hp, rfl⟩ := List.mem_map.mp hi
        obtain ⟨c, hc, -⟩ := Option.map_eq_some_iff.mp (mem_pending_iff.mp hp).1
        exact (List.getElem?_eq_some_iff.mp hc).1
    · intro hi
      refine (Classical.em _).imp_right fun hnot => ?_
      refine List.mem_map.mpr ⟨(i, probe.checks[i].name), mem_pending_iff.mpr ⟨?_, hnot⟩, rfl⟩
      rw [List.getElem?_eq_getElem hi]
      rfl

/-! ### The course -/

/-- A run comes to collection: all checks are dispatched, and its deadline is one of the machine's
clock. -/
structure Collects (r : Runner) (d : Dispatched) (begins : Nat) : Prop where
  dispatched : d.failure = none
  onClock : r.overruns d begins = false

/-- What a run shows up to the end of collection. -/
def prologue (r : Runner) (probe : Probe) (d : Dispatched) (c : Collected) : Trace :=
  .event (probeStart probe r.timeout) :: d.trace ++ c.trace

/-- A run that comes to collection goes on with what comes after that. -/
theorem runInOrder_of_collects (hd : r.Collects (r.dispatched probe calls) s.begins) :
    r.runInOrder probe calls s =
      let c := r.collected probe (r.dispatched probe calls) s
      ⟨(r.close probe c).1, r.prologue probe (r.dispatched probe calls) c ++ (r.close probe c).2.1,
        (r.close probe c).2.2,
        activities probe.checks.length c.waited c.now (r.dispatched probe calls).tasks⟩ := by
  simp only [runInOrder, hd.dispatched, hd.onClock, Bool.false_eq_true, if_false, prologue]

/-- A run whose deadline is past the end of the machine's clock panics once all checks are dispatched,
and nothing is seen of it after that. -/
theorem runInOrder_of_overruns (hd : (r.dispatched probe calls).failure = none)
    (ho : r.overruns (r.dispatched probe calls) s.begins = true) :
    (r.runInOrder probe calls s).result = .panicked ∧
      (r.runInOrder probe calls s).trace =
        .event (probeStart probe r.timeout) :: (r.dispatched probe calls).trace ∧
      (r.runInOrder probe calls s).elapsed = (r.dispatched probe calls).now := by
  simp [runInOrder, hd, ho]

/-- The ways in which a run goes, given how its dispatch and its collection end. -/
inductive Course (r : Runner) (probe : Probe) (d : Dispatched) (begins : Nat) (c : Collected) :
    Run → Prop
  /-- A start hook fails, and no task is joined. -/
  | startFailed {chain : Chain} (hd : d.failure = some chain) :
      Course r probe d begins c
        ⟨.failed (.hook chain), .event (probeStart probe r.timeout) :: d.trace, d.now,
          activities probe.checks.length false d.now d.tasks⟩
  /-- All checks are dispatched, and the deadline is past the end of the machine's clock. -/
  | panicked (hd : d.failure = none) (ho : r.overruns d begins = true) :
      Course r probe d begins c
        ⟨.panicked, .event (probeStart probe r.timeout) :: d.trace, d.now,
          activities probe.checks.length false d.now d.tasks⟩
  /-- Every task is joined. -/
  | complete (hd : r.Collects d begins) (hc : c.closing = .complete) :
      Course r probe d begins c
        ⟨.report (conclude probe c.results c.now).1,
          .event (probeStart probe r.timeout) :: d.trace ++ c.trace ++
            [.event (conclude probe c.results c.now).2],
          c.now, activities probe.checks.length c.waited c.now d.tasks⟩
  /-- Some task never settles, and there is no deadline. -/
  | never (hd : r.Collects d begins) (hc : c.closing = .never) :
      Course r probe d begins c
        ⟨.never, .event (probeStart probe r.timeout) :: d.trace ++ c.trace ++ [], c.now,
          activities probe.checks.length c.waited c.now d.tasks⟩
  /-- A hook fails after a task that is joined. -/
  | endFailed {chain : Chain} (hd : r.Collects d begins) (hc : c.closing = .hook chain) :
      Course r probe d begins c
        ⟨.failed (.hook chain), .event (probeStart probe r.timeout) :: d.trace ++ c.trace ++ [],
          c.now, activities probe.checks.length c.waited c.now d.tasks⟩
  /-- The deadline is seen, and the run fails. -/
  | timedOut (hd : r.Collects d begins) (hc : c.closing = .deadline) (hr : r.failureOnTimeout = false) :
      Course r probe d begins c
        ⟨.failed (.timeout probe.name (r.timeout.getD .zero)),
          .event (probeStart probe r.timeout) :: d.trace ++ c.trace ++ [.event (r.notice probe c)],
          c.now, activities probe.checks.length c.waited c.now d.tasks⟩
  /-- The deadline is seen, and a hook fails after a check that is given up. -/
  | givingUpFailed {chain : Chain} (hd : r.Collects d begins) (hc : c.closing = .deadline)
      (hr : r.failureOnTimeout = true) (hg : (r.givenUp probe c).failure = some chain) :
      Course r probe d begins c
        ⟨.failed (.hook chain),
          .event (probeStart probe r.timeout) :: d.trace ++ c.trace ++
            .event (r.notice probe c) :: (r.givenUp probe c).trace,
          (r.givenUp probe c).now, activities probe.checks.length c.waited c.now d.tasks⟩
  /-- The deadline is seen, and the pending checks are given up. -/
  | givenUp (hd : r.Collects d begins) (hc : c.closing = .deadline) (hr : r.failureOnTimeout = true)
      (hg : (r.givenUp probe c).failure = none) :
      Course r probe d begins c
        ⟨.report (conclude probe (c.results ++ (r.givenUp probe c).results)
            (r.givenUp probe c).now).1,
          .event (probeStart probe r.timeout) :: d.trace ++ c.trace ++
            (.event (r.notice probe c) :: (r.givenUp probe c).trace ++
              [.event (conclude probe (c.results ++ (r.givenUp probe c).results)
                (r.givenUp probe c).now).2]),
          (r.givenUp probe c).now, activities probe.checks.length c.waited c.now d.tasks⟩

/-- **Every run goes one of these ways.** -/
theorem course_runInOrder (r : Runner) (probe : Probe) (calls : List Nat)
    (s : Schedule (r.dispatched probe calls).tasks) :
    Course r probe (r.dispatched probe calls) s.begins
      (r.collected probe (r.dispatched probe calls) s) (r.runInOrder probe calls s) := by
  simp only [runInOrder]
  cases hd : (r.dispatched probe calls).failure with
  | some chain => exact .startFailed hd
  | none =>
      cases ho : r.overruns (r.dispatched probe calls) s.begins with
      | true => exact .panicked hd ho
      | false =>
          have hd : r.Collects (r.dispatched probe calls) s.begins := ⟨hd, ho⟩
          simp only [Bool.false_eq_true, if_false, close]
          cases hc : (r.collected probe (r.dispatched probe calls) s).closing with
          | complete => exact .complete hd hc
          | never => exact .never hd hc
          | hook chain => exact .endFailed hd hc
          | deadline =>
              cases hr : r.failureOnTimeout with
              | false => exact .timedOut hd hc hr
              | true =>
                  simp only [if_true]
                  cases hg : (r.givenUp probe
                      (r.collected probe (r.dispatched probe calls) s)).failure with
                  | some chain => exact .givingUpFailed hd hc hr hg
                  | none => exact .givenUp hd hc hr hg

/-- **A run panics exactly if it has dispatched all checks and its deadline is past the end of the
machine's clock.** -/
theorem panicked_iff : (r.runInOrder probe calls s).result = .panicked ↔
    (r.dispatched probe calls).failure = none ∧
      r.overruns (r.dispatched probe calls) s.begins = true := by
  refine ⟨fun h => ?_, fun ⟨hd, ho⟩ => (runInOrder_of_overruns hd ho).1⟩
  have hcourse := r.course_runInOrder probe calls s
  generalize r.runInOrder probe calls s = run at h hcourse
  cases hcourse with
  | panicked hd ho => exact ⟨hd, ho⟩
  | startFailed | complete | never | endFailed | timedOut | givingUpFailed | givenUp => cases h

end Runner

end Vigil
