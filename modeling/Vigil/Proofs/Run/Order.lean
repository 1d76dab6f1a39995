import Vigil.Proofs.Run.Deadline
import Vigil.Proofs.Run.Turns

/-!
# The Order of Ends

Checks end in the order in which their tasks settle. A run takes one result after another and calls a
hook for each, and while the hook keeps it busy any number of other tasks may settle. Those wait in a
queue, from which the loop takes them one by one. Its invariant (`Pool.Queued`) has the queue hold
those that have settled, in that order, so that what is taken is an initial part of the schedule
(`joinAll_eq_walk`), and what is seen of the run are the ends of that part, one after another.

A trace is read in two ways: by the events that tell an end (`Trace.ended`) and by the hooks that are
called for one (`Trace.endCalls`). That a check ends before another (`Trace.EndsBefore`) means that the
trace can be cut at a moment up to which both readings show all of the first end and nothing of the
second.

A check *ends by itself* if collection takes its task (`Runner.EndsByItself`), and is given up
otherwise. A task that settles in its first turn settles ahead of all that begin after it, because
turns are not interrupted. That holds whichever task has the next turn (`Settling.ahead_of_begun`).

## Main results

* `Run.Log.endsBefore_of_sublist`: the ends of a log are seen in the order in which it holds them.
* `Runner.endsBefore_of_ahead`: of two tasks that a schedule holds in an order, the first is taken if
  the second is, and ends before it.
* `Runner.endsBefore_givenUp`: who ends by itself ends before all that are given up.
* `Runner.ends_follow_settling`: the order of ends is that of settling.
-/

namespace Vigil

/-- The check whose end a note tells, if it tells one. -/
def Run.Note.ended? : Run.Note → Option Nat
  | .checkEnd index _ _ _ => some index
  | _ => none

namespace Trace

open Run

/-- The checks whose ends the events of a trace tell, in order. -/
def ended (t : Trace) : List Nat :=
  t.filterMap fun
    | .event e => (Note.ofEvent? e).bind Note.ended?
    | _ => none

/-- The end hooks that a trace shows, by the index of the check. -/
def endCalls (t : Trace) : List Nat :=
  t.filterMap fun
    | .endHook _ index _ => some index
    | _ => none

/-- One check ends before another: up to some moment of the trace all is shown of the end of the
first, and nothing of the end of the second. -/
def EndsBefore (t : Trace) (i j : Nat) : Prop :=
  ∃ before after, t = before ++ after ∧
    (i ∈ before.ended ∧ i ∉ after.ended ∧ i ∉ after.endCalls) ∧
    (j ∈ after.ended ∧ j ∉ before.ended ∧ j ∉ before.endCalls)

@[simp] theorem ended_append (t u : Trace) : ended (t ++ u) = ended t ++ ended u :=
  List.filterMap_append

@[simp] theorem ended_nil : ended [] = [] := rfl

@[simp] theorem ended_cons_event (e : Event) (t : Trace) :
    ended (.event e :: t) = ((Note.ofEvent? e).bind Note.ended?).toList ++ ended t := by
  cases h : (Note.ofEvent? e).bind Note.ended? <;> simp [ended, h]

@[simp] theorem ended_cons_startHook (probe check : String) (index : Nat) (t : Trace) :
    ended (.startHook probe check index :: t) = ended t := rfl

@[simp] theorem ended_cons_endHook (probe : String) (index : Nat) (result : CheckResult) (t : Trace) :
    ended (.endHook probe index result :: t) = ended t := rfl

@[simp] theorem endCalls_append (t u : Trace) : endCalls (t ++ u) = endCalls t ++ endCalls u :=
  List.filterMap_append

@[simp] theorem endCalls_nil : endCalls [] = [] := rfl

@[simp] theorem endCalls_cons_event (e : Event) (t : Trace) : endCalls (.event e :: t) = endCalls t :=
  rfl

@[simp] theorem endCalls_cons_startHook (probe check : String) (index : Nat) (t : Trace) :
    endCalls (.startHook probe check index :: t) = endCalls t := rfl

@[simp] theorem endCalls_cons_endHook (probe : String) (index : Nat) (result : CheckResult)
    (t : Trace) : endCalls (.endHook probe index result :: t) = index :: endCalls t := rfl

end Trace

namespace Run

variable {probe : String} {hooked : Bool}

/-! ### What is read off a log -/

/-- A trace shows the ends of these checks, in order: events tell them, and so do the calls of hooks,
where there are hooks. -/
def ShowsEnds (hooked : Bool) (t : Trace) (indices : List Nat) : Prop :=
  t.ended = indices ∧ t.endCalls = if hooked then indices else []

/-- Traces one after another show the ends of both. -/
theorem ShowsEnds.append {t u : Trace} {a b : List Nat} (ht : ShowsEnds hooked t a)
    (hu : ShowsEnds hooked u b) : ShowsEnds hooked (t ++ u) (a ++ b) := by
  obtain ⟨hended, hcalls⟩ := ht
  obtain ⟨hended', hcalls'⟩ := hu
  refine ⟨by rw [Trace.ended_append, hended, hended'], ?_⟩
  rw [Trace.endCalls_append, hcalls, hcalls']
  cases hooked <;> rfl

/-- The dispatch of checks shows no end. -/
theorem showsEnds_starts (places : List (Check × Nat)) :
    ShowsEnds hooked (places.flatMap (startSights probe hooked)) [] := by
  induction places with
  | nil => cases hooked <;> exact ⟨rfl, rfl⟩
  | cons p rest ih =>
      rw [List.flatMap_cons]
      refine ShowsEnds.append (a := []) ?_ ih
      cases hooked <;> simp [ShowsEnds, startSights, Note.ofEvent?_checkStart, Note.ended?]

/-- The ends of checks are shown in order. -/
theorem showsEnds_ends (ends : List (Nat × CheckResult)) :
    ShowsEnds hooked (ends.flatMap (endSights probe hooked)) (ends.map Prod.fst) := by
  induction ends with
  | nil => cases hooked <;> exact ⟨rfl, rfl⟩
  | cons e rest ih =>
      rw [List.flatMap_cons, List.map_cons]
      refine ShowsEnds.append (a := [e.1]) ?_ ih
      cases hooked <;> simp [ShowsEnds, endSights, Note.ofEvent?_checkEnd, Note.ended?]

namespace Log

variable {r : Runner} {probe : Probe} {l : Log}

/-- What is seen of a log shows the two rows of its ends, and no other end. -/
theorem trace_eq_rows (r : Runner) (probe : Probe) (l : Log) :
    ∃ opening notice closing : Trace,
      l.trace r probe =
        opening ++ l.joined.flatMap (endSights probe.name r.hooks.isSome) ++ notice ++
          l.givenUp.flatMap (endSights probe.name r.hooks.isSome) ++ closing ∧
      ShowsEnds r.hooks.isSome opening [] ∧ ShowsEnds r.hooks.isSome notice [] ∧
        ShowsEnds r.hooks.isSome closing [] := by
  refine ⟨.event (probeStart probe r.timeout) ::
      ((probe.checks.zipIdx.take l.started).flatMap (startSights probe.name r.hooks.isSome) ++
        (l.refused.map fun p => Sight.startHook probe.name p.1.name p.2).toList),
    (l.pending.map fun p =>
      Sight.event (probeTimeout probe.name (r.timeout.getD .zero) (p.map Prod.snd))).toList,
    (l.report.map fun p => Sight.event (probeEnd p.1 p.2)).toList, rfl, ?_, ?_, ?_⟩
  · refine ShowsEnds.append (t := [_]) (a := []) ?_ (ShowsEnds.append (showsEnds_starts _) ?_)
    · simp [ShowsEnds, Note.ofEvent?_probeStart, Note.ended?]
    · cases l.refused <;> simp [ShowsEnds]
  · cases l.pending <;> simp [ShowsEnds, Note.ofEvent?_probeTimeout, Note.ended?]
  · cases l.report <;> simp [ShowsEnds, Note.ofEvent?_probeEnd, Note.ended?]

/-- What is seen of a log shows its ends. -/
theorem showsEnds_trace (r : Runner) (probe : Probe) (l : Log) :
    ShowsEnds r.hooks.isSome (l.trace r probe) ((l.joined ++ l.givenUp).map Prod.fst) := by
  obtain ⟨opening, notice, closing, htrace, hopening, hnotice, hclosing⟩ := trace_eq_rows r probe l
  rw [htrace]
  simpa using (((hopening.append (showsEnds_ends l.joined)).append hnotice).append
    (showsEnds_ends l.givenUp)).append hclosing

/-- Wherever the ends of a log are cut in two, so can be what is seen of it. -/
theorem trace_eq_append (r : Runner) (probe : Probe) {first second : List (Nat × CheckResult)}
    (h : l.joined ++ l.givenUp = first ++ second) :
    ∃ before after, l.trace r probe = before ++ after ∧
      ShowsEnds r.hooks.isSome before (first.map Prod.fst) ∧
      ShowsEnds r.hooks.isSome after (second.map Prod.fst) := by
  obtain ⟨opening, notice, closing, htrace, hopening, hnotice, hclosing⟩ := trace_eq_rows r probe l
  rw [htrace]
  rcases List.append_eq_append_iff.mp h with ⟨mid, rfl, hgiven⟩ | ⟨mid, hjoined, rfl⟩
  · -- the cut is among the checks that are given up
    refine ⟨opening ++ l.joined.flatMap (endSights probe.name r.hooks.isSome) ++ notice ++
        mid.flatMap (endSights probe.name r.hooks.isSome),
      second.flatMap (endSights probe.name r.hooks.isSome) ++ closing, ?_, ?_, ?_⟩
    · simp [hgiven]
    · simpa using ((hopening.append (showsEnds_ends l.joined)).append hnotice).append
        (showsEnds_ends mid)
    · simpa using (showsEnds_ends second).append hclosing
  · -- the cut is among the tasks that are joined
    refine ⟨opening ++ first.flatMap (endSights probe.name r.hooks.isSome),
      mid.flatMap (endSights probe.name r.hooks.isSome) ++ notice ++
        l.givenUp.flatMap (endSights probe.name r.hooks.isSome) ++ closing, ?_, ?_, ?_⟩
    · simp [hjoined]
    · simpa using hopening.append (showsEnds_ends first)
    · simpa using (((showsEnds_ends mid).append hnotice).append
        (showsEnds_ends l.givenUp)).append hclosing

/-- **The ends of a log are seen in the order in which it holds them.** -/
theorem endsBefore_of_sublist {checks : List Check} {i j : Nat} (hshaped : l.Shaped checks)
    (h : [i, j].Sublist ((l.joined ++ l.givenUp).map Prod.fst)) :
    (l.trace r probe).EndsBefore i j := by
  obtain ⟨firsts, seconds, hcut, hi, hj⟩ := List.cons_sublist_iff.mp h
  rw [List.singleton_sublist] at hj
  obtain ⟨first, second, hends, rfl, rfl⟩ := List.map_eq_append_iff.mp hcut
  obtain ⟨before, after, htrace, ⟨hended, hcalls⟩, hended', hcalls'⟩ :=
    trace_eq_append r probe hends
  -- no index is on both sides of the cut
  have hapart := hshaped.once
  rw [hcut, List.nodup_append] at hapart
  have hi' : i ∉ second.map Prod.fst := fun hmem => hapart.2.2 i hi i hmem rfl
  have hj' : j ∉ first.map Prod.fst := fun hmem => hapart.2.2 j hmem j hj rfl
  have hcall {index : Nat} {row : List Nat} (hnot : index ∉ row) :
      index ∉ if r.hooks.isSome then row else [] := by
    split
    · exact hnot
    · exact List.not_mem_nil
  exact ⟨before, after, htrace, ⟨hended ▸ hi, hended' ▸ hi', hcalls' ▸ hcall hi'⟩,
    hended' ▸ hj, hended ▸ hj', hcalls ▸ hcall hj'⟩

end Log

/-! ### Places in a list -/

/-- What a relation that sorts a list does not allow ahead of an entry stands behind it. -/
theorem pair_sublist_of_pairwise {α : Type} {R : α → α → Prop} {l : List α} {a b : α}
    (h : l.Pairwise R) (ha : a ∈ l) (hb : b ∈ l) (hne : a ≠ b) (hnot : ¬R b a) :
    [a, b].Sublist l := by
  obtain ⟨before, after, rfl⟩ := List.append_of_mem hb
  have hbefore : a ∈ before := by
    rcases List.mem_append.mp ha with hmem | hmem
    · exact hmem
    · have hafter := (List.mem_cons.mp hmem).resolve_left hne
      exact absurd (List.rel_of_pairwise_cons (List.pairwise_append.mp h).2.1 hafter) hnot
  exact (List.singleton_sublist.mpr hbefore).append
    (List.cons_sublist_cons.mpr (List.nil_sublist after))

/-- In a list without repetition, what stands ahead of an entry of an initial part is in that part,
too. -/
theorem pair_sublist_take {l : List Nat} {i j k : Nat} (hnodup : l.Nodup) (h : [i, j].Sublist l)
    (hj : j ∈ l.take k) : [i, j].Sublist (l.take k) := by
  rw [← List.take_append_drop k l] at h hnodup
  obtain ⟨kept, dropped, hpair, hkept, hdropped⟩ := List.sublist_append_iff.mp h
  have hnot : j ∉ dropped := fun hmem =>
    (List.nodup_append.mp hnodup).2.2 j hj j (hdropped.subset hmem) rfl
  rcases List.eq_nil_or_concat dropped with rfl | ⟨init, last, rfl⟩
  · rwa [hpair, List.append_nil]
  · -- what is dropped ends with the second of the two
    have hlast := congrArg List.getLast? hpair
    rw [List.concat_eq_append, ← List.append_assoc, List.getLast?_concat] at hlast
    obtain rfl := Option.some.inj hlast
    exact absurd (by simp) hnot

/-! ### Places in a schedule -/

/-- A task settles in the turn in which it begins: it does not wait, nor has it a thread of its own to
wait for. -/
def Task.SettlesInTurn (t : Task) : Prop :=
  t.check.blocking = false ∧ ∃ ending, t.settles = some (t.since, ending)

/-- The arrival of a task that settles in its turn. -/
theorem Task.SettlesInTurn.arrival {t : Task} (h : t.SettlesInTurn) :
    ∃ a, Arrival.ofTask? t = some a ∧ a.inTurn = true := by
  obtain ⟨hblocking, ending, hsettles⟩ := h
  exact ⟨_, Arrival.ofTask?_of_settles hsettles, by simp [Arrival.inTurn, Arrival.immediate, hblocking]⟩

namespace Schedule

variable {tasks : List Task}

/-- Who settles at an earlier instant stands ahead. -/
theorem ahead_of_lt (s : Schedule tasks) {a b : Arrival} (ha : a ∈ s.order) (hb : b ∈ s.order)
    (h : a.time < b.time) : [a, b].Sublist s.order := by
  refine pair_sublist_of_pairwise s.inTime ha hb ?_ ?_
  · rintro rfl
    exact Nat.lt_irrefl _ h
  · rintro (hlt | ⟨heq, -⟩) <;> omega

end Schedule

end Run

namespace Runner

open Run

variable {r : Runner} {probe : Probe} {calls : List Nat}
  {s : Schedule (r.dispatched probe calls).tasks}

/-! ### The ends of a run -/

/-- A check ends by itself: the run comes to collection, and the check's task is collected. -/
def EndsByItself (r : Runner) (probe : Probe) (calls : List Nat)
    (s : Schedule (r.dispatched probe calls).tasks) (index : Nat) : Prop :=
  r.Collects (r.dispatched probe calls) s.begins ∧
    index ∈ (r.collected probe (r.dispatched probe calls) s).results.map Prod.fst

/-- What a schedule holds ahead of a task that is collected is collected, too, and ends before it. -/
theorem endsBefore_of_ahead {a b : Arrival} (h : [a, b].Sublist s.order)
    (hb : r.EndsByItself probe calls s b.task.index) :
    r.EndsByItself probe calls s a.task.index ∧
      (r.runInOrder probe calls s).trace.EndsBefore a.task.index b.task.index := by
  obtain ⟨hd, hb⟩ := hb
  have hpair : [a.task.index, b.task.index].Sublist
      ((r.collected probe (r.dispatched probe calls) s).results.map Prod.fst) := by
    rw [collected, collect_results, List.map_map, List.map_take] at hb ⊢
    exact pair_sublist_take (s.nodup_indices nodup_dispatched)
      (h.map fun c : Arrival => c.task.index) hb
  obtain ⟨l, htrace, hshaped, -, hl⟩ := trace_eq_log r probe calls s
  refine ⟨⟨hd, hpair.subset List.mem_cons_self⟩, ?_⟩
  rw [htrace]
  refine Log.endsBefore_of_sublist hshaped ?_
  rw [List.map_append, hl.joined hd]
  exact hpair.trans (List.sublist_append_left _ _)

/-- A check that ends by itself ends with the own result of its call. -/
theorem EndsByItself.endsWith {i : Nat} (h : r.EndsByItself probe calls s i) :
    ∃ c result, probe.checks[i]? = some c ∧ c.Yields (calls.getD i 0) result ∧
      (r.runInOrder probe calls s).EndsWith r probe i result := by
  obtain ⟨hd, hmem⟩ := h
  obtain ⟨⟨i, result⟩, he, rfl⟩ := List.mem_map.mp hmem
  obtain ⟨c, hcheck, hyields⟩ := joined_yields he
  exact ⟨c, result, hcheck, hyields, endsWith_of_collected hd he⟩

/-- The ends that a run shows are those of its log. -/
theorem mem_ended_iff {l : Log} {i : Nat}
    (htrace : (r.runInOrder probe calls s).trace = l.trace r probe) :
    i ∈ (r.runInOrder probe calls s).trace.ended ↔
      i ∈ l.joined.map Prod.fst ∨ i ∈ l.givenUp.map Prod.fst := by
  rw [htrace, (Log.showsEnds_trace r probe l).1, List.map_append, List.mem_append]

/-- A check that is seen to end, and not by itself, is one that the deadline cut off. -/
theorem endsWith_of_not_byItself {i : Nat} (hi : i ∈ (r.runInOrder probe calls s).trace.ended)
    (hnot : ¬r.EndsByItself probe calls s i) :
    (r.runInOrder probe calls s).SawDeadline ∧ ∃ c, probe.checks[i]? = some c ∧
      (r.runInOrder probe calls s).EndsWith r probe i (.timedOut c.name
        (.clamp (r.collected probe (r.dispatched probe calls) s).now)) := by
  obtain ⟨l, htrace, hshaped, hcloses, hl⟩ := trace_eq_log r probe calls s
  obtain ⟨⟨i, result⟩, he, rfl⟩ : ∃ e ∈ l.joined ++ l.givenUp, e.1 = i := by
    rw [mem_ended_iff htrace, ← List.mem_append, ← List.map_append] at hi
    exact List.mem_map.mp hi
  obtain ⟨hd, hcollected | ⟨hc, hcut⟩⟩ := hl.ends _ he
  · exact absurd ⟨hd, List.mem_map_of_mem hcollected⟩ hnot
  · obtain ⟨⟨j, name⟩, hp, hcutOff⟩ := List.mem_map.mp hcut
    obtain ⟨rfl, rfl⟩ := Prod.mk.inj hcutOff
    obtain ⟨c, hcheck, rfl⟩ := Option.map_eq_some_iff.mp (mem_pending_iff.mp hp).1
    exact ⟨sawDeadline_iff_closing.mpr ⟨hd, hc⟩, c, hcheck,
      Log.endsWith_of_mem htrace hshaped hcloses he⟩

/-- **Who ends by itself ends before all that are given up.** -/
theorem endsBefore_givenUp {i j : Nat} (hi : r.EndsByItself probe calls s i)
    (hj : j ∈ (r.runInOrder probe calls s).trace.ended) (hnot : ¬r.EndsByItself probe calls s j) :
    (r.runInOrder probe calls s).trace.EndsBefore i j := by
  obtain ⟨l, htrace, hshaped, -, hl⟩ := trace_eq_log r probe calls s
  have hjoined := hl.joined hi.1
  rw [mem_ended_iff htrace] at hj
  have hgiven := hj.resolve_left fun hmem => hnot ⟨hi.1, hjoined ▸ hmem⟩
  rw [htrace]
  refine Log.endsBefore_of_sublist hshaped ?_
  rw [List.map_append, hjoined]
  exact (List.singleton_sublist.mpr hi.2).append (List.singleton_sublist.mpr hgiven)

/-! ### Ends in the order of settling -/

/-- Of two checks the one that settles at an earlier instant ends first. -/
theorem endsBefore_of_lt {t u : Task} {earlier later : Nat} {ending ending' : Ending}
    (ht : t ∈ (r.dispatched probe calls).tasks) (hu : u ∈ (r.dispatched probe calls).tasks)
    (hsettles : t.settles = some (earlier, ending)) (hsettles' : u.settles = some (later, ending'))
    (h : earlier < later) (hself : r.EndsByItself probe calls s u.index) :
    r.EndsByItself probe calls s t.index ∧
      (r.runInOrder probe calls s).trace.EndsBefore t.index u.index := by
  have ha : (⟨t, earlier, .ended ending⟩ : Arrival) ∈ s.order :=
    s.mem_order_iff.mpr ⟨t, ht, Arrival.ofTask?_of_settles hsettles⟩
  have hb : (⟨u, later, .ended ending'⟩ : Arrival) ∈ s.order :=
    s.mem_order_iff.mpr ⟨u, hu, Arrival.ofTask?_of_settles hsettles'⟩
  exact endsBefore_of_ahead (s.ahead_of_lt ha hb h) hself

/-- A check that ends by itself has begun. -/
theorem mem_begun_of_byItself {c : Settling (r.dispatched probe calls).tasks} {begins : Nat} {t : Task}
    (ht : t ∈ (r.dispatched probe calls).tasks)
    (h : r.EndsByItself probe calls (c.schedule begins) t.index) : t ∈ c.last.begun := by
  obtain ⟨a, ha, hta⟩ := exists_arrival_of_collected ht h.2
  exact Arrival.task_of_ofTask? hta ▸ c.task_mem_begun nodup_dispatched (List.mem_of_mem_take ha)

/-- A check that settles in its turn ends before all that begin later. -/
theorem endsBefore_of_begun {c : Settling (r.dispatched probe calls).tasks} {begins : Nat}
    {t u : Task} (h : [t, u].Sublist c.last.begun) (ht : t.SettlesInTurn)
    (hself : r.EndsByItself probe calls (c.schedule begins) u.index) :
    r.EndsByItself probe calls (c.schedule begins) t.index ∧
      (r.runInOrder probe calls (c.schedule begins)).trace.EndsBefore t.index u.index := by
  have hu : u ∈ (r.dispatched probe calls).tasks :=
    c.mem_of_begun nodup_dispatched (h.subset (List.mem_cons_of_mem _ List.mem_cons_self))
  obtain ⟨a, ha, hturn⟩ := ht.arrival
  obtain ⟨b, hmem, hb⟩ := exists_arrival_of_collected hu hself.2
  have hahead : [a, b].Sublist (c.schedule begins).order :=
    c.ahead_of_begun nodup_dispatched h ha hturn hb (List.mem_of_mem_take hmem)
  have hends := @endsBefore_of_ahead r probe calls (c.schedule begins) a b hahead
  rw [Arrival.task_of_ofTask? ha, Arrival.task_of_ofTask? hb] at hends
  exact hends hself

/-- **Ends follow settling.** A run shows the end of a check at most once, and hooks are called for the
same checks in the same order. An end is of one of two kinds: the check ends by itself, with the own
result of its call, or the deadline cut it off, and the result is made up.

Of two checks the one that settles at an earlier instant ends first: if the later one ends by itself so
does the earlier one, and before it. Who ends by itself ends before all that are cut off. Who ends by
itself has begun, and a check that settles in its first turn ends before all that begin after it. All
this is so in whichever order tasks begin and settle that share an instant, and whatever hooks do, be
it that one keeps the run busy while any number of checks settle. Where tasks take turns they begin in
the order of their dispatch. -/
theorem ends_follow_settling (r : Runner) (probe : Probe) (calls : List Nat)
    (c : Settling (r.dispatched probe calls).tasks) (begins : Nat) :
    let tasks := (r.dispatched probe calls).tasks
    let s := c.schedule begins
    let seen := (r.collected probe (r.dispatched probe calls) s).now
    let run := r.runInOrder probe calls s
    run.trace.ended.Nodup ∧
      (r.hooks.isSome = true → run.trace.endCalls = run.trace.ended) ∧
      (∀ i, r.EndsByItself probe calls s i →
        ∃ check result, probe.checks[i]? = some check ∧ check.Yields (calls.getD i 0) result ∧
          run.EndsWith r probe i result) ∧
      (∀ i ∈ run.trace.ended, ¬r.EndsByItself probe calls s i →
        run.SawDeadline ∧ ∃ check, probe.checks[i]? = some check ∧
          run.EndsWith r probe i (.timedOut check.name (.clamp seen))) ∧
      (∀ t ∈ tasks, ∀ u ∈ tasks, ∀ earlier later ending ending',
        t.settles = some (earlier, ending) → u.settles = some (later, ending') → earlier < later →
        r.EndsByItself probe calls s u.index →
        r.EndsByItself probe calls s t.index ∧ run.trace.EndsBefore t.index u.index) ∧
      (∀ i, r.EndsByItself probe calls s i →
        ∀ j ∈ run.trace.ended, ¬r.EndsByItself probe calls s j → run.trace.EndsBefore i j) ∧
      (∀ t ∈ tasks, r.EndsByItself probe calls s t.index → t ∈ c.last.begun) ∧
      (∀ t u, [t, u].Sublist c.last.begun → t.SettlesInTurn →
        r.EndsByItself probe calls s u.index →
        r.EndsByItself probe calls s t.index ∧ run.trace.EndsBefore t.index u.index) ∧
      ∃ inTurn : Settling tasks, r.turns probe calls = inTurn.schedule 0 ∧ inTurn.last.begun = tasks := by
  intro tasks s seen run
  obtain ⟨l, htrace, hshaped, -⟩ := trace_eq_log r probe calls s
  obtain ⟨hended, hcalls⟩ : ShowsEnds r.hooks.isSome run.trace _ :=
    htrace ▸ Log.showsEnds_trace r probe l
  refine ⟨hended ▸ hshaped.once, fun hooked => ?_, fun i hi => hi.endsWith,
    fun i hi hnot => endsWith_of_not_byItself hi hnot,
    fun t ht u hu _ _ _ _ hsettles hsettles' hlt hself =>
      endsBefore_of_lt ht hu hsettles hsettles' hlt hself,
    fun i hi j hj hnot => endsBefore_givenUp hi hj hnot,
    fun t ht hself => mem_begun_of_byItself ht hself,
    fun t u htu ht hself => endsBefore_of_begun htu ht hself,
    .byTurns _ (dispatch_since_mono _ _ _ _ _), rfl, Settling.begun_byTurns _⟩
  rw [hcalls, hended, hooked, if_pos rfl]

/-! ### A hook that is busy while checks settle -/

/-- Five checks: two settle at once, two later, the one dispatched first being the last of them, and
one hangs. -/
def queueing : Probe where
  name := "release"
  checks := [
    { name := "disk", work := fun _ => .never },
    { name := "mail", work := fun _ => ⟨some 30, .concluded (.ok .ok)⟩ },
    { name := "queue", work := fun _ => ⟨some 20, .concluded (.error ["connect", "refused"])⟩ },
    { name := "cache", work := fun _ => ⟨some 0, .concluded (.ok .ok)⟩ },
    { name := "index", work := fun _ => ⟨some 0, .panicked none⟩ }]

/-- A runner whose hook after the fourth check is busy until long after the deadline. -/
def stalled : Runner where
  timeout := some (.clamp 50)
  failureOnTimeout := true
  hooks := some ⟨fun _ => {}, fun index => { delay := if index = 3 then 100 else 0 }⟩

/-- The course in which the tasks of these checks take turns. -/
def queueingCourse : Settling (stalled.dispatched queueing []).tasks :=
  .byTurns _ (dispatch_since_mono _ _ _ _ _)

/-- Of the two checks that settle at once the one that begins first ends first. While its hook is busy
the other three settle; they end in the order of settling, which is not that of their dispatch,
although the deadline passes meanwhile. The check that hangs is cut off after them. -/
theorem ends_follow_settling_stalled :
    let s := queueingCourse.schedule 7
    stalled.EndsByItself queueing [] s 4 ∧ stalled.EndsByItself queueing [] s 1 ∧
      0 ∈ (stalled.runInOrder queueing [] s).trace.ended ∧ ¬stalled.EndsByItself queueing [] s 0 ∧
      (stalled.runInOrder queueing [] s).trace.EndsBefore 3 4 ∧
      (stalled.runInOrder queueing [] s).trace.EndsBefore 2 1 ∧
      (stalled.runInOrder queueing [] s).trace.EndsBefore 1 0 := by
  intro s
  have hcollects : stalled.Collects (stalled.dispatched queueing []) s.begins := ⟨rfl, by decide⟩
  have hcache : stalled.EndsByItself queueing [] s 4 := ⟨hcollects, by decide⟩
  have hmail : stalled.EndsByItself queueing [] s 1 := ⟨hcollects, by decide⟩
  have hended : 0 ∈ (stalled.runInOrder queueing [] s).trace.ended := by decide +kernel
  have hnot : ¬stalled.EndsByItself queueing [] s 0 := by
    rintro ⟨-, hmem⟩
    revert hmem
    decide
  have hall : queueingCourse.last.begun = (stalled.dispatched queueing []).tasks :=
    Settling.begun_byTurns _
  have hbegun : ((stalled.dispatched queueing []).tasks.drop 3).Sublist queueingCourse.last.begun := by
    rw [hall]
    exact List.drop_sublist 3 _
  obtain ⟨-, -, -, -, hsettled, hgiven, -, hbefore, -⟩ :=
    ends_follow_settling stalled queueing [] queueingCourse 7
  refine ⟨hcache, hmail, hended, hnot, ?_, ?_, hgiven 1 hmail 0 hended hnot⟩
  · exact (hbefore _ _ hbegun ⟨rfl, _, rfl⟩ hcache).2
  · exact (hsettled _ (List.mem_of_getElem? (i := 2) rfl) _ (List.mem_of_getElem? (i := 1) rfl)
      20 30 _ _ rfl rfl (by decide) hmail).2

end Runner

end Vigil
