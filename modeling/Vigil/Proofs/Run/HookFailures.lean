import Vigil.Proofs.Run.Modes

/-!
# Hook Failures

Hooks are called from three places: before a check is dispatched, after a task is joined, and after a
check is given up. Wherever a call fails the run ends there and then with its failure. This module says
so in one form for all three (`Trace.FailsLast`): the trace of a part of a run has a failing call only
at its end, and the part reports the failure of just that call. Parts put one after another keep the
form, because a part that reports a failure is the last one.

## Main results

* `dispatch_failsLast`, `collect_failsLast`, `giveUp_failsLast`: the parts of a run.
* `Runner.run_failsLast`: a whole run, with what its result reports.
* `Runner.trace_of_startFailure`: all that is seen of a run in whose dispatch a hook fails.
* `Runner.hook_failures_surface`: a run fails for a hook if and only if some call failed, and so does
  a request to an endpoint.
-/

namespace Vigil

namespace Trace

/-- A trace has a failing hook call if a failure is told, and then it is its last sight. -/
def FailsLast (hooks : Option Hooks) (t : Trace) : Option Chain → Prop
  | none => ∀ sight ∈ t, sight.failure? hooks = none
  | some chain => ∃ before call, t = before ++ [call] ∧ call.failure? hooks = some chain ∧
      ∀ sight ∈ before, sight.failure? hooks = none

namespace FailsLast

variable {hooks : Option Hooks} {t u : Trace} {failure : Option Chain} {chain : Chain}

theorem nil : FailsLast hooks [] none := nofun

/-- A call fails last if it is alone. -/
theorem singleton {call : Sight} : FailsLast hooks [call] (call.failure? hooks) := by
  cases hf : call.failure? hooks with
  | none =>
      intro sight hs
      obtain rfl := List.mem_singleton.mp hs
      exact hf
  | some chain => exact ⟨[], call, rfl, hf, nofun⟩

/-- A trace without a failing call may come before any other. -/
theorem append (ht : FailsLast hooks t none) (hu : FailsLast hooks u failure) :
    FailsLast hooks (t ++ u) failure := by
  cases failure with
  | none =>
      intro sight hs
      rcases List.mem_append.mp hs with hs | hs
      · exact ht sight hs
      · exact hu sight hs
  | some chain =>
      obtain ⟨before, call, rfl, hcall, hbefore⟩ := hu
      refine ⟨t ++ before, call, (List.append_assoc _ _ _).symm, hcall, fun sight hs => ?_⟩
      rcases List.mem_append.mp hs with hs | hs
      · exact ht sight hs
      · exact hbefore sight hs

/-- An event may come before any trace. -/
theorem cons_event (e : Event) (h : FailsLast hooks t failure) :
    FailsLast hooks (.event e :: t) failure := by
  have hevent : FailsLast hooks [.event e] none := singleton
  exact hevent.append h

/-- The failure that is told is that of a call, and there is no other. -/
theorem exists_iff (h : FailsLast hooks t failure) :
    (∃ call ∈ t, call.failure? hooks = some chain) ↔ failure = some chain := by
  cases failure with
  | none =>
      refine iff_of_false ?_ nofun
      rintro ⟨call, hcall, hf⟩
      rw [h call hcall] at hf
      cases hf
  | some chain' =>
      obtain ⟨before, call, rfl, hcall, hbefore⟩ := h
      constructor
      · rintro ⟨other, hother, hf⟩
        rcases List.mem_append.mp hother with hother | hother
        · rw [hbefore other hother] at hf
          cases hf
        · obtain rfl := List.mem_singleton.mp hother
          rw [← hcall, hf]
      · intro he
        exact ⟨call, List.mem_append_right _ List.mem_cons_self, hcall.trans he⟩

/-- A call that fails is the last sight, and no call before it fails. -/
theorem eq_append_of_failure (h : FailsLast hooks t failure) {call : Sight} (hmem : call ∈ t)
    (hf : call.failure? hooks ≠ none) :
    ∃ before, t = before ++ [call] ∧ ∀ other ∈ before, other.failure? hooks = none := by
  cases failure with
  | none => exact absurd (h call hmem) hf
  | some chain =>
      obtain ⟨before, last, rfl, -, hbefore⟩ := h
      rcases List.mem_append.mp hmem with hmem | hmem
      · exact absurd (hbefore call hmem) hf
      · obtain rfl := List.mem_singleton.mp hmem
        exact ⟨before, rfl, hbefore⟩

end FailsLast

end Trace

namespace Run

/-- The failure of a hook that ends collection. -/
def Closing.hookFailure? : Closing → Option Chain
  | .hook chain => some chain
  | _ => none

/-- The failure of a hook that a run fails for. -/
def Result.hookFailure? : Result → Option Chain
  | .failed (.hook chain) => some chain
  | _ => none

/-- A run fails for a hook if its result tells of one. -/
theorem Result.hookFailure?_eq_some_iff {result : Result} {chain : Chain} :
    result.hookFailure? = some chain ↔ result = .failed (.hook chain) := by
  constructor
  · intro h
    cases result with
    | failed fault =>
        cases fault with
        | hook chain' =>
            obtain rfl := Option.some.inj h
            rfl
        | _ => cases h
    | report | never | panicked => cases h
  · rintro rfl
    rfl

variable {probe : String} {hooks : Option Hooks}

/-! ### The parts of a run -/

/-- A hook that is called fails last, and one that is absent does not fail. -/
theorem call_failsLast {sight : Sight} {act : Hooks → Act} {now : Nat}
    (h : sight.failure? hooks = (Hooks.actOf hooks act).failure) :
    Trace.FailsLast hooks (Hooks.call hooks sight act now).trace
      (Hooks.call hooks sight act now).failure := by
  cases hooks with
  | none => exact .nil
  | some hooks =>
      have hcall : (Hooks.call (some hooks) sight act now).failure =
          sight.failure? (some hooks) := h.symm
      rw [hcall]
      exact .singleton

/-- **Dispatch reports the failure of its last call**, if that failed. -/
theorem dispatch_failsLast (index now : Nat) (checks : List (Check × Nat)) :
    Trace.FailsLast hooks (dispatch probe hooks index now checks).trace
      (dispatch probe hooks index now checks).failure := by
  fun_induction dispatch probe hooks index now checks with
  | case1 => exact .nil
  | case2 index now check calls rest hook chain hf =>
      have hcall : Trace.FailsLast hooks hook.trace hook.failure := call_failsLast rfl
      rw [hf] at hcall
      exact hcall
  | case3 index now check calls rest hook hf later ih =>
      have hcall : Trace.FailsLast hooks hook.trace hook.failure := call_failsLast rfl
      rw [hf] at hcall
      exact hcall.append (ih.cons_event _)

/-- The end of a check reports the failure of the hook after it. -/
theorem finishCheck_failsLast (now index : Nat) (result : CheckResult) :
    Trace.FailsLast hooks (finishCheck probe hooks now index result).trace
      (finishCheck probe hooks now index result).failure :=
  (call_failsLast rfl).cons_event _

/-- **Collection reports the failure of its last call**, if that failed. -/
theorem collect_failsLast (deadline : Option Nat) (stuck : Bool) (now : Nat) (waited : Bool)
    (order : List Arrival) :
    Trace.FailsLast hooks (collect probe hooks deadline stuck now waited order).trace
      (collect probe hooks deadline stuck now waited order).closing.hookFailure? := by
  simp only [collect_eq_walk]
  fun_induction walk probe hooks deadline stuck now waited order with
  | case1 | case5 =>
      rw [awaitDeadline_trace, awaitDeadline_closing]
      split <;> exact .nil
  | case2 => exact .nil
  | case3 now waited a rest _ index finish _ chain hf =>
      have hfinish : Trace.FailsLast hooks finish.trace finish.failure := finishCheck_failsLast _ _ _
      rw [hf] at hfinish
      exact hfinish
  | case4 now waited a rest _ index finish _ hf later ih =>
      have hfinish : Trace.FailsLast hooks finish.trace finish.failure := finishCheck_failsLast _ _ _
      rw [hf] at hfinish
      exact hfinish.append ih

/-- **Giving up reports the failure of its last call**, if that failed. -/
theorem giveUp_failsLast (elapsed : Duration) (now : Nat) (left : List (Nat × String)) :
    Trace.FailsLast hooks (giveUp probe hooks elapsed now left).trace
      (giveUp probe hooks elapsed now left).failure := by
  fun_induction giveUp probe hooks elapsed now left with
  | case1 => exact .nil
  | case2 now index name rest result finish chain hf =>
      have hfinish : Trace.FailsLast hooks finish.trace finish.failure := finishCheck_failsLast _ _ _
      rw [hf] at hfinish
      exact hfinish
  | case3 now index name rest result finish hf later ih =>
      have hfinish : Trace.FailsLast hooks finish.trace finish.failure := finishCheck_failsLast _ _ _
      rw [hf] at hfinish
      exact hfinish.append ih

/-- Once all checks are dispatched no hook before a check is called. -/
theorem Log.mem_starts_of_startHook_mem {r : Runner} {probe : Probe} {l : Log} {name check : String}
    {k : Nat} (h : .startHook name check k ∈ l.trace r probe) (hr : l.refused = none) :
    .startHook name check k ∈
      (probe.checks.zipIdx.take l.started).flatMap (startSights probe.name r.hooks.isSome) := by
  have hends (ends : List (Nat × CheckResult)) : .startHook name check k ∉
      ends.flatMap (endSights probe.name r.hooks.isSome) := by
    intro hmem
    obtain ⟨e, -, he⟩ := List.mem_flatMap.mp hmem
    cases hooked : r.hooks.isSome <;> simp [endSights, hooked] at he
  simp only [trace, hr, List.mem_cons, List.mem_append] at h
  rcases h with hevent | ((((hstart | hrefused) | hjoined) | hpending) | hgiven) | hreport
  · cases hevent
  · exact hstart
  · cases hrefused
  · exact absurd hjoined (hends _)
  · simp at hpending
  · exact absurd hgiven (hends _)
  · simp at hreport

end Run

namespace Runner

open Run

variable {r : Runner} {probe : Probe} {calls : List Nat}
  {s : Schedule (r.dispatched probe calls).tasks}

/-! ### The whole run -/

/-- **A run reports the failure of its last call**, if that failed, and no other failure of a hook. -/
theorem run_failsLast (r : Runner) (probe : Probe) (calls : List Nat)
    (s : Schedule (r.dispatched probe calls).tasks) :
    Trace.FailsLast r.hooks (r.runInOrder probe calls s).trace
      (r.runInOrder probe calls s).result.hookFailure? := by
  have hdispatch : Trace.FailsLast r.hooks (r.dispatched probe calls).trace
      (r.dispatched probe calls).failure := dispatch_failsLast _ _ _
  have hcollect : Trace.FailsLast r.hooks (r.collected probe (r.dispatched probe calls) s).trace
      (r.collected probe (r.dispatched probe calls) s).closing.hookFailure? :=
    collect_failsLast _ _ _ _ _
  have hgive : Trace.FailsLast r.hooks
      (r.givenUp probe (r.collected probe (r.dispatched probe calls) s)).trace
      (r.givenUp probe (r.collected probe (r.dispatched probe calls) s)).failure :=
    giveUp_failsLast _ _ _
  -- dispatch and collection together report what collection does
  have hbefore {closing : Closing} (hd : r.Collects (r.dispatched probe calls) s.begins)
      (hc : (r.collected probe (r.dispatched probe calls) s).closing = closing) :
      Trace.FailsLast r.hooks (r.prologue probe (r.dispatched probe calls)
        (r.collected probe (r.dispatched probe calls) s)) closing.hookFailure? := by
    rw [hd.dispatched] at hdispatch
    rw [hc] at hcollect
    exact (hdispatch.cons_event _).append hcollect
  have hcourse := r.course_runInOrder probe calls s
  generalize r.runInOrder probe calls s = run at hcourse
  cases hcourse with
  | startFailed hd | panicked hd =>
      rw [hd] at hdispatch
      exact hdispatch.cons_event _
  | complete hd hc | timedOut hd hc => exact (hbefore hd hc).append .singleton
  | never hd hc => exact (hbefore hd hc).append .nil
  | endFailed hd hc =>
      rw [List.append_nil]
      exact hbefore hd hc
  | givingUpFailed hd hc hr hg =>
      rw [hg] at hgive
      exact (hbefore hd hc).append (hgive.cons_event _)
  | givenUp hd hc hr hg =>
      rw [hg] at hgive
      exact (hbefore hd hc).append ((hgive.append .singleton).cons_event _)

/-- A run fails for a hook with just the failures that calls in it had. -/
theorem failed_iff_exists_call {chain : Chain} :
    (r.runInOrder probe calls s).result = .failed (.hook chain) ↔
      ∃ call ∈ (r.runInOrder probe calls s).trace, call.failure? r.hooks = some chain := by
  rw [(run_failsLast r probe calls s).exists_iff]
  exact Result.hookFailure?_eq_some_iff.symm

/-! ### Failures before a check -/

/-- A call that fails before a check fails in dispatch. -/
theorem dispatched_failure_of_startHook {name check : String} {k : Nat}
    (h : .startHook name check k ∈ (r.runInOrder probe calls s).trace)
    (hf : (Sight.startHook name check k).failure? r.hooks ≠ none) :
    ∃ chain, (r.dispatched probe calls).failure = some chain := by
  refine Option.ne_none_iff_exists'.mp fun hd => ?_
  obtain ⟨l, htrace, hshaped, -, hl⟩ := trace_eq_log r probe calls s
  have hstart := Log.mem_starts_of_startHook_mem (htrace ▸ h) (hl.refused hd)
  rw [hshaped.started_eq (hl.refused hd), ← dispatched_trace hd] at hstart
  -- dispatch reports no failure, so no call in it failed
  have hdispatch : Trace.FailsLast r.hooks (r.dispatched probe calls).trace
      (r.dispatched probe calls).failure := dispatch_failsLast _ _ _
  rw [hd] at hdispatch
  exact hf (hdispatch _ hstart)

/-- **If a hook fails before a check the checks ahead of it are dispatched**, and nothing else is seen of
the run than that. -/
theorem trace_of_startFailure {name check : String} {k : Nat}
    (h : .startHook name check k ∈ (r.runInOrder probe calls s).trace)
    (hf : (Sight.startHook name check k).failure? r.hooks ≠ none) :
    (r.dispatched probe calls).tasks.length = k ∧ ∃ c, probe.checks[k]? = some c ∧
      (r.runInOrder probe calls s).trace =
        ({ started := k, refused := some (c, k) } : Log).trace r probe := by
  obtain ⟨chain, hd⟩ := dispatched_failure_of_startHook h hf
  obtain ⟨before, hbefore, -⟩ := (run_failsLast r probe calls s).eq_append_of_failure h hf
  obtain ⟨p, hp, -, htrace⟩ := dispatched_trace_of_failure hd
  rw [List.getElem?_zipIdx, Nat.zero_add, Option.map_eq_some_iff] at hp
  obtain ⟨c, hc, rfl⟩ := hp
  have hrun : (r.runInOrder probe calls s).trace =
      .event (probeStart probe r.timeout) :: (r.dispatched probe calls).trace := by
    simp only [runInOrder, hd]
  -- the failing call is the last one of dispatch, so it is for the check that has no task
  have hlast := congrArg List.getLast? (hbefore.symm.trans hrun)
  rw [htrace, ← List.cons_append, List.getLast?_concat, List.getLast?_concat] at hlast
  obtain ⟨-, -, rfl⟩ := Sight.startHook.inj (Option.some.inj hlast)
  refine ⟨rfl, c, hc, ?_⟩
  rw [hrun, htrace, Log.trace]
  simp

/-! ### Results -/

/-- An end that the log of a run holds is collected, and then it is the own result of the check's call,
or it is made up for the check when the deadline has been seen. -/
theorem collected_or_sawDeadline {l : Log} (hl : l.Records r probe (r.dispatched probe calls) s.begins
      (r.collected probe (r.dispatched probe calls) s)) {index : Nat} {result : CheckResult}
    (h : (index, result) ∈ l.joined ++ l.givenUp) :
    ∃ c, probe.checks[index]? = some c ∧
      (r.Collects (r.dispatched probe calls) s.begins ∧
          (index, result) ∈ (r.collected probe (r.dispatched probe calls) s).results ∧
          c.Yields (calls.getD index 0) result ∨
        (r.runInOrder probe calls s).SawDeadline ∧ ∃ elapsed, result = .timedOut c.name elapsed) := by
  rcases hl.ends _ h with ⟨hd, hjoined | ⟨hc, hgiven⟩⟩
  · obtain ⟨c, hcheck, hyields⟩ := joined_yields hjoined
    exact ⟨c, hcheck, .inl ⟨hd, hjoined, hyields⟩⟩
  · obtain ⟨⟨i, name⟩, hp, he⟩ := List.mem_map.mp hgiven
    obtain ⟨rfl, rfl⟩ := Prod.mk.inj he
    obtain ⟨c, hcheck, rfl⟩ := Option.map_eq_some_iff.mp (mem_pending_iff.mp hp).1
    exact ⟨c, hcheck, .inr ⟨sawDeadline_iff_closing.mpr ⟨hd, hc⟩, _, rfl⟩⟩

/-- The hook after a check is called with a result that the run has told before. -/
theorem end_of_endHook {name : String} {index : Nat} {result : CheckResult}
    (h : .endHook name index result ∈ (r.runInOrder probe calls s).trace) :
    .event (checkEnd probe.name index result) ∈ (r.runInOrder probe calls s).trace ∧
      ∃ c, probe.checks[index]? = some c ∧ (c.Yields (calls.getD index 0) result ∨
        (r.runInOrder probe calls s).SawDeadline ∧ ∃ elapsed, result = .timedOut c.name elapsed) := by
  obtain ⟨l, htrace, hshaped, hcloses, hl⟩ := trace_eq_log r probe calls s
  have hmem := Log.mem_of_endHook_mem (htrace ▸ h)
  obtain ⟨c, hcheck, hown⟩ := collected_or_sawDeadline hl hmem
  exact ⟨(Log.endsWith_of_mem htrace hshaped hcloses hmem).event, c, hcheck,
    hown.imp_left fun h => h.2.2⟩

/-! ### Endpoints -/

/-- A run that gives pending checks up fails for a hook or not at all. -/
theorem exists_hook_of_failed (hmode : r.failureOnTimeout = true) {fault : Fault}
    (h : (r.runInOrder probe calls s).result = .failed fault) : ∃ chain, fault = .hook chain := by
  have hcourse := r.course_runInOrder probe calls s
  generalize r.runInOrder probe calls s = run at h hcourse
  cases hcourse with
  | startFailed | endFailed | givingUpFailed => exact ⟨_, (Result.failed.inj h).symm⟩
  | timedOut _ _ hr =>
      rw [hmode] at hr
      cases hr
  | panicked | complete | never | givenUp => cases h

/-- A request to an endpoint is answered by a failure if the run of its probe fails. -/
theorem respond_failed_iff (session : Session) (index : Nat) (options : EndpointOptions)
    (hooks : Option Hooks) (fault : Fault) :
    (session.step (.respond index options hooks)).1.answer = .run (.failed fault) ↔
      (session.step (.run index (Endpoint.runner options hooks) true)).1.answer =
        .run (.failed fault) := by
  simp only [Session.step]
  cases session.probes[index]? with
  | none => exact Iff.rfl
  | some probe =>
      simp only [Session.seen]
      cases (session.runProbe index probe (Endpoint.runner options hooks)).1.result with
      | report report =>
          constructor
          · intro h
            cases h
          · intro h
            cases h
      | failed | never | panicked => exact Iff.rfl

/-- A run of a probe as an endpoint asks for it fails if and only if a call of a hook failed. -/
theorem run_failed_iff_exists_call (session : Session) (index : Nat) (options : EndpointOptions)
    (hooks : Option Hooks) (fault : Fault) :
    let ran := (session.step (.run index (Endpoint.runner options hooks) true)).1
    ran.answer = .run (.failed fault) ↔ ∃ chain, fault = .hook chain ∧
      ∃ call ∈ ran.trace, call.failure? hooks = some chain := by
  simp only [Session.step]
  cases session.probes[index]? with
  | none =>
      constructor
      · intro h
        cases h
      · rintro ⟨_, -, _, hcall, -⟩
        cases hcall
  | some probe =>
      constructor
      · intro h
        have hresult := Session.Answer.run.inj h
        obtain ⟨chain, rfl⟩ := exists_hook_of_failed rfl hresult
        exact ⟨chain, rfl, failed_iff_exists_call.mp hresult⟩
      · rintro ⟨chain, rfl, hcall⟩
        exact congrArg Session.Answer.run (failed_iff_exists_call.mpr hcall)

/-- A request to an endpoint leaves the trace that the run of its probe leaves. -/
theorem respond_trace (session : Session) (index : Nat) (options : EndpointOptions)
    (hooks : Option Hooks) :
    (session.step (.respond index options hooks)).1.trace =
      (session.step (.run index (Endpoint.runner options hooks) true)).1.trace := by
  simp only [Session.step]
  cases session.probes[index]? <;> rfl

/-- **Hook failures are neither swallowed nor invented.** A run fails for a hook if and only if a call
of a hook failed in it, and for the failure of that call. This call is the only one that failed, and it
is the last thing that is seen of the run: no hook is called after it and no event follows. If it was
made before a check, the run has told of its beginning and of the checks ahead of that one, in order,
and of nothing else, and no hook after a check was called. A call after a check is made with a result
that the run has told, be it the own result of the check's call or one made up at the deadline. A
request to an endpoint fails if and only if the run of its probe does, which is if and only if a call
of a hook failed. -/
theorem hook_failures_surface (r : Runner) (probe : Probe) (calls : List Nat)
    (s : Schedule (r.dispatched probe calls).tasks) :
    let run := r.runInOrder probe calls s
    (∀ chain, run.result = .failed (.hook chain) ↔
      ∃ call ∈ run.trace, call.failure? r.hooks = some chain) ∧
      (∀ call ∈ run.trace, call.failure? r.hooks ≠ none →
        ∃ before, run.trace = before ++ [call] ∧
          ∀ other ∈ before, other.failure? r.hooks = none) ∧
      (∀ name check k, .startHook name check k ∈ run.trace →
        (Sight.startHook name check k).failure? r.hooks ≠ none →
        k < probe.checks.length ∧
          run.trace.events.filterMap Note.ofEvent? = .probeStart ::
            (probe.checks.zipIdx.take k).map (fun p => .checkStart p.2 p.1.name) ∧
          ∀ name index result, .endHook name index result ∉ run.trace) ∧
      (∀ name index result, .endHook name index result ∈ run.trace →
        .event (checkEnd probe.name index result) ∈ run.trace ∧
          ∃ c, probe.checks[index]? = some c ∧ (c.Yields (calls.getD index 0) result ∨
            run.SawDeadline ∧ ∃ elapsed, result = .timedOut c.name elapsed)) ∧
      ∀ (session : Session) (index : Nat) (options : EndpointOptions) (hooks : Option Hooks)
        (fault : Fault),
        let ran := (session.step (.run index (Endpoint.runner options hooks) true)).1
        let responded := (session.step (.respond index options hooks)).1
        (responded.answer = .run (.failed fault) ↔ ran.answer = .run (.failed fault)) ∧
          (responded.answer = .run (.failed fault) ↔ ∃ chain, fault = .hook chain ∧
            ∃ call ∈ responded.trace, call.failure? hooks = some chain) := by
  intro run
  refine ⟨fun chain => failed_iff_exists_call, fun call hmem hf =>
    (run_failsLast r probe calls s).eq_append_of_failure hmem hf, fun name check k hmem hf => ?_,
    fun name index result hmem => end_of_endHook hmem, fun session index options hooks fault => ?_⟩
  · obtain ⟨-, c, hc, htrace⟩ := trace_of_startFailure hmem hf
    refine ⟨(List.getElem?_eq_some_iff.mp hc).1, ?_, fun name index result hend => ?_⟩
    · rw [htrace, Log.notes_eq]
      simp [Log.notes]
    · have hnone := Log.mem_of_endHook_mem (htrace ▸ hend)
      cases hnone
  · have hanswer := respond_failed_iff session index options hooks fault
    refine ⟨hanswer, hanswer.trans ?_⟩
    rw [respond_trace]
    exact run_failed_iff_exists_call session index options hooks fault

/-! ### A hook that fails after a check -/

/-- A runner whose hook fails after the check of that index. -/
def strict (index : Nat) : Runner where
  timeout := some (.clamp 10)
  failureOnTimeout := true
  hooks := some ⟨fun _ => {}, fun i => { failure := if i = index then some ["no room"] else none }⟩

/-- The tasks settle in the order of their checks. -/
def strictOrder (index : Nat) : Schedule ((strict index).dispatched staggered []).tasks where
  order := ((strict index).dispatched staggered []).tasks.filterMap Arrival.ofTask?
  perm := .refl _
  inTime := .cons (fun b hb => by
    obtain rfl := List.mem_singleton.mp hb
    exact .inl (show 1 < 5 by decide)) (List.pairwise_singleton _ _)

/-- The second check settles by itself and the third one is cut off. A hook that fails after either
makes the run fail. -/
theorem hook_failures_surface_strict :
    ((strict 1).runInOrder staggered [] (strictOrder 1)).result = .failed (.hook ["no room"]) ∧
      ((strict 2).runInOrder staggered [] (strictOrder 2)).result = .failed (.hook ["no room"]) := by
  have hcall (index : Nat) (result : CheckResult) :
      (Sight.endHook "release" index result).failure? (strict index).hooks = some ["no room"] := by
    simp [Sight.failure?, Hooks.actOf, strict]
  constructor
  · refine ((hook_failures_surface (strict 1) staggered [] (strictOrder 1)).1 _).mpr ?_
    exact ⟨_, List.mem_of_getLast? rfl, hcall _ _⟩
  · refine ((hook_failures_surface (strict 2) staggered [] (strictOrder 2)).1 _).mpr ?_
    exact ⟨_, List.mem_of_getLast? rfl, hcall _ _⟩

end Runner

end Vigil
