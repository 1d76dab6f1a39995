import Vigil.Proofs.Session.Calls

/-!
# Releases over a Session

Nothing is released but by the step that releases all probes, and that step goes through every check
that has something to release, whichever of the releases fail. So the releases of a check are counted by
these steps. A release that fails is noted for the log. It changes no tally, and the step shows nothing
of it.

## Main results

* `Session.released_step`: a step releases each check once or not at all.
* `Session.tallied_after`: any steps keep one tally for each check.
* `Session.failedReleases_eq`: the releases that fail are noted, all of them and in order.
* `Session.releases_counted`: the account of all releases.
-/

namespace Vigil

namespace Runner

open Run

/-- A run says of just the checks of its probe what became of their calls. -/
theorem length_activity (r : Runner) (probe : Probe) (calls : List Nat)
    (s : Schedule (r.dispatched probe calls).tasks) :
    (r.runInOrder probe calls s).activity.length = probe.checks.length := by
  obtain ⟨waited, now, hactivity, -⟩ := activity_eq r probe calls s
  have hle := @length_tasks_le r probe calls
  rw [hactivity, activities, List.length_append, List.length_map, List.length_replicate]
  omega

end Runner

namespace Session

variable {s : Session} {step : Step} {i j : Nat} {probe : Probe} {c : Check} {t : Tally}

/-! ### The count -/

/-- How often a check has been released when all probes have been so many times. -/
def releasesOf (c : Check) (closes : Nat) : Nat := if c.holdsResources then closes else 0

/-- A release counts a check that holds resources, and no other. -/
theorem released_release (c : Check) (t : Tally) :
    (Tally.release c t).released = t.released + releasesOf c 1 := by
  rw [Tally.release, releasesOf]
  split <;> rfl

/-- Releases are counted one after another. -/
theorem releasesOf_add (c : Check) (m n : Nat) :
    releasesOf c (m + n) = releasesOf c m + releasesOf c n := by
  simp only [releasesOf]
  split <;> rfl

/-- **A step releases each check that holds resources if it releases the probes**, and else none. -/
theorem released_step (step : Step) (hp : s.probes[i]? = some probe) (hc : probe.checks[j]? = some c)
    (ht : s.tally? i j = some t) :
    ∃ t', (s.step step).2.tally? i j = some t' ∧
      t'.released = t.released + releasesOf c (if step.closes then 1 else 0) := by
  have hnone : releasesOf c 0 = 0 := ite_self 0
  obtain ⟨t', ht', ⟨r, a, hrun, rfl, -⟩ | ⟨-, rfl⟩⟩ := tally_step step hp hc ht
  · refine ⟨_, ht', ?_⟩
    rw [closes_of_run? hrun, if_neg Bool.false_ne_true, hnone]
    rfl
  · refine ⟨_, ht', ?_⟩
    split
    · exact released_release c t
    · rw [hnone]
      rfl

/-- Over any steps the releases of a check are counted by the steps that release the probes. -/
theorem released_after (steps : List Step) (hp : s.probes[i]? = some probe)
    (hc : probe.checks[j]? = some c) (ht : s.tally? i j = some t) :
    ∃ t', (s.after steps).tally? i j = some t' ∧
      t'.released = t.released + releasesOf c (steps.countP Step.closes) := by
  induction steps generalizing s t with
  | nil => exact ⟨t, ht, by rw [releasesOf, List.countP_nil, ite_self]; rfl⟩
  | cons step rest ih =>
      obtain ⟨t₁, ht₁, hstep⟩ := released_step step hp hc ht
      obtain ⟨t₂, ht₂, hrest⟩ := ih (step_probes s step ▸ hp) ht₁
      refine ⟨t₂, ht₂, ?_⟩
      rw [hrest, hstep, List.countP_cons, releasesOf_add, Nat.add_assoc,
        Nat.add_comm (releasesOf c (rest.countP Step.closes))]

/-! ### Releases that fail -/

/-- There is one tally for each check of each probe. -/
def Tallied (s : Session) : Prop := s.tallies.map List.length = s.probes.map fun p => p.checks.length

/-- Releases keep one tally for each check. -/
theorem length_releaseProbes {probes : List Probe} {tallies : List (List Tally)}
    (h : tallies.map List.length = probes.map fun p => p.checks.length) :
    (releaseProbes probes tallies).1.map List.length = probes.map fun p => p.checks.length := by
  rw [releaseProbes_fst]
  induction probes generalizing tallies with
  | nil => rfl
  | cons p probes ih =>
      cases tallies with
      | nil => cases h
      | cons ts tallies =>
          obtain ⟨hhere, hlater⟩ := List.cons.inj h
          rw [List.zipWith_cons_cons, List.map_cons, List.map_cons, ih hlater, List.length_zipWith,
            hhere, Nat.min_self]

/-- A step keeps one tally for each check. -/
theorem Tallied.of_step (h : s.Tallied) (step : Step) : (s.step step).2.Tallied := by
  have hprobes := step_probes s step
  cases hrun : step.run? with
  | none =>
      cases step with
      | run | respond => cases hrun
      | record | stopRecording => exact h
      | close => exact length_releaseProbes h
  | some p =>
      obtain ⟨i, r⟩ := p
      cases hp : s.probes[i]? with
      | none => rwa [step_of_missing hrun hp]
      | some probe =>
          obtain ⟨-, -, -, htallies⟩ := step_of_run hrun hp
          have hlength : (s.tallies.getD i []).length = probe.checks.length := by
            have hi := congrArg (·[i]?) h
            simp only [List.getElem?_map, hp, Option.map_some, Option.map_eq_some_iff] at hi
            obtain ⟨ts, hts, hlen⟩ := hi
            rw [List.getD_eq_getElem?_getD, hts]
            exact hlen
          rw [Tallied, hprobes, htallies, List.map_set, h, addRun, List.length_zipWith, hlength,
            Runner.run, Runner.length_activity, Nat.min_self]
          obtain ⟨hi, rfl⟩ := List.getElem?_eq_some_iff.mp hp
          rw [← List.map_set, List.set_getElem_self]

/-- **Any steps keep one tally for each check.** -/
theorem tallied_after (probes : List Probe) (steps : List Step) :
    ((ofProbes probes).after steps).Tallied := by
  have hfirst : (ofProbes probes).Tallied := by
    simp only [Tallied, ofProbes, List.map_map, Function.comp_def, List.length_map]
  generalize ofProbes probes = s at hfirst
  induction steps generalizing s with
  | nil => exact hfirst
  | cons step rest ih => exact ih _ (Tallied.of_step hfirst step)

/-- **Every release that fails is noted**, in the order of the probes and of their checks. -/
theorem failedReleases_eq (h : s.Tallied) :
    s.failedReleases = s.probes.flatMap fun p => p.checks.filterMap (failedRelease? p.name) := by
  rw [failedReleases]
  rw [Tallied] at h
  generalize s.probes = probes at h
  generalize s.tallies = tallies at h
  induction probes generalizing tallies with
  | nil => cases tallies <;> rfl
  | cons p probes ih =>
      cases tallies with
      | nil => cases h
      | cons ts tallies =>
          obtain ⟨hhere, hlater⟩ := List.cons.inj h
          simp only [releaseProbes, releaseChecks_eq, hhere, List.take_length, List.flatMap_cons,
            ih _ hlater]

/-! ### The account -/

/-- **Releases happen only where all probes are released, and then completely.** After any step in a
session, whatever came before it and however the runs ended, each check that holds resources has been
released once for each step that releases the probes, and every other check never. This counts the
releases that fail, too: a step that releases the probes shows nothing of them, and each of them is
noted for the log with its probe, its check and its cause. -/
theorem releases_counted (probes : List Probe) (before : List Step) (step : Step)
    (later : List Step) :
    let s := (ofProbes probes).after before
    let seen := (s.step step).1
    let s' := (s.step step).2
    ((ofProbes probes).steps (before ++ step :: later))[before.length]? = some (seen, s') ∧
      (∀ i j probe c, probes[i]? = some probe → probe.checks[j]? = some c →
        ∃ t, s'.tally? i j = some t ∧
          t.released = if c.holdsResources then (before ++ [step]).countP Step.closes else 0) ∧
      (step.closes = true → seen = quiet) ∧
      s.failedReleases = probes.flatMap fun p => p.checks.filterMap fun c =>
        if c.holdsResources then c.releaseFailure.map (⟨p.name, c.name, ·⟩) else none := by
  intro s seen s'
  have hafter : s' = (ofProbes probes).after (before ++ [step]) := by
    simp only [s', s, after, List.foldl_append, List.foldl_cons, List.foldl_nil]
  refine ⟨getElem?_steps _ _ _ _, fun i j probe c hp hc => ?_, fun hclose => ?_, ?_⟩
  · obtain ⟨t, ht, hreleased⟩ := released_after (before ++ [step]) (s := ofProbes probes) hp hc
      (tally?_ofProbes hp hc)
    rw [Nat.zero_add] at hreleased
    exact ⟨t, hafter ▸ ht, hreleased⟩
  · cases step with
    | close => rfl
    | run | respond | record | stopRecording => cases hclose
  · rw [failedReleases_eq (tallied_after probes before), after_probes]
    rfl

/-! ### A release that fails between two others -/

/-- Three checks: one hangs and fails to let go of what it holds, one holds something, and one has
nothing to release. -/
def pool : Probe where
  name := "pool"
  checks := [
    { name := "cache", holdsResources := true, releaseFailure := some ["busy"], work := fun _ => .never },
    { name := "db", holdsResources := true, work := fun _ => ⟨some 1, .concluded (.ok .ok)⟩ },
    { name := "ping", releaseFailure := some ["idle"], work := fun _ => ⟨none, .panicked none⟩ }]

/-- After a run that times out, a release, a run that a hook ends and one more release the first two
checks have been released twice, and the third never. The failures of the first are noted alone. -/
theorem releases_counted_pool :
    let before : List Step :=
      [.run 0 { timeout := some (.clamp 10) } true, .close, .run 0 stopping false]
    let s := (ofProbes [pool]).after before
    (s.step .close).1 = quiet ∧ s.failedReleases = [⟨"pool", "cache", ["busy"]⟩] ∧
      ∃ t t' t'', (s.step .close).2.tally? 0 0 = some t ∧ t.released = 2 ∧
        (s.step .close).2.tally? 0 1 = some t' ∧ t'.released = 2 ∧
        (s.step .close).2.tally? 0 2 = some t'' ∧ t''.released = 0 := by
  intro before s
  obtain ⟨-, hcount, hquiet, hfailed⟩ := releases_counted [pool] before .close []
  obtain ⟨t, ht, hreleased⟩ := hcount 0 0 pool _ rfl rfl
  obtain ⟨t', ht', hreleased'⟩ := hcount 0 1 pool _ rfl rfl
  obtain ⟨t'', ht'', hreleased''⟩ := hcount 0 2 pool _ rfl rfl
  exact ⟨hquiet rfl, hfailed, t, t', t'', ht, hreleased, ht', hreleased', ht'', hreleased''⟩

end Session

end Vigil
