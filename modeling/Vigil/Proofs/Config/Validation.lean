import Mathlib.Data.List.Induction
import Mathlib.Data.List.Nodup
import Mathlib.Data.List.TakeWhile
import Vigil.Config.Reader

/-!
# What Is Reported of a Configuration

Probes are looked at one after another, with the names of those before in hand. As long as nothing is
found, the configuration with the probes so far is valid, and this is what carries along the list: the
probe at which it ceases to be valid is at fault by itself, or it has the name of a probe before it. What
is reported is settled there, so no probe that follows makes a difference.

## Main definitions

* `Config.Reports`: what is reported, told by the first place at which a configuration ceases to be valid.

## Main results

* `ProbeSettings.mem_violations_iff`: what is wrong with a probe by itself.
* `Config.valid_or_reports`: a configuration is valid, or something is reported of it.
* `Config.validate_reports`: validation accepts what is valid and refuses all else for what is reported.
-/

namespace Vigil

/-- Trimming leaves nothing of a text of blanks, and something of any other. -/
theorem Text.trimChars_eq_nil_iff {cs : List Char} :
    Text.trimChars cs = [] ↔ ∀ c ∈ cs, Text.isBlank c = true := by
  rw [trimChars, dropTrailingBlanks, List.reverse_eq_nil_iff, List.dropWhile_eq_nil_iff]
  constructor
  · intro h
    refine List.dropWhile_eq_nil_iff.mp (List.eq_nil_iff_forall_not_mem.mpr fun c hc => ?_)
    -- what follows the leading blanks would begin with another character
    obtain ⟨first, rest, hfront⟩ := List.exists_cons_of_ne_nil (List.ne_nil_of_mem hc)
    have hsolid : isBlank first = false := head?_dropBlanks (congrArg List.head? hfront)
    have hfirst : first ∈ dropBlanks cs := by
      rw [dropBlanks, hfront]
      exact List.mem_cons_self
    rw [h first (List.mem_reverse.mpr hfirst)] at hsolid
    cases hsolid
  · intro h c hc
    exact h c ((List.dropWhile_suffix isBlank).subset (List.mem_reverse.mp hc))

theorem RunSettings.inRange_iff {s : RunSettings} :
    s.inRange = true ↔ 1 ≤ s.timeout.millis ∧ s.timeout.millis ≤ longestRun := by
  rw [inRange, Bool.and_eq_true, decide_eq_true_eq, decide_eq_true_eq]

/-! ### A probe by itself -/

namespace ProbeSettings

variable {p : ProbeSettings}

theorem isBlank_iff : p.isBlank = true ↔ ∀ ch ∈ p.name.toList, Text.isBlank ch = true := by
  rw [isBlank, Text.trim, String.isEmpty_iff, ← Text.trimChars_eq_nil_iff]
  exact String.ofList_eq_empty_iff

/-- What is wrong with a probe by itself: a name of blanks, and having no checks. -/
theorem mem_violations_iff {v : Violation} :
    v ∈ p.violations ↔
      (v = .blankName p.name ∧ ∀ ch ∈ p.name.toList, Text.isBlank ch = true) ∨
        (v = .noChecks ∧ p.checks = []) := by
  rw [violations, List.mem_append, ← isBlank_iff, ← List.isEmpty_iff]
  cases p.isBlank <;> cases p.checks.isEmpty <;> simp

/-- Nothing is told twice. -/
theorem nodup_violations (p : ProbeSettings) : p.violations.Nodup := by
  rw [violations]
  cases p.isBlank <;> cases p.checks.isEmpty <;> simp

/-- Nothing is wrong with a probe by itself that has a name and a check. -/
theorem violations_eq_nil_iff :
    p.violations = [] ↔ (∃ ch ∈ p.name.toList, Text.isBlank ch = false) ∧ p.checks ≠ [] := by
  rw [List.eq_nil_iff_forall_not_mem]
  simp only [mem_violations_iff]
  constructor
  · intro h
    refine ⟨?_, fun hnone => h _ (.inr ⟨rfl, hnone⟩)⟩
    by_contra hsolid
    refine h _ (.inl ⟨rfl, fun ch hch => ?_⟩)
    cases hblank : Text.isBlank ch with
    | false => exact absurd ⟨ch, hch, hblank⟩ hsolid
    | true => rfl
  · rintro ⟨⟨ch, hch, hsolid⟩, hchecks⟩ v (⟨-, hblank⟩ | ⟨-, hnone⟩)
    · rw [hblank ch hch] at hsolid
      cases hsolid
    · exact hchecks hnone

end ProbeSettings

/-! ### Probes one after another -/

/-- Nothing is found of probes that are right by themselves and have names of their own, and the names are
in hand for those that follow. -/
theorem probeViolations_append {seen : List String} {before : List ProbeSettings}
    (hsound : ∀ p ∈ before, p.violations = []) (hdistinct : (before.map (·.name)).Nodup)
    (hfresh : ∀ p ∈ before, p.name ∉ seen) (rest : List ProbeSettings) :
    probeViolations seen (before ++ rest) =
      probeViolations ((before.map (·.name)).reverse ++ seen) rest := by
  induction before generalizing seen with
  | nil => rfl
  | cons p before ih =>
    rw [List.forall_mem_cons] at hsound hfresh
    rw [List.map_cons, List.nodup_cons] at hdistinct
    have hnew : ∀ q ∈ before, q.name ∉ p.name :: seen := by
      intro q hq hmem
      rcases List.mem_cons.mp hmem with hsame | hseen
      · exact hdistinct.1 (hsame ▸ List.mem_map_of_mem hq)
      · exact hfresh.2 q hq hseen
    have hunseen : seen.contains p.name = false := by
      simpa using hfresh.1
    rw [List.cons_append, probeViolations, hsound.1]
    dsimp only
    rw [hunseen, if_neg Bool.false_ne_true, ih hsound.2 hdistinct.2 hnew, List.map_cons,
      List.reverse_cons, List.append_assoc, List.singleton_append]

namespace Config

variable {c : Config} {vs : List Violation}

/-- What is reported of a configuration: that its runs may take too long or not long enough, or else what
is wrong with the first probe that is at fault by itself or has the name of one before it, the
configuration being valid up to there. -/
inductive Reports (c : Config) : List Violation → Prop
  | run (h : ¬(1 ≤ c.run.timeout.millis ∧ c.run.timeout.millis ≤ longestRun)) :
      Reports c [.runTimeout c.run.timeout]
  | faulty {before : List ProbeSettings} {p : ProbeSettings} {after : List ProbeSettings}
      (hprobes : c.probes = before ++ p :: after) (hbefore : Valid { c with probes := before })
      (hfaulty : p.violations ≠ []) : Reports c p.violations
  | repeated {before : List ProbeSettings} {p : ProbeSettings} {after : List ProbeSettings}
      (hprobes : c.probes = before ++ p :: after) (hbefore : Valid { c with probes := before })
      (hsound : p.violations = []) (hname : ∃ q ∈ before, q.name = p.name) :
      Reports c [.repeatedName p.name]

/-- What is reported of a configuration is reported whatever probes follow. -/
theorem Reports.append (h : c.Reports vs) (later : List ProbeSettings) :
    Reports { c with probes := c.probes ++ later } vs := by
  have hfollowed {before : List ProbeSettings} {p : ProbeSettings} {after : List ProbeSettings}
      (hprobes : c.probes = before ++ p :: after) :
      c.probes ++ later = before ++ p :: (after ++ later) := by
    rw [hprobes, List.append_assoc, List.cons_append]
  cases h with
  | run h => exact Reports.run (c := { c with probes := c.probes ++ later }) h
  | faulty hprobes hbefore hfaulty => exact .faulty (hfollowed hprobes) hbefore hfaulty
  | repeated hprobes hbefore hsound hname =>
    exact .repeated (hfollowed hprobes) hbefore hsound hname

/-- A configuration stays valid with a probe more that is right by itself and has a name of its own. -/
theorem Valid.append_singleton (h : c.Valid) {p : ProbeSettings} (hsound : p.violations = [])
    (hname : ∀ q ∈ c.probes, q.name ≠ p.name) : Valid { c with probes := c.probes ++ [p] } := by
  obtain ⟨hnamed, hchecked⟩ := ProbeSettings.violations_eq_nil_iff.mp hsound
  refine ⟨h.timeout, List.forall_mem_append.mpr ⟨h.named, List.forall_mem_singleton.mpr hnamed⟩,
    List.forall_mem_append.mpr ⟨h.checked, List.forall_mem_singleton.mpr hchecked⟩, ?_⟩
  rw [List.map_append, List.map_singleton, List.nodup_append]
  refine ⟨h.distinct, List.nodup_singleton _, fun name hmem name' hmem' => ?_⟩
  obtain ⟨q, hq, rfl⟩ := List.mem_map.mp hmem
  rw [List.mem_singleton.mp hmem']
  exact hname q hq

/-- **A configuration is valid, or something is reported of it.** -/
theorem valid_or_reports (c : Config) : c.Valid ∨ ∃ vs, c.Reports vs := by
  -- the list grows at its end, as it is looked at
  suffices h : ∀ probes, Valid { c with probes } ∨ ∃ vs, Reports { c with probes } vs from h c.probes
  intro probes
  induction probes using List.reverseRecOn with
  | nil =>
    by_cases hrun : 1 ≤ c.run.timeout.millis ∧ c.run.timeout.millis ≤ longestRun
    · exact .inl ⟨hrun, nofun, nofun, List.nodup_nil⟩
    · exact .inr ⟨_, Reports.run (c := { c with probes := [] }) hrun⟩
  | append_singleton probes p ih =>
    rcases ih with hvalid | ⟨vs, hreports⟩
    · by_cases hsound : p.violations = []
      · by_cases hname : ∃ q ∈ probes, q.name = p.name
        · exact .inr ⟨_, .repeated rfl hvalid hsound hname⟩
        · refine .inl (hvalid.append_singleton hsound fun q hq hsame => hname ⟨q, hq, hsame⟩)
      · exact .inr ⟨_, .faulty rfl hvalid hsound⟩
    · exact .inr ⟨vs, hreports.append [p]⟩

/-- Nothing is wrong with the run settings of a valid configuration. -/
theorem Valid.run_violations (h : c.Valid) : c.run.violations = [] := by
  rw [RunSettings.violations, if_pos (RunSettings.inRange_iff.mpr h.timeout)]

/-- Up to the end of a valid configuration nothing is found. -/
theorem Valid.violations_append (h : c.Valid) (rest : List ProbeSettings) :
    violations { c with probes := c.probes ++ rest } =
      probeViolations (c.probes.map (·.name)).reverse rest := by
  have hsound : ∀ p ∈ c.probes, p.violations = [] := fun p hp =>
    ProbeSettings.violations_eq_nil_iff.mpr ⟨h.named p hp, h.checked p hp⟩
  rw [violations, h.run_violations]
  dsimp only
  rw [probeViolations_append hsound h.distinct fun p _ => List.not_mem_nil, List.append_nil]

/-- Of a valid configuration nothing is reported. -/
theorem Valid.violations_eq (h : c.Valid) : c.violations = [] := by
  have hend := h.violations_append []
  rwa [List.append_nil] at hend

/-- What is told of the first place at fault is what is reported, and it is not nothing. -/
theorem Reports.violations_eq (h : c.Reports vs) : c.violations = vs ∧ vs ≠ [] := by
  obtain ⟨logging, run, probes⟩ := c
  cases h with
  | run h =>
    have hrange : ¬run.inRange = true := fun hin => h (RunSettings.inRange_iff.mp hin)
    rw [violations, RunSettings.violations, if_neg hrange]
    exact ⟨rfl, List.cons_ne_nil _ _⟩
  | @faulty before p after hprobes hbefore hfaulty =>
    obtain rfl : probes = before ++ p :: after := hprobes
    refine ⟨(hbefore.violations_append (p :: after)).trans ?_, hfaulty⟩
    rw [probeViolations]
    split
    next hnone => exact absurd hnone hfaulty
    next => rfl
  | @repeated before p after hprobes hbefore hsound hname =>
    obtain rfl : probes = before ++ p :: after := hprobes
    refine ⟨(hbefore.violations_append (p :: after)).trans ?_, List.cons_ne_nil _ _⟩
    rw [probeViolations, hsound]
    dsimp only
    rw [if_pos]
    simpa using hname

theorem validate_eq_ok_iff {c' : Config} : c.validate = .ok c' ↔ c' = c ∧ c.Valid := by
  rw [validate]
  constructor
  · intro h
    split at h
    next hnone =>
      cases h
      refine ⟨rfl, c.valid_or_reports.resolve_right ?_⟩
      rintro ⟨vs, hreports⟩
      obtain ⟨hvs, hne⟩ := hreports.violations_eq
      exact hne (hvs.symm.trans hnone)
    next => cases h
  · rintro ⟨rfl, hvalid⟩
    rw [hvalid.violations_eq]

theorem validate_eq_error_iff {problem : ConfigProblem} :
    c.validate = .error problem ↔ ∃ vs, problem = .invalid vs ∧ c.Reports vs := by
  constructor
  · intro h
    rcases c.valid_or_reports with hvalid | ⟨vs, hreports⟩
    · rw [validate_eq_ok_iff.mpr ⟨rfl, hvalid⟩] at h
      cases h
    · obtain ⟨rfl, hne⟩ := hreports.violations_eq
      rw [validate] at h
      split at h
      next hnone => exact absurd hnone hne
      next =>
        cases h
        exact ⟨_, rfl, hreports⟩
  · rintro ⟨vs, rfl, hreports⟩
    obtain ⟨rfl, hne⟩ := hreports.violations_eq
    rw [validate]
    split
    next hnone => exact absurd hnone hne
    next => rfl

/-- **Validation accepts what is valid and refuses all else for what is reported of it**: for the time that
runs may take, if that is out of range, and otherwise for the first probe at fault, with all that is wrong
with it by itself or else for its name, which a probe before it has. What is wrong with a probe by itself
is that its name is blank and that it has no checks, each told once. The probes that follow on the first
one at fault make no difference. -/
theorem validate_reports (c : Config) :
    (∀ c', c.validate = .ok c' ↔ c' = c ∧ c.Valid) ∧
      (∀ problem, c.validate = .error problem ↔ ∃ vs, problem = .invalid vs ∧ c.Reports vs) ∧
      (∀ p : ProbeSettings, p.violations.Nodup ∧ ∀ v, v ∈ p.violations ↔
        (v = .blankName p.name ∧ ∀ ch ∈ p.name.toList, Text.isBlank ch = true) ∨
          (v = .noChecks ∧ p.checks = [])) ∧
      ∀ problem later, c.validate = .error problem →
        validate { c with probes := c.probes ++ later } = .error problem := by
  refine ⟨fun c' => validate_eq_ok_iff, fun problem => validate_eq_error_iff, fun p => ?_, ?_⟩
  · exact ⟨p.nodup_violations, fun v => ProbeSettings.mem_violations_iff⟩
  · intro problem later h
    obtain ⟨vs, rfl, hreports⟩ := validate_eq_error_iff.mp h
    exact validate_eq_error_iff.mpr ⟨vs, rfl, hreports.append later⟩

/-- A probe of a page. -/
def webProbe : ProbeSettings where
  name := "web"
  checks := [⟨"home", .url { url := "http://[::1]/" }⟩]

/-- A probe without a name or a check. -/
def emptyProbe : ProbeSettings where
  name := "\u3000"
  checks := []

/-- Of a probe given twice the name is reported, whatever is wrong with a probe after it. Of that one all
that is wrong is reported where it is the first at fault. -/
theorem validate_reports_twice :
    validate { probes := [webProbe] } = .ok { probes := [webProbe] } ∧
      validate { probes := [webProbe, webProbe] } = .error (.invalid [.repeatedName "web"]) ∧
      validate { probes := [webProbe, webProbe, emptyProbe] } = .error (.invalid [.repeatedName "web"]) ∧
      validate { probes := [webProbe, emptyProbe] } =
        .error (.invalid [.blankName "\u3000", .noChecks]) := by
  obtain ⟨haccepted, -⟩ := validate_reports { probes := [webProbe] }
  obtain ⟨-, hrefused, -, hlater⟩ := validate_reports { probes := [webProbe, webProbe] }
  obtain ⟨-, hempty, -⟩ := validate_reports { probes := [webProbe, emptyProbe] }
  have hone : validate { probes := [webProbe] } = .ok { probes := [webProbe] } := by
    rfl
  have hvalid : Valid { probes := [webProbe] } := ((haccepted _).mp hone).2
  have htwice := (hrefused (.invalid [.repeatedName "web"])).mpr
    ⟨_, rfl, @Reports.repeated _ [webProbe] webProbe [] rfl hvalid rfl
      ⟨webProbe, List.mem_singleton_self _, rfl⟩⟩
  refine ⟨hone, htwice, hlater _ [emptyProbe] htwice, (hempty _).mpr ⟨_, rfl, ?_⟩⟩
  exact @Reports.faulty _ [webProbe] emptyProbe [] rfl hvalid (List.cons_ne_nil _ _)

end Config

end Vigil
