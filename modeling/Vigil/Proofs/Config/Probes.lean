import Mathlib.Data.List.Basic
import Mathlib.Data.List.Forall2
import Vigil.Config.Probes

/-!
# Which Probes Are Built

Names are looked up before anything is built, so the first name that no probe bears is reported whatever
the checks. Building then goes through the selected probes and their checks in order, and stops at the
first check that cannot be built: at both levels a list is built member by member, and the first member
that fails says why (`mapM_eq_ok_iff`, `mapM_eq_error_iff`). Of the names only the set counts, and of the
probes that are not selected nothing does.

## Main definitions

* `FailsFirst`: the first member of a list that cannot be built, and why.
* `ProbeSettings.BuiltAs`: the probe that some settings stand for.
* `Config.BuildsTo`: what building the probes of some names comes to.

## Main results

* `Config.buildProbes_eq_iff`: building comes to what it is to come to.
* `Config.buildProbes_congr`: it depends on the names and the selected probes alone.
* `Config.selection_decides`: which probes are built, and what is reported otherwise.
-/

namespace Vigil

section

variable {ε α β : Type} {f : α → Except ε β}

/-- A list is built if its first member and the rest of it are. -/
theorem mapM_cons_eq_ok_iff {a : α} {as : List α} {bs : List β} :
    (a :: as).mapM f = .ok bs ↔ ∃ b bs', f a = .ok b ∧ as.mapM f = .ok bs' ∧ bs = b :: bs' := by
  rw [List.mapM_cons]
  cases f a with
  | error e => simp [bind, Except.bind]
  | ok b =>
    cases as.mapM f with
    | error e => simp [bind, Except.bind]
    | ok bs' => simp [bind, Except.bind, pure, Except.pure, eq_comm]

/-- It is not built for what its first member says, or else for what the rest of it says. -/
theorem mapM_cons_eq_error_iff {a : α} {as : List α} {e : ε} :
    (a :: as).mapM f = .error e ↔ f a = .error e ∨ ((∃ b, f a = .ok b) ∧ as.mapM f = .error e) := by
  rw [List.mapM_cons]
  cases f a with
  | error e' => simp [bind, Except.bind]
  | ok b =>
    cases as.mapM f with
    | error e' => simp [bind, Except.bind]
    | ok bs => simp [bind, Except.bind, pure, Except.pure]

/-- What is built of a list is built member by member. -/
theorem mapM_eq_ok_iff {as : List α} {bs : List β} :
    as.mapM f = .ok bs ↔ List.Forall₂ (fun a b => f a = .ok b) as bs := by
  induction as generalizing bs with
  | nil => simp [pure, Except.pure, eq_comm]
  | cons a as ih =>
    rw [mapM_cons_eq_ok_iff, List.forall₂_cons_left_iff]
    simp only [ih]

/-- A list can be built exactly if each of its members can. -/
theorem exists_mapM_eq_ok_iff {as : List α} :
    (∃ bs, as.mapM f = .ok bs) ↔ ∀ a ∈ as, ∃ b, f a = .ok b := by
  induction as with
  | nil => exact iff_of_true ⟨[], rfl⟩ fun a ha => absurd ha List.not_mem_nil
  | cons a as ih =>
    rw [List.forall_mem_cons, ← ih]
    constructor
    · rintro ⟨bs, h⟩
      obtain ⟨b, bs', ha, has, -⟩ := mapM_cons_eq_ok_iff.mp h
      exact ⟨⟨b, ha⟩, bs', has⟩
    · rintro ⟨⟨b, ha⟩, bs', has⟩
      exact ⟨b :: bs', mapM_cons_eq_ok_iff.mpr ⟨b, bs', ha, has, rfl⟩⟩

/-- What each member keeps when it is built the list keeps in order. -/
theorem map_of_mapM {γ : Type} {g : α → γ} {g' : β → γ} (hg : ∀ a b, f a = .ok b → g' b = g a)
    {as : List α} {bs : List β} (h : as.mapM f = .ok bs) : bs.map g' = as.map g := by
  induction as generalizing bs with
  | nil =>
    cases h
    rfl
  | cons a as ih =>
    obtain ⟨b, bs', ha, has, rfl⟩ := mapM_cons_eq_ok_iff.mp h
    rw [List.map_cons, List.map_cons, hg a b ha, ih has]

/-- A member of a list that cannot be built, and why, where all before it can be. -/
def FailsFirst (f : α → Except ε β) (as : List α) (a : α) (e : ε) : Prop :=
  ∃ before after, as = before ++ a :: after ∧ (∀ b ∈ before, ∃ built, f b = .ok built) ∧ f a = .error e

/-- Why a list cannot be built is said by the first member that cannot. -/
theorem mapM_eq_error_iff {as : List α} {e : ε} :
    as.mapM f = .error e ↔ ∃ a, FailsFirst f as a e := by
  induction as with
  | nil =>
    refine iff_of_false nofun ?_
    rintro ⟨a, before, after, hnil, -⟩
    exact List.cons_ne_nil _ _ (List.append_eq_nil_iff.mp hnil.symm).2
  | cons a as ih =>
    rw [mapM_cons_eq_error_iff, ih]
    constructor
    · rintro (ha | ⟨ha, b, before, after, rfl, hbefore, hb⟩)
      · exact ⟨a, [], as, rfl, nofun, ha⟩
      · exact ⟨b, a :: before, after, rfl, List.forall_mem_cons.mpr ⟨ha, hbefore⟩, hb⟩
    · rintro ⟨b, before, after, hsplit, hbefore, hb⟩
      cases before with
      | nil =>
        cases hsplit
        exact .inl hb
      | cons first before =>
        cases hsplit
        rw [List.forall_mem_cons] at hbefore
        exact .inr ⟨hbefore.1, b, before, after, rfl, hbefore.2, hb⟩

end

/-! ### One probe -/

namespace ProbeSettings

variable {p : ProbeSettings}

/-- The probe that some settings stand for, with the checks of theirs in order. -/
structure BuiltAs (p : ProbeSettings) (built : ConfiguredProbe) : Prop where
  name : built.name = p.name
  summary : built.summary = p.summary
  policy : built.allowPartialFailure = p.allowPartialFailure
  checks : List.Forall₂ (fun (check : CheckSettings) c => check.build = .ok c) p.checks built.checks

theorem build_eq_ok_iff {built : ConfiguredProbe} : p.build = .ok built ↔ p.BuiltAs built := by
  rw [build]
  constructor
  · intro h
    split at h
    next => cases h
    next checks hchecks =>
      cases h
      exact ⟨rfl, rfl, rfl, mapM_eq_ok_iff.mp hchecks⟩
  · intro h
    rw [mapM_eq_ok_iff.mpr h.checks, ← h.name, ← h.summary, ← h.policy]

theorem build_eq_error_iff {problem : ConfigProblem} :
    p.build = .error problem ↔
      ∃ check source, FailsFirst CheckSettings.build p.checks check source ∧
        problem = .invalidCheck p.name source := by
  rw [build]
  constructor
  · intro h
    split at h
    next source hsource =>
      cases h
      obtain ⟨check, hfirst⟩ := mapM_eq_error_iff.mp hsource
      exact ⟨check, source, hfirst, rfl⟩
    next => cases h
  · rintro ⟨check, source, hfirst, rfl⟩
    rw [mapM_eq_error_iff.mpr ⟨check, hfirst⟩]

/-- A probe is built if its checks are. -/
theorem exists_build_iff :
    (∃ built, p.build = .ok built) ↔ ∀ check ∈ p.checks, ∃ built, check.build = .ok built := by
  rw [← exists_mapM_eq_ok_iff, build]
  cases p.checks.mapM CheckSettings.build <;> simp

/-- A probe that is built keeps its name. -/
theorem name_of_build {built : ConfiguredProbe} (h : p.build = .ok built) : built.name = p.name :=
  (build_eq_ok_iff.mp h).name

end ProbeSettings

/-! ### The probes of some names -/

namespace Config

variable {c c' : Config} {names names' : List String} {name : String}

/-- A probe of that name is configured. -/
def Has (c : Config) (name : String) : Prop := ∃ p ∈ c.probes, p.name = name

theorem hasProbe_iff : c.hasProbe name = true ↔ c.Has name := by
  simp [hasProbe, Has]

/-- What building the probes of some names comes to: the first name that no probe bears is reported; if
there is none, the first selected probe with a check that cannot be built, with what the first such check
of it says; and if there is none of these either, all the selected probes are built. -/
inductive BuildsTo (c : Config) (names : List String) : Except ConfigProblem (List ConfiguredProbe) → Prop
  | unknown {before : List String} {name : String} {after : List String}
      (hnames : names = before ++ name :: after) (hbefore : ∀ n ∈ before, c.Has n)
      (hunknown : ¬c.Has name) : BuildsTo c names (.error (.unknownProbe name))
  | invalid {before : List ProbeSettings} {p : ProbeSettings} {after : List ProbeSettings}
      {check : CheckSettings} {source : Fault} (hknown : ∀ n ∈ names, c.Has n)
      (hprobes : c.selected names = before ++ p :: after)
      (hbefore : ∀ q ∈ before, ∀ check ∈ q.checks, ∃ built, check.build = .ok built)
      (hfirst : FailsFirst CheckSettings.build p.checks check source) :
      BuildsTo c names (.error (.invalidCheck p.name source))
  | built {probes : List ConfiguredProbe} (hknown : ∀ n ∈ names, c.Has n)
      (hprobes : List.Forall₂ ProbeSettings.BuiltAs (c.selected names) probes) :
      BuildsTo c names (.ok probes)

theorem hasProbe_eq_false_iff : c.hasProbe name = false ↔ ¬c.Has name := by
  rw [← hasProbe_iff, Bool.not_eq_true]

/-- No name is found unknown exactly if all of them are borne by probes. -/
theorem find?_unknown_eq_none_iff :
    names.find? (!c.hasProbe ·) = none ↔ ∀ name ∈ names, c.Has name := by
  simp [hasProbe_iff]

/-- A name is found unknown if it is the first that no probe bears. -/
theorem find?_unknown_eq_some_iff :
    names.find? (!c.hasProbe ·) = some name ↔
      ¬c.Has name ∧ ∃ before after, names = before ++ name :: after ∧ ∀ n ∈ before, c.Has n := by
  simp [List.find?_eq_some_iff_append, hasProbe_iff, hasProbe_eq_false_iff]

/-- Names that are all known are looked up for nothing. -/
theorem buildProbes_of_known (h : ∀ name ∈ names, c.Has name) :
    c.buildProbes names = (c.selected names).mapM ProbeSettings.build := by
  rw [buildProbes, find?_unknown_eq_none_iff.mpr h]

/-- What building is to come to it comes to. -/
theorem BuildsTo.buildProbes_eq {r : Except ConfigProblem (List ConfiguredProbe)}
    (h : c.BuildsTo names r) : c.buildProbes names = r := by
  cases h with
  | @unknown before name after hnames hbefore hunknown =>
    rw [buildProbes, find?_unknown_eq_some_iff.mpr ⟨hunknown, before, after, hnames, hbefore⟩]
  | @invalid before p after check source hknown hprobes hbefore hfirst =>
    rw [buildProbes_of_known hknown, mapM_eq_error_iff]
    refine ⟨p, before, after, hprobes, fun q hq => ?_, ?_⟩
    · exact ProbeSettings.exists_build_iff.mpr (hbefore q hq)
    · exact ProbeSettings.build_eq_error_iff.mpr ⟨check, source, hfirst, rfl⟩
  | built hknown hprobes =>
    rw [buildProbes_of_known hknown, mapM_eq_ok_iff]
    exact hprobes.imp fun _ _ => ProbeSettings.build_eq_ok_iff.mpr

/-- It is to come to something. -/
theorem exists_buildsTo (c : Config) (names : List String) : ∃ r, c.BuildsTo names r := by
  cases hfind : names.find? (!c.hasProbe ·) with
  | some name =>
    obtain ⟨hunknown, before, after, hnames, hbefore⟩ := find?_unknown_eq_some_iff.mp hfind
    exact ⟨_, .unknown hnames hbefore hunknown⟩
  | none =>
    have hknown := find?_unknown_eq_none_iff.mp hfind
    cases hmap : (c.selected names).mapM ProbeSettings.build with
    | ok probes =>
      refine ⟨_, .built hknown ((mapM_eq_ok_iff.mp hmap).imp fun _ _ => ?_)⟩
      exact ProbeSettings.build_eq_ok_iff.mp
    | error problem =>
      obtain ⟨p, before, after, hprobes, hbefore, hp⟩ := mapM_eq_error_iff.mp hmap
      obtain ⟨check, source, hfirst, -⟩ := ProbeSettings.build_eq_error_iff.mp hp
      exact ⟨_, .invalid hknown hprobes
        (fun q hq => ProbeSettings.exists_build_iff.mp (hbefore q hq)) hfirst⟩

/-- **Building comes to a result exactly if it is to come to it.** -/
theorem buildProbes_eq_iff {r : Except ConfigProblem (List ConfiguredProbe)} :
    c.buildProbes names = r ↔ c.BuildsTo names r := by
  constructor
  · rintro rfl
    obtain ⟨r, h⟩ := exists_buildsTo c names
    exact h.buildProbes_eq ▸ h
  · exact BuildsTo.buildProbes_eq

/-- A name is reported exactly if one is unknown. -/
theorem exists_unknownProbe_iff :
    (∃ name, c.buildProbes names = .error (.unknownProbe name)) ↔ ∃ name ∈ names, ¬c.Has name := by
  constructor
  · rintro ⟨name, h⟩
    cases buildProbes_eq_iff.mp h with
    | unknown hnames _ hunknown =>
      exact ⟨name, hnames ▸ List.mem_append_right _ List.mem_cons_self, hunknown⟩
  · rintro ⟨name, hname, hunknown⟩
    obtain ⟨r, h⟩ := exists_buildsTo c names
    cases h with
    | unknown hnames hbefore hfirst => exact ⟨_, BuildsTo.buildProbes_eq (.unknown hnames hbefore hfirst)⟩
    | invalid hknown | built hknown => exact absurd (hknown name hname) hunknown

/-- A check is reported exactly if all names are known and some selected probe has a check that cannot be
built. -/
theorem exists_invalidCheck_iff :
    (∃ name source, c.buildProbes names = .error (.invalidCheck name source)) ↔
      (∀ name ∈ names, c.Has name) ∧
        ∃ p ∈ c.selected names, ∃ check ∈ p.checks, ∃ source, check.build = .error source := by
  constructor
  · rintro ⟨name, source, h⟩
    cases buildProbes_eq_iff.mp h with
    | invalid hknown hprobes _ hfirst =>
      obtain ⟨done, rest, hchecks, -, hcheck⟩ := hfirst
      refine ⟨hknown, _, hprobes ▸ List.mem_append_right _ List.mem_cons_self, _, ?_, source, hcheck⟩
      exact hchecks ▸ List.mem_append_right _ List.mem_cons_self
  · rintro ⟨hknown, p, hp, check, hcheck, source, hsource⟩
    obtain ⟨r, h⟩ := exists_buildsTo c names
    cases h with
    | unknown hnames _ hunknown =>
      exact absurd (hknown _ (hnames ▸ List.mem_append_right _ List.mem_cons_self)) hunknown
    | invalid hknown hprobes hbefore hfirst =>
      exact ⟨_, _, BuildsTo.buildProbes_eq (.invalid hknown hprobes hbefore hfirst)⟩
    | built _ hprobes =>
      have hbuilt : ∃ bs, (c.selected names).mapM ProbeSettings.build = .ok bs :=
        ⟨_, mapM_eq_ok_iff.mpr (hprobes.imp fun _ _ => ProbeSettings.build_eq_ok_iff.mpr)⟩
      obtain ⟨built, hok⟩ :=
        ProbeSettings.exists_build_iff.mp (exists_mapM_eq_ok_iff.mp hbuilt p hp) check hcheck
      rw [hsource] at hok
      cases hok

/-! ### What does not count -/

/-- A name that is asked for is borne by a probe exactly if it is borne by a selected one. -/
theorem has_iff_selected (h : name ∈ names) :
    c.Has name ↔ ∃ p ∈ c.selected names, p.name = name := by
  constructor
  · rintro ⟨p, hp, rfl⟩
    exact ⟨p, List.mem_filter.mpr ⟨hp, by simp [h]⟩, rfl⟩
  · rintro ⟨p, hp, rfl⟩
    exact ⟨p, (List.mem_filter.mp hp).1, rfl⟩

/-- Where the same probes are selected, building is to come to the same. -/
theorem BuildsTo.congr {r : Except ConfigProblem (List ConfiguredProbe)} (h : c.BuildsTo names r)
    (hselected : c'.selected names = c.selected names) : c'.BuildsTo names r := by
  have hhas : ∀ name ∈ names, c'.Has name ↔ c.Has name := fun name hname => by
    rw [has_iff_selected hname, has_iff_selected hname, hselected]
  have hknows (hknown : ∀ n ∈ names, c.Has n) : ∀ n ∈ names, c'.Has n :=
    fun n hn => (hhas n hn).mpr (hknown n hn)
  cases h with
  | @unknown before name after hnames hbefore hunknown =>
    subst hnames
    refine .unknown rfl (fun n hn => ?_) fun hname => hunknown ?_
    · exact (hhas n (List.mem_append_left _ hn)).mpr (hbefore n hn)
    · exact (hhas name (List.mem_append_right _ List.mem_cons_self)).mp hname
  | invalid hknown hprobes hbefore hfirst =>
    exact .invalid (hknows hknown) (hselected.trans hprobes) hbefore hfirst
  | built hknown hprobes =>
    refine .built (hknows hknown) ?_
    rw [hselected]
    exact hprobes

/-- **Building depends on the names and on the selected probes alone.** -/
theorem buildProbes_congr (h : c'.selected names = c.selected names) :
    c'.buildProbes names = c.buildProbes names :=
  ((buildProbes_eq_iff.mp rfl).congr h).buildProbes_eq

/-- The probes of some names are told by the set of the names. -/
theorem selected_congr (h : ∀ name, name ∈ names' ↔ name ∈ names) :
    c.selected names' = c.selected names := by
  have hempty : names'.isEmpty = names.isEmpty := by
    rw [Bool.eq_iff_iff, List.isEmpty_iff, List.isEmpty_iff, List.eq_nil_iff_forall_not_mem,
      List.eq_nil_iff_forall_not_mem]
    simp only [h]
  refine List.filter_congr fun p _ => ?_
  rw [hempty, Bool.eq_iff_iff, Bool.or_eq_true, Bool.or_eq_true, List.contains_iff_mem,
    List.contains_iff_mem, h]

/-- The configuration with other checks for all probes but those of some names. -/
def recheckOthers (c : Config) (names : List String) (checks : ProbeSettings → List CheckSettings) :
    Config :=
  { c with probes := c.probes.map fun p =>
      if p ∈ c.selected names then p else { p with checks := checks p } }

/-- The probes of these names are the same. -/
theorem selected_recheckOthers (c : Config) (names : List String)
    (checks : ProbeSettings → List CheckSettings) :
    (c.recheckOthers names checks).selected names = c.selected names := by
  have hname (p : ProbeSettings) :
      (if p ∈ c.selected names then p else { p with checks := checks p }).name = p.name := by
    split <;> rfl
  rw [selected, recheckOthers, List.filter_map]
  simp only [Function.comp_def, hname]
  exact (List.map_congr_left fun p hp => if_pos hp).trans (List.map_id _)

/-- **The names decide which probes are built, and the first obstacle what is reported otherwise.** The
selected probes are those of the names, or all of them if there are no names, in the order of the
configuration. A name that no probe bears is reported before any check is looked at; otherwise the first
selected probe with a check that cannot be built, for the first such check of it; and otherwise each
selected probe is built with its checks, policy and summary. The order of known names and their repetition
do not count, and neither do the checks of probes that are not selected. -/
theorem selection_decides (c : Config) (names : List String) :
    c.selected names = c.probes.filter (fun p => names = [] ∨ p.name ∈ names) ∧
      (∀ r, c.buildProbes names = r ↔ c.BuildsTo names r) ∧
      ((∃ name, c.buildProbes names = .error (.unknownProbe name)) ↔ ∃ name ∈ names, ¬c.Has name) ∧
      ((∃ name source, c.buildProbes names = .error (.invalidCheck name source)) ↔
        (∀ name ∈ names, c.Has name) ∧
          ∃ p ∈ c.selected names, ∃ check ∈ p.checks, ∃ source, check.build = .error source) ∧
      (∀ names', (∀ name, name ∈ names' ↔ name ∈ names) → (∀ name ∈ names, c.Has name) →
        c.buildProbes names' = c.buildProbes names) ∧
      ∀ checks, (c.recheckOthers names checks).buildProbes names = c.buildProbes names := by
  refine ⟨?_, fun r => buildProbes_eq_iff, ?_, ?_, fun names' hsame hknown => ?_, fun checks => ?_⟩
  · refine List.filter_congr fun p _ => ?_
    rw [Bool.eq_iff_iff]
    simp
  · exact exists_unknownProbe_iff
  · exact exists_invalidCheck_iff
  · have hknown' : ∀ name ∈ names', c.Has name := fun name hname => hknown name ((hsame name).mp hname)
    rw [buildProbes_of_known hknown, buildProbes_of_known hknown', selected_congr hsame]
  · exact buildProbes_congr (selected_recheckOthers c names checks)

/-- The settings of a check of a port. -/
def dbPort : TcpSettings := { host := "db", port := ⟨5432, by decide⟩ }

/-- A check of a port. -/
def portCheck : CheckSettings where
  name := "port"
  target := .tcp dbPort

/-- A check of the address at which a machine is told of itself, with private hosts blocked. -/
def metadataCheck : CheckSettings where
  name := "metadata"
  target := .url { url := "http://[fd00:ec2::254]/latest", blockPrivate := true }

/-- A probe of a port. -/
def storage : ProbeSettings where
  name := "storage"
  summary := some "Rows are served"
  checks := [portCheck]

/-- A probe with a check that cannot be built. -/
def web : ProbeSettings where
  name := "web"
  checks := [portCheck, metadataCheck]

/-- The check that cannot be built counts only where its probe is selected and all names are known. -/
theorem selection_decides_metadata :
    buildProbes { probes := [storage, web] } ["web", "cache"] = .error (.unknownProbe "cache") ∧
      buildProbes { probes := [storage, web] } [] = .error (.invalidCheck "web"
        (.refused (.blockedAddress (.v6 0xfd000ec2000000000000000000000254#128)))) ∧
      buildProbes { probes := [storage, web] } ["storage", "storage"] =
        buildProbes { probes := [storage, web] } ["storage"] ∧
      buildProbes { probes := [storage, web] } ["storage"] =
        .ok [⟨"storage", some "Rows are served", false, [.tcp ⟨"port", dbPort⟩]⟩] := by
  have hport : portCheck.build = .ok (.tcp ⟨"port", dbPort⟩) := by
    rfl
  have hmetadata : metadataCheck.build =
      .error (.refused (.blockedAddress (.v6 0xfd000ec2000000000000000000000254#128))) := by
    rfl
  have hstorage : ∀ check ∈ storage.checks, ∃ built, check.build = .ok built :=
    List.forall_mem_singleton.mpr ⟨_, hport⟩
  have hknown : ∀ name ∈ ["storage"], Has { probes := [storage, web] } name :=
    List.forall_mem_singleton.mpr ⟨storage, List.mem_cons_self, rfl⟩
  obtain ⟨-, hunknown, -⟩ := selection_decides { probes := [storage, web] } ["web", "cache"]
  obtain ⟨-, hall, -⟩ := selection_decides { probes := [storage, web] } []
  obtain ⟨-, hone, -, -, hrepeated, -⟩ := selection_decides { probes := [storage, web] } ["storage"]
  refine ⟨(hunknown _).mpr (@BuildsTo.unknown _ _ ["web"] "cache" [] rfl ?_ ?_), (hall _).mpr ?_,
    hrepeated ["storage", "storage"] (by simp) hknown, (hone _).mpr (.built hknown ?_)⟩
  · exact List.forall_mem_singleton.mpr ⟨web, List.mem_cons_of_mem _ List.mem_cons_self, rfl⟩
  · rw [← hasProbe_eq_false_iff]
    decide
  · exact @BuildsTo.invalid _ _ [storage] web [] metadataCheck _ (List.forall_mem_nil _) rfl
      (List.forall_mem_singleton.mpr hstorage)
      ⟨[portCheck], [], rfl, List.forall_mem_singleton.mpr ⟨_, hport⟩, hmetadata⟩
  · exact .cons ⟨rfl, rfl, rfl, .cons hport .nil⟩ .nil

end Config

end Vigil
