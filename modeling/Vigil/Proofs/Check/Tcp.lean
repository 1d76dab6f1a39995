import Vigil.Check.Tcp
import Vigil.Proofs.Guard.Phases

/-!
# The Host of a Check of a Port

A guarded check of a port looks at its host when it is built and again before every connection. The
second time the host has already lost the blanks around it and a pair of brackets, and loses them
once more. So the two do not always see the same. They do unless, in the brackets that were taken
off, there stands again something to take off (`IsNested`): then a host that was let through as no
address may turn out to be one, or to be a localhost name. Of all other hosts that were let through,
nothing but the answer to a lookup speaks against one.

## Main definitions

* `Guard.IsNested`: a host in brackets, with blanks or brackets at the ends of what stands in them.

## Main results

* `Guard.normalize_normalize_iff`: which hosts change when they are normalized twice.
* `TcpCheck.verdict_iff`: what a check is refused for when it runs.
* `TcpCheck.refused_again`: what that comes to, for nested hosts and for others.
-/

namespace Vigil

open Vigil.Text

namespace Guard

/-! ### Normalizing twice -/

/-- Taking off brackets leaves a part of a text. -/
theorem unbracket_isInfix (cs : List Char) : unbracket cs <:+: cs := by
  by_cases h : ∃ inner, InBrackets cs inner
  · obtain ⟨inner, rfl⟩ := h
    rw [unbracket_brackets]
    exact ⟨['['], [']'], rfl⟩
  · have hkeep := unbracket_eq_self fun inner hinner => h ⟨inner, hinner⟩
    exact ⟨[], [], by simpa using hkeep⟩

/-- There is only one text in the brackets. -/
theorem InBrackets.unique {cs inner other : List Char} (h : InBrackets cs inner)
    (hother : InBrackets cs other) : other = inner := by
  rw [InBrackets] at h hother
  rw [h] at hother
  simpa using hother.symm

/-- A text loses nothing exactly if it has neither blanks nor a pair of brackets at its ends. -/
theorem unbracket_trimChars_eq_self_iff {cs : List Char} :
    unbracket (trimChars cs) = cs ↔ Trimmed cs ∧ ∀ inner, ¬InBrackets cs inner := by
  constructor
  · intro h
    -- what is left is as long as the text, so neither step has taken anything off
    have hlength : (trimChars cs).length = cs.length := by
      have hle := (unbracket_isInfix (trimChars cs)).length_le
      rw [h] at hle
      exact Nat.le_antisymm (trimChars_isInfix cs).length_le hle
    have htrim : trimChars cs = cs := (trimChars_isInfix cs).eq_of_length hlength
    refine ⟨trimChars_eq_self_iff.mp htrim, ?_⟩
    rintro inner rfl
    rw [htrim, unbracket_brackets] at h
    have hshorter := congrArg List.length h
    simp only [List.length_append, List.length_singleton] at hshorter
    omega
  · rintro ⟨htrimmed, hplain⟩
    rw [trimChars_eq_self_iff.mpr htrimmed, unbracket_eq_self hplain]

/-- A host in brackets, with something to take off again in them: blanks at an end, or brackets. -/
def IsNested (host : String) : Prop :=
  ∃ inner, InBrackets (trimChars host.toList) inner ∧
    (¬Trimmed inner ∨ ∃ core, InBrackets inner core)

/-- **A host changes when it is normalized again exactly if it is nested.** -/
theorem normalize_normalize_iff {host : String} :
    normalize (normalize host) = normalize host ↔ ¬IsNested host := by
  have htwice : normalize (normalize host) = normalize host ↔
      unbracket (trimChars (unbracket (trimChars host.toList))) =
        unbracket (trimChars host.toList) := by
    rw [normalize, normalize, String.toList_ofList]
    exact String.ofList_inj
  rw [htwice, unbracket_trimChars_eq_self_iff]
  by_cases hbrackets : ∃ inner, InBrackets (trimChars host.toList) inner
  · obtain ⟨inner, hinner⟩ := hbrackets
    have hoff : unbracket (trimChars host.toList) = inner := by
      rw [hinner, unbracket_brackets]
    rw [hoff]
    constructor
    · rintro ⟨htrimmed, hplain⟩ ⟨other, hother, hagain⟩
      obtain rfl := hinner.unique hother
      rcases hagain with huntrimmed | ⟨core, hcore⟩
      · exact huntrimmed htrimmed
      · exact hplain core hcore
    · intro hnested
      constructor
      · exact Classical.byContradiction fun h => hnested ⟨inner, hinner, .inl h⟩
      · exact fun core hcore => hnested ⟨inner, hinner, .inr ⟨core, hcore⟩⟩
  · have hplain : ∀ inner, ¬InBrackets (trimChars host.toList) inner := fun inner hinner =>
      hbrackets ⟨inner, hinner⟩
    rw [unbracket_eq_self hplain]
    refine iff_of_true ⟨trimmed_trim _, hplain⟩ ?_
    rintro ⟨inner, hinner, -⟩
    exact hplain inner hinner

/-- What speaks against a host is a matter of what is left of it. -/
theorem Objection.of_normalize_eq {host other : String} {reason : Refusal}
    (h : Objection host reason) (heq : normalize other = normalize host) :
    Objection other reason := by
  cases h with
  | localhost hlocal =>
      rw [← heq] at hlocal ⊢
      exact .localhost hlocal
  | address ha hreserved => exact .address (heq ▸ ha) hreserved

end Guard

namespace TcpCheck

open Vigil.Guard

variable {name : String} {settings : TcpSettings} {c : TcpCheck}

/-- A guarded check is built only of a host against which its text says nothing. -/
theorem settings_of_build (h : build name settings = .ok c) :
    c = ⟨name, settings⟩ ∧
      (settings.blockPrivate = true → ∀ reason, ¬Objection settings.host reason) := by
  rw [build] at h
  split at h
  · cases h
  · split at h
    · split at h
      · cases h
      next hpassed =>
        refine ⟨(Except.ok.inj h).symm, fun _ reason hobjection => ?_⟩
        rw [checkLiteralHost_eq_error_iff.mpr hobjection] at hpassed
        cases hpassed
    next hopen => exact ⟨(Except.ok.inj h).symm, fun hguarded => absurd hguarded hopen⟩

/-- An answer speaks against a name for a reserved address, the first of those in it. -/
def AnsweredAgainst (host : String) (answer : Lookup) (reason : Refusal) : Prop :=
  ∃ before a after, answer = some (before ++ a :: after) ∧
    (∀ b ∈ before, b.isReserved = false) ∧ a.isReserved = true ∧
    reason = .resolvesToBlocked (normalize host) a

/-- **What a guarded check is refused for when it runs**: for what the text of the host says that it
connects to, which is the host without blanks and brackets, or for the answer to the lookup of it. -/
theorem verdict_iff (hguarded : c.settings.blockPrivate = true) (resolver : Resolver)
    (reason : Refusal) :
    (c.validate resolver).verdict = .error reason ↔
      Objection c.connectHost reason ∨
        (IsName c.connectHost ∧ AnsweredAgainst c.connectHost (resolver.answer 0) reason) := by
  rw [validate, if_pos hguarded, checkHost_eq]
  by_cases hname : IsName c.connectHost
  · have hnone : ¬Objection c.connectHost reason := by
      intro hobjection
      have hpassed := hname.checkLiteralHost_eq
      rw [checkLiteralHost_eq_error_iff.mpr hobjection] at hpassed
      cases hpassed
    rw [if_pos hname]
    simp only [hnone, false_or, hname, true_and]
    exact judge_eq_error_iff
  · rw [if_neg hname]
    simp only [hname, false_and, or_false]
    exact checkLiteralHost_eq_error_iff

/-- An execution ends in a fault exactly if the host is refused, whatever dialling would come to. -/
theorem run_eq_error_iff {resolver : Resolver} {dial : Dial} {chain : List String} :
    (c.run resolver dial).conclusion = .error chain ↔
      ∃ reason, (c.validate resolver).verdict = .error reason ∧ chain = [reason.message] := by
  rw [run]
  cases hverdict : (c.validate resolver).verdict with
  | ok =>
      constructor
      · intro h
        cases h
      · rintro ⟨_, h, -⟩
        cases h
  | error reason =>
      constructor
      · intro h
        exact ⟨reason, rfl, (Except.error.inj h).symm⟩
      · rintro ⟨_, h, rfl⟩
        rw [Except.error.inj h]

/-- **What a guarded check that was built is refused for when it runs.** It ends in a fault exactly
if its host is refused. That is for the answer to the lookup of the host, or, if the host is nested,
for what there is in its inner brackets: a localhost name or a reserved address. Of a host that is
not nested both phases see the same, and nothing but the answer to the lookup speaks against it. -/
theorem refused_again (hbuild : build name settings = .ok c) (hguarded : settings.blockPrivate = true)
    (resolver : Resolver) (dial : Dial) :
    (∀ chain, (c.run resolver dial).conclusion = .error chain ↔
      ∃ reason, (c.validate resolver).verdict = .error reason ∧ chain = [reason.message]) ∧
      (∀ reason, (c.validate resolver).verdict = .error reason ↔
        (IsNested settings.host ∧ Objection c.connectHost reason) ∨
          (IsName c.connectHost ∧ AnsweredAgainst c.connectHost (resolver.answer 0) reason)) ∧
      (¬IsNested settings.host →
        normalize c.connectHost = normalize settings.host ∧
          ∀ reason, (c.validate resolver).verdict = .error reason →
            ∃ a, a.isReserved = true ∧ reason = .resolvesToBlocked (normalize settings.host) a) := by
  obtain ⟨rfl, hpassed⟩ := settings_of_build hbuild
  have hverdict := verdict_iff (c := ⟨name, settings⟩) hguarded resolver
  have hsame (hnested : ¬IsNested settings.host) :
      normalize (connectHost ⟨name, settings⟩) = normalize settings.host :=
    normalize_normalize_iff.mpr hnested
  have hobjects {reason : Refusal} (h : Objection (connectHost ⟨name, settings⟩) reason) :
      IsNested settings.host := by
    refine Classical.byContradiction fun hnested => ?_
    exact hpassed hguarded reason (h.of_normalize_eq (hsame hnested).symm)
  refine ⟨fun chain => run_eq_error_iff, ?_, ?_⟩
  · intro reason
    rw [hverdict]
    exact or_congr_left (iff_and_self.mpr hobjects)
  · intro hnested
    refine ⟨hsame hnested, fun reason h => ?_⟩
    rcases (hverdict reason).mp h with hobjection | ⟨-, _, a, _, -, -, ha, rfl⟩
    · exact absurd (hobjects hobjection) hnested
    · exact ⟨a, ha, by rw [hsame hnested]⟩

/-- The settings of a guarded check of a port of that host. -/
def guardedSettings (host : String) : TcpSettings :=
  { host, port := ⟨80, by decide⟩, blockPrivate := true }

/-- A name in brackets that resolves to a reserved address is refused, for that alone. -/
theorem refused_again_name :
    build "db" (guardedSettings " [db.test]") = .ok ⟨"db", guardedSettings " [db.test]"⟩ ∧
      (guardedSettings " [db.test]").blockPrivate = true ∧ ¬IsNested " [db.test]" ∧
      (run ⟨"db", guardedSettings " [db.test]"⟩ ⟨[some [.v4 0x0A000005#32]]⟩ ⟨some 0, none⟩).conclusion =
        .error [(Refusal.resolvesToBlocked "db.test" (.v4 0x0A000005#32)).message] := by
  have hbuild : build "db" (guardedSettings " [db.test]") =
      .ok ⟨"db", guardedSettings " [db.test]"⟩ := rfl
  have hnested : ¬IsNested " [db.test]" := normalize_normalize_iff.mp (by decide +kernel)
  obtain ⟨hfault, hverdict, -⟩ :=
    refused_again hbuild rfl ⟨[some [.v4 0x0A000005#32]]⟩ ⟨some 0, none⟩
  refine ⟨hbuild, rfl, hnested, (hfault _).mpr ⟨_, (hverdict _).mpr (.inr ⟨?_, ?_⟩), rfl⟩⟩
  · decide +kernel
  · exact ⟨[], .v4 0x0A000005#32, [], rfl, nofun, by decide +kernel, rfl⟩

/-- The phases disagree on nested hosts: one with the loopback address in its inner brackets and one
with a localhost name between blanks are let through when the check is built, and are refused when it
runs for being what they are. -/
theorem phases_disagree :
    (build "t" (guardedSettings "[[127.0.0.1]]") = .ok ⟨"t", guardedSettings "[[127.0.0.1]]"⟩ ∧
      (run ⟨"t", guardedSettings "[[127.0.0.1]]"⟩ ⟨[]⟩ ⟨some 0, none⟩).conclusion =
        .error [(Refusal.blockedAddress (.v4 0x7F000001#32)).message]) ∧
      build "t" (guardedSettings "[ localhost ]") = .ok ⟨"t", guardedSettings "[ localhost ]"⟩ ∧
      (run ⟨"t", guardedSettings "[ localhost ]"⟩ ⟨[]⟩ ⟨some 0, none⟩).conclusion =
        .error [(Refusal.localhost "localhost").message] :=
  ⟨⟨rfl, rfl⟩, rfl, rfl⟩

end TcpCheck

end Vigil
