import Mathlib
import Vigil.Proofs.Check.Url
import Vigil.Proofs.Guard.Phases

/-!
# Which Checks of URLs Are Built

Two readers look at the URL of a check. The guard cuts the scheme off at the first colon and drops no
more than the blanks in front; the reader of URLs drops controls, spaces, tabs and line ends as well,
and some of them inside the text. They cannot be played off against each other: where the guard sees a
scheme, the text up to the colon holds nothing that the reader would drop, so the reader sees the same
scheme. From this it follows what building a check comes to, in each case.

## Main definitions

* `Guard.HasWebScheme`: the scheme in front of a text is one that a target may have.
* `UrlCheck.Ruling`, `UrlCheck.Decided`: what building a check comes to, and when it comes to what.

## Main results

* `Url.splitScheme?_clean_trimChars`: the scheme that the guard sees is the one that the reader sees.
* `Guard.ofText_trim`: so the reader goes on as for a URL of that scheme.
* `UrlCheck.build_eq_iff`: building a check comes to what is ruled.
* `UrlCheck.scheme_gate_decides`: the readers agree, and decide together.
-/

namespace Vigil

open Vigil.Text Vigil.Url

/-! ### The scheme in front of a text -/

namespace Url

/-- A character of a scheme is visible, and it is not the colon that ends the scheme. -/
theorem isVisible_of_isSchemeChar {c : Char} (h : isSchemeChar c = true) : IsVisible c ∧ c ≠ ':' := by
  have hrange : (65 ≤ c.toNat ∧ c.toNat ≤ 90) ∨ (97 ≤ c.toNat ∧ c.toNat ≤ 122) ∨
      (48 ≤ c.toNat ∧ c.toNat ≤ 57) ∨ c.toNat ∈ [43, 45, 46] := by
    simp only [isSchemeChar, Char.isAlphanum, Char.isAlpha, Char.isUpper, Char.isLower, Char.isDigit,
      Bool.or_eq_true, Bool.and_eq_true, decide_eq_true_eq, beq_iff_eq, UInt32.le_iff_toNat_le,
      ge_iff_le] at h
    rcases h with ((((h | h) | h) | rfl) | rfl) | rfl
    · exact .inl h
    · exact .inr (.inl h)
    · exact .inr (.inr (.inl h))
    all_goals exact .inr (.inr (.inr (by decide)))
  simp only [List.mem_cons, List.not_mem_nil, or_false] at hrange
  refine ⟨⟨by omega, by omega⟩, ?_⟩
  rintro rfl
  have hcolon : ':'.toNat = 58 := rfl
  omega

/-- So is every character of a scheme. -/
theorem isVisible_of_isScheme {name : List Char} (h : isScheme name = true) :
    ∀ c ∈ name, IsVisible c ∧ c ≠ ':' := by
  cases name with
  | nil => cases h
  | cons first name =>
      obtain ⟨hfirst, hrest⟩ := Bool.and_eq_true_iff.mp h
      refine List.forall_mem_cons.mpr ⟨isVisible_of_isSchemeChar ?_, fun c hc => ?_⟩
      · simp [isSchemeChar, Char.isAlphanum, hfirst]
      · exact isVisible_of_isSchemeChar (List.all_eq_true.mp hrest c hc)

/-- A text is cut after its scheme. -/
theorem splitScheme?_eq_some_iff {cs name rest : List Char} :
    splitScheme? cs = some (name, rest) ↔ cs = name ++ ':' :: rest ∧ isScheme name = true := by
  rw [splitScheme?]
  constructor
  · intro h
    split at h
    next name' rest' hsplit =>
      split at h
      next hscheme =>
        cases h
        exact ⟨(splitOnce_eq_some_iff.mp hsplit).1, hscheme⟩
      next => cases h
    next => cases h
  · rintro ⟨rfl, hscheme⟩
    rw [splitOnce_append fun hcolon => (isVisible_of_isScheme hscheme _ hcolon).2 rfl]
    exact if_pos hscheme

/-- **The scheme that the guard sees is the one that the reader sees**: nothing is dropped of it. -/
theorem splitScheme?_clean_trimChars {cs name rest : List Char}
    (h : splitScheme? (dropBlanks cs) = some (name, rest)) :
    ∃ rest', splitScheme? (clean (trimChars cs)) = some (name, rest') := by
  obtain ⟨hchars, hscheme⟩ := splitScheme?_eq_some_iff.mp h
  have hvisible : ∀ c ∈ name ++ [':'], IsVisible c := by
    intro c hc
    rcases List.mem_append.mp hc with hc | hc
    · exact (isVisible_of_isScheme hscheme c hc).1
    · exact List.mem_singleton.mp hc ▸ by decide
  have hne : name ++ [':'] ≠ [] := by
    simp
  have htrim : trimChars cs = trimChars (name ++ [':'] ++ rest) := by
    have hblanks : dropBlanks (dropBlanks cs) = dropBlanks cs :=
      dropBlanks_eq_self fun c hc => head?_dropBlanks hc
    rw [List.append_assoc, List.singleton_append, ← hchars, trimChars, trimChars, hblanks]
  obtain ⟨trimmed, htrimmed, -⟩ := trimChars_append hne hvisible rest
  obtain ⟨cleaned, hcleaned, -⟩ := clean_append hne hvisible trimmed
  refine ⟨cleaned, splitScheme?_eq_some_iff.mpr ⟨?_, hscheme⟩⟩
  rw [htrim, htrimmed, hcleaned, List.append_assoc, List.singleton_append]

/-- A URL has the scheme that it is read for. -/
theorem readAfterSlashes_scheme {scheme : Scheme} {cs : List Char} {u : Url}
    (h : readAfterSlashes scheme cs = .ok u) : u.scheme = scheme := by
  obtain ⟨authority, -, h⟩ := exists_of_bind_eq_ok h
  cases h
  rfl

/-- The host of a URL that was read is written with one character at least. -/
theorem Host.WellFormed.text_ne_empty {h : Host} (hwf : h.WellFormed) : h.text ≠ "" := by
  have hchars : h.chars ≠ [] := by
    cases h with
    | domain name => exact hwf.1
    | v4 a => exact dotted_ne_nil a
    | v6 a => exact List.cons_ne_nil _ _
  intro hempty
  exact hchars (by simpa [Host.text] using hempty)

end Url

namespace Guard

/-- The scheme in front of a text is one that a target may have, in any case. -/
def HasWebScheme (s : String) : Prop :=
  lower (schemeOf s) = "http" ∨ lower (schemeOf s) = "https"

instance (s : String) : Decidable (HasWebScheme s) := inferInstanceAs (Decidable (_ ∨ _))

/-- That is what the guard asks for. -/
theorem hasWebScheme_iff {s : String} :
    HasWebScheme s ↔ ∃ scheme, Scheme.ofText? (lower (schemeOf s)) = some scheme := by
  rw [HasWebScheme, Scheme.ofText?]
  by_cases hhttp : lower (schemeOf s) = "http"
  · simp [hhttp]
  · by_cases hhttps : lower (schemeOf s) = "https" <;> simp [hhttp, hhttps]

/-- A text without such a scheme is refused for what it has in front. -/
theorem checkUrl_of_not_hasWebScheme {s : String} (h : ¬HasWebScheme s) (blockPrivate : Bool) :
    checkUrl s blockPrivate = .error (.disallowedScheme (lower (schemeOf s))) := by
  have hnone : Scheme.ofText? (lower (schemeOf s)) = none := by
    refine Option.eq_none_iff_forall_ne_some.mpr fun scheme hscheme => ?_
    exact h (hasWebScheme_iff.mpr ⟨scheme, hscheme⟩)
  rw [checkUrl, hnone]

/-- Of any other the host is looked at, if private hosts are blocked and there is one. -/
theorem checkUrl_of_hasWebScheme {s : String} (h : HasWebScheme s) (blockPrivate : Bool) :
    checkUrl s blockPrivate =
      if blockPrivate then
        match Url.ofText (trim s) with
        | .error _ => .ok ()
        | .ok url => checkLiteralHost url.host.text
      else .ok () := by
  obtain ⟨scheme, hscheme⟩ := hasWebScheme_iff.mp h
  cases hread : Url.ofText (trim s) with
  | error e => simp [checkUrl, hscheme, hread]
  | ok url => simp [checkUrl, hscheme, hread]

/-- **Where the guard sees a scheme, the reader goes on as for a URL of that scheme.** -/
theorem ofText_trim {s : String} {scheme : Scheme}
    (h : Scheme.ofText? (lower (schemeOf s)) = some scheme) :
    ∃ rest, Url.ofText (trim s) = readAfterSlashes scheme rest := by
  rw [schemeOf] at h
  split at h
  next name rest hsplit =>
    obtain ⟨rest', hread⟩ := splitScheme?_clean_trimChars hsplit
    rw [lower, String.toList_ofList] at h
    refine ⟨rest'.dropWhile isSlash, ?_⟩
    rw [Url.ofText, Url.ofChars, trim, String.toList_ofList, hread]
    dsimp only
    rw [webScheme?, h]
  next => cases h

/-- **The guard and the reader never disagree** about a text that has a scheme for the guard and is a
URL for the reader: it is a URL of that scheme, and it has a host. -/
theorem agrees_of_hasWebScheme {s : String} {url : Url} (h : HasWebScheme s)
    (hread : Url.ofText (trim s) = .ok url) :
    url.scheme.text = lower (schemeOf s) ∧ url.host.text ≠ "" := by
  obtain ⟨scheme, hscheme⟩ := hasWebScheme_iff.mp h
  obtain ⟨rest, hrest⟩ := ofText_trim hscheme
  refine ⟨?_, (ofText_wellFormed hread).host.text_ne_empty⟩
  rw [readAfterSlashes_scheme (hrest.symm.trans hread)]
  exact (Scheme.ofText?_eq_some_iff.mp hscheme).symm

end Guard

/-! ### Building a check -/

namespace UrlCheck

open Vigil.Guard

variable {name : String} {settings : UrlSettings}

/-- What building a check comes to: the scheme is looked at first, then whether the text is a URL,
and last, with private hosts blocked, what the host in it says against itself. -/
inductive Ruling (name : String) (settings : UrlSettings) : Except Fault UrlCheck → Prop
  | disallowed (hscheme : ¬HasWebScheme settings.url) :
      Ruling name settings (.error (.refused (.disallowedScheme (lower (schemeOf settings.url)))))
  | invalid {e : ParseError} (hscheme : HasWebScheme settings.url)
      (hread : Url.ofText (trim settings.url) = .error e) :
      Ruling name settings
        (.error (.invalidInput ("invalid URL " ++ quoted settings.url ++ ": " ++ e.message)))
  | objected {url : Url} {reason : Refusal} (hscheme : HasWebScheme settings.url)
      (hread : Url.ofText (trim settings.url) = .ok url) (hblock : settings.blockPrivate = true)
      (hobjection : Objection url.host.text reason) : Ruling name settings (.error (.refused reason))
  | accepted {url : Url} (hscheme : HasWebScheme settings.url)
      (hread : Url.ofText (trim settings.url) = .ok url)
      (hpass : settings.blockPrivate = true → checkLiteralHost url.host.text = .ok ()) :
      Ruling name settings (.ok ⟨name, settings, url⟩)

/-- Some result is ruled. -/
theorem exists_ruling (name : String) (settings : UrlSettings) : ∃ r, Ruling name settings r := by
  by_cases hscheme : HasWebScheme settings.url
  · cases hread : Url.ofText (trim settings.url) with
    | error e => exact ⟨_, .invalid hscheme hread⟩
    | ok url =>
        by_cases hblock : settings.blockPrivate = true
        · cases hhost : checkLiteralHost url.host.text with
          | error reason =>
              exact ⟨_, .objected hscheme hread hblock (checkLiteralHost_eq_error_iff.mp hhost)⟩
          | ok => exact ⟨_, .accepted hscheme hread fun _ => hhost⟩
        · exact ⟨_, .accepted hscheme hread fun h => absurd h hblock⟩
  · exact ⟨_, .disallowed hscheme⟩

/-- What is ruled is what building a check comes to. -/
theorem Ruling.build_eq {r : Except Fault UrlCheck} (h : Ruling name settings r) :
    build name settings = r := by
  cases h with
  | disallowed hscheme => rw [build, checkUrl_of_not_hasWebScheme hscheme]
  | invalid hscheme hread =>
      have hpassed : checkUrl settings.url settings.blockPrivate = .ok () := by
        rw [checkUrl_of_hasWebScheme hscheme, hread]
        exact ite_self _
      rw [build, hpassed]
      dsimp only
      rw [hread]
  | objected hscheme hread hblock hobjection =>
      rw [build, checkUrl_of_hasWebScheme hscheme, if_pos hblock, hread]
      dsimp only
      rw [checkLiteralHost_eq_error_iff.mpr hobjection]
  | accepted hscheme hread hpass =>
      have hpassed : checkUrl settings.url settings.blockPrivate = .ok () := by
        rw [checkUrl_of_hasWebScheme hscheme, hread]
        split
        next hblock => exact hpass hblock
        next => rfl
      rw [build, hpassed]
      dsimp only
      rw [hread]

/-- **Building a check comes to a result exactly if that is ruled.** -/
theorem build_eq_iff {r : Except Fault UrlCheck} :
    build name settings = r ↔ Ruling name settings r := by
  constructor
  · rintro rfl
    obtain ⟨r, hruled⟩ := exists_ruling name settings
    exact hruled.build_eq ▸ hruled
  · exact Ruling.build_eq

/-- What is said against the scheme or the text of a URL is said whatever is blocked. -/
theorem Ruling.withGuard {fault : Fault}
    (h : Ruling name { settings with blockPrivate := false } (.error fault)) :
    Ruling name { settings with blockPrivate := true } (.error fault) := by
  cases h with
  | disallowed hscheme => exact @Ruling.disallowed name { settings with blockPrivate := true } hscheme
  | invalid hscheme hread =>
      exact @Ruling.invalid name { settings with blockPrivate := true } _ hscheme hread
  | objected _ _ hblock => cases hblock

/-- What building a check with some settings comes to, told by its results. -/
structure Decided (name : String) (settings : UrlSettings) : Prop where
  /-- A check is built exactly if its URL has a scheme that a target may have and is one, and, with
  private hosts blocked, the host in it passes. -/
  accepted : (∃ c, build name settings = .ok c) ↔
    HasWebScheme settings.url ∧ ∃ url, Url.ofText (trim settings.url) = .ok url ∧
      (settings.blockPrivate = true → checkLiteralHost url.host.text = .ok ())
  /-- The scheme is objected to exactly if it is another one, whatever is blocked. -/
  disallowed : ∀ scheme, build name settings = .error (.refused (.disallowedScheme scheme)) ↔
    ¬HasWebScheme settings.url ∧ scheme = lower (schemeOf settings.url)
  /-- The host is objected to exactly if private hosts are blocked, the text has such a scheme and is
  a URL, and the host in it is a localhost name or a reserved address. -/
  objected : ∀ reason, (∀ scheme, reason ≠ .disallowedScheme scheme) →
    (build name settings = .error (.refused reason) ↔
      settings.blockPrivate = true ∧ HasWebScheme settings.url ∧
        ∃ url, Url.ofText (trim settings.url) = .ok url ∧ Objection url.host.text reason)
  /-- The input is found invalid exactly if it has such a scheme and is no URL. -/
  invalid : (∃ message, build name settings = .error (.invalidInput message)) ↔
    HasWebScheme settings.url ∧ ∃ e, Url.ofText (trim settings.url) = .error e
  /-- Nothing else is said. -/
  only : ∀ fault, build name settings = .error fault →
    (∃ reason, fault = .refused reason) ∨ ∃ message, fault = .invalidInput message
  /-- Blocking private hosts changes nothing about settings that are refused without it. -/
  blocked : ∀ fault, build name { settings with blockPrivate := false } = .error fault →
    build name { settings with blockPrivate := true } = .error fault

/-- No host says that its scheme is disallowed. -/
theorem ne_disallowedScheme_of_objection {host : String} {reason : Refusal}
    (h : Objection host reason) (scheme : String) : reason ≠ .disallowedScheme scheme := by
  cases h <;> exact nofun

/-- The ruling told by its results. -/
theorem decided (name : String) (settings : UrlSettings) : Decided name settings := by
  constructor <;> simp only [build_eq_iff]
  case accepted =>
    constructor
    · rintro ⟨c, h⟩
      cases h with
      | accepted hscheme hread hpass => exact ⟨hscheme, _, hread, hpass⟩
    · rintro ⟨hscheme, url, hread, hpass⟩
      exact ⟨_, .accepted hscheme hread hpass⟩
  case disallowed =>
    intro scheme
    constructor
    · intro h
      cases h with
      | disallowed hscheme => exact ⟨hscheme, rfl⟩
      | objected _ _ _ hobjection => exact absurd rfl (ne_disallowedScheme_of_objection hobjection scheme)
    · rintro ⟨hscheme, rfl⟩
      exact .disallowed hscheme
  case objected =>
    intro reason hother
    constructor
    · intro h
      cases h with
      | disallowed => exact absurd rfl (hother _)
      | objected hscheme hread hblock hobjection => exact ⟨hblock, hscheme, _, hread, hobjection⟩
    · rintro ⟨hblock, hscheme, url, hread, hobjection⟩
      exact .objected hscheme hread hblock hobjection
  case invalid =>
    constructor
    · rintro ⟨message, h⟩
      cases h with
      | invalid hscheme hread => exact ⟨hscheme, _, hread⟩
    · rintro ⟨hscheme, e, hread⟩
      exact ⟨_, .invalid hscheme hread⟩
  case only =>
    intro fault h
    cases h with
    | disallowed | objected => exact .inl ⟨_, rfl⟩
    | invalid => exact .inr ⟨_, rfl⟩
  case blocked => exact fun fault => Ruling.withGuard

/-- **The guard and the reader agree, and decide together which checks are built.** A text with a
scheme for the guard that is a URL for the reader is a URL of that scheme, with a host. So a check is
built exactly if both let its URL pass, and the host in it as well, where private hosts are blocked;
and what is said otherwise tells which of them did not. -/
theorem scheme_gate_decides :
    (∀ s url, HasWebScheme s → Url.ofText (trim s) = .ok url →
      url.scheme.text = lower (schemeOf s) ∧ url.host.text ≠ "") ∧
      ∀ name settings, Decided name settings :=
  ⟨fun _ _ => agrees_of_hasWebScheme, decided⟩

/-- A URL with a tab after its colon and the scheme in capitals after a blank that the reader alone
would not drop, written for an address of the machine itself: both readers see the scheme, and
blocking private hosts makes the difference. -/
theorem scheme_gate_decides_tab :
    HasWebScheme "\u00a0HtTpS:\t\\[::1]" ∧
      Url.ofText (trim "\u00a0HtTpS:\t\\[::1]") =
        .ok ⟨.https, "", none, .v6 1#128, none, [""], none, none⟩ ∧
      lower (schemeOf "\u00a0HtTpS:\t\\[::1]") = "https" ∧
      (∃ c, build "tab" { url := "\u00a0HtTpS:\t\\[::1]" } = .ok c) ∧
      build "tab" { url := "\u00a0HtTpS:\t\\[::1]", blockPrivate := true } =
        .error (.refused (.blockedAddress (.v6 1#128))) := by
  obtain ⟨hagree, hdecided⟩ := scheme_gate_decides
  have hscheme : HasWebScheme "\u00a0HtTpS:\t\\[::1]" := by
    decide +kernel
  have hread : Url.ofText (trim "\u00a0HtTpS:\t\\[::1]") =
      .ok ⟨.https, "", none, .v6 1#128, none, [""], none, none⟩ := by
    rfl
  have hobjection : Objection (Host.v6 1#128).text (.blockedAddress (.v6 1#128)) :=
    .address (by decide +kernel) (by decide +kernel)
  refine ⟨hscheme, hread, (hagree _ _ hscheme hread).1.symm, ?_, ?_⟩
  · exact (hdecided "tab" _).accepted.mpr ⟨hscheme, _, hread, nofun⟩
  · exact ((hdecided "tab" _).objected _ (ne_disallowedScheme_of_objection hobjection)).mpr
      ⟨rfl, hscheme, _, hread, hobjection⟩

end UrlCheck

end Vigil
