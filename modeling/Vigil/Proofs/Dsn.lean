import Vigil.Proofs.Check.Admission

/-!
# Connection Strings at Two Gates

A connection string passes a gate of its own before a check is built of it: blanks around it are dropped,
and its scheme has to be allowed, or the base of its scheme. Then the check is built as of any URL, where
the scheme has to be one that a target may have. Dropping the blanks is not seen by the second gate
(`Guard.schemeOf_trim`), and whatever it lets pass the first one has let pass, so the first takes nothing
away; what the first lets pass on its base alone the second refuses.

## Main definitions

* `Url.OpensWith`: a text opens with a scheme.
* `Dsn.Admits`: the schemes with which a connection string may open.

## Main results

* `Guard.schemeOf_trim`: the scheme of a text does not depend on the blanks around it.
* `Dsn.validate_eq_ok_iff`: which connection strings pass, and as what.
* `UrlCheck.connection_strings_admitted`: of which of them checks are built.
-/

namespace Vigil

open Vigil.Text Vigil.Url

/-! ### The scheme that a text opens with -/

namespace Url

/-- A text opens with a scheme if the scheme and a colon stand at its beginning. -/
def OpensWith (scheme cs : List Char) : Prop :=
  isScheme scheme = true ∧ ∃ rest, cs = scheme ++ ':' :: rest

variable {scheme cs : List Char}

theorem opensWith_iff : OpensWith scheme cs ↔ ∃ rest, splitScheme? cs = some (scheme, rest) := by
  simp only [OpensWith, splitScheme?_eq_some_iff, exists_and_right, and_comm]

theorem OpensWith.ne_nil (h : OpensWith scheme cs) : scheme ≠ [] := by
  rintro rfl
  cases h.1

/-- Blanks at the end of a text stand behind its scheme. -/
theorem opensWith_trimChars_iff : OpensWith scheme (trimChars cs) ↔ OpensWith scheme (dropBlanks cs) := by
  refine and_congr_right fun hscheme => ⟨?_, ?_⟩
  · rintro ⟨rest, htrim⟩
    obtain ⟨blanks, hblanks⟩ := trimChars_isPrefix cs
    exact ⟨rest ++ blanks, by rw [← hblanks, htrim, List.append_assoc, List.cons_append]⟩
  · rintro ⟨rest, hchars⟩
    obtain ⟨rest', hclean⟩ : ∃ rest', trimChars (scheme ++ [':'] ++ rest) = scheme ++ [':'] ++ rest' := by
      refine (trimChars_append (by simp) (fun c hc => ?_) rest).imp fun _ => And.left
      rcases List.mem_append.mp hc with hc | hc
      · exact (isVisible_of_isScheme hscheme c hc).1
      · exact List.mem_singleton.mp hc ▸ by decide
    have hblanks : trimChars (dropBlanks cs) = trimChars cs := by
      have hagain : dropBlanks (dropBlanks cs) = dropBlanks cs :=
        dropBlanks_eq_self fun c hc => head?_dropBlanks hc
      rw [trimChars, trimChars, hagain]
    refine ⟨rest', ?_⟩
    rw [← hblanks, hchars, List.append_cons, hclean, List.append_assoc, List.singleton_append]

end Url

namespace Guard

/-- The scheme that is found is the one that the text without blanks opens with. -/
theorem schemeOf_of_opensWith {s : String} {scheme : List Char}
    (h : OpensWith scheme (trimChars s.toList)) : schemeOf s = String.ofList scheme := by
  obtain ⟨rest, hsplit⟩ := opensWith_iff.mp (opensWith_trimChars_iff.mp h)
  rw [schemeOf, hsplit]

/-- Where some scheme is found the text without blanks opens with it. -/
theorem opensWith_of_schemeOf {s : String} (h : schemeOf s ≠ "") :
    ∃ scheme, OpensWith scheme (trimChars s.toList) := by
  rw [schemeOf] at h
  split at h
  next scheme rest hsplit => exact ⟨scheme, opensWith_trimChars_iff.mpr (opensWith_iff.mpr ⟨rest, hsplit⟩)⟩
  next => exact absurd rfl h

/-- **Dropping blanks around a text makes no difference to its scheme.** -/
theorem schemeOf_trim (s : String) : schemeOf (trim s) = schemeOf s := by
  have htrim : trimChars (trim s).toList = trimChars s.toList := by
    rw [trim, String.toList_ofList, trimChars_eq_self_iff.mpr (trimmed_trim _)]
  by_cases hnone : schemeOf s = ""
  · by_contra hne
    obtain ⟨scheme, hopens⟩ := opensWith_of_schemeOf (s := trim s) (hnone ▸ hne)
    refine hne ?_
    rw [schemeOf_of_opensWith hopens, schemeOf_of_opensWith (htrim ▸ hopens)]
  · obtain ⟨scheme, hopens⟩ := opensWith_of_schemeOf hnone
    rw [schemeOf_of_opensWith hopens, schemeOf_of_opensWith (htrim.symm ▸ hopens)]

/-- So it makes none to whether a target may have it. -/
theorem hasWebScheme_trim {s : String} : HasWebScheme (trim s) ↔ HasWebScheme s := by
  rw [HasWebScheme, HasWebScheme, schemeOf_trim]

end Guard

/-! ### The gate of connection strings -/

namespace Dsn

open Vigil.Guard

variable {dsn r : String} {allowed : List String}

/-- A connection string opens with a scheme that is one of the allowed ones in any case, or whose base
is. -/
def Admits (allowed : List String) (dsn : String) : Prop :=
  ∃ scheme, OpensWith scheme (trimChars dsn.toList) ∧
    ∃ a ∈ allowed, lower a = lower (String.ofList scheme) ∨
      lower a = lower (baseScheme (String.ofList scheme))

/-- No letter is a plus in lower case. -/
theorem toLower_eq_plus_iff {c : Char} : c.toLower = '+' ↔ c = '+' := by
  rw [Char.toLower]
  split
  next h =>
    refine iff_of_false (fun heq => ?_) ?_
    · have hcode : (c.toNat + 32) % 4294967296 = 43 := by
        simpa using congrArg Char.toNat heq
      have hrange : 65 ≤ c.toNat ∧ c.toNat ≤ 90 := by
        simpa [UInt32.le_iff_toNat_le] using h
      omega
    · rintro rfl
      exact absurd h (by decide)
  next => rfl

/-- The base of a scheme is found in any case. -/
theorem baseScheme_lower (s : String) : baseScheme (lower s) = lower (baseScheme s) := by
  have hplus : ((fun c => decide (c ≠ '+')) ∘ Char.toLower) = fun c : Char => decide (c ≠ '+') := by
    funext c
    simp [toLower_eq_plus_iff]
  rw [baseScheme, baseScheme, lower, lower, String.toList_ofList, String.toList_ofList,
    List.takeWhile_map, hplus]

theorem isAllowed_lower_iff {scheme : String} :
    isAllowed allowed (lower scheme) = true ↔
      ∃ a ∈ allowed, lower a = lower scheme ∨ lower a = lower (baseScheme scheme) := by
  simp [isAllowed, baseScheme_lower]

/-- **A connection string passes exactly if it opens with an allowed scheme**, and without the blanks around
it. -/
theorem validate_eq_ok_iff :
    validate dsn allowed = .ok r ↔ r = trim dsn ∧ allowed ≠ [] ∧ Admits allowed dsn := by
  rw [validate]
  simp only [schemeOf_trim]
  constructor
  · intro h
    split at h
    next => cases h
    next =>
      split at h
      next => cases h
      next hallowed =>
        split at h
        next => cases h
        next hscheme =>
          cases h
          simp only [Bool.or_eq_true, not_or, Bool.not_eq_true, Bool.not_eq_false'] at hscheme
          obtain ⟨hne, hsome⟩ := hscheme
          obtain ⟨scheme, hopens⟩ : ∃ scheme, OpensWith scheme (trimChars dsn.toList) := by
            refine opensWith_of_schemeOf fun hnone => ?_
            rw [hnone] at hne
            cases hne
          rw [schemeOf_of_opensWith hopens, isAllowed_lower_iff] at hsome
          exact ⟨rfl, by simpa using hallowed, scheme, hopens, hsome⟩
  · rintro ⟨rfl, hallowed, scheme, hopens, hsome⟩
    have hdsn : (trim dsn).isEmpty = false := by
      obtain ⟨-, rest, hchars⟩ := hopens
      simp [trim, hchars]
    have hscheme : (lower (String.ofList scheme)).isEmpty = false := by
      simpa [lower] using hopens.ne_nil
    rw [schemeOf_of_opensWith hopens, hdsn, List.isEmpty_eq_false_iff.mpr hallowed, hscheme,
      isAllowed_lower_iff.mpr hsome]
    rfl

/-- It passes again as what it has passed as. -/
theorem admits_trim_iff : Admits allowed (trim dsn) ↔ Admits allowed dsn := by
  rw [Admits, Admits, trim, String.toList_ofList, trimChars_eq_self_iff.mpr (trimmed_trim _)]

theorem validate_of_validate (h : validate dsn allowed = .ok r) : validate r allowed = .ok r := by
  obtain ⟨rfl, hallowed, hadmits⟩ := validate_eq_ok_iff.mp h
  exact validate_eq_ok_iff.mpr ⟨(trim_trim dsn).symm, hallowed, admits_trim_iff.mpr hadmits⟩

end Dsn

/-! ### Checks of connection strings -/

namespace UrlCheck

open Vigil.Guard

variable {dsn : String} {name : Option String}

/-- The schemes of connection strings are those that a target may have, and in lower case. -/
theorem hasWebScheme_iff_mem : HasWebScheme dsn ↔ lower (schemeOf dsn) ∈ dsnSchemes := by
  simp [HasWebScheme, dsnSchemes]

theorem lower_of_mem_dsnSchemes : ∀ scheme ∈ dsnSchemes, lower scheme = scheme := by
  decide

/-- What has a scheme that a target may have passes the gate of connection strings. -/
theorem admits_of_hasWebScheme (h : HasWebScheme dsn) : Dsn.Admits dsnSchemes dsn := by
  obtain ⟨scheme, hopens⟩ : ∃ scheme, OpensWith scheme (trimChars dsn.toList) := by
    refine opensWith_of_schemeOf fun hnone => ?_
    rw [hasWebScheme_iff_mem, hnone] at h
    revert h
    decide
  rw [hasWebScheme_iff_mem, schemeOf_of_opensWith hopens] at h
  exact ⟨scheme, hopens, _, h, .inl (lower_of_mem_dsnSchemes _ h)⟩

/-- Of a connection string that passes the gate a check is built as of the URL that it is without blanks. -/
theorem ofDsn_of_admits (h : Dsn.Admits dsnSchemes dsn) :
    ofDsn dsn name = build (name.getD "HTTP") { url := trim dsn } := by
  have hvalid : Dsn.validate dsn dsnSchemes = .ok (trim dsn) :=
    Dsn.validate_eq_ok_iff.mpr ⟨rfl, List.cons_ne_nil _ _, h⟩
  rw [ofDsn, hvalid]
  simp only [bind, Except.bind]

/-- With nothing blocked a check is built of what has a scheme that a target may have and is a URL. -/
theorem build_url_eq_ok_iff {name url : String} {c : UrlCheck} :
    build name { url } = .ok c ↔
      HasWebScheme url ∧ ∃ parsed, Url.ofText (trim url) = .ok parsed ∧ c = ⟨name, { url }, parsed⟩ := by
  rw [build_eq_iff]
  constructor
  · intro h
    cases h with
    | accepted hscheme hread => exact ⟨hscheme, _, hread, rfl⟩
  · rintro ⟨hscheme, parsed, hread, rfl⟩
    exact .accepted hscheme hread nofun

/-- Of a connection string a check is built exactly as of a URL, but for the blanks around it. -/
theorem ofDsn_eq_ok_iff {c : UrlCheck} :
    ofDsn dsn name = .ok c ↔
      HasWebScheme dsn ∧ ∃ parsed, Url.ofText (trim dsn) = .ok parsed ∧
        c = ⟨name.getD "HTTP", { url := trim dsn }, parsed⟩ := by
  by_cases hadmits : Dsn.Admits dsnSchemes dsn
  · rw [ofDsn_of_admits hadmits, build_url_eq_ok_iff, hasWebScheme_trim, trim_trim]
  · refine iff_of_false (fun h => ?_) fun h => hadmits (admits_of_hasWebScheme h.1)
    rw [ofDsn] at h
    obtain ⟨r, hvalid, -⟩ := exists_of_bind_eq_ok h
    exact hadmits (Dsn.validate_eq_ok_iff.mp hvalid).2.2

/-- The base of a compound scheme is what stands before its first plus. -/
theorem baseScheme_compound {base driver : List Char} (h : '+' ∉ base) :
    Dsn.baseScheme (String.ofList (base ++ '+' :: driver)) = String.ofList base := by
  have hbase : ∀ c ∈ base, decide (c ≠ '+') = true := fun c hc =>
    decide_eq_true fun hplus => h (hplus ▸ hc)
  rw [Dsn.baseScheme, String.toList_ofList, List.takeWhile_append_of_pos hbase,
    List.takeWhile_cons_of_neg (by decide), List.append_nil]

/-- **A compound scheme passes the gate on its base, and is refused for what it is.** -/
theorem ofDsn_compound {base driver : List Char}
    (hopens : OpensWith (base ++ '+' :: driver) (trimChars dsn.toList)) (hbase : '+' ∉ base)
    (hallowed : lower (String.ofList base) ∈ dsnSchemes) :
    Dsn.validate dsn dsnSchemes = .ok (trim dsn) ∧
      ofDsn dsn name = .error (.refused
        (.disallowedScheme (lower (String.ofList (base ++ '+' :: driver))))) := by
  have hadmits : Dsn.Admits dsnSchemes dsn := by
    refine ⟨_, hopens, _, hallowed, .inr ?_⟩
    rw [baseScheme_compound hbase, lower_of_mem_dsnSchemes _ hallowed]
  have hscheme : schemeOf (trim dsn) = String.ofList (base ++ '+' :: driver) :=
    (schemeOf_trim dsn).trans (schemeOf_of_opensWith hopens)
  have hother : ¬HasWebScheme (trim dsn) := by
    intro hweb
    rw [HasWebScheme, hscheme] at hweb
    have hplus : '+' ∈ (lower (String.ofList (base ++ '+' :: driver))).toList := by
      rw [lower, String.toList_ofList, String.toList_ofList]
      exact List.mem_map.mpr ⟨'+', List.mem_append_right _ List.mem_cons_self, by decide⟩
    rcases hweb with hweb | hweb <;> rw [hweb] at hplus <;> revert hplus <;> decide
  refine ⟨Dsn.validate_eq_ok_iff.mpr ⟨rfl, List.cons_ne_nil _ _, hadmits⟩, ?_⟩
  rw [ofDsn_of_admits hadmits, build_eq_iff, ← hscheme]
  exact .disallowed hother

/-- **The gate of connection strings takes nothing away and lets nothing slip through.** It lets pass what
opens with one of the allowed schemes or with a compound of one, without the blanks around it, and lets
pass again what it has let pass. A check is built of a connection string exactly if one is built of it as
a URL, and of the same URL. A compound of a scheme that a target may have passes the gate, and is refused
for its scheme all the same. -/
theorem connection_strings_admitted :
    (∀ dsn allowed,
      ((∃ r, Dsn.validate dsn allowed = .ok r) ↔ allowed ≠ [] ∧ Dsn.Admits allowed dsn) ∧
        ∀ r, Dsn.validate dsn allowed = .ok r → r = trim dsn ∧ Dsn.validate r allowed = .ok r) ∧
      (∀ dsn (name : Option String),
        ((∃ c, ofDsn dsn name = .ok c) ↔ ∃ c, build (name.getD "HTTP") { url := dsn } = .ok c) ∧
          ∀ c c', ofDsn dsn name = .ok c → build (name.getD "HTTP") { url := dsn } = .ok c' →
            c.url = c'.url ∧ c.name = c'.name) ∧
      ∀ dsn (name : Option String) base driver,
        OpensWith (base ++ '+' :: driver) (trimChars dsn.toList) → '+' ∉ base →
          lower (String.ofList base) ∈ dsnSchemes →
            Dsn.validate dsn dsnSchemes = .ok (trim dsn) ∧
              ofDsn dsn name = .error (.refused
                (.disallowedScheme (lower (String.ofList (base ++ '+' :: driver))))) := by
  refine ⟨fun dsn allowed => ⟨?_, fun r h => ?_⟩, fun dsn name => ⟨?_, fun c c' h h' => ?_⟩,
    fun dsn name base driver hopens hbase hallowed => ?_⟩
  · simp only [Dsn.validate_eq_ok_iff, exists_eq_left]
  · exact ⟨(Dsn.validate_eq_ok_iff.mp h).1, Dsn.validate_of_validate h⟩
  · simp only [ofDsn_eq_ok_iff, build_url_eq_ok_iff]
    constructor
    · rintro ⟨c, hscheme, parsed, hread, -⟩
      exact ⟨_, hscheme, parsed, hread, rfl⟩
    · rintro ⟨c, hscheme, parsed, hread, -⟩
      exact ⟨_, hscheme, parsed, hread, rfl⟩
  · obtain ⟨-, parsed, hread, rfl⟩ := ofDsn_eq_ok_iff.mp h
    obtain ⟨-, parsed', hread', rfl⟩ := build_url_eq_ok_iff.mp h'
    exact ⟨Except.ok.inj (hread.symm.trans hread'), rfl⟩
  · exact ofDsn_compound hopens hbase hallowed

/-- Of a connection string with capitals and blanks around it the check of its URL is built. A compound
scheme passes the gate, here in any case, and no check is built. -/
theorem connection_strings_admitted_compound :
    (∃ c, ofDsn "\u3000HtTp://[::1]/\n" none = .ok c ∧
      c.url = ⟨.http, "", none, .v6 1#128, none, [""], none, none⟩) ∧
      Dsn.validate " HTTP+x://db " dsnSchemes = .ok "HTTP+x://db" ∧
      ofDsn " HTTP+x://db " none = .error (.refused (.disallowedScheme "http+x")) ∧
      ∃ r, Dsn.validate "postgresql+driver://db" ["PostgreSQL"] = .ok r := by
  obtain ⟨hgate, hagree, hcompound⟩ := connection_strings_admitted
  have hbuild : build "HTTP" { url := "\u3000HtTp://[::1]/\n" } =
      .ok ⟨"HTTP", { url := "\u3000HtTp://[::1]/\n" },
        ⟨.http, "", none, .v6 1#128, none, [""], none, none⟩⟩ := by
    rfl
  obtain ⟨hiff, hsame⟩ := hagree "\u3000HtTp://[::1]/\n" none
  obtain ⟨c, hc⟩ := hiff.mpr ⟨_, hbuild⟩
  have hopens : OpensWith ("HTTP".toList ++ '+' :: ['x']) (trimChars " HTTP+x://db ".toList) :=
    ⟨by decide, _, rfl⟩
  obtain ⟨hpasses, hrefused⟩ := hcompound _ none _ _ hopens (by decide) (by decide)
  have hpostgres : OpensWith "postgresql+driver".toList (trimChars "postgresql+driver://db".toList) :=
    ⟨by decide, _, rfl⟩
  have hadmits : Dsn.Admits ["PostgreSQL"] "postgresql+driver://db" :=
    ⟨_, hpostgres, "PostgreSQL", List.mem_cons_self, .inr (by decide)⟩
  exact ⟨⟨c, hc, (hsame _ _ hc hbuild).1⟩, hpasses, hrefused,
    (hgate _ _).1.mpr ⟨List.cons_ne_nil _ _, hadmits⟩⟩

end UrlCheck

end Vigil
