import Vigil.Proofs.Url.Host
import Vigil.Url.Parser

/-!
# The Host of a URL Read Back

The guard of a redirect sees the target as a text and reads it anew. What it finds is the host that
the request would go to, provided that the text is cut where it was put together: the user name and
the password must not hold the sign that ends them, nor the host any of the signs that end it. This
is an invariant of the URLs that the reader makes, which every reference resolved against one of
them keeps.

## Main definitions

* `Url.WellFormed`: what is known of every URL that was read.
* `Url.Host.ReadsAs`: the text of a host is read as another host wherever it stands in a URL.

## Main results

* `ofText_wellFormed`, `resolve_wellFormed`: all URLs that a check comes across are well formed.
* `readAuthority_authorityChars`: the authority taken apart where it was put together.
* `exists_ofText_text`: the host of the text of a URL.
-/

namespace Vigil.Url

open Vigil.Text Vigil.Address

/-! ### Characters that are left alone -/

/-- A character of ASCII that is neither a space nor a control, so that no reader drops it. -/
def IsVisible (c : Char) : Prop := 0x20 < c.toNat ∧ c.toNat < 0x7F

instance : DecidablePred IsVisible := fun _ => inferInstanceAs (Decidable (_ ∧ _))

/-- A visible character that ends neither the authority nor the user and password in it. -/
def IsPlain (c : Char) : Prop := IsVisible c ∧ endsAuthority c = false ∧ c ≠ '@'

instance : DecidablePred IsPlain := fun _ => inferInstanceAs (Decidable (_ ∧ _ ∧ _))

/-- No visible character is a blank. -/
theorem isBlank_of_isVisible {c : Char} (h : IsVisible c) : isBlank c = false := by
  obtain ⟨hlow, hhigh⟩ := h
  simp only [isBlank, Bool.or_eq_false_iff, Bool.and_eq_false_iff, decide_eq_false_iff_not,
    beq_eq_false_iff_ne]
  omega

/-- What stands after the authority: nothing, or a text that begins with a sign that ends it. -/
def IsRest (cs : List Char) : Prop := ∀ c, cs.head? = some c → endsAuthority c = true

/-- A prefix of what stands after the authority may stand there as well. -/
theorem IsRest.shorten {cs ds : List Char} (h : IsRest cs) (hds : ds <+: cs) : IsRest ds := by
  intro c hc
  obtain ⟨rest, rfl⟩ := hds
  exact h c (by rw [List.head?_append, hc]; rfl)

/-- So may the text without some of the characters that do not end the authority. -/
theorem IsRest.filter {cs : List Char} (h : IsRest cs) {p : Char → Bool}
    (hp : ∀ c, endsAuthority c = true → p c = true) : IsRest (cs.filter p) := by
  cases cs with
  | nil => exact nofun
  | cons c cs =>
      have hc := h c rfl
      rw [List.filter_cons_of_pos (hp c hc)]
      exact fun d hd => Option.some.inj hd ▸ hc

/-- Dropping from both ends stops at a text in front whose characters are kept. -/
theorem dropEnds_append {p : Char → Bool} {front : List Char} (hne : front ≠ [])
    (h : ∀ c ∈ front, p c = false) (rest : List Char) :
    ∃ rest', (((front ++ rest).dropWhile p).reverse.dropWhile p).reverse = front ++ rest' ∧
      rest' <+: rest := by
  have hstop {cs : List Char} (hcs : cs ≠ []) (hmem : ∀ c ∈ cs, c ∈ front) (ds : List Char) :
      (cs ++ ds).dropWhile p = cs ++ ds := by
    obtain ⟨c, cs, rfl⟩ := List.exists_cons_of_ne_nil hcs
    have hc := Bool.eq_false_iff.mp (h c (hmem c List.mem_cons_self))
    rw [List.cons_append, List.dropWhile_cons_of_neg hc]
  have hback : front.reverse.dropWhile p = front.reverse := by
    have hcs := hstop (mt List.reverse_eq_nil_iff.mp hne) (fun c => List.mem_reverse.mp) []
    rwa [List.append_nil] at hcs
  refine ⟨(rest.reverse.dropWhile p).reverse, ?_, ?_⟩
  · rw [hstop hne (fun _ => id), List.reverse_append, List.dropWhile_append]
    split
    next hempty =>
      rw [hback, List.isEmpty_iff.mp hempty, List.reverse_nil, List.append_nil,
        List.reverse_reverse]
    next => rw [List.reverse_append, List.reverse_reverse]
  · rw [← List.reverse_suffix, List.reverse_reverse]
    exact List.dropWhile_suffix p

/-- Trimming keeps a visible text in front, and after it what may stand after the authority. -/
theorem trimChars_append {front : List Char} (hne : front ≠ []) (h : ∀ c ∈ front, IsVisible c)
    (rest : List Char) :
    ∃ rest', trimChars (front ++ rest) = front ++ rest' ∧ (IsRest rest → IsRest rest') := by
  obtain ⟨rest', heq, hprefix⟩ :=
    dropEnds_append hne (fun c hc => isBlank_of_isVisible (h c hc)) rest
  exact ⟨rest', heq, fun hrest => hrest.shorten hprefix⟩

/-- No visible character is a tab or a line end. -/
theorem filter_of_isVisible {cs : List Char} (h : ∀ c ∈ cs, IsVisible c) :
    cs.filter (fun c => !(c == '\t' || c == '\n' || c == '\r')) = cs := by
  refine List.filter_eq_self.mpr fun c hc => ?_
  have hlow := (h c hc).1
  simp only [Bool.not_eq_true', Bool.or_eq_false_iff, beq_eq_false_iff_ne]
  refine ⟨⟨?_, ?_⟩, ?_⟩ <;> rintro rfl <;> exact absurd hlow (by decide)

/-- So does cleaning. -/
theorem clean_append {front : List Char} (hne : front ≠ []) (h : ∀ c ∈ front, IsVisible c)
    (rest : List Char) :
    ∃ rest', clean (front ++ rest) = front ++ rest' ∧ (IsRest rest → IsRest rest') := by
  obtain ⟨rest', heq, hprefix⟩ :=
    dropEnds_append hne (fun c hc => decide_eq_false (Nat.not_le.mpr (h c hc).1)) rest
  refine ⟨rest'.filter fun c => !(c == '\t' || c == '\n' || c == '\r'), ?_,
    fun hrest => (hrest.shorten hprefix).filter ?_⟩
  · rw [clean, heq, List.filter_append, filter_of_isVisible h]
  · intro c hc
    simp only [Bool.not_eq_true', Bool.or_eq_false_iff, beq_eq_false_iff_ne]
    refine ⟨⟨?_, ?_⟩, ?_⟩ <;> rintro rfl <;> exact absurd hc (by decide)

/-! ### Users and passwords -/

/-- What may stand in a user name or a password is plain. -/
theorem isPlain_of_userinfoSet {c : Char} (h : userinfoSet c = false) : IsPlain c := by
  have hlt : c.toNat < 128 := by
    refine Nat.lt_of_not_le fun hle => ?_
    have hcontrol : isControl c = true := by
      simp only [isControl, Bool.or_eq_true, decide_eq_true_eq]
      omega
    rw [userinfoSet, pathSet, fragmentSet, hcontrol] at h
    cases h
  exact forall_ascii (P := fun c => userinfoSet c = false → IsPlain c) (by decide +kernel) hlt h

/-- The characters of escapes. -/
def escapeChars : List Char :=
  ['%', '0', '1', '2', '3', '4', '5', '6', '7', '8', '9', 'A', 'B', 'C', 'D', 'E', 'F']

/-- An escape is written in them. -/
theorem mem_escapeChars {b : UInt8} {c : Char} (h : c ∈ percentByte b) : c ∈ escapeChars := by
  have hall : ∀ n ∈ List.range 256, ('%' :: (padded 16 2 n).map Char.toUpper).all
      (fun c => decide (c ∈ escapeChars)) = true := by
    decide +kernel
  exact forall_mem_of_all (hall b.toNat (List.mem_range.mpr b.toNat_lt)) c h

/-- What is encoded for a part holds escapes, and of the text what may stand in the part. -/
theorem mem_percentEncode {set : Char → Bool} {cs : List Char} {c : Char}
    (h : c ∈ percentEncode set cs) : c ∈ escapeChars ∨ c ∈ cs ∧ set c = false := by
  obtain ⟨d, hd, hc⟩ := List.mem_flatMap.mp h
  rw [encodeChar] at hc
  split at hc
  · obtain ⟨b, -, hc⟩ := List.mem_flatMap.mp hc
    exact .inl (mem_escapeChars hc)
  next hset =>
    obtain rfl := List.mem_singleton.mp hc
    exact .inr ⟨hd, Bool.eq_false_iff.mpr hset⟩

/-- It may stand in the part, if escapes may. -/
theorem eq_false_of_mem_percentEncode {set : Char → Bool} (hset : ∀ c ∈ escapeChars, set c = false)
    {cs : List Char} {c : Char} (h : c ∈ percentEncode set cs) : set c = false :=
  (mem_percentEncode h).elim (hset c) And.right

/-- What is encoded for a user name may stand in one. -/
theorem userinfoSet_of_mem_percentEncode {cs : List Char} {c : Char}
    (h : c ∈ percentEncode userinfoSet cs) : userinfoSet c = false :=
  eq_false_of_mem_percentEncode (forall_mem_of_all (by decide)) h

/-! ### URLs that were read -/

/-- The parts of a URL in front of its path are such as the reader makes. -/
structure WellFormed (u : Url) : Prop where
  username : ∀ c ∈ u.username.toList, userinfoSet c = false
  password : ∀ p, u.password = some p → ∀ c ∈ p.toList, userinfoSet c = false
  host : u.host.WellFormed
  port : ∀ p, u.port = some p → p ≤ 65535

/-- A port that is read is one, and not the one that the scheme implies. -/
theorem readPort_spec {scheme : Scheme} {cs : List Char} {port : Option Nat}
    (h : readPort scheme cs = .ok port) : ∀ p, port = some p → p ≤ 65535 ∧ p ≠ scheme.defaultPort := by
  rintro p rfl
  rw [readPort.eq_def] at h
  split at h
  · cases h
  · split at h
    · cases h
    · split at h
      · cases h
      · split at h
        · cases h
        next hle =>
          split at h
          · cases h
          next hne =>
            obtain rfl := Option.some.inj (Except.ok.inj h)
            exact ⟨Nat.le_of_not_lt hle, hne⟩

/-- A user name that is read is encoded. -/
theorem readUserinfo_fst (cs : List Char) :
    ∀ c ∈ (readUserinfo cs).1.toList, userinfoSet c = false := by
  intro c hc
  rw [readUserinfo] at hc
  split at hc <;> exact userinfoSet_of_mem_percentEncode (String.toList_ofList ▸ hc)

/-- So is a password. -/
theorem readUserinfo_snd (cs : List Char) :
    ∀ p, (readUserinfo cs).2 = some p → ∀ c ∈ p.toList, userinfoSet c = false := by
  intro p hp c hc
  rw [readUserinfo] at hp
  split at hp
  · cases hp
  · dsimp only at hp
    split at hp
    · cases hp
    · cases hp
      exact userinfoSet_of_mem_percentEncode (String.toList_ofList ▸ hc)

/-- Where one reading follows another, both have succeeded. -/
theorem exists_of_bind_eq_ok {ε α β : Type} {read : Except ε α} {next : α → Except ε β} {b : β}
    (h : read >>= next = .ok b) : ∃ a, read = .ok a ∧ next a = .ok b := by
  cases read with
  | error e => cases h
  | ok a => exact ⟨a, rfl, h⟩

/-- The URL of a text after the slashes is well formed. -/
theorem readAfterSlashes_wellFormed {scheme : Scheme} {cs : List Char} {u : Url}
    (h : readAfterSlashes scheme cs = .ok u) : u.WellFormed := by
  obtain ⟨authority, hauthority, h⟩ := exists_of_bind_eq_ok h
  cases h
  obtain ⟨host, hhost, h⟩ := exists_of_bind_eq_ok hauthority
  obtain ⟨port, hport, h⟩ := exists_of_bind_eq_ok h
  cases h
  exact ⟨readUserinfo_fst _, readUserinfo_snd _, Host.ofChars_wellFormed hhost,
    fun p hp => (readPort_spec hport p hp).1⟩

/-- **A URL that is read is well formed.** -/
theorem ofText_wellFormed {s : String} {u : Url} (h : ofText s = .ok u) : u.WellFormed := by
  rw [ofText, ofChars] at h
  split at h
  · cases h
  · split at h
    · cases h
    · exact readAfterSlashes_wellFormed h

/-- Without user name and password a URL stays well formed. -/
theorem WellFormed.withoutUserinfo {u : Url} (h : u.WellFormed) : u.withoutUserinfo.WellFormed :=
  ⟨nofun, nofun, h.host, h.port⟩

/-- A reference without a scheme leads from a well-formed URL to one. -/
theorem resolvePath_wellFormed {base u : Url} {cs : List Char} (hbase : base.WellFormed)
    (h : base.resolvePath cs = .ok u) : u.WellFormed := by
  -- whatever does not name a host anew keeps all that stands in front of the path
  have hkeep {path : List String} {query fragment : Option String} :
      ({ base with path, query, fragment } : Url).WellFormed :=
    ⟨hbase.username, hbase.password, hbase.host, hbase.port⟩
  rw [resolvePath.eq_def] at h
  dsimp only at h
  split at h
  · split at h <;> exact readAfterSlashes_wellFormed h
  · split at h
    · cases h
      exact hkeep
    · cases h
      exact hkeep
    · cases h
      exact hkeep
    · split at h <;> cases h <;> exact hkeep

/-- **Every reference leads from a well-formed URL to one.** -/
theorem resolve_wellFormed {base u : Url} {reference : String} (hbase : base.WellFormed)
    (h : base.resolve reference = .ok (.web u)) : u.WellFormed := by
  have hweb {read : Except ParseError Url} (h : read.map Reference.web = .ok (.web u)) :
      read = .ok u := by
    cases read with
    | error e => cases h
    | ok v =>
        cases h
        rfl
  rw [resolve] at h
  split at h
  · exact resolvePath_wellFormed hbase (hweb h)
  · split at h
    · cases h
    · split at h
      · exact resolvePath_wellFormed hbase (hweb h)
      · exact readAfterSlashes_wellFormed (hweb h)

/-! ### The host between its neighbours -/

/-- What stands after a host: nothing, or a text that begins with a colon. -/
def IsPort (cs : List Char) : Prop := ∀ c, cs.head? = some c → c = ':'

/-- The text of a host is read as `read` wherever it stands in a URL. -/
structure Host.ReadsAs (h read : Host) : Prop where
  plain : ∀ c ∈ h.chars, IsPlain c
  split : ∀ rest, IsPort rest → splitHost false (h.chars ++ rest) = (h.chars, rest)
  reads : Host.ofChars h.chars = .ok read

/-- Only the text of a host matters to how it is read. -/
theorem Host.ReadsAs.of_chars_eq {h other read : Host} (hreads : h.ReadsAs read)
    (heq : other.chars = h.chars) : other.ReadsAs read :=
  ⟨heq ▸ hreads.plain, heq ▸ hreads.split, heq ▸ hreads.reads⟩

/-- Characters that are neither brackets nor colons outside of them belong to the host. -/
theorem splitHost_append {inBrackets : Bool} {host : List Char}
    (h : ∀ c ∈ host, c ≠ '[' ∧ c ≠ ']' ∧ (c = ':' → inBrackets = true)) (cs : List Char) :
    splitHost inBrackets (host ++ cs) =
      (host ++ (splitHost inBrackets cs).1, (splitHost inBrackets cs).2) := by
  induction host with
  | nil => rfl
  | cons c host ih =>
      rw [List.forall_mem_cons] at h
      obtain ⟨⟨hopen, hclose, hcolon⟩, hrest⟩ := h
      have hinside : ¬(c = ':' ∧ inBrackets = false) := by
        rintro ⟨hc, hfalse⟩
        exact absurd (hcolon hc) (hfalse ▸ Bool.false_ne_true)
      rw [List.cons_append, splitHost, if_neg hinside, if_neg hopen, if_neg hclose]
      dsimp only
      rw [ih hrest]
      rfl

/-- A colon ends the host. -/
theorem splitHost_of_isPort {cs : List Char} (h : IsPort cs) : splitHost false cs = ([], cs) := by
  cases cs with
  | nil => rfl
  | cons c cs =>
      rw [splitHost, if_pos ⟨h c rfl, rfl⟩]

/-- A host without brackets and colons is cut off whole. -/
theorem splitHost_plain {host : List Char} (h : ∀ c ∈ host, c ≠ '[' ∧ c ≠ ']' ∧ c ≠ ':')
    {cs : List Char} (hport : IsPort cs) : splitHost false (host ++ cs) = (host, cs) := by
  rw [splitHost_append (fun c hc => ⟨(h c hc).1, (h c hc).2.1, fun heq => absurd heq (h c hc).2.2⟩),
    splitHost_of_isPort hport, List.append_nil]

/-- A host in brackets is cut off whole. -/
theorem splitHost_brackets {host : List Char} (h : ∀ c ∈ host, c ≠ '[' ∧ c ≠ ']') {cs : List Char}
    (hport : IsPort cs) :
    splitHost false (['['] ++ host ++ [']'] ++ cs) = (['['] ++ host ++ [']'], cs) := by
  have hclose : splitHost true (']' :: cs) = ([']'], cs) := by
    rw [splitHost, if_neg (fun h => absurd h.1 (by decide)), if_neg (by decide), if_pos rfl]
    dsimp only
    rw [splitHost_of_isPort hport]
  have hinside : splitHost true (host ++ ']' :: cs) = (host ++ [']'], cs) := by
    rw [splitHost_append fun c hc => ⟨(h c hc).1, (h c hc).2, fun _ => rfl⟩, hclose]
  rw [List.append_assoc, List.append_assoc, List.singleton_append, List.singleton_append, splitHost,
    if_neg (fun h => absurd h.1 (by decide)), if_pos rfl]
  dsimp only
  rw [hinside]
  rfl

/-- An address of version four is read wherever it stands. -/
theorem Host.readsAs_v4 (a : BitVec 32) : (Host.v4 a).ReadsAs (.v4 a) := by
  have hall : ∀ c ∈ dottedChars, IsPlain c ∧ c ≠ '[' ∧ c ≠ ']' ∧ c ≠ ':' :=
    forall_mem_of_all (by decide)
  exact ⟨fun c hc => (hall c (mem_dottedChars hc)).1,
    fun rest hrest => splitHost_plain (fun c hc => (hall c (mem_dottedChars hc)).2) hrest,
    Host.ofChars_v4 a⟩

/-- What reads as an address of version six is read wherever it stands in brackets. -/
theorem Host.readsAs_brackets {h : Host} {cs : List Char} {a : BitVec 128}
    (hchars : h.chars = ['['] ++ cs ++ [']']) (hcs : ∀ c ∈ cs, c ∈ '.' :: colonChars)
    (hread : readV6? cs = some a) : h.ReadsAs (.v6 a) := by
  have hall : ∀ c ∈ '[' :: ']' :: '.' :: colonChars, IsPlain c := forall_mem_of_all (by decide)
  have hbrackets : ∀ c ∈ '.' :: colonChars, c ≠ '[' ∧ c ≠ ']' := forall_mem_of_all (by decide)
  refine ⟨?_, ?_, ?_⟩ <;> rw [hchars]
  · intro c hc
    refine hall c ?_
    simp only [List.mem_append, List.mem_singleton] at hc
    rcases hc with (rfl | hc) | rfl
    · exact List.mem_cons_self
    · exact List.mem_cons_of_mem _ (List.mem_cons_of_mem _ (hcs c hc))
    · exact List.mem_cons_of_mem _ List.mem_cons_self
  · exact fun rest hrest => splitHost_brackets (fun c hc => hbrackets c (hcs c hc)) hrest
  · exact Host.ofChars_brackets hread

/-- An address of version six is read wherever it stands. -/
theorem Host.readsAs_v6 (a : BitVec 128) : (Host.v6 a).ReadsAs (.v6 a) :=
  Host.readsAs_brackets rfl (fun _ hc => List.mem_cons_of_mem _ (mem_colonChars hc))
    (readV6?_compressed a)

/-- What may stand in a domain is plain and no sign that stands for something else in a host. -/
theorem isPlain_of_isAllowed {c : Char} (h : IsAllowed c) :
    IsPlain c ∧ c ≠ '[' ∧ c ≠ ']' ∧ c ≠ ':' ∧ c ≠ '%' :=
  forall_ascii (P := fun c => isForbidden c = false →
    IsPlain c ∧ c ≠ '[' ∧ c ≠ ']' ∧ c ≠ ':' ∧ c ≠ '%') (by decide +kernel) (of_decide_eq_true h.1) h.2

/-- A domain is read wherever it stands as it is read alone. -/
theorem Host.readsAs_domain {name : String} {read : Host} (h : (Host.domain name).WellFormed)
    (hread : hostOfDomain name.toList = .ok read) : (Host.domain name).ReadsAs read := by
  obtain ⟨hne, hallowed, -⟩ := h
  have hchars := fun c hc => isPlain_of_isAllowed (hallowed c hc)
  refine ⟨fun c hc => (hchars c hc).1, fun rest hrest => splitHost_plain (fun c hc => ?_) hrest, ?_⟩
  · exact ⟨(hchars c hc).2.1, (hchars c hc).2.2.1, (hchars c hc).2.2.2.1⟩
  · rw [Host.chars, Host.ofChars_of_plain hne (fun hc => (hchars _ hc).2.1 rfl)
      (fun hc => (hchars _ hc).2.2.2.2 rfl), hread]

/-! ### The authority -/

/-- A text without the separator has no last one. -/
theorem splitLast?_of_notMem {sep : Char} {cs : List Char} (h : sep ∉ cs) :
    splitLast? sep cs = none := by
  induction cs with
  | nil => rfl
  | cons c cs ih =>
      rw [List.mem_cons, not_or] at h
      rw [splitLast?, ih h.2]
      exact if_neg (Ne.symm h.1)

/-- The last separator is the one after which there is none. -/
theorem splitLast?_append {sep : Char} {after : List Char} (h : sep ∉ after) (before : List Char) :
    splitLast? sep (before ++ sep :: after) = some (before, after) := by
  induction before with
  | nil =>
      rw [List.nil_append, splitLast?, splitLast?_of_notMem h]
      exact if_pos rfl
  | cons c before ih =>
      rw [List.cons_append, splitLast?, ih]

/-- The part in front of the host is absent or ends in its sign. -/
theorem userinfoChars_eq (u : Url) :
    u.userinfoChars = [] ∨ u.userinfoChars = u.userinfoChars.dropLast ++ ['@'] := by
  rw [userinfoChars]
  split
  · split
    · exact .inl rfl
    · exact .inr (by rw [List.dropLast_concat])
  · exact .inr (by rw [List.dropLast_concat])

/-- The part in front of the host is visible and does not end the authority. -/
theorem WellFormed.userinfoChars {u : Url} (h : u.WellFormed) :
    ∀ c ∈ u.userinfoChars, IsVisible c ∧ endsAuthority c = false := by
  have hsign : ∀ c ∈ [':', '@'], IsVisible c ∧ endsAuthority c = false :=
    forall_mem_of_all (by decide)
  have hpart {cs : List Char} (hcs : ∀ c ∈ cs, userinfoSet c = false) :
      ∀ c ∈ cs, IsVisible c ∧ endsAuthority c = false := fun c hc =>
    have hc := isPlain_of_userinfoSet (hcs c hc)
    ⟨hc.1, hc.2.1⟩
  intro c hc
  rw [Url.userinfoChars] at hc
  split at hc
  · split at hc
    · cases hc
    · rcases List.mem_append.mp hc with hc | hc
      · exact hpart h.username c hc
      · exact hsign c (List.mem_cons_of_mem _ hc)
  next p hp =>
    simp only [List.mem_append] at hc
    rcases hc with ((hc | hc) | hc) | hc
    · exact hpart h.username c hc
    · exact hsign c (List.mem_singleton.mp hc ▸ List.mem_cons_self)
    · exact hpart (h.password p hp) c hc
    · exact hsign c (List.mem_cons_of_mem _ hc)

/-- The port after the host is plain. -/
theorem isPlain_of_mem_portChars {u : Url} {c : Char} (h : c ∈ u.portChars) : IsPlain c := by
  have hall : ∀ c ∈ ':' :: dottedChars, IsPlain c := forall_mem_of_all (by decide)
  rw [portChars] at h
  split at h
  · cases h
  · rcases List.mem_cons.mp h with rfl | h
    · exact hall _ List.mem_cons_self
    · exact hall c (List.mem_cons_of_mem _ (mem_dottedChars_of_digit
        (isSome_digit?_of_mem_numeral (by decide) (by decide) h)))

/-- The port begins with its sign. -/
theorem isPort_portChars (u : Url) : IsPort u.portChars := by
  rw [portChars]
  split
  · exact nofun
  · exact fun c hc => (Option.some.inj hc).symm

/-- The port is read. -/
theorem WellFormed.readPort {u : Url} (h : u.WellFormed) (scheme : Scheme) :
    ∃ port, readPort scheme u.portChars = .ok port := by
  rw [portChars]
  split
  · exact ⟨none, rfl⟩
  next p hp =>
    have hle : ¬65535 < p := Nat.not_lt.mpr (h.port p hp)
    refine ⟨if p = scheme.defaultPort then none else some p, ?_⟩
    rw [Url.readPort, if_neg (by simpa using numeral_ne_nil 10 p),
      numeral?_numeral (by decide) (by decide)]
    exact if_neg hle

/-- The characters between the slashes and the path. -/
def authorityChars (u : Url) : List Char := u.userinfoChars ++ u.host.chars ++ u.portChars

/-- None of them is dropped by a reader or ends the authority. -/
theorem WellFormed.authorityChars {u : Url} {read : Host} (h : u.WellFormed)
    (hhost : u.host.ReadsAs read) :
    ∀ c ∈ u.authorityChars, IsVisible c ∧ endsAuthority c = false := by
  intro c hc
  simp only [Url.authorityChars, List.mem_append] at hc
  rcases hc with (hc | hc) | hc
  · exact h.userinfoChars c hc
  · exact ⟨(hhost.plain c hc).1, (hhost.plain c hc).2.1⟩
  · exact ⟨(isPlain_of_mem_portChars hc).1, (isPlain_of_mem_portChars hc).2.1⟩

/-- The last sign that ends a user name and password stands in front of the host. -/
theorem splitLast?_authorityChars {u : Url} {read : Host} (hhost : u.host.ReadsAs read) :
    (splitLast? '@' u.authorityChars).getD ([], u.authorityChars) =
      (u.userinfoChars.dropLast, u.host.chars ++ u.portChars) := by
  have hat : '@' ∉ u.host.chars ++ u.portChars := by
    rw [List.mem_append, not_or]
    exact ⟨fun hc => (hhost.plain _ hc).2.2 rfl, fun hc => (isPlain_of_mem_portChars hc).2.2 rfl⟩
  rw [Url.authorityChars, List.append_assoc]
  rcases userinfoChars_eq u with hnone | hsome
  · rw [hnone, List.nil_append, splitLast?_of_notMem hat]
    rfl
  · rw [hsome, List.append_assoc, List.singleton_append, splitLast?_append hat,
      List.dropLast_concat]
    rfl

/-- **The authority is taken apart where it was put together.** -/
theorem readAuthority_authorityChars {u : Url} {read : Host} {scheme : Scheme} {port : Option Nat}
    (hhost : u.host.ReadsAs read) (hport : readPort scheme u.portChars = .ok port) :
    readAuthority scheme u.authorityChars =
      .ok ⟨(readUserinfo u.userinfoChars.dropLast).1, (readUserinfo u.userinfoChars.dropLast).2, read,
        port⟩ := by
  rw [Url.readAuthority, splitLast?_authorityChars hhost]
  dsimp only
  rw [hhost.split _ (isPort_portChars u)]
  dsimp only
  rw [hhost.reads, hport]
  rfl

/-- **The host is found in the authority.** -/
theorem WellFormed.readAuthority {u : Url} {read : Host} (h : u.WellFormed)
    (hhost : u.host.ReadsAs read) (scheme : Scheme) :
    ∃ authority, readAuthority scheme u.authorityChars = .ok authority ∧ authority.host = read := by
  obtain ⟨port, hport⟩ := h.readPort scheme
  exact ⟨_, readAuthority_authorityChars hhost hport, rfl⟩

/-! ### The whole text -/

/-- What follows the authority of a URL may stand after one. -/
theorem isRest_chars (u : Url) :
    IsRest (u.pathChars ++ tailChars '?' u.query ++ tailChars '#' u.fragment) := by
  intro c hc
  rw [pathChars] at hc
  cases hpath : u.path with
  | cons segment path =>
      rw [hpath] at hc
      cases hc
      rfl
  | nil =>
      rw [hpath] at hc
      cases hquery : u.query with
      | some query =>
          rw [hquery] at hc
          cases hc
          rfl
      | none =>
          rw [hquery] at hc
          cases hfragment : u.fragment with
          | some fragment =>
              rw [hfragment] at hc
              cases hc
              rfl
          | none =>
              rw [hfragment] at hc
              cases hc

/-- The text after the slashes is read as an authority as far as its first character that ends one,
and as a path, a query and a fragment from there on. -/
theorem readAfterSlashes_append {scheme : Scheme} {front rest : List Char} {authority : Authority}
    (hfront : ∀ c ∈ front, endsAuthority c = false) (hrest : IsRest rest)
    (h : readAuthority scheme front = .ok authority) :
    readAfterSlashes scheme (front ++ rest) =
      .ok ⟨scheme, authority.username, authority.password, authority.host, authority.port,
        readPath [] (dropSlash (rest.takeWhile (!endsPath ·))),
        (readTail (rest.dropWhile (!endsPath ·))).1, (readTail (rest.dropWhile (!endsPath ·))).2⟩ := by
  have hkeep : ∀ c ∈ front, (!endsAuthority c) = true := by simpa using hfront
  have hstop : rest.takeWhile (!endsAuthority ·) = [] ∧ rest.dropWhile (!endsAuthority ·) = rest := by
    cases rest with
    | nil => exact ⟨rfl, rfl⟩
    | cons c rest =>
        have hc : ¬(!endsAuthority c) = true := by simp [hrest c rfl]
        exact ⟨List.takeWhile_cons_of_neg hc, List.dropWhile_cons_of_neg hc⟩
  rw [readAfterSlashes, List.takeWhile_append_of_pos hkeep, hstop.1, List.append_nil, h,
    List.dropWhile_append_of_pos hkeep, hstop.2]
  rfl

/-- The scheme of a URL is found in front of its colon. -/
theorem splitScheme?_text (scheme : Scheme) (cs : List Char) :
    splitScheme? (scheme.text.toList ++ ':' :: cs) = some (scheme.text.toList, cs) ∧
      webScheme? scheme.text.toList = some scheme := by
  have hname : isScheme scheme.text.toList = true ∧ ':' ∉ scheme.text.toList ∧
      webScheme? scheme.text.toList = some scheme := by
    cases scheme <;> decide
  rw [splitScheme?, splitOnce_append hname.2.1]
  exact ⟨if_pos hname.1, hname.2.2⟩

/-- The two slashes before the authority are dropped and no more, for it does not begin with one. -/
theorem dropWhile_isSlash {front : List Char} (hne : front ≠ [])
    (hfront : ∀ c ∈ front, endsAuthority c = false) (cs : List Char) :
    ('/' :: '/' :: (front ++ cs)).dropWhile isSlash = front ++ cs := by
  obtain ⟨c, front, rfl⟩ := List.exists_cons_of_ne_nil hne
  have hc := hfront c List.mem_cons_self
  simp only [endsAuthority, Bool.or_eq_false_iff] at hc
  rw [List.dropWhile_cons_of_pos rfl, List.dropWhile_cons_of_pos rfl, List.cons_append,
    List.dropWhile_cons_of_neg (Bool.eq_false_iff.mp hc.1.1)]

/-- After the scheme and two slashes a text is read from the authority on. -/
theorem ofChars_of_clean {scheme : Scheme} {front rest cs : List Char} (hne : front ≠ [])
    (hfront : ∀ c ∈ front, endsAuthority c = false)
    (hclean : clean cs = scheme.text.toList ++ "://".toList ++ front ++ rest) :
    ofChars cs = readAfterSlashes scheme (front ++ rest) := by
  have hchars : scheme.text.toList ++ "://".toList ++ front ++ rest =
      scheme.text.toList ++ ':' :: '/' :: '/' :: (front ++ rest) := by
    simp
  obtain ⟨hsplit, hweb⟩ := splitScheme?_text scheme ('/' :: '/' :: (front ++ rest))
  rw [ofChars, hclean, hchars, hsplit]
  dsimp only
  rw [hweb]
  dsimp only
  rw [dropWhile_isSlash hne hfront]

/-- **The authority is read wherever it stands in a text**: after the scheme and two slashes, and in
front of whatever may follow it. -/
theorem exists_ofText_append {scheme : Scheme} {front rest : List Char} {authority : Authority}
    (hne : front ≠ []) (hfront : ∀ c ∈ front, IsVisible c ∧ endsAuthority c = false)
    (hrest : IsRest rest) (hread : readAuthority scheme front = .ok authority) :
    ∃ parsed, ofText (trim (String.ofList (scheme.text.toList ++ "://".toList ++ front ++ rest))) =
        .ok parsed ∧ parsed.host = authority.host := by
  have hsigns : ∀ c ∈ scheme.text.toList ++ "://".toList, IsVisible c := by
    cases scheme <;> exact forall_mem_of_all (by decide)
  have hvisible : ∀ c ∈ scheme.text.toList ++ "://".toList ++ front, IsVisible c := by
    intro c hc
    rcases List.mem_append.mp hc with hc | hc
    · exact hsigns c hc
    · exact (hfront c hc).1
  have hnonempty : scheme.text.toList ++ "://".toList ++ front ≠ [] := by
    simp
  obtain ⟨rest', htrim, hrest'⟩ := trimChars_append hnonempty hvisible rest
  obtain ⟨rest'', hclean, hrest''⟩ := clean_append hnonempty hvisible rest'
  rw [ofText, trim, String.toList_ofList, String.toList_ofList, htrim,
    ofChars_of_clean hne (fun c hc => (hfront c hc).2) hclean,
    readAfterSlashes_append (fun c hc => (hfront c hc).2) (hrest'' (hrest' hrest)) hread]
  exact ⟨_, rfl, rfl⟩

/-- The authority is not empty, for the host is not. -/
theorem authorityChars_ne_nil {u : Url} {read : Host} (hhost : u.host.ReadsAs read) :
    u.authorityChars ≠ [] := by
  intro hnil
  simp only [Url.authorityChars, List.append_eq_nil_iff] at hnil
  have hreads := hhost.reads
  rw [hnil.1.2] at hreads
  cases hreads

/-- What the text of a URL consists of: the scheme, the authority and what follows it. -/
theorem chars_eq (u : Url) :
    u.chars = u.scheme.text.toList ++ "://".toList ++ u.authorityChars ++
      (u.pathChars ++ tailChars '?' u.query ++ tailChars '#' u.fragment) := by
  simp only [chars, authorityChars, List.append_assoc]

/-- **The text of a well-formed URL is read**, and its host is what the text of the host is read
as. -/
theorem exists_ofText_text {u : Url} {read : Host} (h : u.WellFormed) (hhost : u.host.ReadsAs read) :
    ∃ parsed, ofText (trim u.text) = .ok parsed ∧ parsed.host = read := by
  obtain ⟨authority, hread, rfl⟩ := h.readAuthority hhost u.scheme
  rw [text, chars_eq]
  exact exists_ofText_append (authorityChars_ne_nil hhost) (h.authorityChars hhost) (isRest_chars u)
    hread

end Vigil.Url
