import Vigil.Guard
import Vigil.Proofs.Url.Authority

/-!
# What the Guard Lets Through

The guard sees hosts as texts, and there are two ways to it: the host of a URL as it stands in the
URL, before a request, and the whole URL as it stands in the text that a redirect leads to. Both
come to the same: the host is no localhost name, and if it is an address, the address is not
reserved. For a redirect this rests on the text being read back as the host that the request goes
to, for the guard admits a text that it cannot read.

## Main definitions

* `Url.Host.literal?`: the address that a host is.
* `Url.Host.Public`: no localhost name and no reserved address.
* `Lookup.Harmless`: a lookup that failed or found no reserved address.

## Main results

* `question_text`: what has to be known of the host of a URL.
* `checkHost_text`: what is known after the check before a request.
* `public_of_checkUrl`: what is known after the check of the text of a URL.
-/

namespace Vigil

open Vigil.Text Vigil.Url

/-! ### Hosts and their texts -/

/-- The address that a host is, if it is one. -/
def Url.Host.literal? : Host → Option Address
  | .domain _ => none
  | .v4 a => some (.v4 a)
  | .v6 a => some (.v6 a)

/-- The host is not one that a guarded request must not go to: it is neither a localhost name nor a
reserved address. -/
structure Url.Host.Public (h : Host) : Prop where
  name : Guard.isLocalhost h.text = false
  address : ∀ a, h.literal? = some a → a.isReserved = false

/-- The characters of a host without brackets. -/
def Url.Host.bare : Host → List Char
  | .domain name => name.toList
  | .v4 a => Address.dotted a
  | .v6 a => Address.compressed (Address.groups a)

/-- The host of a URL that was read is visible. -/
theorem Url.Host.WellFormed.visible {h : Host} (hwf : h.WellFormed) : ∀ c ∈ h.chars, IsVisible c := by
  cases h with
  | domain name => exact fun c hc => (isPlain_of_isAllowed (hwf.2.1 c hc)).1.1
  | v4 a => exact fun c hc => ((Host.readsAs_v4 a).plain c hc).1
  | v6 a => exact fun c hc => ((Host.readsAs_v6 a).plain c hc).1

/-- The host of a URL that was read is not empty. -/
theorem Url.Host.WellFormed.bare_ne_nil {h : Host} (hwf : h.WellFormed) : h.bare ≠ [] := by
  cases h with
  | domain name => exact hwf.1
  | v4 a => exact dotted_ne_nil a
  | v6 a => exact List.ne_nil_of_mem (Address.colon_mem_compressed a)

/-- **The text of a host is an address exactly if the host is one.** -/
theorem ofChars?_bare {h : Host} (hwf : h.WellFormed) : Address.ofChars? h.bare = h.literal? := by
  cases h with
  | v4 a => exact Address.ofChars?_dotted a
  | v6 a => exact Address.ofChars?_compressed a
  | domain name =>
      obtain ⟨-, hallowed, hnumber⟩ := hwf
      have hv4 : Address.readV4? name.toList = none := by
        refine Option.eq_none_iff_forall_ne_some.mpr fun a ha => ?_
        rw [endsInNumber_of_readV4? ha] at hnumber
        cases hnumber
      have hv6 : Address.readV6? name.toList = none := by
        refine Option.eq_none_iff_forall_ne_some.mpr fun a ha => ?_
        have hcolon := hallowed _ (Address.colon_mem_of_readV6? ha)
        exact (isPlain_of_isAllowed hcolon).2.2.2.1 rfl
      rw [Host.bare, Address.ofChars?, hv4, hv6]
      rfl

/-- What a lookup tells does not speak against a host: it failed, or it found no reserved address. -/
def Lookup.Harmless (answer : Lookup) : Prop :=
  ∀ addresses, answer = some addresses → ∀ a ∈ addresses, a.isReserved = false

namespace Guard

/-- A visible text has no blanks at its ends. -/
theorem trimmed_of_visible {cs : List Char} (h : ∀ c ∈ cs, IsVisible c) : Trimmed cs :=
  ⟨fun c hc => isBlank_of_isVisible (h c (List.mem_of_head? hc)),
    fun c hc => isBlank_of_isVisible (h c (List.mem_of_getLast? hc))⟩

/-- A text in brackets. -/
def InBrackets (cs inner : List Char) : Prop := cs = ['['] ++ inner ++ [']']

/-- Without brackets there is nothing to take off. -/
theorem unbracket_eq_self {cs : List Char} (h : ∀ inner, ¬InBrackets cs inner) :
    unbracket cs = cs := by
  rw [unbracket.eq_def]
  split
  next rest =>
    split
    next hlast =>
      obtain ⟨inner, rfl⟩ := List.getLast?_eq_some_iff.mp hlast
      exact absurd rfl (h inner)
    next => rfl
  next => rfl

/-- Nor is there without an opening bracket. -/
theorem unbracket_of_notMem {cs : List Char} (h : '[' ∉ cs) : unbracket cs = cs := by
  refine unbracket_eq_self ?_
  rintro inner rfl
  exact h List.mem_cons_self

/-- Brackets are taken off. -/
theorem unbracket_brackets (cs : List Char) : unbracket (['['] ++ cs ++ [']']) = cs := by
  rw [List.singleton_append, List.cons_append, unbracket, List.getLast?_concat, if_pos rfl,
    List.dropLast_concat]

/-- What the guard looks at is the host without brackets. -/
theorem normalize_text {h : Host} (hwf : h.WellFormed) : normalize h.text = String.ofList h.bare := by
  rw [normalize, Host.text, String.toList_ofList, trimChars_eq_self_iff.mpr (trimmed_of_visible hwf.visible)]
  refine congrArg String.ofList ?_
  cases h with
  | domain name =>
      exact unbracket_of_notMem fun hc => (isPlain_of_isAllowed (hwf.2.1 _ hc)).2.1 rfl
  | v4 a => exact unbracket_of_notMem fun hc => absurd (Address.mem_dottedChars hc) (by decide)
  | v6 a => exact unbracket_brackets _

/-- No localhost name holds a colon. -/
theorem isLocalhost_of_colon {cs : List Char} (h : ':' ∈ cs) :
    isLocalhost (String.ofList cs) = false := by
  have hnames : ∀ name ∈ localhostNames, ':' ∉ name.toList := by
    decide +kernel
  refine Bool.eq_false_iff.mpr fun hlocal => ?_
  refine hnames _ (List.contains_iff_mem.mp hlocal) ?_
  rw [lower, String.toList_ofList, String.toList_ofList]
  exact List.mem_map.mpr ⟨':', h, rfl⟩

/-- Brackets make no difference to whether a host is a localhost name. -/
theorem isLocalhost_bare (h : Host) : isLocalhost (String.ofList h.bare) = isLocalhost h.text := by
  cases h with
  | domain name => rfl
  | v4 a => rfl
  | v6 a =>
      have hcolon := Address.colon_mem_compressed a
      rw [Host.bare, Host.text, Host.chars, isLocalhost_of_colon hcolon, isLocalhost_of_colon]
      exact List.mem_append_left _ (List.mem_append_right _ hcolon)

/-! ### The check before a request -/

/-- A localhost name settles what has to be known of a host. -/
theorem question_of_isLocalhost {h : Host} (hwf : h.WellFormed) (hlocal : isLocalhost h.text = true) :
    question h.text = .settled (.error (.localhost (String.ofList h.bare))) := by
  have hne : (String.ofList h.bare).isEmpty = false := by
    simpa [String.isEmpty_iff] using hwf.bare_ne_nil
  rw [question, normalize_text hwf, hne, isLocalhost_bare, hlocal]
  rfl

/-- **What has to be known of the host of a URL** that is no localhost name is settled by the
address that it is. Where it is none, the name is looked up as it stands in the URL. -/
theorem question_text {h : Host} (hwf : h.WellFormed) (hlocal : isLocalhost h.text = false) :
    question h.text =
      match h.literal? with
      | some a => .settled (if a.isReserved then .error (.blockedAddress a) else .ok ())
      | none => .lookUp h.text := by
  have hne : (String.ofList h.bare).isEmpty = false := by
    simpa [String.isEmpty_iff] using hwf.bare_ne_nil
  have hread : Address.ofText? (String.ofList h.bare) = h.literal? := by
    rw [Address.ofText?, String.toList_ofList, ofChars?_bare hwf]
  rw [question, normalize_text hwf, hne, isLocalhost_bare, hlocal, hread]
  cases h <;> rfl

/-- Only a harmless lookup lets a name pass. -/
theorem harmless_of_judge {name : String} {answer : Lookup} (h : judge name answer = .ok ()) :
    answer.Harmless := by
  rintro addresses rfl a ha
  rw [judge] at h
  split at h
  · cases h
  next hnone => simpa using List.find?_eq_none.mp hnone a ha

/-- **A host that passes the check before a request is public**, and what was looked up for that is
its name, with a harmless answer, unless it is an address. -/
theorem checkHost_text {h : Host} (hwf : h.WellFormed) {resolver : Resolver}
    (hok : (checkHost h.text resolver).verdict = .ok ()) :
    h.Public ∧
      ((h.literal?.isSome ∧ (checkHost h.text resolver).asked = []) ∨
        (h.literal? = none ∧ (checkHost h.text resolver).asked = [h.text] ∧
          resolver.ask.1.Harmless)) := by
  rw [checkHost] at hok ⊢
  have hname : isLocalhost h.text = false := by
    refine Bool.eq_false_iff.mpr fun hlocal => ?_
    rw [question_of_isLocalhost hwf hlocal] at hok
    cases hok
  rw [question_text hwf hname] at hok ⊢
  cases hliteral : h.literal? with
  | some a =>
      rw [hliteral] at hok
      refine ⟨⟨hname, fun b hb => ?_⟩, .inl ⟨rfl, rfl⟩⟩
      obtain rfl := Option.some.inj (hliteral.symm.trans hb)
      refine Bool.eq_false_iff.mpr fun hreserved => ?_
      dsimp only at hok
      rw [hreserved] at hok
      cases hok
  | none =>
      rw [hliteral] at hok
      exact ⟨⟨hname, fun b hb => nomatch hliteral.symm.trans hb⟩,
        .inr ⟨rfl, rfl, harmless_of_judge hok⟩⟩

/-! ### The check of a redirect -/

/-- The check when a target is built comes to what has to be known of the host before a request,
where that is settled. -/
theorem checkLiteralHost_eq (host : String) :
    checkLiteralHost host =
      match question host with
      | .settled verdict => verdict
      | .lookUp _ => .ok () := by
  rw [checkLiteralHost, question]
  cases (normalize host).isEmpty with
  | true => rfl
  | false =>
      cases isLocalhost (normalize host) with
      | true => rfl
      | false => cases Address.ofText? (normalize host) <;> rfl

/-- A URL that passes with private hosts blocked passes without that as well. -/
theorem checkUrl_of_guarded {url : String} (h : checkUrl url true = .ok ()) (blockPrivate : Bool) :
    checkUrl url blockPrivate = .ok () := by
  cases blockPrivate with
  | true => exact h
  | false =>
      rw [checkUrl] at h ⊢
      split at h
      · cases h
      · rfl

/-- A host that passes without being looked up is public. -/
theorem public_of_checkLiteralHost {h : Host} (hwf : h.WellFormed)
    (hok : checkLiteralHost h.text = .ok ()) : h.Public := by
  -- with a resolver that has no answers the other check gives the same verdict
  have hverdict : (checkHost h.text ⟨[]⟩).verdict = checkLiteralHost h.text := by
    rw [checkHost, checkLiteralHost_eq]
    cases question h.text <;> rfl
  exact (checkHost_text hwf (hverdict.trans hok)).1

/-- A localhost name is read as the name in lower case. -/
theorem hostOfDomain_of_isLocalhost {name : String} (hascii : ∀ c ∈ name.toList, isAscii c = true)
    (h : isLocalhost name = true) : hostOfDomain name.toList = .ok (.domain (lower name)) := by
  have hnames : ∀ n ∈ localhostNames, n.toList ≠ [] ∧ endsInNumber n.toList = false ∧
      n.toList.all (fun c => decide (isForbidden c = false)) = true ∧
        ∀ label ∈ fields '.' n.toList, marker.isPrefixOf label = false := by
    decide +kernel
  obtain ⟨hne, hnumber, hallowed, hmark⟩ := hnames _ (List.contains_iff_mem.mp h)
  rw [lower, String.toList_ofList] at hne hnumber hallowed hmark
  have hread := asciiDomain?_of_ascii hascii
    (fun c hc => forall_mem_of_all hallowed _ (List.mem_map_of_mem hc)) hmark
  rw [hostOfDomain, hread]
  split
  next h => cases h
  next h => exact absurd (Option.some.inj h) hne
  next lowered _ h =>
    obtain rfl := Option.some.inj h
    rw [hnumber]
    rfl

/-- No localhost name passes. -/
theorem checkLiteralHost_of_isLocalhost {name : String} (h : isLocalhost name = true) :
    (checkLiteralHost (lower name)).isOk = false := by
  have hnames : ∀ n ∈ localhostNames, (checkLiteralHost n).isOk = false := by
    decide +kernel
  exact hnames _ (List.contains_iff_mem.mp h)

/-- If the text of a URL passes, so does the host that is read in it. -/
theorem checkLiteralHost_of_checkUrl {s : String} {parsed : Url} (h : checkUrl s true = .ok ())
    (hparsed : Url.ofText (trim s) = .ok parsed) : checkLiteralHost parsed.host.text = .ok () := by
  rw [checkUrl] at h
  split at h
  · cases h
  · rw [if_pos rfl, hparsed] at h
    exact h

/-- **A URL whose text passes has a public host.** -/
theorem public_of_checkUrl {u : Url} (hwf : u.WellFormed) (h : checkUrl u.text true = .ok ()) :
    u.host.Public := by
  have hpass {read : Host} (hread : u.host.ReadsAs read) : checkLiteralHost read.text = .ok () := by
    obtain ⟨parsed, hparsed, rfl⟩ := exists_ofText_text hwf hread
    exact checkLiteralHost_of_checkUrl h hparsed
  have hhost := hwf.host
  cases hu : u.host with
  | v4 a => exact public_of_checkLiteralHost trivial (hpass (hu ▸ Host.readsAs_v4 a))
  | v6 a => exact public_of_checkLiteralHost trivial (hpass (hu ▸ Host.readsAs_v6 a))
  | domain name =>
      rw [hu] at hhost
      refine ⟨Bool.eq_false_iff.mpr fun hlocal => ?_, nofun⟩
      rw [Host.text, Host.chars, String.ofList_toList] at hlocal
      -- the text of another domain may be read as what it will
      have hread := hostOfDomain_of_isLocalhost (fun c hc => (hhost.2.1 c hc).1) hlocal
      have hok := hpass (hu ▸ Host.readsAs_domain hhost hread)
      have hrefused := checkLiteralHost_of_isLocalhost hlocal
      rw [Host.text, Host.chars, String.ofList_toList] at hok
      rw [hok] at hrefused
      cases hrefused

end Guard

end Vigil
