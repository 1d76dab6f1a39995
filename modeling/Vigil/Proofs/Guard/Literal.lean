import Vigil.Proofs.Guard.Phases
import Vigil.Proofs.Url.Spelling

/-!
# Spellings Before the Guard

What the guard says of an address does not depend on how the address is written. In a URL it may be
spelled in any way that the reader of hosts sees through, or stand as a mapped address in brackets;
as a host of its own it is the canonical text, with blanks around it and with or without brackets.

## Main results

* `checkUrl_append`: the verdict on a URL is that on the host that is read in it.
* `checkLiteralHost_of_address`: the verdict on a host that is the text of an address.
* `spellings_judged`: all spellings together.
-/

namespace Vigil.Guard

open Vigil.Text Vigil.Url

/-- **A host that reads as an address is judged by the address.** -/
theorem checkLiteralHost_of_address {host : String} {a : Address}
    (h : Address.ofText? (normalize host) = some a) :
    checkLiteralHost host = if a.isReserved then .error (.blockedAddress a) else .ok () := by
  rw [checkLiteralHost_eq, question_of_address h]

/-! ### URLs -/

/-- The scheme of a URL is found in its text. -/
theorem ofText?_schemeOf (scheme : Scheme) (cs : List Char) :
    Scheme.ofText? (lower (schemeOf (String.ofList (scheme.text.toList ++ ':' :: cs)))) =
      some scheme := by
  have hblanks : dropBlanks (scheme.text.toList ++ ':' :: cs) = scheme.text.toList ++ ':' :: cs := by
    cases scheme <;> rfl
  have hname : Scheme.ofText? (lower scheme.text) = some scheme := by
    cases scheme <;> decide
  rw [schemeOf, String.toList_ofList, hblanks, (splitScheme?_text scheme cs).1]
  dsimp only
  rw [String.ofList_toList, hname]

/-- **A URL is judged by the host that is read in it.** -/
theorem checkUrl_append {host rest : List Char} {read : Host}
    (hhost : (Host.domain (String.ofList host)).ReadsAs read) (scheme : Scheme) (hrest : IsRest rest) :
    checkUrl (String.ofList (scheme.text.toList ++ "://".toList ++ host ++ rest)) true =
      checkLiteralHost read.text := by
  have hchars : (Host.domain (String.ofList host)).chars = host := String.toList_ofList
  obtain ⟨parsed, hparsed, rfl⟩ := exists_ofText_host hhost scheme hrest
  rw [hchars] at hparsed
  have hscheme := ofText?_schemeOf scheme ("//".toList ++ host ++ rest)
  have htext : scheme.text.toList ++ "://".toList ++ host ++ rest =
      scheme.text.toList ++ ':' :: ("//".toList ++ host ++ rest) := by
    simp
  rw [← htext] at hscheme
  rw [checkUrl, hscheme]
  dsimp only
  rw [if_pos rfl, hparsed]

/-- The host of a URL that is an address is judged by the address. -/
theorem checkLiteralHost_literal {h : Host} {a : Address} (hwf : h.WellFormed)
    (ha : h.literal? = some a) :
    checkLiteralHost h.text = if a.isReserved then .error (.blockedAddress a) else .ok () := by
  refine checkLiteralHost_of_address ?_
  rw [normalize_text hwf, Address.ofText?, String.toList_ofList, ofChars?_bare hwf, ha]

/-! ### Hosts -/

/-- The canonical text of an address is visible, and so are brackets around it. -/
theorem isVisible_of_mem_brackets {a : Address} {c : Char} (h : c ∈ ['['] ++ a.chars ++ [']']) :
    IsVisible c := by
  have hall : ∀ c ∈ '[' :: ']' :: '.' :: Address.colonChars, IsVisible c :=
    forall_mem_of_all (by decide)
  refine hall c ?_
  simp only [List.mem_append, List.mem_singleton] at h
  rcases h with (rfl | h) | rfl
  · exact List.mem_cons_self
  · exact List.mem_cons_of_mem _ (List.mem_cons_of_mem _ (Address.mem_chars h))
  · exact List.mem_cons_of_mem _ List.mem_cons_self

/-- **What is left of a written address without blanks and brackets is its canonical text.** -/
theorem normalize_blanks {a : Address} {before after host : List Char}
    (hbefore : ∀ c ∈ before, isBlank c = true) (hafter : ∀ c ∈ after, isBlank c = true)
    (hhost : host = a.chars ∨ host = ['['] ++ a.chars ++ [']']) :
    normalize (String.ofList (before ++ host ++ after)) = a.text := by
  have hbracket : '[' ∉ a.chars := fun h => absurd (Address.mem_chars h) (by decide)
  rw [normalize, String.toList_ofList, Address.text]
  refine congrArg String.ofList ?_
  have htrimmed : Trimmed host := by
    refine trimmed_of_visible fun c hc => ?_
    rcases hhost with rfl | rfl
    · exact isVisible_of_mem_brackets (List.mem_append_left _ (List.mem_append_right _ hc))
    · exact isVisible_of_mem_brackets hc
  rw [trimChars_blanks hbefore hafter htrimmed]
  rcases hhost with rfl | rfl
  · exact unbracket_of_notMem hbracket
  · exact unbracket_brackets _

/-! ### All spellings -/

/-- **No spelling of an address changes what is said of it.** In a URL of either scheme, with
whatever may follow the host, an address of version four is judged as such in each of its spellings.
As a mapped address in brackets, with octets or with groups at the end, it is judged alike, but the
refusal names the address of version six. As a host, the canonical text of an address is judged as
the address, with any blanks around it and with or without brackets. -/
theorem spellings_judged :
    (∀ (scheme : Scheme) (a : BitVec 32) (host rest : List Char), Spelling a host → IsRest rest →
      checkUrl (String.ofList (scheme.text.toList ++ "://".toList ++ host ++ rest)) true =
        if (Address.v4 a).isReserved then .error (.blockedAddress (.v4 a)) else .ok ()) ∧
      (∀ (scheme : Scheme) (a : BitVec 32) (host rest : List Char),
        host = ['['] ++ (Address.v6 (Address.mapped a)).chars ++ [']'] ∨
          host = (Host.v6 (Address.mapped a)).chars →
        IsRest rest →
        checkUrl (String.ofList (scheme.text.toList ++ "://".toList ++ host ++ rest)) true =
          if (Address.v4 a).isReserved then .error (.blockedAddress (.v6 (Address.mapped a)))
          else .ok ()) ∧
      ∀ (a : Address) (before host after : List Char), (∀ c ∈ before, isBlank c = true) →
        (∀ c ∈ after, isBlank c = true) → host = a.chars ∨ host = ['['] ++ a.chars ++ [']'] →
        checkLiteralHost (String.ofList (before ++ host ++ after)) =
          if a.isReserved then .error (.blockedAddress a) else .ok () := by
  refine ⟨?_, ?_, ?_⟩
  · intro scheme a host rest hhost hrest
    rw [checkUrl_append hhost.readsAs scheme hrest]
    exact checkLiteralHost_literal trivial rfl
  · intro scheme a host rest hhost hrest
    have hreads : (Host.domain (String.ofList host)).ReadsAs (.v6 (Address.mapped a)) := by
      rcases hhost with rfl | rfl
      · exact Host.readsAs_chars _
      · exact (Host.readsAs_v6 _).of_chars_eq String.toList_ofList
    have hsame : (Address.v4 a).isReserved = (Address.v6 (Address.mapped a)).isReserved :=
      (Address.isReservedV6_mapped a).symm
    rw [checkUrl_append hreads scheme hrest, hsame]
    exact checkLiteralHost_literal trivial rfl
  · intro a before host after hbefore hafter hhost
    refine checkLiteralHost_of_address ?_
    rw [normalize_blanks hbefore hafter hhost, Address.ofText?, Address.text, String.toList_ofList,
      Address.ofChars?_chars]

/-- The same address of a private network as a hexadecimal number with a path after it, as a mapped
address, and as a host between blanks. -/
theorem spellings_judged_private :
    Spelling 0x0A000001#32 "0xa000001".toList ∧ IsRest "/a?b".toList ∧
      checkUrl "http://0xa000001/a?b" true = .error (.blockedAddress (.v4 0x0A000001#32)) ∧
      checkUrl "https://[::ffff:10.0.0.1]/a?b" true =
        .error (.blockedAddress (.v6 0x00000000000000000000FFFF0A000001#128)) ∧
      checkLiteralHost "\t10.0.0.1 " = .error (.blockedAddress (.v4 0x0A000001#32)) := by
  obtain ⟨hspelled, hmapped, hhost⟩ := spellings_judged
  have hspelling : Spelling 0x0A000001#32 "0xa000001".toList := .hexadecimal (by decide) (by decide)
  have hrest : IsRest "/a?b".toList := fun c hc => Option.some.inj hc ▸ rfl
  have hreserved : (Address.v4 0x0A000001#32).isReserved = true := by
    decide +kernel
  refine ⟨hspelling, hrest, ?_, ?_, ?_⟩
  · have hurl := hspelled .http _ _ _ hspelling hrest
    rw [if_pos hreserved] at hurl
    exact hurl
  · have hurl := hmapped .https 0x0A000001#32 _ _ (.inl rfl) hrest
    rw [if_pos hreserved] at hurl
    exact hurl
  · have hblanks := hhost (.v4 0x0A000001#32) ['\t'] _ [' '] (forall_mem_of_all (by decide))
      (forall_mem_of_all (by decide)) (.inl rfl)
    rw [if_pos hreserved] at hblanks
    exact hblanks

end Vigil.Guard
