import Vigil.Proofs.Guard

/-!
# The Two Phases of the Guard

A host is looked at twice: its text when a check is built, and its text and what its name resolves
to before each request. The two phases have code of their own, and this module says that they agree.
What the text says against a host (`Objection`) is said by both, word for word, and the resolver is
not asked. A host whose text says nothing is asked for only if it is a name (`IsName`), once, and the
answer alone decides.

Nothing is remembered from one host to the next: of the answers that a resolver has yet to give, the
hosts that are names take one each, in order, and no host looks at an answer but its own.

## Main results

* `checkLiteralHost_eq_error_iff`: the first phase says what the text says.
* `checkHost_eq`: the second phase says what the first one does, but for names.
* `judge_eq_error_iff`: what an answer says against a name.
* `getElem?_checkHosts`: which answer belongs to which host.
* `hosts_judged_anew`: the two phases over a sequence of hosts.
-/

namespace Vigil

/-- The answer to the lookup of that number, which fails when the resolver has no more answers. -/
def Resolver.answer (r : Resolver) (k : Nat) : Lookup := r.answers[k]?.getD none

/-- The resolver after that many lookups. -/
def Resolver.after (r : Resolver) (count : Nat) : Resolver := ⟨r.answers.drop count⟩

/-- A lookup takes the next answer. -/
theorem Resolver.ask_eq (r : Resolver) : r.ask = (r.answer 0, r.after 1) := by
  obtain ⟨answers⟩ := r
  cases answers <;> rfl

/-- The answers after some lookups are those that were left. -/
theorem Resolver.answer_after (r : Resolver) (count k : Nat) :
    (r.after count).answer k = r.answer (count + k) := by
  simp only [answer, after, List.getElem?_drop]

/-- Lookups add up. -/
theorem Resolver.after_after (r : Resolver) (count more : Nat) :
    (r.after count).after more = r.after (count + more) := by
  simp only [after, List.drop_drop]

namespace Guard

open Vigil.Text

/-! ### What the text of a host says -/

/-- What the text of a host says against it, the blanks and brackets around it left aside: that it is
a localhost name, or that it is a reserved address. -/
inductive Objection (host : String) : Refusal → Prop
  | localhost (h : isLocalhost (normalize host) = true) :
      Objection host (.localhost (normalize host))
  | address {a : Address} (ha : Address.ofText? (normalize host) = some a)
      (hreserved : a.isReserved = true) : Objection host (.blockedAddress a)

/-- The text of a host leaves its address open: there is something left of it, and it is neither a
localhost name nor an address. -/
def IsName (host : String) : Prop :=
  normalize host ≠ "" ∧ isLocalhost (normalize host) = false ∧
    Address.ofText? (normalize host) = none

instance (host : String) : Decidable (IsName host) := inferInstanceAs (Decidable (_ ∧ _ ∧ _))

/-- No localhost name is the text of an address, in whatever case it is written. -/
theorem ofText?_of_isLocalhost {name : String} (h : isLocalhost name = true) :
    Address.ofText? name = none := by
  have hnames : ∀ n ∈ localhostNames, 'l' ∈ n.toList := by
    decide +kernel
  -- some character is an `l` in one case or the other, and no number holds it
  have hletter := hnames _ (List.contains_iff_mem.mp h)
  rw [lower, String.toList_ofList, List.mem_map] at hletter
  obtain ⟨c, hc, hlower⟩ := hletter
  have hv4 : Address.readV4? name.toList = none := by
    refine Option.eq_none_iff_forall_ne_some.mpr ?_
    intro a ha
    have hdigit : ∀ c ∈ Address.dottedChars, c.toLower ≠ 'l' :=
      forall_mem_of_all (by decide)
    exact hdigit c (Address.mem_dottedChars_of_readV4? ha hc) hlower
  have hv6 : Address.readV6? name.toList = none := by
    refine Option.eq_none_iff_forall_ne_some.mpr ?_
    intro a ha
    have hcolon := isLocalhost_of_colon (Address.colon_mem_of_readV6? ha)
    rw [String.ofList_toList, h] at hcolon
    cases hcolon
  rw [Address.ofText?, Address.ofChars?, hv4, hv6]
  rfl

/-- Where nothing is left of a host nothing has to be asked. -/
theorem question_of_empty {host : String} (h : normalize host = "") :
    question host = .settled (.ok ()) := by
  simp [question, h]

/-- A localhost name settles what has to be asked. -/
theorem question_of_localhost {host : String} (h : isLocalhost (normalize host) = true) :
    question host = .settled (.error (.localhost (normalize host))) := by
  have hne : normalize host ≠ "" := by
    intro hempty
    rw [hempty] at h
    exact absurd h (by decide +kernel)
  simp [question, hne, h]

/-- An address settles what has to be asked. -/
theorem question_of_address {host : String} {a : Address}
    (h : Address.ofText? (normalize host) = some a) :
    question host = .settled (if a.isReserved then .error (.blockedAddress a) else .ok ()) := by
  have hne : normalize host ≠ "" := by
    intro hempty
    have hnone : Address.ofText? "" = none := by
      decide +kernel
    rw [hempty, hnone] at h
    cases h
  have hlocal : isLocalhost (normalize host) = false := by
    refine Bool.eq_false_iff.mpr ?_
    intro hlocal
    rw [ofText?_of_isLocalhost hlocal] at h
    cases h
  simp [question, hne, hlocal, h]

/-- An objection settles what has to be asked. -/
theorem Objection.question_eq {host : String} {reason : Refusal} (h : Objection host reason) :
    question host = .settled (.error reason) := by
  cases h with
  | localhost hlocal => exact question_of_localhost hlocal
  | address ha hreserved => rw [question_of_address ha, if_pos hreserved]

/-- A name is left to be asked for. -/
theorem IsName.question_eq {host : String} (h : IsName host) :
    question host = .lookUp (normalize host) := by
  obtain ⟨hne, hlocal, haddress⟩ := h
  simp [question, hne, hlocal, haddress]

/-- **What the text of a host comes to**: an objection, nothing that has to be asked, or a name. -/
theorem question_cases (host : String) :
    (∃ reason, Objection host reason ∧ question host = .settled (.error reason)) ∨
      (¬IsName host ∧ question host = .settled (.ok ())) ∨
      (IsName host ∧ question host = .lookUp (normalize host)) := by
  by_cases hempty : normalize host = ""
  · exact .inr (.inl ⟨fun hname => hname.1 hempty, question_of_empty hempty⟩)
  cases hlocal : isLocalhost (normalize host) with
  | true => exact .inl ⟨_, .localhost hlocal, question_of_localhost hlocal⟩
  | false =>
      cases haddress : Address.ofText? (normalize host) with
      | none =>
          have hname : IsName host := ⟨hempty, hlocal, haddress⟩
          exact .inr (.inr ⟨hname, hname.question_eq⟩)
      | some a =>
          have hquestion := question_of_address haddress
          cases hreserved : a.isReserved with
          | true =>
              have hobjection : Objection host (.blockedAddress a) := .address haddress hreserved
              exact .inl ⟨_, hobjection, hobjection.question_eq⟩
          | false =>
              rw [hreserved] at hquestion
              refine .inr (.inl ⟨?_, hquestion⟩)
              intro hname
              rw [hname.2.2] at haddress
              cases haddress

/-- **The first phase says what the text says.** -/
theorem checkLiteralHost_eq_error_iff {host : String} {reason : Refusal} :
    checkLiteralHost host = .error reason ↔ Objection host reason := by
  rw [checkLiteralHost_eq]
  constructor
  · intro h
    obtain ⟨other, hother, hquestion⟩ | ⟨-, hquestion⟩ | ⟨-, hquestion⟩ := question_cases host
    · rw [hquestion] at h
      exact Except.error.inj h ▸ hother
    · rw [hquestion] at h
      cases h
    · rw [hquestion] at h
      cases h
  · intro h
    rw [h.question_eq]

/-! ### The second phase -/

/-- **The second phase says what the first one does, but for names**, on which the answer to one
lookup decides. -/
theorem checkHost_eq (host : String) (resolver : Resolver) :
    checkHost host resolver =
      if IsName host then
        ⟨judge (normalize host) (resolver.answer 0), [normalize host], resolver.after 1⟩
      else ⟨checkLiteralHost host, [], resolver⟩ := by
  rw [checkHost, checkLiteralHost_eq, Resolver.ask_eq]
  obtain ⟨reason, -, hquestion⟩ | ⟨hname, hquestion⟩ | ⟨hname, hquestion⟩ := question_cases host
  · have hname : ¬IsName host := by
      intro hname
      rw [hname.question_eq] at hquestion
      cases hquestion
    rw [if_neg hname, hquestion]
  · rw [if_neg hname, hquestion]
  · rw [if_pos hname, hquestion]

/-- **An answer speaks against a name by the first reserved address that it holds.** -/
theorem judge_eq_error_iff {name : String} {answer : Lookup} {reason : Refusal} :
    judge name answer = .error reason ↔
      ∃ before a after, answer = some (before ++ a :: after) ∧
        (∀ b ∈ before, b.isReserved = false) ∧ a.isReserved = true ∧
        reason = .resolvesToBlocked name a := by
  cases answer with
  | none =>
      rw [judge]
      constructor
      · intro h
        cases h
      · rintro ⟨_, _, _, h, -⟩
        cases h
  | some addresses =>
      rw [judge]
      cases hfind : addresses.find? (·.isReserved) with
      | none =>
          constructor
          · intro h
            cases h
          · rintro ⟨before, a, after, h, -, ha, -⟩
            obtain rfl := Option.some.inj h
            have hno := List.find?_eq_none.mp hfind a (by simp)
            exact absurd ha hno
      | some a =>
          obtain ⟨ha, before, after, rfl, hbefore⟩ := List.find?_eq_some_iff_append.mp hfind
          constructor
          · intro h
            refine ⟨before, a, after, rfl, fun b hb => by simpa using hbefore b hb, ha, ?_⟩
            exact (Except.error.inj h).symm
          · rintro ⟨before', a', after', h, hbefore', ha', rfl⟩
            have hfirst : (before' ++ a' :: after').find? (·.isReserved) = some a' :=
              List.find?_eq_some_iff_append.mpr
                ⟨ha', before', after', rfl, fun b hb => by simp [hbefore' b hb]⟩
            rw [← Option.some.inj h, hfind] at hfirst
            rw [Option.some.inj hfirst]

/-! ### One host after another -/

/-- The number of hosts that have to be looked up. -/
def lookups (hosts : List String) : Nat := hosts.countP fun host => IsName host

/-- A host takes an answer if it is a name, and none otherwise. -/
theorem checkHost_resolver (host : String) (resolver : Resolver) :
    (checkHost host resolver).resolver = resolver.after (lookups [host]) := by
  rw [checkHost_eq]
  by_cases hname : IsName host
  · simp [lookups, hname]
  · simp [lookups, hname, Resolver.after]

/-- **The answer that a host finds is the one after those that the hosts before it took.** -/
theorem getElem?_checkHosts (resolver : Resolver) (hosts : List String) (i : Nat) :
    (checkHosts resolver hosts)[i]? =
      hosts[i]?.map fun host => checkHost host (resolver.after (lookups (hosts.take i))) := by
  induction hosts generalizing resolver i with
  | nil => rfl
  | cons host rest ih =>
      rw [checkHosts]
      cases i with
      | zero => rfl
      | succ i =>
          have hsum : lookups ((host :: rest).take (i + 1)) =
              lookups [host] + lookups (rest.take i) := by
            rw [List.take_succ_cons, lookups, ← List.singleton_append, List.countP_append]
            rfl
          rw [List.getElem?_cons_succ, List.getElem?_cons_succ, ih, checkHost_resolver, hsum]
          simp only [Resolver.after_after]

/-! ### Both phases together -/

/-- What is found out about a host before a request, if `answer` is the answer to a lookup of it. -/
structure Judged (host : String) (answer : Lookup) (check : HostCheck) : Prop where
  /-- What was said when the check was built is said again, and nobody is asked. -/
  refused : ∀ reason, checkLiteralHost host = .error reason →
    check.verdict = .error reason ∧ check.asked = []
  /-- Nothing new is said but that the host resolves to a reserved address. -/
  passed : checkLiteralHost host = .ok () →
    check.verdict = .ok () ∨
      ∃ a, check.verdict = .error (.resolvesToBlocked (normalize host) a)
  /-- Nobody is asked but for the host without blanks and brackets, once, and that if there is
  something left of it that is no address. -/
  asked : checkLiteralHost host = .ok () →
    check.asked =
      if normalize host ≠ "" ∧ Address.ofText? (normalize host) = none then [normalize host] else []
  /-- Somebody is asked for names alone. -/
  isName_iff : IsName host ↔ check.asked ≠ []
  /-- An answer with a reserved address anywhere speaks against a name, and no other does. -/
  answered : IsName host → ∀ addresses, answer = some addresses →
    ((∃ reason, check.verdict = .error reason) ↔ ∃ a ∈ addresses, a.isReserved = true)
  /-- The first such address is named. -/
  first : IsName host → ∀ reason, check.verdict = .error reason ↔
    ∃ before a after, answer = some (before ++ a :: after) ∧
      (∀ b ∈ before, b.isReserved = false) ∧ a.isReserved = true ∧
      reason = .resolvesToBlocked (normalize host) a
  /-- A failed lookup does not speak against a name. -/
  failed : IsName host → answer = none → check.verdict = .ok ()

/-- A name passes the first phase. -/
theorem IsName.checkLiteralHost_eq {host : String} (h : IsName host) :
    checkLiteralHost host = .ok () := by
  rw [Guard.checkLiteralHost_eq, h.question_eq]

/-- A host that passes the first phase is a name if there is something left of it that is no
address. -/
theorem isName_iff_of_passed {host : String} (h : checkLiteralHost host = .ok ()) :
    IsName host ↔ normalize host ≠ "" ∧ Address.ofText? (normalize host) = none := by
  constructor
  · intro hname
    exact ⟨hname.1, hname.2.2⟩
  · rintro ⟨hne, haddress⟩
    refine ⟨hne, Bool.eq_false_iff.mpr ?_, haddress⟩
    intro hlocal
    rw [checkLiteralHost_eq_error_iff.mpr (.localhost hlocal)] at h
    cases h

/-- An answer speaks against a name exactly if it holds a reserved address. -/
theorem exists_judge_eq_error_iff {name : String} {addresses : List Address} :
    (∃ reason, judge name (some addresses) = .error reason) ↔
      ∃ a ∈ addresses, a.isReserved = true := by
  rw [judge]
  constructor
  · rintro ⟨reason, h⟩
    cases hfind : addresses.find? (·.isReserved) with
    | none =>
        rw [hfind] at h
        cases h
    | some a => exact ⟨a, List.mem_of_find?_eq_some hfind, List.find?_some hfind⟩
  · rintro ⟨a, ha, hreserved⟩
    have hsome : (addresses.find? (·.isReserved)).isSome = true :=
      List.find?_isSome.mpr ⟨a, ha, hreserved⟩
    obtain ⟨b, hb⟩ := Option.isSome_iff_exists.mp hsome
    rw [hb]
    exact ⟨_, rfl⟩

/-- A harmless answer does not speak against a name. -/
theorem judge_of_harmless {name : String} {answer : Lookup} (h : answer.Harmless) :
    judge name answer = .ok () := by
  cases answer with
  | none => rfl
  | some addresses =>
      cases hverdict : judge name (some addresses) with
      | ok => rfl
      | error reason =>
          obtain ⟨a, ha, hreserved⟩ := exists_judge_eq_error_iff.mp ⟨reason, hverdict⟩
          rw [h addresses rfl a ha] at hreserved
          cases hreserved

/-- **The second phase judges every host by the first one and by the answer to its lookup.** -/
theorem judged (host : String) (resolver : Resolver) :
    Judged host (resolver.answer 0) (checkHost host resolver) := by
  rw [checkHost_eq]
  by_cases hname : IsName host
  · have hpassed := hname.checkLiteralHost_eq
    rw [if_pos hname]
    refine
      { refused := ?_, passed := ?_, asked := ?_, isName_iff := by simp [hname]
        answered := ?_, first := fun _ _ => judge_eq_error_iff, failed := ?_ }
    · intro reason h
      rw [hpassed] at h
      cases h
    · intro _
      cases hverdict : judge (normalize host) (resolver.answer 0) with
      | ok => exact .inl rfl
      | error reason =>
          obtain ⟨_, a, _, -, -, -, rfl⟩ := judge_eq_error_iff.mp hverdict
          exact .inr ⟨a, rfl⟩
    · intro _
      rw [if_pos ((isName_iff_of_passed hpassed).mp hname)]
    · intro _ addresses hanswer
      rw [hanswer]
      exact exists_judge_eq_error_iff
    · intro _ hanswer
      rw [hanswer]
      rfl
  · rw [if_neg hname]
    refine
      { refused := ?_, passed := ?_, asked := ?_, isName_iff := by simp [hname]
        answered := fun h => absurd h hname, first := fun h => absurd h hname
        failed := fun h => absurd h hname }
    · intro reason h
      rw [h]
      exact ⟨rfl, rfl⟩
    · intro hpassed
      rw [hpassed]
      exact .inl rfl
    · intro hpassed
      rw [if_neg (mt (isName_iff_of_passed hpassed).mpr hname)]

/-- **The phases agree, and hosts are judged anew each time.** In a sequence of hosts that are checked
against one resolver, each host is refused in both phases if its text says something against it, and
for that reason. Otherwise the second phase asks for it if it is a name, once, and refuses it only for
a reserved address in the answer, the first of which it names. The answer is the one whose number is
that of the names before the host: it takes this one and no other. In whatever sequence and with
whatever other answers the host is checked, the same answer leads to the same verdict. -/
theorem hosts_judged_anew (resolver : Resolver) (hosts : List String) {i : Nat} {host : String}
    (h : hosts[i]? = some host) :
    ∃ check, (checkHosts resolver hosts)[i]? = some check ∧
      (∀ reason, checkLiteralHost host = .error reason ↔ Objection host reason) ∧
      Judged host (resolver.answer (lookups (hosts.take i))) check ∧
      check.resolver = resolver.after (lookups (hosts.take i) + check.asked.length) ∧
      ∀ (resolver' : Resolver) (hosts' : List String) (j : Nat), hosts'[j]? = some host →
        resolver'.answer (lookups (hosts'.take j)) = resolver.answer (lookups (hosts.take i)) →
        ∃ check', (checkHosts resolver' hosts')[j]? = some check' ∧
          check'.verdict = check.verdict ∧ check'.asked = check.asked := by
  have hanswer (r : Resolver) (k : Nat) : (r.after k).answer 0 = r.answer k := by
    rw [Resolver.answer_after, Nat.add_zero]
  refine ⟨checkHost host (resolver.after (lookups (hosts.take i))), ?_,
    fun reason => checkLiteralHost_eq_error_iff, ?_, ?_, ?_⟩
  · rw [getElem?_checkHosts, h]
    rfl
  · have hjudged := judged host (resolver.after (lookups (hosts.take i)))
    rw [hanswer] at hjudged
    exact hjudged
  · rw [checkHost_resolver, Resolver.after_after, checkHost_eq]
    by_cases hname : IsName host
    · simp [lookups, hname]
    · simp [lookups, hname]
  · intro resolver' hosts' j hj hsame
    refine ⟨checkHost host (resolver'.after (lookups (hosts'.take j))), ?_, ?_⟩
    · rw [getElem?_checkHosts, hj]
      rfl
    · rw [checkHost_eq, checkHost_eq, hanswer, hanswer, hsame]
      by_cases hname : IsName host
      · simp [hname]
      · simp [hname]

/-- A resolver that answers with a public address first and then with a reserved one as well. -/
def rebinding : Resolver :=
  ⟨[some [.v4 0x5DB8D822#32], some [.v4 0x5DB8D822#32, .v4 0x0A000005#32]]⟩

/-- A name passes at first and is refused when it resolves to a reserved address as well, although an
address was checked in between and the name is written otherwise. -/
theorem hosts_judged_anew_rebinding :
    [" a.test", "[::2]", "[a.test]"][2]? = some "[a.test]" ∧
      ∃ check, (checkHosts rebinding [" a.test", "[::2]", "[a.test]"])[2]? = some check ∧
        check.verdict = .error (.resolvesToBlocked "a.test" (.v4 0x0A000005#32)) ∧
        check.asked = ["a.test"] := by
  have hname : IsName "[a.test]" := by
    decide +kernel
  obtain ⟨check, hcheck, -, hjudged, -, -⟩ :=
    hosts_judged_anew rebinding [" a.test", "[::2]", "[a.test]"] (i := 2) rfl
  refine ⟨rfl, check, hcheck, ?_, ?_⟩
  · refine (hjudged.first hname _).mpr
      ⟨[.v4 0x5DB8D822#32], .v4 0x0A000005#32, [], ?_, ?_, ?_, ?_⟩ <;> decide +kernel
  · rw [hjudged.asked hname.checkLiteralHost_eq]
    decide +kernel

end Guard

end Vigil
