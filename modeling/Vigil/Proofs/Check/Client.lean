import Vigil.Proofs.Check.Course
import Vigil.Proofs.Client.Conservation

/-!
# When a Check Keeps Its Client

A check is executed and its client is given up, over and over. Whether it has a client afterwards
depends on all that was done, but is told by one use: the last that got at the client at all. An
execution whose host is refused does not. If that use obtained a final response, whatever its status,
the client is kept; a failed exchange and a release leave none.

One execution has three ends (`UrlCheck.run_cases`), and only one of them keeps a client. The rest is
an induction on the uses.

## Main definitions

* `UrlCheck.Used.reachesClient`, `UrlCheck.Used.answered`: a use gets at the client, and it obtains a
  final response.
* `UrlCheck.lastAtClient`: the last of some uses that got at the client.
* `UrlCheck.Used.Keeps`: what one use does with the client.

## Main results

* `UrlCheck.run_cases`: the ends of an execution whose host passes.
* `UrlCheck.keeps_use`: every use does with the client what it should.
* `UrlCheck.cached_uses`: whether there is a client after any uses.
* `UrlCheck.client_kept`: both over all uses of a check.
-/

namespace Vigil.UrlCheck

/-! ### One execution -/

/-- An execution whose host is refused leaves the client as it is. -/
theorem run_refused {c : UrlCheck} {s : Surroundings} {reason : Refusal}
    (h : (c.validate s.resolver).verdict = .error reason) :
    (c.run s).conclusion = .error [reason.message] ∧ (c.run s).after.client = s.client := by
  rw [run, h]
  exact ⟨rfl, rfl⟩

/-- **What an execution whose host passes makes of the client.** There is a client and a final
response, and the client is kept. Or the exchange has no final response, or there is no client for it,
and then none is left. -/
theorem run_cases {c : UrlCheck} {s : Surroundings} (h : (c.validate s.resolver).verdict = .ok ()) :
    (∃ client status, s.client.get.1 = .ok client ∧
      (Http.send c.policy s.rule c.url c.credentials s.peer).result = .ok status ∧
      (c.run s).conclusion = .ok (c.judge status) ∧ (c.run s).after.client.cached = some client) ∨
    (∃ client failure, s.client.get.1 = .ok client ∧
      (Http.send c.policy s.rule c.url c.credentials s.peer).result = .error failure ∧
      (c.run s).conclusion = .error ["HTTP request failed", c.failureText failure] ∧
      (c.run s).after.client.cached = none) ∨
    ∃ failure, s.client.get.1 = .error failure ∧ (c.run s).conclusion = .error [failure] ∧
      (c.run s).after.client.cached = none := by
  have hcached := s.client.cached_get
  rw [run, h]
  dsimp only
  cases hget : s.client.get with
  | mk answer client =>
      rw [hget] at hcached
      cases answer with
      | error failure => exact .inr (.inr ⟨failure, rfl, rfl, hcached⟩)
      | ok number =>
          dsimp only
          rw [fetch]
          cases hresult : (Http.send c.policy s.rule c.url c.credentials s.peer).result with
          | ok status => exact .inl ⟨number, status, rfl, rfl, rfl, hcached⟩
          | error failure =>
              exact .inr (.inl ⟨number, failure, rfl, rfl, rfl, client.release_after.1⟩)

/-- **Whether there is a client after an execution** is decided by its exchange if its host passes. -/
theorem cached_run (c : UrlCheck) (s : Surroundings) :
    (c.run s).after.client.cached.isSome =
      if (c.validate s.resolver).verdict.isOk then
        s.client.get.1.isOk && (Http.send c.policy s.rule c.url c.credentials s.peer).result.isOk
      else s.client.cached.isSome := by
  cases hhost : (c.validate s.resolver).verdict with
  | error reason => exact congrArg (·.cached.isSome) (run_refused hhost).2
  | ok =>
      rcases run_cases hhost with ⟨_, _, hclient, hresult, -, hcached⟩ |
        ⟨_, _, hclient, hresult, -, hcached⟩ | ⟨_, hclient, -, hcached⟩
      · rw [hcached, hclient, hresult]
        rfl
      · rw [hcached, hclient, hresult]
        rfl
      · rw [hcached, hclient]
        rfl

/-! ### One use -/

/-- The use gets at the client: it gives the client up, or it is an execution whose host passes. -/
def Used.reachesClient (c : UrlCheck) (used : Used) : Bool :=
  used.execution.isNone || (c.validate used.before.resolver).verdict.isOk

/-- The use obtains a final response: it is an execution, with a client, and the exchange comes to
one. -/
def Used.answered (c : UrlCheck) (used : Used) : Bool :=
  used.execution.isSome && used.before.client.get.1.isOk &&
    (Http.send c.policy used.before.rule c.url c.credentials used.before.peer).result.isOk

/-- What a use does with the client of a check. -/
structure Used.Keeps (c : UrlCheck) (used : Used) : Prop where
  /-- An execution whose host is refused neither creates a client nor gives one up. -/
  refused : ∀ e reason, used.execution = some e →
    (c.validate used.before.resolver).verdict = .error reason →
      e.conclusion = .error [reason.message] ∧ used.after.client = used.before.client
  /-- One that comes to a fault otherwise leaves none. -/
  faulted : ∀ e chain, used.execution = some e →
    (c.validate used.before.resolver).verdict = .ok () → e.conclusion = .error chain →
      used.after.client.cached = none
  /-- One that comes to an outcome, healthy or not, obtained a final response, and the client that it
  was obtained with stays. -/
  concluded : ∀ e outcome, used.execution = some e → e.conclusion = .ok outcome →
    used.answered c = true ∧
      ∃ client, used.before.client.get.1 = .ok client ∧ used.after.client.cached = some client
  /-- A release leaves none, and where there was none it changes nothing. -/
  released : used.execution = none → used.after.client.cached = none ∧
    (used.before.client.cached = none → used.after = used.before)

/-- An execution does with the client what it should. -/
theorem keeps_run (c : UrlCheck) (s : Surroundings) :
    Used.Keeps c ⟨s, some (c.run s), (c.run s).after⟩ where
  refused := by
    rintro e reason ⟨⟩ hrefused
    exact run_refused hrefused
  faulted := by
    rintro e chain ⟨⟩ hpassed hfault
    rcases run_cases hpassed with ⟨_, _, -, -, hok, -⟩ | ⟨_, _, -, -, -, hnone⟩ | ⟨_, -, -, hnone⟩
    · rw [hok] at hfault
      cases hfault
    · exact hnone
    · exact hnone
  concluded := by
    rintro e outcome ⟨⟩ hok
    cases hhost : (c.validate s.resolver).verdict with
    | error reason =>
        rw [(run_refused hhost).1] at hok
        cases hok
    | ok =>
        rcases run_cases hhost with ⟨client, status, hclient, hresult, -, hcached⟩ |
          ⟨_, _, -, -, hfault, -⟩ | ⟨_, -, hfault, -⟩
        · refine ⟨?_, client, hclient, hcached⟩
          rw [Used.answered, hclient, hresult]
          rfl
        · rw [hfault] at hok
          cases hok
        · rw [hfault] at hok
          cases hok
  released := nofun

/-- **Every use does with the client what it should.** -/
theorem keeps_use (c : UrlCheck) (s : Surroundings) (u : Use) : (c.use s u).Keeps c := by
  cases u with
  | check peer => exact c.keeps_run { s with peer }
  | release =>
      refine ⟨nofun, nofun, nofun, fun _ => ⟨s.client.release_after.1, fun hempty => ?_⟩⟩
      have hsame : s.client.release.2 = s.client :=
        congrArg Prod.snd (ClientSlot.release_of_empty hempty)
      rw [use, hsame]

/-- **Whether there is a client after a use** is decided by the use if it gets at the client, and
otherwise there is one if there was one. -/
theorem cached_use (c : UrlCheck) (s : Surroundings) (u : Use) :
    (c.use s u).after.client.cached.isSome =
      if (c.use s u).reachesClient c then (c.use s u).answered c else s.client.cached.isSome := by
  cases u with
  | check peer => exact c.cached_run { s with peer }
  | release => exact congrArg Option.isSome s.client.release_after.1

/-! ### All uses -/

/-- The last of some uses that got at the client. -/
def lastAtClient (c : UrlCheck) (useds : List Used) : Option Used :=
  (useds.filter (Used.reachesClient c)).getLast?

/-- With one more use in front it is still the last one, and the one in front if there is no other. -/
theorem lastAtClient_cons (c : UrlCheck) (first : Used) (useds : List Used) :
    c.lastAtClient (first :: useds) =
      (c.lastAtClient useds).or (if first.reachesClient c then some first else none) := by
  rw [lastAtClient, lastAtClient, List.filter_cons]
  split
  · rw [List.getLast?_cons]
    cases (useds.filter (Used.reachesClient c)).getLast? <;> rfl
  · rw [Option.or_none]

/-- **Whether there is a client after some uses** is decided by the last that got at the client. -/
theorem cached_uses (c : UrlCheck) (s : Surroundings) (us : List Use) {i : Nat} {used : Used}
    (h : (c.uses s us)[i]? = some used) :
    used.after.client.cached.isSome =
      (c.lastAtClient ((c.uses s us).take (i + 1))).elim s.client.cached.isSome (Used.answered c) := by
  induction us generalizing s i with
  | nil => cases h
  | cons u us ih =>
      have hfirst := c.cached_use s u
      rw [uses, List.take_succ_cons, lastAtClient_cons]
      cases i with
      | zero =>
          obtain rfl := Option.some.inj h
          rw [hfirst, List.take_zero]
          cases (c.use s u).reachesClient c <;> rfl
      | succ i =>
          rw [ih _ h, hfirst]
          cases c.lastAtClient ((c.uses (c.use s u).after us).take (i + 1)) with
          | some last => rfl
          | none => cases (c.use s u).reachesClient c <;> rfl

/-- Each use is made, in the surroundings that it finds. -/
theorem exists_getElem?_uses (c : UrlCheck) (s : Surroundings) {us : List Use} {i : Nat} {u : Use}
    (h : us[i]? = some u) : ∃ t, (c.uses s us)[i]? = some (c.use t u) := by
  induction us generalizing s i with
  | nil => cases h
  | cons v us ih =>
      cases i with
      | zero =>
          obtain rfl := Option.some.inj h
          exact ⟨s, rfl⟩
      | succ i => exact ih _ h

/-- Each use finds the surroundings as the one before it left them. -/
theorem exists_use_next (c : UrlCheck) (s : Surroundings) {us : List Use} {i : Nat} {used next : Used}
    (h : (c.uses s us)[i]? = some used) (hnext : (c.uses s us)[i + 1]? = some next) :
    ∃ u, next = c.use used.after u := by
  induction us generalizing s i with
  | nil => cases h
  | cons u us ih =>
      cases i with
      | zero =>
          obtain rfl := Option.some.inj h
          cases us with
          | nil => cases hnext
          | cons v us => exact ⟨v, (Option.some.inj hnext).symm⟩
      | succ i => exact ih _ h hnext

/-- A use is a release exactly if it is no execution. -/
theorem use_execution_eq_none_iff (c : UrlCheck) (s : Surroundings) (u : Use) :
    (c.use s u).execution = none ↔ u = .release := by
  cases u with
  | check peer => exact ⟨nofun, nofun⟩
  | release => exact ⟨fun _ => rfl, fun _ => rfl⟩

/-- A use finds the client that it is given. -/
theorem use_before_client (c : UrlCheck) (s : Surroundings) (u : Use) :
    (c.use s u).before.client = s.client := by
  cases u <;> rfl

/-- **A check keeps its client as long as it obtains responses.** Whatever is done with it, executions
and releases in any order, and whatever its resolver, its peers and its attempts to connect come to:
after each use there is a client exactly if the last use so far that got at the client obtained a
final response, and if none did, exactly if there was one to begin with. Each use does with the client
what it should, and finds it as the use before left it. So of two releases in a row the second changes
nothing. -/
theorem client_kept (c : UrlCheck) (s : Surroundings) (us : List Use) {i : Nat} {u : Use}
    (h : us[i]? = some u) :
    ∃ used, (c.uses s us)[i]? = some used ∧ (used.execution = none ↔ u = .release) ∧
      used.after.client.cached.isSome =
        (c.lastAtClient ((c.uses s us).take (i + 1))).elim s.client.cached.isSome (Used.answered c) ∧
      used.Keeps c ∧
      ∀ next, (c.uses s us)[i + 1]? = some next →
        next.before.client = used.after.client ∧
          (used.execution = none → next.execution = none → next.after = used.after) := by
  obtain ⟨t, hused⟩ := c.exists_getElem?_uses s h
  refine ⟨_, hused, c.use_execution_eq_none_iff t u, c.cached_uses s us hused, c.keeps_use t u,
    fun next hnext => ?_⟩
  obtain ⟨v, rfl⟩ := c.exists_use_next s hused hnext
  refine ⟨c.use_before_client _ v, fun hrelease hagain => ?_⟩
  have hempty := ((c.keeps_use t u).released hrelease).1
  obtain rfl := (c.use_execution_eq_none_iff _ v).mp hagain
  exact ((c.keeps_use _ .release).released rfl).2 hempty

/-- A guarded check of a name. -/
def named : UrlCheck := { edge with url := { edge.url with host := .domain "edge" } }

/-- A resolver that answers twice with the address, and then with the machine itself. -/
def turning : Resolver :=
  let edge := some [.v6 0x26064700000000000000000000001111#128]
  ⟨[edge, edge, some [.v6 0x1#128]]⟩

/-- A peer that redirects into a tunnel and responds there. -/
def tunnelled : Http.Peer :=
  .script [{ reply := .response moved (some "https://[2606:4700::1111]/") },
    { reply := .response .noContent none, tunnel := .opened }]

/-- Three executions against the peer, and a release. -/
def visits : List Use := [.check tunnelled, .check tunnelled, .check tunnelled, .release]

/-- The host of the third execution is refused, and the client of those before stays. -/
theorem client_kept_turning :
    visits[2]? = some (.check tunnelled) ∧
      ∃ used, (named.uses { facing .unreachable with resolver := turning } visits)[2]? = some used ∧
        used.reachesClient named = false ∧ used.after.client.cached.isSome = true := by
  obtain ⟨used, hused, -, hcached, -, -⟩ :=
    client_kept named { facing .unreachable with resolver := turning } visits (i := 2) rfl
  have hthird : ((named.uses { facing .unreachable with resolver := turning } visits)[2]?).map
      (Used.reachesClient named) = some false := by
    decide +kernel
  rw [hused] at hthird
  refine ⟨rfl, used, hused, Option.some.inj hthird, hcached.trans ?_⟩
  decide +kernel

end Vigil.UrlCheck
