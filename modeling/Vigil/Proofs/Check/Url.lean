import Vigil.Check.Url
import Vigil.Proofs.Guard
import Vigil.Proofs.Http.Journey

/-!
# Where Guarded Requests Go

With private hosts blocked, no use of a check ever sends a request to a localhost name or to a
reserved address, be it plain, for a tunnel or inside one. An exchange is a chain of hops: the first goes
to the host of the check, which was validated in the same execution, and each later one to a target that
the policy admitted. What carries along the chain is that the current target is well formed and public;
the first is what makes the text that the policy sees stand for the target itself.

## Main definitions

* `Http.Policy.Cautious`: a policy admits only public hosts.
* `UrlCheck.Vetted`: what the validation of an execution found out.

## Main results

* `Http.sendFrom_public`, `UrlCheck.run_public`: one exchange and one execution.
* `UrlCheck.uses_public`: all uses of a check.
-/

namespace Vigil

open Vigil.Url

/-! ### One exchange -/

namespace Http

/-- An answer leads from a well-formed target to one. -/
theorem LeadsTo.wellFormed {current next : Url} {answer : Option Answer}
    (h : LeadsTo current answer next) (hwf : current.WellFormed) : next.WellFormed := by
  obtain ⟨status, location, -, -, -, reference, -, hresolve⟩ := h
  exact resolve_wellFormed hwf hresolve

/-- A policy goes to public hosts: whatever it admits has one. -/
def Policy.Cautious (policy : Policy) : Prop :=
  ∀ previous next, next.WellFormed → policy.admits previous next = true → next.host.Public

/-- The guarded policy is cautious. -/
theorem Policy.cautious_guarded : Policy.guarded.Cautious := by
  intro previous next hwf h
  have hok := (Bool.and_eq_true_iff.mp h).2
  cases hcheck : Guard.checkUrl next.text true with
  | error reason =>
      rw [hcheck] at hok
      cases hok
  | ok => exact Guard.public_of_checkUrl hwf hcheck

/-- So is one that follows nothing. -/
theorem Policy.cautious_stay : Policy.stay.Cautious := fun _ _ _ h => absurd h Bool.false_ne_true

/-- **Every hop of an exchange goes to a public host**, if the first does. -/
theorem sendFrom_public {policy : Policy} (hpolicy : policy.Cautious) (rule : HeaderRule)
    (given : List String) {previous : List Url} {current : Url} (answers : List Answer)
    (hwf : current.WellFormed) (hpublic : current.host.Public) :
    ∀ h ∈ (sendFrom policy rule given previous current answers).hops, h.target.host.Public := by
  refine sendFrom_induction (motive := fun _ current _ e => current.WellFormed →
    current.host.Public → ∀ h ∈ e.hops, h.target.host.Public) ?last ?hop
    previous current answers hwf hpublic
  case last => exact fun _ _ _ _ _ _ _ _ hpublic => List.forall_mem_singleton.mpr hpublic
  case hop =>
    intro previous current answer rest next hleads _ hadmits later hlater hwf hpublic
    have hnext := hleads.wellFormed hwf
    exact List.forall_mem_cons.mpr ⟨hpublic, hlater hnext (hpolicy _ _ hnext hadmits)⟩

/-- An exchange begins with its first target. -/
theorem sendFrom_eq_cons (policy : Policy) (rule : HeaderRule) (given : List String)
    (previous : List Url) (current : Url) (answers : List Answer) :
    ∃ reached rest, (sendFrom policy rule given previous current answers).hops =
      ⟨current, rule.headers given previous current, reached⟩ :: rest := by
  obtain ⟨reached, result, peer, -, hsent⟩ | ⟨next, other, others, -, -, -, -, hsent⟩ :=
    sendFrom_step policy rule given previous current answers
  · exact ⟨reached, [], by rw [hsent]⟩
  · exact ⟨true, _, by rw [hsent]; rfl⟩

/-- The first target of an exchange has the host and port of its URL, and is well formed if that is. -/
theorem opening_target (url : Url) (credentials : Option (String × Option String)) :
    (opening url credentials).1.host = url.host ∧
      (opening url credentials).1.effectivePort = url.effectivePort ∧
      (url.WellFormed → (opening url credentials).1.WellFormed) := by
  rw [opening]
  cases urlCredentials? url with
  | none => exact ⟨rfl, rfl, fun h => h⟩
  | some _ => exact ⟨rfl, rfl, fun h => h.withoutUserinfo⟩

/-- An exchange with a URL goes to its host and, if that one is public, to public hosts only. -/
theorem send_public {policy : Policy} (hpolicy : policy.Cautious) (rule : HeaderRule) {url : Url}
    (hwf : url.WellFormed) (hpublic : url.host.Public) (credentials : Option (String × Option String))
    (peer : Peer) :
    (∀ r ∈ (send policy rule url credentials peer).requests, r.host.Public) ∧
      ∀ first, (send policy rule url credentials peer).requests.head? = some first →
        first.host = url.host := by
  cases peer with
  | unreachable => exact ⟨List.forall_mem_nil _, fun _ h => nomatch h⟩
  | script answers =>
      obtain ⟨hhost, -, hopening⟩ := opening_target url credentials
      rw [send]
      dsimp only
      constructor
      · intro r hr
        obtain ⟨h, hh, hr⟩ := List.mem_flatMap.mp hr
        rw [(h.goesTo_target r hr).1]
        exact sendFrom_public hpolicy rule _ answers (hopening hwf) (hhost ▸ hpublic) h hh
      · intro first hfirst
        obtain ⟨reached, rest, hhops⟩ := sendFrom_eq_cons policy rule (opening url credentials).2 []
          (opening url credentials).1 answers
        rw [Exchange.requests, hhops, List.flatMap_cons] at hfirst
        obtain ⟨r, others, hr⟩ := Hop.exists_requests_eq_cons
          ⟨(opening url credentials).1, rule.headers (opening url credentials).2 []
            (opening url credentials).1, reached⟩
        rw [hr, List.cons_append, List.head?_cons] at hfirst
        obtain rfl := Option.some.inj hfirst
        rw [(Hop.goesTo_target _ r (hr ▸ List.mem_cons_self)).1, hhost]

end Http

/-! ### One execution -/

namespace UrlCheck

/-- What validation found out before the first request: the host is an address, and no reserved one,
or its name was looked up, and the answer was harmless. -/
def Vetted (c : UrlCheck) (before : Surroundings) (e : Execution) : Prop :=
  (∃ a, c.url.host.literal? = some a ∧ a.isReserved = false ∧ e.asked = []) ∨
    (c.url.host.literal? = none ∧ e.asked = [c.url.host.text] ∧ before.resolver.ask.1.Harmless)

/-- With private hosts blocked no redirect is followed unseen. -/
theorem policy_cautious {c : UrlCheck} (hblock : c.settings.blockPrivate = true) :
    c.policy.Cautious := by
  rw [policy, hblock]
  split
  · exact Http.Policy.cautious_guarded
  · exact Http.Policy.cautious_stay

/-- The hops of an execution are those of an exchange, and only a host that was found valid is sent
any request. -/
theorem run_hops (c : UrlCheck) (s : Surroundings) :
    (c.run s).hops = [] ∨
      ((c.validate s.resolver).verdict = .ok () ∧ (c.run s).asked = (c.validate s.resolver).asked ∧
        (c.run s).hops = (Http.send c.policy s.rule c.url c.credentials s.peer).hops) := by
  rw [run]
  split
  · exact .inl rfl
  next hverdict =>
    split
    · exact .inl rfl
    · rw [fetch]
      refine .inr ⟨hverdict, ?_⟩
      split <;> exact ⟨rfl, rfl⟩

/-- **All requests of an execution go to public hosts**, the first to that of the check, once it was
vetted. -/
theorem run_public {c : UrlCheck} (hwf : c.url.WellFormed) (hblock : c.settings.blockPrivate = true)
    (s : Surroundings) :
    (∀ r ∈ (c.run s).requests, r.host.Public) ∧
      ∀ first, (c.run s).requests.head? = some first →
        first.host = c.url.host ∧ c.Vetted s (c.run s) := by
  rcases run_hops c s with hnone | ⟨hverdict, hasked, hhops⟩
  · rw [Execution.requests, hnone]
    exact ⟨List.forall_mem_nil _, fun _ h => nomatch h⟩
  · rw [validate, if_pos hblock] at hverdict hasked
    obtain ⟨hpublic, hfound⟩ := Guard.checkHost_text hwf.host hverdict
    obtain ⟨hall, hfirst⟩ :=
      Http.send_public (policy_cautious hblock) s.rule hwf hpublic c.credentials s.peer
    rw [Execution.requests, hhops]
    refine ⟨hall, fun first h => ⟨hfirst first h, ?_⟩⟩
    rcases hfound with ⟨hliteral, hnone⟩ | ⟨hliteral, hname, hharmless⟩
    · obtain ⟨a, ha⟩ := Option.isSome_iff_exists.mp hliteral
      exact .inl ⟨a, ha, hpublic.address a ha, hasked.trans hnone⟩
    · exact .inr ⟨hliteral, hasked.trans hname, hharmless⟩

/-! ### All uses -/

/-- A check is built of a URL that passes and is one. -/
theorem build_eq_ok_iff {name : String} {settings : UrlSettings} {c : UrlCheck} :
    build name settings = .ok c ↔
      Guard.checkUrl settings.url settings.blockPrivate = .ok () ∧
        ∃ url, Url.ofText (Text.trim settings.url) = .ok url ∧ c = ⟨name, settings, url⟩ := by
  rw [build]
  cases Guard.checkUrl settings.url settings.blockPrivate with
  | error reason => simp
  | ok =>
      cases Url.ofText (Text.trim settings.url) with
      | error e => simp
      | ok url => simp [eq_comm]

/-- A check that is built has the URL that its settings give, and these settings. -/
theorem build_spec {name : String} {settings : UrlSettings} {c : UrlCheck}
    (h : build name settings = .ok c) :
    c.settings = settings ∧ Url.ofText (Text.trim settings.url) = .ok c.url := by
  obtain ⟨-, url, hread, rfl⟩ := build_eq_ok_iff.mp h
  exact ⟨rfl, hread⟩

/-- What one use does is an execution in the surroundings before it. -/
theorem use_execution (c : UrlCheck) (s : Surroundings) (u : Use) {e : Execution}
    (h : (c.use s u).execution = some e) : e = c.run (c.use s u).before := by
  cases u with
  | check peer => exact (Option.some.inj h).symm
  | release => cases h

/-- Every use is one use, whatever was done before. -/
theorem exists_use_of_mem_uses {c : UrlCheck} {s : Surroundings} {us : List Use} {used : Used}
    (h : used ∈ c.uses s us) : ∃ t u, used = c.use t u := by
  induction us generalizing s with
  | nil => cases h
  | cons u us ih =>
      rw [uses] at h
      rcases List.mem_cons.mp h with rfl | h
      · exact ⟨s, u, rfl⟩
      · exact ih h

/-- **No use of a guarded check reaches a private host.** However often it is executed and its client
given up, and whatever resolver and peers do: every request goes to a host that is no localhost name
and no reserved address, and the first of an execution is sent only after that execution found the
host of the check to be an address, or looked its name up with a harmless answer. -/
theorem uses_public {name : String} {settings : UrlSettings} {c : UrlCheck}
    (hbuild : build name settings = .ok c) (hblock : settings.blockPrivate = true) (s : Surroundings)
    (us : List Use) :
    ∀ used ∈ c.uses s us, ∀ e, used.execution = some e →
      (∀ r ∈ e.requests, r.host.Public) ∧
        ∀ first, e.requests.head? = some first →
          first.host = c.url.host ∧ c.Vetted used.before e := by
  intro used hused e he
  obtain ⟨rfl, hurl⟩ := build_spec hbuild
  obtain ⟨t, u, rfl⟩ := exists_use_of_mem_uses hused
  rw [use_execution c t u he]
  exact run_public (ofText_wellFormed hurl) hblock _

/-- The settings of a guarded check of an address. -/
def edgeSettings : UrlSettings where
  url := "http://[2606:4700::1111]/"
  blockPrivate := true

/-- The address of the check. -/
def edgeHost : Host := .v6 0x26064700000000000000000000001111#128

/-- The guarded check of the address. -/
def edge : UrlCheck where
  name := "edge"
  settings := edgeSettings
  url := ⟨.http, "", none, edgeHost, none, [""], none, none⟩

/-- A peer that redirects to a path of its own and to another address, where a secure reply redirects to
the machine itself. -/
def wandering : Http.Peer :=
  let found (location : String) := Http.Reply.response ⟨302, by decide, by decide⟩ (some location)
  .script [{ reply := found "/live" }, { reply := found "https://[2606:4700::1001]/" },
    { reply := found "http://[::1]:8080/", tunnel := .opened }]

/-- Surroundings in which no name has an address, with that peer. -/
def facing (peer : Http.Peer) : Surroundings := { resolver := ⟨[]⟩, peer }

/-- Of a chain of redirects that ends at the machine itself only the requests before are sent, those for
the tunnel and inside it among them. -/
theorem uses_public_edge :
    build "edge" edgeSettings = .ok edge ∧ edgeSettings.blockPrivate = true ∧
      ∃ used ∈ edge.uses (facing .unreachable) [.release, .check wandering],
        ∃ e, used.execution = some e ∧
          e.requests.map Http.Request.host =
            [edgeHost, edgeHost, .v6 0x26064700000000000000000000001001#128,
              .v6 0x26064700000000000000000000001001#128] ∧
          ∀ r ∈ e.requests, r.host.Public := by
  have hmem : edge.use _ (.check wandering) ∈
      edge.uses (facing .unreachable) [.release, .check wandering] :=
    List.mem_cons_of_mem _ List.mem_cons_self
  have hbuild : build "edge" edgeSettings = .ok edge := by
    rfl
  obtain ⟨hpublic, -⟩ := uses_public hbuild rfl _ _ _ hmem _ rfl
  refine ⟨hbuild, rfl, _, hmem, _, rfl, ?_, hpublic⟩
  decide +kernel

end UrlCheck

end Vigil
