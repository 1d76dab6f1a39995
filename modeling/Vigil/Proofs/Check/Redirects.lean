import Vigil.Proofs.Check.Url
import Vigil.Proofs.Guard.Phases

/-!
# How Far Redirects Are Followed

Two policies follow redirects: one any, one those with a target that is admitted with private hosts
blocked. Where all targets are, the policies still differ in how far they go, for they count in
different ways. The peer lays out a chain of hops, which a policy without any limit would carry out
(`whole`). Each of the two carries it out as well as long as it is within its reach, and otherwise cuts it
short (`CutAt`); but the reach of the guarded one is one redirect less.

## Main definitions

* `Http.Policy.all`, `Http.whole`: the exchange in which every redirect is followed.
* `Http.Exchange.CutAt`: an exchange that carries out another up to a number of hops.

## Main results

* `Http.step_eq_of_follows`: one step of a policy that follows redirects.
* `Http.sendFrom_cutAt`, `Http.send_cutAt`: what such a policy makes of a chain.
* `UrlCheck.run_told`, `UrlCheck.told_withGuard`: one execution of a check in its two variants.
* `UrlCheck.guarded_stops_earlier`: the two variants compared.
-/

namespace Vigil

open Vigil.Url

namespace Http

/-! ### The whole chain -/

/-- Every redirect to a target is followed, without any limit. -/
def Policy.all : Policy := ⟨true, fun _ _ => true⟩

/-- The whole exchange that a peer lays out for a URL. -/
def whole (rule : HeaderRule) (url : Url) (credentials : Option (String × Option String))
    (peer : Peer) : Exchange :=
  send .all rule url credentials peer

/-- The targets of the redirects that an exchange follows. -/
def Exchange.redirectTargets (e : Exchange) : List Url := e.hops.tail.map Hop.target

/-- **One step of a policy that follows redirects**: where the answer leads to a target the policy is
asked, and else its step is that of any other. -/
theorem step_eq_of_follows {policy : Policy} (hfollows : policy.follows = true) (previous : List Url)
    (current : Url) (answer : Answer) :
    step policy previous current answer =
      match step .all previous current answer with
      | .hop next =>
        if policy.admits (current :: previous) next then .hop next
        else .ended (.error .redirectRefused)
      | other => other := by
  rw [step, step]
  cases obstacle? current answer.tunnel with
  | some failure => rfl
  | none =>
      cases answer.reply with
      | drop => rfl
      | hang => rfl
      | response status location =>
          dsimp only
          cases htarget : redirectTarget? current status location with
          | none => rw [follow_of_final (.inr htarget), follow_of_final (.inr htarget)]
          | some target =>
              have hall : Policy.all.follows = true := rfl
              cases target with
              | foreign hasHost =>
                  rw [follow_of_foreign hfollows htarget, follow_of_foreign hall htarget]
              | web next =>
                  rw [follow_of_web hfollows htarget, follow_of_web hall htarget]
                  rfl

/-! ### What a policy makes of it -/

/-- A policy admits all targets that pass, and stops after so many redirects. -/
def Policy.Counts (policy : Policy) (limit : Nat) : Prop :=
  ∀ previous next, Guard.checkUrl next.text true = .ok () →
    (policy.admits previous next = true ↔ previous.length ≤ limit)

/-- The limited policy counts up to the most redirects. -/
theorem Policy.counts_limited : Policy.limited.Counts maxRedirects := fun _ _ _ => decide_eq_true_iff

/-- The guarded one counts one less. -/
theorem Policy.counts_guarded : Policy.guarded.Counts (maxRedirects - 1) := by
  intro previous next hpass
  have hok : (Guard.checkUrl next.text true).isOk = true := by
    rw [hpass]
    rfl
  change (decide (previous.length < maxRedirects) && (Guard.checkUrl next.text true).isOk) = true ↔ _
  rw [hok, Bool.and_true, decide_eq_true_iff]
  exact Nat.lt_iff_le_pred (by decide)

/-- An exchange that carries out another one as far as it has no more than a number of hops, and
otherwise ends with a refused redirect after as many. -/
structure Exchange.CutAt (sent : Exchange) (limit : Nat) (whole : Exchange) : Prop where
  within : whole.hops.length ≤ limit → sent = whole
  beyond : limit < whole.hops.length →
    sent.hops = whole.hops.take limit ∧ sent.result = .error .redirectRefused

/-- A single hop is within every limit. -/
theorem Exchange.cutAt_single {e : Exchange} (h : e.hops.length = 1) {limit : Nat}
    (hlimit : 0 < limit) : e.CutAt limit e :=
  ⟨fun _ => rfl, fun hbeyond => by omega⟩

/-- One more hop in front makes for one more of the limit. -/
theorem Exchange.CutAt.after {sent whole : Exchange} {limit : Nat} (h : sent.CutAt limit whole)
    (hop : Hop) : (sent.after hop).CutAt (limit + 1) (whole.after hop) := by
  constructor
  · intro hwithin
    rw [h.within (Nat.le_of_succ_le_succ hwithin)]
  · intro hbeyond
    obtain ⟨hhops, hresult⟩ := h.beyond (Nat.lt_of_succ_lt_succ hbeyond)
    refine ⟨?_, hresult⟩
    rw [Exchange.after, Exchange.after, List.take_succ_cons, hhops]

/-- A refused redirect cuts an exchange short after one hop. -/
theorem Exchange.cutAt_refused {e : Exchange} (h : e.hops ≠ []) (hop : Hop) (peer : Peer) :
    CutAt ⟨[hop], .error .redirectRefused, peer⟩ 1 (e.after hop) := by
  constructor
  · intro hwithin
    rw [Exchange.after, List.length_cons] at hwithin
    exact absurd (List.length_eq_zero_iff.mp (Nat.le_zero.mp (Nat.le_of_succ_le_succ hwithin))) h
  · intro _
    exact ⟨rfl, rfl⟩

/-- **A policy carries out a chain as far as it follows redirects**, if all targets pass. -/
theorem sendFrom_cutAt {policy : Policy} (hfollows : policy.follows = true) {limit : Nat}
    (hcounts : policy.Counts limit) (rule : HeaderRule) (given : List String) {previous : List Url}
    {current : Url} {answers : List Answer} (hprevious : previous.length ≤ limit)
    (hpass : ∀ u ∈ (sendFrom .all rule given previous current answers).redirectTargets,
      Guard.checkUrl u.text true = .ok ()) :
    (sendFrom policy rule given previous current answers).CutAt (limit + 1 - previous.length)
      (sendFrom .all rule given previous current answers) := by
  have hlimit : 0 < limit + 1 - previous.length := by
    omega
  induction answers generalizing previous current with
  | nil => exact Exchange.cutAt_single rfl hlimit
  | cons answer rest ih =>
      rw [sendFrom, sendFrom, step_eq_of_follows hfollows]
      rw [sendFrom] at hpass
      cases hstep : step .all previous current answer with
      | shut failure => exact Exchange.cutAt_single rfl hlimit
      | ended result => exact Exchange.cutAt_single rfl hlimit
      | hop next =>
          rw [hstep] at hpass
          dsimp only at hpass ⊢
          obtain ⟨reached, others, hhops⟩ :=
            sendFrom_eq_cons .all rule given (current :: previous) next rest
          simp only [Exchange.redirectTargets, Exchange.after, List.tail_cons, hhops, List.map_cons,
            List.forall_mem_cons] at hpass
          have hadmits := hcounts (current :: previous) next hpass.1
          rw [List.length_cons] at hadmits
          by_cases hmore : previous.length + 1 ≤ limit
          · have hsum : limit + 1 - previous.length = limit + 1 - (current :: previous).length + 1 := by
              rw [List.length_cons]
              omega
            have hshort : (current :: previous).length ≤ limit := hmore
            have hrest : ∀ u ∈ (sendFrom .all rule given (current :: previous) next
                rest).redirectTargets, Guard.checkUrl u.text true = .ok () := by
              rw [Exchange.redirectTargets, hhops]
              exact hpass.2
            rw [if_pos (hadmits.mpr hmore), hsum]
            exact (ih hshort hrest (by omega)).after _
          · have hlast : limit + 1 - previous.length = 1 := by
              omega
            rw [if_neg (mt hadmits.mp hmore), hlast]
            exact Exchange.cutAt_refused (hhops ▸ List.cons_ne_nil _ _) _ _

/-- **So does an exchange with a peer**, whatever credentials go along. -/
theorem send_cutAt {policy : Policy} (hfollows : policy.follows = true) {limit : Nat}
    (hcounts : policy.Counts limit) {rule : HeaderRule} {url : Url}
    {credentials : Option (String × Option String)} {peer : Peer}
    (hpass : ∀ u ∈ (whole rule url credentials peer).redirectTargets,
      Guard.checkUrl u.text true = .ok ()) :
    (send policy rule url credentials peer).CutAt (limit + 1) (whole rule url credentials peer) := by
  cases peer with
  | unreachable => exact ⟨fun _ => rfl, nofun⟩
  | script answers => exact sendFrom_cutAt hfollows hcounts rule _ (Nat.zero_le limit) hpass

/-- An exchange with a success status at its end is carried out exactly if it is within the limit. -/
theorem Exchange.CutAt.success_iff {sent whole : Exchange} {limit : Nat} {status : Status}
    (h : sent.CutAt limit whole) (hresult : whole.result = .ok status)
    (hsuccess : status.isSuccess = true) :
    (∃ final, sent.result = .ok final ∧ final.isSuccess = true) ↔ whole.hops.length ≤ limit := by
  constructor
  · rintro ⟨final, hfinal, -⟩
    refine Nat.le_of_not_lt fun hbeyond => ?_
    rw [(h.beyond hbeyond).2] at hfinal
    cases hfinal
  · intro hwithin
    rw [h.within hwithin]
    exact ⟨status, hresult, hsuccess⟩

/-- Two exchanges that carry out the same one, the first one hop further, are the same or differ
in that hop. -/
theorem Exchange.CutAt.compare {sent shorter whole : Exchange} {limit : Nat}
    (hsent : sent.CutAt (limit + 1) whole) (hshorter : shorter.CutAt limit whole) :
    (sent.hops.length ≤ limit → shorter = sent) ∧
      (limit < sent.hops.length →
        sent.hops.length = limit + 1 ∧ shorter.hops = sent.hops.take limit ∧
          shorter.result = .error .redirectRefused) := by
  by_cases hlimit : whole.hops.length ≤ limit
  · rw [hsent.within (Nat.le_succ_of_le hlimit), hshorter.within hlimit]
    exact ⟨fun _ => rfl, fun hbeyond => absurd hlimit (Nat.not_le.mpr hbeyond)⟩
  · obtain ⟨hhops, hresult⟩ := hshorter.beyond (Nat.not_le.mp hlimit)
    have hlast : sent.hops.length = limit + 1 ∧
        sent.hops.take limit = whole.hops.take limit := by
      by_cases hmore : whole.hops.length ≤ limit + 1
      · rw [hsent.within hmore]
        exact ⟨by omega, rfl⟩
      · rw [(hsent.beyond (Nat.not_le.mp hmore)).1, List.length_take, List.take_take]
        exact ⟨by omega, by rw [Nat.min_eq_left (Nat.le_succ limit)]⟩
    refine ⟨fun hwithin => ?_, fun _ => ⟨hlast.1, hhops.trans hlast.2.symm, hresult⟩⟩
    omega

end Http

/-! ### Both variants of a check -/

namespace UrlCheck

/-- The check with private hosts blocked or not. -/
def withGuard (c : UrlCheck) (blockPrivate : Bool) : UrlCheck :=
  { c with settings := { c.settings with blockPrivate } }

/-- Both variants of a check are built, if its URL passes. -/
theorem build_withGuard {name : String} {settings : UrlSettings} {c : UrlCheck}
    (hbuild : build name settings = .ok c) (hurl : Guard.checkUrl settings.url true = .ok ())
    (blockPrivate : Bool) :
    build name { settings with blockPrivate } = .ok (c.withGuard blockPrivate) := by
  obtain ⟨-, url, hread, rfl⟩ := build_eq_ok_iff.mp hbuild
  exact build_eq_ok_iff.mpr ⟨Guard.checkUrl_of_guarded hurl blockPrivate, url, hread, rfl⟩

/-- The host of a check passes before a request, if its text passes and the answer to its lookup is
harmless. -/
theorem validate_passes {c : UrlCheck} (hhost : Guard.checkLiteralHost c.url.host.text = .ok ())
    {resolver : Resolver} (hanswer : resolver.ask.1.Harmless) :
    (c.validate resolver).verdict = .ok () := by
  rw [Resolver.ask_eq] at hanswer
  rw [validate]
  split
  · rw [Guard.checkHost_eq]
    split
    · exact Guard.judge_of_harmless hanswer
    · rw [hhost]
  · rfl

/-- What is told of an execution: what it came to, the time and the hops. -/
def Execution.told (e : Execution) : Conclusion × Nat × List Http.Hop :=
  (e.conclusion, e.took, e.hops)

theorem Execution.told_conclusion (e : Execution) : e.told.1 = e.conclusion := rfl

theorem Execution.told_took (e : Execution) : e.told.2.1 = e.took := rfl

theorem Execution.told_hops (e : Execution) : e.told.2.2 = e.hops := rfl

/-- What a check tells of an exchange. -/
def tells (c : UrlCheck) (e : Http.Exchange) : Conclusion × Nat × List Http.Hop :=
  match e.result with
  | .ok status => (.ok (c.judge status), 0, e.hops)
  | .error failure =>
    (.error ["HTTP request failed", c.failureText failure],
      if failure = .timedOut then c.settings.timeout.nanos else 0, e.hops)

/-- **An execution whose host passes tells of its exchange**, if there is a client for it. -/
theorem run_told {c : UrlCheck} {s : Surroundings} (hpassed : (c.validate s.resolver).verdict = .ok ()) :
    (c.run s).told =
      match s.client.get.1 with
      | .error failure => (.error [failure], 0, [])
      | .ok _ => c.tells (Http.send c.policy s.rule c.url c.credentials s.peer) := by
  rw [run, hpassed]
  dsimp only
  cases s.client.get with
  | mk answer client =>
      cases answer with
      | error failure => rfl
      | ok number =>
          dsimp only
          rw [fetch, tells]
          cases (Http.send c.policy s.rule c.url c.credentials s.peer).result <;> rfl

/-- The hops of an exchange are told as they are. -/
theorem tells_hops (c : UrlCheck) (e : Http.Exchange) : (c.tells e).2.2 = e.hops := by
  rw [tells]
  cases e.result <;> rfl

/-- An exchange is told to be healthy exactly if it ended with a success status. -/
theorem tells_healthy_iff (c : UrlCheck) (e : Http.Exchange) :
    (c.tells e).1 = .ok .ok ↔ ∃ status, e.result = .ok status ∧ status.isSuccess = true := by
  rw [tells]
  cases e.result with
  | error failure =>
      constructor
      · intro h
        cases h
      · rintro ⟨_, h, -⟩
        cases h
  | ok status =>
      have hjudge : c.judge status = .ok ↔ status.isSuccess = true := by
        rw [judge]
        by_cases hsuccess : status.isSuccess = true
        · simp [hsuccess]
        · rw [if_neg hsuccess]
          split <;> simp [hsuccess, Outcome.ok, Outcome.unhealthy]
      constructor
      · intro h
        exact ⟨status, rfl, hjudge.mp (Except.ok.inj h)⟩
      · rintro ⟨_, h, hsuccess⟩
        obtain rfl := Except.ok.inj h
        exact congrArg Except.ok (hjudge.mpr hsuccess)

/-- What both variants of a check tell, if its URL passes and the answer is harmless: the one follows
any redirects, the other those that are admitted. -/
theorem told_withGuard {name : String} {settings : UrlSettings} {c : UrlCheck}
    (hbuild : build name settings = .ok c) (hfollow : settings.followRedirects = true)
    (hurl : Guard.checkUrl settings.url true = .ok ()) {s : Surroundings}
    (hanswer : s.resolver.ask.1.Harmless) (blockPrivate : Bool) :
    ((c.withGuard blockPrivate).run s).told =
      match s.client.get.1 with
      | .error failure => (.error [failure], 0, [])
      | .ok _ =>
        c.tells (Http.send (if blockPrivate then .guarded else .limited) s.rule c.url c.credentials
          s.peer) := by
  obtain ⟨rfl, hread⟩ := build_spec hbuild
  have hpolicy : (c.withGuard blockPrivate).policy = if blockPrivate then .guarded else .limited := by
    simp [policy, withGuard, hfollow]
  have hpassed : ((c.withGuard blockPrivate).validate s.resolver).verdict = .ok () :=
    validate_passes (c := c.withGuard blockPrivate) (Guard.checkLiteralHost_of_checkUrl hurl hread)
      hanswer
  rw [run_told hpassed, hpolicy]
  rfl

/-- **The guarded variant of a check follows one redirect less.** Take a check that follows redirects,
whose own URL and all targets of redirects pass, and a resolver with a harmless answer. As long as
the check without the guard makes no more than ten hops, the guarded one makes the same, sends the same
requests and comes to the same. Beyond that the open one makes one more, and the guarded one stops after
ten with a fault. So a chain of redirects to a success status is healthy for the open check exactly up to
ten of them, and for the guarded one only up to nine. -/
theorem guarded_stops_earlier {name : String} {settings : UrlSettings} {c : UrlCheck}
    (hbuild : build name settings = .ok c) (hfollow : settings.followRedirects = true)
    (hurl : Guard.checkUrl settings.url true = .ok ()) (s : Surroundings)
    (hanswer : s.resolver.ask.1.Harmless)
    (htargets : ∀ u ∈ (Http.whole s.rule c.url c.credentials s.peer).redirectTargets,
      Guard.checkUrl u.text true = .ok ()) :
    (∀ blockPrivate,
      build name { settings with blockPrivate } = .ok (c.withGuard blockPrivate)) ∧
      (((c.withGuard false).run s).hops.length ≤ Http.maxRedirects →
        ((c.withGuard true).run s).hops = ((c.withGuard false).run s).hops ∧
          ((c.withGuard true).run s).requests = ((c.withGuard false).run s).requests ∧
          ((c.withGuard true).run s).conclusion = ((c.withGuard false).run s).conclusion ∧
          ((c.withGuard true).run s).took = ((c.withGuard false).run s).took) ∧
      (Http.maxRedirects < ((c.withGuard false).run s).hops.length →
        ((c.withGuard false).run s).hops.length = Http.maxRedirects + 1 ∧
          ((c.withGuard true).run s).hops =
            ((c.withGuard false).run s).hops.take Http.maxRedirects ∧
          ((c.withGuard true).run s).conclusion =
            .error ["HTTP request failed", c.failureText .redirectRefused]) ∧
      ∀ n status client, s.client.get.1 = .ok client →
        (Http.whole s.rule c.url c.credentials s.peer).hops.length = n + 1 →
        (Http.whole s.rule c.url c.credentials s.peer).result = .ok status →
        status.isSuccess = true →
        (((c.withGuard false).run s).conclusion = .ok .ok ↔ n ≤ Http.maxRedirects) ∧
          (((c.withGuard true).run s).conclusion = .ok .ok ↔ n < Http.maxRedirects) := by
  have htold := told_withGuard hbuild hfollow hurl hanswer
  have hopen : (Http.send .limited s.rule c.url c.credentials s.peer).CutAt (Http.maxRedirects + 1)
      (Http.whole s.rule c.url c.credentials s.peer) :=
    Http.send_cutAt rfl Http.Policy.counts_limited htargets
  have hguarded : (Http.send .guarded s.rule c.url c.credentials s.peer).CutAt Http.maxRedirects
      (Http.whole s.rule c.url c.credentials s.peer) :=
    Http.send_cutAt rfl Http.Policy.counts_guarded htargets
  obtain ⟨hwithin, hbeyond⟩ := hopen.compare hguarded
  refine ⟨build_withGuard hbuild hurl, ?_⟩
  simp only [Execution.requests, ← Execution.told_conclusion, ← Execution.told_took,
    ← Execution.told_hops, htold]
  cases s.client.get.1 with
  | error failure =>
      refine ⟨fun _ => ⟨rfl, rfl, rfl, rfl⟩, ?_, ?_⟩
      · intro hmore
        cases hmore
      · intro _ _ _ h
        cases h
  | ok client =>
      dsimp only
      simp only [if_true, Bool.false_eq_true, if_false, tells_hops, tells_healthy_iff]
      refine ⟨?_, ?_, ?_⟩
      · intro hfew
        rw [hwithin hfew]
        exact ⟨rfl, rfl, rfl, rfl⟩
      · intro hmany
        obtain ⟨hlength, hhops, hresult⟩ := hbeyond hmany
        refine ⟨hlength, hhops, ?_⟩
        rw [tells, hresult]
      · intro n status _ _ hlength hstatus hsuccess
        rw [hopen.success_iff hstatus hsuccess, hguarded.success_iff hstatus hsuccess, hlength]
        exact ⟨Nat.succ_le_succ_iff, Nat.succ_le_iff⟩

/-- The status of a permanent redirect. -/
def moved : Status := ⟨301, by decide, by decide⟩

/-- The answers of a peer that redirects to its own root some times and then answers with success. -/
def circling (redirects : Nat) : List Http.Answer :=
  List.replicate redirects { reply := .response moved (some "/") } ++
    [{ reply := .response .noContent none }]

/-- All these redirects lead the check of the address to its own URL, and then to the end. -/
theorem whole_circling (redirects : Nat) (given : List String) (previous : List Url) :
    let e := Http.sendFrom .all .standard given previous edge.url (circling redirects)
    e.hops.map Http.Hop.target = List.replicate (redirects + 1) edge.url ∧
      e.result = .ok .noContent := by
  have hnext : Http.step .all previous edge.url { reply := .response moved (some "/") } =
      .hop edge.url := by
    rfl
  induction redirects generalizing previous with
  | zero => exact ⟨rfl, rfl⟩
  | succ redirects ih =>
      obtain ⟨htargets, hresult⟩ := ih (edge.url :: previous) rfl
      have hcons : circling (redirects + 1) =
        { reply := .response moved (some "/") } :: circling redirects := rfl
      rw [hcons, Http.sendFrom, hnext]
      exact ⟨congrArg (edge.url :: ·) htargets, hresult⟩

/-- The URL that they lead to passes, each time. -/
theorem circling_passes (redirects : Nat) :
    ∀ u ∈ (Http.whole .standard edge.url edge.credentials
      (.script (circling redirects))).redirectTargets, Guard.checkUrl u.text true = .ok () := by
  have hpass : Guard.checkUrl edge.url.text true = .ok () := by
    rfl
  intro u hu
  have htargets : (Http.whole .standard edge.url edge.credentials
      (.script (circling redirects))).hops.map Http.Hop.target =
        List.replicate (redirects + 1) edge.url := (whole_circling redirects [] []).1
  rw [Http.Exchange.redirectTargets, List.map_tail, htargets] at hu
  rw [List.eq_of_mem_replicate (List.mem_of_mem_tail hu), hpass]

/-- There are as many hops as redirects, and the first one. -/
theorem length_circling (redirects : Nat) :
    (Http.whole .standard edge.url edge.credentials
      (.script (circling redirects))).hops.length = redirects + 1 := by
  have hlength := congrArg List.length (whole_circling redirects [] []).1
  rwa [List.length_map, List.length_replicate] at hlength

/-- Nine redirects lead both variants to the end. -/
theorem guarded_stops_earlier_within :
    build "edge" edgeSettings = .ok edge ∧ edgeSettings.followRedirects = true ∧
      Guard.checkUrl edgeSettings.url true = .ok () ∧
      (∀ u ∈ (Http.whole .standard edge.url edge.credentials (.script (circling 9))).redirectTargets,
        Guard.checkUrl u.text true = .ok ()) ∧
      ((edge.withGuard false).run (facing (.script (circling 9)))).conclusion = .ok .ok ∧
      ((edge.withGuard true).run (facing (.script (circling 9)))).conclusion = .ok .ok := by
  have hbuild : build "edge" edgeSettings = .ok edge := by
    rfl
  have hurl : Guard.checkUrl edgeSettings.url true = .ok () := by
    rfl
  obtain ⟨-, -, -, hhealthy⟩ := guarded_stops_earlier hbuild rfl hurl
    (facing (.script (circling 9))) nofun (circling_passes 9)
  obtain ⟨hopen, hguarded⟩ :=
    hhealthy 9 _ 0 rfl (length_circling 9) (whole_circling 9 [] []).2 rfl
  exact ⟨hbuild, rfl, hurl, circling_passes 9, hopen.mpr (by decide), hguarded.mpr (by decide)⟩

/-- Ten redirects lead the open variant to the end, and the guarded one to a fault before its last
request. -/
theorem variants_disagree :
    Guard.checkUrl edgeSettings.url true = .ok () ∧
      (∀ u ∈ (Http.whole .standard edge.url edge.credentials
        (.script (circling 10))).redirectTargets, Guard.checkUrl u.text true = .ok ()) ∧
      ((edge.withGuard false).run (facing (.script (circling 10)))).conclusion = .ok .ok ∧
      ((edge.withGuard false).run (facing (.script (circling 10)))).hops.length = 11 ∧
      ((edge.withGuard true).run (facing (.script (circling 10)))).conclusion =
        .error ["HTTP request failed", edge.failureText .redirectRefused] ∧
      ((edge.withGuard true).run (facing (.script (circling 10)))).hops.length = 10 := by
  have hbuild : build "edge" edgeSettings = .ok edge := by
    rfl
  have hurl : Guard.checkUrl edgeSettings.url true = .ok () := by
    rfl
  have hlong := length_circling 10
  have hopen := (Http.send_cutAt rfl Http.Policy.counts_limited (circling_passes 10)).within
    (Nat.le_of_eq hlong)
  have hlate : Http.maxRedirects - 1 + 1 < (Http.whole .standard edge.url edge.credentials
      (.script (circling 10))).hops.length := by
    rw [hlong]
    decide
  obtain ⟨hhops, hrefused⟩ :=
    (Http.send_cutAt rfl Http.Policy.counts_guarded (circling_passes 10)).beyond hlate
  have htold := told_withGuard hbuild rfl hurl (s := facing (.script (circling 10))) nofun
  have hfirst : ((edge.withGuard false).run (facing (.script (circling 10)))).told =
      edge.tells (Http.send .limited .standard edge.url edge.credentials
        (.script (circling 10))) := htold false
  have hsecond : ((edge.withGuard true).run (facing (.script (circling 10)))).told =
      edge.tells (Http.send .guarded .standard edge.url edge.credentials
        (.script (circling 10))) := htold true
  refine ⟨hurl, circling_passes 10, ?_, ?_, ?_, ?_⟩
  · rw [← Execution.told_conclusion, hfirst, tells_healthy_iff, hopen]
    exact ⟨_, (whole_circling 10 [] []).2, rfl⟩
  · rw [← Execution.told_hops, hfirst, tells_hops, hopen, hlong]
  · rw [← Execution.told_conclusion, hsecond, tells, hrefused]
  · rw [← Execution.told_hops, hsecond, tells_hops, hhops, List.length_take, hlong]
    rfl

end UrlCheck

end Vigil
