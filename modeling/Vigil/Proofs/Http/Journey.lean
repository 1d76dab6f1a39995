import Mathlib.Data.List.Basic
import Vigil.Http.Exchange

/-!
# The Journey of an Exchange

An exchange with a peer that answers is a chain of hops. Where it leads is told by the answers: each is
a redirect from the target before to the one after, and the last one is something else, or a redirect
that is not followed. A secure target takes part in this like a plain one, once its tunnel is opened.
This module says so without the recursion that carries an exchange out (`Journey`), and shows that every
exchange is one (`sendFrom_journey`). It is the policy that makes an end to a journey, since it admits
no target after too many others.

## Main definitions

* `Replies`, `Redirects`, `LeadsTo`: what comes back from a target, and where it leads.
* `Request.host`, `Request.port`: where a request goes.
* `EndsWith`: how the last hop of an exchange comes out.
* `Journey`: the targets of an exchange, one after another, and its result.

## Main results

* `sendFrom_step`: an exchange ends with its first hop, or goes on after it to the next target.
* `sendFrom_induction`: what holds of all exchanges.
* `Journey.length_le`: a policy makes an end to every journey.
* `sendFrom_journey`: every exchange is a journey.
-/

namespace Vigil.Http

open Vigil.Url

/-! ### Where replies lead -/

/-- A target is replied to: it is plain, or its tunnel is opened. -/
def Replies (current : Url) (answer : Option Answer) (reply : Reply) : Prop :=
  ∃ tunnel, answer = some ⟨reply, tunnel⟩ ∧ (current.scheme = .https → tunnel = .opened)

/-- A response leads from a target somewhere else: it is a redirect, and its location leads there,
as seen from the target. A location that leads to something without a host leads nowhere. -/
def Redirects (current : Url) (status : Status) (location : Option String) (target : Reference) :
    Prop :=
  status.isRedirect = true ∧ target ≠ .foreign false ∧
    ∃ reference, location = some reference ∧ current.resolve reference = .ok target

/-- **Where a response sends the client** is where it leads. -/
theorem redirectTarget?_eq_some_iff {current : Url} {status : Status} {location : Option String}
    {target : Reference} :
    redirectTarget? current status location = some target ↔
      Redirects current status location target := by
  rw [redirectTarget?.eq_def]
  constructor
  · intro h
    split at h
    next hredirect =>
      split at h
      next => cases h
      next reference =>
        split at h
        next => cases h
        next hhost hresolve =>
          obtain rfl := Option.some.inj h
          exact ⟨hredirect, hhost, reference, rfl, hresolve⟩
        next => cases h
    next => cases h
  · rintro ⟨hredirect, hhost, reference, rfl, hresolve⟩
    rw [if_pos hredirect]
    dsimp only
    rw [hresolve]
    split
    next h => exact absurd (Except.ok.inj h) hhost
    next h => exact congrArg some (Except.ok.inj h).symm
    next h => cases h

/-- The client is sent nowhere exactly if a response leads nowhere. -/
theorem redirectTarget?_eq_none_iff {current : Url} {status : Status} {location : Option String} :
    redirectTarget? current status location = none ↔
      ∀ target, ¬Redirects current status location target := by
  simp only [Option.eq_none_iff_forall_ne_some, ne_eq, redirectTarget?_eq_some_iff]

/-- An answer leads from a target to the next one. -/
def LeadsTo (current : Url) (answer : Option Answer) (next : Url) : Prop :=
  ∃ status location, Replies current answer (.response status location) ∧
    Redirects current status location (.web next)

/-- How the last hop of an exchange comes out, by the answer to it. The policy has seen the targets up
to that one, the latest of them first. -/
inductive EndsWith (policy : Policy) (visited : List Url) (last : Url) :
    Option Answer → Except Failure Status → Prop
  /-- No tunnel is opened to a secure target. -/
  | refusedTunnel {reply : Reply} (h : last.scheme = .https) :
      EndsWith policy visited last (some ⟨reply, .refused⟩) (.error .transport)
  /-- Nor does the peer say so. -/
  | hungTunnel {reply : Reply} (h : last.scheme = .https) :
      EndsWith policy visited last (some ⟨reply, .hang⟩) (.error .timedOut)
  /-- There is nothing left that would answer. -/
  | silent : EndsWith policy visited last none (.error .transport)
  | closed {answer : Option Answer} (h : Replies last answer .drop) :
      EndsWith policy visited last answer (.error .transport)
  | hung {answer : Option Answer} (h : Replies last answer .hang) :
      EndsWith policy visited last answer (.error .timedOut)
  /-- A redirect is refused: it leads where no request can be sent, or the policy does not admit its
  target. -/
  | refused {answer : Option Answer} {status : Status} {location : Option String}
      {target : Reference} (h : Replies last answer (.response status location))
      (hpolicy : policy.follows = true) (hredirect : Redirects last status location target)
      (hrefused : ∀ next, target = .web next → policy.admits visited next = false) :
      EndsWith policy visited last answer (.error .redirectRefused)
  /-- A response is final: no redirects are followed, or it leads nowhere. -/
  | final {answer : Option Answer} {status : Status} {location : Option String}
      (h : Replies last answer (.response status location))
      (hfinal : policy.follows = false ∨ ∀ target, ¬Redirects last status location target) :
      EndsWith policy visited last answer (.ok status)

/-! ### Where requests go -/

/-- The host that a request goes to, be it inside a tunnel or for one. -/
def Request.host : Request → Host
  | .get target _ => target.host
  | .connect host _ => host

/-- The port that it goes to. -/
def Request.port : Request → Nat
  | .get target _ => target.effectivePort
  | .connect _ port => port

/-- The requests of a hop all go to the host and port of its target. -/
theorem Hop.goesTo_target (h : Hop) :
    ∀ r ∈ h.requests, r.host = h.target.host ∧ r.port = h.target.effectivePort := by
  rw [requests]
  cases h.target.scheme with
  | http => exact List.forall_mem_singleton.mpr ⟨rfl, rfl⟩
  | https =>
      refine List.forall_mem_cons.mpr ⟨⟨rfl, rfl⟩, fun r hr => ?_⟩
      split at hr
      · exact List.mem_singleton.mp hr ▸ ⟨rfl, rfl⟩
      · cases hr

/-- No hop is without a request. -/
theorem Hop.exists_requests_eq_cons (h : Hop) : ∃ r rest, h.requests = r :: rest := by
  rw [requests]
  cases h.target.scheme <;> exact ⟨_, _, rfl⟩

/-! ### One hop -/

/-- A target is reached exactly if it is plain or its tunnel is opened. -/
theorem obstacle?_eq_none_iff {target : Url} {tunnel : Tunnel} :
    obstacle? target tunnel = none ↔ (target.scheme = .https → tunnel = .opened) := by
  rw [obstacle?.eq_def]
  cases target.scheme <;> cases tunnel <;> simp

/-- An answer that does not reach its target ends an exchange. -/
theorem endsWith_of_obstacle {policy : Policy} {visited : List Url} {current : Url} {answer : Answer}
    {failure : Failure} (h : obstacle? current answer.tunnel = some failure) :
    EndsWith policy visited current (some answer) (.error failure) := by
  obtain ⟨reply, tunnel⟩ := answer
  rw [obstacle?.eq_def] at h
  cases hscheme : current.scheme with
  | http =>
      rw [hscheme] at h
      cases h
  | https =>
      rw [hscheme] at h
      dsimp only at h
      cases tunnel with
      | opened => cases h
      | refused => exact Option.some.inj h ▸ .refusedTunnel hscheme
      | hang => exact Option.some.inj h ▸ .hungTunnel hscheme

section Follow

variable {policy : Policy} {previous : List Url} {current : Url} {status : Status}
  {location : Option String}

/-- A response that leads to a target is followed there if the policy admits it. -/
theorem follow_of_web {next : Url} (hfollows : policy.follows = true)
    (h : redirectTarget? current status location = some (.web next)) :
    follow policy previous current status location =
      if policy.admits (current :: previous) next then .hop next
      else .ended (.error .redirectRefused) := by
  rw [follow, h]
  exact if_pos hfollows

/-- One that leads where no request can be sent is not. -/
theorem follow_of_foreign {hasHost : Bool} (hfollows : policy.follows = true)
    (h : redirectTarget? current status location = some (.foreign hasHost)) :
    follow policy previous current status location = .ended (.error .redirectRefused) := by
  rw [follow, h]
  exact if_pos hfollows

/-- One that leads nowhere is final, and so is every one where no redirects are followed. -/
theorem follow_of_final (h : policy.follows = false ∨
    redirectTarget? current status location = none) :
    follow policy previous current status location = .ended (.ok status) := by
  rw [follow]
  cases htarget : redirectTarget? current status location with
  | none => rfl
  | some target =>
      obtain hstays | hnone := h
      · exact if_neg (hstays ▸ Bool.false_ne_true)
      · rw [htarget] at hnone
        cases hnone

/-- **What a response makes of an exchange**: it is over, or the response leads to a target that the
policy admits. -/
theorem follow_cases {answer : Option Answer} (policy : Policy) (previous : List Url)
    (hreplies : Replies current answer (.response status location)) :
    (∃ result, follow policy previous current status location = .ended result ∧
      EndsWith policy (current :: previous) current answer result) ∨
    ∃ next, follow policy previous current status location = .hop next ∧
      LeadsTo current answer next ∧ policy.follows = true ∧
      policy.admits (current :: previous) next = true := by
  cases hfollows : policy.follows with
  | false => exact .inl ⟨_, follow_of_final (.inl hfollows), .final hreplies (.inl hfollows)⟩
  | true =>
      cases htarget : redirectTarget? current status location with
      | none =>
          have hnowhere := redirectTarget?_eq_none_iff.mp htarget
          exact .inl ⟨_, follow_of_final (.inr htarget), .final hreplies (.inr hnowhere)⟩
      | some target =>
          have hredirect := redirectTarget?_eq_some_iff.mp htarget
          cases target with
          | foreign hasHost =>
              refine .inl ⟨_, follow_of_foreign hfollows htarget, ?_⟩
              exact .refused hreplies hfollows hredirect fun next h => nomatch h
          | web next =>
              rw [follow_of_web hfollows htarget]
              cases hadmits : policy.admits (current :: previous) next with
              | true => exact .inr ⟨next, rfl, ⟨status, location, hreplies, hredirect⟩, rfl, hadmits⟩
              | false =>
                  refine .inl ⟨_, rfl, .refused hreplies hfollows hredirect fun other h => ?_⟩
                  exact Reference.web.inj h ▸ hadmits

end Follow

/-- **What an answer makes of an exchange**: the target is not reached, or it is and the exchange is
over, or the answer leads to a target that the policy admits. -/
theorem step_cases (policy : Policy) (previous : List Url) (current : Url) (answer : Answer) :
    (∃ failure, step policy previous current answer = .shut failure ∧
      EndsWith policy (current :: previous) current (some answer) (.error failure)) ∨
    (∃ result, step policy previous current answer = .ended result ∧
      EndsWith policy (current :: previous) current (some answer) result) ∨
    ∃ next, step policy previous current answer = .hop next ∧ LeadsTo current (some answer) next ∧
      policy.follows = true ∧ policy.admits (current :: previous) next = true := by
  rw [step]
  cases hobstacle : obstacle? current answer.tunnel with
  | some failure => exact .inl ⟨failure, rfl, endsWith_of_obstacle hobstacle⟩
  | none =>
      obtain ⟨reply, tunnel⟩ := answer
      have hreplies : Replies current (some ⟨reply, tunnel⟩) reply :=
        ⟨tunnel, rfl, obstacle?_eq_none_iff.mp hobstacle⟩
      refine .inr ?_
      cases reply with
      | drop => exact .inl ⟨_, rfl, .closed hreplies⟩
      | hang => exact .inl ⟨_, rfl, .hung hreplies⟩
      | response status location => exact follow_cases policy previous hreplies

/-- **One hop of an exchange**: it ends there, as the answer to it says, or the answer leads to a target
that the policy admits, and it goes on from there. -/
theorem sendFrom_step (policy : Policy) (rule : HeaderRule) (given : List String)
    (previous : List Url) (current : Url) (answers : List Answer) :
    let hop (reached : Bool) : Hop := ⟨current, rule.headers given previous current, reached⟩
    (∃ reached result peer, EndsWith policy (current :: previous) current answers.head? result ∧
      sendFrom policy rule given previous current answers = ⟨[hop reached], result, peer⟩) ∨
    ∃ next answer rest, answers = answer :: rest ∧ LeadsTo current (some answer) next ∧
      policy.follows = true ∧ policy.admits (current :: previous) next = true ∧
      sendFrom policy rule given previous current answers =
        (sendFrom policy rule given (current :: previous) next rest).after (hop true) := by
  intro hop
  cases answers with
  | nil => exact .inl ⟨_, _, _, .silent, rfl⟩
  | cons answer rest =>
      rw [sendFrom]
      rcases step_cases policy previous current answer with ⟨failure, hstep, hend⟩ |
        ⟨result, hstep, hend⟩ | ⟨next, hstep, hleads, hfollows, hadmits⟩
      · exact .inl ⟨false, _, _, hend, by rw [hstep]⟩
      · exact .inl ⟨true, _, _, hend, by rw [hstep]⟩
      · exact .inr ⟨next, answer, rest, rfl, hleads, hfollows, hadmits, by rw [hstep]⟩

/-- **What holds of all exchanges.** It holds of those that end with their first hop, and it holds with
one more hop in front, from which the answer leads to a target that the policy admits. -/
theorem sendFrom_induction {policy : Policy} {rule : HeaderRule} {given : List String}
    {motive : List Url → Url → List Answer → Exchange → Prop}
    (last : ∀ previous current answers reached result peer,
      EndsWith policy (current :: previous) current answers.head? result →
      motive previous current answers
        ⟨[⟨current, rule.headers given previous current, reached⟩], result, peer⟩)
    (hop : ∀ previous current answer rest next, LeadsTo current (some answer) next →
      policy.follows = true → policy.admits (current :: previous) next = true →
      let later := sendFrom policy rule given (current :: previous) next rest
      motive (current :: previous) next rest later →
      motive previous current (answer :: rest)
        (later.after ⟨current, rule.headers given previous current, true⟩))
    (previous : List Url) (current : Url) (answers : List Answer) :
    motive previous current answers (sendFrom policy rule given previous current answers) := by
  induction answers generalizing previous current with
  | nil => exact last previous current [] _ _ _ .silent
  | cons answer rest ih =>
      obtain ⟨reached, result, peer, hend, hsent⟩ |
        ⟨next, other, others, heq, hleads, hfollows, hadmits, hsent⟩ :=
        sendFrom_step policy rule given previous current (answer :: rest)
      · rw [hsent]
        exact last previous current (answer :: rest) reached result peer hend
      · obtain ⟨rfl, rfl⟩ := List.cons.inj heq
        rw [hsent]
        exact hop previous current answer rest next hleads hfollows hadmits (ih _ _)

/-! ### All hops -/

/-- An exchange as it is told by the answers: the targets that it goes to, one after another, and its
result. There were hops before it, the latest of them first. -/
structure Journey (policy : Policy) (before : List Url) (start : Url) (answers : List Answer)
    (visited : List Url) (result : Except Failure Status) : Prop where
  starts : visited.head? = some start
  /-- The answer to each hop leads to the next target, and the policy admits that one. -/
  follows : ∀ i u v, visited[i]? = some u → visited[i + 1]? = some v →
    LeadsTo u answers[i]? v ∧ policy.follows = true ∧
      policy.admits ((visited.take (i + 1)).reverse ++ before) v = true
  /-- The answer to the last hop makes the result. -/
  ends : ∀ u, visited.getLast? = some u →
    EndsWith policy (visited.reverse ++ before) u answers[visited.length - 1]? result

/-- A policy looks at no more than so many redirects. -/
def Policy.StopsAfter (policy : Policy) (limit : Nat) : Prop :=
  ∀ previous next, policy.admits previous next = true → previous.length ≤ limit

namespace Journey

variable {policy : Policy} {before : List Url} {start next : Url} {answers rest : List Answer}
  {answer : Answer} {visited : List Url} {result : Except Failure Status} {limit : Nat}

/-- A journey has a first target. -/
theorem ne_nil (h : Journey policy before start answers visited result) : visited ≠ [] :=
  List.ne_nil_of_mem (List.mem_of_head? h.starts)

/-- A journey may end where it starts. -/
theorem single (h : EndsWith policy (start :: before) start answers.head? result) :
    Journey policy before start answers [start] result where
  starts := rfl
  follows i u v _ hv := nomatch hv
  ends u hu := by
    obtain rfl := Option.some.inj hu
    rw [List.length_singleton, Nat.sub_self, ← List.head?_eq_getElem?]
    exact h

/-- It may go on to a target that is admitted and from there. -/
theorem cons (hleads : LeadsTo start (some answer) next) (hfollows : policy.follows = true)
    (hadmits : policy.admits (start :: before) next = true)
    (h : Journey policy (start :: before) next rest visited result) :
    Journey policy before start (answer :: rest) (start :: visited) result where
  starts := rfl
  follows i u v hu hv := by
    cases i with
    | zero =>
        obtain rfl := Option.some.inj hu
        have hnext : visited.head? = some v := List.head?_eq_getElem? ▸ hv
        obtain rfl := Option.some.inj (h.starts.symm.trans hnext)
        exact ⟨hleads, hfollows, hadmits⟩
    | succ i =>
        obtain ⟨hstep, hmore, hnext⟩ := h.follows i u v hu hv
        refine ⟨hstep, hmore, ?_⟩
        rwa [List.take_succ_cons, List.reverse_cons, List.append_assoc]
  ends u hu := by
    obtain ⟨first, others, rfl⟩ := List.exists_cons_of_ne_nil h.ne_nil
    rw [List.getLast?_cons_cons] at hu
    have hend := h.ends u hu
    have hvisited : (start :: first :: others).reverse ++ before =
        (first :: others).reverse ++ start :: before := by
      rw [List.reverse_cons, List.append_assoc]
      rfl
    rw [hvisited]
    exact hend

/-- **A policy makes an end to every journey**, whatever the peer answers. -/
theorem length_le (h : Journey policy [] start answers visited result)
    (hstops : policy.StopsAfter limit) : visited.length ≤ limit + 1 := by
  by_cases hmore : 2 ≤ visited.length
  · obtain ⟨-, -, hadmits⟩ := h.follows (visited.length - 2) _ _
      (List.getElem?_eq_getElem (by omega)) (List.getElem?_eq_getElem (by omega))
    have hlimit := hstops _ _ hadmits
    rw [List.append_nil, List.length_reverse, List.length_take] at hlimit
    omega
  · omega

end Journey

end Vigil.Http
