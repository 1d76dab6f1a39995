import Vigil.Guard
import Vigil.Http.Credentials
import Vigil.Http.Status

/-!
# Exchanges

One exchange with a peer: a target is asked for, and further targets as far as the peer redirects and
the client follows. Each of them is a hop. A secure target is asked for inside a tunnel, and what comes
back through that is treated like the reply to a plain request; where the tunnel is not opened the
exchange ends. Before each hop the policy is asked, and a refused hop ends the exchange without a
request.

Which credentials go along with a redirect is up to the client library, and a rule stands for it here.
The peer is a script that is used up answer by answer.

## Main definitions

* `Http.Policy`: which redirects are followed;
* `Http.HeaderRule`: which credentials go along with a hop;
* `Http.step`: what the answer to one request makes of an exchange;
* `Http.send`: the hops of an exchange and what it came to.
-/

namespace Vigil.Http

/-- What the peer does with a request. -/
inductive Reply
  | response (status : Status) (location : Option String)
  /-- The connection is closed without an answer. -/
  | drop
  /-- The request is never answered. -/
  | hang
  deriving DecidableEq, Repr

/-- What the peer does with a request for a tunnel to a secure target. -/
inductive Tunnel
  | opened
  | refused
  /-- The request is never answered. -/
  | hang
  deriving DecidableEq, Repr

/-- What the peer does when a target is asked for: with the request and, if the target is secure, with
the request for a tunnel before it. -/
structure Answer where
  reply : Reply
  tunnel : Tunnel := .refused
  deriving DecidableEq, Repr

/-- The peer of an exchange. -/
inductive Peer
  /-- No connection can be made. -/
  | unreachable
  /-- A peer with the answers it has yet to give; without one it opens no tunnel and drops the
  connection. -/
  | script (answers : List Answer)
  deriving DecidableEq, Repr

/-- A request that was sent. -/
inductive Request
  | get (target : Url) (authorization : List String)
  /-- A request for a tunnel to a secure target. -/
  | connect (host : Url.Host) (port : Nat)
  deriving DecidableEq, Repr

/-- A target that was asked for, with the credentials that go along. -/
structure Hop where
  target : Url
  authorization : List String
  /-- Whether the request was sent, which takes a tunnel if the target is secure. -/
  reached : Bool
  deriving DecidableEq, Repr

/-- The requests of a hop: that for a tunnel, if the target is secure, and then the one for the
target. -/
def Hop.requests (h : Hop) : List Request :=
  let get := Request.get h.target.withoutFragment h.authorization
  match h.target.scheme with
  | .http => [get]
  | .https =>
    .connect h.target.host h.target.effectivePort :: if h.reached then [get] else []

/-! ### What the client is set up with -/

/-- The most redirects that are followed. -/
def maxRedirects : Nat := 10

/-- Which redirects a client follows. -/
structure Policy where
  /-- Whether it follows any. -/
  follows : Bool
  /-- Whether it goes on to a target after hops to others, the latest of them first. -/
  admits : (previous : List Url) → (next : Url) → Bool

namespace Policy

/-- No redirect is followed. -/
def stay : Policy := ⟨false, fun _ _ => false⟩

/-- Any are, up to the most. The first target is no redirect and does not count. -/
def limited : Policy := ⟨true, fun previous _ => previous.length ≤ maxRedirects⟩

/-- Those are whose target is admitted with private hosts blocked. All targets count. -/
def guarded : Policy :=
  ⟨true, fun previous next =>
    previous.length < maxRedirects && (Guard.checkUrl next.text true).isOk⟩

end Policy

/-- Whether two URLs have the same host and port. -/
def sameOrigin (u v : Url) : Bool := u.host == v.host && u.effectivePort == v.effectivePort

/-- How credentials are treated on redirects: which of those given to the first request go along to a
target after hops to others, the latest of them first. -/
structure HeaderRule where
  carried : (given : List String) → (previous : List Url) → (next : Url) → List String

namespace HeaderRule

/-- What a request carries: the first one what is given, a later one what the rule lets go along. -/
def headers (rule : HeaderRule) (given : List String) : List Url → Url → List String
  | [], _ => given
  | previous, next => rule.carried given previous next

/-- What is left of credentials that are dropped whenever host or port change. -/
def leftOver (given : List String) : List Url → Url → List String
  | [], _ => given
  | current :: previous, next =>
    if sameOrigin current next then leftOver given previous current else []

/-- Credentials are dropped, for good, where a hop leads to another host or port. -/
def standard : HeaderRule := ⟨leftOver⟩

end HeaderRule

/-! ### Exchanges -/

/-- Why an exchange has no final response. -/
inductive Failure
  | transport
  | timedOut
  | redirectRefused
  deriving DecidableEq, Repr

/-- An exchange that has come to its end. -/
structure Exchange where
  hops : List Hop
  result : Except Failure Status
  peer : Peer
  deriving Repr

/-- The exchange with one more hop in front. -/
def Exchange.after (hop : Hop) (e : Exchange) : Exchange := { e with hops := hop :: e.hops }

/-- All requests of an exchange. -/
def Exchange.requests (e : Exchange) : List Request := e.hops.flatMap Hop.requests

/-- Where a response sends the client, if it is a redirect that can be followed. -/
def redirectTarget? (current : Url) (status : Status) (location : Option String) :
    Option Url.Reference :=
  if status.isRedirect then
    match location with
    | none => none
    | some reference =>
      match current.resolve reference with
      | .ok (.foreign false) => none
      | .ok target => some target
      | .error _ => none
  else none

/-- Why a target is not reached, if it is not: it is secure, and its tunnel is not opened. -/
def obstacle? (target : Url) (tunnel : Tunnel) : Option Failure :=
  match target.scheme with
  | .http => none
  | .https =>
    match tunnel with
    | .opened => none
    | .refused => some .transport
    | .hang => some .timedOut

/-- How an exchange goes on after a hop. -/
inductive Step
  /-- The target was not reached. -/
  | shut (failure : Failure)
  | ended (result : Except Failure Status)
  /-- There is another hop. -/
  | hop (next : Url)
  deriving Repr

/-- What a response makes of an exchange that came to a target after others. -/
def follow (policy : Policy) (previous : List Url) (current : Url) (status : Status)
    (location : Option String) : Step :=
  match redirectTarget? current status location with
  | none => .ended (.ok status)
  | some target =>
    if policy.follows then
      match target with
      | .foreign _ => .ended (.error .redirectRefused)
      | .web next =>
        if policy.admits (current :: previous) next then .hop next
        else .ended (.error .redirectRefused)
    else .ended (.ok status)

/-- What an answer makes of an exchange that came to a target after others. -/
def step (policy : Policy) (previous : List Url) (current : Url) (answer : Answer) : Step :=
  match obstacle? current answer.tunnel with
  | some failure => .shut failure
  | none =>
    match answer.reply with
    | .drop => .ended (.error .transport)
    | .hang => .ended (.error .timedOut)
    | .response status location => follow policy previous current status location

/-- The exchange from a target on, after hops to others, the latest of them first. -/
def sendFrom (policy : Policy) (rule : HeaderRule) (given : List String) (previous : List Url)
    (current : Url) : List Answer → Exchange
  | [] =>
    ⟨[⟨current, rule.headers given previous current, current.scheme = .http⟩], .error .transport,
      .script []⟩
  | answer :: rest =>
    let hop (reached : Bool) : Hop := ⟨current, rule.headers given previous current, reached⟩
    match step policy previous current answer with
    | .shut failure => ⟨[hop false], .error failure, .script (answer :: rest)⟩
    | .ended result => ⟨[hop true], result, .script rest⟩
    | .hop next => (sendFrom policy rule given (current :: previous) next rest).after (hop true)

/-- The first target of an exchange with a URL and the credentials given to its request. Those in the
URL go in front of the others. -/
def opening (url : Url) (credentials : Option (String × Option String)) : Url × List String :=
  let given := credentials.toList.map fun (name, secret) => basicHeader name secret
  match urlCredentials? url with
  | some (name, secret) => (url.withoutUserinfo, basicHeader name secret :: given)
  | none => (url, given)

/-- The exchange that begins with a URL. -/
def send (policy : Policy) (rule : HeaderRule) (url : Url)
    (credentials : Option (String × Option String)) : Peer → Exchange
  | .unreachable => ⟨[], .error .transport, .unreachable⟩
  | .script answers =>
    let (first, given) := opening url credentials
    sendFrom policy rule given [] first answers

end Vigil.Http
