import Vigil.Address.Reserved
import Vigil.Text.Blank
import Vigil.Text.Quoted
import Vigil.Url.Parser

/-!
# Guarding Targets

Which targets a check may reach. The scheme of a URL has to be `http` or `https`. With private hosts
blocked, a target may neither be a localhost name nor a reserved address, and neither may any
address that its name resolves to.

Validation has two phases. When a check is built, only what the text says is looked at. Before each
request the name is looked up as well, and nothing is remembered from one request to the next. A
lookup that fails does not speak against a target: the connection will fail by itself.

## Main definitions

* `Guard.checkUrl`: the phase of construction, for a URL;
* `Guard.checkLiteralHost`: the phase of construction, for a host;
* `Guard.question`, `Guard.judge`: the phase of the request, as what has to be looked up and what
  the answer means;
* `Guard.checkHost`: both against a resolver.
-/

namespace Vigil

open Vigil.Text

/-- Why a target is refused. -/
inductive Refusal
  | disallowedScheme (scheme : String)
  | localhost (host : String)
  | blockedAddress (address : Address)
  | resolvesToBlocked (host : String) (address : Address)
  deriving DecidableEq, Repr

/-- The wording of a refusal. -/
def Refusal.message : Refusal → String
  | disallowedScheme scheme =>
    "URL scheme must be one of [\"http\", \"https\"], got " ++ quoted scheme
  | localhost host =>
    "host " ++ quoted host ++ " must not be localhost when private hosts are blocked"
  | blockedAddress address => "host " ++ address.text ++ " is loopback, private or reserved"
  | resolvesToBlocked host address =>
    "host " ++ quoted host ++ " resolves to blocked address " ++ address.text

/-- A target is admitted, or refused for a reason. -/
abbrev Verdict := Except Refusal Unit

/-- The answer to one lookup: addresses, or `none` where the lookup failed. -/
abbrev Lookup := Option (List Address)

/-- A resolver with the answers it has yet to give. Without one a lookup fails. -/
structure Resolver where
  answers : List Lookup
  deriving Repr

/-- The next answer and the resolver after it. -/
def Resolver.ask (r : Resolver) : Lookup × Resolver :=
  match r.answers with
  | [] => (none, r)
  | a :: rest => (a, ⟨rest⟩)

namespace Guard

/-- The names by which a machine calls itself. -/
def localhostNames : List String :=
  ["localhost", "localhost.", "localhost6", "localhost6.localdomain6"]

/-- A text in lower case, as far as ASCII goes. -/
def lower (s : String) : String := String.ofList (s.toList.map Char.toLower)

/-- Whether a host is a localhost name in any case. -/
def isLocalhost (host : String) : Bool := localhostNames.contains (lower host)

/-- The text between brackets, or the text itself where it does not stand in brackets. -/
def unbracket (cs : List Char) : List Char :=
  match cs with
  | '[' :: rest => if rest.getLast? = some ']' then rest.dropLast else cs
  | _ => cs

/-- The host without blanks around it and without one pair of brackets. -/
def normalize (host : String) : String := String.ofList (unbracket (trimChars host.toList))

/-- What a scheme begins a text, or nothing. -/
def schemeOf (url : String) : String :=
  match Url.splitScheme? (dropBlanks url.toList) with
  | some (name, _) => String.ofList name
  | none => ""

/-- The verdict on a host that its text settles, and the name to look up otherwise. -/
inductive Question
  | settled (verdict : Verdict)
  | lookUp (name : String)

/-- What has to be known of a host before a request. -/
def question (host : String) : Question :=
  let host := normalize host
  if host.isEmpty then .settled (.ok ())
  else if isLocalhost host then .settled (.error (.localhost host))
  else
    match Address.ofText? host with
    | some a => .settled (if a.isReserved then .error (.blockedAddress a) else .ok ())
    | none => .lookUp host

/-- What the answer to a lookup of `name` means. -/
def judge (name : String) : Lookup → Verdict
  | none => .ok ()
  | some addresses =>
    match addresses.find? (·.isReserved) with
    | some a => .error (.resolvesToBlocked name a)
    | none => .ok ()

/-- The verdict on a host that is not looked up: other names than those of localhost pass. -/
def checkLiteralHost (host : String) : Verdict :=
  let host := normalize host
  if host.isEmpty then .ok ()
  else if isLocalhost host then .error (.localhost host)
  else
    match Address.ofText? host with
    | some a => if a.isReserved then .error (.blockedAddress a) else .ok ()
    | none => .ok ()

/-- What validation of a host came to. -/
structure HostCheck where
  verdict : Verdict
  /-- The names that the resolver was asked for. -/
  asked : List String
  resolver : Resolver

/-- The verdict on a host before a request. -/
def checkHost (host : String) (resolver : Resolver) : HostCheck :=
  match question host with
  | .settled verdict => ⟨verdict, [], resolver⟩
  | .lookUp name =>
    let (answer, resolver) := resolver.ask
    ⟨judge name answer, [name], resolver⟩

/-- The verdicts on hosts one after another, with one resolver. -/
def checkHosts (resolver : Resolver) : List String → List HostCheck
  | [] => []
  | host :: hosts =>
    let check := checkHost host resolver
    check :: checkHosts check.resolver hosts

/-- The verdict on a URL when a check is built. -/
def checkUrl (url : String) (blockPrivate : Bool) : Verdict :=
  let scheme := lower (schemeOf url)
  match Scheme.ofText? scheme with
  | none => .error (.disallowedScheme scheme)
  | some _ =>
    if blockPrivate then
      match Url.ofText (trim url) with
      | .error _ => .ok ()
      | .ok parsed => checkLiteralHost parsed.host.text
    else .ok ()

end Guard

end Vigil
