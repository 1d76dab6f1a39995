import Vigil.Client.Slot
import Vigil.Dsn
import Vigil.Http.Exchange
import Vigil.Fault
import Vigil.Redaction
import Vigil.Settings.Target

/-!
# Checks of URLs

A check that fetches a URL: healthy on a success status, unhealthy on any other, a fault where no
final response comes. With private hosts blocked the host is validated anew before every fetch. The
client is kept between fetches until one fails or it is released.

## Main definitions

* `UrlCheck.build`, `UrlCheck.ofDsn`: a check from its settings or from a connection string;
* `UrlCheck.run`: one execution, with its hops and the names it looked up;
* `UrlCheck.uses`: executions and releases one after another.
-/

namespace Vigil

/-- A check of a URL. -/
structure UrlCheck where
  name : String
  settings : UrlSettings
  url : Url
  deriving Repr

namespace UrlCheck

/-- A check with the given settings. -/
def build (name : String) (settings : UrlSettings) : Except Fault UrlCheck :=
  match Guard.checkUrl settings.url settings.blockPrivate with
  | .error reason => .error (.refused reason)
  | .ok () =>
    match Url.ofText (Text.trim settings.url) with
    | .error e =>
      .error (.invalidInput ("invalid URL " ++ Text.quoted settings.url ++ ": " ++ e.message))
    | .ok url => .ok ⟨name, settings, url⟩

/-- The schemes of connection strings. -/
def dsnSchemes : List String := ["http", "https"]

/-- A check of the URL that a connection string is, with default settings. -/
def ofDsn (dsn : String) (name : Option String) : Except Fault UrlCheck := do
  let dsn ← Dsn.validate dsn dsnSchemes
  build (name.getD "HTTP") { url := dsn }

/-- The settings as events show them: the URL in its normal form and without its password. -/
def describe (c : UrlCheck) : Json.Fields :=
  Json.sortFields (c.settings.toFields ++
    [("url", .str (c.url.maskPassword Redaction.placeholder).text), ("name", .str c.name)])

/-- Which redirects the check follows. -/
def policy (c : UrlCheck) : Http.Policy :=
  if c.settings.followRedirects then
    if c.settings.blockPrivate then .guarded else .limited
  else .stay

/-- The credentials of the settings. -/
def credentials (c : UrlCheck) : Option (String × Option String) :=
  c.settings.username.map fun name => (name, c.settings.password)

/-- What a final response means. -/
def judge (c : UrlCheck) (status : Status) : Outcome :=
  if status.isSuccess then .ok
  else if c.settings.username.isSome ∧ status.isAuthRejection then
    .unhealthy ("Authentication rejected: " ++ status.text)
  else .unhealthy ("Unexpected status code: " ++ status.text)

/-- The wording of a failed exchange. -/
def failureText (c : UrlCheck) : Http.Failure → String
  | .transport => "error sending request for url (" ++ c.url.text ++ ")"
  | .timedOut => "operation timed out"
  | .redirectRefused => "error following redirect for url (" ++ c.url.text ++ ")"

/-- What surrounds a check: the resolver, the peer, its own client, and what the client library does with
credentials on redirects. -/
structure Surroundings where
  resolver : Resolver
  peer : Http.Peer
  client : ClientSlot := {}
  rule : Http.HeaderRule := .standard

/-- One execution of a check. -/
structure Execution where
  conclusion : Conclusion
  /-- The time that it took: none, except that a request without an answer takes all it is given. -/
  took : Nat
  hops : List Http.Hop
  asked : List String
  after : Surroundings

/-- The requests that an execution sent. -/
def Execution.requests (e : Execution) : List Http.Request := e.hops.flatMap Http.Hop.requests

/-- The host validated, where the settings ask for it. -/
def validate (c : UrlCheck) (resolver : Resolver) : Guard.HostCheck :=
  if c.settings.blockPrivate then Guard.checkHost c.url.host.text resolver else ⟨.ok (), [], resolver⟩

/-- The URL fetched with the client of the slot, after the names that were looked up. -/
def fetch (c : UrlCheck) (asked : List String) (s : Surroundings) : Execution :=
  let exchange := Http.send c.policy s.rule c.url c.credentials s.peer
  let after := { s with peer := exchange.peer }
  match exchange.result with
  | .ok status => ⟨.ok (c.judge status), 0, exchange.hops, asked, after⟩
  | .error failure =>
    ⟨.error ["HTTP request failed", c.failureText failure],
      if failure = .timedOut then c.settings.timeout.nanos else 0, exchange.hops, asked,
      { after with client := s.client.invalidate }⟩

/-- One execution of a check. -/
def run (c : UrlCheck) (s : Surroundings) : Execution :=
  let host := c.validate s.resolver
  let s := { s with resolver := host.resolver }
  match host.verdict with
  | .error reason => ⟨.error [reason.message], 0, [], host.asked, s⟩
  | .ok () =>
    match s.client.get with
    | (.error failure, client) => ⟨.error [failure], 0, [], host.asked, { s with client }⟩
    | (.ok _, client) => c.fetch host.asked { s with client }

/-- What is done with a check. -/
inductive Use
  /-- An execution, against a peer of its own. -/
  | check (peer : Http.Peer)
  /-- The client is given up. -/
  | release
  deriving Repr

/-- A use of a check. -/
structure Used where
  before : Surroundings
  /-- The execution, if that was the use. -/
  execution : Option Execution
  after : Surroundings

/-- One use of a check. -/
def use (c : UrlCheck) (s : Surroundings) : Use → Used
  | .check peer =>
    let before := { s with peer }
    let e := c.run before
    ⟨before, some e, e.after⟩
  | .release => ⟨s, none, { s with client := s.client.release.2 }⟩

/-- Uses one after another, each in the surroundings that the one before it left. -/
def uses (c : UrlCheck) (s : Surroundings) : List Use → List Used
  | [] => []
  | u :: rest =>
    let used := c.use s u
    used :: c.uses used.after rest

end UrlCheck

end Vigil
