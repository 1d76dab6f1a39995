import Vigil.Check.Live

/-!
# Checks of Targets

A check of a URL or of a TCP port, and the network that such checks meet. Where several checks are
carried out each one finds the network as those before it left it.
-/

namespace Vigil

/-- What checks find when they reach out: answers to lookups, the peer of exchanges, and what dials
come to. -/
structure Network where
  resolver : Resolver
  peer : Http.Peer
  dial : Dial

/-- A network that cannot be reached. -/
def Network.unreachable : Network :=
  ⟨⟨[]⟩, .unreachable, ⟨some 0, some "Network is unreachable (os error 101)"⟩⟩

/-- A check of a target. -/
inductive TargetCheck
  | url (check : UrlCheck)
  | tcp (check : TcpCheck)
  deriving Repr

namespace TargetCheck

/-- The surroundings of a URL check in a network. -/
def surroundings (net : Network) : UrlCheck.Surroundings := { resolver := net.resolver, peer := net.peer }

/-- The check as a run calls it. -/
def toCheck (net : Network) : TargetCheck → Check
  | url c => c.toCheck (surroundings net)
  | tcp c => c.toCheck net.resolver net.dial

/-- The requests of one execution, and the network after it. -/
def traffic (net : Network) : TargetCheck → List Http.Request × Network
  | url c =>
    let e := c.run (surroundings net)
    (e.requests, { net with resolver := e.after.resolver, peer := e.after.peer })
  | tcp c => ([], { net with resolver := (c.run net.resolver net.dial).resolver })

/-- Checks as a run calls each of them once, with all their requests and the network after them. -/
def toChecks (net : Network) : List TargetCheck → List Check × List Http.Request × Network
  | [] => ([], [], net)
  | c :: rest =>
    let (requests, after) := c.traffic net
    let (checks, later, net') := toChecks after rest
    (c.toCheck net :: checks, requests ++ later, net')

end TargetCheck

end Vigil
