import Vigil.Check.Basic
import Vigil.Check.Tcp
import Vigil.Check.Url

/-!
# Checks That Reach Out

Checks of URLs and of TCP ports as a run calls them: each call finds the surroundings as the call
before it left them.
-/

namespace Vigil

namespace UrlCheck

/-- The surroundings after `n` executions. -/
def surroundingsAfter (c : UrlCheck) (s : Surroundings) : Nat → Surroundings
  | 0 => s
  | n + 1 => (c.run (c.surroundingsAfter s n)).after

/-- The check as a run calls it. -/
def toCheck (c : UrlCheck) (s : Surroundings) : Check where
  name := c.name
  describe := c.describe
  holdsResources := true
  work n :=
    let e := c.run (c.surroundingsAfter s n)
    ⟨some e.took, .concluded e.conclusion⟩

end UrlCheck

namespace TcpCheck

/-- The resolver after `n` executions. -/
def resolverAfter (c : TcpCheck) (resolver : Resolver) (dial : Dial) : Nat → Resolver
  | 0 => resolver
  | n + 1 => (c.run (c.resolverAfter resolver dial n) dial).resolver

/-- The check as a run calls it, with what every dial comes to. -/
def toCheck (c : TcpCheck) (resolver : Resolver) (dial : Dial) : Check where
  name := c.name
  describe := c.describe
  work n :=
    let e := c.run (c.resolverAfter resolver dial n) dial
    let limit := c.settings.timeout.nanos
    let delay := if e.conclusion.isOk then min limit (dial.delay.getD limit) else 0
    ⟨some delay, .concluded e.conclusion⟩

end TcpCheck

end Vigil
