import Vigil.Check.Target
import Vigil.Config.Problem
import Vigil.Probe

/-!
# Configured Probes

Probes are built from a configuration by name. Names are looked up before any check is built; then
the selected probes are built in the order of the configuration, however they were asked for.
-/

namespace Vigil

/-- A probe whose checks have been built. -/
structure ConfiguredProbe where
  name : String
  summary : Option String
  allowPartialFailure : Bool
  checks : List TargetCheck
  deriving Repr

/-- The probe in a network where each of its checks is called once, with the requests of the checks
and the network after them. -/
def ConfiguredProbe.toProbe (net : Network) (p : ConfiguredProbe) : Probe × List Http.Request × Network :=
  let (checks, requests, after) := TargetCheck.toChecks net p.checks
  (⟨p.name, checks, p.summary, p.allowPartialFailure⟩, requests, after)

/-- Probes in a network where each is run once, one after another. -/
def ConfiguredProbe.toProbes (net : Network) : List ConfiguredProbe → List Probe × List Http.Request × Network
  | [] => ([], [], net)
  | p :: rest =>
    let (probe, requests, after) := p.toProbe net
    let (probes, later, net') := toProbes after rest
    (probe :: probes, requests ++ later, net')

/-- The check of some settings. -/
def CheckSettings.build (c : CheckSettings) : Except Fault TargetCheck :=
  match c.target with
  | .url settings => (UrlCheck.build c.name settings).map .url
  | .tcp settings => (TcpCheck.build c.name settings).map .tcp

/-- The probe of some settings. The first check that cannot be built is the problem. -/
def ProbeSettings.build (p : ProbeSettings) : Except ConfigProblem ConfiguredProbe :=
  match p.checks.mapM CheckSettings.build with
  | .error source => .error (.invalidCheck p.name source)
  | .ok checks => .ok ⟨p.name, p.summary, p.allowPartialFailure, checks⟩

namespace Config

/-- Whether a probe of that name is configured. -/
def hasProbe (c : Config) (name : String) : Bool := c.probes.any (·.name == name)

/-- The probes of some names in the order of the configuration, all of them if there are no names. -/
def selected (c : Config) (names : List String) : List ProbeSettings :=
  c.probes.filter fun p => names.isEmpty || names.contains p.name

/-- The probes of some names, built. -/
def buildProbes (c : Config) (names : List String) : Except ConfigProblem (List ConfiguredProbe) :=
  match names.find? (!c.hasProbe ·) with
  | some name => .error (.unknownProbe name)
  | none => (c.selected names).mapM ProbeSettings.build

end Config

end Vigil
