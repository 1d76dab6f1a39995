import Vigil.Guard
import Vigil.Fault
import Vigil.Settings.Target

/-!
# Checks of TCP Ports

A check that opens a connection and drops it again, healthy when the connection is made in time.
What the network does is given as a dial; the check decides what it means.
-/

namespace Vigil

/-- What an attempt to open a connection comes to. -/
structure Dial where
  /-- The time until it is settled, if it ever is. -/
  delay : Option Nat
  /-- Why no connection was made. -/
  failure : Option String
  deriving DecidableEq, Repr

/-- A check of a TCP port. -/
structure TcpCheck where
  name : String
  settings : TcpSettings
  deriving Repr

namespace TcpCheck

/-- A check with the given settings. -/
def build (name : String) (settings : TcpSettings) : Except Fault TcpCheck :=
  if (Text.trim settings.host).isEmpty then .error (.invalidInput "TCP check host cannot be empty")
  else if settings.blockPrivate then
    match Guard.checkLiteralHost settings.host with
    | .error reason => .error (.refused reason)
    | .ok () => .ok ⟨name, settings⟩
  else .ok ⟨name, settings⟩

/-- The settings as events show them. -/
def describe (c : TcpCheck) : Json.Fields :=
  Json.sortFields (c.settings.toFields ++ [("name", .str c.name)])

/-- The host that is connected to: without blanks around it and one pair of brackets. -/
def connectHost (c : TcpCheck) : String := Guard.normalize c.settings.host

/-- What a dial means. -/
def judge (c : TcpCheck) (dial : Dial) : Outcome :=
  let inTime : Bool :=
    match dial.delay with
    | some delay => delay ≤ c.settings.timeout.nanos
    | none => false
  if inTime then
    match dial.failure with
    | none => .ok
    | some reason => .unhealthy ("Connection failed: " ++ reason)
  else .unhealthy ("Connection timed out after " ++ c.settings.timeout.debugText)

/-- One execution of a check. -/
structure Execution where
  conclusion : Conclusion
  asked : List String
  resolver : Resolver

/-- The host validated, where the settings ask for it. -/
def validate (c : TcpCheck) (resolver : Resolver) : Guard.HostCheck :=
  if c.settings.blockPrivate then Guard.checkHost c.connectHost resolver else ⟨.ok (), [], resolver⟩

/-- One execution of a check, with what dialling comes to. -/
def run (c : TcpCheck) (resolver : Resolver) (dial : Dial) : Execution :=
  let host := c.validate resolver
  match host.verdict with
  | .error reason => ⟨.error [reason.message], host.asked, host.resolver⟩
  | .ok () => ⟨.ok (c.judge dial), host.asked, host.resolver⟩

end TcpCheck

end Vigil
