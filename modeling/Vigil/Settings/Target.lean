import Vigil.Settings.Reading

/-!
# Settings of Targets

What a check needs to know of its target, a URL or a TCP port. Settings are read from an object,
whose unknown fields do not count, or from a list in the order of the fields, and are written as an
object ordered by key.
-/

namespace Vigil

/-- The time that a check allows itself where nothing else is set: five seconds. -/
def defaultCheckTimeout : Duration := Duration.seconds 5

/-- The settings of a check of a URL. -/
structure UrlSettings where
  url : String := ""
  username : Option String := none
  password : Option String := none
  verifyTls : Bool := true
  followRedirects : Bool := true
  timeout : Duration := defaultCheckTimeout
  /-- Whether loopback, private and reserved targets are refused. -/
  blockPrivate : Bool := false
  deriving DecidableEq, Repr

namespace UrlSettings

/-- The names of the settings in their order. -/
def names : List String :=
  ["url", "username", "password", "verify_ssl", "follow_redirects", "timeout", "block_private_hosts"]

/-- The settings with one more field read. -/
def readField (s : UrlSettings) : String × Json → Reading UrlSettings
  | ("url", v) => do return { s with url := ← Reading.string v }
  | ("username", v) => do return { s with username := ← Reading.optional Reading.string v }
  | ("password", v) => do return { s with password := ← Reading.optional Reading.string v }
  | ("verify_ssl", v) => do return { s with verifyTls := ← Reading.flag v }
  | ("follow_redirects", v) => do return { s with followRedirects := ← Reading.flag v }
  | ("timeout", v) => do return { s with timeout := ← Reading.duration v }
  | ("block_private_hosts", v) => do return { s with blockPrivate := ← Reading.flag v }
  | _ => .ok s

/-- The settings that fields stand for. -/
def ofFields (fields : Json.Fields) : Reading UrlSettings := Reading.fields readField {} fields

/-- The settings that a value stands for. -/
def ofJson : Json → Reading UrlSettings
  | .obj fields => ofFields fields
  | .arr items => Reading.placed readField names {} items
  | v => .error (.wrongType v "struct UrlConfig")

/-- The fields of the settings, ordered by key. -/
def toFields (s : UrlSettings) : Json.Fields :=
  [("block_private_hosts", .bool s.blockPrivate),
    ("follow_redirects", .bool s.followRedirects),
    ("password", Json.optional s.password),
    ("timeout", .str s.timeout.text),
    ("url", .str s.url),
    ("username", Json.optional s.username),
    ("verify_ssl", .bool s.verifyTls)]

/-- The value of the settings. -/
def toJson (s : UrlSettings) : Json := .obj s.toFields

end UrlSettings

/-- The settings of a check of a TCP port. -/
structure TcpSettings where
  host : String
  port : Fin 65536
  timeout : Duration := defaultCheckTimeout
  /-- Whether loopback, private and reserved targets are refused. -/
  blockPrivate : Bool := false
  deriving DecidableEq, Repr

namespace TcpSettings

/-- The names of the settings in their order. -/
def names : List String := ["host", "port", "timeout", "block_private_hosts"]

/-- Settings of which some are not yet known. -/
structure Draft where
  host : Option String := none
  port : Option (Fin 65536) := none
  timeout : Duration := defaultCheckTimeout
  blockPrivate : Bool := false

/-- The draft with one more field read. -/
def Draft.readField (s : Draft) : String × Json → Reading Draft
  | ("host", v) => do return { s with host := some (← Reading.string v) }
  | ("port", v) => do return { s with port := some (← Reading.port v) }
  | ("timeout", v) => do return { s with timeout := ← Reading.duration v }
  | ("block_private_hosts", v) => do return { s with blockPrivate := ← Reading.flag v }
  | _ => .ok s

/-- The settings of a draft; host and port cannot be left out. -/
def Draft.finish (s : Draft) (missing : String → Misfit) : Reading TcpSettings :=
  match s.host, s.port with
  | some host, some port => .ok ⟨host, port, s.timeout, s.blockPrivate⟩
  | none, _ => .error (missing "host")
  | some _, none => .error (missing "port")

/-- The settings that fields stand for. -/
def ofFields (fields : Json.Fields) : Reading TcpSettings := do
  (← Reading.fields Draft.readField {} fields).finish .missing

/-- The settings that a value stands for. -/
def ofJson : Json → Reading TcpSettings
  | .obj fields => ofFields fields
  | .arr items => do
    let draft ← Reading.placed Draft.readField names {} items
    draft.finish fun _ => .wrongLength items.length "struct TcpConfig with 4 elements"
  | v => .error (.wrongType v "struct TcpConfig")

/-- The fields of the settings, ordered by key. -/
def toFields (s : TcpSettings) : Json.Fields :=
  [("block_private_hosts", .bool s.blockPrivate),
    ("host", .str s.host),
    ("port", Json.nat s.port),
    ("timeout", .str s.timeout.text)]

/-- The value of the settings. -/
def toJson (s : TcpSettings) : Json := .obj s.toFields

end TcpSettings

end Vigil
