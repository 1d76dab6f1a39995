import Vigil.Settings.Target

/-!
# Configurations

What a file of probes says: how to log, how to run, and the probes with their checks. A check is a
name and the settings of its target.
-/

namespace Vigil

/-- How to log. -/
structure LogSettings where
  /-- Which lines are logged. -/
  level : Option String := none
  format : Option String := none
  /-- Whether the events of runs are logged as well. -/
  probeEvents : Bool := false
  deriving DecidableEq, Repr

/-- Whether log lines are structured; the case of the format does not count. -/
def LogSettings.isJson (s : LogSettings) : Bool :=
  s.format.any fun f => f.toList.map Char.toLower == "json".toList

/-- The budget of a run where nothing else is set: ten seconds. -/
def defaultRunTimeout : Duration := Duration.seconds ⟨10, by decide⟩

/-- How to run probes. -/
structure RunSettings where
  timeout : Duration := defaultRunTimeout
  /-- Whether pending checks are reported as failed when the budget is used up. -/
  failureOnTimeout : Bool := false
  deriving DecidableEq, Repr

/-- What a check looks at. -/
inductive Target
  | url (settings : UrlSettings)
  | tcp (settings : TcpSettings)
  deriving DecidableEq, Repr

/-- A check as it is configured. -/
structure CheckSettings where
  name : String
  target : Target
  deriving DecidableEq, Repr

/-- A probe as it is configured. -/
structure ProbeSettings where
  name : String
  summary : Option String := none
  allowPartialFailure : Bool := false
  checks : List CheckSettings
  deriving DecidableEq, Repr

/-- A configuration. -/
structure Config where
  logging : LogSettings := {}
  run : RunSettings := {}
  probes : List ProbeSettings := []
  deriving DecidableEq, Repr

/-- The value of the log settings. -/
def LogSettings.toJson (s : LogSettings) : Json :=
  .obj [("format", Json.optional s.format), ("level", Json.optional s.level),
    ("probe_events", .bool s.probeEvents)]

/-- The value of the run settings. -/
def RunSettings.toJson (s : RunSettings) : Json :=
  .obj [("on_timeout_return_failure", .bool s.failureOnTimeout), ("timeout", .str s.timeout.text)]

/-- The name of a kind of target. -/
def Target.kind : Target → String
  | url _ => "url"
  | tcp _ => "tcp"

/-- The fields of a target's settings. -/
def Target.toFields : Target → Json.Fields
  | url settings => settings.toFields
  | tcp settings => settings.toFields

/-- The value of a check's settings. -/
def CheckSettings.toJson (c : CheckSettings) : Json :=
  Json.ofFields (c.target.toFields ++ [("name", .str c.name), ("type", .str c.target.kind)])

/-- The value of a probe's settings. -/
def ProbeSettings.toJson (p : ProbeSettings) : Json :=
  .obj [("allow_partial_failure", .bool p.allowPartialFailure),
    ("checks", .arr (p.checks.map CheckSettings.toJson)), ("name", .str p.name),
    ("summary", Json.optional p.summary)]

/-- The value of a configuration. -/
def Config.toJson (c : Config) : Json :=
  .obj [("logging", c.logging.toJson), ("probes", .arr (c.probes.map ProbeSettings.toJson)),
    ("run", c.run.toJson)]

end Vigil
