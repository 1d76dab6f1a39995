import Vigil.Config.Problem
import Vigil.Yaml.Access

/-!
# Reading Configurations

A configuration is read from a document by the type of each setting; settings that are not known do
not count. A check is different: its settings are values of the types that their texts suggest, and
have to be of the right type then.
-/

namespace Vigil

open Yaml

/-- Log settings as a document gives them. -/
def LogSettings.read (n : Node) : Access LogSettings := do
  let fields ← Access.entries n
  return {
    level := ← Access.setting fields "level" (Access.optional Access.string) none
    format := ← Access.setting fields "format" (Access.optional Access.string) none
    probeEvents := ← Access.setting fields "probe_events" Access.flag false }

/-- Run settings as a document gives them. -/
def RunSettings.read (n : Node) : Access RunSettings := do
  let fields ← Access.entries n
  return {
    timeout := ← Access.setting fields "timeout" Access.duration defaultRunTimeout
    failureOnTimeout := ← Access.setting fields "on_timeout_return_failure" Access.flag false }

namespace CheckSettings

/-- One entry of a check. -/
inductive Part
  /-- The kind of its target. -/
  | kind (word : String)
  | field (key : String) (value : Json)
  /-- An entry under a number, which is not known. -/
  | other

/-- The depth that collections may have inside a check. -/
def partDepth : Nat := 123

/-- An entry as a document gives it. -/
def Part.read (key value : Node) : Access Part := do
  match ← Access.value partDepth key with
  | .str "type" => return .kind (← Access.string value)
  | .str key => return .field key (← Access.value partDepth value)
  | .num (.int n) =>
    if n < 0 then Access.fail
    else do
      let _ ← Access.value partDepth value
      return .other
  | _ => Access.fail

/-- The words for the kind of a target among parts. -/
def Part.kinds (parts : List Part) : List String :=
  parts.filterMap fun
    | .kind word => some word
    | _ => none

/-- The fields among parts. -/
def Part.fields (parts : List Part) : Json.Fields :=
  parts.filterMap fun
    | .field key value => some (key, value)
    | _ => none

/-- Whether each of some names occurs at most once as a key. -/
def atMostOnce (names : List String) (fields : Json.Fields) : Bool :=
  names.all fun name => (fields.filter (·.1 == name)).length ≤ 1

/-- The target of a kind with the settings among fields. -/
def targetOf? (kind : String) (fields : Json.Fields) : Option Target :=
  if kind = "url" then
    if atMostOnce UrlSettings.names fields then (UrlSettings.ofFields fields).toOption.map .url else none
  else if kind = "tcp" then
    if atMostOnce TcpSettings.names fields then (TcpSettings.ofFields fields).toOption.map .tcp else none
  else none

/-- The check that parts make up: one kind, one name that is a text, and the settings of a target. -/
def ofParts? (parts : List Part) : Option CheckSettings := do
  let fields := Part.fields parts
  match Part.kinds parts, fields.filter (·.1 == "name") with
  | [kind], [(_, .str name)] => return ⟨name, ← targetOf? kind (fields.filter (·.1 != "name"))⟩
  | _, _ => none

/-- A check as a document gives it. -/
def read (n : Node) : Access CheckSettings := do
  match ← Access.follow n with
  | .map tag entries =>
    if Access.isLocal tag then Access.fail
    else do
      let parts ← entries.mapM fun (key, value) => Part.read key value
      Access.lift? (ofParts? parts)
  | _ => Access.fail

end CheckSettings

/-- A probe as a document gives it. -/
def ProbeSettings.read (n : Node) : Access ProbeSettings := do
  let fields ← Access.entries n
  return {
    name := ← Access.required fields "name" Access.string
    summary := ← Access.setting fields "summary" (Access.optional Access.string) none
    allowPartialFailure := ← Access.setting fields "allow_partial_failure" Access.flag false
    checks := ← Access.required fields "checks" fun n => do
      (← Access.items n).mapM CheckSettings.read }

/-- A configuration as a document gives it. -/
def Config.read (n : Node) : Access Config := do
  let fields ← Access.entries n
  return {
    logging := ← Access.setting fields "logging" LogSettings.read {}
    run := ← Access.setting fields "run" RunSettings.read {}
    probes := ← Access.setting fields "probes" (fun n => do
      (← Access.items n).mapM ProbeSettings.read) [] }

namespace Config

/-- The configuration that a text says, valid or not. A text that holds no document says nothing, so
that all is as it is by default. -/
def parse? (text : String) : Option Config := do
  let d ← Document.ofChars? text.toList
  match d.root with
  | none => some {}
  | some root => d.read? (Config.read root)

/-- A configuration that has been found valid. -/
def validate (c : Config) : Except ConfigProblem Config :=
  match c.violations with
  | [] => .ok c
  | violations => .error (.invalid violations)

/-- The valid configuration that a text says. -/
def ofText (text : String) : Except ConfigProblem Config :=
  match parse? text with
  | none => .error .malformed
  | some c => c.validate

end Config

end Vigil
