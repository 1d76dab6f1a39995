import Vigil.Http.Status
import Vigil.Json.Reader
import Vigil.Run.Runner

/-!
# Endpoints

A probe exposed as an endpoint: the probe is run with pending checks reported as failed, and the
report is rendered into a status, headers and a body. A status that carries no content has neither
body nor headers.
-/

namespace Vigil

/-- What makes the body of a response from a report, if there is to be one. -/
abbrev Handler := Report → Option Json

/-- The body that only tells the verdict. -/
def Handler.status : Handler := fun report => some (.obj [("status", .str (healthWord report.healthy))])

/-- How reports are rendered. -/
structure EndpointOptions where
  successStatus : Status := .noContent
  failureStatus : Status := .serviceUnavailable
  /-- Whether an unhealthy report is given in full. -/
  debug : Bool := false
  timeout : Option Duration := none
  successHandler : Handler := .status
  failureHandler : Handler := .status

namespace EndpointOptions

/-- The options on one line, for messages; the handlers do not show. -/
def debugText (o : EndpointOptions) : String :=
  let timeout :=
    match o.timeout with
    | none => "None"
    | some d => "Some(" ++ d.debugText ++ ")"
  "EndpointOptions \x7b success_status: " ++ Text.decimal o.successStatus.code ++ ", failure_status: " ++
    Text.decimal o.failureStatus.code ++ ", debug: " ++ (if o.debug then "true" else "false") ++
    ", timeout: " ++ timeout ++ ", .. \x7d"

end EndpointOptions

/-- A response to a request for a probe. -/
structure Response where
  status : Status
  headers : List (String × String)
  body : String
  deriving DecidableEq, Repr

/-- The value that the body of a response holds, if there is a body. -/
def Response.json? (r : Response) : Option Json := if r.body.isEmpty then none else Json.ofText? r.body

namespace Endpoint

/-- The path of a probe under a path that it is mounted at, with one slash between them. -/
def routePath (mount name : String) : String :=
  let mount := mount.toList
  let mount := if mount.getLast? = some '/' then mount.dropLast else mount
  let name :=
    match name.toList with
    | '/' :: rest => rest
    | cs => cs
  String.ofList (mount ++ ['/'] ++ name)

/-- Whether a response of that status carries content. -/
def hasContent (status : Status) (healthy : Bool) : Bool :=
  if status = .noContent ∨ status = .notModified then false
  else !(healthy && status.isInformational)

/-- The content of a response. -/
def content (options : EndpointOptions) (report : Report) : Option Json :=
  if options.debug && !report.healthy then some report.toJson.sorted
  else if report.healthy then options.successHandler report
  else options.failureHandler report

/-- The response that a report is rendered into. -/
def render (options : EndpointOptions) (report : Report) : Response :=
  let status := if report.healthy then options.successStatus else options.failureStatus
  match (if hasContent status report.healthy then content options report else none) with
  | none => ⟨status, [], ""⟩
  | some value =>
    let body := value.text
    ⟨status,
      [("content-length", Text.decimal body.utf8ByteSize), ("content-type", "application/json")], body⟩

/-- The runner of an endpoint. -/
def runner (options : EndpointOptions) (hooks : Option Hooks) : Runner :=
  ⟨options.timeout, true, hooks⟩

end Endpoint

end Vigil
