import Vigil.Proofs.Redaction
import Vigil.Run.Hooks

/-!
# Reading the Events of a Run

An event reaches its sink redacted. This module reads such an event back: `Note.ofEvent?` looks at
its name and at those of its fields that the name calls for. Redaction leaves these fields alone,
because none of their keys names a credential, so that each event of a run reads as what it was made
to tell.

## Main results

* `Note.ofEvent?_probeStart`, `Note.ofEvent?_checkStart`, `Note.ofEvent?_checkEnd`,
  `Note.ofEvent?_probeTimeout`, `Note.ofEvent?_probeEnd`: what the events of a run tell.
-/

namespace Vigil

namespace Run

/-- What an event of a run tells. -/
inductive Note
  | probeStart
  | checkStart (index : Nat) (check : String)
  | checkEnd (index : Nat) (check : String) (healthy : Bool) (detail : Option String)
  | probeTimeout (pending : List String)
  | probeEnd (healthy : Bool)
  deriving DecidableEq, Repr

namespace Note

/-! ### Values of fields -/

/-- The count that a value stands for. -/
def count? : Json → Option Nat
  | .num (.int n) => n.toNat?
  | _ => none

/-- The truth value that a value stands for. -/
def flag? : Json → Option Bool
  | .bool b => some b
  | _ => none

/-- The text that a value stands for. -/
def text? : Json → Option String
  | .str s => some s
  | _ => none

/-- The text that a value stands for, if there is one. -/
def optional? : Json → Option (Option String)
  | .null => some none
  | v => (text? v).map some

/-- The texts that a value stands for. -/
def texts? : Json → Option (List String)
  | .arr items => items.mapM text?
  | _ => none

/-- What an event tells, going by its name and fields. -/
def ofEvent? (e : Event) : Option Note :=
  let field (key : String) := Json.field? key e.fields
  if e.name = "probe_start" then some .probeStart
  else if e.name = "check_start" then do
    return .checkStart (← field "index" >>= count?) (← field "check" >>= text?)
  else if e.name = "check_end" then do
    return .checkEnd (← field "index" >>= count?) (← field "check" >>= text?)
      (← field "healthy" >>= flag?) (← field "detail" >>= optional?)
  else if e.name = "probe_timeout" then do
    return .probeTimeout (← field "pending" >>= texts?)
  else if e.name = "probe_end" then do
    return .probeEnd (← field "healthy" >>= flag?)
  else none

/-- A count reads as itself. -/
theorem count?_nat (n : Nat) : count? (Json.nat n) = some n := rfl

/-- A list of texts reads as itself. -/
theorem texts?_arr (texts : List String) : texts? (.arr (texts.map .str)) = some texts := by
  rw [texts?]
  induction texts with
  | nil => rfl
  | cons text rest ih =>
      rw [List.map_cons, List.mapM_cons, ih]
      rfl

/-- A text that may be absent reads as itself. -/
theorem optional?_optional (text : Option String) : optional? (Json.optional text) = some text := by
  cases text <;> rfl

/-! ### The events of a run -/

/-- None of the keys that are read names a credential. -/
theorem isSecret_key {key : String}
    (h : key ∈ ["check", "detail", "healthy", "index", "pending"]) :
    Redaction.isSecret key = false := by
  have hall : ∀ key ∈ ["check", "detail", "healthy", "index", "pending"],
      Redaction.isSecret key = false := by
    decide +kernel
  exact hall key h

/-- An event keeps its name. -/
@[simp] theorem name_emit (level : Level) (name : String) (fields : Json.Fields) :
    (Event.emit level name fields).name = name := rfl

/-- A field under such a key is redacted by itself. -/
theorem field?_emit {level : Level} {name key : String} {fields : Json.Fields}
    (h : key ∈ ["check", "detail", "healthy", "index", "pending"]) :
    Json.field? key (Event.emit level name fields).fields =
      (Json.field? key fields).map Redaction.redact := by
  rw [Event.emit, Redaction.field?_redactFields, isSecret_key h]
  rfl

/-- The beginning of a run reads as such. -/
theorem ofEvent?_probeStart (probe : Probe) (timeout : Option Duration) :
    ofEvent? (Run.probeStart probe timeout) = some .probeStart := rfl

/-- The dispatch of a check tells its index and its name. -/
theorem ofEvent?_checkStart (probe : String) (check : Check) (index : Nat) :
    ofEvent? (Run.checkStart probe check index) = some (.checkStart index check.name) := by
  simp [ofEvent?, Run.checkStart, field?_emit, Json.field?, Redaction.redact,
    Redaction.redact_nat, count?_nat, text?]

/-- The end of a check tells its index and what its result says. -/
theorem ofEvent?_checkEnd (probe : String) (index : Nat) (result : CheckResult) :
    ofEvent? (Run.checkEnd probe index result) =
      some (.checkEnd index result.name result.healthy result.detail) := by
  simp [ofEvent?, Run.checkEnd, field?_emit, Json.field?, Redaction.redact, Redaction.redact_nat,
    Redaction.redact_optional, count?_nat, text?, flag?, optional?_optional]

/-- The event of the deadline tells the names of the pending checks. -/
theorem ofEvent?_probeTimeout (probe : String) (budget : Duration) (pending : List String) :
    ofEvent? (Run.probeTimeout probe budget pending) = some (.probeTimeout pending) := by
  simp [ofEvent?, Run.probeTimeout, field?_emit, Json.field?, Redaction.redact,
    Redaction.redactItems_texts, texts?_arr]

/-- The end of a run tells its verdict. -/
theorem ofEvent?_probeEnd (report : Report) (elapsed : Duration) :
    ofEvent? (Run.probeEnd report elapsed) = some (.probeEnd report.healthy) := by
  simp [ofEvent?, Run.probeEnd, field?_emit, Json.field?, Redaction.redact, flag?]

end Note

end Run

end Vigil
