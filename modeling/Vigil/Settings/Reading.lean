import Vigil.Duration.Text
import Vigil.Json.Printer
import Vigil.Text.Quoted

/-!
# Reading Settings

Settings arrive as structured values and are read by type. Reading is strict: a text is not taken
for a number, nor a number for a text. What does not fit is reported with what was found and what
was expected.
-/

namespace Vigil

/-- Why a value does not fit the setting that it is given for. -/
inductive Misfit
  /-- A value of another type. -/
  | wrongType (found : Json) (expected : String)
  /-- A value of the right type that is out of range. -/
  | wrongValue (found : Json) (expected : String)
  | missing (name : String)
  /-- A list of another length than the settings have. -/
  | wrongLength (length : Nat) (expected : String)
  deriving Repr

/-- How a value is named where it was not expected. -/
def Json.described : Json → String
  | .null => "null"
  | .bool b => "boolean `" ++ (if b then "true" else "false") ++ "`"
  | .num (.int n) => "integer `" ++ String.ofList (Json.numberChars (.int n)) ++ "`"
  | .num (.real x) => "floating point `" ++ x.text ++ "`"
  | .str s => "string " ++ Text.quoted s
  | .arr _ => "sequence"
  | .obj _ => "map"

/-- The wording of a misfit. -/
def Misfit.message : Misfit → String
  | wrongType found expected => "invalid type: " ++ found.described ++ ", expected " ++ expected
  | wrongValue found expected => "invalid value: " ++ found.described ++ ", expected " ++ expected
  | missing name => "missing field `" ++ name ++ "`"
  | wrongLength n expected => "invalid length " ++ Text.decimal n ++ ", expected " ++ expected

/-- A setting that was read, or why it does not fit. -/
abbrev Reading (α : Type) := Except Misfit α

namespace Reading

/-- A text. -/
def string : Json → Reading String
  | .str s => .ok s
  | v => .error (.wrongType v "a string")

/-- A flag. -/
def flag : Json → Reading Bool
  | .bool b => .ok b
  | v => .error (.wrongType v "a boolean")

/-- A setting that may be absent. -/
def optional {α : Type} (read : Json → Reading α) : Json → Reading (Option α)
  | .null => .ok none
  | v => (read v).map some

/-- A duration, given as a text. -/
def duration : Json → Reading Duration
  | .str s =>
    match Duration.ofText? s with
    | some d => .ok d
    | none => .error (.wrongValue (.str s) "a duration")
  | v => .error (.wrongType v "a duration")

/-- A port number. -/
def port : Json → Reading (Fin 65536)
  | .num (.int n) =>
    if h : 0 ≤ n ∧ n < 65536 then .ok ⟨n.toNat, by omega⟩
    else .error (.wrongValue (.num (.int n)) "u16")
  | v => .error (.wrongType v "u16")

/-- Fields read one after another into what is known so far. -/
def fields {α : Type} (read : α → String × Json → Reading α) : α → Json.Fields → Reading α
  | known, [] => .ok known
  | known, f :: rest => do fields read (← read known f) rest

/-- The names that items of a list stand for, by their places. -/
def placed {α : Type} (read : α → String × Json → Reading α) (names : List String) (known : α)
    (items : List Json) : Reading α := do
  let known ← fields read known (names.zip items)
  if names.length < items.length then
    .error (.wrongLength items.length "fewer elements in array")
  else .ok known

end Reading

end Vigil
