import Vigil.Double.Basic

/-!
# Structured Values

The values that settings are given in, events carry and reports are written as. An object keeps
its fields in a list; `Json.ofFields` orders them by key and lets the last of equal keys win, which
is the form that objects built at run time have, while a record is written in its own order.
-/

namespace Vigil

/-- A number of a document: a whole number, or one written with a fraction or an exponent. -/
inductive Number
  | int (value : Int)
  | real (value : Double)
  deriving DecidableEq, Repr

/-- A structured value. -/
inductive Json
  | null
  | bool (value : Bool)
  | num (value : Number)
  | str (value : String)
  | arr (items : List Json)
  | obj (fields : List (String × Json))
  deriving Repr, Inhabited

namespace Json

/-- The fields of an object. -/
abbrev Fields := List (String × Json)

/-- A whole number. -/
def nat (n : Nat) : Json := .num (.int n)

/-- A text that may be absent. -/
def optional : Option String → Json
  | none => .null
  | some s => .str s

/-- The fields with one more, in its place by key; a field of that key is replaced. -/
def insertField (key : String) (value : Json) : Fields → Fields
  | [] => [(key, value)]
  | (k, v) :: rest =>
    if key = k then (key, value) :: rest
    else if key < k then (key, value) :: (k, v) :: rest
    else (k, v) :: insertField key value rest

/-- The fields ordered by key, the last of equal keys winning. -/
def sortFields (fields : Fields) : Fields :=
  fields.foldl (fun sorted (k, v) => insertField k v sorted) []

/-- An object whose fields are ordered by key. -/
def ofFields (fields : Fields) : Json := .obj (sortFields fields)

/-- The value of the first field of that key. -/
def field? (key : String) : Fields → Option Json
  | [] => none
  | (k, v) :: rest => if k = key then some v else field? key rest

mutual

/-- The value with the fields of every object ordered by key. -/
def sorted : Json → Json
  | .arr items => .arr (sortedItems items)
  | .obj fields => ofFields (sortedFields fields)
  | v => v

/-- Every item with its fields ordered by key. -/
def sortedItems : List Json → List Json
  | [] => []
  | v :: rest => v.sorted :: sortedItems rest

/-- Every field's value with its fields ordered by key. -/
def sortedFields : List (String × Json) → List (String × Json)
  | [] => []
  | (k, v) :: rest => (k, v.sorted) :: sortedFields rest

end

end Json

end Vigil
