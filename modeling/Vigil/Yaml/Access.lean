import Vigil.Settings.Reading
import Vigil.Yaml.Scalar

/-!
# Reading Nodes by Type

Settings are read from nodes by the type that each setting has. An alias is followed wherever a
value is read; the number of times is bounded by a hundred for every event of the document, and the
depth of collections by 128.
-/

namespace Vigil.Yaml

/-- Reading from a document, with the number of aliases that may yet be followed. -/
abbrev Access (α : Type) := ReaderT Document (StateT Nat Option) α

namespace Access

/-- Reading fails. -/
def fail {α : Type} : Access α := fun _ _ => none

/-- A value that may be missing. -/
def lift? {α : Type} (x : Option α) : Access α := fun _ s => x.map (·, s)

/-- The node itself, or the node that an alias leads to. -/
def follow (n : Node) : Access Node := do
  match n with
  | .alias number =>
    match ← getThe Nat with
    | 0 => fail
    | left + 1 =>
      set left
      lift? ((← read).target? number)
  | n => return n

/-- A text, which any scalar is. -/
def string (n : Node) : Access String := do
  match ← follow n with
  | .scalar _ _ text => return text
  | _ => fail

/-- A flag, which is plain, or literal with the tag of flags. -/
def flag (n : Node) : Access Bool := do
  match ← follow n with
  | .scalar tag style text =>
    if style = .plain ∨ (style = .literal ∧ tag = some (standardTag "bool")) then lift? (flag? text)
    else fail
  | _ => fail

/-- A duration, given as a text. -/
def duration (n : Node) : Access Duration := do
  lift? (Duration.ofText? (← string n))

/-- A setting that may be null. -/
def optional {α : Type} (read : Node → Access α) (n : Node) : Access (Option α) := do
  let n ← follow n
  match n with
  | .scalar tag .plain text =>
    let isNull := isNullText text
    if tag = some (standardTag "null") then
      if isNull then return none else fail
    else if tag.isNone ∧ (text.isEmpty ∨ isNull) then return none
    else return some (← read n)
  | _ => return some (← read n)

/-- The items of a sequence, for which an empty plain scalar may stand. -/
def items (n : Node) : Access (List Node) := do
  match ← follow n with
  | .seq _ items => return items
  | .scalar _ .plain "" => return []
  | _ => fail

/-- The entries of a mapping with texts as keys, for which an empty plain scalar may stand. -/
def entries (n : Node) : Access (List (String × Node)) := do
  match ← follow n with
  | .map _ entries => entries.mapM fun (key, value) => do return (← string key, value)
  | .scalar _ .plain "" => return []
  | _ => fail

/-- The entry of a name, which may occur once. -/
def field? (name : String) (fields : List (String × Node)) : Access (Option Node) :=
  match fields.filter (·.1 == name) with
  | [] => pure none
  | [(_, n)] => pure (some n)
  | _ => fail

/-- A setting by its name, or a default where it is not given. -/
def setting {α : Type} (fields : List (String × Node)) (name : String) (read : Node → Access α)
    (default : α) : Access α := do
  match ← field? name fields with
  | some n => read n
  | none => return default

/-- A setting by its name, which cannot be left out. -/
def required {α : Type} (fields : List (String × Node)) (name : String) (read : Node → Access α) :
    Access α := do
  match ← field? name fields with
  | some n => read n
  | none => fail

section

variable {α : Type} {read : Node → Access α} {default : α} {key name : String} {n : Node}

/-- The entry of a mapping that has no other. -/
theorem entries_single (key : String) (n : Node) :
    entries (.map none [(.scalar none .plain key, n)]) = pure [(key, n)] := by
  simp [entries, follow, string]

/-- The setting that alone is given. -/
theorem setting_single : setting [(name, n)] name read default = read n := by
  simp [setting, field?]

/-- A setting where another one alone is given. -/
theorem setting_other (h : key ≠ name) : setting [(key, n)] name read default = pure default := by
  simp [setting, field?, h]

end

/-- Whether a collection is of the document's own type. -/
def isLocal (tag : Option String) : Bool := tag.any isLocalTag

/-- The value of a node whose type its text suggests, with collections at most `depth` deep. Keys of
mappings other than texts are left out. -/
def value : Nat → Node → Access Json
  | depth, n => do
    match ← follow n with
    | .scalar tag style text => lift? (scalarJson? tag style text)
    | .seq tag items =>
      match depth with
      | 0 => fail
      | depth + 1 =>
        if isLocal tag then fail else return .arr (← items.mapM (value depth))
    | .map tag entries =>
      match depth with
      | 0 => fail
      | depth + 1 =>
        if isLocal tag then fail
        else
          let fields ← entries.mapM fun (key, v) => do return (← value depth key, ← value depth v)
          return .obj (fields.filterMap fun (key, v) =>
            match key with
            | .str key => some (key, v)
            | _ => none)
    | .alias _ => fail
termination_by depth => depth

end Access

/-- What is read from a document by `read`. -/
def Document.read? {α : Type} (d : Document) (read : Access α) : Option α :=
  (read d (100 * d.events)).map Prod.fst

end Vigil.Yaml
