import Vigil.Yaml.Token.Lexer

/-!
# Nodes

A document is one node: a scalar, a sequence, a mapping, or an alias of a node that bears an anchor.
Tokens become nodes by descent; where a node is left out an empty plain scalar stands.

Anchors are numbered by the count of names known when they are met, and an alias leads to the last
node that bears the number of its name.
-/

namespace Vigil.Yaml

/-- A node of a document. -/
inductive Node
  | scalar (tag : Option String) (style : Style) (text : String)
  | seq (tag : Option String) (items : List Node)
  | map (tag : Option String) (entries : List (Node × Node))
  | alias (number : Nat)
  deriving Repr

/-- A node that bears an anchor, with its number and its place among all such nodes. -/
structure Anchored where
  number : Nat
  order : Nat
  node : Node

/-- A document. -/
structure Document where
  /-- The node, if there is anything in the text. -/
  root : Option Node
  anchored : List Anchored
  /-- The number of scalars, aliases, and beginnings and ends of collections. -/
  events : Nat

/-- The node that an alias leads to. -/
def Document.target? (d : Document) (number : Nat) : Option Node :=
  let bearing := d.anchored.filter (·.number == number)
  (bearing.foldl (fun (best : Option Anchored) a =>
    match best with
    | some b => if a.order < b.order then some b else some a
    | none => some a) none).map (·.node)

/-- A document on its way from tokens to nodes. -/
structure Assembly where
  tokens : List Token
  handles : List (List Char × List Char) := []
  names : List (List Char × Nat) := []
  anchored : List Anchored := []
  /-- The number of anchors met. -/
  anchors : Nat := 0
  events : Nat := 0

/-- A step of assembly, which may fail. -/
abbrev Assemble (α : Type) := StateT Assembly Option α

namespace Assemble

/-- The next token, which stays. -/
def peek : Assemble (Option Token) := fun s => some (s.tokens.head?, s)

/-- The next token is passed. -/
def pass : Assemble Unit := fun s => some ((), { s with tokens := s.tokens.tail })

/-- Some events are counted. -/
def count (n : Nat) : Assemble Unit := fun s => some ((), { s with events := s.events + n })

/-- The step fails. -/
def fail {α : Type} : Assemble α := fun _ => none

/-- A node that was left out. -/
def empty (tag : Option String) : Assemble Node := do
  count 1
  return .scalar tag .plain ""

/-- The handles that need no directive. -/
def standardHandles : List (List Char × List Char) :=
  [(['!'], ['!']), (['!', '!'], "tag:yaml.org,2002:".toList)]

/-- The tag of a name. -/
def tagText (name : TagName) : Assemble String := fun s =>
  if name.handle.isEmpty then some (String.ofList name.suffix, s)
  else
    ((s.handles ++ standardHandles).lookup name.handle).map fun start =>
      (String.ofList (start ++ name.suffix), s)

/-- An anchor is met; the result is its number and its place among all anchors. -/
def mark (name : List Char) : Assemble (Nat × Nat) := fun s =>
  let number := s.names.length
  let names := (name, number) :: s.names.filter (·.1 ≠ name)
  some ((number, s.anchors), { s with names, anchors := s.anchors + 1 })

/-- A node is complete and bears its anchor. -/
def bear (anchor : Option (Nat × Nat)) (node : Node) : Assemble Node := fun s =>
  match anchor with
  | none => some (node, s)
  | some (number, order) => some (node, { s with anchored := ⟨number, order, node⟩ :: s.anchored })

/-- The anchor and the tag in front of a node, in either order. -/
def properties : Assemble (Option (List Char) × Option TagName) := do
  match ← peek with
  | some (.anchor a) =>
    pass
    match ← peek with
    | some (.tag t) => pass; return (some a, some t)
    | _ => return (some a, none)
  | some (.tag t) =>
    pass
    match ← peek with
    | some (.anchor a) => pass; return (some a, some t)
    | _ => return (none, some t)
  | _ => return (none, none)

/-- Whether the next token is one of some. -/
def atOneOf (ts : List Token) : Assemble Bool := do
  return (← peek).any ts.contains

mutual

/-- A node, in a block or inside brackets. A sequence that is the value of a key may stand at the
indentation of the key. The first argument bounds the descent. -/
def node : Nat → Bool → Bool → Assemble Node
  | 0, _, _ => fail
  | fuel + 1, block, indentless => do
    match ← peek with
    | some (.alias name) =>
      pass
      count 1
      match (← get).names.lookup name with
      | some number => return .alias number
      | none => fail
    | _ =>
      let (anchor, name) ← properties
      let tag ← name.mapM tagText
      let place ← anchor.mapM mark
      match ← peek with
      | some (.scalar text style) =>
        pass
        count 1
        bear place (.scalar (tag.filter (· ≠ "!")) style (String.ofList text))
      | some .flowSeqStart =>
        pass
        count 2
        bear place (.seq tag (← flowItems fuel true))
      | some .flowMapStart =>
        pass
        count 2
        bear place (.map tag (← flowEntries fuel true))
      | some .blockSeqStart =>
        if block then
          pass
          count 2
          bear place (.seq tag (← blockItems fuel))
        else fail
      | some .blockMapStart =>
        if block then
          pass
          count 2
          bear place (.map tag (← blockEntries fuel))
        else fail
      | some .blockEntry =>
        if indentless then
          count 2
          bear place (.seq tag (← indentlessItems fuel))
        else if anchor.isSome || tag.isSome then bear place (← empty tag)
        else fail
      | _ =>
        if anchor.isSome || tag.isSome then bear place (← empty tag)
        else fail

/-- A node, or an empty one before a token that ends it. -/
def nodeUnless : Nat → Bool → Bool → List Token → Assemble Node
  | 0, _, _, _ => fail
  | fuel + 1, block, indentless, ends => do
    if ← atOneOf ends then empty none else node fuel block indentless

/-- The items of a sequence in a block. -/
def blockItems : Nat → Assemble (List Node)
  | 0 => fail
  | fuel + 1 => do
    match ← peek with
    | some .blockEntry =>
      pass
      let item ← nodeUnless fuel true false [.blockEntry, .blockEnd]
      return item :: (← blockItems fuel)
    | some .blockEnd => pass; return []
    | _ => fail

/-- The items of a sequence at the indentation of its key. -/
def indentlessItems : Nat → Assemble (List Node)
  | 0 => fail
  | fuel + 1 => do
    match ← peek with
    | some .blockEntry =>
      pass
      let item ← nodeUnless fuel true false [.blockEntry, .key, .value, .blockEnd]
      return item :: (← indentlessItems fuel)
    | _ => return []

/-- The entries of a mapping in a block. -/
def blockEntries : Nat → Assemble (List (Node × Node))
  | 0 => fail
  | fuel + 1 => do
    match ← peek with
    | some .key =>
      pass
      let key ← nodeUnless fuel true true [.key, .value, .blockEnd]
      let value ← valueAfter fuel true [.key, .value, .blockEnd]
      return (key, value) :: (← blockEntries fuel)
    | some .blockEnd => pass; return []
    | _ => fail

/-- The value after a key. -/
def valueAfter : Nat → Bool → List Token → Assemble Node
  | 0, _, _ => fail
  | fuel + 1, block, ends => do
    match ← peek with
    | some .value => pass; nodeUnless fuel block block ends
    | _ => empty none

/-- The items of a sequence in brackets. -/
def flowItems : Nat → Bool → Assemble (List Node)
  | 0, _ => fail
  | fuel + 1, first => do
    match ← peek with
    | some .flowSeqEnd => pass; return []
    | some .flowEntry => if first then fail else pass
    | _ => if first then pure () else fail
    match ← peek with
    | some .flowSeqEnd => pass; return []
    | some .key =>
      pass
      count 2
      let ends := [.value, .flowEntry, .flowSeqEnd]
      let key ←
        if ← atOneOf ends then
          pass
          empty none
        else node fuel false false
      let value ← valueAfter fuel false [.flowEntry, .flowSeqEnd]
      return .map none [(key, value)] :: (← flowItems fuel false)
    | _ =>
      let item ← node fuel false false
      return item :: (← flowItems fuel false)

/-- The entries of a mapping in braces. -/
def flowEntries : Nat → Bool → Assemble (List (Node × Node))
  | 0, _ => fail
  | fuel + 1, first => do
    match ← peek with
    | some .flowMapEnd => pass; return []
    | some .flowEntry => if first then fail else pass
    | _ => if first then pure () else fail
    match ← peek with
    | some .flowMapEnd => pass; return []
    | some .key =>
      pass
      let key ← nodeUnless fuel false false [.value, .flowEntry, .flowMapEnd]
      let value ← valueAfter fuel false [.flowEntry, .flowMapEnd]
      return (key, value) :: (← flowEntries fuel false)
    | _ =>
      let key ← node fuel false false
      let value ← empty none
      return (key, value) :: (← flowEntries fuel false)

end

/-- The directives in front of a document: at most one version, and each handle once. -/
def directives (versioned : Bool) : Nat → Assemble Unit
  | 0 => fail
  | fuel + 1 => do
    match ← peek with
    | some (.version major minor) =>
      if versioned || major ≠ 1 || (minor ≠ 1 && minor ≠ 2) then fail
      else
        pass
        directives true fuel
    | some (.tagDirective handle start) =>
      if ((← get).handles.lookup handle).isSome then fail
      else
        pass
        modify fun s => { s with handles := (handle, start) :: s.handles }
        directives versioned fuel
    | _ => return ()

/-- The marks of the end of a document. -/
def ends : Nat → Assemble Unit
  | 0 => fail
  | fuel + 1 => do
    match ← peek with
    | some .documentEnd => pass; ends fuel
    | _ => return ()

/-- The node of the only document of a stream. -/
def document (fuel : Nat) : Assemble (Option Node) := do
  match ← peek with
  | none => count 1; return none
  | some t =>
    let explicit :=
      match t with
      | .version _ _ => true
      | .tagDirective _ _ => true
      | .documentStart => true
      | _ => false
    let root ←
      if explicit then
        directives false fuel
        if ← atOneOf [.documentStart] then
          pass
          match ← peek with
          | none => empty none
          | some (.version _ _) => empty none
          | some (.tagDirective _ _) => empty none
          | some .documentStart => empty none
          | some .documentEnd => empty none
          | _ => node fuel true false
        else fail
      else node fuel true false
    ends fuel
    if (← peek).isNone then return some root else fail

end Assemble

/-- The document that a text holds, if it holds no more than one. -/
def Document.ofChars? (cs : List Char) : Option Document := do
  let tokens ← Token.ofChars? cs
  let (root, s) ← Assemble.document (4 * tokens.length + 4) { tokens }
  return ⟨root, s.anchored, s.events⟩

end Vigil.Yaml
