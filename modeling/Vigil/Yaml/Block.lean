import Vigil.Yaml.Chars

/-!
# Block Scalars

Scalars that span indented lines. A literal one keeps its breaks, in a folded one a break between
two lines that do not begin with a blank is folded. The header says what becomes of the breaks at
the end and may give the indentation, which otherwise is that of the first line with text.
-/

namespace Vigil.Yaml

/-- What becomes of the breaks at the end of a block scalar. -/
inductive Chomping
  | strip | clip | keep
  deriving DecidableEq, Repr

/-- The header of a block scalar. -/
structure BlockHeader where
  chomping : Chomping
  /-- The indentation beyond that of the surrounding block, where it is given. -/
  increment : Option Nat

/-- The sign of a chomping. -/
def chompingSign? : Char → Option Chomping
  | '+' => some .keep
  | '-' => some .strip
  | _ => none

/-- An indentation from one to nine. Zero is an error. -/
def readIncrement? : List Char → Option (Option Nat × List Char)
  | c :: rest =>
    if c = '0' then none
    else if c.isDigit then some (some (c.toNat - 48), rest)
    else some (none, c :: rest)
  | [] => some (none, [])

/-- A chomping, which need not be there. -/
def readChomping : List Char → Option Chomping × List Char
  | c :: rest =>
    match chompingSign? c with
    | some k => (some k, rest)
    | none => (none, c :: rest)
  | [] => (none, [])

/-- The text after the rest of a line that holds at most a comment. -/
def endLine? (cs : List Char) : Option (List Char) :=
  let cs := cs.dropWhile isBlank
  let cs := if cs.head? = some '#' then cs.dropWhile (!isBreak ·) else cs
  match cs with
  | [] => some []
  | c :: rest => if isBreak c then some (dropBreak (c :: rest)) else none

/-- The header after its first sign, and the text from the next line on. -/
def readBlockHeader? (cs : List Char) : Option (BlockHeader × List Char) := do
  let (before, cs) := readChomping cs
  let (increment, cs) ← readIncrement? cs
  let (after, cs) := if before.isNone && increment.isSome then readChomping cs else (none, cs)
  let cs ← endLine? cs
  return (⟨(before.or after).getD .clip, increment⟩, cs)

/-- Lines without text. -/
structure EmptyLines where
  breaks : List Char
  /-- The column at which text goes on. -/
  column : Nat
  /-- The furthest column reached. -/
  width : Nat
  rest : List Char

/-- The empty lines in front of a text, where lines with text are indented by `indent`, or by an
amount that is not yet known. -/
def readEmptyLines? (indent : Option Nat) : Nat → Nat → List Char → Option EmptyLines
  | column, width, [] => some ⟨[], column, max width column, []⟩
  | column, width, '\r' :: '\n' :: rest =>
    (readEmptyLines? indent 0 (max width column) rest).map fun e => { e with breaks := '\n' :: e.breaks }
  | column, width, c :: rest =>
    let indenting := indent.all (column < ·)
    if c = ' ' ∧ indenting then readEmptyLines? indent (column + 1) width rest
    else if c = '\t' ∧ indenting then none
    else if isBreak c then
      (readEmptyLines? indent 0 (max width column) rest).map fun e =>
        { e with breaks := breakText c :: e.breaks }
    else some ⟨[], column, max width column, c :: rest⟩

/-- The lines of a block scalar that have been read. -/
structure BlockLines where
  text : List Char
  /-- The break after the last line with text. -/
  lastBreak : List Char
  /-- What the empty lines after it stand for. -/
  tail : List Char
  rest : List Char

/-- What stands between a line and the one before it. -/
def between (literal blankBefore blankAfter : Bool) (lastBreak empty : List Char) : List Char :=
  if !literal && lastBreak == ['\n'] && !blankBefore && !blankAfter then
    if empty.isEmpty then [' '] else empty
  else lastBreak ++ empty

/-- The lines of a block scalar, after the empty lines `empty`. The first argument bounds their
number. -/
def readBlockLines? (literal : Bool) (indent : Nat) :
    Nat → (blankBefore : Bool) → (lastBreak : List Char) → EmptyLines → Option BlockLines
  | 0, _, lastBreak, empty => some ⟨[], lastBreak, empty.breaks, empty.rest⟩
  | fuel + 1, blankBefore, lastBreak, empty =>
    match empty.rest with
    | [] => some ⟨[], lastBreak, empty.breaks, []⟩
    | c :: cs =>
      if empty.column ≠ indent then some ⟨[], lastBreak, empty.breaks, c :: cs⟩
      else
        let line := (c :: cs).takeWhile (!isBreak ·)
        let rest := (c :: cs).dropWhile (!isBreak ·)
        let gap := between literal blankBefore (isBlank c) lastBreak empty.breaks
        let next := (lineBreaks (rest.take 1))
        match readEmptyLines? (some indent) 0 0 (dropBreak rest) with
        | none => none
        | some empty =>
          (readBlockLines? literal indent fuel (isBlank c) next empty).map fun l =>
            { l with text := gap ++ line ++ l.text }

/-- The text of a block scalar after its first sign, and the rest, in a block that is indented by
`parent`. -/
def readBlock? (literal : Bool) (parent : Int) (cs : List Char) : Option (List Char × List Char) := do
  let (header, cs) ← readBlockHeader? cs
  let given := header.increment.map fun n => (max parent 0).toNat + n
  let empty ← readEmptyLines? given 0 0 cs
  let indent := given.getD (max empty.width (max (parent + 1) 1).toNat)
  let lines ← readBlockLines? literal indent (cs.length + 1) false [] empty
  let text := lines.text ++
    match header.chomping with
    | .strip => []
    | .clip => lines.lastBreak
    | .keep => lines.lastBreak ++ lines.tail
  return (text, lines.rest)

end Vigil.Yaml
