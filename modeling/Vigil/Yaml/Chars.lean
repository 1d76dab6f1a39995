/-!
# Characters of a Document

The classes of characters that structure a document, its line breaks, and places in it. A carriage
return and the line feed after it are one break. Most breaks stand for a line feed; the separators of
lines and paragraphs stand for themselves.

A run of blanks and breaks inside a scalar folds: without a break it is kept, one break is a space,
and of several all but the first are kept.
-/

namespace Vigil.Yaml

/-- A space or a tab. -/
def isBlank (c : Char) : Bool := c == ' ' || c == '\t'

/-- A character that breaks lines. -/
def isBreak (c : Char) : Bool :=
  c == '\r' || c == '\n' || c == '\u0085' || c == '\u2028' || c == '\u2029'

/-- A blank or a break. -/
def isGap (c : Char) : Bool := isBlank c || isBreak c

/-- A letter, a digit, a hyphen or an underscore. -/
def isWord (c : Char) : Bool := c.isAlphanum || c == '-' || c == '_'

/-- Whether a document may hold a character. -/
def isAllowed (c : Char) : Bool :=
  let n := c.toNat
  n == 9 || n == 10 || n == 13 || (0x20 ≤ n && n ≤ 0x7E) || n == 0x85 || (0xA0 ≤ n && n ≤ 0xFFFD) ||
    0x10000 ≤ n

/-- Whether a text is at its end or begins with a blank or a break. -/
def atGap : List Char → Bool
  | [] => true
  | c :: _ => isGap c

/-- Whether a text begins with the mark of a document's beginning or end. -/
def atDocumentMark : List Char → Bool
  | '-' :: '-' :: '-' :: rest => atGap rest
  | '.' :: '.' :: '.' :: rest => atGap rest
  | _ => false

/-- What a break stands for. -/
def breakText (c : Char) : Char := if c == '\u2028' || c == '\u2029' then c else '\n'

/-- What the breaks in a text stand for. -/
def lineBreaks : List Char → List Char
  | [] => []
  | '\r' :: '\n' :: rest => '\n' :: lineBreaks rest
  | c :: rest => if isBreak c then breakText c :: lineBreaks rest else lineBreaks rest

/-- The text after the break that it begins with. -/
def dropBreak : List Char → List Char
  | '\r' :: '\n' :: rest => rest
  | _ :: rest => rest
  | [] => []

theorem length_dropBreak {c : Char} {cs : List Char} :
    (dropBreak (c :: cs)).length < (c :: cs).length := by
  unfold dropBreak
  split
  · next h =>
    obtain ⟨-, rfl⟩ := List.cons.inj h
    exact Nat.lt_succ_of_lt (Nat.lt_succ_self _)
  · next h =>
    obtain ⟨-, rfl⟩ := List.cons.inj h
    exact Nat.lt_succ_self _
  · next h => cases h

theorem length_dropBreak_le (cs : List Char) : (dropBreak cs).length ≤ cs.length := by
  cases cs with
  | nil => exact Nat.le_refl _
  | cons c cs => exact Nat.le_of_lt length_dropBreak

theorem length_dropWhile_le {p : Char → Bool} (cs : List Char) :
    (cs.dropWhile p).length ≤ cs.length :=
  (List.dropWhile_suffix p).length_le

/-- What a run of blanks and breaks inside a scalar stands for. -/
def folded (run : List Char) : List Char :=
  match lineBreaks run with
  | [] => run
  | [b] => if b = '\n' then [' '] else [b]
  | b :: more => if b = '\n' then more else b :: more

/-- Whether a run has a break. -/
def hasBreak (run : List Char) : Bool := run.any isBreak

/-- The column after a run with a break. -/
def columnAfter (run : List Char) : Nat := (run.reverse.takeWhile (!isBreak ·)).length

/-- A place in a document. -/
structure Place where
  index : Nat := 0
  line : Nat := 0
  column : Nat := 0
  deriving DecidableEq, Repr

/-- The place after characters. -/
def Place.after : Place → List Char → Place
  | p, [] => p
  | p, '\r' :: '\n' :: rest => Place.after ⟨p.index + 2, p.line + 1, 0⟩ rest
  | p, c :: rest =>
    if isBreak c then Place.after ⟨p.index + 1, p.line + 1, 0⟩ rest
    else Place.after ⟨p.index + 1, p.line, p.column + 1⟩ rest

end Vigil.Yaml
