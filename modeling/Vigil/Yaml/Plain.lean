import Vigil.Yaml.Chars

/-!
# Plain Scalars

Scalars without quotes. They end before a colon that a gap follows, before a comment, before the
marks of a document and, inside brackets, before the punctuation of collections. In a block they go
on only over lines that are indented further than the block.
-/

namespace Vigil.Yaml

/-- The punctuation of collections in brackets. -/
def isFlowPunctuation (c : Char) : Bool := [',', '[', ']', '\x7b', '\x7d'].contains c

/-- The characters up to the next gap or the end of the scalar, and the rest. Inside brackets a
colon may not stand before punctuation. -/
def readWord? (inFlow : Bool) : List Char → Option (List Char × List Char)
  | [] => some ([], [])
  | c :: rest =>
    if isGap c then some ([], c :: rest)
    else if inFlow && c == ':' && rest.head?.any (fun d => isFlowPunctuation d || d == '?') then none
    else if (c == ':' && atGap rest) || (inFlow && isFlowPunctuation c) then some ([], c :: rest)
    else (readWord? inFlow rest).map fun (word, rest) => (c :: word, rest)

theorem length_readWord? {inFlow : Bool} {cs word rest : List Char}
    (h : readWord? inFlow cs = some (word, rest)) : word.length + rest.length = cs.length := by
  induction cs generalizing word with
  | nil => simp_all [readWord?]
  | cons c cs ih =>
    rw [readWord?] at h
    split at h
    · simp_all
    · split at h
      · simp at h
      · split at h
        · simp_all
        · obtain ⟨⟨w, r⟩, hw, he⟩ := Option.map_eq_some_iff.1 h
          obtain ⟨rfl, rfl⟩ := Prod.mk.inj he
          have := ih hw
          simp only [List.length_cons]
          omega

/-- A plain scalar that has been read. -/
structure Plain where
  text : List Char
  rest : List Char
  /-- Whether a line was ended after the text. -/
  lineEnded : Bool

/-- Whether a run has a tab where a line is not yet indented far enough, given the column that the
run begins at if that is inside the indentation of a line. -/
def hasShallowTab (indent : Nat) : Option Nat → List Char → Bool
  | _, [] => false
  | column, c :: rest =>
    if isBreak c then hasShallowTab indent (some 0) rest
    else (c == '\t' && column.any (· < indent)) || hasShallowTab indent (column.map (· + 1)) rest

/-- The rest of a plain scalar after `gap`, the run of blanks and breaks before the text. -/
def readPlainFrom? (inFlow : Bool) (indent : Nat) (gap cs : List Char) : Option Plain :=
  let stop : Plain := ⟨[], cs, hasBreak gap⟩
  let lineStart := gap.getLast?.any isBreak
  if (lineStart && atDocumentMark cs) || cs.head? = some '#' then some stop
  else
    match h : readWord? inFlow cs with
    | none => none
    | some ([], _) => some stop
    | some (c :: word, rest) =>
      let text := folded gap ++ c :: word
      let run := rest.takeWhile isGap
      let next := rest.dropWhile isGap
      have : next.length < cs.length := by
        have h1 := length_readWord? h
        have h2 := length_dropWhile_le (p := isGap) rest
        simp only [List.length_cons] at h1
        exact Nat.lt_of_le_of_lt h2 (by omega)
      if run.isEmpty then some ⟨text, rest, false⟩
      else if hasShallowTab indent none run then none
      else if !inFlow && hasBreak run && columnAfter run < indent then some ⟨text, next, true⟩
      else
        (readPlainFrom? inFlow indent run next).map fun p => { p with text := text ++ p.text }
termination_by cs.length

/-- A plain scalar in a block that is indented by `indent - 1`, or inside brackets. -/
def readPlain? (inFlow : Bool) (indent : Nat) (cs : List Char) : Option Plain :=
  readPlainFrom? inFlow indent [] cs

end Vigil.Yaml
