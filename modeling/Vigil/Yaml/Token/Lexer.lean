import Vigil.Yaml.Token

/-!
# From Characters to Tokens

A document is cut into tokens from left to right. The indentation of a line opens and closes blocks,
for which tokens are made that no character stands for. A key is known as one only when the colon
after it is met, on the same line and within 1024 characters; its token, and the beginning of a block
that it may open, are then put in front of it.
-/

namespace Vigil.Yaml

/-- A place where a key may begin. -/
structure KeyPlace where
  place : Place
  /-- The number of tokens before it. -/
  tokens : Nat
  /-- Whether nothing but a key can stand there. -/
  required : Bool

/-- A lexer on its way through a document. -/
structure Lexer where
  rest : List Char
  place : Place := {}
  /-- The tokens so far, the last one first. -/
  tokens : List Token := []
  /-- The indentation of the innermost block; outside all blocks it is less than zero. -/
  indent : Int := -1
  /-- The indentations of the blocks around it. -/
  outer : List Int := []
  /-- Whether a key may begin here. -/
  keyAllowed : Bool := true
  /-- Where the key that is looked for may have begun, outside brackets. -/
  blockKey : Option KeyPlace := none
  /-- The same for every bracket that is open, the innermost first. -/
  flowKeys : List (Option KeyPlace) := []

namespace Lexer

/-- Whether a bracket is open. -/
def inFlow (l : Lexer) : Bool := !l.flowKeys.isEmpty

/-- The column. -/
def column (l : Lexer) : Nat := l.place.column

/-- The lexer at the beginning of `rest`, a suffix of the text ahead. -/
def goTo (l : Lexer) (rest : List Char) : Lexer :=
  { l with rest, place := l.place.after (l.rest.take (l.rest.length - rest.length)) }

/-- One more token. -/
def push (l : Lexer) (t : Token) : Lexer := { l with tokens := t :: l.tokens }

/-- One more token in front of the last `back` ones. -/
def pushBefore (l : Lexer) (back : Nat) (t : Token) : Lexer :=
  { l with tokens := l.tokens.take back ++ t :: l.tokens.drop back }

/-- The place of the innermost key. -/
def key (l : Lexer) : Option KeyPlace :=
  match l.flowKeys with
  | k :: _ => k
  | [] => l.blockKey

/-- The innermost key found elsewhere, or nowhere. -/
def setKey (l : Lexer) (k : Option KeyPlace) : Lexer :=
  match l.flowKeys with
  | _ :: rest => { l with flowKeys := k :: rest }
  | [] => { l with blockKey := k }

/-- Whether the text ahead is too far from a place for a key that began there. -/
def outOfReach (l : Lexer) (k : KeyPlace) : Bool :=
  k.place.line < l.place.line || k.place.index + 1024 < l.place.index

/-- Places of keys that are out of reach are given up, unless a key was required. -/
def dropStale? (l : Lexer) : Option Lexer :=
  let stale (k : Option KeyPlace) : Bool := k.any l.outOfReach
  let all := l.blockKey :: l.flowKeys
  if all.any fun k => stale k && k.any (·.required) then none
  else
    let fresh (k : Option KeyPlace) : Option KeyPlace := if stale k then none else k
    some { l with blockKey := fresh l.blockKey, flowKeys := l.flowKeys.map fresh }

/-- The innermost key is given up, unless it was required. -/
def dropKey? (l : Lexer) : Option Lexer :=
  if l.key.any (·.required) then none else some (l.setKey none)

/-- A key may begin here, if one is allowed. -/
def saveKey? (l : Lexer) : Option Lexer :=
  if l.keyAllowed then
    (l.dropKey?).map fun l =>
      l.setKey (some ⟨l.place, l.tokens.length, !l.inFlow && l.indent == (l.column : Int)⟩)
  else some l

/-- A block begins at a column further in, in front of the last `back` tokens. -/
def roll (l : Lexer) (column back : Nat) (t : Token) : Lexer :=
  if !l.inFlow && l.indent < (column : Int) then
    { (l.pushBefore back t) with indent := column, outer := l.indent :: l.outer }
  else l

/-- The blocks further in than a column end. -/
def unroll (l : Lexer) (column : Int) : Lexer :=
  if l.inFlow then l
  else
    let rec go (indent : Int) (tokens : List Token) : List Int → Lexer
      | [] => { l with indent, tokens, outer := [] }
      | o :: outer =>
        if column < indent then go o (.blockEnd :: tokens) outer
        else { l with indent, tokens, outer := o :: outer }
    go l.indent l.tokens l.outer

/-- The text ahead without blanks, comments and empty lines. A tab is not skipped where a key may
begin. The first argument bounds the lines. -/
def skipGaps : Nat → Lexer → Lexer
  | 0, l => l
  | fuel + 1, l =>
    let l := if l.column = 0 ∧ l.rest.head? = some '\uFEFF' then l.goTo (l.rest.drop 1) else l
    let tabs := l.inFlow || !l.keyAllowed
    let rest := l.rest.dropWhile fun c => c == ' ' || (tabs && c == '\t')
    let rest := if rest.head? = some '#' then rest.dropWhile (!isBreak ·) else rest
    if rest.head?.any isBreak then
      let l := l.goTo (dropBreak rest)
      skipGaps fuel { l with keyAllowed := l.keyAllowed || !l.inFlow }
    else l.goTo rest

/-- A token of `n` characters. -/
def punctuation (l : Lexer) (n : Nat) (t : Token) : Lexer := (l.goTo (l.rest.drop n)).push t

/-- A mark of a document, or a directive, for which all blocks end. -/
def atMargin? (l : Lexer) : Option Lexer := do
  let l ← (l.unroll (-1)).dropKey?
  return { l with keyAllowed := false }

/-- A bracket opens. -/
def openFlow? (l : Lexer) (t : Token) : Option Lexer := do
  let l ← l.saveKey?
  let l := { l with flowKeys := none :: l.flowKeys, keyAllowed := true }
  return l.punctuation 1 t

/-- A bracket closes. -/
def closeFlow? (l : Lexer) (t : Token) : Option Lexer := do
  let l ← l.dropKey?
  let l := { l with flowKeys := l.flowKeys.tail, keyAllowed := false }
  return l.punctuation 1 t

/-- A comma between items. -/
def flowEntry? (l : Lexer) : Option Lexer := do
  let l ← l.dropKey?
  return { l with keyAllowed := true }.punctuation 1 .flowEntry

/-- A hyphen before an item. -/
def blockEntry? (l : Lexer) : Option Lexer :=
  if !l.inFlow && !l.keyAllowed then none
  else do
    let l ← (l.roll l.column 0 .blockSeqStart).dropKey?
    return { l with keyAllowed := true }.punctuation 1 .blockEntry

/-- The mark before a key. -/
def keyMark? (l : Lexer) : Option Lexer :=
  if !l.inFlow && !l.keyAllowed then none
  else do
    let l ← (l.roll l.column 0 .blockMapStart).dropKey?
    return { l with keyAllowed := !l.inFlow }.punctuation 1 .key

/-- A colon before a value. -/
def valueMark? (l : Lexer) : Option Lexer :=
  match l.key with
  | some k =>
    let back := l.tokens.length - k.tokens
    let l := (l.pushBefore back .key).roll k.place.column (back + 1) .blockMapStart
    some ({ l.setKey none with keyAllowed := false }.punctuation 1 .value)
  | none =>
    if !l.inFlow && !l.keyAllowed then none
    else
      let l := l.roll l.column 0 .blockMapStart
      some ({ l with keyAllowed := !l.inFlow }.punctuation 1 .value)

/-- A token that a key may begin with. -/
def keyPart? (l : Lexer) (read : List Char → Option (Token × List Char)) : Option Lexer := do
  let l ← l.saveKey?
  let (t, rest) ← read l.rest
  return ({ l with keyAllowed := false }.goTo rest).push t

/-- A block scalar. -/
def blockScalar? (l : Lexer) (literal : Bool) : Option Lexer := do
  let l ← l.dropKey?
  let (text, rest) ← readBlock? literal l.indent (l.rest.drop 1)
  return ({ l with keyAllowed := true }.goTo rest).push (.scalar text (if literal then .literal else .folded))

/-- A plain scalar. -/
def plainScalar? (l : Lexer) : Option Lexer := do
  let l ← l.saveKey?
  let p ← readPlain? l.inFlow (l.indent + 1).toNat l.rest
  return ({ l with keyAllowed := p.lineEnded }.goTo p.rest).push (.scalar p.text .plain)

/-- The characters that no plain scalar begins with, whatever follows. -/
def indicators : List Char :=
  [',', '[', ']', '\x7b', '\x7d', '#', '&', '*', '!', '|', '>', '\'', '"', '%', '@', '`']

/-- Whether a plain scalar can begin with a text. -/
def beginsPlain (inFlow : Bool) : List Char → Bool
  | [] => false
  | c :: rest =>
    if c == '-' then !rest.head?.any isBlank
    else if c == '?' || c == ':' then !inFlow && !atGap rest
    else
      !isGap c && !indicators.contains c

/-- The next token. The text ahead begins with `c` and does not begin with a gap. -/
def next? (l : Lexer) (c : Char) (ahead : List Char) : Option Lexer :=
  let atMark := l.column = 0 ∧ atDocumentMark l.rest
  if l.column = 0 ∧ c = '%' then do
    let l ← l.atMargin?
    let (t, rest) ← readDirective? ahead
    return (l.goTo rest).push t
  else if atMark ∧ c = '-' then l.atMargin?.map (·.punctuation 3 .documentStart)
  else if atMark then l.atMargin?.map (·.punctuation 3 .documentEnd)
  else if c = '[' then l.openFlow? .flowSeqStart
  else if c = '\x7b' then l.openFlow? .flowMapStart
  else if c = ']' then l.closeFlow? .flowSeqEnd
  else if c = '\x7d' then l.closeFlow? .flowMapEnd
  else if c = ',' then l.flowEntry?
  else if c = '-' ∧ atGap ahead then l.blockEntry?
  else if c = '?' ∧ (l.inFlow ∨ atGap ahead) then l.keyMark?
  else if c = ':' ∧ (l.inFlow ∨ atGap ahead) then l.valueMark?
  else if c = '*' then l.keyPart? fun cs => (readAnchor? (cs.drop 1)).map fun (n, r) => (.alias n, r)
  else if c = '&' then l.keyPart? fun cs => (readAnchor? (cs.drop 1)).map fun (n, r) => (.anchor n, r)
  else if c = '!' then l.keyPart? fun cs => (readTag? l.inFlow cs).map fun (n, r) => (.tag n, r)
  else if c = '|' ∧ !l.inFlow then l.blockScalar? true
  else if c = '>' ∧ !l.inFlow then l.blockScalar? false
  else if c = '\'' ∨ c = '"' then
    l.keyPart? fun cs =>
      (readQuoted? (c == '"') false (cs.drop 1)).map fun (s, r) => (.scalar s .quoted, r)
  else if beginsPlain l.inFlow l.rest then l.plainScalar?
  else none

/-- The lexer at the end of its text. The first argument bounds the tokens. -/
def finish? : Nat → Lexer → Option Lexer
  | 0, _ => none
  | fuel + 1, l => do
    let l ← (skipGaps (l.rest.length + 1) l).dropStale?
    let l := l.unroll l.column
    match l.rest with
    | [] => (l.unroll (-1)).dropKey?
    | c :: ahead => finish? fuel (← l.next? c ahead)

end Lexer

/-- The tokens of a text. -/
def Token.ofChars? (cs : List Char) : Option (List Token) :=
  if cs.all isAllowed then
    (Lexer.finish? (cs.length + 1) { rest := cs }).map fun l => l.tokens.reverse
  else none

end Vigil.Yaml
