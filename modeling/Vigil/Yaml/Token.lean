import Vigil.Text.Numeral
import Vigil.Yaml.Block
import Vigil.Yaml.Plain
import Vigil.Yaml.Quoted

/-!
# Tokens

The marks and scalars that a document consists of, and the texts of tags, anchors and directives.
-/

namespace Vigil.Yaml

/-- How a scalar is written. -/
inductive Style
  | plain | quoted | literal | folded
  deriving DecidableEq, Repr

/-- The name of a tag as it is written. -/
structure TagName where
  /-- The handle, empty for a tag that is given in full. -/
  handle : List Char
  suffix : List Char
  deriving DecidableEq, Repr

/-- A token. -/
inductive Token
  | version (major minor : Nat)
  | tagDirective (handle handleText : List Char)
  | documentStart
  | documentEnd
  | blockSeqStart
  | blockMapStart
  | blockEnd
  | flowSeqStart
  | flowSeqEnd
  | flowMapStart
  | flowMapEnd
  | blockEntry
  | flowEntry
  | key
  | value
  | alias (name : List Char)
  | anchor (name : List Char)
  | tag (name : TagName)
  | scalar (text : List Char) (style : Style)
  deriving DecidableEq, Repr

/-- Whether a character may stand in a tag that is not given in full. -/
def isTagChar (c : Char) : Bool :=
  isWord c || [';', '/', '?', ':', '@', '&', '=', '+', '$', '.', '!', '~', '*', '\'', '(', ')'].contains c

/-- The number of bytes of a character by its first byte. -/
def utf8Width? (byte : Nat) : Option Nat :=
  if byte < 0x80 then some 1
  else if 0xC0 ≤ byte ∧ byte < 0xE0 then some 2
  else if 0xE0 ≤ byte ∧ byte < 0xF0 then some 3
  else if 0xF0 ≤ byte ∧ byte < 0xF8 then some 4
  else none

/-- Bytes after percent signs, as many as are asked for. -/
def readBytes? : Nat → List Char → Option (List UInt8 × List Char)
  | 0, cs => some ([], cs)
  | n + 1, '%' :: a :: b :: rest => do
    let byte ← Text.numeral? 16 [a, b]
    let (bytes, rest) ← readBytes? n rest
    return (UInt8.ofNat byte :: bytes, rest)
  | _ + 1, _ => none

/-- A character given by its bytes, and the rest. -/
def readEscapedChar? (cs : List Char) : Option (List Char × List Char) := do
  let (first, _) ← readBytes? 1 cs
  let width ← utf8Width? (first.headD 0).toNat
  let (bytes, rest) ← readBytes? width cs
  let chars ← (ByteArray.mk bytes.toArray).utf8Decode?
  return (chars.toList, rest)

/-- The characters of a tag and the rest. The first argument bounds their number. -/
def readTagChars? (inFull : Bool) : Nat → List Char → Option (List Char × List Char)
  | 0, cs => some ([], cs)
  | _ + 1, [] => some ([], [])
  | fuel + 1, c :: rest =>
    if c = '%' then do
      let (chars, rest) ← readEscapedChar? (c :: rest)
      let (more, rest) ← readTagChars? inFull fuel rest
      return (chars ++ more, rest)
    else if isTagChar c || (inFull && [',', '[', ']'].contains c) then
      (readTagChars? inFull fuel rest).map fun (more, rest) => (c :: more, rest)
    else some ([], c :: rest)

/-- The characters of a tag and the rest. -/
def readTagText? (inFull : Bool) (cs : List Char) : Option (List Char × List Char) :=
  readTagChars? inFull cs.length cs

/-- A handle and the rest. -/
def readHandle? : List Char → Option (List Char × List Char)
  | '!' :: cs =>
    let word := cs.takeWhile isWord
    match cs.dropWhile isWord with
    | '!' :: rest => some ('!' :: word ++ ['!'], rest)
    | rest => some ('!' :: word, rest)
  | _ => none

/-- The name of a tag and the rest. Inside brackets a comma may follow it at once. -/
def readTag? (inFlow : Bool) (cs : List Char) : Option (TagName × List Char) := do
  let (name, rest) ←
    match cs with
    | '!' :: '<' :: cs => do
      let (text, rest) ← readTagText? true cs
      match text, rest with
      | _ :: _, '>' :: rest => some (⟨[], text⟩, rest)
      | _, _ => none
    | cs => do
      let (handle, rest) ← readHandle? cs
      let (text, rest) ← readTagText? false rest
      if 1 < handle.length ∧ handle.getLast? = some '!' then
        if text.isEmpty then none else some (⟨handle, text⟩, rest)
      else
        let suffix := handle.drop 1 ++ text
        some (if suffix.isEmpty then ⟨[], ['!']⟩ else ⟨['!'], suffix⟩, rest)
  if atGap rest || (inFlow && rest.head? = some ',') then some (name, rest) else none

/-- The name after the sign of an anchor or an alias, and the rest. -/
def readAnchor? (cs : List Char) : Option (List Char × List Char) :=
  let name := cs.takeWhile isWord
  let rest := cs.dropWhile isWord
  let ends := atGap rest || rest.head?.any ['?', ':', ',', ']', '\x7d', '%', '@', '`'].contains
  if name.isEmpty || !ends then none else some (name, rest)

/-- A number of a version, of at most nine digits. -/
def readVersionNumber? (cs : List Char) : Option (Nat × List Char) :=
  let digits := cs.takeWhile Char.isDigit
  if 9 < digits.length then none
  else (Text.numeral? 10 digits).map (·, cs.dropWhile Char.isDigit)

/-- The token of a directive after its sign, and the text from the next line on. -/
def readDirective? (cs : List Char) : Option (Token × List Char) := do
  let name := cs.takeWhile isWord
  let rest := cs.dropWhile isWord
  if name.isEmpty || !atGap rest then none
  else
    let rest := rest.dropWhile isBlank
    if name = ['Y', 'A', 'M', 'L'] then
      let (major, rest) ← readVersionNumber? rest
      match rest with
      | '.' :: rest =>
        let (minor, rest) ← readVersionNumber? rest
        return (.version major minor, ← endLine? rest)
      | _ => none
    else if name = ['T', 'A', 'G'] then
      let (handle, rest) ← readHandle? rest
      if handle ≠ ['!'] ∧ handle.getLast? ≠ some '!' then none
      else if !rest.head?.any isBlank then none
      else
        let (text, rest) ← readTagText? true (rest.dropWhile isBlank)
        if text.isEmpty || !atGap rest then none
        else return (.tagDirective handle text, ← endLine? rest)
    else none

end Vigil.Yaml
