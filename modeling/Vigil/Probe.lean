import Vigil.Check.Basic
import Vigil.Text.Quoted

/-!
# Probes

A named list of checks with its policy of aggregation. Where it has no summary, one is made from the
words of its name, for which only letters and digits of ASCII are kept. Changing case turns a few letters
beyond ASCII into letters of ASCII, alone or with marks, and those are listed here; every other letter
beyond ASCII stays beyond it, and is left as it is.
-/

namespace Vigil

/-! ### Letters that change into ASCII -/

namespace Unicode

/-- The letters beyond ASCII whose lower case holds a letter of ASCII, or has such an upper case. -/
def lowerIntoAscii : List (Nat × List Nat) :=
  [(0x130, [0x69, 0x307]), (0x212A, [0x6B]), (0x1E9E, [0xDF])]

/-- The letters beyond ASCII whose upper case holds a letter of ASCII. -/
def upperIntoAscii : List (Nat × List Nat) :=
  [(0xDF, [0x53, 0x53]), (0x131, [0x49]), (0x149, [0x2BC, 0x4E]), (0x17F, [0x53]),
    (0x1F0, [0x4A, 0x30C]), (0x1E96, [0x48, 0x331]), (0x1E97, [0x54, 0x308]), (0x1E98, [0x57, 0x30A]),
    (0x1E99, [0x59, 0x30A]), (0x1E9A, [0x41, 0x2BE]), (0xFB00, [0x46, 0x46]), (0xFB01, [0x46, 0x49]),
    (0xFB02, [0x46, 0x4C]), (0xFB03, [0x46, 0x46, 0x49]), (0xFB04, [0x46, 0x46, 0x4C]),
    (0xFB05, [0x53, 0x54]), (0xFB06, [0x53, 0x54])]

/-- The form of a character that a list gives it, and another where it gives none. -/
def changed (list : List (Nat × List Nat)) (otherwise : Char → Char) (c : Char) : List Char :=
  match list.lookup c.toNat with
  | some points => points.map Char.ofNat
  | none => [otherwise c]

/-- A character in lower case, as far as ASCII is concerned. -/
def lowerCase (c : Char) : List Char := changed lowerIntoAscii Char.toLower c

/-- A character in upper case, as far as ASCII is concerned. -/
def upperCase (c : Char) : List Char := changed upperIntoAscii Char.toUpper c

end Unicode

/-! ### Probes -/

/-- A probe. -/
structure Probe where
  name : String
  checks : List Check
  summary : Option String := none
  /-- Whether one passing check is enough. -/
  allowPartialFailure : Bool := false

namespace Probe

/-- The characters with every run of others than letters and digits of ASCII as one space. -/
def collapse (inGap : Bool) : List Char → List Char
  | [] => []
  | c :: cs =>
    if c.isAlphanum then c :: collapse false cs
    else if inGap then collapse true cs
    else ' ' :: collapse true cs

/-- The name as the words of a title. -/
def titleChars (name : String) : List Char :=
  match name.toList.flatMap Unicode.lowerCase with
  | [] => []
  | c :: cs => collapse false (Unicode.upperCase c ++ cs)

/-- The summary, or one made from the name where there is none. -/
def endpointSummary (p : Probe) : String :=
  match p.summary.filter (!·.isEmpty) with
  | some s => s
  | none => String.ofList (titleChars p.name) ++ " probe"

/-- A probe on one line, for messages. -/
def debugText (p : Probe) : String :=
  let summary :=
    match p.summary with
    | none => "None"
    | some s => "Some(" ++ Text.quoted s ++ ")"
  "Probe \x7b name: " ++ Text.quoted p.name ++ ", checks: [" ++
    ", ".intercalate (p.checks.map fun c => Text.quoted c.name) ++ "], summary: " ++ summary ++
    ", allow_partial_failure: " ++ (if p.allowPartialFailure then "true" else "false") ++ " \x7d"

end Probe

end Vigil
