import Vigil.Text.Numeral
import Vigil.Yaml.Chars

/-!
# Quoted Scalars

Scalars between quotes. Between single quotes the only escape is the doubled quote. Between double
quotes a backslash begins an escape, and one at the end of a line joins the lines. Breaks fold.
-/

namespace Vigil.Yaml

open Vigil.Text

/-- The character of an escape with one letter. -/
def letterEscape? : Char → Option Char
  | '0' => some '\x00'
  | 'a' => some '\x07'
  | 'b' => some '\x08'
  | 't' => some '\t'
  | '\t' => some '\t'
  | 'n' => some '\n'
  | 'v' => some '\x0b'
  | 'f' => some '\x0c'
  | 'r' => some '\r'
  | 'e' => some '\x1b'
  | ' ' => some ' '
  | '"' => some '"'
  | '/' => some '/'
  | '\\' => some '\\'
  | 'N' => some '\u0085'
  | '_' => some '\u00a0'
  | 'L' => some '\u2028'
  | 'P' => some '\u2029'
  | _ => none

/-- The number of digits of an escape by code point. -/
def escapeDigits? : Char → Option Nat
  | 'x' => some 2
  | 'u' => some 4
  | 'U' => some 8
  | _ => none

/-- The character of a code point in hexadecimal. -/
def pointChar? (digits : List Char) : Option Char := do
  let n ← numeral? 16 digits
  if n < 0xD800 ∨ (0xDFFF < n ∧ n < 0x110000) then some (Char.ofNat n) else none

/-- The character of an escape, without its backslash, and how many characters it takes. -/
def escape? : List Char → Option (Char × Nat)
  | [] => none
  | c :: rest =>
    match escapeDigits? c with
    | none => (letterEscape? c).map (·, 1)
    | some n => if n ≤ rest.length then (pointChar? (rest.take n)).map (·, n + 1) else none

/-- The text of a scalar whose opening quote has been read, and the rest after its closing quote.
The flag tells whether a line has just begun. -/
def readQuoted? (double lineStart : Bool) (cs : List Char) : Option (List Char × List Char) :=
  if lineStart && atDocumentMark cs then none
  else
    match cs with
    | [] => none
    | c :: rest =>
      let emit (text : List Char) : Option (List Char × List Char) → Option (List Char × List Char) :=
        Option.map fun (more, rest) => (text ++ more, rest)
      if isGap c then
        let run := c :: rest.takeWhile isGap
        have := length_dropWhile_le (p := isGap) rest
        emit (folded run) (readQuoted? double (isBreak (run.getLast (by simp [run])))
          (rest.dropWhile isGap))
      else if double then
        if c = '"' then some ([], rest)
        else if c = '\\' then
          if rest.head?.any isBreak then
            have : (dropBreak rest).length ≤ rest.length := length_dropBreak_le rest
            have := length_dropWhile_le (p := isGap) (dropBreak rest)
            let run := (dropBreak rest).takeWhile isGap
            emit (lineBreaks run)
              (readQuoted? double (run.getLast?.all isBreak) ((dropBreak rest).dropWhile isGap))
          else
            match escape? rest with
            | none => none
            | some (ch, n) => emit [ch] (readQuoted? double false (rest.drop n))
        else emit [c] (readQuoted? double false rest)
      else if c = '\'' then
        match rest with
        | '\'' :: rest => emit ['\''] (readQuoted? double false rest)
        | rest => some ([], rest)
      else emit [c] (readQuoted? double false rest)
termination_by cs.length
decreasing_by all_goals simp_wf <;> simp_all <;> omega

end Vigil.Yaml
