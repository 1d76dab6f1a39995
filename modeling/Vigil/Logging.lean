import Vigil.Config.Basic
import Vigil.Run.Events
import Vigil.Text.Fields

/-!
# Log Lines

Lines that are logged beside the output. A filter says which of them are kept: it is a list of
directives, of which the last that names a level alone counts. A directive for one source only
concerns none of these lines, and one that cannot be understood is reported.
-/

namespace Vigil

/-- A line of the log. -/
structure LogLine where
  level : Level
  text : String
  deriving DecidableEq, Repr

namespace Level

/-- The place of a level, the most important first. -/
def rank : Level → Nat
  | error => 1
  | warn => 2
  | info => 3
  | debug => 4
  | trace => 5

end Level

/-- Which lines are kept. -/
structure LogFilter where
  /-- The rank up to which lines are kept. -/
  rank : Nat
  /-- The directives that were not understood. -/
  rejected : List String := []
  deriving DecidableEq, Repr

namespace LogFilter

/-- The rank that a word in any case stands for. -/
def rank? (word : List Char) : Option Nat :=
  let word := String.ofList (word.map Char.toLower)
  [("off", 0), ("error", 1), ("warn", 2), ("info", 3), ("debug", 4), ("trace", 5),
    ("0", 0), ("1", 1), ("2", 2), ("3", 3), ("4", 4), ("5", 5)].lookup word

/-- Whether the name of a source can begin with a character. -/
def beginsSource (c : Char) : Bool := c.isAlphanum || c == '_' || c == '-' || c == ':'

/-- Whether a directive names a source, with a level or without one. -/
def isForSource (directive : List Char) : Bool :=
  let level := (directive.dropWhile (· ≠ '=')).drop 1
  (directive.head?.any beginsSource) && (level.isEmpty || (rank? level).isSome)

/-- The filter that directives separated by commas stand for. Without any directive only errors are
kept. -/
def ofText (text : String) : LogFilter :=
  let directives := (Text.fields ',' text.toList).filter (!·.isEmpty)
  let ranks := directives.filterMap rank?
  let others := directives.filter fun d => (rank? d).isNone
  let rejected := others.filter (!isForSource ·)
  let byDefault := if others.length = rejected.length then 1 else 0
  ⟨ranks.getLast?.getD byDefault, rejected.map String.ofList⟩

/-- The filter of the settings: warnings and errors where nothing is set. -/
def ofSettings (s : LogSettings) : LogFilter := ofText (s.level.getD "warn")

/-- The reports and lines of a log, one after another. -/
def render (f : LogFilter) (lines : List LogLine) : String :=
  let reports := f.rejected.map fun d => "ignoring directive " ++ d ++ "\n"
  let kept := lines.filter fun l => l.level.rank ≤ f.rank
  "".intercalate (reports ++ kept.map fun l => l.level.text ++ " " ++ l.text ++ "\n")

end LogFilter

end Vigil
