import Vigil.Fault

/-!
# Connection Strings

A connection string names its target by a URL whose scheme has to be among the allowed ones. A
compound scheme such as `postgresql+driver` also passes on its base, the part before the first plus.
-/

namespace Vigil.Dsn

open Vigil.Text Vigil.Guard

/-- The part of a scheme before the first plus. -/
def baseScheme (scheme : String) : String := String.ofList (scheme.toList.takeWhile (· ≠ '+'))

/-- Whether a lower-case scheme or its base is among the allowed ones, in any case. -/
def isAllowed (allowed : List String) (scheme : String) : Bool :=
  allowed.any fun a => lower a == scheme || lower a == baseScheme scheme

/-- The texts in ascending order. -/
def ascending (texts : List String) : List String := texts.mergeSort fun a b => decide (a ≤ b)

/-- The connection string without blanks around it, if its scheme is allowed. -/
def validate (dsn : String) (allowed : List String) : Except Fault String :=
  let dsn := trim dsn
  let scheme := lower (schemeOf dsn)
  if dsn.isEmpty then .error (.invalidInput "DSN cannot be empty")
  else if allowed.isEmpty then .error (.invalidInput "allowed schemes cannot be empty")
  else if scheme.isEmpty || !isAllowed allowed scheme then
    .error (.invalidInput ("DSN scheme must be one of " ++ ", ".intercalate (ascending (allowed.map lower)) ++
      " (or compound e.g. postgresql+driver), got " ++ quoted scheme))
  else .ok dsn

end Vigil.Dsn
