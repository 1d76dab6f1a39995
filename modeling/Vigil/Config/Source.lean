import Vigil.Config.Reader

/-!
# Where Configurations Come From

A configuration is read from the file at a given path, or from the first of the standard places
where there is a regular file. What stands at a path is given as an entry.
-/

namespace Vigil

/-- What stands at a path. -/
inductive PathEntry
  | absent
  | directory
  | file (bytes : ByteArray)

namespace PathEntry

/-- Whether there is a regular file. -/
def isFile : PathEntry → Bool
  | file _ => true
  | _ => false

/-- The text of a file. -/
def text : PathEntry → Except ReadFailure String
  | absent => .error .absent
  | directory => .error .directory
  | file bytes =>
    match String.fromUTF8? bytes with
    | some s => .ok s
    | none => .error .notText

end PathEntry

namespace Config

/-- The places that are searched, in order: for the whole system, for the user whose home is given,
and the working directory. -/
def searchPaths (home : Option String) : List String :=
  ["/etc/healthprobe/probes.yaml"] ++ (home.toList.map (· ++ "/.config/healthprobe/probes.yaml")) ++
    ["./probes.yaml"]

/-- The configuration in what stands at a path. -/
def ofEntry (entry : PathEntry) : Except ConfigProblem Config :=
  match entry.text with
  | .error reason => .error (.unreadable reason)
  | .ok text => ofText text

/-- The configuration at a path that was given, or at the first of the places searched that has a
file. -/
def load (given : Option PathEntry) (searched : List PathEntry) : Except ConfigProblem Config :=
  match given.or (searched.find? (·.isFile)) with
  | some entry => ofEntry entry
  | none => .error .notFound

end Config

end Vigil
