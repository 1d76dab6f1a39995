import Vigil.Url.Host

/-!
# URLs of Web Targets

An absolute URL of scheme `http` or `https` in its parts, each part in the encoded form in which it
stands in the text. The port is absent where it is the scheme's own, a password is absent or
non-empty, and the path has at least one segment, so that every URL has one text.
-/

namespace Vigil

open Vigil.Text

/-- The schemes that a target may have. -/
inductive Scheme
  | http
  | https
  deriving DecidableEq, Repr

namespace Scheme

/-- The name of a scheme. -/
def text : Scheme → String
  | http => "http"
  | https => "https"

/-- The port that a scheme implies. -/
def defaultPort : Scheme → Nat
  | http => 80
  | https => 443

/-- The scheme of a lower-case name. -/
def ofText? (s : String) : Option Scheme :=
  if s = "http" then some http else if s = "https" then some https else none

/-- A scheme is read of its name alone. -/
theorem ofText?_eq_some_iff {s : String} {scheme : Scheme} :
    ofText? s = some scheme ↔ s = scheme.text := by
  cases scheme <;> grind [ofText?, text]

end Scheme

/-- A URL in its parts. -/
structure Url where
  scheme : Scheme
  username : String
  password : Option String
  host : Url.Host
  port : Option Nat
  path : List String
  query : Option String
  fragment : Option String
  deriving DecidableEq, Repr

namespace Url

/-- The part between the scheme and the host: a user name, a password, both or none. -/
def userinfoChars (u : Url) : List Char :=
  match u.password with
  | none => if u.username.isEmpty then [] else u.username.toList ++ ['@']
  | some p => u.username.toList ++ [':'] ++ p.toList ++ ['@']

/-- The port with its colon, where one is given. -/
def portChars (u : Url) : List Char :=
  match u.port with
  | none => []
  | some p => ':' :: numeral 10 p

/-- The segments of a path, each after a slash. -/
def pathChars (u : Url) : List Char := u.path.flatMap fun segment => '/' :: segment.toList

/-- A part that may be absent, after the sign that announces it. -/
def tailChars (sign : Char) : Option String → List Char
  | none => []
  | some s => sign :: s.toList

/-- The characters of a URL. -/
def chars (u : Url) : List Char :=
  u.scheme.text.toList ++ "://".toList ++ u.userinfoChars ++ u.host.chars ++ u.portChars ++
    u.pathChars ++ tailChars '?' u.query ++ tailChars '#' u.fragment

/-- The text of a URL. -/
def text (u : Url) : String := String.ofList u.chars

/-- The port that requests go to. -/
def effectivePort (u : Url) : Nat := u.port.getD u.scheme.defaultPort

/-- The URL without user name and password. -/
def withoutUserinfo (u : Url) : Url := { u with username := "", password := none }

/-- The URL without its fragment. -/
def withoutFragment (u : Url) : Url := { u with fragment := none }

/-- The URL with a password, if it has one, replaced. -/
def maskPassword (mask : String) (u : Url) : Url := { u with password := u.password.map fun _ => mask }

end Url

end Vigil
