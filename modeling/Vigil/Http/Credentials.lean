import Vigil.Url.Basic

/-!
# Credentials of a Request

A user name and a password go out as one header value: both joined by a colon, in the alphabet of
64 characters, after the name of the scheme. The credentials in a URL are undone of their escapes
first.
-/

namespace Vigil.Http

open Vigil.Url

/-- The alphabet of 64 characters. -/
def base64Char (n : Nat) : Char :=
  if n < 26 then Char.ofNat (0x41 + n)
  else if n < 52 then Char.ofNat (0x61 + (n - 26))
  else if n < 62 then Char.ofNat (0x30 + (n - 52))
  else if n = 62 then '+'
  else '/'

/-- Bytes in groups of three, each as four characters, the last group filled up. -/
def base64 : List UInt8 → List Char
  | [] => []
  | [a] =>
    let n := a.toNat * 16
    [base64Char (n / 64), base64Char (n % 64), '=', '=']
  | [a, b] =>
    let n := (a.toNat * 256 + b.toNat) * 4
    [base64Char (n / 4096), base64Char (n / 64 % 64), base64Char (n % 64), '=']
  | a :: b :: c :: rest =>
    let n := (a.toNat * 256 + b.toNat) * 256 + c.toNat
    [base64Char (n / 262144), base64Char (n / 4096 % 64), base64Char (n / 64 % 64),
      base64Char (n % 64)] ++ base64 rest

/-- The header value for a user name and a password. -/
def basicHeader (username : String) (password : Option String) : String :=
  let bytes := (username ++ ":" ++ password.getD "").toUTF8.toList
  "Basic " ++ String.ofList (base64 bytes)

/-- A part of a URL without its escapes, if its bytes are text. -/
def decodedPart? (part : String) : Option String :=
  (utf8Chars? (percentDecode part.toList)).map String.ofList

/-- The credentials in a URL. A user name that is no text hides them. -/
def urlCredentials? (u : Url) : Option (String × Option String) := do
  let username ← decodedPart? u.username
  let password := u.password.bind decodedPart?
  if username.isEmpty ∧ password.isNone then none else some (username, password)

end Vigil.Http
