import Vigil.Guard
import Vigil.Json.Basic

/-!
# Redaction

Values under keys that name credentials are replaced before fields leave the program, in objects at
any depth and inside arrays. Everything else, the keys included, stays as it is.
-/

namespace Vigil.Redaction

/-- What stands in place of a credential. -/
def placeholder : String := "***"

/-- Keys that name credentials as a whole. -/
def secretKeys : List String :=
  ["http_auth", "password", "sasl_plain_password", "sasl_plain_username", "user", "username"]

/-- Words that make any key with them name credentials. -/
def secretWords : List String := ["password", "secret", "token", "api_key", "authorization"]

/-- Whether a text holds another. -/
def holds (word : List Char) : List Char → Bool
  | [] => word.isEmpty
  | c :: cs => word.isPrefixOf (c :: cs) || holds word cs

/-- Whether a key names a credential, in any case. -/
def isSecret (key : String) : Bool :=
  let key := Guard.lower key
  secretKeys.contains key || secretWords.any fun word => holds word.toList key.toList

mutual

/-- A value with the credentials in it replaced. -/
def redact : Json → Json
  | .arr items => .arr (redactItems items)
  | .obj fields => .obj (redactFields fields)
  | v => v

/-- Items with the credentials in them replaced. -/
def redactItems : List Json → List Json
  | [] => []
  | v :: rest => redact v :: redactItems rest

/-- Fields with the credentials among them replaced. -/
def redactFields : List (String × Json) → List (String × Json)
  | [] => []
  | (k, v) :: rest => (k, if isSecret k then .str placeholder else redact v) :: redactFields rest

end

end Vigil.Redaction
