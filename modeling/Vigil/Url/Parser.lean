import Vigil.Url.Basic

/-!
# Reading URLs

The lenient reader of URLs that web clients share. Controls and spaces around the text and tabs and
line ends inside it do not count, any number of slashes or backslashes may stand before the host,
and the path is freed of dot segments. References are resolved against the URL they appear at.
-/

namespace Vigil.Url

open Vigil.Text

/-- The text without controls and spaces around it and without tabs and line ends. -/
def clean (cs : List Char) : List Char :=
  let outer (c : Char) : Bool := c.toNat ≤ 0x20
  (((cs.dropWhile outer).reverse.dropWhile outer).reverse).filter fun c =>
    !(c == '\t' || c == '\n' || c == '\r')

/-- Whether a character can stand in a scheme after the first. -/
def isSchemeChar (c : Char) : Bool := c.isAlphanum || c == '+' || c == '-' || c == '.'

/-- Whether characters are a scheme. -/
def isScheme : List Char → Bool
  | [] => false
  | c :: cs => c.isAlpha && cs.all isSchemeChar

/-- The scheme and the text after its colon, if the text begins with a scheme. -/
def splitScheme? (cs : List Char) : Option (List Char × List Char) :=
  match splitOnce ':' cs with
  | some (name, rest) => if isScheme name then some (name, rest) else none
  | none => none

/-- A slash of either kind. -/
def isSlash (c : Char) : Bool := c == '/' || c == '\\'

/-- Whether a character ends the authority. -/
def endsAuthority (c : Char) : Bool := isSlash c || c == '?' || c == '#'

/-- The texts before and after the last separator, if there is one. -/
def splitLast? (sep : Char) : List Char → Option (List Char × List Char)
  | [] => none
  | c :: cs =>
    match splitLast? sep cs with
    | some (before, after) => some (c :: before, after)
    | none => if c = sep then some ([], cs) else none

/-- The host and the rest, which begins with the first colon outside brackets. -/
def splitHost (inBrackets : Bool) : List Char → List Char × List Char
  | [] => ([], [])
  | c :: cs =>
    if c = ':' ∧ inBrackets = false then ([], c :: cs)
    else
      let inside := if c = '[' then true else if c = ']' then false else inBrackets
      let (host, rest) := splitHost inside cs
      (c :: host, rest)

/-- The port after a host. A lone colon and the scheme's own port stand for none. -/
def readPort (scheme : Scheme) : List Char → Except ParseError (Option Nat)
  | [] => .ok none
  | _ :: digits =>
    if digits.isEmpty then .ok none
    else
      match numeral? 10 digits with
      | none => .error .invalidPort
      | some p =>
        if 65535 < p then .error .invalidPort
        else .ok (if p = scheme.defaultPort then none else some p)

/-- What stands before the path. -/
structure Authority where
  username : String
  password : Option String
  host : Host
  port : Option Nat

/-- The encoded user name and password. -/
def readUserinfo (cs : List Char) : String × Option String :=
  let encode (part : List Char) : String := String.ofList (percentEncode userinfoSet part)
  match splitOnce ':' cs with
  | none => (encode cs, none)
  | some (name, secret) => (encode name, if secret.isEmpty then none else some (encode secret))

/-- The authority from the characters before the path. -/
def readAuthority (scheme : Scheme) (cs : List Char) : Except ParseError Authority := do
  let (userinfo, location) := (splitLast? '@' cs).getD ([], cs)
  let (host, rest) := splitHost false location
  let host ← Host.ofChars host
  let port ← readPort scheme rest
  let (username, password) := readUserinfo userinfo
  return ⟨username, password, host, port⟩

/-- A segment that leads one level up. -/
def isDoubleDot (segment : List Char) : Bool :=
  ["..", "%2e.", ".%2e", "%2e%2e"].contains (String.ofList (segment.map Char.toLower))

/-- A segment that stays where it is. -/
def isSingleDot (segment : List Char) : Bool :=
  [".", "%2e"].contains (String.ofList (segment.map Char.toLower))

/-- A segment that names a drive, which is never left. -/
def isDrive : List Char → Bool
  | [letter, sign] => letter.isAlpha && (sign == ':' || sign == '|')
  | _ => false

/-- The path one level up, given in reverse. -/
def leaveSegment : List (List Char) → List (List Char)
  | [] => []
  | s :: rest => if isDrive s then s :: rest else rest

/-- The path, kept in reverse, after more segments. -/
def appendSegments (done : List (List Char)) : List (List Char) → List (List Char)
  | [] => done
  | [s] =>
    if isDoubleDot s then [] :: leaveSegment done
    else if isSingleDot s then [] :: done
    else s :: done
  | s :: rest =>
    if isDoubleDot s then appendSegments (leaveSegment done) rest
    else if isSingleDot s then appendSegments done rest
    else appendSegments (s :: done) rest

/-- The encoded segments of a path without its first slash. -/
def readSegments (cs : List Char) : List (List Char) :=
  (fields '/' (cs.map fun c => if c = '\\' then '/' else c)).map (percentEncode pathSet)

/-- The path after the segments of a base, of which none is left out. -/
def readPath (base : List String) (cs : List Char) : List String :=
  (appendSegments (base.map String.toList).reverse (readSegments cs)).reverse.map String.ofList

/-- The fragment after its sign. -/
def readFragment : List Char → Option String
  | [] => none
  | _ :: cs => some (String.ofList (percentEncode fragmentSet cs))

/-- The query and the fragment after the path. -/
def readTail (cs : List Char) : Option String × Option String :=
  match cs with
  | '?' :: rest =>
    (some (String.ofList (percentEncode querySet (rest.takeWhile (· ≠ '#')))),
      readFragment (rest.dropWhile (· ≠ '#')))
  | rest => (none, readFragment rest)

/-- Whether a character ends the path. -/
def endsPath (c : Char) : Bool := c == '?' || c == '#'

/-- The text without one slash in front. -/
def dropSlash : List Char → List Char
  | [] => []
  | c :: cs => if isSlash c then cs else c :: cs

/-- The URL of a scheme from the text after the slashes that announce the host. -/
def readAfterSlashes (scheme : Scheme) (cs : List Char) : Except ParseError Url := do
  let authority ← readAuthority scheme (cs.takeWhile (!endsAuthority ·))
  let rest := cs.dropWhile (!endsAuthority ·)
  let path := readPath [] (dropSlash (rest.takeWhile (!endsPath ·)))
  let (query, fragment) := readTail (rest.dropWhile (!endsPath ·))
  return ⟨scheme, authority.username, authority.password, authority.host, authority.port, path, query,
    fragment⟩

/-- The lower-case scheme of characters, if it is one that a target may have. -/
def webScheme? (name : List Char) : Option Scheme := Scheme.ofText? (String.ofList (name.map Char.toLower))

/-- The URL that characters stand for. -/
def ofChars (cs : List Char) : Except ParseError Url :=
  match splitScheme? (clean cs) with
  | none => .error .relativeWithoutBase
  | some (name, rest) =>
    match webScheme? name with
    | none => .error .relativeWithoutBase
    | some scheme => readAfterSlashes scheme (rest.dropWhile isSlash)

/-- The URL that a text stands for. -/
def ofText (s : String) : Except ParseError Url := ofChars s.toList

/-- The URL with the path, query and fragment of a text read from a base path on. -/
def withPath (base : Url) (segments : List String) (cs : List Char) : Url :=
  let (query, fragment) := readTail (cs.dropWhile (!endsPath ·))
  { base with path := readPath segments (cs.takeWhile (!endsPath ·)), query, fragment }

/-- The URL that a reference without a scheme stands for at `base`. -/
def resolvePath (base : Url) (cs : List Char) : Except ParseError Url :=
  let slashes := (cs.takeWhile isSlash).length
  if 2 ≤ slashes then
    match cs with
    | '/' :: '/' :: rest => readAfterSlashes base.scheme rest
    | cs => readAfterSlashes base.scheme (cs.dropWhile isSlash)
  else
    match cs with
    | [] => .ok base.withoutFragment
    | '#' :: _ => .ok { base with fragment := readFragment cs }
    | '?' :: _ =>
      let (query, fragment) := readTail cs
      .ok { base with query, fragment }
    | c :: rest =>
      if isSlash c then .ok (base.withPath [] rest)
      else .ok (base.withPath base.path.dropLast (c :: rest))

/-- Where a reference leads. -/
inductive Reference
  /-- To a target of the schemes that requests can be sent to. -/
  | web (url : Url)
  /-- To an absolute URL of another scheme, with a host or without. -/
  | foreign (hasHost : Bool)
  deriving DecidableEq, Repr

/-- Where a reference at `base` leads, unless it is malformed. -/
def resolve (base : Url) (reference : String) : Except ParseError Reference :=
  let cs := clean reference.toList
  match splitScheme? cs with
  | none => (base.resolvePath cs).map .web
  | some (name, rest) =>
    match webScheme? name with
    | none =>
      .ok (.foreign (("//".toList.isPrefixOf rest) && (rest.drop 2).head?.any fun c => !endsAuthority c))
    | some scheme =>
      if scheme = base.scheme ∧ (rest.takeWhile isSlash).length < 2 then (base.resolvePath rest).map .web
      else (readAfterSlashes scheme (rest.dropWhile isSlash)).map .web

end Vigil.Url
