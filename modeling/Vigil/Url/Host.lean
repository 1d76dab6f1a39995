import Vigil.Address.Text
import Vigil.Url.Domain
import Vigil.Url.Percent

/-!
# Hosts

The host of a URL is an address or a domain. A domain whose last label is a number is an address of
version four, whose one to four numbers may be decimal, octal or hexadecimal, the last of them
filling all the octets that are left. An address of version six stands in brackets and is read as
strictly as elsewhere, but written without octets.
-/

namespace Vigil.Url

open Vigil.Text

/-- Why a text is no URL. -/
inductive ParseError
  | relativeWithoutBase
  | emptyHost
  | invalidDomain
  | invalidPort
  | invalidIpv4
  | invalidIpv6
  deriving DecidableEq, Repr

/-- The wording of a refusal. -/
def ParseError.message : ParseError → String
  | relativeWithoutBase => "relative URL without a base"
  | emptyHost => "empty host"
  | invalidDomain => "invalid international domain name"
  | invalidPort => "invalid port number"
  | invalidIpv4 => "invalid IPv4 address"
  | invalidIpv6 => "invalid IPv6 address"

/-- The host of a URL. -/
inductive Host
  | domain (name : String)
  | v4 (bits : BitVec 32)
  | v6 (bits : BitVec 128)
  deriving DecidableEq, Repr

/-- The host as it stands in a URL. -/
def Host.chars : Host → List Char
  | .domain name => name.toList
  | .v4 a => Address.dotted a
  | .v6 a => ['['] ++ Address.compressed (Address.groups a) ++ [']']

/-- The host as it stands in a URL. -/
def Host.text (h : Host) : String := String.ofList h.chars

/-- A number of a domain: hexadecimal after `0x`, octal after another `0`, else decimal. The marks
alone stand for zero. -/
def hostNumber? (cs : List Char) : Option Nat :=
  match cs with
  | [] => none
  | '0' :: 'x' :: rest => if rest.isEmpty then some 0 else numeral? 16 rest
  | '0' :: 'X' :: rest => if rest.isEmpty then some 0 else numeral? 16 rest
  | '0' :: c :: rest => numeral? 8 (c :: rest)
  | cs => numeral? 10 cs

/-- The labels of a domain without an empty one at the end, unless it is the only one. -/
def hostLabels (cs : List Char) : List (List Char) :=
  let parts := fields '.' cs
  if 1 < parts.length ∧ parts.getLast? = some [] then parts.dropLast else parts

/-- Whether the last label of a domain is a number. -/
def endsInNumber (cs : List Char) : Bool :=
  match (hostLabels cs).getLast? with
  | none => false
  | some label => (!label.isEmpty && label.all Char.isDigit) || (hostNumber? label).isSome

/-- The address that the numbers of a domain make: each but the last is an octet, and the last
fills the octets that are left. -/
def packNumbers? (numbers : List Nat) : Option (BitVec 32) :=
  match numbers.getLast? with
  | none => none
  | some last =>
    let front := numbers.dropLast
    if front.all (· < 256) ∧ last < Nat.pow 256 (4 - front.length) then
      some (BitVec.ofNat 32 (Address.pack 256 front * Nat.pow 256 (4 - front.length) + last))
    else none

/-- The address of version four that a domain stands for. -/
def readIpv4? (cs : List Char) : Option (BitVec 32) := do
  let labels := hostLabels cs
  if 4 < labels.length then none
  else
    let numbers ← labels.mapM hostNumber?
    packNumbers? numbers

/-- The host that a domain without escapes stands for. -/
def hostOfDomain (cs : List Char) : Except ParseError Host :=
  match asciiDomain? cs with
  | none => .error .invalidDomain
  | some [] => .error .emptyHost
  | some name =>
    if endsInNumber name then
      match readIpv4? name with
      | some a => .ok (.v4 a)
      | none => .error .invalidIpv4
    else .ok (.domain (String.ofList name))

/-- The host that a part of a URL stands for. -/
def Host.ofChars (cs : List Char) : Except ParseError Host :=
  match cs with
  | [] => .error .emptyHost
  | '[' :: rest =>
    if rest.getLast? = some ']' then
      match Address.readV6? rest.dropLast with
      | some a => .ok (.v6 a)
      | none => .error .invalidIpv6
    else .error .invalidIpv6
  | cs =>
    match utf8Chars? (percentDecode cs) with
    | none => .error .invalidDomain
    | some cs => hostOfDomain cs

end Vigil.Url
