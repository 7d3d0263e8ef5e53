set_option autoImplicit false

namespace LineReview.Assistant

structure Address where
  secure : Bool
  host : String
  /-- The number under which the host offers the service. -/
  service : Nat
  target : String
  deriving DecidableEq

namespace Address

/-- The address under which a chat is completed at an endpoint. -/
def completions (endpoint : String) : String :=
  String.ofList (endpoint.toList.reverse.dropWhile (· == '/')).reverse ++ "/chat/completions"

/-- A byte as a percent sign and two hexadecimal digits. -/
def percent (byte : UInt8) : List Char :=
  ['%', (Nat.digitChar (byte.toNat / 16)).toUpper, (Nat.digitChar (byte.toNat % 16)).toUpper]

/-- Writes the characters of a class, and those outside the visible ASCII characters, byte by
byte. -/
def encode (reserved : List Char) (text : List Char) : List Char :=
  text.flatMap fun char =>
    if char.toNat ≤ 0x20 || 0x7F ≤ char.toNat || reserved.contains char then
      (String.singleton char).toUTF8.toList.flatMap percent
    else [char]

def reservedInPath : List Char := ['"', '#', '<', '>', '?', '^', '\x60', '\x7b', '\x7d']

def reservedInQuery : List Char := ['"', '#', '<', '>', '\'']

/-- Cuts at every slash, forward or backward. -/
def segments (path : List Char) : List (List Char) :=
  path.splitOnP fun char => char == '/' || char == '\\'

/-- A segment with its encoded dots written out. -/
def plainDots : List Char → List Char
  | '%' :: '2' :: digit :: rest => if digit == 'e' || digit == 'E' then '.' :: plainDots rest else
      '%' :: '2' :: digit :: rest
  | char :: rest => char :: plainDots rest
  | [] => []

/-- The segments that are left when single dots name nothing and double dots name the segment above.
A path that ends in dots ends in an empty segment. -/
def resolve : List (List Char) → List (List Char) → List (List Char)
  | kept, [] => kept.reverse
  | kept, segment :: rest =>
    let ended (kept : List (List Char)) := if rest.isEmpty then [] :: kept else kept
    if plainDots segment == ['.', '.'] then resolve (ended kept.tail) rest
    else if plainDots segment == ['.'] then resolve (ended kept) rest
    else resolve (segment :: kept) rest

/-- The target of what follows the authority: the path, which is never empty, and the query if there
is one. -/
def targetOf (text : List Char) : List Char :=
  let sent := text.takeWhile (· != '#')
  let path := sent.takeWhile (· != '?')
  let query := sent.dropWhile (· != '?')
  let trail := match segments path with
    | [] :: rest => rest
    | all => all
  let resolved := (resolve [] trail).map (encode reservedInPath)
  (if resolved.isEmpty then ['/'] else resolved.flatMap ('/' :: ·)) ++ encode reservedInQuery query

def reservedInHost : List Char :=
  [' ', '#', '/', '<', '>', '?', '@', '\\', '^', '|', '%', '"', '\x60', '\x7b', '\x7d']

def isAddressChar (char : Char) : Bool :=
  char.isDigit || ['a', 'b', 'c', 'd', 'e', 'f', ':', '.'].contains char.toLower

/-- The host of a name, in lower case, or of a bracketed address. -/
def host? (name : List Char) : Option (List Char) :=
  if name.isEmpty || name.any fun char =>
    char.toNat < 0x20 || char.toNat == 0x7F || reservedInHost.contains char
  then none
  else match name with
    | '[' :: rest =>
      if rest.getLast? == some ']' && 1 < rest.length &&
        rest.dropLast.all isAddressChar then some name
      else none
    | _ =>
      if name.any fun char => ['[', ']', ':'].contains char then none
      else some (name.map Char.toLower)

/-- The service that digits number, or the usual one if there are none. -/
def service? (usual : Nat) (digits : List Char) : Option Nat :=
  if digits.isEmpty then some usual
  else if digits.all Char.isDigit then
    let number := digits.foldl (fun value digit => 10 * value + (digit.toNat - '0'.toNat)) 0
    if number < 0x10000 then some number else none
  else none

/-- Splits an authority, less the user in it, into the name of the host and the digits of the
service. -/
def splitAuthority (authority : List Char) : List Char × List Char :=
  let named := (authority.reverse.takeWhile (· != '@')).reverse
  match named with
  | '[' :: _ =>
    let after := named.dropWhile (· != ']')
    (named.takeWhile (· != ']') ++ after.take 1, match after.drop 1 with
      | ':' :: digits => digits
      | [] => []
      | other => other)
  | _ => (named.takeWhile (· != ':'), (named.dropWhile (· != ':')).drop 1)

/-- The address that a text spells, if requests can be sent there. -/
def read? (text : String) : Option Address := do
  let outer := (text.toList.dropWhile (·.toNat ≤ 0x20)).reverse.dropWhile (·.toNat ≤ 0x20)
  let inner := outer.reverse.filter fun char => !(['\t', '\n', '\r'].contains char)
  let scheme := (inner.takeWhile (· != ':')).map Char.toLower
  let secure ←
    if scheme == "http".toList then some false
    else if scheme == "https".toList then some true
    else none
  let slashed ← match inner.dropWhile (· != ':') with
    | _ :: rest => some rest
    | [] => none
  let rest := slashed.dropWhile fun char => char == '/' || char == '\\'
  let ends (char : Char) : Bool := ['/', '\\', '?', '#'].contains char
  let (name, digits) := splitAuthority (rest.takeWhile fun char => !ends char)
  let host ← host? name
  let service ← service? (if secure then 443 else 80) digits
  return {
    secure
    host := String.ofList host
    service
    target := String.ofList (targetOf (rest.dropWhile fun char => !ends char)) }

end Address

end LineReview.Assistant
