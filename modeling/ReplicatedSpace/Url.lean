import ReplicatedSpace.Url.Host

/-!
Addresses on the web. An address is taken apart as browsers do it, so that every address has one
form: blanks and foreign characters are escaped, a backslash counts as a slash, and steps of one or
two points are followed.
-/
namespace ReplicatedSpace

structure Url where
  secure : Bool
  host : List Char
  port : Option Nat
  /-- What stands between the slashes. -/
  path : List (List Char)
  query : Option (List Char)
  fragment : Option (List Char)
deriving DecidableEq

namespace Url

def standardPort (secure : Bool) : Nat := if secure then 443 else 80

def isSlash (letter : Char) : Bool := letter = '/' || letter = '\\'

def endsHost (letter : Char) : Bool := isSlash letter || letter = '?' || letter = '#'

def dropUser (text : List Char) : List Char :=
  (text.reverse.takeWhile (· ≠ '@')).reverse

/-- The host, and what stands behind its colon. A colon in brackets is part of the host. -/
def cutPort (inside : Bool) : List Char → List Char × List Char
  | [] => ([], [])
  | letter :: rest =>
    if letter = ':' ∧ !inside then ([], rest)
    else
      let bracketed := if letter = '[' then true else if letter = ']' then false else inside
      let (host, port) := cutPort bracketed rest
      (letter :: host, port)

/-- A port, unless it is the one that is meant anyway. -/
def readPort? (secure : Bool) (digits : List Char) : Option (Option Nat) :=
  if digits.isEmpty then some none
  else if digits.all Char.isDigit then
    let port := Decimal.readDigits 0 digits
    if port < UInt16.size then some (if port = standardPort secure then none else some port)
    else none
  else none

/-- A step in which points may be escaped, with the points alone. -/
def points : List Char → List Char
  | '%' :: '2' :: letter :: rest =>
    if letter = 'e' ∨ letter = 'E' then '.' :: points rest
    else '%' :: '2' :: points (letter :: rest)
  | letter :: rest => letter :: points rest
  | [] => []

/-- Follows the steps of a path: one point stays, two points go back. -/
def follow (passed : List (List Char)) : List (List Char) → List (List Char)
  | [] => passed.reverse
  | step :: rest =>
    if points step = ['.', '.'] then
      follow (if rest.isEmpty then [] :: passed.drop 1 else passed.drop 1) rest
    else if points step = ['.'] then follow (if rest.isEmpty then [] :: passed else passed) rest
    else follow (escape keepsInPath step :: passed) rest

def readPath (text : List Char) : List (List Char) :=
  let steps := splitAt '/' (text.map fun letter => if letter = '\\' then '/' else letter)
  follow [] (if 1 < steps.length then steps.drop 1 else [[]])

/-- The address from behind its scheme. -/
def readRest? (secure : Bool) (text : List Char) : Option Url := do
  let text := text.dropWhile isSlash
  let (host, port) := cutPort false (dropUser (text.takeWhile (!endsHost ·)))
  let behind := text.dropWhile (!endsHost ·)
  let whole := behind.takeWhile (· ≠ '#')
  let path := whole.takeWhile (· ≠ '?')
  return {
    secure
    host := ← Host.read? host
    port := ← readPort? secure port
    path := readPath path
    query := if path.length < whole.length then
      some (escape keepsInQuery (whole.drop (path.length + 1))) else none
    fragment := if whole.length < behind.length then
      some (escape keepsInFragment (behind.drop (whole.length + 1))) else none }

/-- Reads an address with one of the two schemes of the web. Line breaks and tabs do not count, nor
do blanks and control characters at the end. -/
def read? (text : String) : Option Url :=
  let kept := text.toList.filter fun letter => !(['\t', '\n', '\r'].contains letter)
  let letters := (kept.reverse.dropWhile (·.toNat ≤ 0x20)).reverse
  if "http:".toList.isPrefixOf letters then readRest? false (letters.drop 5)
  else if "https:".toList.isPrefixOf letters then readRest? true (letters.drop 6)
  else none

def addField (url : Url) (name value : String) : Url :=
  let more := field name value
  { url with query := some (match url.query with
      | some (first :: rest) => first :: rest ++ '&' :: more
      | some [] | none => more) }

def target (url : Url) : List Char :=
  url.path.flatMap ('/' :: ·) ++ match url.query with
    | some query => '?' :: query
    | none => []

def authority (url : Url) : List Char :=
  url.host ++ match url.port with
    | some port => ':' :: (Nat.repr port).toList
    | none => []

def render (url : Url) : String :=
  .ofList ((if url.secure then "https://" else "http://").toList ++ url.authority ++ url.target ++
    match url.fragment with
      | some fragment => '#' :: fragment
      | none => [])

def unnameable : List Char := ['\x22', '\x60', '\x7b', '\x7d']

def longest : Nat := 65534

def isSendable (url : Url) : Bool :=
  !url.host.any unnameable.contains && url.render.utf8ByteSize ≤ longest

end Url
end ReplicatedSpace
