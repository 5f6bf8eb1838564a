import ReplicatedSpace.Decimal.Literal
import ReplicatedSpace.Url.Escape
import ReplicatedSpace.Url.Name

/-!
Hosts of addresses: names, and numbers of the two kinds of networks, each in its one usual form.
-/
namespace ReplicatedSpace.Url.Host

def readDigits? (base : Nat) (text : List Char) : Option Nat := do
  let digits ← text.mapM Text.Hex.digitValue?
  if digits.all (· < base) then some (digits.foldl (fun number digit => base * number + digit) 0)
  else none

/-- A part of a number: in base sixteen behind `0x`, in base eight behind `0`, or in base ten. -/
def readPart? : List Char → Option Nat
  | [] => none
  | '0' :: 'x' :: digits => readDigits? 16 digits
  | '0' :: digit :: digits => readDigits? 8 (digit :: digits)
  | digits => readDigits? 10 digits

def parts (name : List Char) : List (List Char) :=
  let all := splitAt '.' name
  if 1 < all.length ∧ all.getLast? = some [] then all.dropLast else all

def endsInNumber (name : List Char) : Bool :=
  match (parts name).getLast? with
  | none | some [] => false
  | some ('0' :: 'x' :: digits) => (readDigits? 16 digits).isSome
  | some last => last.all Char.isDigit

/-- The four bytes of a number of one to four parts, of which the last fills what is left. -/
def readNumber? (name : List Char) : Option Nat := do
  let values ← (parts name).mapM readPart?
  let last ← values.getLast?
  let before := values.dropLast
  if values.length ≤ 4 ∧ before.all (· < 256) ∧ last < Nat.pow 256 (5 - values.length) then
    some (before.zipIdx.foldl
      (fun number (byte, place) => number + byte * Nat.pow 256 (3 - place)) last)
  else none

def renderNumber (number : Nat) : List Char :=
  let byte (place : Nat) := (Nat.repr (number / Nat.pow 256 place % 256)).toList
  byte 3 ++ '.' :: byte 2 ++ '.' :: byte 1 ++ '.' :: byte 0

/-- Four numbers between points at the end count as two pieces. -/
def readTail? (text : List Char) : Option (List Nat) := do
  let bytes ← (splitAt '.' text).mapM fun part =>
    if part.isEmpty ∨ (1 < part.length ∧ part.head? = some '0') ∨ !part.all Char.isDigit then none
    else some (Decimal.readDigits 0 part)
  match bytes with
  | [a, b, c, d] =>
    if bytes.all (· < 256) then some [256 * a + b, 256 * c + d] else none
  | _ => none

/-- The pieces between colons; only the last ones may be four numbers. -/
def readPieces? : List (List Char) → Option (List Nat)
  | [] => some []
  | [last] =>
    if last.contains '.' then readTail? last
    else if last.isEmpty ∨ 4 < last.length then none
    else (readDigits? 16 last).map ([·])
  | piece :: rest =>
    if piece.isEmpty ∨ 4 < piece.length then none
    else do return (← readDigits? 16 piece) :: (← readPieces? rest)

def readSide? (text : List Char) : Option (List Nat) :=
  if text.isEmpty then some [] else readPieces? (splitAt ':' text)

def cutAtColons : List Char → Option (List Char × List Char)
  | [] => none
  | ':' :: ':' :: rest => some ([], rest)
  | letter :: rest => (cutAtColons rest).map fun (before, behind) => (letter :: before, behind)

/-- Eight pieces; two colons in a row stand for those that are zero. -/
def readEight? (text : List Char) : Option (List Nat) := do
  match cutAtColons text with
  | none =>
    let pieces ← readSide? text
    if pieces.length = 8 then some pieces else none
  | some (before, behind) =>
    let first ← if before.contains '.' then none else readSide? before
    let last ← readSide? behind
    if first.length + last.length < 8 then
      some (first ++ List.replicate (8 - first.length - last.length) 0 ++ last)
    else none

def leadingZeros (pieces : List Nat) : Nat := (pieces.takeWhile (· = 0)).length

def longestZeros (pieces : List Nat) : Nat × Nat :=
  (List.range 8).foldl (fun (start, length) index =>
    let found := leadingZeros (pieces.drop index)
    if length < found then (index, found) else (start, length)) (0, 0)

def renderPieces (pieces : List Nat) : List Char :=
  [':'].intercalate (pieces.map (Nat.toDigits 16))

def renderEight (pieces : List Nat) : List Char :=
  let (start, length) := longestZeros pieces
  if length < 2 then renderPieces pieces
  else renderPieces (pieces.take start) ++ ':' :: ':' :: renderPieces (pieces.drop (start + length))

def isForbidden (letter : Char) : Bool :=
  letter.toNat ≤ 0x20 || letter.toNat = 0x7f ||
    ['#', '/', ':', '<', '>', '?', '@', '[', '\\', ']', '^', '|', '%'].contains letter

/-- A name, or the number that it spells. -/
def readName? (text : List Char) : Option (List Char) := do
  let name ← String.fromUTF8? ⟨(unescape text).toArray⟩
  let plain ← Name.plain? name.toList
  if plain.isEmpty ∨ plain.any isForbidden then none
  else if endsInNumber plain then (readNumber? plain).map renderNumber
  else some plain

/-- A host in its usual form. -/
def read? (text : List Char) : Option (List Char) :=
  match text with
  | '[' :: rest =>
    if rest.getLast? = some ']' then
      (readEight? rest.dropLast).map fun pieces => '[' :: renderEight pieces ++ [']']
    else none
  | _ => readName? text

end ReplicatedSpace.Url.Host
