/-!
Names outside the Latin alphabet, written with its letters: the plain letters first, then where the
others go, as differences in digits of base thirty-six whose thresholds adapt to what came before.
-/
namespace ReplicatedSpace.Url.Punycode

def digit (value : Nat) : Char :=
  if value < 26 then .ofNat ('a'.toNat + value) else .ofNat ('0'.toNat + value - 26)

def threshold (place bias : Nat) : Nat := max 1 (min 26 (place - bias))

def settle (difference steps : Nat) : Nat :=
  if 455 < difference then settle (difference / 35) (steps + 36)
  else steps + 36 * difference / (difference + 38)
termination_by difference
decreasing_by omega

def adapt (difference placed : Nat) (first : Bool) : Nat :=
  let halved := if first then difference / 700 else difference / 2
  settle (halved + halved / placed) 0

/-- The digits of a difference, from the place on. -/
def digits (bias difference place : Nat) : List Char :=
  let least := threshold place bias
  if difference < least then [digit difference]
  else
    let rest := difference - least
    digit (least + rest % (36 - least)) :: digits bias (rest / (36 - least)) (place + 36)
termination_by difference
decreasing_by
  have : 1 ≤ threshold place bias := Nat.le_max_left _ _
  have : (difference - threshold place bias) / (36 - threshold place bias) ≤
    difference - threshold place bias := Nat.div_le_self _ _
  omega

/-- What has been written so far. -/
structure Writer where
  bias : Nat
  difference : Nat
  placed : Nat
  plain : Nat
  written : List Char

/-- Writes the positions of one character among those placed before. -/
def Writer.place (writer : Writer) (code : Nat) (text : List Nat) : Writer :=
  text.foldl (fun writer other =>
    if other < code then { writer with difference := writer.difference + 1 }
    else if other = code then
      { writer with
        written := writer.written ++ digits writer.bias writer.difference 36
        bias := adapt writer.difference (writer.placed + 1) (writer.placed = writer.plain)
        placed := writer.placed + 1
        difference := 0 }
    else writer) writer

/-- A label with the letters of the Latin alphabet alone. -/
def encode (label : List Char) : List Char :=
  let text := label.map Char.toNat
  let plain := label.filter fun letter => letter.toNat < 0x80
  let codes := ((text.filter (0x80 ≤ ·)).mergeSort).eraseDups
  let mark := if plain.isEmpty then [] else ['-']
  let start : Writer := ⟨72, 0, plain.length, plain.length, plain ++ mark⟩
  let (writer, _) := codes.foldl (fun (writer, next) code =>
    let skipped := writer.difference + (code - next) * (writer.placed + 1)
    let after := { writer with difference := skipped }.place code text
    ({ after with difference := after.difference + 1 }, code + 1)) (start, 0x80)
  writer.written

def digitValue? (letter : Char) : Option Nat :=
  if letter.isLower then some (letter.toNat - 'a'.toNat)
  else if letter.isDigit then some (letter.toNat - '0'.toNat + 26)
  else none

/-- A difference, and what follows its digits, of which each counts `weight` times as much as its
value. -/
def readDifference? (bias : Nat) : Nat → Nat → Nat → List Char → Option (Nat × List Char)
  | _, _, _, [] => none
  | place, weight, sum, letter :: rest => do
    let value ← digitValue? letter
    let least := threshold place bias
    if value < least then return (sum + value * weight, rest)
    else readDifference? bias (place + 36) (weight * (36 - least)) (sum + value * weight) rest

/-- Places characters among others until no digits are left; `fuel` bounds their number. -/
def readPlaces? : Nat → Nat → Nat → Nat → List Char → List Char → Option (List Char)
  | _, _, _, _, text, [] => some text
  | 0, _, _, _, _, _ :: _ => none
  | fuel + 1, bias, code, index, text, digits => do
    let (difference, rest) ← readDifference? bias 36 1 0 digits
    let placed := text.length + 1
    let code := code + (index + difference) / placed
    let index := (index + difference) % placed
    if code.isValidChar then
      readPlaces? fuel (adapt difference placed (text.all (·.toNat < 0x80))) code (index + 1)
        (text.take index ++ .ofNat code :: text.drop index) rest
    else none

/-- The label that another one with the letters of the Latin alphabet stands for. -/
def decode? (label : List Char) : Option (List Char) :=
  let behind := (label.reverse.takeWhile (· ≠ '-')).reverse
  let plain := label.take (label.length - behind.length - 1)
  let digits := if plain.isEmpty then label else behind
  readPlaces? digits.length 72 0x80 0 plain digits

end ReplicatedSpace.Url.Punycode
