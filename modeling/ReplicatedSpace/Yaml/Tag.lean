import ReplicatedSpace.Text.Letter
import ReplicatedSpace.Yaml.Cursor

/-!
Tags, which say of what kind something is: a handle and a name behind it. A directive at the
beginning of a document says what a handle stands for.
-/
namespace ReplicatedSpace.Yaml

structure Tag where
  handle : String
  name : String
deriving DecidableEq

/-- What stands in front of a document. -/
inductive Directive
  /-- The version of the format. -/
  | version
  /-- What a handle stands for. -/
  | handle (handle meaning : String)
deriving DecidableEq

namespace Tag

def inUri (letter : Char) : Bool :=
  inWord letter || "#;/?:@&=+$,_.!~*\x27()[]%".toList.contains letter

def inTag (letter : Char) : Bool := inUri letter && !isFlow letter && letter ≠ '!'

/-- A byte in base sixteen behind a percent sign. -/
def readByte? : List Char → Option (Nat × List Char)
  | '%' :: high :: low :: rest => do
    let high ← Text.Hex.digitValue? high
    let low ← Text.Hex.digitValue? low
    return (16 * high + low, rest)
  | _ => none

/-- A character by its bytes. Of one with two bytes these are the two of its code. -/
def readBytes? (text : List Char) : Option (Char × List Char) := do
  let (first, rest) ← readByte? text
  if first < 0x80 then return (.ofNat first, rest)
  let (second, rest) ← readByte? rest
  let code := 256 * first + second
  if 0xC0 ≤ first ∧ first < 0xE0 ∧ 0x80 ≤ second ∧ second < 0xC0 ∧ code.isValidChar then
    return (.ofNat code, rest)
  else none

/-- The characters of a kind that a text begins with, and what follows; `fuel` is the length of the
text. -/
def readAll? (isAllowed : Char → Bool) : Nat → List Char → Option (List Char × List Char)
  | 0, _ => none
  | _ + 1, [] => some ([], [])
  | fuel + 1, letter :: rest => do
    if !isAllowed letter then return ([], letter :: rest)
    let (stands, behind) ← if letter = '%' then readBytes? (letter :: rest) else pure (letter, rest)
    let (more, behind) ← readAll? isAllowed fuel behind
    return (stands :: more, behind)

/-- A handle, and what follows. -/
def takeHandle : List Char → List Char × List Char
  | '!' :: rest =>
    let name := rest.takeWhile inName
    match rest.dropWhile inName with
    | '!' :: behind => ('!' :: name ++ ['!'], behind)
    | behind => ('!' :: name, behind)
  | text => ([], text)

def isNamed (handle : List Char) : Bool := 2 ≤ handle.length && handle.getLast? = some '!'

/-- A tag, and what follows. -/
def read? (text : List Char) : Option (Tag × List Char) := do
  let fuel := text.length + 1
  match text with
  | '!' :: '<' :: rest =>
    match ← readAll? inUri fuel rest with
    | (name, '>' :: behind) => return (⟨"", .ofList name⟩, behind)
    | _ => none
  | _ =>
    let (handle, rest) := takeHandle text
    let (name, behind) ← readAll? inTag fuel rest
    if isNamed handle then
      if name.isEmpty then none else return (⟨.ofList handle, .ofList name⟩, behind)
    else
      let name := handle.drop 1 ++ name
      return (if name.isEmpty then ⟨"", "!"⟩ else ⟨"!", .ofList name⟩, behind)

def core : String := "tag:yaml.org,2002:"

/-- The tag with what its handle stands for. A handle with a name is to be declared. -/
def resolve? (declared : Option (String × String)) (tag : Tag) : Option Tag :=
  match declared.filter fun declaration => declaration.1 = tag.handle with
  | some (_, meaning) => some { tag with handle := meaning }
  | none =>
    if tag.handle = "!!" then some { tag with handle := core }
    else if isNamed tag.handle.toList then none
    else some tag

end Tag

namespace Directive

def readPart? (text : List Char) : Option (List Char) :=
  let digits := text.takeWhile Char.isDigit
  if digits.isEmpty ∨ 9 < digits.length then none else some (text.drop digits.length)

def readVersion? (text : List Char) : Option (Directive × List Char) := do
  match ← readPart? text with
  | '.' :: rest => return (version, ← readPart? rest)
  | _ => none

/-- What a handle stands for, behind the handle. -/
def readHandle? (text : List Char) : Option (Directive × List Char) := do
  let (name, rest) := Tag.takeHandle text
  let start := rest.dropWhile isSpace
  let isFirst := start.head?.any fun letter => letter = '!' || Tag.inTag letter
  let (meaning, behind) ← Tag.readAll? Tag.inUri (start.length + 1) start
  if (name = ['!'] || Tag.isNamed name) && isFirst && isCut behind then
    return (handle (.ofList name) (.ofList meaning), behind)
  else none

/-- A directive from its mark on, and what follows in its line. One with another name declares
nothing. -/
def read? (text : List Char) : Option (Directive × List Char) :=
  let name := (text.drop 1).takeWhile inName
  let rest := (text.drop 1).dropWhile inName
  if name.isEmpty || !isCut rest then none
  else if name = "YAML".toList then readVersion? (rest.dropWhile isSpace)
  else if name = "TAG".toList then readHandle? (rest.dropWhile isSpace)
  else some (handle "" "", rest.dropWhile (!isBreak ·))

end Directive
end ReplicatedSpace.Yaml
