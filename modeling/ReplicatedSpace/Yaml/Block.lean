import ReplicatedSpace.Decimal.Literal
import ReplicatedSpace.Yaml.Cursor

/-!
Texts of whole lines that are indented below their mark. A bar keeps the lines as they are, and an
angle joins them; what the mark says besides is how far the lines are indented and what becomes of
the line ends behind the last one.
-/
namespace ReplicatedSpace.Yaml.Block

/-- What becomes of the line ends behind the last line. -/
inductive Ending
  /-- One stays. -/
  | clip
  | strip
  | keep
deriving DecidableEq

def Ending.ofMark? (mark : Char) : Option Ending :=
  if mark = '+' then some .keep else if mark = '-' then some .strip else none

/-- The ending and the indentation that a text begins with, in any order; 0 for no indentation. The
number is the length of both. -/
def readHeader? (text : List Char) : Option (Ending × Nat × Nat) :=
  let ending? : List Char → Option Ending := fun text => text.head?.bind Ending.ofMark?
  let digit? : List Char → Option Nat := fun text =>
    text.head?.bind fun letter =>
      if letter.isDigit then some (Decimal.digitValue letter) else none
  let header : Ending × Option Nat × Nat := match ending? text, digit? text with
    | some ending, _ =>
      let indent? := digit? (text.drop 1)
      (ending, indent?, if indent?.isSome then 2 else 1)
    | none, some indent =>
      let second? := ending? (text.drop 1)
      (second?.getD .clip, some indent, if second?.isSome then 2 else 1)
    | none, none => (.clip, none, 0)
  match header with
  | (_, some 0, _) => none
  | (ending, indent?, length) => some (ending, indent?.getD 0, length)

/-- Passes empty lines and then blanks, at most to a column if one is given. The numbers are the
count of the lines and the column of the most blanks; `fuel` is the length of the text. -/
def passEmpty (limit? : Option Nat) : Nat → Nat → Nat → Cursor → Nat × Nat × Cursor
  | 0, count, widest, cursor => (count, widest, cursor)
  | fuel + 1, count, widest, cursor =>
    let width := (cursor.rest.takeWhile (· = ' ')).length
    let behind := cursor.skip (match limit? with
      | some limit => min width (limit - cursor.column)
      | none => width)
    let widest := max widest behind.column
    if behind.rest.head?.any isBreak then
      passEmpty limit? fuel (count + 1) widest behind.nextLine
    else (count, widest, behind)

/-- The lines that have been read. -/
structure Lines where
  text : List Char
  /-- Whether the last line has ended. -/
  hasEnded : Bool
  /-- How many empty lines follow. -/
  emptyLines : Nat
  /-- Whether the last line began with a blank. -/
  isSpaced : Bool

def Lines.joint (isLiteral : Bool) (lines : Lines) (isSpaced : Bool) : List Char :=
  let breaks : List Char := .replicate lines.emptyLines '\n'
  if !isLiteral && lines.hasEnded && !lines.isSpaced && !isSpaced then
    if lines.emptyLines = 0 then [' '] else breaks
  else (if lines.hasEnded then ['\n'] else []) ++ breaks

/-- Reads the lines at a column; `fuel` is the length of the text. -/
def readLines (isLiteral : Bool) (indent : Nat) : Nat → Lines → Cursor → Lines × Cursor
  | 0, lines, cursor => (lines, cursor)
  | fuel + 1, lines, cursor =>
    if cursor.column ≠ indent ∨ cursor.rest = [] then (lines, cursor)
    else
      let isSpaced := cursor.rest.head?.any isSpace
      let line := cursor.rest.takeWhile (!isBreak ·)
      let text := lines.text ++ lines.joint isLiteral isSpaced ++ line
      let behind := cursor.past line.length
      if behind.rest = [] then (⟨text, false, 0, isSpaced⟩, behind)
      else
        let (count, _, next) := passEmpty (some indent) (fuel + 1) 0 0 behind.nextLine
        readLines isLiteral indent fuel ⟨text, true, count, isSpaced⟩ next

/-- The text that lines make. A last line that the end of the file cuts off counts as ended. -/
def Lines.close (ending : Ending) (indent : Nat) (lines : Lines) (cursor : Cursor) : List Char :=
  let last : List Char := if lines.hasEnded then ['\n'] else []
  let cut : List Char := if cursor.rest = [] ∧ max indent 1 ≤ cursor.column then ['\n'] else []
  match ending with
  | .strip => lines.text
  | .clip => lines.text ++ last ++ cut
  | .keep => lines.text ++ last ++ cut ++ .replicate lines.emptyLines '\n'

def emptyText (ending : Ending) (hasBreak : Bool) (emptyLines : Nat) : List Char :=
  match ending with
  | .strip => []
  | .clip => if hasBreak then ['\n'] else []
  | .keep => if hasBreak then .replicate (max 1 emptyLines) '\n' else []

/-- A text from its mark on, below what stands at a column, which is -1 outside of everything.
Without an indentation in the header the first lines tell it; no line is indented less than that but
more than what the text belongs to. -/
def read? (outer : Int) (isLiteral : Bool) (cursor : Cursor) : Option (List Char × Cursor) := do
  let (ending, given, length) ← readHeader? (cursor.rest.drop 1)
  let marked ← (cursor.past (length + 1)).pastBlanks?
  if !isLineEnd marked.rest then none
  let first := if marked.rest = [] then marked else marked.nextLine
  if first.rest.head? = some '\t' then none
  let fuel := cursor.rest.length + 1
  let limit? := if given = 0 then none else some (given + outer.toNat)
  let (count, widest, next) := passEmpty limit? fuel 0 0 first
  let indent := limit?.getD (max widest (outer + 1).toNat)
  if next.rest = [] then
    return (emptyText ending (next.line ≠ cursor.line) count, next)
  if next.column < indent ∧ outer < next.column then none
  let (lines, behind) := readLines isLiteral indent fuel ⟨[], false, count, false⟩ next
  return (lines.close ending indent behind, behind)

end ReplicatedSpace.Yaml.Block
