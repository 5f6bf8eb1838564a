/-!
A place in a text, with all that reading on from there needs to know: what is left of the text, and
where in which line the place is.
-/
namespace ReplicatedSpace.Yaml

def isSpace (letter : Char) : Bool := letter = ' ' || letter = '\t'

def isBreak (letter : Char) : Bool := letter = '\n' || letter = '\r'

def isGap (letter : Char) : Bool := isSpace letter || isBreak letter

def isFlow (letter : Char) : Bool := [',', '[', ']', '\x7b', '\x7d'].contains letter

def inWord (letter : Char) : Bool := letter.isAlphanum || letter = '-'

def inName (letter : Char) : Bool := inWord letter || letter = '_'

def isCut (text : List Char) : Bool := text.head?.all isGap

def isLineEnd (text : List Char) : Bool := text.head?.all isBreak

def isBorder (text : List Char) : Bool :=
  (text.take 3 = ['-', '-', '-'] || text.take 3 = ['.', '.', '.']) && isCut (text.drop 3)

structure Cursor where
  rest : List Char
  index : Nat
  line : Nat
  column : Nat
  /-- Whether there are only blanks in front of it in its line. -/
  isLeading : Bool
deriving DecidableEq

namespace Cursor

def start (text : List Char) : Cursor := ⟨text, 0, 0, 0, true⟩

def skip (cursor : Cursor) (count : Nat) : Cursor :=
  { cursor with
    rest := cursor.rest.drop count
    index := cursor.index + count
    column := cursor.column + count }

def past (cursor : Cursor) (count : Nat) : Cursor := { cursor.skip count with isLeading := false }

def nextLine (cursor : Cursor) : Cursor :=
  let width := if cursor.rest.take 2 = ['\r', '\n'] then 2 else 1
  ⟨cursor.rest.drop width, cursor.index + width, cursor.line + 1, 0, true⟩

def blanks (cursor : Cursor) : List Char := cursor.rest.takeWhile isSpace

def pastComment (cursor : Cursor) : Cursor :=
  cursor.past (cursor.rest.takeWhile (!isBreak ·)).length

/-- Behind the blanks and the comment that follow in the line. There are blanks in front of a
comment. -/
def pastBlanks? (cursor : Cursor) : Option Cursor :=
  let behind := cursor.skip cursor.blanks.length
  if behind.rest.head? = some '#' then
    if cursor.blanks.isEmpty then none else some behind.pastComment
  else some behind

end Cursor

/-- What stands between two words of a text. -/
structure Gap where
  /-- Blanks within a line. -/
  blanks : List Char
  /-- Whether the line ends. -/
  isFolded : Bool
  /-- How many empty lines there are. -/
  emptyLines : Nat

namespace Gap

def none : Gap := ⟨[], false, 0⟩

/-- What a gap stands for: the end of a line for a blank, and only empty lines for themselves. -/
def text (gap : Gap) : List Char :=
  if 0 < gap.emptyLines then .replicate gap.emptyLines '\n'
  else if gap.isFolded then [' ']
  else gap.blanks

/-- Reads a gap on. A tab may not stand where a line is to be indented, unless nothing follows it in
the line and the text is not in quotation marks; `fuel` is the length of the text. -/
def read? (indent : Int) (isQuoted : Bool) : Nat → Gap → Cursor → Option (Gap × Cursor)
  | 0, _, _ => .none
  | fuel + 1, gap, cursor =>
    match cursor.rest with
    | [] => some (gap, cursor)
    | letter :: _ =>
      if isBreak letter then
        read? indent isQuoted fuel
          (if cursor.isLeading then { gap with emptyLines := gap.emptyLines + 1 }
            else { gap with blanks := [], isFolded := true })
          cursor.nextLine
      else if !isSpace letter then some (gap, cursor)
      else if !cursor.isLeading then
        read? indent isQuoted fuel { gap with blanks := gap.blanks ++ [letter] } (cursor.skip 1)
      else if letter = '\t' ∧ cursor.column < indent then do
        let behind ← cursor.pastBlanks?
        if isQuoted || !isLineEnd behind.rest then .none
        else read? indent isQuoted fuel gap behind
      else read? indent isQuoted fuel gap (cursor.skip 1)

end Gap
end ReplicatedSpace.Yaml
