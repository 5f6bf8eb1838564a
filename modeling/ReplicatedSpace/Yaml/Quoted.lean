import ReplicatedSpace.Text.Letter
import ReplicatedSpace.Yaml.Cursor

/-!
Texts in quotation marks, which may take several lines. Only between double ones does a backslash
stand for something else.
-/
namespace ReplicatedSpace.Yaml.Quoted

def escaped? (mark : Char) : Option Char :=
  [('0', '\x00'), ('a', '\x07'), ('b', '\x08'), ('t', '\t'), ('\t', '\t'), ('n', '\n'),
    ('v', '\x0b'), ('f', '\x0c'), ('r', '\r'), ('e', '\x1b'), (' ', ' '), ('\x22', '\x22'),
    ('/', '/'), ('\\', '\\'), ('N', '\u0085'), ('_', '\u00a0'), ('L', '\u2028'),
    ('P', '\u2029')].lookup mark

def digitCount (mark : Char) : Nat :=
  if mark = 'x' then 2 else if mark = 'u' then 4 else if mark = 'U' then 8 else 0

/-- An escape from behind its backslash: what it stands for, and its length. -/
def readEscape? : List Char → Option (Char × Nat)
  | [] => none
  | mark :: rest =>
    let digits := rest.take (digitCount mark)
    if digitCount mark = 0 then (escaped? mark).map (·, 1)
    else if digits.length < digitCount mark then none
    else (Text.Hex.readChar? digits).map (·, digits.length + 1)

/-- The word that follows. A backslash at the end of a line ends the word together with the line;
`fuel` is the length of the text. -/
def readWord? (mark : Char) : Nat → Cursor → Option (List Char × Cursor)
  | 0, _ => none
  | fuel + 1, cursor =>
    if isCut cursor.rest then some ([], cursor)
    else match cursor.rest with
      | [] => some ([], cursor)
      | letter :: rest =>
        if letter = mark then
          if mark = '\x27' ∧ rest.head? = some mark then
            (readWord? mark fuel (cursor.past 2)).map fun (word, behind) => (mark :: word, behind)
          else some ([], cursor)
        else if letter = '\\' ∧ mark ≠ '\x27' then
          if rest.head?.any isBreak then some ([], (cursor.past 1).nextLine)
          else do
            let (stands, length) ← readEscape? rest
            let (word, behind) ← readWord? mark fuel (cursor.past (length + 1))
            return (stands :: word, behind)
        else
          (readWord? mark fuel (cursor.past 1)).map fun (word, behind) => (letter :: word, behind)

/-- The text to its closing mark. Its lines are indented, and none is a border of documents; `fuel`
is the length of the text. -/
def readLines? (indent : Int) (mark : Char) : Nat → Cursor → Option (List Char × Cursor)
  | 0, _ => none
  | fuel + 1, cursor =>
    if (cursor.column = 0 && isBorder cursor.rest) || cursor.rest.isEmpty ||
        (cursor.column : Int) < indent then none
    else do
      let (word, behind) ← readWord? mark (fuel + 1) cursor
      if behind.rest.head? = some mark then return (word, behind.past 1)
      let (gap, behind) ← Gap.read? indent true (fuel + 1) .none behind
      let (text, behind) ← readLines? indent mark fuel behind
      return (word ++ gap.text ++ text, behind)

/-- Whether a text may stand behind one that began in the line `first`: the end of the line, a
colon, or within brackets one of their marks. Outside of brackets a text of several lines is no
key. -/
def isBehind (inFlow : Bool) (first : Nat) (cursor : Cursor) : Bool :=
  cursor.rest.head?.all fun letter =>
    isBreak letter || (letter = ':' && (inFlow || first = cursor.line)) ||
      (inFlow && [',', ']', '\x7d'].contains letter)

/-- A text from its opening mark on, and the place behind it and the blanks that follow. -/
def read? (indent : Int) (inFlow : Bool) (mark : Char) (cursor : Cursor) :
    Option (List Char × Cursor) := do
  let (text, behind) ← readLines? indent mark (cursor.rest.length + 1) (cursor.past 1)
  let behind ← behind.pastBlanks?
  if isBehind inFlow cursor.line behind then return (text, behind) else none

end ReplicatedSpace.Yaml.Quoted
