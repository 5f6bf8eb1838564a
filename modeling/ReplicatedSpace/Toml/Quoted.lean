import ReplicatedSpace.Text.Letter

/-!
Texts in quotation marks, as configuration files write them. Within double marks a backslash opens
an escape; within single marks it stands for itself. Three marks open a text of several lines, whose
first line break, right behind them, does not count.
-/
namespace ReplicatedSpace.Toml

abbrev Reader (α : Type) := List Char → Option (α × List Char)

/-- Blanks within a line. A carriage return is one, since it stands only before a line feed. -/
def isSpace (letter : Char) : Bool := letter = ' ' || letter = '\t' || letter = '\r'

/-- Control characters do not stand in a file, apart from blanks and line breaks. -/
def isVisible (letter : Char) : Bool :=
  letter = '\t' || (0x20 ≤ letter.toNat && letter.toNat ≠ 0x7f)

namespace Quoted

/-- The character for the letter behind a backslash. -/
def escaped? (letter : Char) : Option Char :=
  if letter = 'b' then some '\x08'
  else if letter = 't' then some '\t'
  else if letter = 'n' then some '\n'
  else if letter = 'f' then some '\x0c'
  else if letter = 'r' then some '\r'
  else if letter = 'e' then some '\x1b'
  else if letter = '\x22' ∨ letter = '\\' then some letter
  else none

def endsLine (text : List Char) : Bool := (text.dropWhile isSpace).head? = some '\n'

/-- Replaces the escapes. Behind a backslash at the end of a line all blanks and line breaks are
skipped. -/
def unescape? (skipping : Bool) : List Char → Option (List Char)
  | [] => some []
  | '\\' :: 'x' :: a :: b :: rest => do
    return (← Text.Hex.readChar? [a, b]) :: (← unescape? false rest)
  | '\\' :: 'u' :: a :: b :: c :: d :: rest => do
    return (← Text.Hex.readChar? [a, b, c, d]) :: (← unescape? false rest)
  | '\\' :: 'U' :: a :: b :: c :: d :: e :: f :: g :: h :: rest => do
    return (← Text.Hex.readChar? [a, b, c, d, e, f, g, h]) :: (← unescape? false rest)
  | '\\' :: letter :: rest =>
    if endsLine (letter :: rest) then unescape? true rest
    else do return (← escaped? letter) :: (← unescape? false rest)
  | letter :: rest =>
    if skipping && (isSpace letter || letter = '\n') then unescape? true rest
    else if letter = '\\' then none
    else (unescape? false rest).map (letter :: ·)

/-- The text up to the mark that closes a line's text. -/
def untilMark (mark : Char) (escapes : Bool) : Reader (List Char)
  | [] => none
  | letter :: rest =>
    if letter = mark then some ([], rest)
    else if !isVisible letter then none
    else if escapes && letter = '\\' then
      match rest with
      | [] => none
      | next :: later => (untilMark mark escapes later).map fun (text, left) =>
          (letter :: next :: text, left)
    else (untilMark mark escapes rest).map fun (text, left) => (letter :: text, left)

/-- The text up to three marks. One or two marks more belong to the text. -/
def untilMarks (mark : Char) (escapes : Bool) : Reader (List Char)
  | [] => none
  | letter :: rest =>
    if letter = mark then
      let run := (letter :: rest).takeWhile (· = mark)
      if 3 ≤ run.length then
        let kept := min (run.length - 3) 2
        some (List.replicate kept mark, (letter :: rest).drop (kept + 3))
      else (untilMarks mark escapes rest).map fun (text, left) => (letter :: text, left)
    else if !isVisible letter && letter ≠ '\n' && letter ≠ '\r' then none
    else if escapes && letter = '\\' then
      match rest with
      | [] => none
      | next :: later => (untilMarks mark escapes later).map fun (text, left) =>
          (letter :: next :: text, left)
    else (untilMarks mark escapes rest).map fun (text, left) => (letter :: text, left)

def dropBreak : List Char → List Char
  | '\r' :: '\n' :: rest | '\n' :: rest => rest
  | text => text

/-- A text of one line, from behind the mark that opens it. -/
def readLine (mark : Char) (text : List Char) : Option (List Char × List Char) := do
  let escapes := mark = '\x22'
  let (raw, rest) ← untilMark mark escapes text
  if escapes then
    if raw.contains '\n' then none else return (← unescape? false raw, rest)
  else return (raw, rest)

def readLines (mark : Char) (text : List Char) : Option (List Char × List Char) := do
  let escapes := mark = '\x22'
  let (raw, rest) ← untilMarks mark escapes (dropBreak text)
  return (← if escapes then unescape? false raw else some raw, rest)

/-- A text from its first mark. -/
def read : Reader (List Char)
  | first :: second :: third :: rest =>
    if first = second ∧ second = third then readLines first rest
    else readLine first (second :: third :: rest)
  | first :: rest => readLine first rest
  | [] => none

def isMark (letter : Char) : Bool := letter = '\x22' || letter = '\x27'

end Quoted
end ReplicatedSpace.Toml
