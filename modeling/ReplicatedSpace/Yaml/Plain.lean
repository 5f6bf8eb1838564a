import ReplicatedSpace.Yaml.Cursor

/-!
Texts without marks around them. They end where something follows that cannot be part of them: a
colon before a gap, a comment, a border of documents, a line that is not indented, and within
brackets a mark of these.
-/
namespace ReplicatedSpace.Yaml.Plain

def isEnd (inFlow : Bool) (letter : Char) (rest : List Char) : Bool :=
  isGap letter || (letter = ':' && (isCut rest || (inFlow && rest.head?.any isFlow))) ||
    (inFlow && isFlow letter)

def word (inFlow : Bool) : List Char → List Char
  | [] => []
  | letter :: rest => if isEnd inFlow letter rest then [] else letter :: word inFlow rest

/-- Reads on behind a gap; `fuel` is the length of the text. -/
def readLines? (indent : Int) (inFlow : Bool) : Nat → Gap → Cursor → Option (List Char × Cursor)
  | 0, _, _ => none
  | fuel + 1, gap, cursor =>
    let word := word inFlow cursor.rest
    let behind := cursor.past word.length
    if (cursor.column = 0 && isBorder cursor.rest) || cursor.rest.head? = some '#' then
      some ([], cursor)
    else if inFlow && cursor.rest.head? = some '-' && (cursor.rest.drop 1).head?.any isFlow then
      none
    else if word.isEmpty then some ([], cursor)
    else if !behind.rest.head?.any isGap then some (gap.text ++ word, behind)
    else do
      let (next, after) ← Gap.read? indent false (fuel + 1) .none behind
      if !inFlow && (after.column : Int) < indent then return (gap.text ++ word, after)
      let (text, after) ← readLines? indent inFlow fuel next after
      return (gap.text ++ word ++ text, after)

def read? (indent : Int) (inFlow : Bool) (cursor : Cursor) : Option (List Char × Cursor) :=
  if inFlow && (cursor.column : Int) < indent then none
  else readLines? indent inFlow (cursor.rest.length + 1) .none cursor

end ReplicatedSpace.Yaml.Plain
