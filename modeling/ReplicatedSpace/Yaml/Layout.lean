import ReplicatedSpace.Yaml.Tag

/-!
What is known of a text up to a place in it: its tokens, the blocks and brackets that are open, and
where a key may have begun. Only the colon behind a key shows it to be one, so that its token, and
that of a table that it opens, take their place among the others afterwards.
-/
namespace ReplicatedSpace.Yaml

/-- What a file consists of once its layout is understood. -/
inductive Token
  | directive (directive : Directive)
  /-- The borders of a document. -/
  | opening | closing
  /-- Blocks begin where lines are indented further, and end where they no longer are. -/
  | blockList | blockTable | blockEnd
  /-- Lists and tables in brackets. -/
  | flowList | flowListEnd | flowTable | flowTableEnd
  /-- What stands in front of an item of a block. -/
  | item
  /-- What stands between items in brackets. -/
  | comma
  /-- What stands in front of a key and of its value. -/
  | key | value
  /-- A name for what follows, and a name in its place. -/
  | anchor (name : String)
  | alias (name : String)
  | tag (tag : Tag)
  | scalar (isPlain : Bool) (content : String)
deriving DecidableEq

/-- What may be a key. -/
structure Candidate where
  line : Nat
  index : Nat
  column : Nat
  /-- How many tokens stand in front of it. -/
  number : Nat
  /-- Whether nothing else can stand in its place. -/
  isRequired : Bool
deriving DecidableEq

/-- What a block or the value of a key is indented against. -/
structure Level where
  /-- The column of what stands around it. -/
  outer : Int
  /-- Whether it is a block, which has an end of its own. -/
  isBlock : Bool
deriving DecidableEq

structure Layout where
  cursor : Cursor
  tokens : List Token
  /-- The least column of what belongs to the innermost level; -1 outside of all. -/
  indent : Int
  /-- The levels that are open, the innermost first. -/
  levels : List Level
  /-- Whether a key may begin. -/
  allowsKey : Bool
  candidate : Option Candidate
  /-- The candidates around the open brackets, those around the innermost first. -/
  outerCandidates : List (Option Candidate)
  /-- Of every open list in brackets whether a pair without braces is open in it. -/
  pairs : List Bool
  /-- Whether a table in brackets has begun since such a pair ended last. -/
  hasBraces : Bool
  /-- The index at which a colon needs no gap behind it. -/
  adjacent : Nat
  /-- The column of the last token if it is an anchor or a tag. -/
  property? : Option Nat
deriving DecidableEq

namespace Layout

/-- At the beginning of a text. -/
def start (text : List Char) : Layout where
  cursor := .start text
  tokens := []
  indent := -1
  levels := []
  allowsKey := true
  candidate := none
  outerCandidates := []
  pairs := []
  hasBraces := false
  adjacent := 0
  property? := none

def inFlow (layout : Layout) : Bool := !layout.outerCandidates.isEmpty

def nestingLimit : Nat := 255

def push (layout : Layout) (token : Token) : Layout :=
  { layout with tokens := layout.tokens ++ [token], property? := none }

def endValue (layout : Layout) : Layout :=
  match layout.levels with
  | level :: levels =>
    if level.isBlock then layout else { layout with indent := level.outer, levels := levels }
  | [] => layout

/-- Opens a block at a column unless one is open there; its token goes in front of those from a
number on. -/
def openBlock (layout : Layout) (column number : Nat) (token : Token) : Layout :=
  if layout.inFlow then layout
  else
    let layout := if layout.indent ≤ column then layout.endValue else layout
    if layout.indent < column then
      { layout with
        levels := ⟨layout.indent, true⟩ :: layout.levels
        indent := column
        tokens := layout.tokens.insertIdx number token }
    else layout

/-- Opens the level of a value, which stands further to the right than its key. -/
def openValue (layout : Layout) : Layout :=
  if !layout.inFlow && layout.levels.head?.any Level.isBlock then
    { layout with
      levels := ⟨layout.indent, false⟩ :: layout.levels
      indent := layout.indent + 1 }
  else layout

/-- What is left of levels that what stands at a column belongs to, with the column that it is
indented against, and the number of the blocks that end. -/
def leave (column : Int) : Int → List Level → Int × List Level × Nat
  | indent, [] => (indent, [], 0)
  | indent, level :: levels =>
    if indent ≤ column then (indent, level :: levels, 0)
    else
      let (left, rest, blocks) := leave column level.outer levels
      (left, rest, if level.isBlock then blocks + 1 else blocks)

/-- Ends the levels that what stands at a column does not belong to. -/
def leaveTo (layout : Layout) (column : Int) : Layout :=
  if layout.inFlow then layout
  else
    let (indent, levels, blocks) := leave column layout.indent layout.levels
    { layout with
      indent := indent
      levels := levels
      tokens := layout.tokens ++ .replicate blocks .blockEnd
      property? := if blocks = 0 then layout.property? else none }

def dropCandidate? (layout : Layout) : Option Layout :=
  if layout.candidate.any Candidate.isRequired then none
  else some { layout with candidate := none }

/-- Takes what begins here as a candidate, if a key may begin. -/
def propose? (layout : Layout) : Option Layout := do
  if !layout.allowsKey then return layout
  let free ← layout.dropCandidate?
  return { free with
    candidate := some {
      line := layout.cursor.line
      index := layout.cursor.index
      column := layout.cursor.column
      number := layout.tokens.length
      isRequired := !layout.inFlow && layout.indent == layout.cursor.column &&
        layout.levels.head?.any Level.isBlock } }

def keyLimit : Nat := 1024

/-- Gives a candidate up that is too far away: outside of brackets a key takes a part of a line. -/
def forget? (layout : Layout) : Option Layout :=
  let isFar := layout.candidate.any fun candidate =>
    candidate.line < layout.cursor.line || candidate.index + keyLimit < layout.cursor.index
  if !layout.inFlow && isFar then layout.dropCandidate? else some layout

def endPair (layout : Layout) : Layout :=
  match layout.pairs with
  | true :: pairs =>
    { layout.push .flowTableEnd with pairs := false :: pairs, hasBraces := false }
  | _ => layout

/-- Goes on to what comes next. Outside of brackets a key may begin on every new line. Within a
block no tab stands where a line is to be indented, unless the line has nothing else; `fuel` is the
length of the text. -/
def advance? : Nat → Layout → Option Layout
  | 0, layout => some layout
  | fuel + 1, layout =>
    let cursor := layout.cursor
    match cursor.rest with
    | [] => some layout
    | letter :: _ =>
      if letter = '\t' && !layout.levels.isEmpty && cursor.isLeading &&
          (cursor.column : Int) < layout.indent then do
        let behind ← cursor.pastBlanks?
        if isLineEnd behind.rest then advance? fuel { layout with cursor := behind } else none
      else if isSpace letter then advance? fuel { layout with cursor := cursor.skip 1 }
      else if isBreak letter then
        advance? fuel { layout with
          cursor := cursor.nextLine
          allowsKey := layout.allowsKey || !layout.inFlow }
      else if letter = '#' then advance? fuel { layout with cursor := cursor.pastComment }
      else some layout

end Layout
end ReplicatedSpace.Yaml
