import ReplicatedSpace.Yaml.Block
import ReplicatedSpace.Yaml.Layout
import ReplicatedSpace.Yaml.Plain
import ReplicatedSpace.Yaml.Quoted

/-!
How the layout of a text goes on with each of the marks and texts in it.
-/
namespace ReplicatedSpace.Yaml.Layout

def pass? (layout : Layout) (count : Nat) : Option Layout := do
  return { layout with cursor := ← (layout.cursor.past count).pastBlanks? }

def readBorder? (layout : Layout) (token : Token) (behind : Cursor) : Option Layout := do
  let free ← (layout.leaveTo (-1)).dropCandidate?
  return { free.push token with allowsKey := false, cursor := behind }

def readDirective? (layout : Layout) : Option Layout := do
  let text := layout.cursor.rest
  let (directive, behind) ← Directive.read? text
  let behind ← (layout.cursor.past (text.length - behind.length)).pastBlanks?
  if isLineEnd behind.rest then layout.readBorder? (.directive directive) behind else none

def readOpening? (layout : Layout) : Option Layout :=
  layout.readBorder? .opening (layout.cursor.past 3)

def readClosing? (layout : Layout) : Option Layout := do
  let behind ← (layout.cursor.past 3).pastBlanks?
  if isLineEnd behind.rest then layout.readBorder? .closing behind else none

def openFlow? (layout : Layout) (isList : Bool) : Option Layout := do
  let proposed ← layout.propose?
  let value := proposed.openValue
  if nestingLimit ≤ value.outerCandidates.length then none
  let inner ← pass? { value with
    outerCandidates := value.candidate :: value.outerCandidates
    candidate := none
    allowsKey := true
    hasBraces := value.hasBraces || !isList
    pairs := if isList then false :: value.pairs else value.pairs } 1
  return inner.push (if isList then .flowList else .flowTable)

def closeFlow? (layout : Layout) (isList : Bool) : Option Layout := do
  let free ← layout.dropCandidate?
  let ended := if isList then { free.endPair with pairs := free.endPair.pairs.drop 1 } else free
  let outer ← pass? { ended with
    candidate := ended.outerCandidates.head?.join
    outerCandidates := ended.outerCandidates.drop 1
    allowsKey := false } 1
  let closed := outer.push (if isList then .flowListEnd else .flowTableEnd)
  return if outer.inFlow then { closed with adjacent := outer.cursor.index } else closed

def readComma? (layout : Layout) : Option Layout := do
  let free ← layout.dropCandidate?
  let next ← pass? { free.endPair with allowsKey := true } 1
  return next.push .comma

/-- An item of a block. What it names is indented against the item. -/
def readItem? (layout : Layout) : Option Layout := do
  let cursor := layout.cursor
  let isStray := layout.property? = some 0 && cursor.column = 0 && -1 < layout.indent
  if layout.inFlow || !layout.allowsKey || isStray then none
  let opened := layout.openBlock cursor.column layout.tokens.length .blockList
  let hasTab := (cursor.past 1).blanks.contains '\t'
  let behind ← opened.pass? 1
  let next := behind.cursor.rest
  if hasTab && next.head? = some '-' && isCut (next.drop 1) then none
  let value :=
    if next.head?.any fun letter => isBreak letter || isFlow letter then behind.openValue
    else behind
  let free ← value.dropCandidate?
  return { free.push .item with allowsKey := true }

/-- Passes blanks other than tabs, comments and ends of lines; `fuel` is the length of the text. -/
def passLines : Nat → Cursor → Cursor
  | 0, cursor => cursor
  | fuel + 1, cursor =>
    match cursor.rest with
    | [] => cursor
    | letter :: _ =>
      if letter = ' ' then passLines fuel (cursor.skip 1)
      else if isBreak letter then passLines fuel cursor.nextLine
      else if letter = '#' then passLines fuel cursor.pastComment
      else cursor

/-- A key with a mark of its own, which no tab follows. -/
def readKey? (layout : Layout) : Option Layout := do
  let cursor := layout.cursor
  if !layout.inFlow && !layout.allowsKey then none
  let opened := layout.openBlock cursor.column layout.tokens.length .blockTable
  let free ← opened.dropCandidate?
  let behind := passLines (cursor.rest.length + 1) (cursor.past 1)
  if behind.index ≤ cursor.index + 1 ∨ behind.rest.head? = some '\t' then none
  return { free.push .key with
    cursor := behind
    allowsKey := !layout.inFlow
    hasBraces := layout.hasBraces || layout.inFlow }

/-- The place behind a colon. A name or another value does not follow it behind tabs alone. -/
def behindColon? (cursor : Cursor) : Option Cursor := do
  let behind := cursor.past 1
  if behind.rest.head? ≠ some '\t' then return behind
  let next ← behind.pastBlanks?
  if !behind.blanks.contains ' ' && next.rest.head?.any inName then none else return next

/-- A value. If there is a candidate, that is its key, and the tokens that belong to the key go in
front of it; otherwise the key has a mark of its own, or there is none. -/
def readValue? (layout : Layout) : Option Layout := do
  let cursor := layout.cursor
  let isPair := !layout.pairs.isEmpty && !layout.hasBraces
  let opening : List Token := if isPair then [.flowTable] else []
  let behind ← behindColon? cursor
  let layout := { layout with
    cursor := behind
    pairs := if isPair then true :: layout.pairs.drop 1 else layout.pairs }
  match layout.candidate with
  | some key =>
    if isPair && key.line < cursor.line then none
    let tokens := layout.tokens.take key.number ++ opening ++ .key :: layout.tokens.drop key.number
    let opened := { layout with tokens := tokens }.openBlock key.column key.number .blockTable
    return { opened.openValue.push .value with candidate := none, allowsKey := false }
  | none =>
    if !layout.inFlow && !layout.allowsKey then none
    let marked := { layout with tokens := layout.tokens ++ opening }
    let opened := marked.openBlock cursor.column marked.tokens.length .blockTable
    return { opened.openValue.push .value with allowsKey := !layout.inFlow }

def inAnchor (letter : Char) : Bool := !isGap letter && !isFlow letter && letter ≠ '\ufeff'

def readAnchor? (layout : Layout) (isAlias : Bool) : Option Layout := do
  let proposed ← layout.propose?
  let name := (layout.cursor.rest.drop 1).takeWhile inAnchor
  if name.isEmpty then none
  let token : Token := if isAlias then .alias (.ofList name) else .anchor (.ofList name)
  return { proposed.push token with
    cursor := layout.cursor.past (name.length + 1)
    allowsKey := false
    property? := if isAlias then none else some layout.cursor.column }

def readTag? (layout : Layout) : Option Layout := do
  let proposed ← layout.propose?
  let text := layout.cursor.rest
  let (tag, behind) ← Tag.read? text
  if !isCut behind && !(layout.inFlow && behind.head?.any isFlow) then none
  return { proposed.push (.tag tag) with
    cursor := layout.cursor.past (text.length - behind.length)
    allowsKey := false
    property? := some layout.cursor.column }

def endValues (layout : Layout) : Layout :=
  layout.levels.foldl (fun layout _ => layout.endValue) layout

def readBlock? (layout : Layout) (isLiteral : Bool) : Option Layout := do
  let proposed := (← layout.propose?).endValues
  let (content, behind) ← Block.read? proposed.indent isLiteral layout.cursor
  return { proposed.push (.scalar false (.ofList content)) with
    cursor := behind
    allowsKey := true }

/-- Behind a text in quotation marks a colon needs no gap behind it. -/
def readQuoted? (layout : Layout) (mark : Char) : Option Layout := do
  let proposed ← layout.propose?
  let (content, behind) ← Quoted.read? layout.indent layout.inFlow mark layout.cursor
  let next ← advance? (layout.cursor.rest.length + 1)
    { proposed with cursor := behind, allowsKey := false }
  return { next.push (.scalar false (.ofList content)) with adjacent := next.cursor.index }

def readPlain? (layout : Layout) : Option Layout := do
  let proposed := (← layout.propose?).endValues
  let (content, behind) ← Plain.read? (proposed.indent + 1) layout.inFlow layout.cursor
  return { proposed.push (.scalar true (.ofList content)) with
    cursor := behind
    allowsKey := behind.isLeading }

/-- What begins with a character in front of others. -/
def readNext? (layout : Layout) (letter : Char) (rest : List Char) : Option Layout :=
  let cursor := layout.cursor
  let layout := layout.leaveTo cursor.column
  let isColon := isCut rest || (layout.inFlow &&
    (rest.head?.any isFlow || cursor.index = layout.adjacent))
  if cursor.column = 0 ∧ letter = '%' then layout.readDirective?
  else if cursor.column = 0 ∧ isBorder cursor.rest then
    if letter = '-' then layout.readOpening? else layout.readClosing?
  else if (cursor.column : Int) < layout.indent then none
  else if letter = '[' then layout.openFlow? true
  else if letter = '\x7b' then layout.openFlow? false
  else if letter = ']' then layout.closeFlow? true
  else if letter = '\x7d' then layout.closeFlow? false
  else if letter = ',' then layout.readComma?
  else if letter = '-' ∧ isCut rest then layout.readItem?
  else if letter = '?' ∧ isCut rest then layout.readKey?
  else if letter = ':' ∧ isColon then layout.readValue?
  else if letter = '*' then layout.readAnchor? true
  else if letter = '&' then layout.readAnchor? false
  else if letter = '!' then layout.readTag?
  else if letter = '|' ∧ !layout.inFlow then layout.readBlock? true
  else if letter = '>' ∧ !layout.inFlow then layout.readBlock? false
  else if letter = '\x27' ∨ letter = '\x22' then layout.readQuoted? letter
  else if letter = '%' ∨ letter = '@' ∨ letter = '\x60' then none
  else layout.readPlain?

/-- Reads a text to its end; `fuel` is more than its length. -/
def readAll? : Nat → Layout → Option Layout
  | 0, _ => none
  | fuel + 1, layout => do
    let layout ← advance? (layout.cursor.rest.length + 1) layout
    let layout ← layout.forget?
    match layout.cursor.rest with
    | [] => return (← layout.dropCandidate?).leaveTo (-1)
    | letter :: rest => readAll? fuel (← layout.readNext? letter rest)

def tokens? (text : List Char) : Option (List Token) :=
  (readAll? (text.length + 1) (start text)).map Layout.tokens

end ReplicatedSpace.Yaml.Layout
