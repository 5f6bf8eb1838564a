import ReplicatedSpace.Yaml.Layout.Reading
import ReplicatedSpace.Yaml.Node

/-!
Settings in one document, which is a table.
-/
namespace ReplicatedSpace.Yaml.Document

open Settings (Members)

/-- What is left of a document's tokens, with what has been named in it. -/
structure Rest where
  tokens : List Token
  /-- What a handle of tags stands for. -/
  declared : Option (String × String)
  /-- The names of nodes with the nodes' numbers, the last one first. -/
  names : List (String × Nat)
  /-- The nodes that have ended. -/
  nodes : List (Nat × Node)

namespace Rest

def drop (rest : Rest) (count : Nat) : Rest := { rest with tokens := rest.tokens.drop count }

def startsWith (rest : Rest) (tokens : List Token) : Bool := rest.tokens.head?.any tokens.contains

def register (rest : Rest) (name : String) : Rest :=
  { rest with names := (name, rest.names.length) :: rest.names }

def node? (rest : Rest) (name : String) : Option Node :=
  (rest.names.lookup name).map fun number => (rest.nodes.lookup number).getD .missing

end Rest

structure Properties where
  number? : Option Nat
  tag? : Option Tag

/-- Reads what is said of a node, a name or a tag or both. -/
def readProperties? (rest : Rest) : Option (Properties × Rest) :=
  let number := rest.names.length
  match rest.tokens with
  | .anchor name :: .tag tag :: _ => do
    return (⟨some number, some (← tag.resolve? rest.declared)⟩, (rest.drop 2).register name)
  | .anchor name :: _ => some (⟨some number, none⟩, (rest.drop 1).register name)
  | .tag tag :: .anchor name :: _ => do
    return (⟨some number, some (← tag.resolve? rest.declared)⟩, (rest.drop 2).register name)
  | .tag tag :: _ => do return (⟨none, some (← tag.resolve? rest.declared)⟩, rest.drop 1)
  | _ => some (⟨none, none⟩, rest)

mutual

/-- A node. Only where it is allowed can it be a block, or a list in a block that is not its own;
`fuel` bounds the steps. -/
def readNode : Nat → (allowsBlock allowsItems : Bool) → Rest → Option (Node × Rest)
  | 0, _, _, _ => none
  | fuel + 1, allowsBlock, allowsItems, rest =>
    match rest.tokens with
    | .alias name :: _ => (rest.node? name).map (·, rest.drop 1)
    | _ => do
      let (properties, start) ← readProperties? rest
      let (node, behind) ← readContent fuel allowsBlock allowsItems properties start
      return (node, match properties.number? with
        | some number => { behind with nodes := (number, node) :: behind.nodes }
        | none => behind)

/-- What follows the properties of a node; nothing follows them where an empty text stands. -/
def readContent :
    Nat → (allowsBlock allowsItems : Bool) → Properties → Rest → Option (Node × Rest)
  | 0, _, _, _, _ => none
  | fuel + 1, allowsBlock, allowsItems, properties, rest =>
    match rest.tokens with
    | .scalar isPlain content :: _ =>
      some (.ofScalar properties.tag? isPlain content, rest.drop 1)
    | .flowList :: _ => readFlowItems fuel [] (rest.drop 1)
    | .flowTable :: _ => readFlowPairs fuel true [] (rest.drop 1)
    | first :: _ =>
      if first = .item ∧ allowsItems then readItems fuel false [] rest
      else if first = .blockList ∧ allowsBlock then readItems fuel true [] (rest.drop 1)
      else if first = .blockTable ∧ allowsBlock then readPairs fuel [] (rest.drop 1)
      else readNothing? properties rest
    | [] => readNothing? properties rest

/-- The items of a list behind some others, which are given in reverse. -/
def readItems : Nat → (isBlock : Bool) → List Node → Rest → Option (Node × Rest)
  | 0, _, _, _ => none
  | fuel + 1, isBlock, items, rest =>
    if rest.startsWith [.item] then
      let next := rest.drop 1
      let absent : List Token :=
        if isBlock then [.item, .blockEnd] else [.item, .key, .value, .blockEnd]
      if next.startsWith absent then
        readItems fuel isBlock (.null :: items) next
      else do
        let (item, behind) ← readNode fuel true false next
        readItems fuel isBlock (item :: items) behind
    else if !isBlock then some (.ofItems items, rest)
    else if rest.startsWith [.blockEnd] then some (.ofItems items, rest.drop 1)
    else none

/-- The keys and values of a table behind some others, which are given in reverse. -/
def readPairs : Nat → List Node → Rest → Option (Node × Rest)
  | 0, _, _ => none
  | fuel + 1, nodes, rest =>
    let absent : List Token := [.key, .value, .blockEnd]
    if rest.startsWith [.blockEnd] then
      (Node.ofPairs? nodes.reverse).map (·, rest.drop 1)
    else if rest.startsWith [.key, .value] then do
      let (key, behind) ←
        if rest.startsWith [.value] then pure (.null, rest)
        else if (rest.drop 1).startsWith absent then pure (.null, rest.drop 1)
        else readNode fuel true true (rest.drop 1)
      let (value, behind) ←
        if !behind.startsWith [.value] then pure (.null, behind)
        else if (behind.drop 1).startsWith absent then pure (.null, behind.drop 1)
        else readNode fuel true true (behind.drop 1)
      readPairs fuel (value :: key :: nodes) behind
    else none

/-- The items of a list in brackets behind some others, which are given in reverse. A key without
braces makes a table of its own. -/
def readFlowItems : Nat → List Node → Rest → Option (Node × Rest)
  | 0, _, _ => none
  | fuel + 1, items, rest => do
    if rest.startsWith [.flowListEnd] then return (.ofItems items, rest.drop 1)
    let start ←
      if items.isEmpty then pure rest
      else if rest.startsWith [.comma] then pure (rest.drop 1)
      else none
    if start.startsWith [.flowListEnd] then return (.ofItems items, start.drop 1)
    if start.startsWith [.key] then
      let (key, behind) ← readNode fuel false false (start.drop 1)
      let (value, behind) ← readFlowValue fuel [.comma, .flowListEnd] behind
      readFlowItems fuel ((← Node.ofPairs? [key, value]) :: items) behind
    else
      let (item, behind) ← readNode fuel false false start
      readFlowItems fuel (item :: items) behind

/-- The keys and values of a table in brackets behind some others, which are given in reverse. A key
may stand without a value. -/
def readFlowPairs : Nat → (isFirst : Bool) → List Node → Rest → Option (Node × Rest)
  | 0, _, _, _ => none
  | fuel + 1, isFirst, nodes, rest => do
    if rest.startsWith [.flowTableEnd] then
      return (← Node.ofPairs? nodes.reverse, rest.drop 1)
    let start ←
      if isFirst then pure rest
      else if rest.startsWith [.comma] then pure (rest.drop 1)
      else none
    if start.startsWith [.flowTableEnd] then
      return (← Node.ofPairs? nodes.reverse, start.drop 1)
    let (key, behind) ←
      if start.startsWith [.value] then pure (.null, start)
      else if !start.startsWith [.key] then readNode fuel false false start
      else if (start.drop 1).startsWith [.value, .comma, .flowTableEnd] then
        pure (.null, start.drop 1)
      else readNode fuel false false (start.drop 1)
    let (value, behind) ←
      if start.startsWith [.key, .value] then readFlowValue fuel [.comma, .flowTableEnd] behind
      else pure (.null, behind)
    readFlowPairs fuel false (value :: key :: nodes) behind

/-- A value in brackets, which may be left out in front of some tokens. -/
def readFlowValue : Nat → (absent : List Token) → Rest → Option (Node × Rest)
  | 0, _, _ => none
  | fuel + 1, absent, rest =>
    if !rest.startsWith [.value] then some (.null, rest)
    else if (rest.drop 1).startsWith absent then some (.null, rest.drop 1)
    else readNode fuel false false (rest.drop 1)

def readNothing? (properties : Properties) (rest : Rest) : Option (Node × Rest) :=
  if properties.number?.isSome || properties.tag?.isSome then
    some (.ofScalar properties.tag? true "", rest)
  else none

end

/-- What the directives in front of a document declare, and what follows them. The last one counts,
and one of them at most names the version. -/
def readDirectives? (hasVersion : Bool) (declared : Option (String × String)) :
    List Token → Option (Option (String × String) × List Token)
  | .directive .version :: rest => if hasVersion then none else readDirectives? true none rest
  | .directive (.handle handle meaning) :: rest =>
    readDirectives? hasVersion (some (handle, meaning)) rest
  | rest => some (declared, rest)

/-- The node of the only document, if there is one. -/
def root? (tokens : List Token) : Option (Option Node) := do
  let start := tokens.dropWhile (· = .closing)
  if start.isEmpty then return none
  let (declared, body) ← readDirectives? false none start
  let content ← match body with
    | .opening :: content => pure content
    | content => if content.length = start.length then pure content else none
  let (node, behind) ← readNode (4 * tokens.length + 4) true false ⟨content, declared, [], []⟩
  if behind.tokens.all (· = .closing) then return some node else none

/-- Reads a file, which ends at the first character without a code. One without a document has no
members. -/
def read? (content : String) : Option Members := do
  let tokens ← Layout.tokens? (content.toList.takeWhile (· ≠ '\x00'))
  match ← root? tokens with
  | none => return []
  | some (.table members?) => members?
  | some _ => none

end ReplicatedSpace.Yaml.Document
