import ReplicatedSpace.Text.Letter

/-!
Sets of characters, and tables of what belongs to characters, both given by their codes. They are
written as texts: codes in base sixteen, ranges of codes with a hyphen, and blanks between them. A
row of a table is a code or a range, an equals sign, and codes with plus signs between them; a slash
behind a range tells that only every so many codes are meant.
-/
namespace ReplicatedSpace.Text

def tableWords (text : String) : List String :=
  ((text.splitOn "\n").flatMap fun line => line.splitOn " ").filter fun word => !word.isEmpty

def tableCode (word : String) : Nat := (Hex.read? word.toList).getD 0

def tableRange (word : String) : Nat × Nat :=
  match word.splitOn "-" with
  | [first, last] => (tableCode first, tableCode last)
  | _ => (tableCode word, tableCode word)

structure CodeSet where
  ranges : Array (Nat × Nat)

namespace CodeSet

def ofText (text : String) : CodeSet := ⟨((tableWords text).map tableRange).toArray⟩

def contains (set : CodeSet) (letter : Char) : Bool :=
  set.ranges.any fun range => range.1 ≤ letter.toNat && letter.toNat ≤ range.2

end CodeSet

structure CodeRow where
  first : Nat
  last : Nat
  step : Nat
  codes : List Nat

namespace CodeRow

def ofWord (word : String) : CodeRow :=
  match word.splitOn "=" with
  | [source, target] =>
    let codes := (target.splitOn "+").map tableCode
    match source.splitOn "/" with
    | [range, step] => ⟨(tableRange range).1, (tableRange range).2, tableCode step, codes⟩
    | _ => ⟨(tableRange source).1, (tableRange source).2, 1, codes⟩
  | _ => ⟨tableCode word, tableCode word, 1, []⟩

def isAbout (row : CodeRow) (code : Nat) : Bool :=
  row.first ≤ code && code ≤ row.last && (code - row.first) % row.step = 0

end CodeRow

structure CodeTable where
  rows : Array CodeRow

namespace CodeTable

def ofText (text : String) : CodeTable := ⟨((tableWords text).map CodeRow.ofWord).toArray⟩

def row? (table : CodeTable) (code : Nat) : Option CodeRow :=
  table.rows.find? fun row => row.isAbout code

end CodeTable

end ReplicatedSpace.Text
