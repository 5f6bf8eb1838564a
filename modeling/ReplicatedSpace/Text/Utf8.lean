/-!
Texts of bytes. A character takes one to four bytes; where bytes form none, the longest start of a
character that they begin with counts as one fault.
-/
namespace ReplicatedSpace.Text.Utf8

/-- The bytes behind a lead byte: how many, and the least and greatest value of the first. -/
structure Shape where
  count : Nat
  least : Nat
  most : Nat

/-- What a lead byte announces. -/
def shape? (lead : Nat) : Option Shape :=
  if lead < 0x80 then some ⟨0, 0, 0⟩
  else if 0xc2 ≤ lead ∧ lead ≤ 0xdf then some ⟨1, 0x80, 0xbf⟩
  else if lead = 0xe0 then some ⟨2, 0xa0, 0xbf⟩
  else if lead = 0xed then some ⟨2, 0x80, 0x9f⟩
  else if 0xe1 ≤ lead ∧ lead ≤ 0xef then some ⟨2, 0x80, 0xbf⟩
  else if lead = 0xf0 then some ⟨3, 0x90, 0xbf⟩
  else if lead = 0xf4 then some ⟨3, 0x80, 0x8f⟩
  else if 0xf1 ≤ lead ∧ lead ≤ 0xf3 then some ⟨3, 0x80, 0xbf⟩
  else none

def leadBits (lead count : Nat) : Nat := if count = 0 then lead else lead % Nat.pow 2 (6 - count)

/-- The bytes that continue a character. -/
def continuation (shape : Shape) (bytes : List Nat) : List Nat :=
  match bytes.take shape.count with
  | [] => []
  | first :: rest =>
    if shape.least ≤ first ∧ first ≤ shape.most then
      first :: rest.takeWhile fun byte => 0x80 ≤ byte && byte ≤ 0xbf
    else []

/-- What bytes begin with. -/
inductive Start
  | character (letter : Char) (size : Nat)
  /-- So many bytes belong to no character. -/
  | broken (size : Nat)
  /-- So many bytes are all there are of a character. -/
  | cut (size : Nat)

/-- The start of some bytes, of which the first is given. -/
def start (lead : Nat) (rest : List Nat) : Start :=
  match shape? lead with
  | none => .broken 1
  | some shape =>
    let more := continuation shape rest
    if more.length = shape.count then
      .character (.ofNat (more.foldl (fun code byte => 64 * code + byte % 64)
        (leadBits lead shape.count))) (shape.count + 1)
    else if more.length = rest.length then .cut (more.length + 1)
    else .broken (more.length + 1)

inductive Fault
  | broken (index size : Nat)
  | cut (index : Nat)

def Fault.message : Fault → String
  | broken index size =>
    s!"invalid utf-8 sequence of {Nat.repr size} bytes from index {Nat.repr index}"
  | cut index => s!"incomplete utf-8 byte sequence from index {Nat.repr index}"

/-- The text of bytes, read from an index on. -/
def decodeFrom (index : Nat) (bytes : List Nat) : Except Fault (List Char) :=
  match bytes with
  | [] => .ok []
  | lead :: rest =>
    match start lead rest with
    | .character letter size =>
      (decodeFrom (index + size) (rest.drop (size - 1))).map (letter :: ·)
    | .broken size => .error (.broken index size)
    | .cut _ => .error (.cut index)
termination_by bytes.length
decreasing_by simp only [List.length_drop, List.length_cons]; omega

def decode (bytes : List UInt8) : Except Fault String :=
  (decodeFrom 0 (bytes.map UInt8.toNat)).map String.ofList

/-- The text of bytes, with a replacement character for every fault. -/
def mend (bytes : List Nat) : List Char :=
  match bytes with
  | [] => []
  | lead :: rest =>
    match start lead rest with
    | .character letter size => letter :: mend (rest.drop (size - 1))
    | .broken size | .cut size => '\uFFFD' :: mend (rest.drop (size - 1))
termination_by bytes.length
decreasing_by all_goals simp only [List.length_drop, List.length_cons]; omega

def dropMark : List Char → List Char
  | '\uFEFF' :: rest => rest
  | text => text

def encode (text : String) : List UInt8 := text.toList.flatMap String.utf8EncodeChar

end ReplicatedSpace.Text.Utf8
