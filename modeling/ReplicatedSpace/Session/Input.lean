import ReplicatedSpace.Text.Utf8

/-!
The input of a session: lines, each ended by a line feed that a carriage return may precede, or by
the end of the input. Bytes that are no text end the input where the line that holds them would be.
-/
namespace ReplicatedSpace.Session

structure Input where
  lines : List String
  fault : Option Text.Utf8.Fault

/-- The bytes of lines, with the line feeds that end them. -/
def cutLines : List UInt8 → List (List UInt8)
  | [] => []
  | byte :: rest =>
    if byte = 0x0a then [byte] :: cutLines rest
    else match cutLines rest with
      | [] => [[byte]]
      | line :: lines => (byte :: line) :: lines

def unended (line : String) : String :=
  .ofList <| match line.toList.reverse with
    | '\n' :: '\r' :: rest | '\n' :: rest => rest.reverse
    | _ => line.toList

/-- Lines up to the first that is no text. -/
def Input.ofLines : List (List UInt8) → Input
  | [] => ⟨[], none⟩
  | bytes :: rest =>
    match Text.Utf8.decode bytes with
    | .error fault => ⟨[], some fault⟩
    | .ok line =>
      let later := ofLines rest
      { later with lines := unended line :: later.lines }

def Input.ofBytes (bytes : List UInt8) : Input := .ofLines (cutLines bytes)

end ReplicatedSpace.Session
