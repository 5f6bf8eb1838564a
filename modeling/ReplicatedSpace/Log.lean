import ReplicatedSpace.Text.Quoted

/-!
Records of what a program does, each with a level and the part of the program that it comes from,
and with fields of its own if there is more to tell.
-/
namespace ReplicatedSpace.Log

/-- How grave a record is. -/
inductive Level
  | error
  | warn
  | info
  | debug
deriving DecidableEq

def Level.rank : Level → Nat
  | error => 1
  | warn => 2
  | info => 3
  | debug => 4

def Level.name : Level → String
  | error => "ERROR"
  | warn => "WARN"
  | info => "INFO"
  | debug => "DEBUG"

structure Record where
  level : Level
  target : String
  message : String
  fields : List (String × String)

namespace Record

def plain (level : Level) (target message : String) : Record := ⟨level, target, message, []⟩

def messageField : String := "message"

def fieldNames (record : Record) : List String := messageField :: record.fields.map (·.1)

/-- A character of a message. Those that steer a terminal are escaped. -/
def shownChar (letter : Char) : List Char :=
  let code := letter.toNat
  if code = 0x1b ∨ code = 0x07 ∨ code = 0x08 ∨ code = 0x0c ∨ code = 0x7f then
    '\\' :: 'x' :: (if code < 0x10 then ['0'] else []) ++ Text.hexDigits code
  else if 0x80 ≤ code ∧ code ≤ 0x9f then
    ['\\', 'u', '\x7b'] ++ Text.hexDigits code ++ ['\x7d']
  else [letter]

def text (record : Record) : String :=
  .ofList (record.message.toList.flatMap shownChar) ++
    String.join (record.fields.map fun (name, value) => s!" {name}={Text.quoted value}")

def line (record : Record) : String :=
  let indent := if record.level.name.length < 5 then " " else ""
  s!"{indent}{record.level.name} {record.target}: {record.text}"

end Record
end ReplicatedSpace.Log
