import ReplicatedSpace.Text.Letter

/-!
Escapes of addresses: a byte is written as a percent sign and its two digits in base sixteen. Which
characters stand for themselves depends on the part of the address.
-/
namespace ReplicatedSpace.Url

def hexDigit (value : Nat) : Char :=
  if value < 10 then .ofNat ('0'.toNat + value) else .ofNat ('A'.toNat + value - 10)

def escapeByte (byte : UInt8) : List Char :=
  ['%', hexDigit (byte.toNat / 16), hexDigit (byte.toNat % 16)]

def escapeChar (keeps : Char → Bool) (letter : Char) : List Char :=
  if keeps letter then [letter] else (String.utf8EncodeChar letter).flatMap escapeByte

def escape (keeps : Char → Bool) (text : List Char) : List Char := text.flatMap (escapeChar keeps)

def isGraphic (letter : Char) : Bool := 0x20 < letter.toNat && letter.toNat < 0x7f

def keepsInFragment (letter : Char) : Bool :=
  isGraphic letter && !(['\x22', '<', '>', '\x60'].contains letter)

def keepsInPath (letter : Char) : Bool :=
  keepsInFragment letter && !(['#', '?', '\x7b', '\x7d', '^'].contains letter)

def keepsInQuery (letter : Char) : Bool :=
  isGraphic letter && !(['\x22', '#', '<', '>', '\x27'].contains letter)

def keepsInField (letter : Char) : Bool :=
  letter.isAlphanum || ['*', '-', '.', '_'].contains letter

def escapeField (text : List Char) : List Char :=
  text.flatMap fun letter => if letter = ' ' then ['+'] else escapeChar keepsInField letter

def field (name value : String) : List Char :=
  escapeField name.toList ++ '=' :: escapeField value.toList

/-- The bytes of a text, each escape replaced by its byte. -/
def unescape : List Char → List UInt8
  | [] => []
  | '%' :: high :: low :: rest =>
    match Text.Hex.digitValue? high, Text.Hex.digitValue? low with
    | some upper, some lower => .ofNat (16 * upper + lower) :: unescape rest
    | _, _ => '%'.toNat.toUInt8 :: unescape (high :: low :: rest)
  | letter :: rest => String.utf8EncodeChar letter ++ unescape rest

end ReplicatedSpace.Url
