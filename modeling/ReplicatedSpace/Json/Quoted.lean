import ReplicatedSpace.Json.Token
import ReplicatedSpace.Text.Letter

/-!
Texts in JSON: quotes, backslashes and control characters are escaped. Reading takes every escape,
and joins a pair of surrogates to one character; a skipped text may hold any hexadecimal escape.
-/
namespace ReplicatedSpace.Json

def hexDigit (value : Nat) : Char :=
  if value < 10 then Char.ofNat ('0'.toNat + value) else Char.ofNat ('a'.toNat + (value - 10))

/-- How one character is written between quotes. -/
def escape (character : Char) : List Char :=
  if character = '\x22' then ['\\', '\x22']
  else if character = '\\' then ['\\', '\\']
  else if character = '\x08' then ['\\', 'b']
  else if character = '\t' then ['\\', 't']
  else if character = '\n' then ['\\', 'n']
  else if character = '\x0c' then ['\\', 'f']
  else if character = '\r' then ['\\', 'r']
  else if character.toNat < 0x20 then
    ['\\', 'u', '0', '0', hexDigit (character.toNat / 16), hexDigit (character.toNat % 16)]
  else [character]

def quote (text : List Char) : List Char := '\x22' :: text.flatMap escape ++ ['\x22']

def byteCount (text : List Char) : Nat :=
  text.foldl (fun count letter => count + letter.utf8Size) 0

/-- Four hexadecimal digits. A text with fewer than four bytes left ends too early. -/
def readHex (text : List Char) : Parsed Nat :=
  let digits := text.take 4
  match digits.mapM Text.Hex.digitValue? with
  | some [a, b, c, d] => .ok (((a * 16 + b) * 16 + c) * 16 + d, text.drop 4)
  | _ => .error (if byteCount digits < 4 then .truncated else .malformed)

theorem length_readHex_le {text rest : List Char} {code : Nat}
    (found : readHex text = .ok (code, rest)) : rest.length ≤ text.length := by
  simp only [readHex] at found
  split at found
  · cases found; simp
  · simp at found

def isHighSurrogate (code : Nat) : Bool := 0xD800 ≤ code && code ≤ 0xDBFF

def isLowSurrogate (code : Nat) : Bool := 0xDC00 ≤ code && code ≤ 0xDFFF

def joinSurrogates (high low : Nat) : Char :=
  Char.ofNat (0x10000 + (high - 0xD800) * 0x400 + (low - 0xDC00))

/-- The second half of a pair of surrogates: another hexadecimal escape. -/
def readLow (high : Nat) : List Char → Parsed Char
  | [] => .error .truncated
  | '\\' :: [] => .error .truncated
  | '\\' :: 'u' :: text =>
    match readHex text with
    | .error fault => .error fault
    | .ok (low, rest) =>
      if isLowSurrogate low then .ok (joinSurrogates high low, rest) else .error .malformed
  | _ => .error .malformed

/-- What a letter behind a backslash stands for. -/
def unescape? (mark : Char) : Option Char :=
  if mark = '\x22' ∨ mark = '\\' ∨ mark = '/' then some mark
  else if mark = 'b' then some '\x08'
  else if mark = 'f' then some '\x0c'
  else if mark = 'n' then some '\n'
  else if mark = 'r' then some '\r'
  else if mark = 't' then some '\t'
  else none

/-- An escape, from behind its backslash. -/
def readEscape : List Char → Parsed Char
  | [] => .error .truncated
  | mark :: text =>
    if mark = 'u' then
      match readHex text with
      | .error fault => .error fault
      | .ok (code, rest) =>
        if isLowSurrogate code then .error .malformed
        else if isHighSurrogate code then readLow code rest
        else .ok (Char.ofNat code, rest)
    else match unescape? mark with
      | some character => .ok (character, text)
      | none => .error .malformed

theorem length_readLow_le {high : Nat} {text rest : List Char} {character : Char}
    (found : readLow high text = .ok (character, rest)) : rest.length ≤ text.length := by
  unfold readLow at found
  split at found
  · simp at found
  · simp at found
  · split at found
    · simp at found
    · rename_i low more hex
      have shorter := length_readHex_le hex
      split at found
      · simp only [Except.ok.injEq, Prod.mk.injEq] at found
        obtain ⟨_, rfl⟩ := found
        simp only [List.length_cons]; omega
      · simp at found
  · simp at found

theorem length_readEscape_lt {text rest : List Char} {character : Char}
    (found : readEscape text = .ok (character, rest)) : rest.length < text.length := by
  cases text with
  | nil => simp [readEscape] at found
  | cons mark tail =>
    rw [List.length_cons]
    simp only [readEscape] at found
    split at found
    · split at found
      · simp at found
      · rename_i code more hex
        have shorter := length_readHex_le hex
        split at found
        · simp at found
        · split at found
          · have := length_readLow_le found; omega
          · simp only [Except.ok.injEq, Prod.mk.injEq] at found
            obtain ⟨_, rfl⟩ := found
            omega
    · split at found
      · simp only [Except.ok.injEq, Prod.mk.injEq] at found
        obtain ⟨_, rfl⟩ := found
        omega
      · simp at found

/-- The rest of a text from behind its opening quote to behind its closing one. -/
def readQuoted (input : List Char) : Parsed (List Char) :=
  match input with
  | [] => .error .truncated
  | '\x22' :: rest => .ok ([], rest)
  | '\\' :: rest =>
    match _escaped : readEscape rest with
    | .error fault => .error fault
    | .ok (character, behind) =>
      match readQuoted behind with
      | .error fault => .error fault
      | .ok (text, after) => .ok (character :: text, after)
  | character :: rest =>
    if character.toNat < 0x20 then .error .malformed
    else match readQuoted rest with
      | .error fault => .error fault
      | .ok (text, after) => .ok (character :: text, after)
termination_by input.length
decreasing_by
  · have := length_readEscape_lt ‹_›; simp only [List.length_cons]; omega
  · simp

theorem length_readQuoted_lt {input text rest : List Char}
    (found : readQuoted input = .ok (text, rest)) : rest.length < input.length := by
  fun_induction readQuoted input generalizing text rest with
  | case1 => simp at found
  | case2 => cases found; simp
  | case3 => simp at found
  | case4 => simp at found
  | case5 tail character behind escaped text' after read ih =>
    have := length_readEscape_lt escaped
    have := ih read
    cases found
    simp only [List.length_cons]; omega
  | case6 => simp at found
  | case7 => simp at found
  | case8 character tail _ _ _ text' after read ih =>
    have := ih read
    cases found
    simp only [List.length_cons]; omega

/-- An escape of a text that is skipped, from behind its backslash. -/
def skipEscape : List Char → Except Fault (List Char)
  | [] => .error .truncated
  | mark :: text =>
    if mark = 'u' then
      match readHex text with
      | .error fault => .error fault
      | .ok (_, rest) => .ok rest
    else if (unescape? mark).isSome then .ok text
    else .error .malformed

theorem length_skipEscape_lt {text rest : List Char} (found : skipEscape text = .ok rest) :
    rest.length < text.length := by
  unfold skipEscape at found
  split at found
  · simp at found
  · rename_i mark tail
    split at found
    · split at found
      · simp at found
      · rename_i hex
        have := length_readHex_le hex
        cases found
        simp only [List.length_cons]; omega
    · split at found
      · cases found; simp
      · simp at found

/-- Skips the rest of a text from behind its opening quote. -/
def skipQuoted (input : List Char) : Except Fault (List Char) :=
  match input with
  | [] => .error .truncated
  | '\x22' :: rest => .ok rest
  | '\\' :: rest =>
    match _escaped : skipEscape rest with
    | .error fault => .error fault
    | .ok behind => skipQuoted behind
  | character :: rest => if character.toNat < 0x20 then .error .malformed else skipQuoted rest
termination_by input.length
decreasing_by
  · have := length_skipEscape_lt ‹_›; simp only [List.length_cons]; omega
  · simp

theorem length_skipQuoted_lt {input rest : List Char} (found : skipQuoted input = .ok rest) :
    rest.length < input.length := by
  fun_induction skipQuoted input generalizing rest with
  | case1 => simp at found
  | case2 => cases found; simp
  | case3 => simp at found
  | case4 _ _ escaped ih =>
    have := length_skipEscape_lt escaped
    have := ih found
    simp only [List.length_cons]; omega
  | case5 => simp at found
  | case6 _ _ _ _ _ ih =>
    have := ih found
    simp only [List.length_cons]; omega

end ReplicatedSpace.Json
