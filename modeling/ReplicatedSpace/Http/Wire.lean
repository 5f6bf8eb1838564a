import ReplicatedSpace.Http.Request
import ReplicatedSpace.Http.Response

/-!
Requests and responses as bytes. A connection carries one request and one response, and the response
ends where it says, or where the connection does.
-/
namespace ReplicatedSpace.Http

/-- The lines in front of the body of a request. -/
def Request.head (request : Request) : List String :=
  let size := ((request.body.map Text.Utf8.encode).getD []).length
  let about := match request.contentType? with
    | some contentType => [s!"content-type: {contentType}"]
    | none => []
  let counted := match request.method with
    | .get => []
    | .post => [s!"content-length: {Nat.repr size}"]
  [s!"{request.method.name} {String.ofList request.url.target} HTTP/1.1", "accept: */*",
    s!"host: {String.ofList request.url.authority}", "connection: close"] ++ about ++ counted

def Request.bytes (request : Request) : List UInt8 :=
  Text.Utf8.encode (String.join (request.head.map (· ++ "\r\n")) ++ "\r\n" ++ request.body.getD "")

def cutLine? : List UInt8 → Option (List UInt8 × List UInt8)
  | [] => none
  | 0x0d :: 0x0a :: rest => some ([], rest)
  | byte :: rest => (cutLine? rest).map fun (line, later) => (byte :: line, later)

theorem length_of_cutLine? {bytes line later : List UInt8}
    (cut : cutLine? bytes = some (line, later)) : later.length < bytes.length := by
  fun_induction cutLine? bytes generalizing line with
  | case1 => cases cut
  | case2 rest =>
    cases cut
    simp only [List.length_cons]
    omega
  | case3 byte rest _ ih =>
    obtain ⟨⟨inner, behind⟩, found, same⟩ := Option.map_eq_some_iff.mp cut
    cases same
    have := ih found
    simp only [List.length_cons]
    omega

/-- The lines up to the first empty one, and the bytes behind it. -/
def cutHead? (bytes : List UInt8) : Option (List (List UInt8) × List UInt8) :=
  match _cut : cutLine? bytes with
  | none => none
  | some ([], later) => some ([], later)
  | some (line, later) => (cutHead? later).map fun (lines, body) => (line :: lines, body)
termination_by bytes.length
decreasing_by exact length_of_cutLine? ‹_›

def lineText (line : List UInt8) : List Char := line.map fun byte => .ofNat byte.toNat

/-- The value of the first field of that name, which is in lower case. -/
def fieldOf? (name : String) (lines : List (List UInt8)) : Option String :=
  lines.findSome? fun line =>
    let text := lineText line
    let key := text.takeWhile (· ≠ ':')
    if key.length < text.length ∧ key.map Char.toLower = name.toList then
      some (.ofList (Text.trim (text.drop (key.length + 1))))
    else none

/-- The status in the first line of a response. -/
def statusOf? (line : List UInt8) : Option UInt16 :=
  match Text.words (lineText line) with
  | version :: code :: _ =>
    if "HTTP/1.".toList.isPrefixOf version ∧ code.length = 3 ∧ code.all Char.isDigit then
      some (.ofNat (Decimal.readDigits 0 code))
    else none
  | _ => none

def chunkSize? (line : List UInt8) : Option Nat :=
  let digits := Text.trim ((lineText line).takeWhile (· ≠ ';'))
  if digits.isEmpty then none else Url.Host.readDigits? 16 digits

/-- A body that comes in chunks, and whether the last one, which is empty, came. -/
def joinChunks (bytes : List UInt8) : List UInt8 × Bool :=
  match _cut : cutLine? bytes with
  | none => ([], false)
  | some (line, rest) =>
    match chunkSize? line with
    | none => ([], false)
    | some 0 => ([], true)
    | some size =>
      if rest.length < size + 2 then (rest.take size, false)
      else
        let (later, whole) := joinChunks (rest.drop (size + 2))
        (rest.take size ++ later, whole)
termination_by bytes.length
decreasing_by
  have := length_of_cutLine? ‹_›
  simp only [List.length_drop]
  omega

def bodyOf (lines : List (List UInt8)) (bytes : List UInt8) : List UInt8 × Bool :=
  if fieldOf? "transfer-encoding" lines = some "chunked" then joinChunks bytes
  else match (fieldOf? "content-length" lines).bind String.toNat? with
    | some size => (bytes.take size, size ≤ bytes.length)
    | none => (bytes, true)

/-- The response that bytes are, if they get as far as its body. -/
def Response.ofBytes? (bytes : List UInt8) : Option Response := do
  let (lines, rest) ← cutHead? bytes
  let (first, fields) ← match lines with
    | first :: fields => some (first, fields)
    | [] => none
  let (body, whole) := bodyOf fields rest
  return { status := ← statusOf? first, contentType := fieldOf? "content-type" fields, body, whole }

end ReplicatedSpace.Http
