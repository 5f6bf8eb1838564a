import ReplicatedSpace.Json.Codec
import ReplicatedSpace.Text.Letter
import ReplicatedSpace.Text.Utf8

/-!
Responses. The body of a success is a JSON text or is not looked at; the body of a failure is a text
in the character set that the response names.
-/
namespace ReplicatedSpace.Http

namespace Status

/-- The usual phrases for statuses. -/
def phrases : List (Nat × String) :=
  [(100, "Continue"), (101, "Switching Protocols"), (102, "Processing"), (200, "OK"),
    (201, "Created"), (202, "Accepted"), (203, "Non Authoritative Information"),
    (204, "No Content"), (205, "Reset Content"), (206, "Partial Content"), (207, "Multi-Status"),
    (208, "Already Reported"), (226, "IM Used"), (300, "Multiple Choices"),
    (301, "Moved Permanently"), (302, "Found"), (303, "See Other"), (304, "Not Modified"),
    (305, "Use Proxy"), (307, "Temporary Redirect"), (308, "Permanent Redirect"),
    (400, "Bad Request"), (401, "Unauthorized"), (402, "Payment Required"), (403, "Forbidden"),
    (404, "Not Found"), (405, "Method Not Allowed"), (406, "Not Acceptable"),
    (407, "Proxy Authentication Required"), (408, "Request Timeout"), (409, "Conflict"),
    (410, "Gone"), (411, "Length Required"), (412, "Precondition Failed"),
    (413, "Payload Too Large"), (414, "URI Too Long"), (415, "Unsupported Media Type"),
    (416, "Range Not Satisfiable"), (417, "Expectation Failed"), (418, "I'm a teapot"),
    (421, "Misdirected Request"), (422, "Unprocessable Entity"), (423, "Locked"),
    (424, "Failed Dependency"), (425, "Too Early"), (426, "Upgrade Required"),
    (428, "Precondition Required"), (429, "Too Many Requests"),
    (431, "Request Header Fields Too Large"), (451, "Unavailable For Legal Reasons"),
    (500, "Internal Server Error"), (501, "Not Implemented"), (502, "Bad Gateway"),
    (503, "Service Unavailable"), (504, "Gateway Timeout"), (505, "HTTP Version Not Supported"),
    (506, "Variant Also Negotiates"), (507, "Insufficient Storage"), (508, "Loop Detected"),
    (510, "Not Extended"), (511, "Network Authentication Required")]

def phrase (code : Nat) : String :=
  ((phrases.find? (·.1 = code)).map (·.2)).getD "unknown error"

end Status

structure Response where
  status : UInt16
  contentType : Option String
  body : List UInt8
  whole : Bool

namespace Response

def isSuccess (response : Response) : Bool := 200 ≤ response.status && response.status < 300

/-- Codes of the characters that stand for the bytes from 0x80 to 0x9f in the western set. -/
def westernCodes : List Nat :=
  [0x20ac, 0x81, 0x201a, 0x192, 0x201e, 0x2026, 0x2020, 0x2021, 0x2c6, 0x2030, 0x160, 0x2039, 0x152,
    0x8d, 0x17d, 0x8f, 0x90, 0x2018, 0x2019, 0x201c, 0x201d, 0x2022, 0x2013, 0x2014, 0x2dc, 0x2122,
    0x161, 0x203a, 0x153, 0x9d, 0x17e, 0x178]

def westernChar (byte : UInt8) : Char :=
  .ofNat (if 0x80 ≤ byte ∧ byte < 0xa0 then westernCodes.getD (byte.toNat - 0x80) 0 else byte.toNat)

def westernNames : List String :=
  ["ansi_x3.4-1968", "ascii", "cp1252", "cp819", "csisolatin1", "ibm819", "iso-8859-1",
    "iso-ir-100", "iso8859-1", "iso88591", "iso_8859-1", "iso_8859-1:1987", "l1", "latin1",
    "us-ascii", "windows-1252", "x-cp1252"]

/-- The value of a parameter of a content type, without quotation marks. -/
def parameter? (name : String) (contentType : String) : Option String :=
  (contentType.splitOn ";").tail.findSome? fun part =>
    let letters := Text.trim part.toList
    let key := (letters.takeWhile (· ≠ '=')).map Char.toLower
    if key = name.toList ∧ key.length < letters.length then
      some (.ofList ((letters.drop (key.length + 1)).filter (· ≠ '\x22')))
    else none

def isWestern (response : Response) : Bool :=
  ((response.contentType.bind (parameter? "charset")).map fun name =>
    westernNames.contains (.ofList (name.toList.map Char.toLower))).getD false

/-- The text of the body. A byte order mark tells its character set and is dropped. -/
def text (response : Response) : String :=
  .ofList <| match response.body with
    | 0xef :: 0xbb :: 0xbf :: rest => Text.Utf8.mend (rest.map UInt8.toNat)
    | body =>
      if response.isWestern then body.map westernChar else Text.Utf8.mend (body.map UInt8.toNat)

/-- What a failure says of itself: its text, or the phrase of its status if that is blank or broke
off. -/
def explanation (response : Response) : String :=
  if response.whole && !Text.isAllBlank response.text then response.text
  else Status.phrase response.status.toNat

/-- The value of the body. -/
def decode? {α : Type} (response : Response) (codec : Json.Codec α) : Option α :=
  if response.whole then
    match Text.Utf8.decode response.body with
    | .ok text => (codec.decode text).toOption
    | .error _ => none
  else none

end Response
end ReplicatedSpace.Http
