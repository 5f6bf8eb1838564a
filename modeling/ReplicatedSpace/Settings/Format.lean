import ReplicatedSpace.Ini
import ReplicatedSpace.Json.Document
import ReplicatedSpace.Json.Relaxed
import ReplicatedSpace.Ron.Document
import ReplicatedSpace.Toml.Document
import ReplicatedSpace.Yaml.Document

/-!
Formats of files, each with the endings of the names of its files, and the file for a name. The file
of exactly that name comes first, and its ending tells its format; if there is none, the endings are
tried behind the name.
-/
namespace ReplicatedSpace.Settings

inductive Format
  | toml
  | json
  | yaml
  | ini
  | ron
  /-- JSON as people write it by hand. -/
  | json5
deriving DecidableEq

namespace Format

def endings : List (String × Format) :=
  [("toml", toml), ("json", json), ("yaml", yaml), ("yml", yaml), ("ini", ini), ("ron", ron),
    ("json5", json5)]

/-- The members of a file. -/
def members? (format : Format) (content : String) : Option Members :=
  match format with
  | toml => (Toml.Document.read? content).map (·.top)
  | json => Json.Document.read? content
  | yaml => Yaml.Document.read? content
  | ini => Ini.read? content
  | ron => Ron.Document.read? content
  | json5 => Json.Relaxed.read? content

end Format
def ownName (name : List Char) : List Char := (name.reverse.takeWhile (· ≠ '/')).reverse

def Format.ofName? (name : String) : Option Format :=
  let letters := (ownName name.toList).reverse
  let ending := letters.takeWhile (· ≠ '.')
  if (letters.drop (ending.length + 1)).isEmpty then none
  else (endings.find? (·.1 = .ofList ending.reverse)).map (·.2)

/-- A name, given in reverse, without slashes and steps to the same place at its end. -/
def dropSlashes : List Char → List Char
  | '/' :: rest => dropSlashes rest
  | '.' :: '/' :: rest => dropSlashes rest
  | letters => letters

/-- The names that are tried where no file has the name itself, with their formats. -/
def candidates (name : String) : List (String × Format) :=
  let bare := (dropSlashes name.toList.reverse).reverse
  let own := ownName bare
  if own.isEmpty ∨ own = ['.'] ∨ own = ['.', '.'] then []
  else Format.endings.map fun (ending, format) => (.ofList bare ++ "." ++ ending, format)

def lookUp (content? : String → Option String) (name : String) : Option (Format × String) :=
  match content? name with
  | some content => (Format.ofName? name).map (·, content)
  | none => (candidates name).findSome? fun (candidate, format) =>
    (content? candidate).map (format, ·)

end ReplicatedSpace.Settings
