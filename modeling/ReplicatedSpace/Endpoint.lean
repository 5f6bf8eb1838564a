import ReplicatedSpace.Settings

/-!
The base of an endpoint's addresses. Services are registered by address, which may lack a scheme
and may end in slashes; requests append a path to the base. The settings tell the addresses of the
name server and of the sequencer.
-/
namespace ReplicatedSpace.Endpoint

def trimSlashes (text : List Char) : List Char := (text.reverse.dropWhile (· == '/')).reverse

/-- A scheme of the web, spelled in lower case. -/
def hasScheme (text : List Char) : Bool :=
  "http://".toList.isPrefixOf text || "https://".toList.isPrefixOf text

/-- The base for a registered address: no slash at the end, and plain HTTP where no scheme is
given. -/
def base (address : String) : String :=
  let trimmed := trimSlashes address.toList
  .ofList (if hasScheme trimmed then trimmed else "http://".toList ++ trimmed)

def join (base path : String) : String := base ++ "/" ++ path

theorem trimSlashes_idem (text : List Char) :
    trimSlashes (trimSlashes text) = trimSlashes text := by
  simp only [trimSlashes, List.reverse_reverse]
  congr 1
  induction text.reverse with
  | nil => rfl
  | cons first rest ih => by_cases slash : first = '/' <;> simp [slash, ih]

end ReplicatedSpace.Endpoint

namespace ReplicatedSpace.Http

/-- Where the name server and the sequencer are. -/
structure Directory where
  nameServer : String
  sequencer : String

namespace Directory

def ofSettings (settings : Settings) : Directory := ⟨settings.nameServer, settings.sequencer⟩

/-- The base of a handle: a new handle is given the base of the one before as its address. -/
def sequencerBase (directory : Directory) : Nat → String
  | 0 => Endpoint.base directory.sequencer
  | handle + 1 => Endpoint.base (directory.sequencerBase handle)

end Directory
end ReplicatedSpace.Http
