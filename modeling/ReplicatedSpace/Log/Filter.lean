import ReplicatedSpace.Log.Directive

/-!
Filters of records. A filter is a list of directives, separated by commas; the one that is closest
to a record decides whether the record is shown.
-/
namespace ReplicatedSpace.Log

structure Filter where
  directives : List Directive

namespace Filter

def off : Filter := ⟨[{ Directive.whole with limit := 0 }]⟩

def standard : Filter := ⟨[{ Directive.whole with limit := Level.error.rank }]⟩

/-- Reads the directives of a text, and tells which of them are none. -/
def read (text : String) : Filter × List String :=
  let words := (text.splitOn ",").filter (· ≠ "")
  let directives := words.filterMap fun word => (Directive.read word).toOption
  let ignored := words.filterMap fun word =>
    match Directive.read word with
    | .ok _ => none
    | .error fault => some s!"ignoring \x60{word}\x60: {fault.message}"
  (if directives.isEmpty then standard else ⟨directives⟩, ignored)

def closer (best : Option Directive) (directive : Directive) : Option Directive :=
  match best with
  | none => some directive
  | some other => if other.goesBefore directive then some other else some directive

def decisive? (filter : Filter) (record : Record) : Option Directive :=
  (filter.directives.filter (·.isAbout record)).foldl closer none

def shows (filter : Filter) (record : Record) : Bool :=
  (filter.decisive? record).any fun directive => record.level.rank ≤ directive.limit

end Filter
end ReplicatedSpace.Log
