/-
The extractors and sources that are known.

An extractor has a name that is not blank.  A source is taken in only if the extractor it
names is known.
-/
import VacancyLedger.Config.SourceFile
import VacancyLedger.Table
import VacancyLedger.Text.Quoted

namespace VacancyLedger

/-- Extractors by name. -/
abbrev Extractors (α : Type) := Table String α

namespace Extractors

variable {α : Type}

/-- The complaint about a blank name. -/
def blankNameMessage : String := "Extractor name must not be blank."

/-- Puts an extractor under a name that is not blank. -/
def add? (e : Extractors α) (name : String) (extractor : α) : Option (Extractors α) :=
  if Text.isAllBlank name then none else some (Table.insert e name extractor)

/-- The names of the extractors, sorted. -/
def names (e : Extractors α) : List String :=
  Text.sorted (Table.keys e)

/-- The complaint about an extractor that is not known. -/
def unknownMessage (name : String) : String := s!"Unknown extractor: {name}"

end Extractors

/-- The sources by company, and the extractors they may name. -/
structure Registry (α : Type) where
  extractors : Extractors α
  sources : Table String Source

namespace Registry

variable {α : Type}

/-- A source whose extractor is not known. -/
structure UnknownExtractor where
  source : Source
  known : List String

/-- The complaint in words. -/
def UnknownExtractor.message (e : UnknownExtractor) : String :=
  let known := Text.joinWith ", " e.known
  s!"Company {e.source.company} references unknown extractor {Text.quoted e.source.extractor}; known: {known}"

/-- Takes in a source. -/
def add (r : Registry α) (source : Source) : Except UnknownExtractor (Registry α) :=
  if (Table.get? r.extractors source.extractor).isSome then
    .ok { r with sources := Table.insert r.sources source.company source }
  else .error ⟨source, Extractors.names r.extractors⟩

/-- Takes in sources one after the other. -/
def addAll (r : Registry α) : List Source → Except UnknownExtractor (Registry α)
  | [] => .ok r
  | source :: sources => do
    let r ← r.add source
    r.addAll sources

/-- Why no sources are taken in from a file. -/
inductive LoadError where
  | file (e : SourceFile.Error)
  | extractor (e : UnknownExtractor)

/-- An error in words, `path` being the place of the file. -/
def LoadError.message (path : String) : LoadError → String
  | .file e => e.message path
  | .extractor e => e.message

/-- The name an error is reported by. -/
def LoadError.name : LoadError → String
  | .file e => e.name
  | .extractor _ => "ValueError"

/-- The sources that a file lists, and the extractors they may name. -/
def ofFile (extractors : Extractors α) (listed : Except SourceFile.Error (List Source)) :
    Except LoadError (Registry α) := do
  let sources ← listed.mapError .file
  (addAll ⟨extractors, []⟩ sources).mapError .extractor

end Registry
end VacancyLedger
