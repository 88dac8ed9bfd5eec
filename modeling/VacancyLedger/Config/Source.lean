/-
Sources: the companies whose vacancies are followed, and where they are read from.

A source is checked when it is read, so its identifier, its addresses and the lengths of
its texts can be relied on.
-/
import VacancyLedger.Config.Field

namespace VacancyLedger

/-- A company whose vacancies are followed, and where and how they are read. -/
structure Source where
  company : String
  name : String
  ticker : Option String
  fetchUrl : String
  baseUrl : Option String
  extractor : String
  enabled : Bool
  deriving DecidableEq, Inhabited

namespace Source

/-- The address that the addresses on the page are relative to. -/
def base (s : Source) : String :=
  match s.baseUrl with
  | some url => if url.isEmpty then s.fetchUrl else url
  | none => s.fetchUrl

/-- Whether the character may stand in the identifier of a company. -/
def isIdentifierChar (c : Char) : Bool := c.isAlphanum || c == '_' || c == '-'

/-- The identifier of a company. -/
def identifier (value : Json) : Except Config.Fault String := do
  let s ← Config.boundedText 2 64 value
  if s.toList.all isIdentifierChar then return s else throw .unexpectedCharacter

open Config in
/-- Reads a source. -/
def ofJson (naming : Address.Naming) (value : Json) : Checked Source :=
  match value with
  | .object _ =>
    Checked.apply (Checked.apply (Checked.apply (Checked.apply (Checked.apply (Checked.apply
      ((required value "company_id" identifier).map Source.mk)
      (required value "name" (boundedText 1 120)))
      (withDefault value "ticker" none (optional (boundedText 0 16))))
      (required value "fetch_url" (url naming)))
      (withDefault value "base_url" none (optional (url naming))))
      (required value "extractor" fun v => do
        let s ← text v
        if s.isEmpty then throw .tooShort
        return s))
      (withDefault value "enabled" true choice)
  | _ => .error [⟨[], .notAnObject⟩]

end Source
end VacancyLedger
