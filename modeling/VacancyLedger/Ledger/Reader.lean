/-
Listings and reports read from JSON.
-/
import VacancyLedger.Config.Field
import VacancyLedger.Ledger.Basic

namespace VacancyLedger

open Config

/-- Reads the content of a listing; all but the title may be missing. -/
def Content.ofJson (value : Json) : Checked Content :=
  let optionalText (name : String) : Checked String := withDefault value name "" text
  Checked.apply (Checked.apply (Checked.apply (Checked.apply (Checked.apply (Checked.apply
    ((required value "title" text).map Content.mk)
    (optionalText "location_text"))
    (withDefault value "date_posted_raw" none (optional text)))
    (optionalText "description_text"))
    (optionalText "description_plain"))
    (optionalText "source_url"))
    (optionalText "canonical_url")

/-- Reads a listing. -/
def Listing.ofJson (value : Json) : Checked Listing :=
  Checked.apply ((required value "identity_key" text).map Listing.mk) (Content.ofJson value)

/-- Reads a status by its name. -/
def CycleStatus.ofJson (value : Json) : Except Fault CycleStatus :=
  match value with
  | .text s =>
    match CycleStatus.all.find? (·.name == s) with
    | some status => .ok status
    | none => .error .notListed
  | _ => .error .notListed

/-- Reads what a cycle has changed; what is missing is nothing. -/
def Counts.ofJson (value : Json) : Checked Counts :=
  let count (name : String) : Checked Int := withDefault value name 0 int
  Checked.apply (Checked.apply (Checked.apply (Checked.apply
    ((count "created").map Counts.mk)
    (count "renewed"))
    (count "reopened"))
    (count "updated"))
    (count "closed")

/-- Reads a report. -/
def CycleReport.ofJson (value : Json) : Checked CycleReport :=
  Checked.apply (Checked.apply (Checked.apply (Checked.apply (Checked.apply (Checked.apply
    (Checked.apply (Checked.apply
    ((required value "company_id" text).map CycleReport.mk)
    (required value "status" CycleStatus.ofJson))
    (required value "started_at" text))
    (required value "finished_at" text))
    (withDefault value "fetched" 0 int))
    (withDefault value "discarded" 0 int))
    (Counts.ofJson value))
    (withDefault value "error" none (optional text)))
    (withDefault value "error_type" none (optional text))

end VacancyLedger
