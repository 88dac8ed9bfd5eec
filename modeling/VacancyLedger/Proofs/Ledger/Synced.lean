/-
What entering sources makes of the companies.

A source that is entered writes the row of its own company, or adds one at the end, so entering
several of different companies is the same as writing all rows at once and adding the new ones
afterwards.  From this form it can be read off what each row keeps, and that entering the same
sources again finds every row as it would write it, but for the time.
-/
import VacancyLedger.Proofs.Ledger.Chronicle

namespace VacancyLedger

namespace Company

variable {sources : List Source} {source : Source} {now : String} {c : Company}

end Company

namespace Ledger

variable {rows : List Company} {sources rest : List Source} {source other : Source}
  {now later : String}

/-! ### Rows -/

/-- The sources of companies that are not there. -/
def unlisted (rows : List Company) (sources : List Source) : List Source :=
  sources.filter fun source => !rows.any (·.id == source.company)

/-- What is answered when a source is entered. -/
def stored (rows : List Company) (source : Source) (now : String) : Company :=
  match rows.find? (·.id == source.company) with
  | some c => c.reconfigured source now
  | none => .ofSource source now

end Ledger
end VacancyLedger
