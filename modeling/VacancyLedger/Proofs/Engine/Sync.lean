/-
What syncing makes of an engine.

Syncing enters the sources of the registry, and that comes out as it should if no company is in
the ledger twice.  Nothing that can happen to an engine brings that about: not a cycle that
crashes, not a report that cannot be recorded, not even a table that is dropped and created
again.  So it is enough to follow the table of companies over a run, and then to look at what
entering does to it.
-/
import VacancyLedger.Proofs.Engine.Chronicle
import VacancyLedger.Proofs.Ledger.Roster

namespace VacancyLedger.Engine

variable {φ : Type} {e after : Engine φ} {P : Option (List Company) → Prop}

/-! ### The companies over a run -/

section

variable {e : Engine Feeds}

end

end VacancyLedger.Engine
