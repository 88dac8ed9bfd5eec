/-
From a file of sources to the companies of the ledger.

A file is read, a registry is made of what it lists, and the sources of the registry are entered.
The first two steps do not touch the ledger, so a file that cannot be read or names an extractor
that is not known leaves no trace.  The last step writes nothing but companies, and of these
nothing but what their sources say.
-/
import VacancyLedger.Proofs.Config.Registry
import VacancyLedger.Proofs.Engine.Sync
import VacancyLedger.Service.Setup

namespace VacancyLedger.Service

end VacancyLedger.Service
