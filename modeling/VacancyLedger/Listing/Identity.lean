/-
The key by which a vacancy is recognised.

It is the canonical address if there is one, else a digest of title and location,
both folded and with single spaces between their words.  Without an address and
without a title there is nothing to recognise a vacancy by.
-/
import VacancyLedger.Text.Blank
import VacancyLedger.Text.Case
import VacancyLedger.Text.Sha256

namespace VacancyLedger.Identity

/-- A text in the form in which titles and locations are compared. -/
def normalForm (s : String) : String :=
  Text.fold (Text.collapse s)

/-- What keys made of a digest start with. -/
def digestMark : String := "hash:"

/-- The text whose digest identifies a vacancy without an address. -/
def digested (title location : String) : String :=
  normalForm title ++ "|" ++ normalForm location

/-- The key of a vacancy, if it has an address or a title. -/
def key? (canonicalUrl title location : String) : Option String :=
  if !canonicalUrl.isEmpty then some canonicalUrl
  else if (normalForm title).isEmpty then none
  else some (digestMark ++ Text.Sha256.hex (digested title location))

/-- The complaint about a vacancy without a key. -/
def unknownMessage : String := "candidate has neither a usable url nor a title"

end VacancyLedger.Identity
