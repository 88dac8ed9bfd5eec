/-
The listings of a page by their keys, and what a page changes.

A key that is listed twice keeps its first place and takes its last content.  What a
page changes is told by three sets of keys: those that are new, those that are still
there and those that are gone.
-/
import VacancyLedger.Listing.Basic
import VacancyLedger.Table

namespace VacancyLedger

/-- Listings by key, in the order of their first occurrence. -/
abbrev Page := Table String Listing

/-- The listings by their keys. -/
def Page.ofListings (listings : List Listing) : Page :=
  Table.ofPairs (listings.map fun l => (l.key, l))

/-- What a page changes: the keys that are new, still there, and gone. -/
structure Difference where
  create : List String
  renew : List String
  close : List String
  deriving DecidableEq

/-- What changes when the keys in `existing` were there and those in `observed` are, each list
sorted. -/
def Difference.between (existing observed : List String) : Difference where
  create := Text.sorted (observed.filter (!existing.contains ·))
  renew := Text.sorted (observed.filter existing.contains)
  close := Text.sorted (existing.filter (!observed.contains ·))

/-- Whether the key was seen: it is new or still there. -/
def Difference.observes (d : Difference) (key : String) : Bool :=
  d.create.contains key || d.renew.contains key

end VacancyLedger
