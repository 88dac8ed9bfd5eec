/-
Adverts and listings.

An advert is what a page says of a vacancy, just as it is written there.  A listing
is the advert put into the form in which vacancies are compared and stored: its
content and the key that identifies it.
-/

namespace VacancyLedger

/-- What a page says of a vacancy, as it is written there. -/
structure Advert where
  title : Option String
  location : Option String
  datePosted : Option String
  /-- The description as markup. -/
  description : Option String
  url : Option String
  /-- How many marks stand before the halves of surrogate pairs in the fields, if there may be
  any. -/
  marks : Option Nat := none
  deriving DecidableEq, Inhabited

/-- What is known of a vacancy. -/
structure Content where
  title : String
  location : String
  datePosted : Option String
  /-- The description as markup. -/
  description : String
  /-- The description as plain text. -/
  plain : String
  /-- The address as it is written on the page. -/
  sourceUrl : String
  /-- The canonical form of the address, empty if there is none. -/
  canonicalUrl : String
  deriving DecidableEq, Inhabited

/-- A vacancy on a page: the key that identifies it among those of its company, and its content. -/
structure Listing where
  key : String
  content : Content
  deriving DecidableEq, Inhabited

/-- Whether two contents say the same; the plain text follows from the description and is not
looked at. -/
def Content.agrees (a b : Content) : Bool :=
  a.title == b.title && a.location == b.location && a.datePosted == b.datePosted &&
    a.description == b.description && a.sourceUrl == b.sourceUrl &&
    a.canonicalUrl == b.canonicalUrl

/-- The address to show: the canonical one if there is one. -/
def Content.displayUrl (c : Content) : String :=
  if c.canonicalUrl.isEmpty then c.sourceUrl else c.canonicalUrl

end VacancyLedger
