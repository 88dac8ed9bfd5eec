/-
From an advert to a listing.

Texts get single spaces between their words, the address its canonical form, the
description loses what a browser would execute.  An advert without an address and
without a title is discarded.

Halves of surrogate pairs are no obstacle to any of this but the digest.  A listing that has
some of them is torn: it can be put on a page, but not be written to the ledger.
-/
import VacancyLedger.Address.Canonical
import VacancyLedger.Listing.Basic
import VacancyLedger.Listing.Identity
import VacancyLedger.Listing.Page
import VacancyLedger.Markup.Sanitize
import VacancyLedger.Text.Half

namespace VacancyLedger

/-- What stops the listing of adverts: markup that cannot be read, or a text to be digested that
cannot be encoded. -/
inductive Advert.Obstacle where
  | markup (e : Markup.Rejection)
  | encoding (e : Text.Unencodable)

/-- The name an obstacle is reported by. -/
def Advert.Obstacle.name : Advert.Obstacle → String
  | .markup e => e.name
  | .encoding _ => Text.Unencodable.name

/-- An obstacle in words. -/
def Advert.Obstacle.message : Advert.Obstacle → String
  | .markup e => e.message
  | .encoding e => e.message

/-- Why an advert makes no listing. -/
inductive Advert.Refusal where
  | unidentified
  | obstacle (o : Advert.Obstacle)

/-- A text with single spaces between its words, if it has any words. -/
def Text.collapse? (s : String) : Option String :=
  let t := Text.collapse s
  if t.isEmpty then none else some t

/-- Why a text made of the fields of an advert cannot be encoded, if it cannot. -/
def Advert.unencodable? (advert : Advert) (s : String) : Option Text.Unencodable :=
  advert.marks.bind fun marks => Text.unencodable? marks s.toList

/-- The key of the listing an advert makes, which is a digest if there is no address. -/
def Advert.key (advert : Advert) (canonicalUrl title location : String) :
    Except Advert.Refusal String :=
  match Identity.key? canonicalUrl title location with
  | none => .error .unidentified
  | some key =>
    if !canonicalUrl.isEmpty then .ok key
    else
      match advert.unencodable? (Identity.digested title location) with
      | some e => .error (.obstacle (.encoding e))
      | none => .ok key

/-- The listing an advert makes, its address being relative to a base. -/
def Advert.listing (advert : Advert) (base : String) : Except Advert.Refusal Listing := do
  let sourceUrl := advert.url.getD ""
  let canonicalUrl := Address.canonical sourceUrl base
  let title := Text.collapse (advert.title.getD "")
  let location := Text.collapse (advert.location.getD "")
  let key ← advert.key canonicalUrl title location
  let description ← (Markup.sanitize (advert.description.getD "")).mapError (.obstacle ∘ .markup)
  let plain ← (Markup.plainText description).mapError (.obstacle ∘ .markup)
  return {
    key
    content := {
      title, location, description, plain, sourceUrl, canonicalUrl
      datePosted := advert.datePosted.bind Text.collapse? } }

/-- The listings that adverts make, and how many of the adverts were discarded. -/
def Advert.listings (adverts : List Advert) (base : String) :
    Except Advert.Obstacle (List Listing × Nat) :=
  match adverts with
  | [] => .ok ([], 0)
  | advert :: rest =>
    match advert.listing base with
    | .error (.obstacle o) => .error o
    | .error .unidentified => do
      let (listings, discarded) ← Advert.listings rest base
      return (listings, discarded + 1)
    | .ok listing => do
      let (listings, discarded) ← Advert.listings rest base
      return (listing :: listings, discarded)

/-! ### Torn listings -/

/-- Where a listing cannot be written and why: in the statement that looks up its key, which is
statement 0, or in the one after it. -/
structure Listing.Tear where
  statement : Nat
  complaint : Text.Unencodable
  deriving DecidableEq

/-- The texts of a content, in the order in which they are written. -/
def Content.texts (c : Content) : List String :=
  [c.title, c.location] ++ c.datePosted.toList ++
    [c.description, c.plain, c.sourceUrl, c.canonicalUrl]

/-- Where the listing an advert makes cannot be written, if it cannot. -/
def Advert.tear? (advert : Advert) (listing : Listing) : Option Listing.Tear :=
  match advert.unencodable? listing.key with
  | some e => some ⟨0, e⟩
  | none => (listing.content.texts.findSome? advert.unencodable?).map (⟨1, ·⟩)

/-- The tear that is met first if the listings of a page are written one after the other in two
statements each, the first of them in statement `n`. -/
def Listing.firstTear (n : Nat) : List (Option Listing.Tear) → Option Listing.Tear
  | [] => none
  | none :: rest => firstTear (n + 2) rest
  | some tear :: _ => some ⟨n + tear.statement, tear.complaint⟩

/-- The tears of the listings that adverts make, by their keys. -/
def Advert.tears (adverts : List Advert) (base : String) : Table String (Option Listing.Tear) :=
  Table.ofPairs (adverts.filterMap fun advert =>
    (advert.listing base).toOption.map fun listing => (listing.key, advert.tear? listing))

/-- Where the page that adverts make cannot be written, if it cannot. -/
def Advert.pageTear? (adverts : List Advert) (base : String) : Option Listing.Tear :=
  Listing.firstTear 0 (Table.values (Advert.tears adverts base))

end VacancyLedger
