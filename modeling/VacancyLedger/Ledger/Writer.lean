/-
Writing postings.

Each operation works on the tables and touches the postings of one company.  A posting is
inserted active; renewing it never sets its last sighting back; closing and reopening it
keep its number and its first sighting.
-/
import VacancyLedger.Ledger.Basic

namespace VacancyLedger

/-- The later of two stored times. -/
def laterText (a b : String) : String := if a < b then b else a

namespace Posting

/-- Whether a posting is the one of a company with a key. -/
def isAt (p : Posting) (company key : String) : Bool :=
  p.company == company && p.key == key

/-- A posting that is seen for the first time. -/
def fresh (id : Nat) (company : String) (listing : Listing) (now : String) : Posting where
  id
  company
  key := listing.key
  content := listing.content
  isActive := true
  firstSeen := now
  lastSeen := now
  closedAt := none

/-- A posting that has been seen. -/
def seen (p : Posting) (now : String) : Posting :=
  { p with lastSeen := laterText p.lastSeen now }

/-- A posting that has been seen with other content. -/
def withContent (p : Posting) (content : Content) (now : String) : Posting :=
  { p.seen now with content }

/-- A posting that has been seen again after it was gone. -/
def reopened (p : Posting) (content : Content) (now : String) : Posting :=
  { p.withContent content now with isActive := true, closedAt := none }

/-- A posting that is gone. -/
def closed (p : Posting) (now : String) : Posting :=
  { p with isActive := false, closedAt := some now }

end Posting

namespace Ledger.Tables

/-- The rows of the postings. -/
def postingRows (t : Tables) : Except Fault (List Posting) :=
  (requireTable postingsName t.postings).map (·.rows)

/-- The tables with `f` applied to the postings that satisfy `p`. -/
def updatePostings (t : Tables) (p : Posting → Bool) (f : Posting → Posting) :
    Except Fault Tables := do
  let postings ← requireTable postingsName t.postings
  return { t with
    postings := some { postings with rows := postings.rows.map fun q => if p q then f q else q } }

/-- The posting of a company with a key. -/
def find (t : Tables) (company key : String) : Except Fault (Option Posting) := do
  return (← t.postingRows).find? (·.isAt company key)

/-- Inserts a posting: its number, and the tables after it. -/
def insert (t : Tables) (company : String) (listing : Listing) (now : String) :
    Except Fault (Nat × Tables) := do
  let postings ← requireTable postingsName t.postings
  let companies ← requireTable ("main." ++ companiesName) t.companies
  if postings.rows.any (·.isAt company listing.key) then .error .duplicateKey
  else if !companies.any (·.id == company) then .error .noCompany
  else
    let id := postings.lastId + 1
    let row := Posting.fresh id company listing now
    return (id, { t with postings := some ⟨postings.rows ++ [row], id⟩ })

/-- Renews a stored posting, whose content is replaced if it has changed: whether it has, and the
tables after it. -/
def renew (t : Tables) (stored : Posting) (listing : Listing) (now : String) :
    Except Fault (Bool × Tables) :=
  if stored.content.agrees listing.content then do
    return (false, ← t.updatePostings (·.id == stored.id) (·.seen now))
  else do
    return (true, ← t.updatePostings (·.id == stored.id) (·.withContent listing.content now))

/-- Reopens a stored posting. -/
def reopen (t : Tables) (stored : Posting) (listing : Listing) (now : String) :
    Except Fault Tables :=
  t.updatePostings (·.id == stored.id) (·.reopened listing.content now)

/-- Closes the posting of a company with a key if it is active: whether it was, and the tables
after it. -/
def close (t : Tables) (company key : String) (now : String) : Except Fault (Bool × Tables) := do
  let isMeant (p : Posting) := p.isAt company key && p.isActive
  let found := (← t.postingRows).any isMeant
  return (found, ← t.updatePostings isMeant (·.closed now))

end Ledger.Tables
end VacancyLedger
