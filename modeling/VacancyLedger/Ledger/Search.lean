/-
Searching postings.

Readers see what has been committed.  Postings are shown in the order of their last
sighting, the latest first, and of two that were last seen at one time the one with the
greater number.
-/
import VacancyLedger.Ledger.Basic
import VacancyLedger.Query.Match

namespace VacancyLedger.Ledger

/-- What a reader asks for. -/
structure Filter where
  company : Option String
  active : Option Bool
  /-- The stored time since which a posting must have been seen. -/
  since : Option String
  deriving DecidableEq

/-- Whether a posting is asked for; an empty text asks for nothing. -/
def Filter.accepts (f : Filter) (p : Posting) : Bool :=
  (f.company.filter (!·.isEmpty)).all (· == p.company) && f.active.all (· == p.isActive) &&
    (f.since.filter (!·.isEmpty)).all (· ≤ p.lastSeen)

/-- Whether a posting is shown before another, or is the same. -/
def showsBefore (p q : Posting) : Bool :=
  q.lastSeen < p.lastSeen || (p.lastSeen == q.lastSeen && q.id ≤ p.id)

/-- The committed postings. -/
def committedPostings (l : Ledger) : Except Fault (List Posting) :=
  (requireTable postingsName l.committed.postings).map (·.rows)

/-- Goes through postings and keeps those that are wanted until there are `limit` of them; a limit
is only looked at once there is one.  `found` are those kept so far, the last one first. -/
def gather (limit : Int) (wanted : Posting → Bool) (found : List Posting) :
    List Posting → List Posting
  | [] => found.reverse
  | p :: rest =>
    if wanted p then
      if limit ≤ (p :: found).length then (p :: found).reverse
      else gather limit wanted (p :: found) rest
    else gather limit wanted found rest

/-- The first postings that are asked for and satisfy `wanted`; at least one is shown if there is
one. -/
def search (l : Ledger) (f : Filter) (limit : Int) (wanted : Posting → Bool) :
    Except Fault (List Posting) := do
  let rows ← l.committedPostings
  return gather limit wanted [] ((rows.filter f.accepts).mergeSort showsBefore)

/-- The posting with a number. -/
def posting? (l : Ledger) (id : Int) : Except Fault (Option Posting) := do
  let rows ← l.committedPostings
  if !isStorable id then throw .integerTooLarge
  return rows.find? fun p => (p.id : Int) == id

end VacancyLedger.Ledger
