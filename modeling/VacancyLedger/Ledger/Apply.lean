/-
Applying to the ledger what a page changes.

Every key that was seen is inserted, reopened or renewed, in the order of the page, so that
new numbers follow that order; then the keys that are gone are closed, in sorted order.
All of it is one transaction.
-/
import VacancyLedger.Ledger.Transaction
import VacancyLedger.Listing.Page

namespace VacancyLedger.Ledger

/-- Takes in a listing that was seen under a key, in the statements `n` and `n + 1` of a
transaction. -/
def observe (trouble : Nat → Option Fault) (n : Nat) (company now key : String) (listing : Listing)
    (counts : Counts) (t : Tables) : Except Fault (Counts × Tables) := do
  match ← attempt (trouble n) (t.find company key) with
  | none =>
    let (_, t) ← attempt (trouble (n + 1)) (t.insert company listing now)
    return ({ counts with created := counts.created + 1 }, t)
  | some stored =>
    if stored.isActive then
      let (changed, t) ← attempt (trouble (n + 1)) (t.renew stored listing now)
      let updated := if changed then counts.updated + 1 else counts.updated
      return ({ counts with renewed := counts.renewed + 1, updated }, t)
    else
      let t ← attempt (trouble (n + 1)) (t.reopen stored listing now)
      return ({ counts with reopened := counts.reopened + 1 }, t)

/-- Takes in the listings of a page, in order, from statement `n` on. -/
def observeAll (trouble : Nat → Option Fault) (n : Nat) (company now : String) (counts : Counts)
    (t : Tables) : List (String × Listing) → Except Fault (Counts × Tables)
  | [] => .ok (counts, t)
  | (key, listing) :: rest => do
    let (counts, t) ← observe trouble n company now key listing counts t
    observeAll trouble (n + 2) company now counts t rest

/-- Closes the postings under keys, in order, from statement `n` on. -/
def closeAll (trouble : Nat → Option Fault) (n : Nat) (company now : String) (counts : Counts)
    (t : Tables) : List String → Except Fault (Counts × Tables)
  | [] => .ok (counts, t)
  | key :: keys => do
    let (closed, t) ← attempt (trouble n) (t.close company key now)
    let counts := if closed then { counts with closed := counts.closed + 1 } else counts
    closeAll trouble (n + 1) company now counts t keys

/-- The listings of a page that were seen according to a difference. -/
def seenListings (d : Difference) (page : Page) : List (String × Listing) :=
  page.filter fun (key, _) => d.observes key

/-- Writes what a page changes. -/
def writeDifference (trouble : Trouble) (company : String) (d : Difference) (page : Page)
    (now : String) (t : Tables) : Except Fault (Counts × Tables) := do
  let seen := seenListings d page
  let (counts, t) ← observeAll trouble.writing 0 company now .zero t seen
  let written ←
    closeAll trouble.writing (2 * seen.length) company now counts t (Text.sorted d.close)
  attempt trouble.committing (.ok written)

/-- Applies what a page changes, in one transaction, unless there is trouble with it. -/
def applyUnder {ε : Type} (l : Ledger) (trouble : Trouble) (company : String) (d : Difference)
    (page : Page) (now : String) : Except (Abort ε) Counts × Ledger :=
  l.transaction company fun t => (writeDifference trouble company d page now t).mapError .inl

/-- Applies what a page changes, in one transaction. -/
def apply {ε : Type} (l : Ledger) (company : String) (d : Difference) (page : Page)
    (now : String) : Except (Abort ε) Counts × Ledger :=
  l.applyUnder .none company d page now

end VacancyLedger.Ledger
