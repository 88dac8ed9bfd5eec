/-
The engine: the ledger with all that is needed to keep it up to date.

A page is fetched by a fetcher, of which nothing is said but what comes of it and of its
state.  The plainest one serves pages from feeds: fetching the page of a company comes to what its
feed says, every time, and a company without a feed has a page that lists nothing.

The companies whose cycle is running are said to be in flight.  A cycle can fail, which is
reported in the history; anything else that goes wrong is a crash.
-/
import VacancyLedger.Advert.Format
import VacancyLedger.Config.Registry
import VacancyLedger.Crawl.Fetch
import VacancyLedger.Ledger.Transaction
import VacancyLedger.Listing.Normalize
import VacancyLedger.Metrics

namespace VacancyLedger

/-- How adverts are read off a page: in a format, or always the same ones, or never. -/
inductive Extractor where
  | format (f : Advert.Format)
  | fixed (adverts : List Advert)
  | failing (message : String)

/-- The extractors for all formats. -/
def Extractor.builtIn : Extractors Extractor :=
  Advert.Format.all.map fun f => (f.name, .format f)

/-! ### Companies in flight -/

/-- The companies whose cycle is running, each once. -/
abbrev InFlight := List String

namespace InFlight

/-- Whether a company's cycle is running. -/
def holds (f : InFlight) (company : String) : Bool := List.contains f company

/-- Claims a company: whether nobody had claimed it, and the claims after it. -/
def claim (f : InFlight) (company : String) : Bool × InFlight :=
  if holds f company then (false, f) else (true, company :: f)

/-- Gives a company up. -/
def release (f : InFlight) (company : String) : InFlight :=
  f.filter (· ≠ company)

end InFlight

/-! ### Fetchers -/

/-- Fetches the page of a company at a time of day; `φ` is what a fetcher remembers. -/
abbrev Fetcher (φ : Type) := Time.Instant → Source → φ → Crawl.FetchResult × φ

/-- What fetching its page comes to, by company. -/
abbrev Feeds := Table String Crawl.FetchResult

namespace Feeds

/-- A page with this body, found where it was asked for. -/
def page (url body : String) : Crawl.FetchResult := .page ⟨url, url, 200, none, body⟩

/-- The body of a page that lists nothing. -/
def emptyBody : String := "[]"

/-- Serves pages from feeds, which stay as they are. -/
def fetcher : Fetcher Feeds := fun _ source feeds =>
  ((Table.get? feeds source.company).getD (page source.fetchUrl emptyBody), feeds)

end Feeds

/-! ### Engines -/

/-- The ledger with all that is needed to keep it up to date. -/
structure Engine (φ : Type) where
  ledger : Ledger
  registry : Registry Extractor
  inFlight : InFlight
  metrics : Option (Metrics Float)
  /-- How many postings a search answers if it does not say. -/
  searchLimit : Nat
  /-- The time of day. -/
  now : Time.Instant
  /-- What the fetcher remembers. -/
  memory : φ

/-- An engine with an empty ledger. -/
def Engine.start {φ : Type} (now : Time.Instant) (searchLimit : Nat) (memory : φ) : Engine φ where
  ledger := Ledger.unconnected.connect
  registry := ⟨Extractor.builtIn, []⟩
  inFlight := []
  metrics := some .empty
  searchLimit
  now
  memory

/-! ### Failures and crashes -/

/-- Why a cycle failed. -/
inductive CycleFailure where
  | fetch (e : Crawl.FetchError)
  | page (e : Advert.Error)
  | extractor (label name message : String)
  | allDiscarded (count : Nat)
  | persistence (e : Ledger.PersistenceError)

/-- The name a failure is reported by. -/
def CycleFailure.name : CycleFailure → String
  | .fetch _ => "FetchError"
  | .page _ | .extractor _ _ _ | .allDiscarded _ => "ExtractionError"
  | .persistence _ => "PersistenceError"

/-- A failure in words. -/
def CycleFailure.message : CycleFailure → String
  | .fetch e => e.message
  | .page e => e.message
  | .extractor label name message =>
    s!"extractor {Text.quoted label} failed: {name}: {message}"
  | .allDiscarded count => s!"all {count} extracted candidates were discarded"
  | .persistence e => e.message

/-- What ends a cycle without a report. -/
inductive Crash where
  | fetch (e : Crawl.FetchCrash)
  | advert (o : Advert.Obstacle)
  | timeOutOfRange
  | ledger (f : Ledger.Fault)
  | unknownCompany (company : String)

/-- The name of what went wrong. -/
def Crash.name : Crash → String
  | .fetch e => e.name
  | .advert o => o.name
  | .timeOutOfRange => "OverflowError"
  | .ledger f => f.name
  | .unknownCompany _ => "KeyError"

/-- What went wrong, in words. -/
def Crash.message : Crash → String
  | .fetch e => e.message
  | .advert o => o.message
  | .timeOutOfRange => Time.outOfRangeMessage
  | .ledger f => f.message
  | .unknownCompany company => s!"Unknown company_id: {company}"

/-- What went wrong, as reports quote it. -/
def Crash.reportText (c : Crash) : String :=
  match c with
  | .unknownCompany _ => Text.quoted c.message
  | _ => c.message

end VacancyLedger
