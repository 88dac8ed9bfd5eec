/-
Starting the service.

The sources are read and entered before the first request is answered.  The clock of its
crawler is set from outside.
-/
import VacancyLedger.Config.SourceFile
import VacancyLedger.Crawl.Setup
import VacancyLedger.Service.Basic

namespace VacancyLedger.Service

open Crawl (Client Crawler)

/-- Why the service does not start. -/
inductive StartError where
  | sources (e : Registry.LoadError)
  | ledger (f : Ledger.Fault)

/-- Fetches the pages of sources. -/
def pageFetcher {ω : Type} (settings : Settings) (client : Client ω) : Fetcher (Crawler Float ω) :=
  fun now source crawler =>
    crawler.fetch (settings.manner 0) client now.microseconds source.fetchUrl

/-- The crawler of a service. -/
def crawlerOf {ω : Type} (settings : Settings) (w : ω) : Crawler Float ω :=
  let steps := Crawl.standardSteps.map fun (n : Nat) => Number.ofIntDiv n 1
  { settings.crawler steps w with clockRuns := false }

/-- Starts a service with sources. -/
def start {ω : Type} (settings : Settings) (client : Client ω) (w : ω) (now : Time.Instant)
    (sources : Except SourceFile.Error (List Source)) :
    Except StartError (Service (Crawler Float ω)) := do
  let engine := Engine.start now settings.searchLimit (crawlerOf settings w)
  let registry ← (Registry.ofFile engine.registry.extractors sources).mapError .sources
  match engine.ledger.enterAll now.text (Table.values registry.sources) with
  | (.error fault, _) => throw (.ledger fault)
  | (.ok _, ledger) =>
    return {
      engine := { engine with registry, ledger }
      fetcher := pageFetcher settings client
      workers := settings.workers }

end VacancyLedger.Service
