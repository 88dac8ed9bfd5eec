import VacancyLedger.Engine.Step
import VacancyLedger.Ledger.Action
import VacancyLedger.Ledger.Reader
import VacancyLedger.Proofs.Engine.Books
import VacancyLedger.Proofs.Engine.Coherence
import VacancyLedger.Proofs.Engine.Failure
import VacancyLedger.Proofs.Engine.Sightings
import VacancyLedger.Proofs.Engine.Search
import VacancyLedger.Proofs.Ledger.Writers
import VacancyLedger.Proofs.Markup.Sanitize
import VacancyLedger.Proofs.Query.Flat
import VacancyLedger.Service.Setup
import VacancyLedger.Service.Visit
import VacancyLedger.Proofs.Markup.Writing
import VacancyLedger.Proofs.Markup.Cleaned
import VacancyLedger.Proofs.Markup.Idempotence
import VacancyLedger.Proofs.Ledger.Atomicity
import VacancyLedger.Proofs.Engine.Batch
import VacancyLedger.Proofs.Ledger.Chronicle
import VacancyLedger.Proofs.Engine.Chronicle
import VacancyLedger.Proofs.Engine.Isolation
import VacancyLedger.Proofs.Ledger.Resemblance
import VacancyLedger.Proofs.Ledger.Recording
import VacancyLedger.Proofs.Address.Essentials
import VacancyLedger.Proofs.Listing.Identity
import VacancyLedger.Proofs.Engine.InFlight
import VacancyLedger.Proofs.Engine.PageOrder
import VacancyLedger.Proofs.Service.Reads
import VacancyLedger.Proofs.Crawl.Cooldowns
import VacancyLedger.Proofs.Crawl.Plan
import VacancyLedger.Proofs.Crawl.Spacing
import VacancyLedger.Proofs.Crawl.Robots
import VacancyLedger.Proofs.Query.Printing
import VacancyLedger.Proofs.Query.Errors
import VacancyLedger.Proofs.Ledger.SeenSince
import VacancyLedger.Proofs.Engine.Replay
import VacancyLedger.Proofs.Advert.Vacancies
import VacancyLedger.Proofs.Advert.LinkedData
import VacancyLedger.Proofs.Advert.Feeds
import VacancyLedger.Proofs.Service.Sources
import VacancyLedger.Proofs.Text.NormalForm
import VacancyLedger.Proofs.Json.Spelled
import VacancyLedger.Proofs.Address.Rebased
import VacancyLedger.Proofs.Advert.Dates
import VacancyLedger.Proofs.Metrics.Counters
import VacancyLedger.Proofs.Metrics.Balance
import VacancyLedger.Proofs.Crawl.Site
