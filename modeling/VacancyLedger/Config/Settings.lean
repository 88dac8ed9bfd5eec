/-
The settings of the tracker.

Each setting has a value of its own and bounds it must keep to.  Settings come from the
environment, where a blank variable counts as none, or from an object.
-/
import VacancyLedger.Config.Field

namespace VacancyLedger

/-- What can be set. -/
structure Settings where
  /-- Where the ledger is kept, if not in the usual place. -/
  database : Option String
  /-- The file with the sources, if there is one. -/
  sources : Option String
  timeout : Float
  /-- How often a failed request is made again. -/
  retries : Nat
  /-- The wait before the first retry. -/
  retryDelay : Float
  /-- The longest wait before a retry. -/
  longestDelay : Float
  /-- The time between two requests to one host. -/
  spacing : Float
  workers : Nat
  userAgent : String
  /-- How many postings a search answers if it does not say. -/
  searchLimit : Nat
  /-- Whether the rules for robots are kept to. -/
  obeysRobots : Bool
  /-- Whether everything is allowed if the rules cannot be read. -/
  robotsFailOpen : Bool
  /-- How long rules may be kept. -/
  robotsLifetime : Float

namespace Settings

/-- The settings that nobody has changed. -/
def standard : Settings where
  database := none
  sources := none
  timeout := 20
  retries := 2
  retryDelay := 0.25
  longestDelay := 2
  spacing := 1
  workers := 4
  userAgent := "job-corpus/0.1 (+contact)"
  searchLimit := 100
  obeysRobots := true
  robotsFailOpen := true
  robotsLifetime := 3600

open Config in
/-- A bounded count. -/
def count (least most : Nat) (value : Json) : Except Fault Nat :=
  (intWithin least most value).map Int.toNat

open Config in
/-- Reads settings from an object; those it does not name are as in `base`. -/
def ofJson (base : Settings) (value : Json) : Checked Settings :=
  let get {α : Type} (name : String) (old : α) (read : Json → Except Fault α) : Checked α :=
    withDefault value name old read
  Checked.apply (Checked.apply (Checked.apply (Checked.apply (Checked.apply (Checked.apply
    (Checked.apply (Checked.apply (Checked.apply (Checked.apply (Checked.apply (Checked.apply
    ((get "database_path" base.database fun v => (text v).map some).map Settings.mk)
    (get "sources_path" base.sources (optional text)))
    (get "request_timeout_s" base.timeout positiveReal))
    (get "max_retries" base.retries (count 0 10)))
    (get "retry_base_delay_s" base.retryDelay nonnegativeReal))
    (get "retry_max_delay_s" base.longestDelay nonnegativeReal))
    (get "per_domain_interval_s" base.spacing nonnegativeReal))
    (get "worker_count" base.workers (count 1 64)))
    (get "user_agent" base.userAgent text))
    (get "default_search_limit" base.searchLimit (count 1 500)))
    (get "respect_robots_txt" base.obeysRobots choice))
    (get "robots_fail_open" base.robotsFailOpen choice))
    (get "robots_cache_ttl_s" base.robotsLifetime nonnegativeReal)

/-- The settings and the variables of the environment that hold them. -/
def environment : List (String × String) :=
  [("database_path", "TRACKER_DB_PATH"), ("sources_path", "TRACKER_SOURCES_PATH"),
   ("request_timeout_s", "TRACKER_REQUEST_TIMEOUT_S"), ("max_retries", "TRACKER_MAX_RETRIES"),
   ("retry_base_delay_s", "TRACKER_RETRY_BASE_DELAY_S"),
   ("retry_max_delay_s", "TRACKER_RETRY_MAX_DELAY_S"),
   ("per_domain_interval_s", "TRACKER_PER_DOMAIN_INTERVAL_S"),
   ("worker_count", "TRACKER_WORKER_COUNT"), ("user_agent", "TRACKER_USER_AGENT"),
   ("default_search_limit", "TRACKER_DEFAULT_SEARCH_LIMIT"),
   ("respect_robots_txt", "TRACKER_RESPECT_ROBOTS_TXT"),
   ("robots_fail_open", "TRACKER_ROBOTS_FAIL_OPEN"),
   ("robots_cache_ttl_s", "TRACKER_ROBOTS_CACHE_TTL_S")]

/-- The settings that the environment makes. -/
def ofEnvironment (lookup : String → Option String) : Config.Checked Settings :=
  let members := environment.filterMap fun (name, source) => do
    let value := Text.strip ((lookup source).getD "")
    if value.isEmpty then none else some (name, Json.text value)
  ofJson standard (.object members)

end Settings
end VacancyLedger
