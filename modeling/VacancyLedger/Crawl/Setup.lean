/-
A crawler made from the settings.
-/
import VacancyLedger.Config.Settings
import VacancyLedger.Crawl.Fetch

namespace VacancyLedger.Settings

open Crawl

/-- How pages are fetched under these settings. -/
def manner (s : Settings) (jitter : Float) : Manner Float where
  userAgent := s.userAgent
  retries := s.retries
  retryDelay := s.retryDelay
  longestDelay := s.longestDelay
  spacing := s.spacing
  jitter := fun _ => jitter

/-- A crawler that has not asked for anything yet. -/
def crawler {ω : Type} (s : Settings) (steps : List Float) (web : ω) : Crawler Float ω where
  clock := 0
  clockRuns := true
  limiter := ⟨s.spacing, []⟩
  cooldowns := ⟨steps, [], []⟩
  robots := if s.obeysRobots then some ⟨s.userAgent, s.robotsLifetime, s.robotsFailOpen, []⟩ else none
  web := web
  sleeps := []

end VacancyLedger.Settings
