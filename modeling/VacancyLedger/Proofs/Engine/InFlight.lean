/-
Who is in flight.

A cycle claims its company while it runs and gives it up when it ends, whatever it has come
to: a report, a crash, or a report that could not be recorded.  A cycle that finds its company
claimed is skipped, and leaves the claim to whoever holds it.  So cycles come and go without a
trace in the claims, and between them a company is in flight exactly if the last that was said
about it, by claiming it or giving it up, was that it is claimed.

Each cycle may have a fetcher of its own, about which nothing is assumed, and may meet any
trouble with the database; so it may come to anything.
-/
import Mathlib.Data.List.Induction
import VacancyLedger.Engine.Step
import VacancyLedger.Proofs.Engine.Batch
import VacancyLedger.Proofs.Engine.Confinement
import VacancyLedger.Proofs.Ledger.Recording

namespace VacancyLedger.Engine

variable {φ : Type}

/-- What is done with an engine by those who claim companies and run cycles. -/
inductive Deed (φ : Type) where
  | claim (company : String)
  | release (company : String)
  | cycle (trouble : Ledger.Trouble) (fetcher : Fetcher φ) (company : String)
      (now : Option Time.Stamp)
  /-- A cycle of a batch that may meet trouble. -/
  | batched (trouble : Ledger.Trouble) (fetcher : Fetcher φ) (company : String)
  /-- A batch that is run by one worker. -/
  | runAll (fetcher : Fetcher φ) (companies : Option (List String))

/-- The engine after a deed. -/
def doing (e : Engine φ) : Deed φ → Engine φ
  | .claim company => { e with inFlight := (InFlight.claim e.inFlight company).2 }
  | .release company => { e with inFlight := InFlight.release e.inFlight company }
  | .cycle trouble fetcher company now => (e.runCycleUnder trouble fetcher company now).2
  | .batched trouble fetcher company => (e.runReportedUnder trouble fetcher company).2
  | .runAll fetcher companies => (e.runAll fetcher 1 companies).2

/-- The engine after deeds, one after the other. -/
def doingAll (e : Engine φ) (deeds : List (Deed φ)) : Engine φ := deeds.foldl doing e

/-- What a deed says of a company: that it is claimed, or that it is given up.  Cycles say nothing. -/
def Deed.word? (company : String) : Deed φ → Option Bool
  | .claim subject => if subject = company then some true else none
  | .release subject => if subject = company then some false else none
  | _ => none

/-- The last that deeds say of a company. -/
def lastWord? (company : String) (deeds : List (Deed φ)) : Option Bool :=
  (deeds.filterMap (Deed.word? company)).getLast?

theorem lastWord?_snoc (company : String) (deeds : List (Deed φ)) (deed : Deed φ) :
    lastWord? company (deeds ++ [deed]) = (deed.word? company).or (lastWord? company deeds) := by
  unfold lastWord?
  rw [List.filterMap_append, List.getLast?_append]
  congr 1
  cases hword : deed.word? company with
  | none => rw [List.filterMap_cons_none hword]; rfl
  | some word => rw [List.filterMap_cons_some hword]; rfl

/-! ### Cycles leave the claims alone -/

theorem runCycleUnder_inFlight (e : Engine φ) (trouble : Ledger.Trouble) (fetcher : Fetcher φ)
    (company : String) (now : Option Time.Stamp) :
    (e.runCycleUnder trouble fetcher company now).2.inFlight = e.inFlight := by
  unfold runCycleUnder
  split
  · rfl
  · rfl
  · exact runStored_inFlight e trouble fetcher _ now

theorem runReportedUnder_inFlight (e : Engine φ) (trouble : Ledger.Trouble) (fetcher : Fetcher φ)
    (company : String) : (e.runReportedUnder trouble fetcher company).2.inFlight = e.inFlight := by
  rw [runReportedUnder_eq]
  exact runCycleUnder_inFlight e trouble fetcher company none

theorem runEach_inFlight (fetcher : Fetcher φ) (companies : List String) :
    ∀ e : Engine φ, (e.runEach fetcher companies).2.inFlight = e.inFlight := by
  induction companies with
  | nil => exact fun e => rfl
  | cons company rest ih =>
      exact fun e => (ih _).trans (runReportedUnder_inFlight e .none fetcher company)

/-- One deed, as seen by one company: its last word counts, and a deed without a word changes
nothing. -/
theorem holds_doing (e : Engine φ) (deed : Deed φ) (company : String) :
    InFlight.holds (e.doing deed).inFlight company =
      (deed.word? company).getD (InFlight.holds e.inFlight company) := by
  cases deed with
  | claim subject =>
      show InFlight.holds (InFlight.claim e.inFlight subject).2 company = _
      rw [InFlight.holds_claim]
      by_cases hown : subject = company <;> simp [Deed.word?, hown]
  | release subject =>
      show InFlight.holds (InFlight.release e.inFlight subject) company = _
      rw [InFlight.holds_release]
      by_cases hown : subject = company <;> simp [Deed.word?, hown]
  | cycle trouble fetcher subject now =>
      exact congrArg (InFlight.holds · company) (runCycleUnder_inFlight e trouble fetcher subject now)
  | batched trouble fetcher subject =>
      exact congrArg (InFlight.holds · company) (runReportedUnder_inFlight e trouble fetcher subject)
  | runAll fetcher companies =>
      refine congrArg (InFlight.holds · company) ?_
      show (e.runAll fetcher 1 companies).2.inFlight = e.inFlight
      rw [runAll_eq]
      exact runEach_inFlight fetcher _ e

theorem holds_doingAll (e : Engine φ) (deeds : List (Deed φ)) (company : String) :
    InFlight.holds (e.doingAll deeds).inFlight company =
      (lastWord? company deeds).getD (InFlight.holds e.inFlight company) := by
  induction deeds using List.reverseRecOn with
  | nil => rfl
  | append_singleton deeds deed ih =>
      have hlast : e.doingAll (deeds ++ [deed]) = (e.doingAll deeds).doing deed := by
        simp [doingAll]
      rw [hlast, holds_doing, ih, lastWord?_snoc]
      cases deed.word? company <;> rfl

/-! ### A cycle that finds its company claimed -/

/-- What is left of a cycle that was skipped. -/
structure IsSkipped (e : Engine φ) (c : Company) (result : Except Crash CycleReport)
    (after : Engine φ) : Prop where
  /-- It is reported as skipped, unless that cannot be recorded. -/
  answer : let skipped := e.blankReport c.id .skipped (some skippedMessage) none
    result = .ok skipped ∨
      ∃ fault, (e.ledger.record skipped e.now.text).1 = .error fault ∧ result = .error (.ledger fault)
  memory : after.memory = e.memory
  /-- What is seen of the postings, by whoever writes to them, is what was seen before. -/
  postings : after.ledger.view.postings = e.ledger.view.postings
  /-- What readers see of them was seen before. -/
  kept : e.ledger.PostingsKept after.ledger
  claims : after.inFlight = e.inFlight

theorem isSkipped_of_claimed {e : Engine φ} {c : Company} (trouble : Ledger.Trouble)
    (fetcher : Fetcher φ) (now : Option Time.Stamp)
    (hstored : e.ledger.company? c.id = .ok (some c)) (hclaimed : c.id ∈ e.inFlight) :
    e.IsSkipped c (e.runCycleUnder trouble fetcher c.id now).1
      (e.runCycleUnder trouble fetcher c.id now).2 := by
  have hclaims := runCycleUnder_inFlight e trouble fetcher c.id now
  rw [runCycleUnder, hstored] at hclaims ⊢
  simp only [runStored_eq, reported_claimed trouble fetcher now hclaimed] at hclaims ⊢
  have hledger : ((e.finish (e.blankReport c.id .skipped (some skippedMessage) none)).2.released
      c.id e.inFlight).ledger = (e.ledger.record
        (e.blankReport c.id .skipped (some skippedMessage) none) e.now.text).2 := by
    rw [released_ledger, finish_ledger]
  refine ⟨?_, ?_, ?_, ?_, hclaims⟩
  · unfold finish
    split
    · rename_i fault ledger hrecord
      exact .inr ⟨fault, by rw [hrecord], rfl⟩
    · exact .inl rfl
  · rw [released_memory, finish_eq]
  · rw [hledger]
    exact (Ledger.recording e.ledger _ e.now.text).view_postings
  · rw [hledger]
    exact Ledger.kept_record e.ledger _ e.now.text

/--
**A company is in flight exactly if the last that was said about it is that it is claimed.**
Cycles leave the claims as they were, whatever they come to; and a cycle that finds its company
claimed is skipped, asks no fetcher for anything and leaves the postings alone.
-/
theorem claims_respected (e : Engine φ) (company : String) :
    (∀ deeds : List (Deed φ), company ∈ (e.doingAll deeds).inFlight ↔
      (lastWord? company deeds).getD (decide (company ∈ e.inFlight)) = true) ∧
    (∀ trouble fetcher now, (e.runCycleUnder trouble fetcher company now).2.inFlight = e.inFlight) ∧
    ∀ c, c.id = company → e.ledger.company? c.id = .ok (some c) → company ∈ e.inFlight →
      ∀ trouble fetcher now,
        e.IsSkipped c (e.runCycleUnder trouble fetcher company now).1
          (e.runCycleUnder trouble fetcher company now).2 ∧
        ∀ other, e.runCycleUnder trouble other company now =
          e.runCycleUnder trouble fetcher company now := by
  refine ⟨fun deeds => ?_, fun trouble fetcher now => ?_, ?_⟩
  · have hholds := holds_doingAll e deeds company
    have hstart : InFlight.holds e.inFlight company = decide (company ∈ e.inFlight) := by
      simp [InFlight.holds]
    rw [← hstart, ← hholds]
    simp [InFlight.holds]
  · exact runCycleUnder_inFlight e trouble fetcher company now
  · rintro c rfl hstored hclaimed trouble fetcher now
    refine ⟨isSkipped_of_claimed trouble fetcher now hstored hclaimed, fun other => ?_⟩
    simp only [runCycleUnder, hstored]
    exact runStored_claimed trouble fetcher other now hclaimed

/-- A fetcher that breaks down. -/
def brokenFetcher : Fetcher Unit := fun _ _ memory => (.crashed (.told "out of memory"), memory)

/-- One company is claimed from outside before its cycles, the cycle of another crashes, and one is
not there. -/
def sampleDeeds : List (Deed Unit) :=
  [.release "acme", .claim "acme", .cycle .none brokenFetcher "acme" none,
    .cycle .none brokenFetcher "zeta" none, .batched fullDisk sampleFetcher "acme",
    .runAll sampleFetcher (some ["zeta", "beta"]), .claim "acme"]

/-- The claim from outside outlasts all of this, and no other is left; a cycle that meets it fetches
nothing, even if fetching would break down. -/
theorem claims_respected_sample :
    "acme" ∈ ((sampleEngine []).doingAll sampleDeeds).inFlight ∧
    "zeta" ∉ ((sampleEngine []).doingAll sampleDeeds).inFlight ∧
    ((sampleEngine []).doing (.claim "acme")).IsSkipped (Ledger.bareCompany "acme")
      (((sampleEngine []).doing (.claim "acme")).runCycleUnder fullDisk brokenFetcher "acme" none).1
      (((sampleEngine []).doing (.claim "acme")).runCycleUnder fullDisk brokenFetcher "acme"
        none).2 := by
  refine ⟨((claims_respected (sampleEngine []) "acme").1 sampleDeeds).mpr (by decide), fun h => ?_,
    ?_⟩
  · exact absurd (((claims_respected (sampleEngine []) "zeta").1 sampleDeeds).mp h) (by decide)
  · exact ((claims_respected ((sampleEngine []).doing (.claim "acme")) "acme").2.2
      (Ledger.bareCompany "acme") rfl rfl (by decide) fullDisk brokenFetcher none).1

end VacancyLedger.Engine
