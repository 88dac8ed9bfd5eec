/-
Recording a cycle as a whole, or half of it.

Recording notes on the company how the cycle ended, appends the report to the history, and
commits.  If it succeeds both are committed.  If it fails nobody can tell that it was tried,
with one exception: where the company was noted, and only then the history turned out to be
missing or a number of the report too large, the note stays pending.  It is then read by
whoever is connected, committed with whatever is committed next, and lost with whatever is
rolled back next.

Noting may change nothing, as for a cycle that was skipped or a company that is not there.  What
is pending then is a copy of what is committed, which is why ledgers are compared by what is
seen in them and not as they are.
-/
import VacancyLedger.Proofs.Ledger.Apply
import VacancyLedger.Proofs.Ledger.Chronicle
import VacancyLedger.Proofs.Ledger.Companies
import VacancyLedger.Proofs.Ledger.Resemblance

namespace VacancyLedger.Ledger

variable {l after : Ledger} {report : CycleReport} {now : String}

/-- The tables after a cycle was noted on its company. -/
def Tables.noted (t : Tables) (report : CycleReport) (now : String) : Tables :=
  { t with companies := t.companies.map (notedRows · report now) }

/-- The ledger where a cycle was noted on its company, and nothing else was done. -/
def noting (l : Ledger) (report : CycleReport) (now : String) : Ledger :=
  { l with pending := some (l.view.noted report now) }

/-- Whether the history takes a report in: it is there, and the numbers can be stored. -/
def TakesIn (t : Tables) (report : CycleReport) : Prop :=
  t.cycles.isSome = true ∧ isRecordable report = true

/-- Whether recording a cycle is given up when its company has been noted already. -/
structure StopsHalfway (l : Ledger) (report : CycleReport) (now : String) : Prop where
  connected : l.connected = true
  noted : l.view.noted report now ≠ l.view
  refused : ¬ TakesIn l.view report

/-! ### Noting and appending -/

theorem Tables.noted_skipped (t : Tables) (now : String) (h : report.status = .skipped) :
    t.noted report now = t := by
  have hrows : (notedRows · report now) = id := funext fun rows => notedRows_skipped rows now h
  rw [Tables.noted, hrows, Option.map_id_fun]
  rfl

theorem Tables.noted_none {t : Tables} (now : String) (h : t.companies = .none) :
    t.noted report now = t := by
  rw [Tables.noted, h]
  obtain ⟨companies, postings, cycles⟩ := t
  exact congrArg (fun companies => (⟨companies, postings, cycles⟩ : Tables)) h.symm

theorem Tables.noted_some {t : Tables} {rows : List Company} (h : t.companies = some rows) :
    t.noted report now = { t with companies := some (notedRows rows report now) } := by
  rw [Tables.noted, h]
  rfl

/-- What is pending is not seen if it is what was seen before. -/
theorem pending_view (l : Ledger) : Resembles { l with pending := some l.view } l := ⟨rfl, rfl, rfl⟩

/-- Noting fails without a connection or without the companies, and is seen in the companies. -/
theorem note_cases (l : Ledger) (report : CycleReport) (now : String) :
    (l.connected = false ∧ l.note report now = .error .disconnected) ∨
    (l.connected = true ∧ l.view.companies = none ∧ report.status ≠ .skipped ∧
      l.note report now = .error (.noTable companiesName)) ∨
    (l.connected = true ∧ (l.view.companies.isSome = true ∨ report.status = .skipped) ∧
      ∃ noted, l.note report now = .ok noted ∧ noted.Resembles (l.noting report now)) := by
  cases hconnected : l.connected with
  | false =>
      refine .inl ⟨rfl, ?_⟩
      simp [note, writable, hconnected, bind, Except.bind]
  | true =>
      right
      by_cases hskipped : report.status = .skipped
      · refine .inr ⟨rfl, .inr hskipped, l, ?_, ?_⟩
        · simp [note, writable, hconnected, hskipped, bind, Except.bind, pure, Except.pure]
        · rw [noting, Tables.noted_skipped _ now hskipped]
          exact (pending_view l).symm
      · cases hrows : l.view.companies with
        | none =>
            refine .inl ⟨rfl, rfl, hskipped, ?_⟩
            simp [note, writable, hconnected, hskipped, hrows, requireTable, bind, Except.bind]
        | some rows =>
            obtain ⟨noted, hnote, hcommitted, hconnected', hview⟩ :=
              note_eq report now hconnected hrows
            refine .inr ⟨rfl, .inl rfl, noted, hnote, hcommitted, ?_, hconnected'⟩
            rw [hview, ← Tables.noted_some hrows]
            rfl

/-- Appending commits what is seen with one more report in the history, or changes nothing that is
seen. -/
theorem append_cases (l : Ledger) (report : CycleReport) :
    (∃ cycles, l.view.cycles = some cycles ∧ isRecordable report = true ∧
      l.append report = (.ok (cycles.lastId + 1),
        ⟨{ l.view with cycles := some (appended cycles report) }, none, l.connected⟩)) ∨
    ¬ TakesIn l.view report ∧
      ∃ fault, (l.append report).1 = .error fault ∧ (l.append report).2.Resembles l := by
  unfold append TakesIn
  cases hcycles : l.view.cycles with
  | none => exact .inr ⟨by simp, _, rfl, .refl l⟩
  | some cycles =>
      cases hrecordable : isRecordable report with
      | false =>
          unfold isRecordable at hrecordable
          simp only [hrecordable]
          exact .inr ⟨by simp, _, rfl, pending_view l⟩
      | true =>
          refine .inl ⟨cycles, rfl, rfl, ?_⟩
          unfold isRecordable at hrecordable
          simp only [hrecordable, Bool.not_true, Bool.false_eq_true, if_false, commit_pending]
          rfl

/-! ### Recording -/

/-- How recording a cycle can end. -/
inductive Recording (l : Ledger) (report : CycleReport) (now : String) :
    Except Fault Nat → Ledger → Prop
  | whole {cycles : Numbered RecordedCycle} (hconnected : l.connected = true)
      (hcompanies : l.view.companies.isSome = true ∨ report.status = .skipped)
      (hcycles : l.view.cycles = some cycles) (hrecordable : isRecordable report = true) :
      Recording l report now (.ok (cycles.lastId + 1))
        ⟨{ l.view.noted report now with cycles := some (appended cycles report) }, none, true⟩
  | unconnected {fault : Fault} (hconnected : l.connected = false) :
      Recording l report now (.error fault) l
  | unnoted {fault : Fault} (hcompanies : l.view.companies = none)
      (hstatus : report.status ≠ .skipped) : Recording l report now (.error fault) l
  | half {fault : Fault} {after : Ledger} (hconnected : l.connected = true)
      (hrefused : ¬ TakesIn l.view report) (hafter : after.Resembles (l.noting report now)) :
      Recording l report now (.error fault) after

theorem recording (l : Ledger) (report : CycleReport) (now : String) :
    Recording l report now (l.record report now).1 (l.record report now).2 := by
  unfold record
  rcases note_cases l report now with
    ⟨hconnected, hnote⟩ | ⟨-, hcompanies, hstatus, hnote⟩ |
      ⟨hconnected, hcompanies, noted, hnote, h⟩
  · rw [hnote]
    exact .unconnected hconnected
  · rw [hnote]
    exact .unnoted hcompanies hstatus
  · rw [hnote]
    have hconnected' : noted.connected = true := h.connected.trans hconnected
    have hview : noted.view = l.view.noted report now := h.view
    rcases append_cases noted report with
      ⟨cycles, hcycles, hrecordable, happend⟩ | ⟨hrefused, fault, hfault, hafter⟩
    · simp only [happend, hview, hconnected']
      rw [hview] at hcycles
      exact .whole hconnected hcompanies hcycles hrecordable
    · simp only [hfault]
      rw [hview] at hrefused
      exact .half hconnected hrefused (hafter.trans h)

namespace Recording

variable {answer : Except Fault Nat}

/-- Recording succeeds where there is a connection, the company can be noted and the history takes
the report in. -/
theorem ok_iff (h : Recording l report now answer after) :
    (∃ id, answer = .ok id) ↔
      l.connected = true ∧ (l.view.companies.isSome = true ∨ report.status = .skipped) ∧
        TakesIn l.view report := by
  cases h with
  | whole hconnected hcompanies hcycles hrecordable =>
      exact iff_of_true ⟨_, rfl⟩ ⟨hconnected, hcompanies, by rw [hcycles]; rfl, hrecordable⟩
  | unconnected hconnected =>
      refine iff_of_false nofun fun hall => ?_
      rw [hconnected] at hall
      exact absurd hall.1 (by decide)
  | unnoted hcompanies hstatus =>
      refine iff_of_false nofun fun hall => ?_
      rw [hcompanies] at hall
      exact hall.2.1.elim (absurd · (by decide)) hstatus
  | half _ hrefused _ => exact iff_of_false nofun fun hall => hrefused hall.2.2

/-- Both are committed: that the company was noted, and the history with the report. -/
theorem committed {id : Nat} (h : Recording l report now (.ok id) after) :
    ∃ cycles, l.view.cycles = some cycles ∧ id = cycles.lastId + 1 ∧
      after = ⟨{ l.view.noted report now with cycles := some (appended cycles report) }, none,
        l.connected⟩ := by
  cases h with
  | @whole cycles hconnected _ hcycles _ => exact ⟨cycles, hcycles, rfl, by rw [hconnected]⟩

/-- Whether it succeeds or not, recording a cycle leaves the postings as they are seen. -/
theorem view_postings (h : Recording l report now answer after) :
    after.view.postings = l.view.postings := by
  cases h with
  | whole _ _ _ _ | unconnected _ | unnoted _ _ => rfl
  | half _ _ hafter => rw [hafter.view]; rfl

/-- Where recording fails and does not stop half-way nothing is seen of it. -/
theorem unseen {fault : Fault} (h : Recording l report now (.error fault) after)
    (hstops : ¬ l.StopsHalfway report now) : after.Resembles l := by
  cases h with
  | unconnected _ => exact .refl l
  | unnoted _ _ => exact .refl l
  | half hconnected hrefused hafter =>
      have hsame : l.view.noted report now = l.view := by
        by_contra hnoted
        exact hstops ⟨hconnected, hnoted, hrefused⟩
      refine hafter.trans ?_
      rw [noting, hsame]
      exact pending_view l

/-- Where it stops half-way it fails, and the note is pending. -/
theorem stopped (h : Recording l report now answer after) (hstops : l.StopsHalfway report now) :
    (∃ fault, answer = .error fault) ∧ after.Resembles (l.noting report now) := by
  cases h with
  | whole _ _ hcycles hrecordable =>
      exact absurd ⟨by rw [hcycles]; rfl, hrecordable⟩ hstops.refused
  | unconnected hconnected => exact absurd (hstops.connected.symm.trans hconnected) (by decide)
  | unnoted hcompanies _ => exact absurd (Tables.noted_none now hcompanies) hstops.noted
  | half _ _ hafter => exact ⟨⟨_, rfl⟩, hafter⟩

end Recording

/-- A note that is pending is seen by whoever asks for the companies. -/
theorem noted_of_replies {ε α : Type} (hconnected : l.connected = true)
    (h : (l.noting report now).replies [(.companies false : Use ε α)] =
      l.replies [.companies false]) : l.view.noted report now = l.view := by
  have hlisted : (l.noting report now).listCompanies false = l.listCompanies false :=
    Reply.companies.inj (List.head_eq_of_cons_eq h)
  cases hrows : l.view.companies with
  | none => exact Tables.noted_none now hrows
  | some rows =>
      have hnoted : (l.noting report now).view.companies = some (notedRows rows report now) :=
        congrArg Tables.companies (Tables.noted_some hrows)
      rw [listCompanies_all hconnected hrows,
        listCompanies_all (l := l.noting report now) hconnected hnoted] at hlisted
      have hid : ∀ c : Company,
          (if c.id == report.company then c.noted report now else c).id = c.id := by
        intro c
        split
        · exact Company.noted_id c report now
        · rfl
      have hsame : notedRows rows report now = rows :=
        (sortedById_map_eq_iff hid rows).mp (Except.ok.inj hlisted)
      rw [Tables.noted_some hrows, hsame, ← hrows]

/--
**Recording a cycle commits both that the company was noted and that the report was appended, or
it fails; and then, unless it stops half-way, no use of the ledger can tell that it was tried.**
Where it stops half-way the note is pending.
-/
theorem record_whole_or_unseen (ε α : Type) (l : Ledger) (report : CycleReport) (now : String)
    (hpending : l.pending = none) :
    ((∃ id, (l.record report now).1 = .ok id) ↔
      l.connected = true ∧ (l.committed.companies.isSome = true ∨ report.status = .skipped) ∧
        TakesIn l.committed report) ∧
    (∀ id after, l.record report now = (.ok id, after) →
      ∃ cycles, l.committed.cycles = some cycles ∧ id = cycles.lastId + 1 ∧
        after = { l with
          committed := { l.committed.noted report now with
            cycles := some (appended cycles report) } }) ∧
    (∀ fault after, l.record report now = (.error fault, after) →
      ((∀ uses : List (Use ε α), after.replies uses = l.replies uses) ↔
        ¬ l.StopsHalfway report now)) ∧
    (l.StopsHalfway report now →
      ∃ fault after, l.record report now = (.error fault, after) ∧
        after.committed = l.committed ∧ after.view = l.committed.noted report now) := by
  have hview := view_of_settled hpending
  have hrecording := recording l report now
  rcases hrecord : l.record report now with ⟨answer, after⟩
  rw [hrecord] at hrecording
  rw [← hview]
  refine ⟨hrecording.ok_iff, ?_, ?_, ?_⟩
  · intro id after h
    cases h
    rw [hpending]
    exact hrecording.committed
  · intro fault after h
    cases h
    refine ⟨fun hsame hstops => ?_, fun hstops uses => (hrecording.unseen hstops).replies uses⟩
    have hafter := (hrecording.stopped hstops).2
    refine hstops.noted (noted_of_replies (ε := ε) (α := α) hstops.connected ?_)
    rw [← hafter.replies]
    exact hsame _
  · intro hstops
    obtain ⟨⟨fault, rfl⟩, hafter⟩ := hrecording.stopped hstops
    exact ⟨fault, after, rfl, hafter.committed.trans hview.symm, hafter.view⟩

/-- A report of a cycle that has read more than can be counted. -/
def vastReport (company : String) : CycleReport where
  company
  status := .error
  startedAt := "2026-01-10"
  finishedAt := "2026-01-11"
  fetched := 2 ^ 63
  discarded := 0
  counts := .zero
  error := some "timed out"
  errorType := none

/-- One less can be counted, and is recorded; of a company that is not there nothing is noted, so
nobody can tell that its report was refused. -/
theorem record_whole_or_unseen_sample :
    (∃ id, (sampleLedger.record { vastReport "acme" with fetched := 2 ^ 63 - 1 } "2026-01-12").1 =
      .ok id) ∧
    (sampleLedger.record (vastReport "beta") "2026-01-12").1 = .error .integerTooLarge ∧
    ∀ uses : List (Use Empty Unit),
      (sampleLedger.record (vastReport "beta") "2026-01-12").2.replies uses =
        sampleLedger.replies uses := by
  have hbeta : (sampleLedger.record (vastReport "beta") "2026-01-12").1 =
      .error .integerTooLarge := by decide +kernel
  refine ⟨?_, hbeta, ?_⟩
  · have hwhole := record_whole_or_unseen Empty Unit sampleLedger
      { vastReport "acme" with fetched := 2 ^ 63 - 1 } "2026-01-12" rfl
    exact hwhole.1.mpr ⟨rfl, .inl rfl, rfl, by decide +kernel⟩
  · have hunseen := (record_whole_or_unseen Empty Unit sampleLedger (vastReport "beta")
      "2026-01-12" rfl).2.2.1
    refine (hunseen _ _ (Prod.ext hbeta rfl)).mpr fun hstops => hstops.noted ?_
    decide +kernel

/-- A company is noted whose report is then refused.  Who is connected reads the note, a transaction
of another company commits it, and one that fails forgets it. -/
theorem record_stops_halfway :
    (sampleLedger.record (vastReport "acme") "2026-01-12").1 = .error .integerTooLarge ∧
    (sampleLedger.record (vastReport "acme") "2026-01-12").2.company? "acme" =
      .ok (some ((bareCompany "acme").noted (vastReport "acme") "2026-01-12")) ∧
    ((sampleLedger.record (vastReport "acme") "2026-01-12").2.act "zeta" []).2.connect.company?
        "acme" = .ok (some ((bareCompany "acme").noted (vastReport "acme") "2026-01-12")) ∧
    ((sampleLedger.record (vastReport "acme") "2026-01-12").2.act "zeta" [.raise "no"]).2 =
      sampleLedger ∧
    sampleLedger.company? "acme" = .ok (some (bareCompany "acme")) ∧
    (bareCompany "acme").noted (vastReport "acme") "2026-01-12" ≠ bareCompany "acme" :=
  ⟨rfl, rfl, rfl, rfl, rfl, by decide⟩

end VacancyLedger.Ledger
