/-
What a company row says is read off the past.

The columns of a company are written by two hands.  Entering its source writes its
configuration, and recording a cycle notes how the cycle ended; neither touches what the other
writes.  So each column is a function of what has been done so far, whatever other companies
were entered or recorded in between: the configuration is that of the last source, and the
other columns sum up the recorded cycles that were not skipped.

The past is kept as a log.  One lemma says what entering a source does to what the log tells,
one what recording a report does; both look at a log with one more entry at its end.
-/
import Mathlib.Algebra.Ring.Int.Defs
import VacancyLedger.Ledger.Action
import VacancyLedger.Proofs.Ledger.Faults
import VacancyLedger.Proofs.Ledger.History
import VacancyLedger.Proofs.Ledger.Writers

namespace VacancyLedger

/-! ### The log -/

/-- What was done to companies and their history. -/
inductive Entry where
  /-- A source was entered, at a time. -/
  | entered (source : Source) (time : String)
  /-- The report of a cycle was recorded. -/
  | recorded (report : CycleReport)

/-- The source and the time, if this is an entry of a source of the company. -/
def Entry.entering? (company : String) : Entry → Option (Source × String)
  | .entered source time => if source.company = company then some (source, time) else none
  | .recorded _ => none

/-- The report, if this is an entry of a report. -/
def Entry.report? : Entry → Option CycleReport
  | .entered _ _ => none
  | .recorded report => some report

/-- What was done, in order. -/
abbrev Chronicle := List Entry

namespace Chronicle

/-- The sources that were entered for a company, with the times. -/
def enterings (log : Chronicle) (company : String) : List (Source × String) :=
  log.filterMap (·.entering? company)

/-- The reports that were recorded. -/
def reports (log : Chronicle) : List CycleReport := log.filterMap (·.report?)

/-- The reports that were recorded of a company. -/
def reportsOf (log : Chronicle) (company : String) : List CycleReport :=
  log.reports.filter (·.company == company)

/-- The reports that were recorded of a company but for the cycles that were skipped. -/
def judged (log : Chronicle) (company : String) : List CycleReport :=
  (log.reportsOf company).filter (·.status ≠ .skipped)

end Chronicle

/-- The reports after the last one of a cycle that ended well. -/
def sinceSuccess (reports : List CycleReport) : List CycleReport :=
  (reports.reverse.takeWhile (·.status ≠ .ok)).reverse

/-- What a company row says, of the sources that were entered for it and of the reports that were
recorded of it but for the cycles that were skipped. -/
structure Company.SumsUp (c : Company) (enterings : List (Source × String))
    (judged : List CycleReport) : Prop where
  /-- It keeps the time at which it was first entered. -/
  createdAt : enterings.head?.map (·.2) = some c.createdAt
  /-- It has the configuration that was entered last. -/
  source : enterings.getLast?.map (·.1) = some c.source
  failures : c.failures = (sinceSuccess judged).countP (·.status = .error)
  lastStatus : c.lastStatus = judged.getLast?.map (·.status)
  lastCycleAt : c.lastCycleAt = judged.getLast?.map (·.finishedAt)
  /-- What ended well has no error. -/
  lastError : c.lastError =
    judged.getLast?.bind fun r => if r.status = .ok then none else r.error
  lastSuccessAt : c.lastSuccessAt =
    (judged.filter (·.status = .ok)).getLast?.map (·.finishedAt)

/-- The columns that recording a cycle writes. -/
def Company.operation (c : Company) :
    Option String × Option String × Option CycleStatus × Option String × Nat :=
  (c.lastCycleAt, c.lastSuccessAt, c.lastStatus, c.lastError, c.failures)

/-- The columns that recording a cycle leaves alone. -/
def Company.configuration (c : Company) : Source × String := (c.source, c.createdAt)

/-! ### One company -/

section

variable {enterings : List (Source × String)} {judged : List CycleReport} {c : Company}
  {report : CycleReport}

theorem sinceSuccess_ok (reports : List CycleReport) (h : report.status = .ok) :
    sinceSuccess (reports ++ [report]) = [] := by
  simp [sinceSuccess, h]

theorem sinceSuccess_error (reports : List CycleReport) (h : report.status = .error) :
    sinceSuccess (reports ++ [report]) = sinceSuccess reports ++ [report] := by
  simp [sinceSuccess, h]

namespace Company

theorem sumsUp_ofSource (source : Source) (time : String) :
    (Company.ofSource source time).SumsUp [(source, time)] [] :=
  ⟨rfl, rfl, rfl, rfl, rfl, rfl, rfl⟩

/-- Entering a company again writes its configuration and nothing else. -/
theorem SumsUp.reconfigured (h : c.SumsUp enterings judged) (source : Source) (time : String) :
    (c.reconfigured source time).SumsUp (enterings ++ [(source, time)]) judged := by
  refine ⟨?_, ?_, h.failures, h.lastStatus, h.lastCycleAt, h.lastError, h.lastSuccessAt⟩
  · cases enterings with
    | nil => cases h.createdAt
    | cons first rest => exact h.createdAt
  · rw [List.getLast?_concat]
    rfl

/-- Noting a cycle writes how it ended and nothing else. -/
theorem SumsUp.noted (h : c.SumsUp enterings judged) (now : String)
    (hstatus : report.status ≠ .skipped) :
    (c.noted report now).SumsUp enterings (judged ++ [report]) := by
  unfold Company.noted
  split
  · rename_i hok
    refine ⟨h.createdAt, h.source, ?_, ?_, ?_, ?_, ?_⟩
    · rw [sinceSuccess_ok judged hok]
      rfl
    · simp [hok]
    · simp
    · simp [hok]
    · simp [hok]
  · rename_i herror
    refine ⟨h.createdAt, h.source, ?_, ?_, ?_, ?_, ?_⟩
    · rw [sinceSuccess_error judged herror, List.countP_append, ← h.failures]
      simp [herror]
    · simp [herror]
    · simp
    · simp [herror]
    · rw [List.filter_append, List.filter_cons_of_neg (by simp [herror]), List.filter_nil,
        List.append_nil]
      exact h.lastSuccessAt
  · rename_i hskipped
    exact absurd hskipped hstatus

theorem noted_id (c : Company) (report : CycleReport) (now : String) :
    (c.noted report now).id = c.id := by
  unfold noted
  split <;> rfl

theorem noted_configuration (c : Company) (report : CycleReport) (now : String) :
    (c.noted report now).configuration = c.configuration := by
  unfold noted
  split <;> rfl

theorem noted_skipped (c : Company) (now : String) (h : report.status = .skipped) :
    c.noted report now = c := by
  unfold noted
  rw [h]

end Company

end

/-! ### One more entry -/

namespace Chronicle

theorem enterings_entered (log : Chronicle) (source : Source) (time company : String) :
    enterings (log ++ [.entered source time]) company =
      log.enterings company ++ if source.company = company then [(source, time)] else [] := by
  unfold enterings
  rw [List.filterMap_append]
  by_cases h : source.company = company
  · simp [Entry.entering?, h]
  · simp [Entry.entering?, h]

theorem enterings_recorded (log : Chronicle) (report : CycleReport) (company : String) :
    enterings (log ++ [.recorded report]) company = log.enterings company := by
  simp [enterings, Entry.entering?]

theorem reports_entered (log : Chronicle) (source : Source) (time : String) :
    reports (log ++ [.entered source time]) = log.reports := by
  simp [reports, Entry.report?]

theorem reports_recorded (log : Chronicle) (report : CycleReport) :
    reports (log ++ [.recorded report]) = log.reports ++ [report] := by
  simp [reports, Entry.report?]

theorem judged_entered (log : Chronicle) (source : Source) (time company : String) :
    judged (log ++ [.entered source time]) company = log.judged company := by
  rw [judged, reportsOf, reports_entered]
  rfl

/-- A report is added to those of its company unless the cycle was skipped. -/
theorem judged_recorded (log : Chronicle) (report : CycleReport) (company : String) :
    judged (log ++ [.recorded report]) company =
      log.judged company ++
        if report.company = company ∧ report.status ≠ .skipped then [report] else [] := by
  unfold judged reportsOf
  rw [reports_recorded, List.filter_append, List.filter_append]
  by_cases hcompany : report.company = company
  · by_cases hstatus : report.status = .skipped
    · simp [hcompany, hstatus]
    · simp [hcompany, hstatus]
  · simp [hcompany]

end Chronicle

/-- Whether a company row says what the log tells. -/
def Company.Tells (c : Company) (log : Chronicle) : Prop :=
  c.SumsUp (log.enterings c.id) (log.judged c.id)

namespace Ledger

/-- Whether the companies and the history are what the log tells. -/
structure Tells (rows : List Company) (cycles : Numbered RecordedCycle) (log : Chronicle) :
    Prop where
  /-- A company is there once it was entered. -/
  entered : ∀ company, log.enterings company ≠ [] ↔ company ∈ rows.map (·.id)
  once : (rows.map (·.id)).Nodup
  tells : ∀ c ∈ rows, c.Tells log
  /-- The reports that were recorded, in order. -/
  history : cycles.rows.map (·.report) = log.reports
  /-- Nothing was recorded of a company before it was entered. -/
  known : ∀ report ∈ log.reports, report.company ∈ rows.map (·.id)
  ids_lt : cycles.rows.Pairwise fun a b => a.id < b.id
  ids_le : ∀ row ∈ cycles.rows, row.id ≤ cycles.lastId

variable {rows : List Company} {cycles : Numbered RecordedCycle} {log : Chronicle}
  {report : CycleReport}

theorem tells_empty : Tells [] .empty [] where
  entered company := by simp [Chronicle.enterings]
  once := .nil
  tells c hc := by cases hc
  history := rfl
  known report h := by cases h
  ids_lt := .nil
  ids_le row h := by cases h

theorem Tells.unentered (h : Tells rows cycles log) {company : String}
    (hnew : company ∉ rows.map (·.id)) :
    log.enterings company = [] ∧ log.judged company = [] := by
  refine ⟨?_, ?_⟩
  · by_contra hentered
    exact hnew ((h.entered company).mp hentered)
  · unfold Chronicle.judged Chronicle.reportsOf
    rw [List.filter_filter, List.filter_eq_nil_iff]
    intro report hreport hkept
    have hcompany : report.company = company := by simpa using (Bool.and_eq_true_iff.mp hkept).2
    exact hnew (hcompany ▸ h.known report hreport)

/-- Entering a source does not bear on the other companies. -/
theorem tells_entered_other {c : Company} (h : c.Tells log) {source : Source} (time : String)
    (hother : source.company ≠ c.id) : c.Tells (log ++ [.entered source time]) := by
  unfold Company.Tells
  rw [Chronicle.enterings_entered, if_neg hother, List.append_nil, Chronicle.judged_entered]
  exact h

theorem tells_entered {c : Company} (h : c.Tells log) {source : Source} (time : String)
    (hsame : source.company = c.id) :
    (c.reconfigured source time).Tells (log ++ [.entered source time]) := by
  have hid : (c.reconfigured source time).id = c.id := hsame
  unfold Company.Tells
  rw [hid, Chronicle.enterings_entered, if_pos hsame, Chronicle.judged_entered]
  exact h.reconfigured source time

/-- A source that is entered again. -/
theorem Tells.reenter (h : Tells rows cycles log) {source : Source} (time : String)
    (hknown : source.company ∈ rows.map (·.id)) :
    Tells (rows.map fun c => if c.id == source.company then c.reconfigured source time else c)
      cycles (log ++ [.entered source time]) := by
  have hids : (rows.map fun c =>
      if c.id == source.company then c.reconfigured source time else c).map (·.id) =
      rows.map (·.id) := by
    rw [List.map_map]
    refine List.map_congr_left fun c _ => ?_
    simp only [Function.comp_apply]
    split
    · rename_i hid
      exact (eq_of_beq hid).symm
    · rfl
  refine ⟨?_, ?_, ?_, ?_, ?_, h.ids_lt, h.ids_le⟩
  · intro company
    rw [hids, Chronicle.enterings_entered]
    by_cases hcompany : source.company = company
    · rw [if_pos hcompany]
      exact iff_of_true (by simp) (hcompany ▸ hknown)
    · rw [if_neg hcompany, List.append_nil]
      exact h.entered company
  · rw [hids]
    exact h.once
  · intro c hc
    obtain ⟨old, hold, rfl⟩ := List.mem_map.mp hc
    split
    · rename_i hid
      exact tells_entered (h.tells old hold) time (eq_of_beq hid).symm
    · rename_i hid
      exact tells_entered_other (h.tells old hold) time fun heq => hid (beq_iff_eq.mpr heq.symm)
  · rw [Chronicle.reports_entered]
    exact h.history
  · rw [Chronicle.reports_entered, hids]
    exact h.known

/-- A source that is entered for the first time. -/
theorem Tells.enterNew (h : Tells rows cycles log) {source : Source} (time : String)
    (hnew : source.company ∉ rows.map (·.id)) :
    Tells (rows ++ [.ofSource source time]) cycles (log ++ [.entered source time]) := by
  have hids : (rows ++ [Company.ofSource source time]).map (·.id) =
      rows.map (·.id) ++ [source.company] := List.map_append
  refine ⟨?_, ?_, ?_, ?_, ?_, h.ids_lt, h.ids_le⟩
  · intro company
    rw [hids, Chronicle.enterings_entered, List.mem_append, List.mem_singleton]
    by_cases hcompany : source.company = company
    · rw [if_pos hcompany]
      exact iff_of_true (by simp) (.inr hcompany.symm)
    · rw [if_neg hcompany, List.append_nil, h.entered company, or_iff_left (Ne.symm hcompany)]
  · rw [hids]
    exact List.nodup_append.mpr ⟨h.once, List.nodup_singleton _, by
      rintro a ha b hb rfl
      exact hnew (List.mem_singleton.mp hb ▸ ha)⟩
  · intro c hc
    rcases List.mem_append.mp hc with hold | hfirst
    · refine tells_entered_other (h.tells c hold) time fun heq => hnew ?_
      rw [heq]
      exact List.mem_map_of_mem hold
    · rw [List.mem_singleton.mp hfirst]
      obtain ⟨henterings, hjudged⟩ := h.unentered hnew
      have hid : (Company.ofSource source time).id = source.company := rfl
      unfold Company.Tells
      rw [hid, Chronicle.enterings_entered, if_pos rfl, Chronicle.judged_entered, henterings,
        hjudged]
      exact Company.sumsUp_ofSource source time
  · rw [Chronicle.reports_entered]
    exact h.history
  · rw [Chronicle.reports_entered, hids]
    exact fun report hreport => List.mem_append_left _ (h.known report hreport)

/-- Entering a source. -/
theorem Tells.enter (h : Tells rows cycles log) (source : Source) (time : String) :
    Tells (enterRow rows source time) cycles (log ++ [.entered source time]) := by
  have hany : rows.any (·.id == source.company) = true ↔ source.company ∈ rows.map (·.id) := by
    simp
  unfold enterRow
  split
  · rename_i hknown
    exact h.reenter time (hany.mp hknown)
  · rename_i hnew
    exact h.enterNew time fun hin => hnew (hany.mpr hin)

/-- Recording a cycle does not bear on the other companies, nor on its own if it was skipped. -/
theorem tells_recorded_other {c : Company} (h : c.Tells log)
    (hother : report.company ≠ c.id ∨ report.status = .skipped) :
    c.Tells (log ++ [.recorded report]) := by
  have hnot : ¬ (report.company = c.id ∧ report.status ≠ .skipped) := by
    rintro ⟨hcompany, hstatus⟩
    exact hother.elim (fun hne => hne hcompany) hstatus
  unfold Company.Tells
  rw [Chronicle.enterings_recorded, Chronicle.judged_recorded, if_neg hnot, List.append_nil]
  exact h

theorem tells_recorded {c : Company} (h : c.Tells log) (now : String)
    (hsame : report.company = c.id) : (c.noted report now).Tells (log ++ [.recorded report]) := by
  by_cases hstatus : report.status = .skipped
  · rw [Company.noted_skipped c now hstatus]
    exact tells_recorded_other h (.inr hstatus)
  · unfold Company.Tells
    rw [Company.noted_id, Chronicle.enterings_recorded, Chronicle.judged_recorded,
      if_pos ⟨hsame, hstatus⟩]
    exact h.noted now hstatus

theorem map_id_notedRows (rows : List Company) (report : CycleReport) (now : String) :
    (notedRows rows report now).map (·.id) = rows.map (·.id) := by
  unfold notedRows
  rw [List.map_map]
  refine List.map_congr_left fun c _ => ?_
  simp only [Function.comp_apply]
  split
  · exact Company.noted_id c report now
  · rfl

/-- Recording a cycle of a company that is there. -/
theorem Tells.record (h : Tells rows cycles log) (now : String)
    (hknown : report.company ∈ rows.map (·.id)) :
    Tells (notedRows rows report now) (appended cycles report) (log ++ [.recorded report]) := by
  have hids := map_id_notedRows rows report now
  refine ⟨?_, ?_, ?_, ?_, ?_, ?_, ?_⟩
  · intro company
    rw [Chronicle.enterings_recorded, hids]
    exact h.entered company
  · rw [hids]
    exact h.once
  · intro c hc
    obtain ⟨old, hold, rfl⟩ := List.mem_map.mp hc
    split
    · rename_i hid
      exact tells_recorded (h.tells old hold) now (eq_of_beq hid).symm
    · rename_i hid
      exact tells_recorded_other (h.tells old hold)
        (.inl fun heq => hid (beq_iff_eq.mpr heq.symm))
  · rw [Chronicle.reports_recorded, ← h.history]
    simp [appended]
  · rw [Chronicle.reports_recorded, hids]
    intro recorded hrecorded
    rcases List.mem_append.mp hrecorded with hold | hnew
    · exact h.known recorded hold
    · rw [List.mem_singleton.mp hnew]
      exact hknown
  · refine List.pairwise_append.mpr ⟨h.ids_lt, List.pairwise_singleton _ _, ?_⟩
    intro row hrow last hlast
    rw [List.mem_singleton.mp hlast]
    exact Nat.lt_succ_of_le (h.ids_le row hrow)
  · intro row hrow
    rcases List.mem_append.mp hrow with hold | hnew
    · exact Nat.le_succ_of_le (h.ids_le row hold)
    · rw [List.mem_singleton.mp hnew]
      exact Nat.le_refl _

/-! ### Ledgers -/

/-- A ledger with nothing pending whose companies and history are what the log tells. -/
def Chronicled (l : Ledger) (log : Chronicle) : Prop :=
  l.pending = none ∧ ∃ rows cycles, l.committed.companies = some rows ∧
    l.committed.cycles = some cycles ∧ Tells rows cycles log

variable {l after : Ledger}

theorem chronicled_start : unconnected.connect.Chronicled [] :=
  ⟨rfl, [], .empty, rfl, rfl, tells_empty⟩

/-- What writes neither companies nor the history leaves the log as it is. -/
theorem Chronicled.frame (h : l.Chronicled log) (hpending : after.pending = none)
    (hkept : l.committed.OthersKept after.committed) : after.Chronicled log := by
  obtain ⟨-, rows, cycles, hrows, hcycles, htells⟩ := h
  exact ⟨hpending, rows, cycles, hkept.companies.trans hrows, hkept.cycles.trans hcycles, htells⟩

/-- Entering where the companies are there. -/
theorem enter_eq (source : Source) (time : String) (hconnected : l.connected = true)
    (hrows : l.view.companies = some rows) :
    l.enter source time =
      .ok (((enterRow rows source time).find? (·.id == source.company)).getD
          (.ofSource source time),
        { l with
          committed := { l.view with companies := some (enterRow rows source time) }
          pending := none }) := by
  simp only [Ledger.enter, writable, hconnected, if_true, hrows, requireTable, bind, Except.bind,
    pure, Except.pure]
  rfl

theorem enter_disconnected (source : Source) (time : String) (h : l.connected = false) :
    l.enter source time = .error .disconnected := by
  simp [Ledger.enter, writable, h, bind, Except.bind]

theorem Chronicled.enter (h : l.Chronicled log) {source : Source} {time : String}
    {entered : Company} (henter : l.enter source time = .ok (entered, after)) :
    after.connected = true ∧ after.Chronicled (log ++ [.entered source time]) := by
  obtain ⟨hpending, rows, cycles, hrows, hcycles, htells⟩ := h
  have hview := view_of_settled hpending
  cases hconnected : l.connected with
  | false => cases (enter_disconnected source time hconnected).symm.trans henter
  | true =>
      rw [enter_eq source time hconnected (hview ▸ hrows)] at henter
      cases henter
      exact ⟨hconnected, rfl, _, cycles, rfl, hview ▸ hcycles, htells.enter source time⟩

/-- Entering sources one after the other: if the first can be entered so can all. -/
theorem Chronicled.enterAll (time : String) (sources : List Source) :
    ∀ {l : Ledger} {log : Chronicle}, l.Chronicled log → l.connected = true →
      (∃ entered, (l.enterAll time sources).1 = .ok entered) ∧
        (l.enterAll time sources).2.Chronicled (log ++ sources.map (.entered · time)) := by
  induction sources with
  | nil =>
      intro l log h _
      exact ⟨⟨[], rfl⟩, by rw [List.map_nil, List.append_nil]; exact h⟩
  | cons source rest ih =>
      intro l log h hconnected
      obtain ⟨hpending, rows, cycles, hrows, -, -⟩ := id h
      have henter := enter_eq source time hconnected (view_of_settled hpending ▸ hrows)
      obtain ⟨hconnected', hnext⟩ := h.enter henter
      obtain ⟨⟨entered, hentered⟩, hlog⟩ := ih hnext hconnected'
      unfold Ledger.enterAll
      rw [henter]
      refine ⟨⟨_ :: entered, congrArg (Except.map _) hentered⟩, ?_⟩
      rw [List.map_cons, List.append_cons]
      exact hlog

theorem enterAll_disconnected (time : String) (sources : List Source) (h : l.connected = false) :
    (l.enterAll time sources).2 = l ∧
      ∀ entered, (l.enterAll time sources).1 = .ok entered → sources = [] := by
  cases sources with
  | nil => exact ⟨rfl, fun _ _ => rfl⟩
  | cons source rest =>
      unfold Ledger.enterAll
      rw [enter_disconnected source time h]
      exact ⟨rfl, fun _ h => by cases h⟩

/-- Recording a cycle of a company that is there. -/
theorem Chronicled.record (h : l.Chronicled log) {now : String} {id : Nat}
    (hknown : ∃ rows, l.view.companies = some rows ∧ report.company ∈ rows.map (·.id))
    (hrecord : l.record report now = (.ok id, after)) :
    after.Chronicled (log ++ [.recorded report]) := by
  obtain ⟨hpending, rows, cycles, hrows, hcycles, htells⟩ := h
  obtain ⟨rows', hrows', hin⟩ := hknown
  have hview := view_of_settled hpending
  obtain ⟨cycles', hcycles', rfl⟩ := record_ok hrows' hrecord
  rw [hview] at hrows' hcycles'
  obtain rfl := Option.some.inj (hrows.symm.trans hrows')
  obtain rfl := Option.some.inj (hcycles.symm.trans hcycles')
  exact ⟨rfl, _, _, rfl, rfl, htells.record now hin⟩

/-- Entering a source leaves alone how the cycles went, of its own company and of the others. -/
theorem enter_operation {source : Source} {time : String} {entered : Company}
    (hrows : l.view.companies = some rows) (henter : l.enter source time = .ok (entered, after)) :
    ∃ rows', after.committed.companies = some rows' ∧
      ∀ c ∈ rows, ∃ d ∈ rows', d.id = c.id ∧ d.operation = c.operation := by
  cases hconnected : l.connected with
  | false => cases (enter_disconnected source time hconnected).symm.trans henter
  | true =>
      rw [enter_eq source time hconnected hrows] at henter
      cases henter
      refine ⟨_, rfl, fun c hc => ?_⟩
      unfold enterRow
      split
      · refine ⟨_, List.mem_map_of_mem hc, ?_⟩
        split
        · rename_i hid
          exact ⟨(eq_of_beq hid).symm, rfl⟩
        · exact ⟨rfl, rfl⟩
      · exact ⟨c, List.mem_append_left _ hc, rfl, rfl⟩

theorem notedRows_configuration (rows : List Company) (report : CycleReport) (now : String) :
    (notedRows rows report now).map Company.configuration = rows.map Company.configuration := by
  unfold notedRows
  rw [List.map_map]
  refine List.map_congr_left fun c _ => ?_
  simp only [Function.comp_apply]
  split
  · exact Company.noted_configuration c report now
  · rfl

/-- Whether readers and a writer see companies that are configured like these. -/
def ConfiguredAs (l : Ledger) (rows : List Company) : Prop :=
  (∃ committed, l.committed.companies = some committed ∧
    committed.map Company.configuration = rows.map Company.configuration) ∧
  ∃ seen, l.view.companies = some seen ∧
    seen.map Company.configuration = rows.map Company.configuration

theorem configuredAs_of_settled (hpending : l.pending = none)
    (hrows : l.committed.companies = some rows) : l.ConfiguredAs rows :=
  ⟨⟨rows, hrows, rfl⟩, rows, view_of_settled hpending ▸ hrows, rfl⟩

/-- Recording a cycle leaves the configurations alone, whether it succeeds or not. -/
theorem record_configuredAs (hpending : l.pending = none)
    (hrows : l.committed.companies = some rows) (report : CycleReport) (now : String) :
    (l.record report now).2.ConfiguredAs rows := by
  have hnoted := notedRows_configuration rows report now
  cases hconnected : l.connected with
  | false =>
      have hnote : l.note report now = .error .disconnected := by
        simp [note, writable, hconnected, bind, Except.bind]
      unfold record
      rw [hnote]
      exact configuredAs_of_settled hpending hrows
  | true =>
      obtain ⟨noted, hnote, hcommitted, -, hview⟩ :=
        note_eq report now hconnected (view_of_settled hpending ▸ hrows)
      have hseen : noted.view.companies = some (notedRows rows report now) := by rw [hview]
      unfold record append
      rw [hnote]
      simp only
      split
      · exact ⟨⟨rows, hcommitted ▸ hrows, rfl⟩, _, hseen, hnoted⟩
      · split
        · exact ⟨⟨rows, hcommitted ▸ hrows, rfl⟩, _, hseen, hnoted⟩
        · exact ⟨⟨_, hseen, hnoted⟩, _, hseen, hnoted⟩

theorem Chronicled.connect (h : l.Chronicled log) : l.connect.Chronicled log := by
  obtain ⟨-, rows, cycles, hrows, hcycles, htells⟩ := h
  refine ⟨rfl, rows, cycles, ?_, ?_, htells⟩
  · simp [Ledger.connect, Tables.complete, hrows]
  · simp [Ledger.connect, Tables.complete, hcycles]

theorem Chronicled.close (h : l.Chronicled log) : l.close.Chronicled log :=
  h.frame rfl ⟨rfl, rfl⟩

/-! ### Transactions -/

theorem Edits.othersKept {company : String} {t after : Tables} (h : Edits company t after) :
    t.OthersKept after := by
  induction h with
  | refl => exact ⟨rfl, rfl⟩
  | tail _ hedit ih =>
      refine ih.trans ?_
      cases hedit with
      | insert hinsert => exact othersKept_insert hinsert
      | renew hrenew => exact othersKept_renew hrenew
      | reopen hreopen => exact othersKept_updatePostings hreopen
      | close hclose => exact othersKept_close hclose

/-- Whatever a transaction comes to, it writes postings alone. -/
theorem Chronicled.transaction {ε α : Type} (h : l.Chronicled log) (company : String)
    (work : Work ε α)
    (hwork : ∀ t a tables, work t = .ok (a, tables) → t.OthersKept tables) :
    (l.transaction company work).2.Chronicled log := by
  obtain ⟨hpending, -⟩ := id h
  unfold Ledger.transaction
  split
  · exact h
  · split
    · rename_i answer tables hdone
      refine h.frame rfl ?_
      rw [← view_of_settled hpending]
      exact hwork _ _ _ hdone
    · rw [rollback_of_settled hpending]
      exact h

theorem Chronicled.act (h : l.Chronicled log) (company : String) (actions : List Action) :
    (l.act company actions).2.Chronicled log :=
  h.transaction company _ fun _ _ _ hdone => (edits_runActions actions hdone).othersKept

theorem Chronicled.applyUnder {ε : Type} (h : l.Chronicled log) (trouble : Trouble)
    (company : String) (d : Difference) (page : Page) (now : String) :
    (l.applyUnder trouble company d page now : Except (Abort ε) Counts × Ledger).2.Chronicled
      log := by
  refine h.transaction company _ fun t counts tables hdone => ?_
  exact othersKept_writeDifference (mapError_ok hdone)

/-! ### Reading the history -/

/-- The last cycles of a company are the last reports that were recorded of it. -/
theorem Chronicled.listCycles (h : l.Chronicled log) (hconnected : l.connected = true)
    {company : String} (hcompany : company ≠ "") {n : Int} (hn : 1 ≤ n) (hsize : n < 2 ^ 63) :
    ∃ found, l.listCycles (some company) n = .ok found ∧
      found.map (·.report) = (log.reportsOf company).reverse.take n.toNat ∧
      found.Pairwise fun a b => b.id < a.id := by
  obtain ⟨hpending, rows, cycles, -, hcycles, htells⟩ := h
  have hstorable : isStorable n = true := by
    have htwo : Int.ofNat (Number.twoTo 63) = 2 ^ 63 := rfl
    simp only [isStorable, Number.fitsBits, htwo, Bool.and_eq_true, decide_eq_true_eq]
    omega
  have hwanted : (some company).filter (!·.isEmpty) = some company := by
    simp [Option.filter, hcompany]
  have hnegative : ¬ n < 0 := by omega
  refine ⟨(cycles.rows.reverse.filter fun c => company == c.report.company).take n.toNat,
    ?_, ?_, ?_⟩
  · simp only [Ledger.listCycles, writable, hconnected, view_of_settled hpending, hcycles,
      requireTable, hstorable, hwanted, hnegative, bind, Except.bind, pure, Except.pure, if_true,
      if_false, Bool.not_true, Bool.false_eq_true, Option.all_some]
  · have hsame : (fun c : RecordedCycle => company == c.report.company) =
        (fun r : CycleReport => r.company == company) ∘ (·.report) := by
      funext c
      exact Bool.beq_comm
    rw [List.map_take, Chronicle.reportsOf, ← htells.history, ← List.filter_reverse,
      ← List.map_reverse, List.filter_map, hsame]
  · exact ((List.pairwise_reverse.mpr htells.ids_lt).filter _).take

end Ledger
end VacancyLedger
