/-
What recording a cycle leaves behind.

Recording writes to two tables, the companies and the history, and commits.  It does not
touch the postings, and it succeeds whenever both tables are there and the numbers of the
report can be stored.  If they cannot, what was noted of the company stays pending.
-/
import VacancyLedger.Ledger.Companies
import VacancyLedger.Ledger.History
import VacancyLedger.Proofs.Ledger.Trouble

namespace VacancyLedger.Ledger

variable {l : Ledger} {report : CycleReport} {now : String}

/-- The companies after a cycle was noted. -/
def notedRows (rows : List Company) (report : CycleReport) (now : String) : List Company :=
  rows.map fun c => if c.id == report.company then c.noted report now else c

/-- The history after a cycle was appended. -/
def appended (cycles : Numbered RecordedCycle) (report : CycleReport) : Numbered RecordedCycle :=
  ⟨cycles.rows ++ [⟨cycles.lastId + 1, report⟩], cycles.lastId + 1⟩

/-- Whether the numbers of a report can be stored. -/
def isRecordable (report : CycleReport) : Bool := (reportNumbers report).all isStorable

/-- A cycle that was skipped says nothing of its company. -/
theorem notedRows_skipped (rows : List Company) (now : String) (h : report.status = .skipped) :
    notedRows rows report now = rows := by
  refine List.map_id'' (fun c => ?_) rows
  unfold Company.noted
  rw [h]
  split <;> rfl

/-- What a failed cycle changes of its company, and of no other. -/
theorem notedRows_error (rows : List Company) (now : String) (h : report.status = .error) :
    notedRows rows report now = rows.map fun c =>
      if c.id == report.company then
        { c with
          lastCycleAt := some report.finishedAt
          lastStatus := some .error
          lastError := report.error
          failures := c.failures + 1
          updatedAt := now }
      else c := by
  refine List.map_congr_left fun c _ => ?_
  unfold Company.noted
  rw [h]

theorem note_eq {rows : List Company} (report : CycleReport) (now : String)
    (hconnected : l.connected = true) (hcompanies : l.view.companies = some rows) :
    ∃ l', l.note report now = .ok l' ∧ l'.committed = l.committed ∧
      l'.connected = l.connected ∧
      l'.view = { l.view with companies := some (notedRows rows report now) } := by
  unfold note
  by_cases hstatus : report.status = .skipped
  · refine ⟨l, ?_, rfl, rfl, ?_⟩
    · simp [writable, hconnected, hstatus, bind, Except.bind, pure, Except.pure]
    · rw [notedRows_skipped rows now hstatus, ← hcompanies]
  · refine ⟨{ l with
      pending := some { l.view with companies := some (notedRows rows report now) } },
      ?_, rfl, rfl, rfl⟩
    simp [writable, hconnected, hstatus, hcompanies, requireTable, notedRows, bind, Except.bind,
      pure, Except.pure]

theorem commit_pending (committed t : Tables) (connected : Bool) :
    commit ⟨committed, some t, connected⟩ = ⟨t, none, connected⟩ := rfl

/-- Recording where both tables are there. -/
theorem record_eq {rows : List Company} {cycles : Numbered RecordedCycle}
    (hconnected : l.connected = true) (hcompanies : l.view.companies = some rows)
    (hcycles : l.view.cycles = some cycles) :
    l.record report now =
      if isRecordable report then
        (.ok (cycles.lastId + 1),
          { l with
            committed :=
              { l.view with
                companies := some (notedRows rows report now)
                cycles := some (appended cycles report) }
            pending := none })
      else
        (.error .integerTooLarge,
          { l with
            pending := some { l.view with companies := some (notedRows rows report now) } }) := by
  obtain ⟨l', hnote, hcommitted, hconnected', hview⟩ := note_eq report now hconnected hcompanies
  have hcycles' : l'.view.cycles = some cycles := by rw [hview]; exact hcycles
  unfold record append
  rw [hnote]
  simp only [hcycles']
  unfold isRecordable
  cases (reportNumbers report).all isStorable with
  | true => simp [commit_pending, hview, hconnected', appended]
  | false => simp [hview, hcommitted, hconnected']

/-- A cycle that is recorded finds the history there, and its numbers can be stored. -/
theorem record_ok {rows : List Company} {id : Nat} {after : Ledger}
    (hcompanies : l.view.companies = some rows) (h : l.record report now = (.ok id, after)) :
    ∃ cycles, l.view.cycles = some cycles ∧
      after =
        { l with
          committed :=
            { l.view with
              companies := some (notedRows rows report now)
              cycles := some (appended cycles report) }
          pending := none } := by
  by_cases hconnected : l.connected = true
  · obtain ⟨l', hnote, -, -, hview⟩ := note_eq report now hconnected hcompanies
    cases hcycles : l.view.cycles with
    | none =>
        have hnone : l'.view.cycles = none := by rw [hview]; exact hcycles
        simp [record, hnote, append, hnone] at h
    | some cycles =>
        rw [record_eq hconnected hcompanies hcycles] at h
        split at h
        · exact ⟨cycles, rfl, (congrArg Prod.snd h).symm⟩
        · simp at h
  · have hnote : l.note report now = .error .disconnected := by
      simp [note, writable, hconnected, bind, Except.bind]
    simp [record, hnote] at h

/-! ### The postings meanwhile -/

/-- Whether readers or a writer see these postings. -/
def ShowsPostings (l : Ledger) (postings : Option (Numbered Posting)) : Prop :=
  postings = l.committed.postings ∨ postings = l.view.postings

/-- Nobody sees postings after that nobody saw before. -/
def PostingsKept (l after : Ledger) : Prop :=
  ∀ postings, after.ShowsPostings postings → l.ShowsPostings postings

/-- A ledger with these postings, to readers and to writers. -/
structure Holds (l : Ledger) (table : Numbered Posting) : Prop where
  committed : l.committed.postings = some table
  view : l.view.postings = some table

section

variable {after : Ledger}

theorem PostingsKept.refl (l : Ledger) : l.PostingsKept l := fun _ h => h

theorem PostingsKept.trans {other : Ledger} (h : l.PostingsKept after)
    (k : after.PostingsKept other) : l.PostingsKept other :=
  fun postings hshows => h postings (k postings hshows)

theorem kept_commit (l : Ledger) : l.PostingsKept l.commit := by
  rintro postings (h | h)
  · exact Or.inr h
  · exact Or.inr h

theorem kept_rollback (l : Ledger) : l.PostingsKept l.rollback := by
  rintro postings (h | h)
  · exact Or.inl h
  · exact Or.inl h

theorem kept_close (l : Ledger) : l.PostingsKept l.close := by
  rintro postings (h | h)
  · exact Or.inl h
  · exact Or.inl h

/-- What is written to other tables is not seen in the postings. -/
theorem kept_pending {t : Tables} (ht : t.postings = l.view.postings) :
    l.PostingsKept { l with pending := some t } := by
  rintro postings (h | h)
  · exact Or.inl h
  · exact Or.inr (h.trans ht)

theorem kept_note (h : l.note report now = .ok after) : l.PostingsKept after := by
  unfold note at h
  obtain ⟨t, ht, hrest⟩ := bind_ok h
  split at hrest
  · cases hrest
    exact .refl l
  · obtain ⟨rows, -, hafter⟩ := bind_ok hrest
    obtain ⟨-, rfl⟩ := writable_ok ht
    cases hafter
    exact kept_pending rfl

theorem kept_append (l : Ledger) (report : CycleReport) : l.PostingsKept (l.append report).2 := by
  unfold append
  split
  · exact .refl l
  · split
    · exact kept_pending rfl
    · exact (kept_pending (t := { l.view with cycles := _ }) rfl).trans (kept_commit _)

/-- Recording a cycle does not touch the postings, whether it succeeds or not. -/
theorem kept_record (l : Ledger) (report : CycleReport) (now : String) :
    l.PostingsKept (l.record report now).2 := by
  unfold record
  split
  · exact .refl l
  · rename_i after hnote
    exact (kept_note hnote).trans (kept_append after report)

theorem kept_enter {source : Source} {c : Company} (h : l.enter source now = .ok (c, after)) :
    l.PostingsKept after := by
  obtain ⟨t, ht, hrest⟩ := bind_ok h
  obtain ⟨rows, -, hafter⟩ := bind_ok hrest
  obtain ⟨-, rfl⟩ := writable_ok ht
  cases hafter
  exact (kept_pending (t := { l.view with companies := _ }) rfl).trans (kept_commit _)

theorem kept_enterAll (now : String) (sources : List Source) :
    ∀ l : Ledger, l.PostingsKept (l.enterAll now sources).2 := by
  induction sources with
  | nil => exact .refl
  | cons source rest ih =>
      intro l
      unfold enterAll
      split
      · exact .refl l
      · rename_i c after henter
        exact (kept_enter henter).trans (ih after)

/-- Dropping a table shows nothing new. -/
theorem showsPostings_drop {name : String} {postings : Numbered Posting}
    (h : l.drop name = .ok after) (hshows : after.ShowsPostings (some postings)) :
    l.ShowsPostings (some postings) := by
  obtain ⟨t, ht, hrest⟩ := bind_ok h
  obtain ⟨dropped, hdropped, hafter⟩ := bind_ok hrest
  obtain ⟨-, rfl⟩ := writable_ok ht
  cases hafter
  have hview : some postings = dropped.postings := by
    rcases hshows with h | h
    · exact h
    · exact h
  refine Or.inr (hview.trans ?_)
  unfold Tables.drop at hdropped
  split at hdropped
  · obtain ⟨companies, -, hchecked⟩ := bind_ok hdropped
    simp only at hchecked
    split at hchecked
    · cases hchecked
    · cases hchecked
      rfl
  · split at hdropped
    · obtain ⟨-, -, hresult⟩ := bind_ok hdropped
      cases hresult
      cases hview
    · split at hdropped
      · obtain ⟨-, -, hresult⟩ := bind_ok hdropped
        cases hresult
        rfl
      · cases hdropped

/-- Who connects finds what was committed, or an empty table. -/
theorem showsPostings_connect {postings : Numbered Posting}
    (h : l.connect.ShowsPostings (some postings)) :
    l.ShowsPostings (some postings) ∨ postings = .empty := by
  have hcomplete : some postings = some (l.committed.postings.getD .empty) := by
    rcases h with h | h
    · exact h
    · exact h
  cases hcommitted : l.committed.postings with
  | none =>
      rw [hcommitted] at hcomplete
      exact Or.inr (Option.some.inj hcomplete)
  | some table =>
      rw [hcommitted] at hcomplete
      exact Or.inl (Or.inl (hcomplete.trans hcommitted.symm))

end

namespace Holds

variable {table : Numbered Posting} {after : Ledger}

theorem shows (h : l.Holds table) {postings : Option (Numbered Posting)}
    (hshows : l.ShowsPostings postings) : postings = some table := by
  rcases hshows with rfl | rfl
  · exact h.committed
  · exact h.view

theorem of_kept (h : l.Holds table) (hkept : l.PostingsKept after) : after.Holds table :=
  ⟨h.shows (hkept _ (Or.inl rfl)), h.shows (hkept _ (Or.inr rfl))⟩

theorem connect (h : l.Holds table) : l.connect.Holds table := by
  have hcommitted : l.connect.committed.postings = some table := by
    simp [Ledger.connect, Tables.complete, h.committed]
  exact ⟨hcommitted, hcommitted⟩

end Holds

end VacancyLedger.Ledger
