/-
What is written for a company is written to its share.

A ledger is written to in four ways: a source is entered, a page is settled, a report is
recorded, or what is pending is forgotten.  The first three write to the share of one company
and to no other.  Forgetting is not so simple, for what is pending may be anybody's; but
nothing of a company is pending unless a report of its own could not be recorded, and where
nothing is, nothing can be forgotten.
-/
import VacancyLedger.Proofs.Ledger.Share

namespace VacancyLedger.Ledger

/-! ### Shares -/

/-- What the tables hold of a company, the numbers aside. -/
structure Share where
  companies : List Company
  postings : List Posting
  reports : List CycleReport

namespace Share

/-- The share after a source of the company was entered. -/
def entered (s : Share) (now : String) (source : Source) : Share :=
  { s with companies := enterRow s.companies source now }

/-- The share after a page of the company was settled. -/
def settled (s : Share) (company : String) (d : Difference) (page : Page) (now : String) : Share :=
  { s with
    postings := (walkedShare s.postings company (seenListings d page) now).map
      (·.swept company d.close now) }

/-- The share after a report of the company was to be recorded. -/
def recorded (s : Share) (report : CycleReport) (now : String) : Share where
  companies := notedRows s.companies report now
  postings := s.postings
  reports := if isRecordable report then s.reports ++ [report] else s.reports

end Share

/-- The reports of a company, in order and without their numbers. -/
def ownReports (rows : List RecordedCycle) (company : String) : List CycleReport :=
  (rows.filter (·.report.company == company)).map (·.report)

/-- The share of a company in the tables. -/
def Tables.share (t : Tables) (company : String) : Share where
  companies := (t.companies.getD []).filter (·.id == company)
  postings := ownRows (t.postings.getD .empty).rows company
  reports := ownReports (t.cycles.getD .empty).rows company

variable {rows : List Company} {source : Source} {company stranger now : String}
  {report : CycleReport} {table : Numbered Posting} {cycles : Numbered RecordedCycle}

theorem reconfigured_id (c : Company) :
    (if c.id == source.company then c.reconfigured source now else c).id = c.id := by
  split
  · rename_i h
    exact (eq_of_beq h).symm
  · rfl

theorem filter_enterRow (rows : List Company) (source : Source) (now : String) :
    (enterRow rows source now).filter (·.id == source.company) =
      enterRow (rows.filter (·.id == source.company)) source now := by
  have hany : (rows.filter (·.id == source.company)).any (·.id == source.company) =
      rows.any (·.id == source.company) := by
    simp [List.any_filter]
  unfold enterRow
  rw [hany]
  split
  · exact filter_map_of_kept (fun c => congrArg (· == source.company) (reconfigured_id c)) rows
  · simp [Company.ofSource]

theorem filter_enterRow_other (hother : source.company ≠ stranger) :
    (enterRow rows source now).filter (·.id == stranger) = rows.filter (·.id == stranger) := by
  unfold enterRow
  split
  · rw [filter_map_of_kept fun c => congrArg (· == stranger) (reconfigured_id c)]
    refine (List.map_congr_left fun c hc => ?_).trans (List.map_id _)
    have hid : c.id = stranger := by simpa using (List.mem_filter.mp hc).2
    exact if_neg (by simpa [hid] using hother.symm)
  · simp [Company.ofSource, hother]

theorem filter_notedRows (rows : List Company) (report : CycleReport) (now : String) :
    (notedRows rows report now).filter (·.id == company) =
      notedRows (rows.filter (·.id == company)) report now := by
  refine filter_map_of_kept (fun c => congrArg (· == company) ?_) rows
  split
  · exact Company.noted_id c report now
  · rfl

theorem notedRows_other (hother : report.company ≠ stranger) :
    notedRows (rows.filter (·.id == stranger)) report now = rows.filter (·.id == stranger) := by
  refine (List.map_congr_left fun c hc => ?_).trans (List.map_id _)
  have hid : c.id = stranger := by simpa using (List.mem_filter.mp hc).2
  exact if_neg (by simpa [hid] using hother.symm)

theorem ownReports_appended (cycles : Numbered RecordedCycle) (report : CycleReport) :
    ownReports (appended cycles report).rows report.company =
      ownReports cycles.rows report.company ++ [report] := by
  simp [ownReports, appended]

theorem ownReports_appended_other (hother : report.company ≠ stranger) :
    ownReports (appended cycles report).rows stranger = ownReports cycles.rows stranger := by
  simp [ownReports, appended, hother]

/-! ### Ledgers in which nothing but companies is pending -/

/-- A ledger to write to whose postings and history are in order and not pending. -/
structure Ready (l : Ledger) (table : Numbered Posting) (cycles : Numbered RecordedCycle) :
    Prop where
  connected : l.connected = true
  committed : ∃ rows, l.committed = ⟨some rows, some table, some cycles⟩
  view : ∃ rows, l.view = ⟨some rows, some table, some cycles⟩
  schema : Constrained table
  postings : InOrder (·.id) table
  history : InOrder (·.id) cycles

/-- Nothing of the share of a company is pending. -/
def Steady (l : Ledger) (company : String) : Prop :=
  l.committed.share company = l.view.share company

variable {l after : Ledger} {trouble : Trouble}

theorem steady_of_settled (h : l.pending = none) (company : String) : l.Steady company := by
  unfold Steady
  rw [view_of_settled h]

theorem ready_start : unconnected.connect.Ready .empty .empty where
  connected := rfl
  committed := ⟨[], rfl⟩
  view := ⟨[], rfl⟩
  schema := constrained_empty
  postings := inOrder_empty _
  history := inOrder_empty _

/-- A company is looked up in its share. -/
theorem Ready.company?_eq (h : l.Ready table cycles) (company : String) :
    l.company? company = .ok (l.view.share company).companies.head? := by
  obtain ⟨rows, hview⟩ := h.view
  simp [company?, companyRows, writable, h.connected, hview, requireTable, Tables.share, bind,
    Except.bind, pure, Except.pure]

/-! ### Entering -/

theorem Ready.enter (h : l.Ready table cycles) (source : Source) (now : String) :
    ∃ c after, l.enter source now = .ok (c, after) ∧ after.Ready table cycles ∧
      after.pending = none ∧
      after.view.share source.company = (l.view.share source.company).entered now source ∧
      ∀ stranger, source.company ≠ stranger →
        after.view.share stranger = l.view.share stranger := by
  obtain ⟨rows, hview⟩ := h.view
  have hrows : l.view.companies = some rows := by rw [hview]
  refine ⟨_, _, enter_eq source now h.connected hrows, ?_, rfl, ?_, ?_⟩
  · exact ⟨h.connected, ⟨_, by rw [hview]⟩, ⟨_, by rw [view_of_settled rfl, hview]⟩, h.schema,
      h.postings, h.history⟩
  · rw [view_of_settled rfl, hview]
    simp [Tables.share, Share.entered, filter_enterRow]
  · intro stranger hother
    rw [view_of_settled rfl, hview]
    simp [Tables.share, filter_enterRow_other hother]

/-- Of the sources that are entered one after the other a company takes its own. -/
theorem Ready.enterAll (now company : String) (sources : List Source) :
    ∀ {l : Ledger}, l.Ready table cycles →
      (l.enterAll now sources).2.Ready table cycles ∧
      (l.enterAll now sources).2.view.share company =
        (sources.filter (·.company == company)).foldl (·.entered now) (l.view.share company) ∧
      (l.Steady company → (l.enterAll now sources).2.Steady company) := by
  induction sources with
  | nil => exact fun h => ⟨h, rfl, id⟩
  | cons source rest ih =>
      intro l h
      obtain ⟨c, after, henter, hready, hpending, hown, hothers⟩ := h.enter source now
      obtain ⟨hready', hshare, hsteady⟩ := ih hready
      unfold Ledger.enterAll
      rw [henter]
      refine ⟨hready', hshare.trans ?_, fun _ => hsteady (steady_of_settled hpending company)⟩
      by_cases hcompany : source.company = company
      · subst hcompany
        rw [List.filter_cons_of_pos (by simp), List.foldl_cons, hown]
      · rw [List.filter_cons_of_neg (by simpa using hcompany), hothers company hcompany]

/-! ### Recording -/

/-- A report of one company is recorded in its share and no other; it is pending there if it cannot
be recorded. -/
theorem Ready.record (h : l.Ready table cycles) (report : CycleReport) (now : String) :
    (∃ cycles', (l.record report now).2.Ready table cycles') ∧
      (l.record report now).2.view.share report.company =
        (l.view.share report.company).recorded report now ∧
      (isRecordable report = true → ∀ company, (l.record report now).2.Steady company) ∧
      ∀ stranger, report.company ≠ stranger →
        (l.record report now).2.view.share stranger = l.view.share stranger ∧
          (l.Steady stranger → (l.record report now).2.Steady stranger) := by
  obtain ⟨rows, hview⟩ := h.view
  have hrecord : l.record report now = _ := record_eq h.connected
    (by rw [hview] : l.view.companies = some rows) (by rw [hview] : l.view.cycles = some cycles)
  rw [hview] at hrecord
  have hrows : ∀ stranger, report.company ≠ stranger →
      (notedRows rows report now).filter (·.id == stranger) =
        rows.filter (·.id == stranger) := by
    intro stranger hother
    rw [filter_notedRows, notedRows_other hother]
  by_cases hrecordable : isRecordable report = true
  · rw [if_pos hrecordable] at hrecord
    rw [hrecord]
    refine ⟨⟨appended cycles report, h.connected, ⟨_, rfl⟩, ⟨_, rfl⟩, h.schema, h.postings,
      h.history.append rfl (Nat.lt_succ_self _)⟩, ?_, fun _ _ => rfl, ?_⟩
    · rw [view_of_settled rfl, hview]
      simp [Tables.share, Share.recorded, hrecordable, filter_notedRows, ownReports_appended]
    · intro stranger hother
      refine ⟨?_, fun _ => rfl⟩
      rw [view_of_settled rfl, hview]
      simp [Tables.share, hrows stranger hother, ownReports_appended_other hother]
  · rw [if_neg hrecordable] at hrecord
    rw [hrecord]
    refine ⟨⟨cycles, h.connected, h.committed, ⟨_, rfl⟩, h.schema, h.postings, h.history⟩, ?_,
      fun hfits => absurd hfits hrecordable, ?_⟩
    · show Tables.share ⟨_, _, _⟩ _ = _
      rw [hview]
      simp [Tables.share, Share.recorded, hrecordable, filter_notedRows]
    · intro stranger hother
      have hsame : Tables.share ⟨some (notedRows rows report now), some table, some cycles⟩
          stranger = l.view.share stranger := by
        rw [hview]
        simp [Tables.share, hrows stranger hother]
      exact ⟨hsame, fun hsteady => Eq.trans hsteady hsame.symm⟩

/-! ### Settling a page, and forgetting -/

/-- The ledger after other postings were committed. -/
def settling (l : Ledger) (table : Numbered Posting) : Ledger :=
  { l with committed := l.view.withPostings table, pending := none }

/-- What the steps of a cycle of a company can do to a ledger, the database giving trouble. -/
inductive Turn (l : Ledger) (trouble : Trouble) (company : String) : Ledger → Prop
  | same : Turn l trouble company l
  | undone (h : trouble ≠ .none) : Turn l trouble company l.rollback
  | settled {table : Numbered Posting} (h : l.view.postings = some table) (d : Difference)
      (page : Page) (hpage : page.Maps) (now : String) :
      Turn l trouble company (l.settling (table.settled company d page now))

theorem Ready.view_postings (h : l.Ready table cycles) : l.view.postings = some table := by
  obtain ⟨rows, hview⟩ := h.view
  rw [hview]

theorem Ready.turn (h : l.Ready table cycles) (hturn : l.Turn trouble company after) :
    ∃ table', after.Ready table' cycles := by
  cases hturn with
  | same => exact ⟨table, h⟩
  | undone _ =>
      exact ⟨table, h.connected, h.committed, h.committed, h.schema, h.postings, h.history⟩
  | settled htable d page hpage now =>
      obtain rfl := Option.some.inj (h.view_postings.symm.trans htable)
      obtain ⟨rows, hview⟩ := h.view
      have hcommitted : l.view.withPostings (table.settled company d page now) =
          ⟨some rows, some (table.settled company d page now), some cycles⟩ := by
        rw [hview]
        rfl
      exact ⟨table.settled company d page now, h.connected, ⟨rows, hcommitted⟩, ⟨rows, hcommitted⟩,
        constrained_settled h.schema hpage d, h.postings.settled company d page now, h.history⟩

/-- Settling a page of a company changes its share by what the share says. -/
theorem share_settling (h : l.view.postings = some table) (company : String) (d : Difference)
    (page : Page) (now : String) :
    (l.settling (table.settled company d page now)).view.share company =
      (l.view.share company).settled company d page now := by
  show Tables.share (l.view.withPostings _) company = _
  simp [Tables.share, Tables.withPostings, Share.settled, h, ownRows_settled]

theorem Turn.steady (h : l.Turn trouble company after) {stranger : String}
    (hsteady : l.Steady stranger) : after.Steady stranger := by
  cases h with
  | same => exact hsteady
  | undone _ | settled _ _ _ _ => rfl

/-- The steps of a cycle of one company leave the share of another as it was, unless they forget
what is pending in it. -/
theorem Turn.share_other (h : l.Turn trouble company after) {stranger : String}
    (hother : stranger ≠ company) (hcalm : trouble = .none ∨ l.Steady stranger) :
    after.view.share stranger = l.view.share stranger := by
  cases h with
  | same => rfl
  | undone htrouble => exact hcalm.resolve_left htrouble
  | settled htable d page _ now =>
      show Tables.share (l.view.withPostings _) stranger = _
      simp [Tables.share, Tables.withPostings, htable, ownRows_settled_other hother]

end VacancyLedger.Ledger
