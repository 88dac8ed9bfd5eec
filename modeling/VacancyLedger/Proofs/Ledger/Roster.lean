/-
What can become of the table of companies.

The table is created empty, and from there on it changes in three ways: a source is entered, a
cycle is noted, or the table is dropped.  A property of the table that these keep holds for
readers and writers of a ledger at any time, also if what was noted of a company could not be
recorded and is still pending.
-/
import VacancyLedger.Proofs.Ledger.Synced

namespace VacancyLedger.Ledger

/-- A property that the table of companies keeps if it is not dropped. -/
structure Lasting (P : Option (List Company) → Prop) : Prop where
  created : P none → P (some [])
  entered : ∀ rows source now, P (some rows) → P (some (enterRow rows source now))
  noted : ∀ rows report now, P (some rows) → P (some (notedRows rows report now))

/-- Whether the companies are as told, to readers and to a writer. -/
structure CompaniesAre (P : Option (List Company) → Prop) (l : Ledger) : Prop where
  committed : P l.committed.companies
  view : P l.view.companies

variable {P : Option (List Company) → Prop} {l after : Ledger}

namespace CompaniesAre

theorem pending (h : l.CompaniesAre P) {t : Tables} (ht : P t.companies) :
    CompaniesAre P { l with pending := some t } :=
  ⟨h.committed, ht⟩

theorem commit (h : l.CompaniesAre P) : l.commit.CompaniesAre P := ⟨h.view, h.view⟩

theorem rollback (h : l.CompaniesAre P) : l.rollback.CompaniesAre P := ⟨h.committed, h.committed⟩

theorem close (h : l.CompaniesAre P) : l.close.CompaniesAre P := ⟨h.committed, h.committed⟩

theorem connect (hP : Lasting P) (h : l.CompaniesAre P) : l.connect.CompaniesAre P := by
  have hcomplete : P (some (l.committed.companies.getD [])) := by
    have hbefore := h.committed
    cases hcompanies : l.committed.companies with
    | none => exact hP.created (hcompanies ▸ hbefore)
    | some rows => exact hcompanies ▸ hbefore
  exact ⟨hcomplete, hcomplete⟩

theorem enter (hP : Lasting P) (h : l.CompaniesAre P) {source : Source} {now : String}
    {entered : Company} (henter : l.enter source now = .ok (entered, after)) :
    after.CompaniesAre P := by
  obtain ⟨t, ht, hrest⟩ := bind_ok henter
  obtain ⟨rows, hrows, hafter⟩ := bind_ok hrest
  obtain ⟨-, rfl⟩ := writable_ok ht
  have hview := h.view
  rw [requireTable_ok hrows] at hview
  cases hafter
  exact (h.pending (t := { l.view with companies := _ }) (hP.entered rows source now hview)).commit

theorem enterAll (hP : Lasting P) (now : String) (sources : List Source) :
    ∀ {l : Ledger}, l.CompaniesAre P → (l.enterAll now sources).2.CompaniesAre P := by
  induction sources with
  | nil => exact fun h => h
  | cons source rest ih =>
      intro l h
      unfold Ledger.enterAll
      split
      · exact h
      · rename_i c after henter
        exact ih (h.enter hP henter)

theorem note (hP : Lasting P) (h : l.CompaniesAre P) {report : CycleReport} {now : String}
    (hnote : l.note report now = .ok after) : after.CompaniesAre P := by
  unfold Ledger.note at hnote
  obtain ⟨t, ht, hrest⟩ := bind_ok hnote
  split at hrest
  · cases hrest
    exact h
  · obtain ⟨rows, hrows, hafter⟩ := bind_ok hrest
    obtain ⟨-, rfl⟩ := writable_ok ht
    have hview := h.view
    rw [requireTable_ok hrows] at hview
    cases hafter
    exact h.pending (hP.noted rows report now hview)

theorem append (h : l.CompaniesAre P) (report : CycleReport) :
    (l.append report).2.CompaniesAre P := by
  unfold Ledger.append
  split
  · exact h
  · split
    · exact h.pending h.view
    · exact (h.pending (t := { l.view with cycles := some _ }) h.view).commit

/-- Recording a cycle notes it at most, whether it succeeds or not. -/
theorem record (hP : Lasting P) (h : l.CompaniesAre P) (report : CycleReport) (now : String) :
    (l.record report now).2.CompaniesAre P := by
  unfold Ledger.record
  split
  · exact h
  · rename_i noted hnote
    exact (h.note hP hnote).append report

/-- A transaction that writes postings alone leaves the companies as they are. -/
theorem transaction {ε α : Type} (h : l.CompaniesAre P) (company : String) (work : Work ε α)
    (hwork : ∀ t a tables, work t = .ok (a, tables) → t.OthersKept tables) :
    (l.transaction company work).2.CompaniesAre P := by
  unfold Ledger.transaction
  split
  · exact h
  · split
    · rename_i answer tables hdone
      refine (h.pending ?_).commit
      rw [(hwork _ _ _ hdone).companies]
      exact h.view
    · exact h.rollback

theorem act (h : l.CompaniesAre P) (company : String) (actions : List Action) :
    (l.act company actions).2.CompaniesAre P :=
  h.transaction company _ fun _ _ _ hdone => (edits_runActions actions hdone).othersKept

theorem applyUnder {ε : Type} (h : l.CompaniesAre P) (trouble : Trouble) (company : String)
    (d : Difference) (page : Page) (now : String) :
    (l.applyUnder trouble company d page now : Except (Abort ε) Counts × Ledger).2.CompaniesAre
      P :=
  h.transaction company _ fun _ _ _ hdone => othersKept_writeDifference (mapError_ok hdone)

/-- Dropping a table drops the companies or leaves them as they are. -/
theorem drop (hnone : P none) (h : l.CompaniesAre P) {name : String}
    (hdrop : l.drop name = .ok after) : after.CompaniesAre P := by
  obtain ⟨t, ht, hrest⟩ := bind_ok hdrop
  obtain ⟨dropped, hdropped, hafter⟩ := bind_ok hrest
  obtain ⟨-, rfl⟩ := writable_ok ht
  cases hafter
  refine (h.pending ?_).commit
  unfold Tables.drop at hdropped
  split at hdropped
  · obtain ⟨rows, -, hchecked⟩ := bind_ok hdropped
    simp only at hchecked
    split at hchecked
    · cases hchecked
    · cases hchecked
      exact hnone
  · split at hdropped
    · obtain ⟨-, -, hresult⟩ := bind_ok hdropped
      cases hresult
      exact h.view
    · split at hdropped
      · obtain ⟨-, -, hresult⟩ := bind_ok hdropped
        cases hresult
        exact h.view
      · cases hdropped

end CompaniesAre

/-! ### Two properties -/

end VacancyLedger.Ledger
