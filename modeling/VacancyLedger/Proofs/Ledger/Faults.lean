/-
What a transaction that meets no trouble can come to.

If it fails it is the database that complains: of a table that is missing, or of a
constraint.  If it succeeds it has written no table but the postings, and it has counted
each listing and each key that is gone at most once.  So applying a page ends in a report,
and in one that can be recorded.
-/
import VacancyLedger.Proofs.Ledger.Trouble

namespace VacancyLedger

/-! ### Complaints -/

namespace Ledger

/-- If anything goes wrong, it is the database that complains. -/
def Complains {α : Type} (statement : Except Fault α) : Prop :=
  ∀ fault, statement = .error fault → fault.isDatabase = true

section

variable {α β : Type}

theorem complains_ok (a : α) : Complains (.ok a) := nofun

theorem complains_error {fault : Fault} (h : fault.isDatabase = true) :
    Complains (.error fault : Except Fault α) := by
  rintro _ ⟨⟩
  exact h

theorem complains_bind {first : Except Fault α} {rest : α → Except Fault β}
    (hfirst : Complains first) (hrest : ∀ a, Complains (rest a)) : Complains (first >>= rest) := by
  cases first with
  | error fault => exact complains_error (hfirst fault rfl)
  | ok a => exact hrest a

theorem complains_requireTable (name : String) (table : Option α) :
    Complains (requireTable name table) := by
  cases table with
  | none => exact complains_error rfl
  | some rows => exact complains_ok rows

end

variable (t : Tables) (company key now : String) (listing : Listing)

theorem complains_postingRows : Complains t.postingRows := by
  unfold Tables.postingRows
  cases t.postings with
  | none => exact complains_error rfl
  | some table => exact complains_ok table.rows

theorem complains_updatePostings (test : Posting → Bool) (f : Posting → Posting) :
    Complains (t.updatePostings test f) :=
  complains_bind (complains_requireTable _ _) fun _ => complains_ok _

theorem complains_find : Complains (t.find company key) :=
  complains_bind (complains_postingRows t) fun _ => complains_ok _

theorem complains_insert : Complains (t.insert company listing now) := by
  refine complains_bind (complains_requireTable _ _) fun postings => ?_
  refine complains_bind (complains_requireTable _ _) fun companies => ?_
  split
  · exact complains_error rfl
  · split
    · exact complains_error rfl
    · exact complains_ok _

theorem complains_renew (stored : Posting) : Complains (t.renew stored listing now) := by
  unfold Tables.renew
  split
  · exact complains_bind (complains_updatePostings _ _ _) fun _ => complains_ok _
  · exact complains_bind (complains_updatePostings _ _ _) fun _ => complains_ok _

theorem complains_close : Complains (t.close company key now) := by
  refine complains_bind (complains_postingRows t) fun rows => ?_
  exact complains_bind (complains_updatePostings _ _ _) fun _ => complains_ok _

theorem complains_observe (n : Nat) (counts : Counts) :
    Complains (observe (fun _ => none) n company now key listing counts t) := by
  refine complains_bind (complains_find t company key) fun found => ?_
  cases found with
  | none => exact complains_bind (complains_insert _ _ _ _) fun _ => complains_ok _
  | some stored =>
      simp only
      split
      · exact complains_bind (complains_renew _ _ _ _) fun _ => complains_ok _
      · exact complains_bind (complains_updatePostings _ _ _) fun _ => complains_ok _

theorem complains_observeAll (seen : List (String × Listing)) :
    ∀ (n : Nat) (counts : Counts) (t : Tables),
      Complains (observeAll (fun _ => none) n company now counts t seen) := by
  induction seen with
  | nil => intro n counts t; exact complains_ok _
  | cons entry rest ih =>
      intro n counts t
      exact complains_bind (complains_observe t company entry.1 now entry.2 n counts)
        fun next => ih (n + 2) next.1 next.2

theorem complains_closeAll (gone : List String) :
    ∀ (n : Nat) (counts : Counts) (t : Tables),
      Complains (closeAll (fun _ => none) n company now counts t gone) := by
  induction gone with
  | nil => intro n counts t; exact complains_ok _
  | cons key rest ih =>
      intro n counts t
      exact complains_bind (complains_close t company key now) fun next => ih (n + 1) _ next.2

/-- A transaction that meets no trouble can only fail because the database complains. -/
theorem complains_writeDifference (d : Difference) (page : Page) :
    Complains (writeDifference .none company d page now t) := by
  refine complains_bind (complains_observeAll company now _ 0 .zero t) fun seen => ?_
  exact complains_bind (complains_closeAll company now _ _ seen.1 seen.2) fun _ => complains_ok _

/-- What a transaction that meets no trouble fails by is reported as a failure to write. -/
theorem applyUnder_none_error {ε : Type} {l after : Ledger} {company now : String} {d : Difference}
    {page : Page} {abort : Abort ε} (hconnected : l.connected = true)
    (h : l.applyUnder .none company d page now = (.error abort, after)) :
    ∃ fault, abort = .persistence (.writing company fault) := by
  unfold applyUnder transaction at h
  simp only [hconnected, Bool.not_true, Bool.false_eq_true, if_false] at h
  cases hwork : writeDifference .none company d page now l.view with
  | ok result => simp [hwork] at h
  | error fault =>
      have hdatabase := complains_writeDifference l.view company now d page fault hwork
      simp only [hwork, error_mapError, Abort.of, hdatabase, if_true, Prod.mk.injEq,
        Except.error.injEq] at h
      exact ⟨fault, h.1.symm⟩

end Ledger

/-! ### Other tables -/

namespace Ledger

/-- Nothing but the postings was written. -/
structure Tables.OthersKept (before after : Tables) : Prop where
  companies : after.companies = before.companies
  cycles : after.cycles = before.cycles

theorem Tables.OthersKept.trans {a b c : Tables} (h : a.OthersKept b) (k : b.OthersKept c) :
    a.OthersKept c :=
  ⟨k.companies.trans h.companies, k.cycles.trans h.cycles⟩

variable {trouble : Nat → Option Fault} {company now key : String} {counts : Counts}
  {t after : Tables} {result : Counts × Tables}

theorem othersKept_updatePostings {test : Posting → Bool} {f : Posting → Posting}
    (h : t.updatePostings test f = .ok after) : t.OthersKept after := by
  obtain ⟨table, -, hafter⟩ := bind_ok h
  cases hafter
  exact ⟨rfl, rfl⟩

theorem othersKept_insert {listing : Listing} {inserted : Nat × Tables}
    (h : t.insert company listing now = .ok inserted) : t.OthersKept inserted.2 := by
  obtain ⟨table, -, hrest⟩ := bind_ok h
  obtain ⟨companies, -, hchecked⟩ := bind_ok hrest
  split at hchecked
  · cases hchecked
  · split at hchecked
    · cases hchecked
    · cases hchecked
      exact ⟨rfl, rfl⟩

theorem othersKept_renew {stored : Posting} {listing : Listing} {renewed : Bool × Tables}
    (h : t.renew stored listing now = .ok renewed) : t.OthersKept renewed.2 := by
  unfold Tables.renew at h
  split at h <;> obtain ⟨after, hupdate, hresult⟩ := bind_ok h <;> cases hresult <;>
    exact othersKept_updatePostings hupdate

theorem othersKept_close {closed : Bool × Tables} (h : t.close company key now = .ok closed) :
    t.OthersKept closed.2 := by
  obtain ⟨rows, -, hrest⟩ := bind_ok h
  obtain ⟨after, hupdate, hresult⟩ := bind_ok hrest
  cases hresult
  exact othersKept_updatePostings hupdate

theorem othersKept_observe {n : Nat} {listing : Listing}
    (h : observe trouble n company now key listing counts t = .ok result) :
    t.OthersKept result.2 := by
  obtain ⟨counts', after⟩ := result
  cases (observe_ok h).2 with
  | created _ hinsert => exact othersKept_insert hinsert
  | renewed _ _ hrenew => exact othersKept_renew hrenew
  | reopened _ _ hreopen => exact othersKept_updatePostings hreopen

/-- Applying a page writes nothing but postings. -/
theorem othersKept_writeDifference {trouble : Trouble} {d : Difference} {page : Page}
    (h : writeDifference trouble company d page now t = .ok result) : t.OthersKept result.2 := by
  refine writeDifference_keeps (motive := fun _ _ _ after => t.OthersKept after) ⟨rfl, rfl⟩ ?_ ?_ h
  · intro k n counts after key listing next hkept hobserve
    exact hkept.trans (othersKept_observe hobserve)
  · intro k n counts after key next hkept hclose
    exact hkept.trans (othersKept_close (attempt_ok hclose).2)

end Ledger

/-! ### Counts -/

/-- Counts that are numbers up to `n`. -/
structure Counts.Within (c : Counts) (n : Nat) : Prop where
  created : 0 ≤ c.created ∧ c.created ≤ n
  renewed : 0 ≤ c.renewed ∧ c.renewed ≤ n
  reopened : 0 ≤ c.reopened ∧ c.reopened ≤ n
  updated : 0 ≤ c.updated ∧ c.updated ≤ n
  closed : 0 ≤ c.closed ∧ c.closed ≤ n

theorem Counts.Within.mono {c : Counts} {m n : Nat} (h : c.Within m) (hle : m ≤ n) :
    c.Within n := by
  obtain ⟨hcreated, hrenewed, hreopened, hupdated, hclosed⟩ := h
  constructor <;> omega

namespace Ledger

variable {trouble : Nat → Option Fault} {company now : String} {counts : Counts} {t : Tables}
  {result : Counts × Tables}

theorem within_zero : Counts.zero.Within 0 := by
  constructor <;> simp [Counts.zero]

theorem within_observe {n k : Nat} {key : String} {listing : Listing} (hcounts : counts.Within k)
    (h : observe trouble n company now key listing counts t = .ok result) :
    result.1.Within (k + 1) := by
  obtain ⟨hcreated, hrenewed, hreopened, hupdated, hclosed⟩ := hcounts
  obtain ⟨counts', after⟩ := result
  cases (observe_ok h).2 with
  | created _ _ => constructor <;> dsimp only <;> omega
  | @renewed _ changed _ _ _ _ => cases changed <;> constructor <;> dsimp only <;> omega
  | reopened _ _ _ => constructor <;> dsimp only <;> omega

/-- Applying a page counts each of its listings and each key that is gone at most once. -/
theorem within_writeDifference {trouble : Trouble} {d : Difference} {page : Page}
    (h : writeDifference trouble company d page now t = .ok result) :
    result.1.Within (roundCount d page) := by
  refine writeDifference_keeps (motive := fun k _ counts _ => counts.Within k) within_zero ?_ ?_ h
  · intro k n counts t key listing next hcounts hobserve
    exact within_observe hcounts hobserve
  · intro k n counts t key next hcounts hclose
    obtain ⟨hcreated, hrenewed, hreopened, hupdated, hclosed⟩ := hcounts
    split
    · constructor <;> dsimp only <;> omega
    · constructor <;> omega

end Ledger
end VacancyLedger
