/-
Transactions that come to nothing.

A statement there is trouble with is not carried out, and the first statement that fails
ends the transaction.  So if a transaction succeeds, every round of its two loops did: what
each round keeps the transaction keeps, and it has met no trouble at any of its statements
nor when it was committed.  One that fails leaves the ledger without anything pending, and
with that as it was before if nothing was pending then.
-/
import VacancyLedger.Ledger.Apply
import VacancyLedger.Proofs.Outcome

namespace VacancyLedger.Ledger

variable {l : Ledger} {company now : String}

/-! ### Ledgers with nothing pending -/

theorem view_of_settled (h : l.pending = none) : l.view = l.committed := by
  rw [view, h]
  rfl

theorem rollback_of_settled (h : l.pending = none) : l.rollback = l := by
  obtain ⟨committed, pending, connected⟩ := l
  subst h
  rfl

/-! ### Statements -/

/-- Who can write sees the tables. -/
theorem writable_ok {t : Tables} (h : l.writable = .ok t) : l.connected = true ∧ t = l.view := by
  unfold writable at h
  split at h
  · rename_i hconnected
    exact ⟨hconnected, (Except.ok.inj h).symm⟩
  · cases h

theorem requireTable_ok {α : Type} {name : String} {table : Option α} {rows : α}
    (h : requireTable name table = .ok rows) : table = some rows := by
  cases table with
  | none => cases h
  | some found => rw [Except.ok.inj h]

theorem attempt_ok {α : Type} {trouble : Option Fault} {statement : Except Fault α} {a : α}
    (h : attempt trouble statement = .ok a) : trouble = none ∧ statement = .ok a := by
  cases trouble with
  | none => exact ⟨rfl, h⟩
  | some fault => cases h

/-! ### Rounds -/

/-- What taking in a listing can come to: it is new, or its posting is active, or it was closed. -/
inductive Observed (company now key : String) (listing : Listing) (counts : Counts) (t : Tables) :
    Counts → Tables → Prop
  | created {id : Nat} {after : Tables} (hfind : t.find company key = .ok none)
      (h : t.insert company listing now = .ok (id, after)) :
      Observed company now key listing counts t
        { counts with created := counts.created + 1 } after
  | renewed {stored : Posting} {changed : Bool} {after : Tables}
      (hfind : t.find company key = .ok (some stored)) (hactive : stored.isActive = true)
      (h : t.renew stored listing now = .ok (changed, after)) :
      Observed company now key listing counts t
        { counts with
          renewed := counts.renewed + 1
          updated := if changed then counts.updated + 1 else counts.updated } after
  | reopened {stored : Posting} {after : Tables}
      (hfind : t.find company key = .ok (some stored)) (hactive : stored.isActive = false)
      (h : t.reopen stored listing now = .ok after) :
      Observed company now key listing counts t
        { counts with reopened := counts.reopened + 1 } after

section

variable {trouble : Nat → Option Fault} {t : Tables} {counts : Counts}
  {result : Counts × Tables}

/-- Taking a listing in succeeds only if there is no trouble with its two statements. -/
theorem observe_ok {n : Nat} {key : String} {listing : Listing}
    (h : observe trouble n company now key listing counts t = .ok result) :
    (trouble n = none ∧ trouble (n + 1) = none) ∧
      Observed company now key listing counts t result.1 result.2 := by
  unfold observe at h
  obtain ⟨found, hfound, hrest⟩ := bind_ok h
  obtain ⟨hfirst, hfind⟩ := attempt_ok hfound
  cases found with
  | none =>
      obtain ⟨inserted, hinserted, hresult⟩ := bind_ok hrest
      obtain ⟨hsecond, hinsert⟩ := attempt_ok hinserted
      cases hresult
      exact ⟨⟨hfirst, hsecond⟩, .created hfind hinsert⟩
  | some stored =>
      simp only at hrest
      split at hrest
      · rename_i hactive
        obtain ⟨renewed, hrenewed, hresult⟩ := bind_ok hrest
        obtain ⟨hsecond, hrenew⟩ := attempt_ok hrenewed
        cases hresult
        exact ⟨⟨hfirst, hsecond⟩, .renewed hfind hactive hrenew⟩
      · rename_i hclosed
        obtain ⟨reopened, hreopened, hresult⟩ := bind_ok hrest
        obtain ⟨hsecond, hreopen⟩ := attempt_ok hreopened
        cases hresult
        exact ⟨⟨hfirst, hsecond⟩, .reopened hfind (Bool.eq_false_iff.mpr hclosed) hreopen⟩

/-! ### Loops -/

section

variable {motive : Nat → Nat → Counts → Tables → Prop}

/-- What every listing taken in keeps, the first loop keeps.  What is kept may depend on how many
rounds were made and how many statements were carried out. -/
theorem observeAll_keeps
    (hround : ∀ {k n counts t key listing next}, motive k n counts t →
      observe trouble n company now key listing counts t = .ok next →
      motive (k + 1) (n + 2) next.1 next.2)
    (seen : List (String × Listing)) :
    ∀ {k n : Nat} {counts : Counts} {t : Tables}, motive k n counts t →
      observeAll trouble n company now counts t seen = .ok result →
      motive (k + seen.length) (n + 2 * seen.length) result.1 result.2 := by
  induction seen with
  | nil =>
      intro k n counts t hkept h
      cases h
      exact hkept
  | cons entry rest ih =>
      intro k n counts t hkept h
      obtain ⟨next, hfirst, hrest⟩ := bind_ok h
      have hlast := ih (hround hkept hfirst) hrest
      have hrounds : k + (entry :: rest).length = k + 1 + rest.length := by
        rw [List.length_cons]
        omega
      have hstatements : n + 2 * (entry :: rest).length = n + 2 + 2 * rest.length := by
        rw [List.length_cons]
        omega
      rw [hrounds, hstatements]
      exact hlast

/-- What every key closed keeps, the second loop keeps. -/
theorem closeAll_keeps
    (hround : ∀ {k n counts t key next}, motive k n counts t →
      attempt (trouble n) (t.close company key now) = .ok next →
      motive (k + 1) (n + 1)
        (if next.1 then { counts with closed := counts.closed + 1 } else counts) next.2)
    (gone : List String) :
    ∀ {k n : Nat} {counts : Counts} {t : Tables}, motive k n counts t →
      closeAll trouble n company now counts t gone = .ok result →
      motive (k + gone.length) (n + gone.length) result.1 result.2 := by
  induction gone with
  | nil =>
      intro k n counts t hkept h
      cases h
      exact hkept
  | cons key rest ih =>
      intro k n counts t hkept h
      obtain ⟨next, hfirst, hrest⟩ := bind_ok h
      have hlast := ih (hround hkept hfirst) hrest
      have hlength : ∀ m, m + (key :: rest).length = m + 1 + rest.length := by
        intro m
        rw [List.length_cons]
        omega
      rw [hlength, hlength]
      exact hlast

end

end

/-- How many statements it takes to apply a page. -/
def statementCount (d : Difference) (page : Page) : Nat :=
  2 * (seenListings d page).length + (Text.sorted d.close).length

/-- How many rounds the two loops make to apply a page. -/
def roundCount (d : Difference) (page : Page) : Nat :=
  (seenListings d page).length + (Text.sorted d.close).length

variable {trouble : Trouble} {d : Difference} {page : Page}

/-- What every round of both loops keeps, the work of a transaction keeps. -/
theorem writeDifference_keeps {motive : Nat → Nat → Counts → Tables → Prop} {t : Tables}
    {result : Counts × Tables} (hstart : motive 0 0 .zero t)
    (hobserve : ∀ {k n counts t key listing next}, motive k n counts t →
      observe trouble.writing n company now key listing counts t = .ok next →
      motive (k + 1) (n + 2) next.1 next.2)
    (hclose : ∀ {k n counts t key next}, motive k n counts t →
      attempt (trouble.writing n) (t.close company key now) = .ok next →
      motive (k + 1) (n + 1)
        (if next.1 then { counts with closed := counts.closed + 1 } else counts) next.2)
    (h : writeDifference trouble company d page now t = .ok result) :
    motive (roundCount d page) (statementCount d page) result.1 result.2 := by
  unfold writeDifference at h
  obtain ⟨seen, hseen, hrest⟩ := bind_ok h
  obtain ⟨written, hwritten, hcommit⟩ := bind_ok hrest
  have hmiddle := observeAll_keeps hobserve _ hstart hseen
  rw [Nat.zero_add, Nat.zero_add] at hmiddle
  rw [← Except.ok.inj (attempt_ok hcommit).2]
  exact closeAll_keeps hclose _ hmiddle hwritten

/-- A transaction that succeeds has met no trouble at any of its statements. -/
theorem writeDifference_untroubled {t : Tables} {result : Counts × Tables}
    (h : writeDifference trouble company d page now t = .ok result) :
    (∀ n < statementCount d page, trouble.writing n = none) ∧ trouble.committing = none := by
  constructor
  · refine writeDifference_keeps (motive := fun _ n _ _ => ∀ m < n, trouble.writing m = none)
      (fun m hm => absurd hm (Nat.not_lt_zero m)) ?_ ?_ h
    · intro k n counts t key listing next hkept hobserve m hm
      obtain ⟨⟨hnow, hafter⟩, -⟩ := observe_ok hobserve
      by_cases hlt : m < n
      · exact hkept m hlt
      · obtain rfl | rfl : m = n ∨ m = n + 1 := by omega
        · exact hnow
        · exact hafter
    · intro k n counts t key next hkept hclose m hm
      by_cases hlt : m < n
      · exact hkept m hlt
      · obtain rfl : m = n := by omega
        exact (attempt_ok hclose).1
  · obtain ⟨seen, -, hrest⟩ := bind_ok h
    obtain ⟨written, -, hcommit⟩ := bind_ok hrest
    exact (attempt_ok hcommit).1

/-! ### What succeeds in spite of trouble -/

/-- What is done without trouble is done. -/
@[simp] theorem attempt_none {α : Type} (statement : Except Fault α) :
    attempt none statement = statement := rfl

section

variable {trouble : Nat → Option Fault} {t : Tables} {result : Counts × Tables}

theorem observe_none_of_ok {n : Nat} {key : String} {listing : Listing} {counts : Counts}
    (h : observe trouble n company now key listing counts t = .ok result) :
    observe (fun _ => none) n company now key listing counts t = .ok result := by
  obtain ⟨⟨hfirst, hsecond⟩, -⟩ := observe_ok h
  unfold observe at h ⊢
  rw [hfirst, hsecond] at h
  exact h

theorem observeAll_none_of_ok (seen : List (String × Listing)) :
    ∀ {n : Nat} {counts : Counts} {t : Tables},
      observeAll trouble n company now counts t seen = .ok result →
      observeAll (fun _ => none) n company now counts t seen = .ok result := by
  induction seen with
  | nil => exact fun h => h
  | cons entry rest ih =>
      intro n counts t h
      obtain ⟨next, hfirst, hrest⟩ := bind_ok h
      rw [observeAll, observe_none_of_ok hfirst]
      exact ih hrest

theorem closeAll_none_of_ok (gone : List String) :
    ∀ {n : Nat} {counts : Counts} {t : Tables},
      closeAll trouble n company now counts t gone = .ok result →
      closeAll (fun _ => none) n company now counts t gone = .ok result := by
  induction gone with
  | nil => exact fun h => h
  | cons key rest ih =>
      intro n counts t h
      obtain ⟨next, hfirst, hrest⟩ := bind_ok h
      rw [closeAll, attempt_none, (attempt_ok hfirst).2]
      exact ih hrest

end

/-- A transaction that succeeds does what it would do without any trouble. -/
theorem writeDifference_none_of_ok {t : Tables} {result : Counts × Tables}
    (h : writeDifference trouble company d page now t = .ok result) :
    writeDifference .none company d page now t = .ok result := by
  unfold writeDifference at h ⊢
  obtain ⟨seen, hseen, hrest⟩ := bind_ok h
  obtain ⟨written, hwritten, hcommit⟩ := bind_ok hrest
  have hclosed := closeAll_none_of_ok _ hwritten
  have hobserved := observeAll_none_of_ok _ hseen
  simp only [Trouble.none, bind, Except.bind, hobserved, hclosed, attempt_none]
  exact (attempt_ok hcommit).2

/-! ### Transactions -/

variable {ε : Type}

/-- Where the postings are there, nothing but trouble keeps the active ones from being read. -/
theorem activePostingsUnder_eq {table : Numbered Posting} (hconnected : l.connected = true)
    (h : l.view.postings = some table) (trouble : Option Fault) (company : String) :
    (l.activePostingsUnder trouble company : Except (Abort ε) (List Posting)) =
      trouble.elim (.ok (table.rows.filter fun p => p.company == company && p.isActive))
        fun fault => .error (.ofReading company fault) := by
  have hrows : l.view.postingRows = .ok table.rows := by
    rw [Tables.postingRows, h]
    rfl
  unfold activePostingsUnder
  simp only [writable, hconnected, if_true, hrows]
  cases trouble <;> rfl

/-- Active postings that can be read are read without trouble. -/
theorem activePostingsUnder_ok {trouble : Option Fault} {active : List Posting}
    (h : (l.activePostingsUnder trouble company : Except (Abort ε) (List Posting)) = .ok active) :
    trouble = none ∧ l.connected = true ∧ ∃ table, l.view.postings = some table ∧
      active = table.rows.filter fun p => p.company == company && p.isActive := by
  unfold activePostingsUnder at h
  split at h
  · cases h
  · rename_i tables htables
    split at h
    · cases h
    · rename_i rows hrows
      obtain ⟨htrouble, hread⟩ := attempt_ok hrows
      obtain ⟨hconnected, rfl⟩ := writable_ok htables
      obtain ⟨table, htable, rfl⟩ := map_ok hread
      exact ⟨htrouble, hconnected, table, requireTable_ok htable, (Except.ok.inj h).symm⟩

/-- What is left of a transaction that succeeds: its work, committed. -/
theorem applyUnder_ok {counts : Counts} {after : Ledger}
    (h : (l.applyUnder trouble company d page now : Except (Abort ε) Counts × Ledger) =
      (.ok counts, after)) :
    l.connected = true ∧ ∃ t, writeDifference trouble company d page now l.view = .ok (counts, t) ∧
      after = { l with committed := t, pending := none } := by
  unfold applyUnder transaction at h
  split at h
  · simp at h
  · rename_i hconnected
    refine ⟨by simpa using hconnected, ?_⟩
    cases hwork : writeDifference trouble company d page now l.view with
    | error fault => simp [hwork] at h
    | ok result =>
        simp only [hwork, ok_mapError, Prod.mk.injEq, Except.ok.injEq] at h
        exact ⟨result.2, by rw [← h.1], h.2.symm⟩

/-- What is left of a transaction that fails: nothing. -/
theorem applyUnder_error {abort : Abort ε} {after : Ledger}
    (h : l.applyUnder trouble company d page now = (.error abort, after)) :
    after = l ∨ after = l.rollback := by
  unfold applyUnder transaction at h
  split at h
  · exact Or.inl (congrArg Prod.snd h).symm
  · refine Or.inr ?_
    cases hwork : writeDifference trouble company d page now l.view with
    | error fault =>
        simp only [hwork, error_mapError] at h
        exact (congrArg Prod.snd h).symm
    | ok result => simp [hwork] at h

end VacancyLedger.Ledger
