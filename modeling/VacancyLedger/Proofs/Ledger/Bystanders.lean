/-
What is written for one company passes over the rows of every other.

Rows are written in two ways.  Those that are inserted or closed are picked by their company and
key.  Those that are renewed or reopened are picked by their number alone, which could be that of
anybody's row; but the number was looked up by company and key just before, and no two rows have
the same.  So it takes the schema to see that a transaction on one company leaves the rows of the
others as they are, their numbers included, and the schema has to be carried along from each
statement to the next.

This holds of whatever a transaction does, actions as well as pages, also pages on which a
listing stands under a key that is not its own.
-/
import VacancyLedger.Proofs.Ledger.Share
import VacancyLedger.Proofs.Ledger.Writers

namespace VacancyLedger.Ledger

variable {rows : List Posting} {table : Numbered Posting} {company subject key now : String}
  {listing : Listing} {stored : Posting} {t middle after : Tables}

/-! ### Rows of one company -/

/-- The rows of a company, in order and with their numbers. -/
def rowsOf (rows : List Posting) (company : String) : List Posting :=
  rows.filter (·.company == company)

theorem mem_rowsOf {p : Posting} : p ∈ rowsOf rows company ↔ p ∈ rows ∧ p.company = company := by
  simp [rowsOf]

/-- What changes no row of a company leaves its rows as they are. -/
theorem rowsOf_map {f : Posting → Posting} (hplace : ∀ p, (f p).place = p.place)
    (hsame : ∀ p ∈ rows, p.company = company → f p = p) :
    rowsOf (rows.map f) company = rowsOf rows company := by
  unfold rowsOf
  rw [filter_map_of_kept fun p => congrArg (·.1 == company) (hplace p)]
  refine (List.map_congr_left fun p hp => ?_).trans (List.map_id _)
  obtain ⟨hin, hcompany⟩ := mem_rowsOf.mp hp
  exact hsame p hin hcompany

/-! ### Statements -/

/-- The schema stays in force and the rows of a company stay as they are. -/
def Tables.PassesOver (company : String) (t after : Tables) : Prop :=
  ∀ table, t.postings = some table → Constrained table →
    ∃ table', after.postings = some table' ∧ Constrained table' ∧
      rowsOf table'.rows company = rowsOf table.rows company

namespace Tables.PassesOver

theorem refl (company : String) (t : Tables) : t.PassesOver company t :=
  fun table htable hschema => ⟨table, htable, hschema, rfl⟩

theorem trans (h : t.PassesOver company middle) (k : middle.PassesOver company after) :
    t.PassesOver company after := by
  intro table htable hschema
  obtain ⟨next, hnext, hschema', hrows⟩ := h table htable hschema
  obtain ⟨last, hlast, hschema'', hrows'⟩ := k next hnext hschema'
  exact ⟨last, hlast, hschema'', hrows'.trans hrows⟩

/-- A change in place passes over the rows of a company if it changes none of them. -/
theorem of_map {f : Posting → Posting} (hf : Posting.Keeps f)
    (h : ∀ table, t.postings = some table → Constrained table →
      after = t.withPostings { table with rows := table.rows.map f } ∧
        ∀ p ∈ table.rows, p.company = company → f p = p) : t.PassesOver company after := by
  intro table htable hschema
  obtain ⟨rfl, hsame⟩ := h table htable hschema
  exact ⟨_, rfl, constrained_map hschema (fun p => (hf.follows p).id) fun p => (hf.follows p).place,
    rowsOf_map (fun p => (hf.follows p).place) hsame⟩

section

variable (hother : subject ≠ company)
include hother

theorem insert {id : Nat} (h : t.insert subject listing now = .ok (id, after)) :
    t.PassesOver company after := by
  intro table htable hschema
  obtain ⟨-, hfree, rfl⟩ := insert_ok htable h
  refine ⟨_, rfl, constrained_append hschema rfl fun q hq hplace => ?_, ?_⟩
  · exact List.any_eq_false.mp hfree q hq (Posting.isAt_place.mpr hplace)
  · simp [rowsOf, Posting.fresh, hother]

/-- A row whose number was looked up is a row of the company that it was looked up for. -/
theorem found {f : Posting → Posting} (hf : Posting.Keeps f)
    (hfind : t.find subject key = .ok (some stored))
    (h : ∀ table, t.postings = some table → after = t.withPostings
      { table with rows := table.rows.map fun p => if p.id == stored.id then f p else p }) :
    t.PassesOver company after := by
  refine of_map (hf.ite fun p => p.id == stored.id) fun table htable hschema =>
    ⟨h table htable, fun p hp hcompany => if_neg fun hid => ?_⟩
  rw [find_eq htable] at hfind
  obtain ⟨hstored, hsubject, -⟩ := find?_isAt_some (Except.ok.inj hfind)
  have hsame : p = stored :=
    List.inj_on_of_nodup_map hschema.ids_nodup hp hstored (by simpa using hid)
  exact hother (hsubject.symm.trans (hsame ▸ hcompany))

theorem renew {changed : Bool} (hfind : t.find subject key = .ok (some stored))
    (h : t.renew stored listing now = .ok (changed, after)) : t.PassesOver company after := by
  unfold Tables.renew at h
  split at h
  · obtain ⟨updated, hupdate, hresult⟩ := bind_ok h
    cases hresult
    refine found hother (Posting.keeps_seen now) hfind fun table htable => ?_
    rw [updatePostings_eq htable] at hupdate
    exact (Except.ok.inj hupdate).symm
  · obtain ⟨updated, hupdate, hresult⟩ := bind_ok h
    cases hresult
    refine found hother (Posting.keeps_withContent listing.content now) hfind fun table htable => ?_
    rw [updatePostings_eq htable] at hupdate
    exact (Except.ok.inj hupdate).symm

theorem reopen (hfind : t.find subject key = .ok (some stored))
    (h : t.reopen stored listing now = .ok after) : t.PassesOver company after :=
  found hother (Posting.keeps_reopened listing.content now) hfind fun _ htable =>
    reopen_ok htable h

theorem close {closed : Bool} (h : t.close subject key now = .ok (closed, after)) :
    t.PassesOver company after := by
  refine of_map ((Posting.keeps_closed now).ite fun p => p.isAt subject key && p.isActive)
    fun table htable _ => ⟨?_, fun p _ hcompany => if_neg fun hmeant => ?_⟩
  · rw [close_eq htable] at h
    exact (congrArg Prod.snd (Except.ok.inj h)).symm
  · rw [Bool.and_eq_true, Posting.isAt_iff] at hmeant
    exact hother (hmeant.1.1.symm.trans hcompany)

/-! ### What a transaction does -/

theorem run {action : Action} {answer : ActionAnswer}
    (h : action.run subject t = .ok (answer, after)) : t.PassesOver company after := by
  cases action with
  | find key =>
      obtain ⟨found, -, hresult⟩ := bind_ok h
      cases hresult
      exact .refl company t
  | insert listing now =>
      obtain ⟨inserted, hinsert, hresult⟩ := bind_ok h
      cases hresult
      exact insert hother (mapError_ok hinsert)
  | close key now =>
      obtain ⟨closed, hclose, hresult⟩ := bind_ok h
      cases hresult
      exact close hother (mapError_ok hclose)
  | renew listing now =>
      obtain ⟨found, hfind, hrest⟩ := bind_ok h
      cases found with
      | none => cases hrest
      | some stored =>
          obtain ⟨renewed, hrenew, hresult⟩ := bind_ok hrest
          cases hresult
          exact renew hother (mapError_ok hfind) (mapError_ok hrenew)
  | reopen listing now =>
      obtain ⟨found, hfind, hrest⟩ := bind_ok h
      cases found with
      | none => cases hrest
      | some stored =>
          obtain ⟨reopened, hreopen, hresult⟩ := bind_ok hrest
          cases hresult
          exact reopen hother (mapError_ok hfind) (mapError_ok hreopen)
  | raise message => cases h
  | malformed problems => cases h

theorem runActions (actions : List Action) :
    ∀ {t after : Tables} {answers : List ActionAnswer},
      Ledger.runActions subject actions t = .ok (answers, after) → t.PassesOver company after := by
  induction actions with
  | nil =>
      intro t after answers h
      cases h
      exact .refl company t
  | cons action actions ih =>
      intro t after answers h
      obtain ⟨first, hfirst, hrest⟩ := bind_ok h
      obtain ⟨others, hothers, hresult⟩ := bind_ok hrest
      cases hresult
      exact (run hother hfirst).trans (ih hothers)

theorem observe {trouble : Nat → Option Fault} {n : Nat} {counts : Counts}
    {result : Counts × Tables}
    (h : Ledger.observe trouble n subject now key listing counts t = .ok result) :
    t.PassesOver company result.2 := by
  obtain ⟨-, hobserved⟩ := observe_ok h
  obtain ⟨counts', after⟩ := result
  cases hobserved with
  | created _ h => exact insert hother h
  | renewed hfind _ h => exact renew hother hfind h
  | reopened hfind _ h => exact reopen hother hfind h

theorem writeDifference {trouble : Trouble} {d : Difference} {page : Page}
    {result : Counts × Tables}
    (h : Ledger.writeDifference trouble subject d page now t = .ok result) :
    t.PassesOver company result.2 :=
  writeDifference_keeps (motive := fun _ _ _ after => t.PassesOver company after) (.refl company t)
    (fun hkept hobserve => hkept.trans (observe hother hobserve))
    (fun hkept hclose => hkept.trans (close hother (attempt_ok hclose).2)) h

end

end Tables.PassesOver

/-! ### Ledgers -/

/-- Whatever postings the ledger holds, the schema stays in force and the rows of a company stay as
they are. -/
def PassesOver (company : String) (l after : Ledger) : Prop :=
  ∀ table, l.Holds table → Constrained table →
    ∃ table', after.Holds table' ∧ Constrained table' ∧
      rowsOf table'.rows company = rowsOf table.rows company

namespace PassesOver

variable {l last : Ledger}

theorem of_kept {after : Ledger} (h : l.PostingsKept after) : l.PassesOver company after :=
  fun table hholds hschema => ⟨table, hholds.of_kept h, hschema, rfl⟩

theorem trans {after : Ledger} (h : l.PassesOver company after)
    (k : after.PassesOver company last) : l.PassesOver company last := by
  intro table hholds hschema
  obtain ⟨next, hnext, hschema', hrows⟩ := h table hholds hschema
  obtain ⟨final, hfinal, hschema'', hrows'⟩ := k next hnext hschema'
  exact ⟨final, hfinal, hschema'', hrows'.trans hrows⟩

/-- A transaction passes over the rows of a company if its work does. -/
theorem transaction {ε α : Type} {work : Work ε α}
    (h : ∀ a after, work l.view = .ok (a, after) → l.view.PassesOver company after) :
    l.PassesOver company (l.transaction subject work).2 := by
  unfold Ledger.transaction
  split
  · exact of_kept (.refl l)
  · split
    · rename_i a after hwork
      intro table hholds hschema
      obtain ⟨table', htable', hschema', hrows⟩ := h a after hwork table hholds.view hschema
      exact ⟨table', ⟨htable', htable'⟩, hschema', hrows⟩
    · exact of_kept (kept_rollback l)

end PassesOver

end VacancyLedger.Ledger
