/-
What no writer can break.

A writer may do anything with the postings of a company that the four statements allow, in
any order and at any time, forwards or backwards; it need not follow a page.  Each statement
either appends a new posting or rewrites postings in place, and what it writes in place
follows what was there: the number, the company, the key and the first sighting stay, and
the last sighting is never set back.  Each also keeps a posting active exactly as long as it
has no time of closing.  So these facts hold after every statement, hence after every
transaction, and one that is rolled back leaves what was there before.
-/
import Mathlib.Data.String.Basic
import Mathlib.Logic.Relation
import VacancyLedger.Ledger.Action
import VacancyLedger.Proofs.Ledger.Apply
import VacancyLedger.Proofs.Ledger.History

namespace VacancyLedger

/-! ### One posting -/

namespace Posting

/-- What holds of a posting at any time. -/
structure IsSound (p : Posting) : Prop where
  /-- It is active exactly if it has not been closed. -/
  active_iff : p.isActive = true ↔ p.closedAt = none
  /-- It was not last seen before it was first seen. -/
  seen_le : p.firstSeen ≤ p.lastSeen

/-- Whether `q` is what became of `p`. -/
structure Follows (p q : Posting) : Prop where
  id : q.id = p.id
  place : q.place = p.place
  firstSeen : q.firstSeen = p.firstSeen
  lastSeen : p.lastSeen ≤ q.lastSeen

variable {p q r : Posting}

theorem Follows.refl (p : Posting) : p.Follows p := ⟨rfl, rfl, rfl, le_rfl⟩

theorem Follows.trans (h : p.Follows q) (k : q.Follows r) : p.Follows r :=
  ⟨k.id.trans h.id, k.place.trans h.place, k.firstSeen.trans h.firstSeen,
    h.lastSeen.trans k.lastSeen⟩

theorem le_laterText (a b : String) : a ≤ laterText a b := by
  rw [laterText_eq_max]
  exact le_max_left a b

theorem isSound_fresh (id : Nat) (company : String) (listing : Listing) (now : String) :
    (fresh id company listing now).IsSound :=
  ⟨iff_of_true rfl rfl, le_rfl⟩

/-- A change in place that keeps what is to be kept, and soundness with it. -/
structure Keeps (f : Posting → Posting) : Prop where
  follows : ∀ p : Posting, p.Follows (f p)
  isSound : ∀ {p : Posting}, p.IsSound → (f p).IsSound

theorem keeps_seen (now : String) : Keeps (·.seen now) where
  follows p := ⟨rfl, rfl, rfl, le_laterText p.lastSeen now⟩
  isSound {p} h := ⟨h.active_iff, h.seen_le.trans (le_laterText p.lastSeen now)⟩

theorem keeps_withContent (content : Content) (now : String) :
    Keeps (·.withContent content now) where
  follows p := ⟨rfl, rfl, rfl, le_laterText p.lastSeen now⟩
  isSound {p} h := ⟨h.active_iff, h.seen_le.trans (le_laterText p.lastSeen now)⟩

theorem keeps_reopened (content : Content) (now : String) : Keeps (·.reopened content now) where
  follows p := ⟨rfl, rfl, rfl, le_laterText p.lastSeen now⟩
  isSound {p} h := ⟨iff_of_true rfl rfl, h.seen_le.trans (le_laterText p.lastSeen now)⟩

theorem keeps_closed (now : String) : Keeps (·.closed now) where
  follows _ := ⟨rfl, rfl, rfl, le_rfl⟩
  isSound h := ⟨iff_of_false Bool.false_ne_true (Option.some_ne_none now), h.seen_le⟩

/-- What keeps soundness keeps it also if only some postings are changed. -/
theorem Keeps.ite {f : Posting → Posting} (h : Keeps f) (test : Posting → Bool) :
    Keeps fun p => if test p then f p else p where
  follows p := by
    split
    · exact h.follows p
    · exact .refl p
  isSound hp := by
    split
    · exact h.isSound hp
    · exact hp

end Posting

namespace Ledger

/-! ### One statement -/

/-- One statement that writes postings, in a transaction on a company.  The posting that is renewed
or reopened was looked up before; nothing is said of how. -/
inductive Edit (company : String) (t after : Tables) : Prop
  | insert {listing : Listing} {now : String} {id : Nat}
      (h : t.insert company listing now = .ok (id, after))
  | renew {stored : Posting} {listing : Listing} {now : String} {changed : Bool}
      (h : t.renew stored listing now = .ok (changed, after))
  | reopen {stored : Posting} {listing : Listing} {now : String}
      (h : t.reopen stored listing now = .ok after)
  | close {key now : String} {closed : Bool} (h : t.close company key now = .ok (closed, after))

/-- A table of postings that is as the schema and the writers have it. -/
structure Sound (table : Numbered Posting) : Prop extends Constrained table where
  isSound : ∀ p ∈ table.rows, p.IsSound

/-- Whether every posting of the one table has become a posting of the other. -/
def Numbered.Continues (table after : Numbered Posting) : Prop :=
  ∀ p ∈ table.rows, ∃ q ∈ after.rows, p.Follows q

variable {t after : Tables} {table : Numbered Posting} {company : String}

theorem Numbered.Continues.refl (table : Numbered Posting) : table.Continues table :=
  fun p hp => ⟨p, hp, .refl p⟩

theorem Numbered.Continues.trans {a b c : Numbered Posting} (h : a.Continues b)
    (k : b.Continues c) : a.Continues c := by
  intro p hp
  obtain ⟨q, hq, hpq⟩ := h p hp
  obtain ⟨r, hr, hqr⟩ := k q hq
  exact ⟨r, hr, hpq.trans hqr⟩

/-- A posting is inserted under the next number, in a place that is free. -/
theorem insert_ok {listing : Listing} {now : String} {id : Nat} (h : t.postings = some table)
    (hinsert : t.insert company listing now = .ok (id, after)) :
    id = table.lastId + 1 ∧ table.rows.any (·.isAt company listing.key) = false ∧
      after = t.withPostings
        ⟨table.rows ++ [.fresh (table.lastId + 1) company listing now], table.lastId + 1⟩ := by
  obtain ⟨table', htable, hrest⟩ := bind_ok hinsert
  obtain rfl := Option.some.inj (h.symm.trans (requireTable_ok htable))
  obtain ⟨companies, -, hchecked⟩ := bind_ok hrest
  split at hchecked
  · cases hchecked
  · rename_i hfree
    split at hchecked
    · cases hchecked
    · cases hchecked
      exact ⟨rfl, Bool.eq_false_iff.mpr hfree, rfl⟩

/-- A posting is renewed by a change of the row of its number. -/
theorem renew_ok {stored : Posting} {listing : Listing} {now : String} {changed : Bool}
    (h : t.postings = some table) (hrenew : t.renew stored listing now = .ok (changed, after)) :
    ∃ f, ((f = fun p : Posting => p.seen now) ∨
        f = fun p : Posting => p.withContent listing.content now) ∧
      after = t.withPostings
        { table with rows := table.rows.map fun q => if q.id == stored.id then f q else q } := by
  unfold Tables.renew at hrenew
  rw [updatePostings_eq h, updatePostings_eq h] at hrenew
  split at hrenew
  · cases hrenew
    exact ⟨_, Or.inl rfl, rfl⟩
  · cases hrenew
    exact ⟨_, Or.inr rfl, rfl⟩

theorem reopen_ok {stored : Posting} {listing : Listing} {now : String}
    (h : t.postings = some table) (hreopen : t.reopen stored listing now = .ok after) :
    after = t.withPostings
      { table with
        rows := table.rows.map fun q =>
          if q.id == stored.id then q.reopened listing.content now else q } := by
  unfold Tables.reopen at hreopen
  rw [updatePostings_eq h] at hreopen
  exact (Except.ok.inj hreopen).symm

theorem sound_map (h : Sound table) {f : Posting → Posting} (hf : Posting.Keeps f) :
    Sound { table with rows := table.rows.map f } where
  toConstrained :=
    constrained_map h.toConstrained (fun p => (hf.follows p).id) fun p => (hf.follows p).place
  isSound q hq := by
    obtain ⟨p, hp, rfl⟩ := List.mem_map.mp hq
    exact hf.isSound (h.isSound p hp)

theorem continues_map {f : Posting → Posting} (hf : Posting.Keeps f) :
    table.Continues { table with rows := table.rows.map f } :=
  fun p hp => ⟨f p, List.mem_map_of_mem hp, hf.follows p⟩

/-- A statement appends a posting or changes postings in place. -/
theorem Edit.cases_rows (h : t.postings = some table) (hedit : Edit company t after) :
    (∃ listing now, table.rows.any (·.isAt company listing.key) = false ∧
      after = t.withPostings
        ⟨table.rows ++ [.fresh (table.lastId + 1) company listing now], table.lastId + 1⟩) ∨
    ∃ f, Posting.Keeps f ∧ after = t.withPostings { table with rows := table.rows.map f } := by
  cases hedit with
  | insert hinsert =>
      obtain ⟨-, hfree, hafter⟩ := insert_ok h hinsert
      exact Or.inl ⟨_, _, hfree, hafter⟩
  | renew hrenew =>
      obtain ⟨f, hf, hafter⟩ := renew_ok h hrenew
      refine Or.inr ⟨_, Posting.Keeps.ite ?_ _, hafter⟩
      rcases hf with rfl | rfl
      · exact Posting.keeps_seen _
      · exact Posting.keeps_withContent _ _
  | reopen hreopen =>
      exact Or.inr ⟨_, (Posting.keeps_reopened _ _).ite _, reopen_ok h hreopen⟩
  | close hclose =>
      rw [close_eq h] at hclose
      have hafter := congrArg Prod.snd (Except.ok.inj hclose)
      exact Or.inr ⟨_, (Posting.keeps_closed _).ite _, hafter.symm⟩

/-- One statement keeps the table sound, and every posting in it. -/
theorem Edit.sound (hedit : Edit company t after) (h : t.postings = some table)
    (hsound : Sound table) :
    ∃ table', after.postings = some table' ∧ Sound table' ∧ table.Continues table' := by
  rcases hedit.cases_rows h with ⟨listing, now, hfree, rfl⟩ | ⟨f, hf, rfl⟩
  · refine ⟨_, rfl, ⟨constrained_append hsound.toConstrained rfl ?_, ?_⟩, ?_⟩
    · intro q hq hplace
      have hat : q.isAt company listing.key = true := Posting.isAt_place.mpr hplace
      exact List.any_eq_false.mp hfree q hq hat
    · intro p hp
      rcases List.mem_append.mp hp with hold | hnew
      · exact hsound.isSound p hold
      · rw [List.mem_singleton.mp hnew]
        exact Posting.isSound_fresh _ _ _ _
    · exact fun p hp => ⟨p, List.mem_append_left _ hp, .refl p⟩
  · exact ⟨_, rfl, sound_map hsound hf, continues_map hf⟩

/-! ### Transactions -/

/-- Statements that write postings, one after the other. -/
abbrev Edits (company : String) : Tables → Tables → Prop := Relation.ReflTransGen (Edit company)

theorem Edits.sound (hedits : Edits company t after) (h : t.postings = some table)
    (hsound : Sound table) :
    ∃ table', after.postings = some table' ∧ Sound table' ∧ table.Continues table' := by
  induction hedits with
  | refl => exact ⟨table, h, hsound, .refl table⟩
  | tail _ hedit ih =>
      obtain ⟨middle, hmiddle, hsound', hcontinues⟩ := ih
      obtain ⟨last, hlast, hsound'', hcontinues'⟩ := hedit.sound hmiddle hsound'
      exact ⟨last, hlast, hsound'', hcontinues.trans hcontinues'⟩

/-- A writer: a company, and what is done in a transaction on it.  Whatever it reads and however it
decides what to do next, if it succeeds it has written postings by the four statements alone. -/
structure Writer (ε α : Type) where
  company : String
  work : Work ε α
  edits : ∀ {t after : Tables} {a : α}, work t = .ok (a, after) → Edits company t after

/-- Actions write by these statements alone. -/
theorem edits_run {action : Action} {answer : ActionAnswer}
    (h : action.run company t = .ok (answer, after)) : Edits company t after := by
  cases action with
  | find key =>
      obtain ⟨found, -, hresult⟩ := bind_ok h
      cases hresult
      exact .refl
  | insert listing now =>
      obtain ⟨inserted, hinsert, hresult⟩ := bind_ok h
      cases hresult
      exact .single (.insert (mapError_ok hinsert))
  | close key now =>
      obtain ⟨closed, hclose, hresult⟩ := bind_ok h
      cases hresult
      exact .single (.close (mapError_ok hclose))
  | renew listing now =>
      obtain ⟨found, -, hrest⟩ := bind_ok h
      cases found with
      | none => cases hrest
      | some stored =>
          obtain ⟨renewed, hrenew, hresult⟩ := bind_ok hrest
          cases hresult
          exact .single (.renew (mapError_ok hrenew))
  | reopen listing now =>
      obtain ⟨found, -, hrest⟩ := bind_ok h
      cases found with
      | none => cases hrest
      | some stored =>
          obtain ⟨reopened, hreopen, hresult⟩ := bind_ok hrest
          cases hresult
          exact .single (.reopen (mapError_ok hreopen))
  | raise message => cases h
  | malformed problems => cases h

theorem edits_runActions (actions : List Action) :
    ∀ {t after : Tables} {answers : List ActionAnswer},
      runActions company actions t = .ok (answers, after) → Edits company t after := by
  induction actions with
  | nil =>
      intro t after answers h
      cases h
      exact .refl
  | cons action actions ih =>
      intro t after answers h
      obtain ⟨first, hfirst, hrest⟩ := bind_ok h
      obtain ⟨others, hothers, hresult⟩ := bind_ok hrest
      cases hresult
      exact (edits_run hfirst).trans (ih hothers)

namespace Writer

variable {ε α : Type}

/-- The writer that does actions one after the other. -/
def ofActions (company : String) (actions : List Action) :
    Writer ActionError (List ActionAnswer) where
  company
  work := runActions company actions
  edits := edits_runActions actions

/-- The ledger after the transaction of a writer, whether it was committed or rolled back. -/
def run (w : Writer ε α) (l : Ledger) : Ledger := (l.transaction w.company w.work).2

/-- The ledger after the transactions of writers, one after the other. -/
def runAll (writers : List (Writer ε α)) (l : Ledger) : Ledger :=
  writers.foldl (fun l w => w.run l) l

variable {l : Ledger}

/-- A transaction keeps the table sound, and every posting in it. -/
theorem run_sound (w : Writer ε α) (hholds : l.Holds table) (hsound : Sound table) :
    ∃ table', (w.run l).Holds table' ∧ Sound table' ∧ table.Continues table' := by
  unfold run transaction
  split
  · exact ⟨table, hholds, hsound, .refl table⟩
  · split
    · rename_i answer tables hwork
      obtain ⟨table', htable, hsound', hcontinues⟩ := (w.edits hwork).sound hholds.view hsound
      exact ⟨table', ⟨htable, htable⟩, hsound', hcontinues⟩
    · exact ⟨table, hholds.of_kept (kept_rollback l), hsound, .refl table⟩

theorem runAll_sound (writers : List (Writer ε α)) :
    ∀ {l : Ledger} {table : Numbered Posting}, l.Holds table → Sound table →
      ∃ table', (runAll writers l).Holds table' ∧ Sound table' := by
  induction writers with
  | nil => exact fun hholds hsound => ⟨_, hholds, hsound⟩
  | cons w writers ih =>
      intro l table hholds hsound
      obtain ⟨next, hnext, hsound', -⟩ := w.run_sound hholds hsound
      exact ih hnext hsound'

end Writer

/-! ### The postings whatever was written -/

variable {ε α : Type}

/--
**No writer breaks what holds of the postings.**  After any transactions, committed or rolled
back, no number and no place is taken twice, a posting is active exactly if it is not closed,
and it was not last seen before it was first seen.  One more transaction loses no posting,
keeps its number, its company, its key and its first sighting, and never sets its last
sighting back.
-/
theorem transactions_keep_rows {l : Ledger} {table : Numbered Posting} (hholds : l.Holds table)
    (hsound : Sound table) (writers : List (Writer ε α)) :
    ∃ rows, (Writer.runAll writers l).Holds rows ∧
      (rows.rows.map fun p => (p.company, p.key)).Nodup ∧ (rows.rows.map (·.id)).Nodup ∧
      (∀ p ∈ rows.rows, (p.isActive = true ↔ p.closedAt = none) ∧ p.firstSeen ≤ p.lastSeen) ∧
      ∀ w : Writer ε α, ∃ next, (w.run (Writer.runAll writers l)).Holds next ∧
        ∀ p ∈ rows.rows, ∃ q ∈ next.rows, q.id = p.id ∧ q.company = p.company ∧ q.key = p.key ∧
          q.firstSeen = p.firstSeen ∧ p.lastSeen ≤ q.lastSeen := by
  obtain ⟨rows, hrows, hkept⟩ := Writer.runAll_sound writers hholds hsound
  refine ⟨rows, hrows, hkept.places_nodup, hkept.ids_nodup, fun p hp => ?_, fun w => ?_⟩
  · exact ⟨(hkept.isSound p hp).active_iff, (hkept.isSound p hp).seen_le⟩
  · obtain ⟨next, hnext, -, hcontinues⟩ := w.run_sound hrows hkept
    refine ⟨next, hnext, fun p hp => ?_⟩
    obtain ⟨q, hq, hfollows⟩ := hcontinues p hp
    exact ⟨q, hq, hfollows.id, congrArg Prod.fst hfollows.place, congrArg Prod.snd hfollows.place,
      hfollows.firstSeen, hfollows.lastSeen⟩

theorem sound_sampleTable : Sound sampleTable := by
  refine ⟨⟨by decide, by decide, by decide⟩, fun p hp => ?_⟩
  simp only [sampleTable, List.mem_cons, List.not_mem_nil, or_false] at hp
  rcases hp with rfl | rfl | rfl
  · exact ⟨iff_of_true rfl rfl, by decide⟩
  · exact Posting.isSound_fresh _ _ _ _
  · exact (Posting.keeps_closed _).isSound (Posting.isSound_fresh _ _ _ _)

/-- A writer that reopens a posting, closes another and then renews it, all with the clock set
back; and one that is rolled back. -/
def sampleWriters : List (Writer ActionError (List ActionAnswer)) :=
  [.ofActions "acme"
    [.reopen (bareListing "b" "Nurse") "2026-01-01", .close "a" "2026-01-01",
      .renew (bareListing "a" "Chef") "2026-01-01"],
   .ofActions "zeta" [.insert (bareListing "c" "Pilot") "2026-01-02", .raise "stop"]]

/-- What those writers leave of three postings. -/
theorem transactions_keep_rows_set_back :
    ∃ rows, (Writer.runAll sampleWriters sampleLedger).Holds rows ∧
      rows.rows.map (fun p => (p.id, p.isActive, p.lastSeen, p.closedAt)) =
        [(1, false, "2026-01-09", some "2026-01-01"), (2, true, "2026-01-03", none),
          (5, true, "2026-01-04", none)] ∧
      (rows.rows.map fun p => (p.company, p.key)).Nodup ∧
      ∀ p ∈ rows.rows, (p.isActive = true ↔ p.closedAt = none) ∧ p.firstSeen ≤ p.lastSeen := by
  obtain ⟨rows, hrows, hplaces, -, hsound, -⟩ :=
    transactions_keep_rows (l := sampleLedger) ⟨rfl, rfl⟩ sound_sampleTable sampleWriters
  have hsame : (Writer.runAll sampleWriters sampleLedger).committed.postings = some rows :=
    hrows.committed
  refine ⟨rows, hrows, ?_, hplaces, hsound⟩
  obtain rfl := Option.some.inj hsame.symm
  rfl

end Ledger
end VacancyLedger
