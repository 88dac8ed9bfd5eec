/-
What a page makes of the postings, posting by posting.

`apply` is a loop of statements: look a key up, then insert, reopen or renew its posting,
then close the postings of the keys that are gone.  Here the same is said without a loop:
what becomes of a posting depends on the posting and on the page alone, and the postings of
newcomers stand at the end, numbered in the order of the page.

That the two agree is shown listing by listing.  Taking in a page of one listing is one
round of the loop, and taking in a longer page is taking in its first listing and then, from
the postings this leaves behind, the rest; so an induction on the page does it.  Nothing is
assumed of the difference: keys may be in several of its sets or in none that fits.
-/
import Mathlib.Data.String.Basic
import VacancyLedger.Ledger.Apply
import VacancyLedger.Metrics
import VacancyLedger.Proofs.Ledger.Postings
import VacancyLedger.Proofs.Listing.Page

namespace VacancyLedger

/-! ### What becomes of one posting -/

namespace Posting

/-- Whether other content was seen than is stored, the plain text not being looked at. -/
def differs (p : Posting) (listing : Listing) : Bool :=
  decide ({ p.content with plain := listing.content.plain } ≠ listing.content)

/-- A posting after a listing of it was seen. -/
def sighted (p : Posting) (listing : Listing) (now : String) : Posting :=
  if p.isActive then
    { p with
      lastSeen := max p.lastSeen now
      content := if p.differs listing then listing.content else p.content }
  else
    { p with
      isActive := true
      closedAt := none
      lastSeen := max p.lastSeen now
      content := listing.content }

/-- The listing of a posting among those seen on the page of a company. -/
def listing? (p : Posting) (company : String) (seen : Page) : Option Listing :=
  if p.company = company then Table.get? seen p.key else none

/-- A posting after the listings on the page of a company were seen. -/
def walked (p : Posting) (company : String) (seen : Page) (now : String) : Posting :=
  match p.listing? company seen with
  | some listing => p.sighted listing now
  | none => p

/-- Whether a posting of a company is active and among those to be closed. -/
def isLeaving (p : Posting) (company : String) (gone : List String) : Bool :=
  p.isActive && decide (p.company = company ∧ p.key ∈ gone)

/-- A posting after the keys that are gone were closed. -/
def swept (p : Posting) (company : String) (gone : List String) (now : String) : Posting :=
  if p.isLeaving company gone then { p with isActive := false, closedAt := some now } else p

end Posting

namespace Ledger

/-! ### What becomes of all of them -/

/-- The listings seen that the company has no posting of, in the order of the page. -/
def newcomers (rows : List Posting) (company : String) (seen : Page) : List Listing :=
  (seen.filter fun (key, _) => !rows.any (·.isAt company key)).map (·.2)

/-- The postings of newcomers, numbered from the last number on. -/
def freshRows (lastId : Nat) (company now : String) : List Listing → List Posting
  | [] => []
  | listing :: rest =>
    .fresh (lastId + 1) company listing now :: freshRows (lastId + 1) company now rest

/-- The postings after the listings on the page of a company were seen. -/
def Numbered.walked (table : Numbered Posting) (company : String) (seen : Page) (now : String) :
    Numbered Posting where
  rows := table.rows.map (·.walked company seen now) ++
    freshRows table.lastId company now (newcomers table.rows company seen)
  lastId := table.lastId + (newcomers table.rows company seen).length

/-- The postings after the keys that are gone were closed. -/
def Numbered.swept (table : Numbered Posting) (company : String) (gone : List String)
    (now : String) : Numbered Posting :=
  { table with rows := table.rows.map (·.swept company gone now) }

/-- The postings after a page of a company was applied. -/
def Numbered.settled (table : Numbered Posting) (company : String) (d : Difference) (page : Page)
    (now : String) : Numbered Posting :=
  (table.walked company (seenListings d page) now).swept company d.close now

/-- How many postings have a listing among those seen and pass a test with it. -/
def tally (rows : List Posting) (company : String) (seen : Page)
    (test : Posting → Listing → Bool) : Nat :=
  rows.countP fun p => (p.listing? company seen).any (test p)

/-- What taking in the listings seen counts. -/
def walkedCounts (rows : List Posting) (company : String) (seen : Page) : Counts where
  created := (newcomers rows company seen).length
  renewed := tally rows company seen fun p _ => p.isActive
  reopened := tally rows company seen fun p _ => !p.isActive
  updated := tally rows company seen fun p listing => p.isActive && p.differs listing
  closed := 0

/-- What applying a page counts. -/
def settledCounts (table : Numbered Posting) (company : String) (d : Difference) (page : Page)
    (now : String) : Counts :=
  { walkedCounts table.rows company (seenListings d page) with
    closed := (table.walked company (seenListings d page) now).rows.countP
      (·.isLeaving company d.close) }

end Ledger

/-! ### Postings and listings -/

theorem Counts.add_assoc (a b c : Counts) : (a.add b).add c = a.add (b.add c) := by
  simp [Counts.add, Int.add_assoc]

theorem Counts.add_zero (a : Counts) : a.add .zero = a := by
  simp [Counts.add, Counts.zero]

theorem laterText_eq_max (a b : String) : laterText a b = max a b := by
  unfold laterText
  rcases lt_or_ge a b with h | h
  · rw [if_pos h, max_eq_right (le_of_lt h)]
  · rw [if_neg (not_lt.mpr h), max_eq_left h]

namespace Posting

variable {p : Posting} {company key now : String} {listing : Listing} {seen : Page}

theorem differs_eq (p : Posting) (listing : Listing) :
    p.differs listing = !p.content.agrees listing.content := by
  unfold differs Content.agrees
  rw [Bool.eq_iff_iff]
  cases p.content
  cases listing.content
  simp [or_assoc]

@[simp] theorem sighted_id : (p.sighted listing now).id = p.id := by
  unfold sighted; split <;> rfl

@[simp] theorem sighted_place : (p.sighted listing now).place = p.place := by
  unfold sighted; split <;> rfl

theorem listing?_nil : p.listing? company [] = none := by
  unfold listing?
  split <;> rfl

/-- The listing of a posting is the first one if that is in its place. -/
theorem listing?_cons :
    p.listing? company ((key, listing) :: seen) =
      if p.isAt company key then some listing else p.listing? company seen := by
  unfold listing?
  by_cases hc : p.company = company
  · by_cases hk : p.key = key
    · simp [isAt, hc, hk, Table.get?_cons_self]
    · simp [isAt, hc, hk, Table.get?_cons_of_ne]
  · simp [isAt, hc]

theorem listing?_singleton :
    p.listing? company [(key, listing)] = if p.isAt company key then some listing else none := by
  rw [listing?_cons, listing?_nil]

/-- A posting in the place of a key that was not seen has no listing. -/
theorem listing?_eq_none (h : key ∉ Table.keys seen) (hat : p.isAt company key = true) :
    p.listing? company seen = none := by
  unfold listing?
  split
  · rw [(isAt_iff.mp hat).2, Table.get?_eq_none_iff]
    exact h
  · rfl

theorem walked_eq_self (h : p.listing? company seen = none) : p.walked company seen now = p := by
  unfold walked
  rw [h]

theorem walked_id : (p.walked company seen now).id = p.id := by
  unfold walked; split <;> simp

@[simp] theorem walked_place : (p.walked company seen now).place = p.place := by
  unfold walked; split <;> simp

@[simp] theorem isAt_walked {c : String} :
    (p.walked company seen now).isAt c key = p.isAt c key := by
  rw [Bool.eq_iff_iff, isAt_place, isAt_place, walked_place]

theorem walked_singleton :
    p.walked company [(key, listing)] now =
      if p.isAt company key then p.sighted listing now else p := by
  unfold walked
  rw [listing?_singleton]
  split <;> simp_all

/-- A page is taken in listing by listing. -/
theorem walked_cons (h : key ∉ Table.keys seen) :
    p.walked company ((key, listing) :: seen) now =
      (p.walked company [(key, listing)] now).walked company seen now := by
  by_cases hat : p.isAt company key = true
  · have hnone : (p.walked company [(key, listing)] now).listing? company seen = none :=
      listing?_eq_none h (by rw [isAt_walked]; exact hat)
    rw [walked_eq_self hnone, walked_singleton, if_pos hat]
    unfold walked
    rw [listing?_cons, if_pos hat]
  · rw [walked_singleton, if_neg hat]
    unfold walked
    rw [listing?_cons, if_neg hat]

@[simp] theorem swept_id {gone : List String} : (p.swept company gone now).id = p.id := by
  unfold swept; split <;> rfl

@[simp] theorem swept_place {gone : List String} :
    (p.swept company gone now).place = p.place := by
  unfold swept; split <;> rfl

end Posting

namespace Ledger

variable {rows : List Posting} {table : Numbered Posting} {company key now : String}
  {listing : Listing} {seen : Page}

/-! ### Newcomers -/

theorem mem_freshRows {listings : List Listing} {p : Posting} :
    ∀ {lastId : Nat}, p ∈ freshRows lastId company now listings →
      ∃ id, ∃ listing ∈ listings, p = .fresh id company listing now := by
  induction listings with
  | nil => intro lastId h; cases h
  | cons first rest ih =>
      intro lastId h
      rcases List.mem_cons.mp h with rfl | hrest
      · exact ⟨lastId + 1, first, List.mem_cons_self, rfl⟩
      · obtain ⟨id, listing, hin, rfl⟩ := ih hrest
        exact ⟨id, listing, List.mem_cons_of_mem _ hin, rfl⟩

theorem exists_freshRow (company now : String) {listings : List Listing}
    (h : listing ∈ listings) :
    ∀ lastId : Nat, ∃ id, Posting.fresh id company listing now ∈
      freshRows lastId company now listings := by
  induction listings with
  | nil => cases h
  | cons first rest ih =>
      intro lastId
      rcases List.mem_cons.mp h with rfl | hrest
      · exact ⟨lastId + 1, List.mem_cons_self⟩
      · obtain ⟨id, hin⟩ := ih hrest (lastId + 1)
        exact ⟨id, List.mem_cons_of_mem _ hin⟩

/-- The newcomers are the listings of a page in whose place there is no posting. -/
theorem mem_newcomers (hseen : seen.Maps) :
    listing ∈ newcomers rows company seen ↔
      (listing.key, listing) ∈ seen ∧ ∀ p ∈ rows, p.isAt company listing.key = false := by
  unfold newcomers
  rw [List.mem_map]
  constructor
  · rintro ⟨⟨key, found⟩, hin, rfl⟩
    obtain ⟨hpair, hfree⟩ := List.mem_filter.mp hin
    obtain rfl : found.key = key := hseen.own_key _ hpair
    simp only [Bool.not_eq_true', List.any_eq_false] at hfree
    exact ⟨hpair, fun p hp => Bool.eq_false_iff.mpr (hfree p hp)⟩
  · rintro ⟨hpair, hfree⟩
    refine ⟨_, List.mem_filter.mpr ⟨hpair, ?_⟩, rfl⟩
    simp only [Bool.not_eq_true', List.any_eq_false]
    intro p hp
    rw [hfree p hp]
    exact Bool.false_ne_true

theorem freshRows_append (company now : String) (first rest : List Listing) :
    ∀ lastId : Nat, freshRows lastId company now (first ++ rest) =
      freshRows lastId company now first ++
        freshRows (lastId + first.length) company now rest := by
  induction first with
  | nil => intro lastId; rfl
  | cons listing first ih =>
      intro lastId
      rw [List.cons_append, freshRows, freshRows, ih (lastId + 1), List.cons_append,
        List.length_cons, show lastId + 1 + first.length = lastId + (first.length + 1) by omega]

/-! ### Taking in a page listing by listing -/

theorem newcomers_singleton (rows : List Posting) (company key : String) (listing : Listing) :
    newcomers rows company [(key, listing)] =
      if rows.any (·.isAt company key) then [] else [listing] := by
  unfold newcomers
  by_cases h : rows.any (·.isAt company key) = true
  · simp [h]
  · simp [h]

/-- The rows after a page of one listing. -/
theorem walked_singleton_rows (table : Numbered Posting) (company key now : String)
    (listing : Listing) :
    (table.walked company [(key, listing)] now).rows =
      table.rows.map (·.walked company [(key, listing)] now) ++
        if table.rows.any (·.isAt company key) then []
        else [.fresh (table.lastId + 1) company listing now] := by
  unfold Numbered.walked
  rw [newcomers_singleton]
  split <;> rfl

/-- One listing brings nothing into the place of another key. -/
theorem any_isAt_walked (hown : listing.key = key) {other : String} (hne : other ≠ key) :
    (table.walked company [(key, listing)] now).rows.any (·.isAt company other) =
      table.rows.any (·.isAt company other) := by
  have hfresh : (Posting.fresh (table.lastId + 1) company listing now).isAt company other
      = false := by
    simp [Posting.isAt, Posting.fresh, hown, hne.symm]
  rw [walked_singleton_rows, List.any_append, List.any_map]
  have hmap : ((·.isAt company other) ∘ (·.walked company [(key, listing)] now))
      = fun p : Posting => p.isAt company other := by
    funext p
    simp
  rw [hmap]
  split <;> simp [hfresh]

theorem newcomers_cons (table : Numbered Posting) (company now : String)
    (hown : listing.key = key) (hnew : key ∉ Table.keys seen) :
    newcomers table.rows company ((key, listing) :: seen) =
      newcomers table.rows company [(key, listing)] ++
        newcomers (table.walked company [(key, listing)] now).rows company seen := by
  have hrest : ∀ entry ∈ seen,
      (!(table.walked company [(key, listing)] now).rows.any (·.isAt company entry.1))
        = !table.rows.any (·.isAt company entry.1) := by
    intro entry hentry
    have hne : entry.1 ≠ key := fun h =>
      hnew (h ▸ Table.mem_keys.mpr ⟨entry.2, hentry⟩)
    rw [any_isAt_walked hown hne]
  rw [newcomers_singleton]
  unfold newcomers
  rw [List.filter_congr hrest]
  by_cases h : table.rows.any (·.isAt company key) = true
  · simp [h]
  · simp [h]

theorem walked_cons (hown : listing.key = key) (hnew : key ∉ Table.keys seen) :
    table.walked company ((key, listing) :: seen) now =
      (table.walked company [(key, listing)] now).walked company seen now := by
  -- A newcomer stands in the place of its key, which the rest of the page does not list.
  have hfresh : (freshRows table.lastId company now
        (newcomers table.rows company [(key, listing)])).map (·.walked company seen now)
      = freshRows table.lastId company now (newcomers table.rows company [(key, listing)]) := by
    rw [newcomers_singleton]
    split
    · rfl
    · have hat : (Posting.fresh (table.lastId + 1) company listing now).isAt company key
          = true := by
        simp [Posting.isAt, Posting.fresh, hown]
      simp only [freshRows, List.map_cons, List.map_nil]
      rw [Posting.walked_eq_self (Posting.listing?_eq_none hnew hat)]
  have hrows : table.rows.map (·.walked company ((key, listing) :: seen) now)
      = (table.rows.map (·.walked company [(key, listing)] now)).map
          (·.walked company seen now) := by
    rw [List.map_map]
    exact List.map_congr_left fun p _ => Posting.walked_cons hnew
  have hnewcomers := newcomers_cons table company now hown hnew
  unfold Numbered.walked at hnewcomers ⊢
  rw [hnewcomers]
  simp only [List.map_append, hrows, hfresh, freshRows_append, List.length_append,
    List.append_assoc, Nat.add_assoc]

/-! ### Counting listing by listing -/

theorem tally_nil (rows : List Posting) (company : String) (test : Posting → Listing → Bool) :
    tally rows company [] test = 0 := by
  unfold tally
  rw [List.countP_eq_zero]
  intro p _
  rw [Posting.listing?_nil]
  simp

/-- Of one listing there is at most one posting to count. -/
theorem tally_singleton (h : (rows.map (·.place)).Nodup) (company key : String)
    (listing : Listing) (test : Posting → Listing → Bool) :
    tally rows company [(key, listing)] test =
      if rows.any (fun p => test p listing && p.isAt company key) then 1 else 0 := by
  rw [← countP_isAt company key h]
  unfold tally
  refine List.countP_congr fun p _ => ?_
  rw [Posting.listing?_singleton]
  split <;> simp_all

/-- Counting over two kinds of rows that exclude each other. -/
theorem countP_or {p q r : Posting → Bool} (hor : ∀ x ∈ rows, p x = (q x || r x))
    (hnot : ∀ x ∈ rows, ¬ (q x = true ∧ r x = true)) :
    rows.countP p = rows.countP q + rows.countP r := by
  induction rows with
  | nil => rfl
  | cons x rest ih =>
      have hx := hor x List.mem_cons_self
      have hn := hnot x List.mem_cons_self
      have hrest := ih (fun y hy => hor y (List.mem_cons_of_mem _ hy))
        (fun y hy => hnot y (List.mem_cons_of_mem _ hy))
      simp only [List.countP_cons, hrest, hx]
      cases hq : q x <;> cases hr : r x <;> simp_all <;> omega

theorem tally_cons (table : Numbered Posting) (company now : String)
    (hown : listing.key = key) (hnew : key ∉ Table.keys seen)
    (test : Posting → Listing → Bool) :
    tally table.rows company ((key, listing) :: seen) test =
      tally table.rows company [(key, listing)] test +
        tally (table.walked company [(key, listing)] now).rows company seen test := by
  have hfresh : tally (if table.rows.any (·.isAt company key) then []
      else [.fresh (table.lastId + 1) company listing now]) company seen test = 0 := by
    have hat : (Posting.fresh (table.lastId + 1) company listing now).isAt company key
        = true := by
      simp [Posting.isAt, Posting.fresh, hown]
    split <;> simp [tally, Posting.listing?_eq_none hnew hat]
  -- What one listing does to a posting is not seen in the place of another key.
  have hmap : tally (table.rows.map (·.walked company [(key, listing)] now)) company seen test
      = table.rows.countP fun p =>
          !p.isAt company key && (p.listing? company seen).any (test p) := by
    unfold tally
    rw [List.countP_map]
    refine List.countP_congr fun p _ => ?_
    by_cases hat : p.isAt company key = true
    · have hnone : (p.walked company [(key, listing)] now).listing? company seen = none :=
        Posting.listing?_eq_none hnew (by rw [Posting.isAt_walked]; exact hat)
      simp [Function.comp_apply, hnone, hat]
    · simp [Function.comp_apply, Posting.walked_singleton, hat]
  have hone : tally table.rows company [(key, listing)] test
      = table.rows.countP fun p => p.isAt company key && test p listing := by
    unfold tally
    refine List.countP_congr fun p _ => ?_
    rw [Posting.listing?_singleton]
    split <;> simp_all
  rw [walked_singleton_rows]
  unfold tally at hfresh hmap hone ⊢
  rw [List.countP_append, hfresh, hmap, hone, Nat.add_zero]
  refine countP_or (fun p _ => ?_) (fun p _ => ?_)
  · rw [Posting.listing?_cons]
    by_cases hat : p.isAt company key = true <;> simp [hat]
  · by_cases hat : p.isAt company key = true <;> simp [hat]

theorem walkedCounts_cons (hown : listing.key = key) (hnew : key ∉ Table.keys seen) :
    walkedCounts table.rows company ((key, listing) :: seen) =
      (walkedCounts table.rows company [(key, listing)]).add
        (walkedCounts (table.walked company [(key, listing)] now).rows company seen) := by
  have hcreated := congrArg List.length
    (newcomers_cons table company now hown hnew)
  rw [List.length_append] at hcreated
  have htally := tally_cons table company now hown hnew
  unfold walkedCounts Counts.add
  simp only [hcreated, htally, Int.natCast_add, Int.add_zero]

end Ledger
end VacancyLedger
