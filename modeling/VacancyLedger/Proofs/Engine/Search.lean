/-
What a search of an engine answers.

A posting matches a request if it has the company that is asked for, is active or not as is
asked for, was last seen since the time that is asked for, and is found by the query; what is
not asked for, or is asked for by an empty text, makes no difference.  A search answers the
first of all committed postings that match, by rank.
-/
import VacancyLedger.Engine.Search
import VacancyLedger.Proofs.Ledger.Search

namespace VacancyLedger

/-- Whether a posting is one that is searched for, the query and the time having been read. -/
structure SearchRequest.Matches (r : SearchRequest) (query : Query) (time : Option String)
    (p : Posting) : Prop where
  company : ∀ company, r.company = some company → company = "" ∨ p.company = company
  active : ∀ active, r.active = some active → p.isActive = active
  seen : ∀ since, time = some since → since = "" ∨ since ≤ p.lastSeen
  found : query.accepts p.content.title p.content.plain = true

namespace Engine

variable {φ : Type}

/-- What is asked for by an empty text is not asked for. -/
theorem all_filter_iff {wanted : Option String} {test : String → Bool} :
    (wanted.filter (!·.isEmpty)).all test = true ↔
      ∀ text, wanted = some text → text = "" ∨ test text = true := by
  cases wanted with
  | none => simp
  | some text =>
      by_cases hempty : text = ""
      · simp [hempty]
      · simp [Option.filter, hempty]

theorem accepts_iff {company : Option String} {active : Option Bool} {time : Option String}
    {p : Posting} : (Ledger.Filter.mk company active time).accepts p = true ↔
      (∀ name, company = some name → name = "" ∨ p.company = name) ∧
        (∀ flag, active = some flag → p.isActive = flag) ∧
          ∀ since, time = some since → since = "" ∨ since ≤ p.lastSeen := by
  rw [Ledger.Filter.accepts, Bool.and_eq_true, Bool.and_eq_true, all_filter_iff, all_filter_iff,
    and_assoc]
  have hactive : active.all (· == p.isActive) = true ↔
      ∀ flag, active = some flag → p.isActive = flag := by
    cases active with
    | none => simp
    | some flag => simp [@eq_comm _ p.isActive]
  rw [hactive]
  simp only [beq_iff_eq, decide_eq_true_eq, @eq_comm _ p.company]

theorem matches_iff {r : SearchRequest} {query : Query} {time : Option String} {p : Posting} :
    r.Matches query time p ↔
      ((Ledger.Filter.mk r.company r.active time).accepts p && p.isFoundBy query) = true := by
  rw [Bool.and_eq_true, accepts_iff]
  exact ⟨fun h => ⟨⟨h.company, h.active, h.seen⟩, h.found⟩,
    fun h => ⟨h.1.1, h.1.2.1, h.1.2.2, h.2⟩⟩

instance (r : SearchRequest) (query : Query) (time : Option String) (p : Posting) :
    Decidable (r.Matches query time p) :=
  decidable_of_iff' _ matches_iff

theorem filter_matches (r : SearchRequest) (query : Query) (time : Option String)
    (rows : List Posting) : (rows.filter fun p => r.Matches query time p) =
      rows.filter fun p =>
        (Ledger.Filter.mk r.company r.active time).accepts p && p.isFoundBy query := by
  congr 1
  funext p
  rw [Bool.eq_iff_iff, decide_eq_true_iff, matches_iff]

/-- **A search answers the first postings, by rank, of all those that match.**  A query that cannot
be read is complained of whatever else is asked and whatever the ledger holds. -/
theorem search_shows (e : Engine φ) (r : SearchRequest) (since : Option Time.Since) :
    (∀ fault, Query.parse (r.query.getD "") = .error fault →
      e.searchSince r since = .error (.query fault)) ∧
    ∀ found, e.searchSince r since = .ok found ↔
      ∃ query time rows, Query.parse (r.query.getD "") = .ok query ∧
        Time.Since.resolve? since = .ok time ∧ 1 ≤ r.limit.getD e.searchLimit ∧
        e.ledger.committedPostings = .ok rows ∧
        Ledger.Shows (rows.filter fun p => r.Matches query time p)
          (r.limit.getD e.searchLimit).toNat found := by
  constructor
  · intro fault hfault
    simp [searchSince, hfault, bind, Except.bind]
  · intro found
    constructor
    · intro h
      obtain ⟨query, hquery, h⟩ := bind_ok h
      obtain ⟨time, htime, h⟩ := bind_ok h
      dsimp only at h
      split at h
      · cases h
      · rename_i hlimit
        obtain ⟨rows, hrows, rfl⟩ := (Ledger.search_ok_iff (by omega)).mp (mapError_ok h)
        refine ⟨query, time, rows, mapError_ok hquery, mapError_ok htime, by omega, hrows, ?_⟩
        rw [filter_matches]
        exact Ledger.shows_take _ _
    · rintro ⟨query, time, rows, hquery, htime, hlimit, hrows, hshows⟩
      have hfound := hshows.eq_take
      rw [filter_matches] at hfound
      have hsearch := (Ledger.search_ok_iff hlimit).mpr ⟨rows, hrows, hfound⟩
      have hnot : ¬r.limit.getD e.searchLimit < 1 := by omega
      simp [searchSince, hquery, htime, hnot, hsearch, bind, Except.bind]

/-- A posting that was last seen at a time, and was closed then if it is closed. -/
def seenPosting (id : Nat) (isActive : Bool) (lastSeen : String) : Posting where
  id
  company := "acme"
  key := toString id
  content := ⟨"Nurse", "", none, "", "", "", ""⟩
  isActive
  firstSeen := "2026-01-01"
  lastSeen
  closedAt := if isActive then none else some lastSeen

/-- Three postings, two of which were last seen on one day. -/
def seenPostings : List Posting :=
  [seenPosting 1 true "2026-01-03", seenPosting 2 true "2026-01-02",
    seenPosting 3 false "2026-01-03"]

/-- An engine whose ledger holds the three postings. -/
def searchedEngine : Engine Unit :=
  { Engine.start ⟨0⟩ 100 () with
    ledger := ⟨⟨some [], some ⟨seenPostings, 3⟩, some .empty⟩, none, true⟩ }

/-- The closed posting ranks first, but it does not match and does not count; a query that cannot be
read is complained of before the limit. -/
theorem search_shows_active :
    Query.parse "(" = .error ⟨.emptyGroup, 0⟩ ∧
      searchedEngine.searchSince ⟨none, some "(", none, none, some 0⟩ none =
        .error (.query ⟨.emptyGroup, 0⟩) ∧
      searchedEngine.searchSince ⟨some "acme", none, some true, none, some 1⟩ none =
        .ok [seenPosting 1 true "2026-01-03"] := by
  have hparse : Query.parse "(" = .error ⟨.emptyGroup, 0⟩ := rfl
  refine ⟨hparse, (search_shows searchedEngine _ none).1 _ hparse, ?_⟩
  refine ((search_shows searchedEngine _ none).2 _).mpr
    ⟨⟨none, []⟩, none, seenPostings, rfl, rfl, by decide, rfl, ?_⟩
  have hmatching : (seenPostings.filter fun p =>
      (SearchRequest.mk (some "acme") none (some true) none (some 1)).Matches ⟨none, []⟩ none p) =
        [seenPosting 1 true "2026-01-03", seenPosting 2 true "2026-01-02"] := by
    decide
  have hsorted : [seenPosting 1 true "2026-01-03", seenPosting 2 true "2026-01-02"].mergeSort
      Ledger.showsBefore =
        [seenPosting 1 true "2026-01-03", seenPosting 2 true "2026-01-02"] :=
    List.mergeSort_of_pairwise (by decide)
  have hshows := Ledger.shows_take
    [seenPosting 1 true "2026-01-03", seenPosting 2 true "2026-01-02"] 1
  rw [hsorted] at hshows
  rw [hmatching]
  exact hshows

end Engine
end VacancyLedger
