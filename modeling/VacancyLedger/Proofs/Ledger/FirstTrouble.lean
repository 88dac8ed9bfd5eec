/-
Which trouble a transaction fails by.

Where the tables and the company are there, no statement of applying a page fails of itself.
So what the transaction comes to is settled by the trouble alone: it fails by the first that
there is at one of its statements or at the commit, and if there is none, and the schema holds,
it settles the page.  How far it had got by then makes no difference, for nothing of it is left.
-/
import VacancyLedger.Proofs.Ledger.Apply

namespace VacancyLedger.Ledger

/-- The first trouble at the `count` statements from statement `n` on. -/
def firstTrouble (trouble : Nat → Option Fault) : Nat → Nat → Option Fault
  | _, 0 => none
  | n, count + 1 => (trouble n).or (firstTrouble trouble (n + 1) count)

/-- What a transaction of `count` statements fails by. -/
def Trouble.first (trouble : Trouble) (count : Nat) : Option Fault :=
  (firstTrouble trouble.writing 0 count).or trouble.committing

theorem firstTrouble_add (trouble : Nat → Option Fault) (a b : Nat) :
    ∀ n : Nat, firstTrouble trouble n (a + b) =
      (firstTrouble trouble n a).or (firstTrouble trouble (n + a) b) := by
  induction a with
  | zero => intro n; simp [firstTrouble]
  | succ a ih =>
      intro n
      rw [Nat.succ_add, firstTrouble, firstTrouble, ih, Option.or_assoc,
        show n + 1 + a = n + (a + 1) by omega]

theorem firstTrouble_eq_none {trouble : Nat → Option Fault} {count : Nat} :
    ∀ {n : Nat}, (∀ m < n + count, trouble m = none) → firstTrouble trouble n count = none := by
  induction count with
  | zero => exact fun _ => rfl
  | succ count ih =>
      intro n h
      rw [firstTrouble, h n (by omega), Option.none_or]
      exact ih fun m hm => h m (by omega)

/-- A transaction that there is no trouble with at any statement nor at the commit is spared. -/
theorem first_eq_none {trouble : Trouble} {count : Nat}
    (hwriting : ∀ n < count, trouble.writing n = none)
    (hcommitting : trouble.committing = none) : trouble.first count = none := by
  unfold Trouble.first
  rw [hcommitting, Option.or_none]
  exact firstTrouble_eq_none fun m hm => hwriting m (by omega)

/-- Where there is no trouble there is no first. -/
theorem first_none (count : Nat) : Trouble.none.first count = none :=
  first_eq_none (fun _ _ => rfl) rfl

/-- The first trouble is the only one there is. -/
theorem firstTrouble_eq_some {trouble : Nat → Option Fault} {fault : Fault} {n count : Nat}
    (hn : n < count) (hfault : trouble n = some fault) (hothers : ∀ m ≠ n, trouble m = none) :
    firstTrouble trouble 0 count = some fault := by
  obtain ⟨rest, rfl⟩ : ∃ rest, count = n + (rest + 1) := ⟨count - n - 1, by omega⟩
  have hbefore : firstTrouble trouble 0 n = none :=
    firstTrouble_eq_none fun m hm => hothers m (by omega)
  rw [firstTrouble_add, hbefore, Option.none_or, Nat.zero_add, firstTrouble, hfault,
    Option.some_or]

/-- A transaction of which nothing but one statement is refused fails by that. -/
theorem first_refusing {n count : Nat} (hn : n < count) (complaint : Text.Unencodable) :
    (Trouble.none.refusing n complaint).first count = some (.unencodable complaint) := by
  have hrefused : (Trouble.none.refusing n complaint).writing n = some (.unencodable complaint) := by
    simp [Trouble.refusing, Trouble.none]
  have hothers : ∀ m ≠ n, (Trouble.none.refusing n complaint).writing m = none := by
    intro m hm
    simp [Trouble.refusing, Trouble.none, hm]
  unfold Trouble.first
  rw [firstTrouble_eq_some hn hrefused hothers]
  rfl

variable {trouble : Nat → Option Fault} {table : Numbered Posting} {company now : String}
  {t : Tables} {companies : List Company} {fault : Fault}

/-! ### Taking in a page -/

theorem observe_first {key : String} {listing : Listing} {n : Nat}
    (h : t.postings = some table) (hfault : (trouble n).or (trouble (n + 1)) = some fault)
    (counts : Counts) :
    observe trouble n company now key listing counts t = .error fault := by
  unfold observe
  cases hfirst : trouble n with
  | some other =>
      rw [hfirst, Option.some_or] at hfault
      rw [Option.some.inj hfault]
      rfl
  | none =>
      rw [hfirst, Option.none_or] at hfault
      rw [attempt_none, find_eq h, hfault]
      simp only [bind, Except.bind, attempt]
      cases table.rows.find? (·.isAt company key) with
      | none => rfl
      | some stored => cases hactive : stored.isActive <;> simp

theorem observe_spared {key : String} {listing : Listing} {n : Nat} (hfirst : trouble n = none)
    (hsecond : trouble (n + 1) = none) (counts : Counts) (t : Tables) :
    observe trouble n company now key listing counts t =
      observe (fun _ => none) n company now key listing counts t := by
  unfold observe
  rw [hfirst, hsecond]

/-- Where the tables and the company are there, taking in a listing succeeds. -/
theorem observe_done (now : String) {key : String} {listing : Listing} (h : t.postings = some table)
    (hcompanies : t.companies = some companies) (hstored : ∃ c ∈ companies, c.id = company)
    (hown : listing.key = key) (n : Nat) (counts : Counts) :
    ∃ counts' table', observe (fun _ => none) n company now key listing counts t =
      .ok (counts', t.withPostings table') := by
  unfold observe
  simp only [attempt_none, find_eq h, bind, Except.bind]
  cases hfound : table.rows.find? (·.isAt company key) with
  | none =>
      rw [insert_eq h hcompanies hstored (by rw [hown]; exact hfound) now]
      exact ⟨_, _, rfl⟩
  | some stored =>
      cases hactive : stored.isActive with
      | false =>
          simp only [Tables.reopen, updatePostings_eq h, hactive]
          exact ⟨_, _, rfl⟩
      | true =>
          simp only [Tables.renew, updatePostings_eq h, hactive]
          cases stored.content.agrees listing.content <;> exact ⟨_, _, rfl⟩

theorem observeAll_done (now : String) {seen : Page} (hstored : ∃ c ∈ companies, c.id = company)
    (hmaps : seen.Maps) :
    ∀ {t : Tables} {table : Numbered Posting}, t.companies = some companies →
      t.postings = some table → ∀ (n : Nat) (counts : Counts), ∃ counts' table',
      observeAll (fun _ => none) n company now counts t seen =
        .ok (counts', t.withPostings table') := by
  induction seen with
  | nil =>
      intro t table _ h n counts
      exact ⟨counts, table, by rw [Tables.withPostings_self h]; rfl⟩
  | cons entry rest ih =>
      intro t table hcompanies h n counts
      obtain ⟨hown, -, hrest⟩ := hmaps.uncons
      obtain ⟨counts', table', hround⟩ :=
        observe_done now h hcompanies hstored hown n counts
      unfold observeAll
      rw [hround]
      exact ih hrest (t := t.withPostings table') hcompanies rfl _ _

theorem observeAll_first {seen : Page} (hstored : ∃ c ∈ companies, c.id = company)
    (hmaps : seen.Maps) :
    ∀ {t : Tables} {table : Numbered Posting} {n : Nat}, t.companies = some companies →
      t.postings = some table →
      firstTrouble trouble n (2 * seen.length) = some fault → ∀ counts : Counts,
      observeAll trouble n company now counts t seen = .error fault := by
  induction seen with
  | nil => intro t table n _ _ hfault; cases hfault
  | cons entry rest ih =>
      intro t table n hcompanies h hfault counts
      obtain ⟨hown, -, hrest⟩ := hmaps.uncons
      rw [List.length_cons, show 2 * (rest.length + 1) = 2 + 2 * rest.length by omega,
        firstTrouble_add] at hfault
      unfold observeAll
      cases hround : (trouble n).or (trouble (n + 1)) with
      | some other =>
          have hsame : other = fault := by
            simpa [firstTrouble, hround] using hfault
          rw [observe_first h (hsame ▸ hround)]
          rfl
      | none =>
          obtain ⟨hfirst, hsecond⟩ := Option.or_eq_none_iff.mp hround
          have hlater : firstTrouble trouble (n + 2) (2 * rest.length) = some fault := by
            simpa [firstTrouble, hfirst, hsecond] using hfault
          obtain ⟨counts', table', hround⟩ :=
            observe_done now h hcompanies hstored hown n counts
          rw [observe_spared hfirst hsecond, hround]
          exact ih hrest (t := t.withPostings table') hcompanies rfl hlater _

theorem observeAll_spared (seen : List (String × Listing)) :
    ∀ {n : Nat}, firstTrouble trouble n (2 * seen.length) = none →
      ∀ (counts : Counts) (t : Tables),
      observeAll trouble n company now counts t seen =
        observeAll (fun _ => none) n company now counts t seen := by
  induction seen with
  | nil => exact fun _ _ _ => rfl
  | cons entry rest ih =>
      intro n hnone counts t
      rw [List.length_cons, show 2 * (rest.length + 1) = 2 * rest.length + 1 + 1 by omega,
        firstTrouble, firstTrouble, Option.or_eq_none_iff, Option.or_eq_none_iff] at hnone
      obtain ⟨hfirst, hsecond, hlater⟩ := hnone
      unfold observeAll
      rw [observe_spared hfirst hsecond]
      congr 1
      funext next
      exact ih hlater next.1 next.2

/-! ### Closing what is gone -/

theorem closeAll_done (company now : String) (gone : List String) :
    ∀ {t : Tables} {table : Numbered Posting}, t.postings = some table →
      ∀ (n : Nat) (counts : Counts), ∃ result,
      closeAll (fun _ => none) n company now counts t gone = .ok result := by
  induction gone with
  | nil => exact fun _ _ counts => ⟨_, rfl⟩
  | cons key rest ih =>
      intro t table h n counts
      unfold closeAll
      rw [attempt_none, close_eq h]
      exact ih rfl _ _

theorem closeAll_first (gone : List String) :
    ∀ {t : Tables} {table : Numbered Posting} {n : Nat}, t.postings = some table →
      firstTrouble trouble n gone.length = some fault → ∀ counts : Counts,
      closeAll trouble n company now counts t gone = .error fault := by
  induction gone with
  | nil => intro t table n _ hfault; cases hfault
  | cons key rest ih =>
      intro t table n h hfault counts
      unfold closeAll
      rw [List.length_cons, firstTrouble] at hfault
      cases hround : trouble n with
      | some other =>
          rw [hround, Option.some_or] at hfault
          rw [Option.some.inj hfault]
          rfl
      | none =>
          rw [hround, Option.none_or] at hfault
          rw [attempt_none, close_eq h]
          exact ih rfl hfault _

theorem closeAll_spared (gone : List String) :
    ∀ {n : Nat}, firstTrouble trouble n gone.length = none → ∀ (counts : Counts) (t : Tables),
      closeAll trouble n company now counts t gone =
        closeAll (fun _ => none) n company now counts t gone := by
  induction gone with
  | nil => exact fun _ _ _ => rfl
  | cons key rest ih =>
      intro n hnone counts t
      rw [List.length_cons, firstTrouble, Option.or_eq_none_iff] at hnone
      unfold closeAll
      rw [hnone.1]
      congr 1
      funext next
      exact ih hnone.2 _ next.2

/-! ### The transaction -/

section

variable {trouble : Trouble} {d : Difference} {page : Page}

theorem writeDifference_first (h : t.postings = some table)
    (hcompanies : t.companies = some companies) (hstored : ∃ c ∈ companies, c.id = company)
    (hpage : page.Maps) (hfault : trouble.first (statementCount d page) = some fault) :
    writeDifference trouble company d page now t = .error fault := by
  have hmaps : Page.Maps (seenListings d page) := hpage.filter _
  unfold Trouble.first statementCount at hfault
  rw [firstTrouble_add, Option.or_assoc, Nat.zero_add] at hfault
  unfold writeDifference
  cases hseen : firstTrouble trouble.writing 0 (2 * (seenListings d page).length) with
  | some other =>
      rw [hseen, Option.some_or] at hfault
      obtain rfl := Option.some.inj hfault
      simp only [observeAll_first hstored hmaps hcompanies h hseen, bind, Except.bind]
  | none =>
      rw [hseen, Option.none_or] at hfault
      obtain ⟨counts, walked, hobserved⟩ :=
        observeAll_done now hstored hmaps hcompanies h 0 .zero
      simp only [observeAll_spared _ hseen, hobserved, bind, Except.bind]
      cases hgone : firstTrouble trouble.writing (2 * (seenListings d page).length)
          (Text.sorted d.close).length with
      | some other =>
          rw [hgone, Option.some_or] at hfault
          obtain rfl := Option.some.inj hfault
          rw [closeAll_first _ rfl hgone]
      | none =>
          rw [hgone, Option.none_or] at hfault
          obtain ⟨result, hclosed⟩ := closeAll_done company now
            (t := t.withPostings walked) (Text.sorted d.close) rfl
            (2 * (seenListings d page).length) counts
          rw [closeAll_spared _ hgone, hclosed, hfault]
          rfl

theorem writeDifference_spared (h : t.postings = some table) (hschema : Constrained table)
    (hcompanies : t.companies = some companies) (hstored : ∃ c ∈ companies, c.id = company)
    (hpage : page.Maps) (hnone : trouble.first (statementCount d page) = none) :
    writeDifference trouble company d page now t =
      .ok (settledCounts table company d page now,
        t.withPostings (table.settled company d page now)) := by
  unfold Trouble.first statementCount at hnone
  rw [firstTrouble_add, Nat.zero_add, Option.or_eq_none_iff, Option.or_eq_none_iff] at hnone
  obtain ⟨⟨hseen, hgone⟩, hcommitting⟩ := hnone
  rw [← writeDifference_eq h hschema hcompanies hstored hpage]
  unfold writeDifference
  simp only [observeAll_spared _ hseen, hcommitting, Trouble.none]
  congr 1
  funext next
  rw [closeAll_spared _ hgone]

variable {ε : Type} {l : Ledger}

/-- A transaction that there is trouble with fails by the first trouble, and is forgotten. -/
theorem applyUnder_first (hconnected : l.connected = true) (h : l.view.postings = some table)
    (hcompanies : l.view.companies = some companies)
    (hstored : ∃ c ∈ companies, c.id = company) (hpage : page.Maps)
    (hfault : trouble.first (statementCount d page) = some fault) :
    (l.applyUnder trouble company d page now : Except (Abort ε) Counts × Ledger) =
      (.error (.of company (.inl fault)), l.rollback) := by
  have hwork : writeDifference trouble company d page now l.view = .error fault :=
    writeDifference_first h hcompanies hstored hpage hfault
  unfold applyUnder transaction
  simp [hconnected, hwork]

/-- A transaction that there is no trouble with settles the page. -/
theorem applyUnder_spared (hconnected : l.connected = true) (h : l.view.postings = some table)
    (hschema : Constrained table) (hcompanies : l.view.companies = some companies)
    (hstored : ∃ c ∈ companies, c.id = company) (hpage : page.Maps)
    (hnone : trouble.first (statementCount d page) = none) :
    (l.applyUnder trouble company d page now : Except (Abort ε) Counts × Ledger) =
      (.ok (settledCounts table company d page now),
        { l with
          committed := l.view.withPostings (table.settled company d page now)
          pending := none }) := by
  have hwork : writeDifference trouble company d page now l.view = _ :=
    writeDifference_spared h hschema hcompanies hstored hpage hnone
  unfold applyUnder transaction
  simp only [hconnected, hwork]
  rfl

end

end VacancyLedger.Ledger
