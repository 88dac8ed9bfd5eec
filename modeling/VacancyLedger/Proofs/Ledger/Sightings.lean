/-
What a posting tells of the past.

A cycle that ends well is a sighting of its company: at one time, a page of listings.  The
table of postings is what the sightings so far have made of it, and it is all there is to
know of them: a posting says when it was first and last seen and what it said then, whether
the last sighting still listed it, and when it was first found to be gone.

`Traces` says this of one posting and `Reflects` of a table.  One more sighting changes a
posting in one of four ways: it appears, it is seen again, it is found to be gone, or it is
still gone.  Each of them keeps the posting true to the sightings.
-/
import VacancyLedger.Proofs.Ledger.Apply
import VacancyLedger.Proofs.Listing.Normalize

namespace VacancyLedger

/-- A cycle that has ended well: the company it was of, the time it happened at, and the page it
saw. -/
structure Sighting where
  company : String
  time : String
  page : Page
  deriving DecidableEq

/-- Whether a sighting lists a key. -/
def Sighting.lists (s : Sighting) (key : String) : Bool := (Table.get? s.page key).isSome

/-- The sightings of one company. -/
def sightingsOf (history : List Sighting) (company : String) : List Sighting :=
  history.filter (·.company == company)

/-- What a posting says of the sightings of its company. -/
structure Posting.Traces (p : Posting) (past : List Sighting) : Prop where
  /-- It was first seen at the first sighting that listed it. -/
  first : (past.find? (·.lists p.key)).map (·.time) = some p.firstSeen
  /-- No sighting that listed it was later than it was last seen. -/
  upper : ∀ s ∈ past, s.lists p.key = true → s.time ≤ p.lastSeen
  /-- A sighting listed it when it was last seen. -/
  attained : ∃ s ∈ past, s.lists p.key = true ∧ s.time = p.lastSeen
  /-- It says what the last sighting that listed it said.  It is active if none came after that one,
  and else it was closed at the next. -/
  last : ∃ before s listing after, past = before ++ s :: after ∧
    Table.get? s.page p.key = some listing ∧ (∀ t ∈ after, t.lists p.key = false) ∧
    p.content = listing.content ∧ p.isActive = after.isEmpty ∧
    p.closedAt = after.head?.map (·.time)

variable {p : Posting} {past : List Sighting} {s : Sighting} {listing : Listing}

theorem Sighting.lists_iff {key : String} : s.lists key = true ↔ key ∈ Table.keys s.page := by
  rw [Sighting.lists, Option.isSome_iff_ne_none, ne_eq, Table.get?_eq_none_iff, not_not]

theorem Sighting.lists_of_get? {key : String} (h : Table.get? s.page key = some listing) :
    s.lists key = true := by
  rw [Sighting.lists, h]
  rfl

/-! ### One more sighting of a posting -/

/-- A posting whose content was not replaced says what the listing says. -/
theorem Posting.content_eq_of_not_differs (h : p.differs listing = false)
    (hp : p.content.IsNormal) (hlisting : listing.content.IsNormal) :
    p.content = listing.content := by
  refine Content.eq_of_isNormal hp hlisting ?_
  simpa [Posting.differs] using h

theorem Posting.isActive_sighted {now : String} : (p.sighted listing now).isActive = true := by
  unfold sighted
  split
  · assumption
  · rfl

/-- A posting says what a listing of it says that was seen, unless it was active and agreed with
the listing, but had plain text that was not that of its description. -/
theorem Posting.content_sighted {now : String} (hlisting : listing.content.IsNormal) :
    (p.sighted listing now).content = listing.content ∨
      p.isActive = true ∧ ¬ p.content.IsNormal ∧ p.content.agrees listing.content = true ∧
        (p.sighted listing now).content = p.content := by
  by_cases hactive : p.isActive = true
  · by_cases hdiffers : p.differs listing = true
    · left
      simp [sighted, hactive, hdiffers]
    · have hsame : p.differs listing = false := Bool.eq_false_iff.mpr hdiffers
      have hkept : (p.sighted listing now).content = p.content := by
        simp [sighted, hactive, hsame]
      rw [hkept]
      by_cases hnormal : p.content.IsNormal
      · exact Or.inl (content_eq_of_not_differs hsame hnormal hlisting)
      · exact Or.inr ⟨hactive, hnormal, by simpa [differs_eq] using hsame, rfl⟩
  · left
    simp [sighted, hactive]

namespace Posting.Traces

theorem fresh {id : Nat} {company : String} (hnew : ∀ t ∈ past, t.lists listing.key = false)
    (hlisted : Table.get? s.page listing.key = some listing) :
    (Posting.fresh id company listing s.time).Traces (past ++ [s]) := by
  have hlists := Sighting.lists_of_get? hlisted
  refine ⟨?_, ?_, ⟨s, by simp, hlists, rfl⟩,
    ⟨past, s, listing, [], rfl, hlisted, ?_, rfl, rfl, rfl⟩⟩
  · have hnone : past.find? (·.lists listing.key) = none := by
      rw [List.find?_eq_none]
      intro t ht
      rw [hnew t ht]
      exact Bool.false_ne_true
    show ((past ++ [s]).find? (·.lists listing.key)).map (·.time) = some s.time
    rw [List.find?_append, hnone, List.find?_singleton, hlists]
    rfl
  · intro t ht htlists
    rcases List.mem_append.mp ht with hold | hnow
    · cases (hnew t hold).symm.trans htlists
    · rw [List.mem_singleton.mp hnow]
      exact le_refl _
  · intro t ht
    cases ht

/-- Sightings that come later do not change when a posting was first seen. -/
theorem first_append (h : p.Traces past) (s : Sighting) :
    ((past ++ [s]).find? (·.lists p.key)).map (·.time) = some p.firstSeen := by
  have hfirst := h.first
  cases hfound : past.find? (·.lists p.key) with
  | none =>
      rw [hfound] at hfirst
      cases hfirst
  | some t =>
      rw [hfound] at hfirst
      rw [List.find?_append, hfound]
      exact hfirst

theorem sighted (h : p.Traces past) (hlisted : Table.get? s.page p.key = some listing)
    (hp : p.content.IsNormal) (hlisting : listing.content.IsNormal) :
    (p.sighted listing s.time).Traces (past ++ [s]) := by
  have hlists := Sighting.lists_of_get? hlisted
  have hkey : (p.sighted listing s.time).key = p.key := congrArg Prod.snd Posting.sighted_place
  have hfirst : (p.sighted listing s.time).firstSeen = p.firstSeen := by
    unfold Posting.sighted
    split <;> rfl
  have hseen : (p.sighted listing s.time).lastSeen = max p.lastSeen s.time := by
    unfold Posting.sighted
    split <;> rfl
  obtain ⟨before, t, listing', after, hpast, ht, hafter, hcontent, hopen, hclosed⟩ := h.last
  have hclosedAt : (p.sighted listing s.time).closedAt = none := by
    unfold Posting.sighted
    split
    · -- An active posting was listed by the last sighting there was.
      rename_i hwas
      have hnil : after = [] := List.isEmpty_iff.mp (hopen.symm.trans hwas)
      rw [hclosed, hnil]
      rfl
    · rfl
  have hsays : (p.sighted listing s.time).content = listing.content :=
    (Posting.content_sighted hlisting).resolve_right fun hstale => hstale.2.1 hp
  refine ⟨?_, ?_, ?_, past, s, listing, [], rfl, ?_, nofun, hsays,
    Posting.isActive_sighted, hclosedAt⟩
  · rw [hkey, hfirst]
    exact h.first_append s
  · intro t ht htlists
    rw [hkey] at htlists
    rw [hseen]
    rcases List.mem_append.mp ht with hold | hnow
    · exact le_max_of_le_left (h.upper t hold htlists)
    · rw [List.mem_singleton.mp hnow]
      exact le_max_right _ _
  · rw [hkey, hseen]
    obtain ⟨t, ht, htlists, htime⟩ := h.attained
    rcases le_total p.lastSeen s.time with hle | hle
    · exact ⟨s, by simp, hlists, (max_eq_right hle).symm⟩
    · exact ⟨t, List.mem_append_left _ ht, htlists, htime.trans (max_eq_left hle).symm⟩
  · rw [hkey]
    exact hlisted

/-- A sighting that does not list a posting leaves what it says of those that did. -/
theorem missed {q : Posting} (h : p.Traces past) (hgone : s.lists p.key = false)
    (hkey : q.key = p.key) (hfirst : q.firstSeen = p.firstSeen) (hseen : q.lastSeen = p.lastSeen)
    (hcontent : q.content = p.content) (hopen : q.isActive = false)
    (hclosed : q.closedAt = if p.isActive then some s.time else p.closedAt) :
    q.Traces (past ++ [s]) := by
  refine ⟨?_, ?_, ?_, ?_⟩
  · rw [hkey, hfirst]
    exact h.first_append s
  · intro t ht htlists
    rw [hkey] at htlists
    rw [hseen]
    rcases List.mem_append.mp ht with hold | hnow
    · exact h.upper t hold htlists
    · rw [List.mem_singleton.mp hnow, hgone] at htlists
      cases htlists
  · rw [hkey, hseen]
    obtain ⟨t, ht, htlists, htime⟩ := h.attained
    exact ⟨t, List.mem_append_left _ ht, htlists, htime⟩
  · obtain ⟨before, t, listing, after, hpast, ht, hafter, hsays, hwas, hat⟩ := h.last
    refine ⟨before, t, listing, after ++ [s], ?_, ?_, ?_, hcontent.trans hsays, ?_, ?_⟩
    · rw [hpast, List.append_assoc, List.cons_append]
    · rw [hkey]
      exact ht
    · rw [hkey]
      intro u hu
      rcases List.mem_append.mp hu with hold | hnow
      · exact hafter u hold
      · rw [List.mem_singleton.mp hnow]
        exact hgone
    · rw [hopen]
      simp
    · -- It is closed now if no sighting had missed it before, and else it stays closed as it was.
      rw [hclosed, hwas, hat]
      cases after <;> rfl

end Posting.Traces

/-! ### One more sighting of a company -/

namespace Ledger

/-- A table of postings that is what the sightings so far have made of it. -/
structure Reflects (table : Numbered Posting) (history : List Sighting) : Prop where
  schema : Constrained table
  normal : ∀ p ∈ table.rows, p.content.IsNormal
  /-- There is a posting for each key that a sighting of the company has listed, and no other. -/
  stored : ∀ company key, (∃ p ∈ table.rows, p.isAt company key = true) ↔
    ∃ s ∈ sightingsOf history company, s.lists key = true
  traces : ∀ p ∈ table.rows, p.Traces (sightingsOf history p.company)

theorem reflects_empty : Reflects .empty [] :=
  ⟨constrained_empty, nofun, fun _ _ => ⟨nofun, nofun⟩, nofun⟩

theorem sightingsOf_append (history : List Sighting) (s : Sighting) (company : String) :
    sightingsOf (history ++ [s]) company =
      sightingsOf history company ++ if s.company = company then [s] else [] := by
  unfold sightingsOf
  rw [List.filter_append]
  by_cases h : s.company = company
  · simp [h]
  · simp [h]

variable {table : Numbered Posting} {history : List Sighting} {company now : String} {page : Page}

/-- The keys of the active postings of a company. -/
def activeKeys (table : Numbered Posting) (company : String) : List String :=
  (table.rows.filter fun p => p.company == company && p.isActive).map (·.key)

theorem mem_activeKeys {p : Posting} (hp : p ∈ table.rows) (hactive : p.isActive = true) :
    p.key ∈ activeKeys table p.company :=
  List.mem_map.mpr ⟨p, List.mem_filter.mpr ⟨hp, by simp [hactive]⟩, rfl⟩

/-- What a page that was seen changes. -/
abbrev pageDifference (table : Numbered Posting) (company : String) (page : Page) : Difference :=
  .between (activeKeys table company) (Table.keys page)

/-- A posting that is listed does not leave. -/
theorem not_isLeaving_of_listed (table : Numbered Posting) (company : String) {p : Posting}
    (h : p.key ∈ Table.keys page) :
    p.isLeaving company (pageDifference table company page).close = false := by
  have hstays : p.key ∉ (pageDifference table company page).close := fun hin =>
    (Difference.mem_close_between.mp hin).2 h
  simp [Posting.isLeaving, hstays]

/-- A posting after a page of a company was applied. -/
def settledPosting (table : Numbered Posting) (company : String) (page : Page) (now : String)
    (p : Posting) : Posting :=
  (p.walked company page now).swept company (pageDifference table company page).close now

theorem settledPosting_place (p : Posting) :
    (settledPosting table company page now p).place = p.place := by
  unfold settledPosting
  rw [Posting.swept_place, Posting.walked_place]

/-- The rows after a page was applied: those that were there, and those of newcomers. -/
theorem settled_rows (table : Numbered Posting) (company now : String) (hpage : page.Maps) :
    (table.settled company (pageDifference table company page) page now).rows =
      table.rows.map (settledPosting table company page now) ++
        freshRows table.lastId company now (newcomers table.rows company page) := by
  -- A newcomer is on the page, so it is not among what the same page closes.
  have hfresh : ∀ p ∈ freshRows table.lastId company now (newcomers table.rows company page),
      p.swept company (pageDifference table company page).close now = p := by
    intro p hp
    obtain ⟨id, listing, hnew, rfl⟩ := mem_freshRows hp
    have hlisted : listing.key ∈ Table.keys page :=
      Table.mem_keys.mpr ⟨listing, ((mem_newcomers hpage).mp hnew).1⟩
    have hstays := not_isLeaving_of_listed table company (p := .fresh id company listing now)
      hlisted
    rw [Posting.swept, hstays]
    rfl
  unfold Numbered.settled Numbered.swept Numbered.walked
  rw [seenListings_between]
  simp only [List.map_append, List.map_map]
  congr 1
  conv_rhs => rw [← List.map_id (freshRows _ _ _ _)]
  exact List.map_congr_left hfresh

section

variable {p : Posting} {listing : Listing}

theorem settledPosting_other (h : p.company ≠ company) :
    settledPosting table company page now p = p := by
  simp [settledPosting, Posting.walked, Posting.listing?, Posting.swept, Posting.isLeaving, h]

theorem settledPosting_listed (hlisted : Table.get? page p.key = some listing) :
    settledPosting table p.company page now p = p.sighted listing now := by
  have hkey : (p.sighted listing now).key ∈ Table.keys page := by
    rw [show (p.sighted listing now).key = p.key from congrArg Prod.snd Posting.sighted_place]
    by_contra hout
    rw [Table.get?_eq_none_iff.mpr hout] at hlisted
    cases hlisted
  have hwalked : p.walked p.company page now = p.sighted listing now := by
    simp [Posting.walked, Posting.listing?, hlisted]
  unfold settledPosting
  rw [hwalked, Posting.swept, not_isLeaving_of_listed table p.company hkey]
  rfl

theorem settledPosting_missed (hp : p ∈ table.rows) (hmissed : Table.get? page p.key = none) :
    settledPosting table p.company page now p =
      if p.isActive then { p with isActive := false, closedAt := some now } else p := by
  have hwalked : p.walked p.company page now = p := by
    simp [Posting.walked, Posting.listing?, hmissed]
  have hleaving : p.isLeaving p.company (pageDifference table p.company page).close
      = p.isActive := by
    cases hactive : p.isActive with
    | false => simp [Posting.isLeaving, hactive]
    | true =>
        have hgone : p.key ∈ (pageDifference table p.company page).close :=
          Difference.mem_close_between.mpr
            ⟨mem_activeKeys hp hactive, Table.get?_eq_none_iff.mp hmissed⟩
        simp [Posting.isLeaving, hactive, hgone]
  unfold settledPosting
  rw [hwalked, Posting.swept, hleaving]

end

theorem isNormal_sighted {p : Posting} {listing : Listing} (hp : p.content.IsNormal)
    (hlisting : listing.content.IsNormal) : (p.sighted listing now).content.IsNormal := by
  unfold Posting.sighted
  split
  · simp only
    split
    · exact hlisting
    · exact hp
  · exact hlisting

/-- What one more sighting makes of a posting that was there. -/
theorem traces_settledPosting (h : Reflects table history) (hpage : page.Maps)
    (hnormal : ∀ entry ∈ page, entry.2.content.IsNormal) {p : Posting} (hp : p ∈ table.rows) :
    (settledPosting table company page now p).content.IsNormal ∧
      (settledPosting table company page now p).Traces
        (sightingsOf (history ++ [⟨company, now, page⟩]) p.company) := by
  rw [sightingsOf_append]
  by_cases hcompany : company = p.company
  · subst hcompany
    rw [if_pos rfl]
    cases hlisted : Table.get? page p.key with
    | some listing =>
        have hentry := (Table.get?_eq_some_iff hpage.keys_nodup).mp hlisted
        rw [settledPosting_listed hlisted]
        exact ⟨isNormal_sighted (h.normal p hp) (hnormal _ hentry),
          (h.traces p hp).sighted (s := ⟨p.company, now, page⟩) hlisted (h.normal p hp)
            (hnormal _ hentry)⟩
    | none =>
        have hmissed : (⟨p.company, now, page⟩ : Sighting).lists p.key = false := by
          rw [Sighting.lists, hlisted]
          rfl
        rw [settledPosting_missed hp hlisted]
        split
        · rename_i hactive
          exact ⟨h.normal p hp, (h.traces p hp).missed hmissed rfl rfl rfl rfl rfl
            (if_pos hactive).symm⟩
        · rename_i hclosed
          exact ⟨h.normal p hp, (h.traces p hp).missed hmissed rfl rfl rfl rfl
            (Bool.eq_false_iff.mpr hclosed) (if_neg hclosed).symm⟩
  · rw [if_neg hcompany, List.append_nil, settledPosting_other (Ne.symm hcompany)]
    exact ⟨h.normal p hp, h.traces p hp⟩

/-- What one more sighting says of a newcomer. -/
theorem traces_fresh (h : Reflects table history) (hpage : page.Maps) {listing : Listing}
    (hnew : listing ∈ newcomers table.rows company page) (id : Nat) :
    (Posting.fresh id company listing now).Traces
      (sightingsOf (history ++ [⟨company, now, page⟩]) company) := by
  obtain ⟨hentry, hfree⟩ := (mem_newcomers hpage).mp hnew
  have hunseen : ∀ s ∈ sightingsOf history company, s.lists listing.key = false := by
    intro s hs
    by_contra hlists
    rw [Bool.not_eq_false] at hlists
    obtain ⟨p, hp, hat⟩ := (h.stored company listing.key).mpr ⟨s, hs, hlists⟩
    rw [hfree p hp] at hat
    exact Bool.false_ne_true hat
  rw [sightingsOf_append, if_pos rfl]
  exact Posting.Traces.fresh (s := ⟨company, now, page⟩) hunseen
    ((Table.get?_eq_some_iff hpage.keys_nodup).mpr hentry)

/-- After a page was applied there is a posting where there was one and where the page lists a
key. -/
theorem stored_settled (table : Numbered Posting) (company now : String) (hpage : page.Maps)
    (other key : String) :
    (∃ p ∈ (table.settled company (pageDifference table company page) page now).rows,
        p.isAt other key = true) ↔
      (∃ p ∈ table.rows, p.isAt other key = true) ∨ (company = other ∧ key ∈ Table.keys page) := by
  have hplace : ∀ p : Posting, (settledPosting table company page now p).isAt other key
      = p.isAt other key := by
    intro p
    rw [Bool.eq_iff_iff, Posting.isAt_place, Posting.isAt_place, settledPosting_place]
  rw [settled_rows table company now hpage]
  constructor
  · rintro ⟨p, hp, hat⟩
    rcases List.mem_append.mp hp with hold | hfresh
    · obtain ⟨q, hq, rfl⟩ := List.mem_map.mp hold
      exact Or.inl ⟨q, hq, (hplace q).symm.trans hat⟩
    · obtain ⟨id, listing, hnew, rfl⟩ := mem_freshRows hfresh
      obtain ⟨hcompany, hkey⟩ := Posting.isAt_iff.mp hat
      exact Or.inr ⟨hcompany,
        Table.mem_keys.mpr ⟨listing, hkey ▸ ((mem_newcomers hpage).mp hnew).1⟩⟩
  · intro h
    by_cases hold : ∃ p ∈ table.rows, p.isAt other key = true
    · obtain ⟨p, hp, hat⟩ := hold
      exact ⟨_, List.mem_append_left _ (List.mem_map_of_mem hp), (hplace p).trans hat⟩
    · obtain ⟨rfl, hkey⟩ := h.resolve_left hold
      obtain ⟨listing, hentry⟩ := Table.mem_keys.mp hkey
      obtain rfl : listing.key = key := hpage.own_key _ hentry
      have hfree : ∀ p ∈ table.rows, p.isAt company listing.key = false := fun p hp =>
        Bool.eq_false_iff.mpr fun hat => hold ⟨p, hp, hat⟩
      obtain ⟨id, hin⟩ := exists_freshRow company now
        ((mem_newcomers hpage).mpr ⟨hentry, hfree⟩) table.lastId
      exact ⟨_, List.mem_append_right _ hin, Posting.isAt_iff.mpr ⟨rfl, rfl⟩⟩

/-- Applying the page of a sighting keeps the table true to the sightings. -/
theorem reflects_settled (h : Reflects table history) (hpage : page.Maps)
    (hnormal : ∀ entry ∈ page, entry.2.content.IsNormal) :
    Reflects (table.settled company (pageDifference table company page) page now)
      (history ++ [⟨company, now, page⟩]) := by
  have hrows := settled_rows table company now hpage
  refine ⟨constrained_settled h.schema hpage _, ?_, ?_, ?_⟩
  · intro p hp
    rw [hrows] at hp
    rcases List.mem_append.mp hp with hold | hfresh
    · obtain ⟨q, hq, rfl⟩ := List.mem_map.mp hold
      exact (traces_settledPosting h hpage hnormal hq).1
    · obtain ⟨id, listing, hnew, rfl⟩ := mem_freshRows hfresh
      exact hnormal _ ((mem_newcomers hpage).mp hnew).1
  · intro other key
    rw [stored_settled table company now hpage, h.stored other key, sightingsOf_append,
      ← Sighting.lists_iff (s := ⟨company, now, page⟩)]
    by_cases hcompany : company = other
    · simp [hcompany, or_and_right, exists_or]
    · simp [hcompany]
  · intro p hp
    rw [hrows] at hp
    rcases List.mem_append.mp hp with hold | hfresh
    · obtain ⟨q, hq, rfl⟩ := List.mem_map.mp hold
      have hcompany : (settledPosting table company page now q).company = q.company :=
        congrArg Prod.fst (settledPosting_place q)
      rw [hcompany]
      exact (traces_settledPosting h hpage hnormal hq).2
    · obtain ⟨id, listing, hnew, rfl⟩ := mem_freshRows hfresh
      exact traces_fresh h hpage hnew id

end Ledger
end VacancyLedger
