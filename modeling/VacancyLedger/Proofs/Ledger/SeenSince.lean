/-
Postings that were seen since a point in time.

Postings keep the text of the instant they were last seen at, and a reader's point in time is
turned into such a text before it is compared with them.  These texts sort as the instants do
and are read as the instants they write, so what a reader is shown depends on the instant that
was named and not on how it was written.
-/
import VacancyLedger.Ledger.Search
import VacancyLedger.Proofs.Time.Reading
import VacancyLedger.Time.Since

namespace VacancyLedger

namespace Time

/-! ### Texts of instants -/

theorem Stamp.instant?_eq_some {s : Stamp} {t : Instant} (h : s.instant? = some t) :
    t.IsCalendrical ∧ (t.microseconds : Int) = s.microseconds := by
  unfold instant? at h
  split at h
  · rename_i hrange
    cases h
    have hsame : (s.microseconds.toNat : Int) = s.microseconds := Int.toNat_of_nonneg hrange.1
    refine ⟨Int.ofNat_lt.mp ?_, hsame⟩
    rw [hsame]
    exact_mod_cast hrange.2
  · cases h

theorem Instant.text_inj {t t' : Instant} (h : t.IsCalendrical) (h' : t'.IsCalendrical) :
    t.text = t'.text ↔ t.microseconds = t'.microseconds := by
  constructor
  · intro htext
    have hforth := (text_lt_iff h h').not
    have hback := (text_lt_iff h' h).not
    rw [htext] at hforth hback
    have hirrefl := String.lt_irrefl t'.text
    have hle := hforth.mp hirrefl
    have hge := hback.mp hirrefl
    omega
  · intro heq
    rw [show t = t' from congrArg Instant.mk heq]

theorem Instant.text_length {t : Instant} (h : t.IsCalendrical) : t.text.length = 32 := by
  rw [← String.length_toList]
  exact (text_form t h).length_eq.symm

theorem Instant.instant?_stamp {t : Instant} (h : t.IsCalendrical) : t.stamp.instant? = some t := by
  have hlt : (t.microseconds : Int) < day * dayCount := by exact_mod_cast h
  rw [Stamp.instant?, stamp_microseconds h, if_pos ⟨Int.natCast_nonneg _, hlt⟩]
  rfl

/-! ### What a reader names -/

/-- The instant that a reader names, by a text or by a time that was read before. -/
def Since.Names : Since → Instant → Prop
  | .text s, t => s ≠ "" ∧ ∃ read, Iso.parse? s = some read ∧ read.instant? = some t
  | .stamp read, t => read.instant? = some t

theorem Stamp.since?_eq_some_iff {s : Stamp} {r : String} :
    s.since? = .ok (some r) ↔ ∃ t, s.instant? = some t ∧ t.text = r := by
  unfold since?
  cases s.instant? <;> simp

theorem Since.resolve?_eq_some_iff {since : Option Since} {r : String} :
    Since.resolve? since = .ok (some r) ↔
      ∃ given t, since = some given ∧ given.Names t ∧ t.text = r := by
  cases since with
  | none => simp [resolve?]
  | some given =>
      cases given with
      | stamp read => simp [resolve?, Names, Stamp.since?_eq_some_iff]
      | text s =>
          simp only [resolve?, since?, String.isEmpty_iff]
          by_cases hempty : s = ""
          · simp [hempty, Names]
          · cases hread : Iso.parse? s with
            | none => simp [hempty, hread, Names]
            | some read => simp [hempty, hread, Names, Stamp.since?_eq_some_iff]

theorem Since.Names.isCalendrical {given : Since} {t : Instant} (h : given.Names t) :
    t.IsCalendrical := by
  cases given with
  | text s =>
      obtain ⟨-, read, -, hinstant⟩ := h
      exact (Stamp.instant?_eq_some hinstant).1
  | stamp read => exact (Stamp.instant?_eq_some h).1

/-- The text of an instant names it. -/
theorem Instant.names_text {t : Instant} (h : t.IsCalendrical) : (Since.text t.text).Names t := by
  refine ⟨?_, t.stamp, parse?_text h, instant?_stamp h⟩
  intro hempty
  have hlength := text_length h
  rw [hempty] at hlength
  cases hlength

end Time

namespace Ledger

open Time (Instant Stamp Since)

variable {f : Filter} {p : Posting} {t t' u : Instant}

theorem accepts_since {time : String} (h : time ≠ "") :
    Filter.accepts { f with since := some time } p =
      (Filter.accepts { f with since := none } p && decide (time ≤ p.lastSeen)) := by
  have hempty : time.isEmpty = false := by rwa [← Bool.not_eq_true, String.isEmpty_iff]
  simp [Filter.accepts, hempty]

/-- What was seen at an instant was seen since another if that is not later. -/
theorem accepts_since_text (ht : t.IsCalendrical) (hu : u.IsCalendrical)
    (hseen : p.lastSeen = u.text) :
    Filter.accepts { f with since := some t.text } p =
      (Filter.accepts { f with since := none } p && decide (t.microseconds ≤ u.microseconds)) := by
  have hle : t.text ≤ u.text ↔ t.microseconds ≤ u.microseconds := by
    rw [← String.not_lt, Instant.text_lt_iff hu ht, Nat.not_lt]
  rw [accepts_since (Instant.names_text ht).1, hseen]
  simp only [hle]

/-- What was seen since an instant was seen since every earlier one. -/
theorem accepts_since_mono (ht : t.IsCalendrical) (ht' : t'.IsCalendrical)
    (hle : t.microseconds ≤ t'.microseconds)
    (h : Filter.accepts { f with since := some t'.text } p = true) :
    Filter.accepts { f with since := some t.text } p = true := by
  have htext : t.text ≤ t'.text := by
    rw [← String.not_lt, Instant.text_lt_iff ht' ht]
    omega
  rw [accepts_since (Instant.names_text ht').1, Bool.and_eq_true, decide_eq_true_eq] at h
  rw [accepts_since (Instant.names_text ht).1, Bool.and_eq_true, decide_eq_true_eq]
  exact ⟨h.1, String.le_trans htext h.2⟩

/-- **Stored times sort in the order of time.**  Every time whose instant lies in the calendar has a
stored text, of one form and of 32 characters; of two times the earlier one has the smaller text,
and times have one text exactly if they are one instant; and the text is read as a time of that
instant.  So a stored text that a reader names is resolved to itself, and of two points in time that
readers name, in whatever way they write them, the earlier one shows everything that the later one
shows, and exactly the postings that were last seen then or after it. -/
theorem stored_times_sort :
    (∀ s : Stamp, 0 ≤ s.microseconds → s.microseconds < Time.day * Time.dayCount →
      ∃ t, s.instant? = some t ∧ t.text.length = 32 ∧
        List.Forall₂ Time.IsInPlace "dddd-dd-ddTdd:dd:dd.dddddd+00:00".toList t.text.toList ∧
        ∃ again, Time.Iso.parse? t.text = some again ∧ again.microseconds = s.microseconds) ∧
    (∀ (s s' : Stamp) (t t' : Instant), s.instant? = some t → s'.instant? = some t' →
      (t.text < t'.text ↔ s.microseconds < s'.microseconds) ∧
        (t.text = t'.text ↔ s.microseconds = s'.microseconds)) ∧
    (∀ since r, Since.resolve? since = .ok (some r) →
      Since.resolve? (some (.text r)) = .ok (some r)) ∧
    ∀ (since since' : Since) (t t' : Instant), since.Names t → since'.Names t' →
      ∃ r r', Since.resolve? (some since) = .ok (some r) ∧
        Since.resolve? (some since') = .ok (some r') ∧ ∀ (f : Filter) (p : Posting),
          (t.microseconds ≤ t'.microseconds → Filter.accepts { f with since := some r' } p = true →
            Filter.accepts { f with since := some r } p = true) ∧
          ∀ u : Instant, u.IsCalendrical → p.lastSeen = u.text →
            Filter.accepts { f with since := some r } p =
              (Filter.accepts { f with since := none } p &&
                decide (t.microseconds ≤ u.microseconds)) := by
  refine ⟨fun s hnonneg hlt => ?_, fun s s' t t' hs hs' => ?_, fun since r hr => ?_,
    fun since since' t t' ht ht' => ?_⟩
  · have hinstant : s.instant? = some ⟨s.microseconds.toNat⟩ := if_pos ⟨hnonneg, hlt⟩
    obtain ⟨ht, hsame⟩ := Stamp.instant?_eq_some hinstant
    refine ⟨_, hinstant, Instant.text_length ht, Instant.text_form _ ht, _,
      Instant.parse?_text ht, ?_⟩
    rw [Instant.stamp_microseconds ht, hsame]
  · obtain ⟨ht, hsame⟩ := Stamp.instant?_eq_some hs
    obtain ⟨ht', hsame'⟩ := Stamp.instant?_eq_some hs'
    rw [← hsame, ← hsame', Int.ofNat_lt, Int.natCast_inj]
    exact ⟨Instant.text_lt_iff ht ht', Instant.text_inj ht ht'⟩
  · obtain ⟨given, t, -, hnames, rfl⟩ := Since.resolve?_eq_some_iff.mp hr
    exact Since.resolve?_eq_some_iff.mpr
      ⟨_, t, rfl, Instant.names_text hnames.isCalendrical, rfl⟩
  · refine ⟨t.text, t'.text, Since.resolve?_eq_some_iff.mpr ⟨since, t, rfl, ht, rfl⟩,
      Since.resolve?_eq_some_iff.mpr ⟨since', t', rfl, ht', rfl⟩, fun f p => ⟨fun hle => ?_, ?_⟩⟩
    · exact accepts_since_mono ht.isCalendrical ht'.isCalendrical hle
    · exact fun u hu hseen => accepts_since_text ht.isCalendrical hu hseen

/-- A leap day, five and a half hours ahead of universal time. -/
def leapDay : Stamp := ⟨⟨2024, 2, 29⟩, 9, 30, 0, 0, some 19800000000⟩

/-- A second later, in universal time. -/
def leapSecond : Stamp := ⟨⟨2024, 2, 29⟩, 4, 0, 1, 0, some 0⟩

/-- A posting that was last seen at the first of two times is shown since it, and not since the
second, though the first is written with the later hour. -/
theorem stored_times_sort_leap_day :
    ∃ t t' : Instant, leapDay.instant? = some t ∧ leapSecond.instant? = some t' ∧
      t.text.length = 32 ∧ t.text < t'.text ∧ t.text ≠ t'.text ∧
      ∃ r r', Since.resolve? (some (.text "2024-02-29T09:30:00+05:30")) = .ok (some r) ∧
        Since.resolve? (some (.text "2024-02-29T04:00:01Z")) = .ok (some r') ∧
        Since.resolve? (some (.text r)) = .ok (some r) ∧
        ∀ p : Posting, p.lastSeen = t.text →
          Filter.accepts ⟨none, none, some r⟩ p = true ∧
            Filter.accepts ⟨none, none, some r'⟩ p = false := by
  obtain ⟨hform, hsort, hagain, hshown⟩ := stored_times_sort
  obtain ⟨t, ht, hlength, -⟩ := hform leapDay (by decide) (by decide)
  obtain ⟨t', ht', -, -⟩ := hform leapSecond (by decide) (by decide)
  obtain ⟨hlt, hne⟩ := hsort leapDay leapSecond t t' ht ht'
  have hnames : (Since.text "2024-02-29T09:30:00+05:30").Names t :=
    ⟨by decide, leapDay, by decide +kernel, ht⟩
  have hnames' : (Since.text "2024-02-29T04:00:01Z").Names t' :=
    ⟨by decide, leapSecond, by decide +kernel, ht'⟩
  have hlater : leapDay.microseconds < leapSecond.microseconds := by decide
  obtain ⟨htime, hsame⟩ := Time.Stamp.instant?_eq_some ht
  obtain ⟨-, hsame'⟩ := Time.Stamp.instant?_eq_some ht'
  obtain ⟨r, _, hr, -, haccepts⟩ := hshown _ _ t t' hnames hnames'
  obtain ⟨r', _, hr', -, haccepts'⟩ := hshown _ _ t' t hnames' hnames
  refine ⟨t, t', ht, ht', hlength, hlt.mpr hlater, mt hne.mp (Int.ne_of_lt hlater), r, r', hr, hr',
    hagain _ r hr, fun p hseen => ⟨?_, ?_⟩⟩
  · exact ((haccepts ⟨none, none, none⟩ p).2 t htime hseen).trans (by simp [Filter.accepts])
  · have hearly : ¬t'.microseconds ≤ t.microseconds := by omega
    exact ((haccepts' ⟨none, none, none⟩ p).2 t htime hseen).trans (by simp [hearly])

/-- What is stored of the first of them is in universal time. -/
example : (Time.Since.resolve? (some (.text "2024-02-29T09:30:00+05:30"))).toOption =
    some (some "2024-02-29T04:00:00.000000+00:00") := by decide +kernel

end Ledger
end VacancyLedger
