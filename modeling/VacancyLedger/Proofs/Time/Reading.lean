/-
The text of an instant is read as a stamp of that instant.

A number of fixed width is read whatever follows it (`digits?_append`), so the reader of the
date and the reader of the time each come through the layout from separator to separator.  The
hyphen after the year tells the reader how long the date is, the colon after the hour that
there are more, and the plus sign where the zone starts.
-/
import VacancyLedger.Proofs.Text.Blank
import VacancyLedger.Proofs.Text.Scan
import VacancyLedger.Proofs.Time.Written
import VacancyLedger.Time.Iso

namespace VacancyLedger.Time

namespace Iso

variable {width n : Nat} {cs rest : List Char}

theorem digits?_append (h : IsNumeral width n cs) (rest : List Char) :
    digits? width (cs ++ rest) = some (n, rest) := by
  have htake : (cs ++ rest).take width = cs := List.take_left' h.length
  have hdrop : (cs ++ rest).drop width = rest := List.drop_left' h.length
  have hall : cs.all Char.isDigit = true := List.all_eq_true.mpr h.digits
  have hvalue : cs.foldl (fun acc d => 10 * acc + (d.toNat - 48)) 0 = n := h.value
  rw [digits?, htake, hdrop, if_pos ⟨h.length, hall⟩, hvalue]

theorem digits?_all (h : IsNumeral width n cs) : digits? width cs = some (n, []) := by
  simpa using digits?_append h []

/-! ### The date -/

theorem date?_numerals {year month day : Nat} {ys ms ds : List Char} (hyear : IsNumeral 4 year ys)
    (hmonth : IsNumeral 2 month ms) (hday : IsNumeral 2 day ds) :
    date? (ys ++ '-' :: (ms ++ '-' :: ds)) = some ⟨year, month, day⟩ := by
  obtain ⟨m, ms', hms⟩ : ∃ m ms', ms = m :: ms' :=
    List.exists_cons_of_length_pos (by rw [hmonth.length]; decide)
  have hdigit : m.isDigit = true := hmonth.digits m (by simp [hms])
  have hweek : m ≠ 'W' := by
    rintro rfl
    cases hdigit
  have hread := digits?_append hmonth ('-' :: ds)
  rw [hms, List.cons_append] at hread
  rw [hms, List.cons_append]
  simp [date?, digits?_append hyear, hweek, hread, Text.dropPrefix?, digits?_all hday]

/-! ### The time -/

theorem fraction?_numeral (h : IsNumeral 6 n cs) (parts : List Nat) :
    fraction? parts cs = some ⟨parts, n, false⟩ := by
  have hlength : min 6 cs.length = 6 := by rw [h.length]; rfl
  simp [fraction?, hlength, digits?_all h, Number.tenTo]

/-- After a part and a colon the next part is read. -/
theorem clockFrom?_colon (h : IsNumeral 2 n cs) (hrest : rest ≠ []) (parts : List Nat)
    (left : Nat) :
    clockFrom? true parts (left + 1) (cs ++ ':' :: rest) =
      clockFrom? true (parts ++ [n]) left rest := by
  simp [clockFrom?, digits?_append h, hrest]

/-- After a part and a point the fraction is read. -/
theorem clockFrom?_point (h : IsNumeral 2 n cs) (hrest : rest ≠ []) {parts : List Nat}
    (hparts : parts ≠ []) (left : Nat) :
    clockFrom? true parts (left + 1) (cs ++ '.' :: rest) = fraction? (parts ++ [n]) rest := by
  have hcount : parts.length ≠ 0 := by simpa using hparts
  simp [clockFrom?, digits?_append h, hrest, hcount]

theorem clock?_numerals {hour minute second microsecond : Nat} {hs ms ss fs : List Char}
    (hhour : IsNumeral 2 hour hs) (hminute : IsNumeral 2 minute ms)
    (hsecond : IsNumeral 2 second ss) (hfraction : IsNumeral 6 microsecond fs) :
    clock? (hs ++ ':' :: (ms ++ ':' :: (ss ++ '.' :: fs))) =
      some ⟨[hour, minute, second], microsecond, false⟩ := by
  have hfilled : fs ≠ [] := by
    rintro rfl
    cases hfraction.length
  rw [clock?, clockFrom?_colon hhour (by simp), clockFrom?_colon hminute (by simp),
    clockFrom?_point hsecond hfilled (by simp), fraction?_numeral hfraction]
  rfl

/-- The digits, colons and the point of a time go on up to the sign of its zone. -/
theorem time?_append {c : Clock} {offset : Int} (h : clock? cs = some c)
    (hplus : '+' ∉ cs) (hminus : '-' ∉ cs) {zone : List Char}
    (hzone : zone? false zone = some offset) :
    time? (cs ++ '+' :: zone) = some (c, some offset) := by
  have hrun : ∀ d ∈ cs, (!(d == '+' || d == '-')) = true := by
    intro d hd
    have hne : d ≠ '+' := fun heq => hplus (heq ▸ hd)
    have hne' : d ≠ '-' := fun heq => hminus (heq ▸ hd)
    simp [hne, hne']
  have hspan : (cs ++ '+' :: zone).span (fun d => !(d == '+' || d == '-')) = (cs, '+' :: zone) :=
    Text.span_run hrun (by simp)
  rw [time?, hspan]
  simp [h, hzone]

/-! ### The stamp -/

/-- The date before a separator, if it has its hyphens and no week, is of ten characters. -/
theorem dateLength_append {ys ds : List Char} {d : Char} (hyear : ys.length = 4) (hd : d ≠ 'W')
    (hlength : 3 ≤ ds.length) : dateLength (ys ++ '-' :: d :: ds) = 10 := by
  have hfour : (ys ++ '-' :: d :: ds).getD 4 '\x00' = '-' := by
    rw [← hyear]
    simp
  have hfive : (ys ++ '-' :: d :: ds).getD 5 '\x00' = d := by
    have hcut : ys ++ '-' :: d :: ds = (ys ++ ['-']) ++ d :: ds := by simp
    have hbefore : (ys ++ ['-']).length = 5 := by simp [hyear]
    rw [hcut, ← hbefore]
    simp
  have hlong : (ys ++ '-' :: d :: ds).length ≠ 7 := by
    simp only [List.length_append, List.length_cons]
    omega
  simp only [dateLength, hfour, hfive, if_neg hlong, if_neg hd, if_true]

theorem stamp?_append {date : Date} {time : List Char} {separator : Char} {c : Clock}
    {offset : Option Int} (hlength : cs.length = 10)
    (hdateLength : dateLength (cs ++ separator :: time) = 10) (hdate : date? cs = some date)
    (htime : time? time = some (c, offset)) :
    stamp? (cs ++ separator :: time) =
      let s : Stamp := ⟨date, c.parts.getD 0 0, c.parts.getD 1 0, c.parts.getD 2 0, c.microsecond,
        offset⟩
      if s.isValid then some s else none := by
  have htake : (cs ++ separator :: time).take 10 = cs := List.take_left' hlength
  have hdrop : (cs ++ separator :: time).drop 10 = separator :: time := List.drop_left' hlength
  have hlong : ¬(cs ++ separator :: time).length < 7 := by
    rw [List.length_append, hlength]
    omega
  simp only [stamp?, hdateLength, if_neg hlong, htake, hdrop, hdate, htime]
  rfl

/-- A date, a time to the microsecond and no distance from universal time. -/
theorem stamp?_numerals {year month day hour minute second microsecond : Nat}
    {ys ms ds hs is ss fs : List Char} (hyear : IsNumeral 4 year ys) (hmonth : IsNumeral 2 month ms)
    (hday : IsNumeral 2 day ds) (hhour : IsNumeral 2 hour hs) (hminute : IsNumeral 2 minute is)
    (hsecond : IsNumeral 2 second ss) (hfraction : IsNumeral 6 microsecond fs)
    (hvalid :
      Stamp.isValid ⟨⟨year, month, day⟩, hour, minute, second, microsecond, some 0⟩ = true) :
    stamp? (ys ++ '-' :: (ms ++ '-' :: (ds ++ 'T' ::
        (hs ++ ':' :: (is ++ ':' :: (ss ++ '.' :: (fs ++ '+' :: "00:00".toList))))))) =
      some ⟨⟨year, month, day⟩, hour, minute, second, microsecond, some 0⟩ := by
  have hdate := date?_numerals hyear hmonth hday
  have hclock := clock?_numerals hhour hminute hsecond hfraction
  have hzone : zone? false "00:00".toList = some 0 := by decide +kernel
  have hsigns : ∀ c : Char, c.isDigit = false → c ≠ ':' → c ≠ '.' →
      c ∉ hs ++ ':' :: (is ++ ':' :: (ss ++ '.' :: fs)) := by
    intro c hc hcolon hpoint
    simp [hhour.not_mem hc, hminute.not_mem hc, hsecond.not_mem hc, hfraction.not_mem hc, hcolon,
      hpoint]
  have htime := time?_append hclock (hsigns '+' (by decide) (by decide) (by decide))
    (hsigns '-' (by decide) (by decide) (by decide)) hzone
  have hten : (ys ++ '-' :: (ms ++ '-' :: ds)).length = 10 := by
    simp [hyear.length, hmonth.length, hday.length]
  have hdateLength : ∀ time, dateLength ((ys ++ '-' :: (ms ++ '-' :: ds)) ++ 'T' :: time) = 10 := by
    intro time
    obtain ⟨m, rest, rfl⟩ : ∃ m rest, ms = m :: rest :=
      List.exists_cons_of_length_pos (by rw [hmonth.length]; decide)
    have hweek : m ≠ 'W' := by
      rintro rfl
      exact absurd (hmonth.digits 'W' List.mem_cons_self) (by decide)
    simp only [List.append_assoc, List.cons_append]
    refine dateLength_append hyear.length hweek ?_
    simp [hday.length]
    omega
  have hstamp := stamp?_append hten (hdateLength _) hdate htime
  simp only [List.getD_cons_zero, List.getD_cons_succ, hvalid, if_true] at hstamp
  simpa using hstamp

theorem replaceChar_of_not_mem {c : Char} {replacement : List Char} (h : c ∉ cs) :
    Text.replaceChar c replacement cs = cs := by
  induction cs with
  | nil => rfl
  | cons d ds ih =>
      rw [List.mem_cons, not_or] at h
      obtain ⟨hne, hrest⟩ := h
      rw [Text.replaceChar, List.flatMap_cons, if_neg (fun heq => hne heq.symm)]
      exact congrArg (d :: ·) (ih hrest)

end Iso

namespace Instant

variable {t : Instant}

/-- The stamp that the text of an instant is read as. -/
def stamp (t : Instant) : Stamp :=
  let time := t.microseconds % day
  let seconds := time / second
  ⟨t.date, seconds / 3600, seconds / 60 % 60, seconds % 60, time % second, some 0⟩

theorem stamp_microseconds (h : t.IsCalendrical) : t.stamp.microseconds = t.microseconds := by
  have hnumber := (date_spec h).2
  have hday : day = 86400 * 1000000 := rfl
  have hsecond : second = 1000000 := rfl
  simp only [Stamp.microseconds, stamp, Stamp.timeOfDay, hnumber, Option.getD_some, hsecond, hday]
  omega

theorem stamp_isValid (h : t.IsCalendrical) : t.stamp.isValid = true := by
  have hdate := (date_spec h).1
  have htime : t.microseconds % day < 86400 * 1000000 := Nat.mod_lt _ (by decide)
  have hday : day = 86400 * 1000000 := rfl
  have hsecond : second = 1000000 := rfl
  simp only [Stamp.isValid, stamp, hdate, hsecond, Bool.and_eq_true, decide_eq_true_eq, true_and]
  generalize t.microseconds % day = time at htime ⊢
  omega

theorem isBlank_of_isDigit {c : Char} (h : c.isDigit = true) : Text.isBlank c = false := by
  have hbounds := isDigit_bounds h
  simp [Text.isBlank]
  omega

/-- There are no blanks in the text of an instant, and no `Z` that would stand for its zone. -/
theorem mem_text (h : t.IsCalendrical) {c : Char} (hc : c ∈ t.text.toList) :
    Text.isBlank c = false ∧ c ≠ 'Z' := by
  rcases mem_of_inPlace (text_form t h) c hc with hdigit | hform
  · refine ⟨isBlank_of_isDigit hdigit, ?_⟩
    rintro rfl
    cases hdigit
  · have hsigns : "dddd-dd-ddTdd:dd:dd.dddddd+00:00".toList.all
        (fun d => !Text.isBlank d && d != 'Z') = true := by decide
    simpa using List.all_eq_true.mp hsigns c hform

/-- **The text of an instant is read as a stamp of it.** -/
theorem parse?_text (h : t.IsCalendrical) : Iso.parse? t.text = some t.stamp := by
  have hfits := fits h
  simp only [numbers, instantLayout, Fits, List.forall₂_cons, List.forall₂_nil_right_iff] at hfits
  obtain ⟨hyear, hmonth, hday, hhour, hminute, hsecond, hmicrosecond, -⟩ := hfits
  have htrim : Text.trim t.text.toList = t.text.toList :=
    Text.trim_of_no_blank fun c hc => (mem_text h hc).1
  have hplain : Text.replaceChar 'Z' "+00:00".toList t.text.toList = t.text.toList :=
    Iso.replaceChar_of_not_mem fun hmem => (mem_text h hmem).2 rfl
  have hstamp := Iso.stamp?_numerals (isNumeral_padded hyear.1 hyear.2)
    (isNumeral_padded hmonth.1 hmonth.2) (isNumeral_padded hday.1 hday.2)
    (isNumeral_padded hhour.1 hhour.2) (isNumeral_padded hminute.1 hminute.2)
    (isNumeral_padded hsecond.1 hsecond.2) (isNumeral_padded hmicrosecond.1 hmicrosecond.2)
    (stamp_isValid h)
  have hzone : "+00:00".toList = '+' :: "00:00".toList := rfl
  rw [Iso.parse?, htrim, hplain, toList_text]
  simpa only [laidOut, instantLayout, numbers, stamp, hzone, List.cons_append, List.nil_append,
    List.append_nil] using hstamp

end Instant
end VacancyLedger.Time
