/-
Texts that are not read as JSON.

A blank text holds no value.  An integer of too many digits is refused in a way of its own, which
tells how many they are.
-/
import VacancyLedger.Json.Reader
import VacancyLedger.Proofs.Text.Blank
import VacancyLedger.Proofs.Text.Scan
import VacancyLedger.Proofs.Time.Reading

namespace VacancyLedger.Json

variable {cs : List Char}

/-! ### Where no text, list, object or name starts -/

/-- The characters that the values other than numbers start with. -/
def openings : List Char := ['"', '[', '\x7b', 'n', 't', 'f', 'N', 'I', '-']

theorem dropPrefix?_of_head {p : Char} {ps : List Char} (h : ∀ c ∈ cs.head?, c ≠ p) :
    Text.dropPrefix? (p :: ps) cs = none := by
  cases cs with
  | nil => rfl
  | cons c cs =>
      have hne : c ≠ p := h c rfl
      simp [Text.dropPrefix?, Ne.symm hne]

theorem readAtom_of_head (h : ∀ c ∈ cs.head?, c ∉ openings) : readAtom cs = readNumber cs := by
  have hnone : ∀ entry ∈ names, Text.dropPrefix? entry.1.toList cs = none := by
    intro entry hentry
    simp only [names, List.mem_cons, List.not_mem_nil, or_false] at hentry
    rcases hentry with rfl | rfl | rfl | rfl | rfl | rfl <;>
      · refine dropPrefix?_of_head fun c hc => ?_
        rintro rfl
        exact h _ hc (by decide)
  unfold readAtom
  split
  · rename_i answer hfound
    obtain ⟨⟨name, value⟩, hentry, hanswer⟩ := List.exists_of_findSome?_eq_some hfound
    simp only [hnone _ hentry, Option.map_none] at hanswer
    cases hanswer
  · rfl

theorem readValue_of_head (marks fuel : Nat) (h : ∀ c ∈ cs.head?, c ∉ openings) :
    readValue marks (fuel + 1) cs = readNumber cs := by
  rw [← readAtom_of_head h, readValue]
  all_goals
    rintro rest rfl
    exact h _ rfl (by decide)

/-- Where no other value starts, a text is refused as the number that would have to stand there. -/
theorem readChars_of_number_refused {s : String} {failure : Failure}
    (hmark : ∀ c ∈ s.toList.head?, c ≠ '\uFEFF')
    (h : ∀ c ∈ (skipSpace s.toList).head?, c ∉ openings)
    (hnumber : readNumber (skipSpace s.toList) = .error failure) :
    readChars s.toList = .error failure := by
  rw [readChars]
  · rw [readValue_of_head _ _ h, hnumber]
    rfl
  · intro rest hrest
    rw [hrest] at hmark
    exact hmark _ rfl rfl

/-! ### Blank texts -/

theorem blank_not_mem_openings {c : Char} (h : Text.isBlank c = true) : c ∉ openings := by
  have hopening : openings.all (fun c => !Text.isBlank c) = true := by decide
  intro hc
  have hplain := List.all_eq_true.mp hopening c hc
  rw [h] at hplain
  cases hplain

theorem isDigit_of_isBlank {c : Char} (h : Text.isBlank c = true) : c.isDigit = false := by
  rw [← Bool.not_eq_true]
  intro hdigit
  rw [Time.Instant.isBlank_of_isDigit hdigit] at h
  cases h

theorem readNumber_of_blank (h : ∀ c ∈ cs.head?, Text.isBlank c = true) :
    readNumber cs = .error (.malformed .expectedValue cs) := by
  cases cs with
  | nil => rfl
  | cons c cs =>
      have hblank : Text.isBlank c = true := h c rfl
      have hdigit : spanDigits (c :: cs) = ([], c :: cs) := by
        simp [spanDigits, List.span_eq_takeWhile_dropWhile, isDigit_of_isBlank hblank]
      have hinteger : integerDigits (c :: cs) = ([], c :: cs) := by
        rw [integerDigits]
        · exact hdigit
        · rintro rest hrest
          rw [(List.cons.inj hrest).1] at hblank
          exact absurd hblank (by decide)
      rw [readNumber]
      · simp only [hinteger]
      · rintro rest hrest
        rw [(List.cons.inj hrest).1] at hblank
        exact absurd hblank (by decide)

theorem read_of_blank {s : String} (h : Text.isAllBlank s = true) :
    ∃ fault position, read s = .error (.malformed fault position) := by
  have hblank := Text.isAllBlank_iff.mp h
  have hhead : ∀ c ∈ (skipSpace s.toList).head?, Text.isBlank c = true := fun c hc =>
    hblank c ((List.dropWhile_sublist _).subset (List.mem_of_head? hc))
  have hchars := readChars_of_number_refused (s := s) ?_
    (fun c hc => blank_not_mem_openings (hhead c hc)) (readNumber_of_blank hhead)
  · refine ⟨.expectedValue, s.toList.length - (skipSpace s.toList).length, ?_⟩
    rw [read]
    simp only [hchars]
  · rintro c hc rfl
    exact absurd (hblank _ (List.mem_of_head? hc)) (by decide)

/-! ### Long integers -/

theorem readNumber_of_many_digits (hdigits : ∀ c ∈ cs, c.isDigit = true)
    (hzero : ∀ c ∈ cs.head?, c ≠ '0') (hlong : Number.maxDigits < cs.length) :
    readNumber cs = .error (.tooManyDigits ⟨cs.length⟩) := by
  have hspan : spanDigits cs = (cs, []) := by
    have hrun : spanDigits (cs ++ []) = (cs, []) := Text.span_run hdigits nofun
    rwa [List.append_nil] at hrun
  have hinteger : integerDigits cs = (cs, []) := by
    rw [integerDigits]
    · exact hspan
    · rintro rest rfl
      exact hzero _ rfl rfl
  obtain ⟨d, ds, rfl⟩ := List.exists_cons_of_length_pos (Nat.zero_lt_of_lt hlong)
  rw [readNumber]
  · simp only [hinteger, fractionDigits, exponentPart?, List.isEmpty_nil, if_true, Number.convert,
      if_pos hlong]
  · rintro rest hrest
    have hdigit := hdigits d List.mem_cons_self
    rw [(List.cons.inj hrest).1] at hdigit
    exact absurd hdigit (by decide)

theorem isSpace_of_isDigit {c : Char} (h : c.isDigit = true) : isSpace c = false := by
  rw [← Bool.not_eq_true]
  intro hspace
  simp only [isSpace, Bool.or_eq_true, beq_iff_eq] at hspace
  rcases hspace with ((rfl | rfl) | rfl) | rfl <;> cases h

theorem digit_not_mem_openings {c : Char} (h : c.isDigit = true) : c ∉ openings := by
  have hopening : openings.all (fun c => !c.isDigit) = true := by decide
  intro hc
  have hother := List.all_eq_true.mp hopening c hc
  rw [h] at hother
  cases hother

/-- **An integer of too many digits is refused as such.** -/
theorem read_of_many_digits {s : String} (hdigits : ∀ c ∈ s.toList, c.isDigit = true)
    (hzero : ∀ c ∈ s.toList.head?, c ≠ '0') (hlong : Number.maxDigits < s.length) :
    read s = .error (.tooManyDigits ⟨s.length⟩) := by
  have hhead : ∀ c ∈ s.toList.head?, c.isDigit = true := fun c hc =>
    hdigits c (List.mem_of_head? hc)
  have hspace : ∀ c ∈ s.toList.head?, isSpace c = false := fun c hc =>
    isSpace_of_isDigit (hhead c hc)
  have hskip : skipSpace ([] ++ s.toList) = s.toList := Text.dropWhile_run nofun hspace
  rw [List.nil_append] at hskip
  have hnumber := readNumber_of_many_digits hdigits hzero hlong
  rw [← hskip] at hnumber
  have hchars := readChars_of_number_refused (s := s) ?_ ?_ hnumber
  · rw [read]
    simp only [hchars, hskip, String.length_toList]
  · rintro c hc rfl
    cases hhead _ hc
  · rw [hskip]
    exact fun c hc => digit_not_mem_openings (hhead c hc)

end VacancyLedger.Json
