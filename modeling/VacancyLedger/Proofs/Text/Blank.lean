/-
What collapsing leaves of a text.

A text has words unless it is blank, and no word is empty; so the collapsed form of a text
is empty exactly if the text is blank.  The words of a collapsed text are those of the text,
so it stays as it is if it is collapsed again.
-/
import Mathlib.Data.List.TakeWhile
import VacancyLedger.Text.Blank

namespace VacancyLedger.Text

variable {cs : List Char}

theorem isAllBlank_iff {s : String} : isAllBlank s = true ↔ ∀ c ∈ s.toList, isBlank c = true := by
  simp [isAllBlank]

theorem words_cons (c : Char) (cs : List Char) :
    words (c :: cs) =
      if isBlank c then words cs
      else (c :: cs.takeWhile (!isBlank ·)) :: words (cs.dropWhile (!isBlank ·)) := by
  rw [words.eq_def]

theorem ne_nil_of_mem_words {word : List Char} (h : word ∈ words cs) : word ≠ [] := by
  fun_induction words cs with
  | case1 => cases h
  | case2 c cs _ ih => exact ih h
  | case3 c cs _ ih =>
      rcases List.mem_cons.mp h with rfl | h
      · exact List.cons_ne_nil _ _
      · exact ih h

theorem words_eq_nil_iff : words cs = [] ↔ ∀ c ∈ cs, isBlank c = true := by
  fun_induction words cs with
  | case1 => simp
  | case2 c cs hc ih => simp [hc, ih]
  | case3 c cs hc ih => simp [hc]

theorem collapseChars_eq_nil_iff : collapseChars cs = [] ↔ ∀ c ∈ cs, isBlank c = true := by
  rw [← words_eq_nil_iff, collapseChars]
  cases hwords : words cs with
  | nil => simp
  | cons word rest =>
      have hword : word ≠ [] := by
        have hmem : word ∈ words cs := by simp [hwords]
        exact ne_nil_of_mem_words hmem
      cases rest <;> simp [hword]

theorem trim_of_no_blank (h : ∀ c ∈ cs, isBlank c = false) : trim cs = cs := by
  have hdrop : ∀ ds : List Char, (∀ c ∈ ds, isBlank c = false) → ds.dropWhile isBlank = ds := by
    intro ds hds
    cases ds with
    | nil => rfl
    | cons c ds => exact List.dropWhile_cons_of_neg (by simp [hds c List.mem_cons_self])
  rw [trim, trimStart, hdrop cs h, trimEnd, hdrop _ fun c hc => h c (List.mem_reverse.mp hc),
    List.reverse_reverse]

/-! ### Collapsing again -/

/-- What words are made of. -/
def IsWord (word : List Char) : Prop := word ≠ [] ∧ ∀ c ∈ word, isBlank c = false

theorem isWord_of_mem_words {word : List Char} (h : word ∈ words cs) : IsWord word := by
  refine ⟨ne_nil_of_mem_words h, ?_⟩
  fun_induction words cs with
  | case1 => cases h
  | case2 c cs _ ih => exact ih h
  | case3 c cs hc ih =>
      rcases List.mem_cons.mp h with rfl | h
      · refine List.forall_mem_cons.mpr ⟨by simpa using hc, fun d hd => ?_⟩
        simpa using List.mem_takeWhile_imp hd
      · exact ih h

/-- A word ends where the text does or a blank stands. -/
theorem words_append {word rest : List Char} (hword : IsWord word)
    (hrest : ∀ c ∈ rest.head?, isBlank c = true) : words (word ++ rest) = word :: words rest := by
  obtain ⟨hne, hfree⟩ := hword
  cases word with
  | nil => exact absurd rfl hne
  | cons c word =>
      have hword : ∀ d ∈ word, (!isBlank d) = true := by
        intro d hd
        rw [hfree d (List.mem_cons_of_mem c hd)]
        rfl
      have htake : rest.takeWhile (!isBlank ·) = [] := by
        cases rest with
        | nil => rfl
        | cons d rest =>
            have hd : isBlank d = true := hrest d rfl
            simp [hd]
      have hdrop : rest.dropWhile (!isBlank ·) = rest := by
        cases rest with
        | nil => rfl
        | cons d rest =>
            have hd : isBlank d = true := hrest d rfl
            simp [hd]
      rw [List.cons_append, words_cons, if_neg (by simp [hfree c List.mem_cons_self]),
        List.takeWhile_append_of_pos hword, List.dropWhile_append_of_pos hword, htake, hdrop,
        List.append_nil]

theorem words_intercalate {ws : List (List Char)} (h : ∀ word ∈ ws, IsWord word) :
    words (List.intercalate [' '] ws) = ws := by
  induction ws with
  | nil => exact words_eq_nil_iff.mpr nofun
  | cons word rest ih =>
      obtain ⟨hword, hrest⟩ := List.forall_mem_cons.mp h
      cases rest with
      | nil =>
          have hlast : words (word ++ []) = word :: words [] := words_append hword nofun
          have hnil : words [] = [] := words_eq_nil_iff.mpr nofun
          rw [List.append_nil, hnil] at hlast
          simpa using hlast
      | cons next rest =>
          have hblank : isBlank ' ' = true := by decide
          rw [List.intercalate_cons_cons, List.append_assoc,
            words_append hword (by simpa using hblank), List.singleton_append, words_cons,
            if_pos hblank, ih hrest]

theorem collapseChars_collapseChars (cs : List Char) :
    collapseChars (collapseChars cs) = collapseChars cs := by
  rw [collapseChars, collapseChars, words_intercalate fun _ h => isWord_of_mem_words h]

@[simp] theorem collapse_collapse (s : String) : collapse (collapse s) = collapse s := by
  simp [collapse, collapseChars_collapseChars]

end VacancyLedger.Text
