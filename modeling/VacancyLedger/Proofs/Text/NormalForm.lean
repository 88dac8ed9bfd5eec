/-
Collapsed texts as normal forms.

A text can be taken apart in one way only into words and the blanks around them (`Runs`), and
`words` takes it apart so.  The collapsed form has the same words, and of the blanks it keeps one
space between each two of them; so two texts are equal up to blanks exactly if their collapsed
forms are equal.  A blank between two texts ends the words of the first, so whatever is collapsed
of texts joined by a space depends on their collapsed forms alone; what queries look at is such a
text.
-/
import VacancyLedger.Proofs.Text.Blank
import VacancyLedger.Proofs.Text.Scan
import VacancyLedger.Query.Match

namespace VacancyLedger.Text

variable {c : Char} {cs ds gap : List Char} {ws : List (List Char)}

/-! ### Words and the blanks around them -/

/-- The text is made of these words in this order, each of which ends where the text does or a
blank stands, and otherwise of blanks. -/
inductive Runs : List Char → List (List Char) → Prop
  | blank {gap : List Char} (hgap : ∀ c ∈ gap, isBlank c = true) : Runs gap []
  | word {gap word rest : List Char} {ws : List (List Char)} (hgap : ∀ c ∈ gap, isBlank c = true)
      (hword : IsWord word) (hend : ∀ c ∈ rest.head?, isBlank c = true) (hrest : Runs rest ws) :
      Runs (gap ++ (word ++ rest)) (word :: ws)

theorem words_blank_append (hgap : ∀ c ∈ gap, isBlank c = true) (cs : List Char) :
    words (gap ++ cs) = words cs := by
  induction gap with
  | nil => rfl
  | cons c gap ih =>
      obtain ⟨hc, hgap⟩ := List.forall_mem_cons.mp hgap
      rw [List.cons_append, words_cons, if_pos hc, ih hgap]

theorem Runs.words_eq (h : Runs cs ws) : words cs = ws := by
  induction h with
  | blank hgap => exact words_eq_nil_iff.mpr hgap
  | word hgap hword hend _ ih => rw [words_blank_append hgap, words_append hword hend, ih]

theorem Runs.cons_blank (hc : isBlank c = true) (h : Runs cs ws) : Runs (c :: cs) ws := by
  cases h with
  | blank hgap => exact .blank (List.forall_mem_cons.mpr ⟨hc, hgap⟩)
  | word hgap hword hend hrest =>
      exact .word (List.forall_mem_cons.mpr ⟨hc, hgap⟩) hword hend hrest

theorem runs_words (cs : List Char) : Runs cs (words cs) := by
  fun_induction words cs with
  | case1 => exact .blank (List.forall_mem_nil _)
  | case2 c cs hc ih => exact ih.cons_blank hc
  | case3 c cs hc ih =>
      have hword : IsWord (c :: cs.takeWhile (!isBlank ·)) := by
        refine ⟨List.cons_ne_nil _ _, List.forall_mem_cons.mpr ⟨by simpa using hc, fun d hd => ?_⟩⟩
        simpa using List.mem_takeWhile_imp hd
      have hend : ∀ d ∈ (cs.dropWhile (!isBlank ·)).head?, isBlank d = true := by
        intro d hd
        simpa using head?_dropWhile _ _ d hd
      have hruns : Runs ([] ++ (c :: cs.takeWhile (!isBlank ·) ++ cs.dropWhile (!isBlank ·))) _ :=
        .word (List.forall_mem_nil _) hword hend ih
      rwa [List.nil_append, List.cons_append, List.takeWhile_append_dropWhile] at hruns

/-- There is one way to take a text apart, and `words` finds it. -/
theorem runs_iff : Runs cs ws ↔ words cs = ws :=
  ⟨Runs.words_eq, fun h => h ▸ runs_words cs⟩

/-- A blank ends the words before it. -/
theorem Runs.append_blank (h : Runs cs ws) (hc : isBlank c = true) (ds : List Char) :
    words (cs ++ c :: ds) = ws ++ words ds := by
  induction h with
  | blank hgap => rw [words_blank_append hgap, words_cons, if_pos hc, List.nil_append]
  | @word gap word rest ws hgap hword hend _ ih =>
      have hblank : ∀ d ∈ (rest ++ c :: ds).head?, isBlank d = true := by
        cases rest with
        | nil => simpa using hc
        | cons d rest => exact hend
      rw [List.append_assoc, List.append_assoc, words_blank_append hgap, words_append hword hblank,
        ih, List.cons_append]

/-! ### What is left of a text -/

theorem Runs.flatten_eq (h : Runs cs ws) : ws.flatten = cs.filter (!isBlank ·) := by
  have hnone : ∀ gap : List Char, (∀ c ∈ gap, isBlank c = true) →
      gap.filter (!isBlank ·) = [] := fun gap hgap =>
    List.filter_eq_nil_iff.mpr fun c hc => by simp [hgap c hc]
  induction h with
  | blank hgap => exact (hnone _ hgap).symm
  | @word gap word rest ws hgap hword _ _ ih =>
      have hall : word.filter (!isBlank ·) = word :=
        List.filter_eq_self.mpr fun c hc => by simp [hword.2 c hc]
      rw [List.flatten_cons, ih, List.filter_append, List.filter_append, hnone gap hgap, hall,
        List.nil_append]

theorem words_collapseChars (cs : List Char) : words (collapseChars cs) = words cs :=
  words_intercalate fun _ h => isWord_of_mem_words h

theorem filter_collapseChars (cs : List Char) :
    (collapseChars cs).filter (!isBlank ·) = cs.filter (!isBlank ·) := by
  rw [← (runs_words cs).flatten_eq, ← words_collapseChars, (runs_words _).flatten_eq]

/-- The only blanks are single spaces, each between two characters that are no blanks. -/
def IsSpaced (cs : List Char) : Prop :=
  ∀ before c after, cs = before ++ c :: after → isBlank c = true →
    c = ' ' ∧ (∃ d ∈ before.getLast?, isBlank d = false) ∧ ∃ d ∈ after.head?, isBlank d = false

theorem IsWord.head? {word : List Char} (h : IsWord word) (rest : List Char) :
    ∃ d ∈ (word ++ rest).head?, isBlank d = false := by
  obtain ⟨d, ds, rfl⟩ := List.exists_cons_of_ne_nil h.1
  exact ⟨d, rfl, h.2 d List.mem_cons_self⟩

theorem IsWord.getLast? {word : List Char} (h : IsWord word) :
    ∃ d ∈ word.getLast?, isBlank d = false :=
  ⟨word.getLast h.1, List.getLast?_eq_some_getLast h.1, h.2 _ (List.getLast_mem h.1)⟩

/-- A character that a text does not hold stands behind it. -/
theorem prefix_of_not_mem {before rest after : List Char} (h : ds ++ rest = before ++ c :: after)
    (hc : c ∉ ds) : ds <+: before := by
  rcases List.append_eq_append_iff.mp h with ⟨between, hbefore, -⟩ | ⟨between, hds, hrest⟩
  · exact ⟨between, hbefore.symm⟩
  · cases between with
    | nil => exact ⟨[], by rw [hds, List.append_nil, List.append_nil]⟩
    | cons d between =>
        obtain ⟨rfl, -⟩ := List.cons.inj hrest
        exact absurd (by simp [hds]) hc

theorem isSpaced_intercalate (h : ∀ word ∈ ws, IsWord word) :
    IsSpaced (List.intercalate [' '] ws) := by
  induction ws with
  | nil =>
      intro before c after hsplit
      simp at hsplit
  | cons word rest ih =>
      obtain ⟨hword, hrest⟩ := List.forall_mem_cons.mp h
      intro before c after hsplit hc
      have hout : c ∉ word := fun hin => by simp [hword.2 c hin] at hc
      cases rest with
      | nil =>
          rw [List.intercalate_singleton] at hsplit
          exact absurd (by simp [hsplit]) hout
      | cons next rest =>
          have hnext := (List.forall_mem_cons.mp hrest).1
          rw [List.intercalate_cons_cons, List.append_assoc, List.singleton_append] at hsplit
          obtain ⟨between, rfl⟩ := prefix_of_not_mem hsplit hout
          rw [List.append_assoc, List.append_cancel_left_eq] at hsplit
          cases between with
          | nil =>
              -- The blank is the space that was put behind the first word.
              obtain ⟨rfl, rfl⟩ := List.cons.inj hsplit
              refine ⟨rfl, (List.append_nil word).symm ▸ hword.getLast?, ?_⟩
              cases rest with
              | nil => simpa using hnext.head? []
              | cons third rest =>
                  rw [List.intercalate_cons_cons, List.append_assoc]
                  exact hnext.head? _
          | cons d between =>
              obtain ⟨-, hlater⟩ := List.cons.inj hsplit
              obtain ⟨hspace, ⟨e, he, heplain⟩, hend⟩ := ih hrest between c after hlater hc
              refine ⟨hspace, ⟨e, ?_, heplain⟩, hend⟩
              rw [List.getLast?_append, List.getLast?_cons, Option.mem_def.mp he]
              rfl

/-! ### The normal form -/

theorem collapseChars_append_blank (hc : isBlank c = true) (cs ds : List Char) :
    collapseChars (cs ++ c :: ds) = collapseChars (collapseChars cs ++ c :: collapseChars ds) := by
  simp only [collapseChars, (runs_words _).append_blank hc]
  rw [words_intercalate fun _ h => isWord_of_mem_words h,
    words_intercalate fun _ h => isWord_of_mem_words h]

theorem collapse_append_space (a b : String) :
    collapse (a ++ " " ++ b) = collapse (collapse a ++ " " ++ collapse b) := by
  simp only [collapse, String.toList_append, String.toList_ofList, List.append_assoc]
  exact congrArg String.ofList (collapseChars_append_blank (by decide) a.toList b.toList)

theorem collapse_eq_iff {a b : String} :
    collapse a = collapse b ↔ ∃ ws, Runs a.toList ws ∧ Runs b.toList ws := by
  simp only [runs_iff, collapse, String.ofList_inj]
  constructor
  · intro h
    refine ⟨words b.toList, ?_, rfl⟩
    rw [← words_collapseChars, h, words_collapseChars]
  · rintro ⟨ws, ha, hb⟩
    rw [collapseChars, collapseChars, ha, hb]

/-- **The collapsed form holds the characters of a text that are no blanks, in order and with single
spaces within; it is empty exactly for a blank text, the same for two texts exactly if they are made
of the same words, and its own collapsed form.  What is collapsed of two texts joined by a space
depends on their collapsed forms alone, and so does what queries look at.** -/
theorem collapse_normal_form (a b : String) :
    (collapse a).toList.filter (!isBlank ·) = a.toList.filter (!isBlank ·) ∧
      IsSpaced (collapse a).toList ∧
      (collapse a = "" ↔ isAllBlank a = true) ∧
      (collapse a = collapse b ↔ ∃ ws, Runs a.toList ws ∧ Runs b.toList ws) ∧
      collapse (collapse a) = collapse a ∧
      collapse (a ++ " " ++ b) = collapse (collapse a ++ " " ++ collapse b) ∧
      Query.searchable a b = Query.searchable (collapse a) (collapse b) := by
  have hchars : (collapse a).toList = collapseChars a.toList := String.toList_ofList
  refine ⟨?_, ?_, ?_, collapse_eq_iff, collapse_collapse a, collapse_append_space a b, ?_⟩
  · rw [hchars, filter_collapseChars]
  · rw [hchars]
    exact isSpaced_intercalate fun _ h => isWord_of_mem_words h
  · rw [← String.toList_eq_nil_iff, hchars, collapseChars_eq_nil_iff, isAllBlank_iff]
  · rw [Query.searchable, Query.searchable, collapse_append_space]

end VacancyLedger.Text
