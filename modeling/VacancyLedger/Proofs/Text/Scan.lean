/-
What cutting and searching find.

The functions that cut a text answer with its parts.  Here a text is put together from parts
and cut again: at a character that the first part does not hold, it is cut behind that part,
and a run of one kind of characters that is followed by none of them is cut off whole.  Parts
joined at a character are all found again, if none of them holds it; if one may, two pairs of
parts can make the same text, and how they differ is said.
Starting with a text and holding a text are what the library calls prefix and infix.
-/
import Mathlib.Data.List.TakeDrop
import Mathlib.Data.List.TakeWhile
import VacancyLedger.Text.Scan

namespace VacancyLedger.Text

variable {c : Char} {cs before after needle : List Char}

/-! ### Cutting at a character -/

theorem cutAt_append (h : c ∉ before) (after : List Char) :
    cutAt c (before ++ c :: after) = (before, some after) := by
  induction before with
  | nil => simp [cutAt]
  | cons d ds ih =>
      rw [List.mem_cons, not_or] at h
      simp [cutAt, Ne.symm h.1, ih h.2]

theorem cutAt_of_not_mem (h : c ∉ cs) : cutAt c cs = (cs, none) := by
  induction cs with
  | nil => rfl
  | cons d ds ih =>
      rw [List.mem_cons, not_or] at h
      simp [cutAt, Ne.symm h.1, ih h.2]

/-- A text is cut at the first occurrence of a character, or holds none. -/
theorem cutAt_cases (c : Char) (cs : List Char) :
    (c ∉ cs ∧ cutAt c cs = (cs, none)) ∨
      ∃ before after, cs = before ++ c :: after ∧ c ∉ before ∧
        cutAt c cs = (before, some after) := by
  by_cases hin : c ∈ cs
  · obtain ⟨before, after, rfl, hbefore⟩ := List.eq_append_cons_of_mem hin
    exact .inr ⟨before, after, rfl, hbefore, cutAt_append hbefore after⟩
  · exact .inl ⟨hin, cutAt_of_not_mem hin⟩

theorem prefix_cutAt_fst (c : Char) (cs : List Char) : (cutAt c cs).1 <+: cs := by
  rcases cutAt_cases c cs with ⟨-, hcut⟩ | ⟨before, after, rfl, -, hcut⟩
  · simp [hcut]
  · simp [hcut]

theorem not_mem_cutAt_fst (c : Char) (cs : List Char) : c ∉ (cutAt c cs).1 := by
  rcases cutAt_cases c cs with ⟨hfree, hcut⟩ | ⟨before, after, -, hbefore, hcut⟩
  · rwa [hcut]
  · rwa [hcut]

theorem mem_of_cutAt_snd {after : List Char} (h : (cutAt c cs).2 = some after) {d : Char}
    (hd : d ∈ after) : d ∈ cs := by
  rcases cutAt_cases c cs with ⟨-, hcut⟩ | ⟨before, rest, rfl, -, hcut⟩
  · rw [hcut] at h
    cases h
  · rw [hcut] at h
    cases h
    exact List.mem_append_right _ (List.mem_cons_of_mem _ hd)

/-- What follows the last occurrence of a character holds it no more. -/
theorem cutAtLast_snd (c : Char) (cs : List Char) :
    c ∉ (cutAtLast c cs).2 ∧ ∀ d ∈ (cutAtLast c cs).2, d ∈ cs := by
  unfold cutAtLast
  rcases cutAt_cases c cs.reverse with ⟨hfree, hcut⟩ | ⟨before, after, hcs, hbefore, hcut⟩
  · rw [hcut]
    exact ⟨by simpa using hfree, fun d hd => hd⟩
  · rw [hcut]
    refine ⟨by simpa using hbefore, fun d hd => List.mem_reverse.mp ?_⟩
    rw [hcs]
    exact List.mem_append_left _ (List.mem_reverse.mp hd)

theorem cutAtLast_of_not_mem (h : c ∉ cs) : cutAtLast c cs = (none, cs) := by
  rw [cutAtLast, cutAt_of_not_mem (by simpa using h)]

theorem cutAtLast_append (h : c ∉ after) (before : List Char) :
    cutAtLast c (before ++ c :: after) = (some before, after) := by
  have hreverse : (before ++ c :: after).reverse = after.reverse ++ c :: before.reverse := by simp
  rw [cutAtLast, hreverse, cutAt_append (by simpa using h)]
  simp

theorem cutAtLast_cases (c : Char) (cs : List Char) :
    (c ∉ cs ∧ cutAtLast c cs = (none, cs)) ∨
      ∃ before after, cs = before ++ c :: after ∧ c ∉ after ∧
        cutAtLast c cs = (some before, after) := by
  by_cases hin : c ∈ cs.reverse
  · obtain ⟨after, before, hcs, hafter⟩ := List.eq_append_cons_of_mem hin
    have hwhole : cs = before.reverse ++ c :: after.reverse := by
      rw [← List.reverse_reverse cs, hcs]
      simp
    have hfree : c ∉ after.reverse := by simpa using hafter
    exact .inr ⟨_, _, hwhole, hfree, by rw [hwhole, cutAtLast_append hfree]⟩
  · rw [List.mem_reverse] at hin
    exact .inl ⟨hin, cutAtLast_of_not_mem hin⟩

/-! ### All parts between the occurrences of a character -/

theorem splitAll_of_not_mem (h : c ∉ cs) : splitAll c cs = [cs] := by
  induction cs with
  | nil => rfl
  | cons d ds ih =>
      rw [List.mem_cons, not_or] at h
      rw [splitAll, if_neg (Ne.symm h.1), ih h.2]

theorem splitAll_append (h : c ∉ before) (after : List Char) :
    splitAll c (before ++ c :: after) = before :: splitAll c after := by
  induction before with
  | nil => rw [List.nil_append, splitAll, if_pos rfl]
  | cons d ds ih =>
      rw [List.mem_cons, not_or] at h
      rw [List.cons_append, splitAll, if_neg (Ne.symm h.1), ih h.2]

/-- A part holds characters of the text, but not the one it is cut at. -/
theorem mem_splitAll {part : List Char} (h : part ∈ splitAll c cs) :
    c ∉ part ∧ ∀ d ∈ part, d ∈ cs := by
  induction cs generalizing part with
  | nil =>
      rw [splitAll, List.mem_singleton] at h
      subst h
      exact ⟨List.not_mem_nil, nofun⟩
  | cons first rest ih =>
      rw [splitAll] at h
      split at h
      · rcases List.mem_cons.mp h with rfl | h
        · exact ⟨List.not_mem_nil, nofun⟩
        · obtain ⟨hfree, hmem⟩ := ih h
          exact ⟨hfree, fun d hd => List.mem_cons_of_mem _ (hmem d hd)⟩
      · next hfirst =>
          -- The first character joins the first of the parts of the rest.
          have hjoined : ∀ more, (∀ d ∈ more, d ∈ rest) → c ∉ more →
              c ∉ first :: more ∧ ∀ d ∈ first :: more, d ∈ first :: rest := by
            intro more hmore hfree
            refine ⟨?_, List.forall_mem_cons.mpr ⟨List.mem_cons_self, fun d hd => ?_⟩⟩
            · rw [List.mem_cons, not_or]
              exact ⟨Ne.symm hfirst, hfree⟩
            · exact List.mem_cons_of_mem _ (hmore d hd)
          split at h
          · rw [List.mem_singleton] at h
            subst h
            exact hjoined [] nofun List.not_mem_nil
          · next more parts hparts =>
              rcases List.mem_cons.mp h with rfl | h
              · obtain ⟨hfree, hmem⟩ := ih (hparts ▸ List.mem_cons_self)
                exact hjoined more hmem hfree
              · obtain ⟨hfree, hmem⟩ := ih (hparts ▸ List.mem_cons_of_mem _ h)
                exact ⟨hfree, fun d hd => List.mem_cons_of_mem _ (hmem d hd)⟩

/-- Every character of a text but the one it is cut at is in a part. -/
theorem exists_mem_splitAll {d : Char} (hd : d ∈ cs) (hne : d ≠ c) :
    ∃ part ∈ splitAll c cs, d ∈ part := by
  induction hlength : cs.length using Nat.strong_induction_on generalizing cs with
  | _ length ih =>
      rcases cutAt_cases c cs with ⟨hfree, -⟩ | ⟨before, after, rfl, hfree, -⟩
      · rw [splitAll_of_not_mem hfree]
        exact ⟨cs, List.mem_singleton_self cs, hd⟩
      · rw [splitAll_append hfree]
        rcases List.mem_append.mp hd with hbefore | hafter
        · exact ⟨before, List.mem_cons_self, hbefore⟩
        · have hafter : d ∈ after := (List.mem_cons.mp hafter).resolve_left hne
          rw [List.length_append, List.length_cons] at hlength
          obtain ⟨part, hpart, hin⟩ := ih after.length (by omega) hafter rfl
          exact ⟨part, List.mem_cons_of_mem before hpart, hin⟩

/-- Parts that are joined are found again. -/
theorem splitAll_intercalate {parts : List (List Char)} (hne : parts ≠ [])
    (h : ∀ part ∈ parts, c ∉ part) : splitAll c (List.intercalate [c] parts) = parts := by
  induction parts with
  | nil => exact absurd rfl hne
  | cons part rest ih =>
      obtain ⟨hpart, hrest⟩ := List.forall_mem_cons.mp h
      cases rest with
      | nil => simpa using splitAll_of_not_mem hpart
      | cons next rest =>
          rw [List.intercalate_cons_cons, List.append_assoc, List.singleton_append,
            splitAll_append hpart, ih (List.cons_ne_nil _ _) hrest]

theorem mem_intercalate {d : Char} {parts : List (List Char)}
    (h : d ∈ List.intercalate [c] parts) : d = c ∨ ∃ part ∈ parts, d ∈ part := by
  induction parts with
  | nil => simp at h
  | cons part rest ih =>
      cases rest with
      | nil => exact .inr ⟨part, List.mem_cons_self, by simpa using h⟩
      | cons next rest =>
          rw [List.intercalate_cons_cons, List.append_assoc, List.mem_append,
            List.singleton_append, List.mem_cons] at h
          rcases h with h | h | h
          · exact .inr ⟨part, List.mem_cons_self, h⟩
          · exact .inl h
          · exact (ih h).imp_right fun ⟨found, hin, hd⟩ =>
              ⟨found, List.mem_cons_of_mem _ hin, hd⟩

/-- Two texts joined at a character are two others joined at it if they are the same, or if one
pair is the other with the end of the first text, from such a character on, moved to the second. -/
theorem append_cons_eq_iff {a b a' b' : List Char} :
    a ++ c :: b = a' ++ c :: b' ↔
      (a = a' ∧ b = b') ∨ (∃ moved, a = a' ++ c :: moved ∧ b' = moved ++ c :: b) ∨
        ∃ moved, a' = a ++ c :: moved ∧ b = moved ++ c :: b' := by
  constructor
  · intro h
    rcases List.append_eq_append_iff.mp h with ⟨moved, ha, hb⟩ | ⟨moved, ha, hb⟩
    · cases moved with
      | nil => exact .inl ⟨by simpa using ha.symm, by simpa using hb⟩
      | cons d moved =>
          obtain ⟨rfl, hrest⟩ := List.cons.inj hb
          exact .inr (.inr ⟨moved, ha, hrest⟩)
    · cases moved with
      | nil => exact .inl ⟨by simpa using ha, by simpa using hb.symm⟩
      | cons d moved =>
          obtain ⟨rfl, hrest⟩ := List.cons.inj hb
          exact .inr (.inl ⟨moved, ha, hrest⟩)
  · rintro (⟨rfl, rfl⟩ | ⟨moved, rfl, rfl⟩ | ⟨moved, rfl, rfl⟩)
    · rfl
    · simp
    · simp

/-! ### The longest run of a kind -/

section

variable {α : Type} {p : α → Bool} {run rest : List α}

theorem takeWhile_run (hrun : ∀ c ∈ run, p c = true) (hrest : ∀ c ∈ rest.head?, p c = false) :
    (run ++ rest).takeWhile p = run := by
  rw [List.takeWhile_append_of_pos hrun]
  cases rest with
  | nil => simp
  | cons d ds => simp [hrest d rfl]

theorem dropWhile_run (hrun : ∀ c ∈ run, p c = true) (hrest : ∀ c ∈ rest.head?, p c = false) :
    (run ++ rest).dropWhile p = rest := by
  rw [List.dropWhile_append_of_pos hrun]
  cases rest with
  | nil => simp
  | cons d ds => simp [hrest d rfl]

theorem span_run (hrun : ∀ c ∈ run, p c = true) (hrest : ∀ c ∈ rest.head?, p c = false) :
    (run ++ rest).span p = (run, rest) := by
  rw [List.span_eq_takeWhile_dropWhile, takeWhile_run hrun hrest, dropWhile_run hrun hrest]

/-- A character that is not of the kind stops the run, wherever it began. -/
theorem dropWhile_stop {a : α} (ha : p a = false) (before after : List α) :
    (before ++ a :: after).dropWhile p = before.dropWhile p ++ a :: after := by
  induction before with
  | nil => exact List.dropWhile_cons_of_neg (by simp [ha])
  | cons b before ih =>
      by_cases hb : p b = true
      · rw [List.cons_append, List.dropWhile_cons_of_pos hb, List.dropWhile_cons_of_pos hb, ih]
      · rw [List.cons_append, List.dropWhile_cons_of_neg hb, List.dropWhile_cons_of_neg hb,
          List.cons_append]

/-- The run goes on no further. -/
theorem head?_dropWhile (p : α → Bool) (l : List α) :
    ∀ a ∈ (l.dropWhile p).head?, p a = false := by
  intro a ha
  have h := List.head?_dropWhile_not p l
  rw [Option.mem_def.mp ha] at h
  exact h

end

/-! ### Prefix and infix -/

theorem mem_head?_mono {α : Type} {a : α} {l m : List α} (h : l <+: m) (ha : a ∈ l.head?) :
    a ∈ m.head? := by
  obtain ⟨more, rfl⟩ := h
  cases l with
  | nil => cases ha
  | cons b l => exact ha

theorem startsWith_iff {p : List Char} : startsWith p cs = true ↔ p <+: cs := by
  induction p generalizing cs with
  | nil => simp [startsWith, dropPrefix?]
  | cons d ds ih =>
      cases cs with
      | nil => simp [startsWith, dropPrefix?]
      | cons e es =>
          by_cases hde : d = e
          · subst hde
            simpa [startsWith, dropPrefix?] using ih
          · simp [startsWith, dropPrefix?, hde]

theorem contains_iff : contains needle cs = true ↔ needle <:+: cs := by
  induction cs with
  | nil => simp [contains]
  | cons d ds ih => rw [contains, Bool.or_eq_true, startsWith_iff, ih, List.infix_cons_iff]

theorem occursIn_iff {needle haystack : String} :
    occursIn needle haystack = true ↔ needle.toList <:+: haystack.toList :=
  contains_iff

end VacancyLedger.Text
