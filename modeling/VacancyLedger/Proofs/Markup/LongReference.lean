/-
Texts whose references cannot be replaced.

Every ampersand of a text is read as the start of a reference of its own, as no reference goes on
past the next one.  So replacing the references of a text fails exactly if somewhere in it stands a
decimal reference with too many digits.
-/
import Mathlib.Data.List.Infix
import VacancyLedger.Proofs.Markup.Reference

namespace VacancyLedger.Markup

open Number (TooManyDigits maxDigits convert)

variable {cs rest : List Char} {n : Nat}

/-- Whether a decimal reference of too many digits stands at the start of a text. -/
def StartsLongReference (cs : List Char) : Prop :=
  ∃ more, cs = '&' :: '#' :: more ∧ maxDigits < (more.takeWhile Char.isDigit).length

/-- Whether a decimal reference of too many digits stands somewhere in a text. -/
def HasLongReference (cs : List Char) : Prop := ∃ rest, rest <:+ cs ∧ StartsLongReference rest

theorem hasLongReference_cons (c : Char) (cs : List Char) :
    HasLongReference (c :: cs) ↔ StartsLongReference (c :: cs) ∨ HasLongReference cs := by
  simp only [HasLongReference, List.suffix_cons_iff, or_and_right, exists_or, exists_eq_left]

theorem not_startsLongReference {c : Char} (h : c ≠ '&') (cs : List Char) :
    ¬StartsLongReference (c :: cs) := by
  rintro ⟨more, hmore, -⟩
  exact h (List.cons.inj hmore).1

/-- What is passed over without an ampersand makes no difference. -/
theorem hasLongReference_append {skipped : List Char} (h : '&' ∉ skipped) :
    HasLongReference (skipped ++ rest) ↔ HasLongReference rest := by
  induction skipped with
  | nil => rfl
  | cons c skipped ih =>
      rw [List.mem_cons, not_or] at h
      rw [List.cons_append, hasLongReference_cons, ih h.2]
      exact or_iff_right (not_startsLongReference (Ne.symm h.1) _)

/-! ### One reference -/

/-- What reading a reference can come to, apart from a failure: there is none, or it is passed over
with no further ampersand in it. -/
def IsPassedOver (cs : List Char) : Option (List Char × List Char) → Prop
  | none => True
  | some (_, rest) => ∃ skipped, cs = skipped ++ rest ∧ '&' ∉ skipped

theorem isPassedOver_semicolon (skipped : List Char) (h : '&' ∉ skipped)
    (characters rest : List Char) :
    IsPassedOver (skipped ++ rest) (some (characters, (takeSemicolon rest).2)) := by
  rw [takeSemicolon.eq_def]
  split
  · exact ⟨skipped ++ [';'], by simp, by simp [h]⟩
  · exact ⟨skipped, rfl, h⟩

theorem not_mem_takeWhile {p : Char → Bool} (hp : p '&' = false) (cs : List Char) :
    '&' ∉ cs.takeWhile p := by
  intro h
  rw [List.mem_takeWhile_imp h] at hp
  cases hp

theorem readReference?_number (more : List Char) :
    (∃ e, readReference? ('#' :: more) = .error e ∧ StartsLongReference ('&' :: '#' :: more)) ∨
      ¬StartsLongReference ('&' :: '#' :: more) ∧
        ∃ read, readReference? ('#' :: more) = .ok read ∧ IsPassedOver ('#' :: more) read := by
  have hlong : StartsLongReference ('&' :: '#' :: more) ↔
      maxDigits < (more.takeWhile Char.isDigit).length := by
    simp [StartsLongReference]
  have hsplit : more = more.takeWhile Char.isDigit ++ more.dropWhile Char.isDigit :=
    List.takeWhile_append_dropWhile.symm
  have hfree := not_mem_takeWhile (p := Char.isDigit) (by decide) more
  simp only [readReference?, List.span_eq_takeWhile_dropWhile]
  rw [hlong]
  generalize more.takeWhile Char.isDigit = ds at *
  generalize more.dropWhile Char.isDigit = rest at *
  cases ds with
  | nil =>
      refine .inr ⟨Nat.not_lt_zero _, ?_⟩
      cases more with
      | nil => exact ⟨none, rfl, trivial⟩
      | cons x hex =>
          have hhex := not_mem_takeWhile (p := Number.isHexDigit) (by decide) hex
          have hsplithex : hex = hex.takeWhile Number.isHexDigit ++
              hex.dropWhile Number.isHexDigit := List.takeWhile_append_dropWhile.symm
          simp only
          generalize hex.takeWhile Number.isHexDigit = ds at *
          generalize hex.dropWhile Number.isHexDigit = rest at *
          split
          · rename_i hx
            cases ds with
            | nil => exact ⟨none, rfl, trivial⟩
            | cons d ds =>
                refine ⟨_, rfl, ?_⟩
                rw [hsplithex]
                refine isPassedOver_semicolon ('#' :: x :: d :: ds) ?_ _ rest
                rcases hx with rfl | rfl <;> simp [hhex]
          · exact ⟨none, rfl, trivial⟩
  | cons d ds =>
      simp only [convert]
      by_cases hmany : maxDigits < (d :: ds).length
      · rw [if_pos hmany]
        exact .inl ⟨_, rfl, hmany⟩
      · rw [if_neg hmany, hsplit]
        refine .inr ⟨hmany, _, rfl, ?_⟩
        exact isPassedOver_semicolon ('#' :: d :: ds) (by simp [hfree]) _ rest

theorem readReference?_cases (cs : List Char) :
    (∃ e, readReference? cs = .error e ∧ StartsLongReference ('&' :: cs)) ∨
      ¬StartsLongReference ('&' :: cs) ∧
        ∃ read, readReference? cs = .ok read ∧ IsPassedOver cs read := by
  by_cases hnumber : ∃ more, cs = '#' :: more
  · obtain ⟨more, rfl⟩ := hnumber
    exact readReference?_number more
  · refine .inr ⟨?_, ?_⟩
    · rintro ⟨more, hmore, -⟩
      exact hnumber ⟨more, (List.cons.inj hmore).2⟩
    · rw [readReference?]
      · have hprefix : (cs.take 32).takeWhile isNameChar <+: cs :=
          (List.takeWhile_prefix _).trans (List.take_prefix 32 cs)
        have hfree := not_mem_takeWhile (p := isNameChar) (by decide) (cs.take 32)
        have hsplit := List.prefix_iff_eq_append.mp hprefix
        split
        · exact ⟨none, rfl, trivial⟩
        · refine ⟨_, rfl, ?_⟩
          have hpassed := isPassedOver_semicolon _ hfree [] (cs.drop
            ((cs.take 32).takeWhile isNameChar).length)
          rw [hsplit] at hpassed
          exact hpassed
      · exact fun more hmore => hnumber ⟨more, hmore⟩

/-! ### A whole text -/

theorem decodeFrom_error_iff (h : cs.length ≤ n) :
    (∃ e, decodeFrom n cs = .error e) ↔ HasLongReference cs := by
  have hnil : ¬HasLongReference [] := by
    rintro ⟨rest, hrest, more, rfl, -⟩
    cases List.suffix_nil.mp hrest
  induction n generalizing cs with
  | zero =>
      obtain rfl := List.eq_nil_of_length_eq_zero (Nat.le_zero.mp h)
      exact iff_of_false nofun hnil
  | succ n ih =>
      cases cs with
      | nil => exact iff_of_false nofun hnil
      | cons c cs =>
          rw [hasLongReference_cons]
          by_cases hc : c = '&'
          · subst hc
            rcases readReference?_cases cs with ⟨e, hread, hlong⟩ | ⟨hshort, read, hread, hpassed⟩
            · refine iff_of_true ⟨e, ?_⟩ (.inl hlong)
              rw [decodeFrom, hread]
              rfl
            · rw [decodeFrom, hread, or_iff_right hshort]
              cases read with
              | none =>
                  refine Iff.trans ?_ (ih (Nat.le_of_succ_le_succ h))
                  simp only [bind, Except.bind]
                  cases decodeFrom n cs <;> simp [pure, Except.pure]
              | some read =>
                  obtain ⟨characters, rest⟩ := read
                  obtain ⟨skipped, rfl, hfree⟩ := hpassed
                  have hshorter : rest.length ≤ n := by
                    rw [List.length_cons, List.length_append] at h
                    omega
                  rw [hasLongReference_append hfree]
                  refine Iff.trans ?_ (ih hshorter)
                  simp only [bind, Except.bind]
                  cases decodeFrom n rest <;> simp [pure, Except.pure]
          · rw [decodeFrom_plain hc, or_iff_right (not_startsLongReference hc cs)]
            refine Iff.trans ?_ (ih (Nat.le_of_succ_le_succ h))
            cases decodeFrom n cs <;> simp [Except.map]

/-- **Replacing the references of a text fails exactly if one has too many digits.** -/
theorem decodeAll_error_iff : (∃ e, decodeAll cs = .error e) ↔ HasLongReference cs :=
  decodeFrom_error_iff (Nat.le_refl _)

end VacancyLedger.Markup
