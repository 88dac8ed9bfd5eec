/-
Lower case, part by part.

What lowering makes of a sigma depends on what stands around it, so a text is not lowered part by
part.  `Lowers` leaves open which of its two forms a sigma takes, and that is all that is
needed to see that a lowered text has the parts of the text, lowered: the signs it is cut
at are still there, and no others have come in.
-/
import Mathlib.Data.List.Forall2
import VacancyLedger.Proofs.Text.Case
import VacancyLedger.Proofs.Text.Scan

namespace VacancyLedger.Text

/-- The second text is the first one in lower case, where a sigma may take either form. -/
inductive Lowers : List Char → List Char → Prop
  | nil : Lowers [] []
  | sigma (ends : Bool) {cs ds : List Char} (h : Lowers cs ds) :
      Lowers ('Σ' :: cs) ((if ends then 'ς' else 'σ') :: ds)
  | char {c : Char} {cs ds : List Char} (hsigma : c ≠ 'Σ') (h : Lowers cs ds) :
      Lowers (c :: cs) (lowerChar c ++ ds)

/-- A sign, which lowering leaves as it is and does not bring into a text. -/
def IsSign (c : Char) : Prop := c.toNat < 97 ∧ c.toLower = c

instance (c : Char) : Decidable (IsSign c) := inferInstanceAs (Decidable (_ ∧ _))

theorem lowers_lowerFrom (cs : List Char) :
    ∀ casedBefore, Lowers cs (lowerFrom casedBefore cs) := by
  induction cs with
  | nil => exact fun _ => .nil
  | cons c cs ih =>
      intro casedBefore
      rw [lowerFrom]
      split
      · rename_i hsigma
        subst hsigma
        exact .sigma _ (ih _)
      · rename_i hsigma
        exact .char hsigma (ih _)

theorem lowers_lowerChars (cs : List Char) : Lowers cs (lowerChars cs) := lowers_lowerFrom cs false

namespace Lowers

variable {c : Char} {cs ds before after : List Char}

theorem nil_iff (h : Lowers cs ds) : cs = [] ↔ ds = [] := by
  cases h with
  | nil => simp
  | sigma => simp
  | @char c _ _ _ h =>
      have hchar : lowerChar c ≠ [] := by
        unfold lowerChar
        grind
      simp [hchar]

theorem ascii (hascii : c.toNat < 128) (h : Lowers (c :: cs) ds) :
    ∃ rest, ds = c.toLower :: rest ∧ Lowers cs rest := by
  cases h with
  | sigma => exact absurd hascii (by decide)
  | char _ h =>
      refine ⟨_, ?_, h⟩
      rw [lowerChar, if_pos hascii]
      rfl

theorem append (h : Lowers (before ++ after) ds) :
    ∃ ds₁ ds₂, ds = ds₁ ++ ds₂ ∧ Lowers before ds₁ ∧ Lowers after ds₂ := by
  induction before generalizing ds with
  | nil => exact ⟨[], ds, rfl, .nil, h⟩
  | cons c before ih =>
      cases h with
      | sigma ends h =>
          obtain ⟨ds₁, ds₂, rfl, h₁, h₂⟩ := ih h
          exact ⟨_, ds₂, rfl, .sigma ends h₁, h₂⟩
      | char hsigma h =>
          obtain ⟨ds₁, ds₂, rfl, h₁, h₂⟩ := ih h
          exact ⟨_, ds₂, (List.append_assoc _ _ _).symm, .char hsigma h₁, h₂⟩

/-- What holds of every character that lowering writes holds of all of a lowered text. -/
theorem forall_mem {P : Char → Prop} (h : Lowers cs ds) (hends : P 'ς') (hmiddle : P 'σ')
    (hchar : ∀ c ∈ cs, c ≠ 'Σ' → ∀ d ∈ lowerChar c, P d) : ∀ d ∈ ds, P d := by
  induction h with
  | nil => exact fun d hd => nomatch hd
  | sigma ends h ih =>
      have hsigma : P (if ends then 'ς' else 'σ') := by
        cases ends
        · exact hmiddle
        · exact hends
      exact List.forall_mem_cons.mpr
        ⟨hsigma, ih fun c hc => hchar c (List.mem_cons_of_mem _ hc)⟩
  | char hsigma h ih =>
      refine List.forall_mem_append.mpr ⟨hchar _ List.mem_cons_self hsigma, ?_⟩
      exact ih fun c hc => hchar c (List.mem_cons_of_mem _ hc)

/-- The signs in a lowered text are those of the text. -/
theorem mem_sign (hc : IsSign c) (h : Lowers cs ds) : c ∈ ds ↔ c ∈ cs := by
  constructor
  · intro hd
    have hsmall : ∀ d ∈ ds, d ∈ cs ∨ IsSmall d := by
      refine h.forall_mem (.inr (by decide +kernel)) (.inr (by decide +kernel)) ?_
      intro e he hsigma d hd
      rcases (isLow_of_mem_lowerChar hsigma hd).2 with rfl | hsmall
      · exact .inl he
      · exact .inr hsmall
    refine (hsmall c hd).resolve_right fun hsmall => ?_
    have hsign := hc.1
    have hletter := (hsmall.2 (by omega)).1
    omega
  · intro hcs
    obtain ⟨before, after, rfl⟩ := List.append_of_mem hcs
    obtain ⟨_, ds₂, rfl, -, h₂⟩ := h.append
    have hsign := hc.1
    obtain ⟨rest, rfl, -⟩ := h₂.ascii (by omega)
    simp [hc.2]

/-- A text without signs of a kind has none when it is lowered. -/
theorem free {f : Char → Bool} (hf : ∀ c, f c = true → IsSign c) (h : Lowers cs ds)
    (hfree : ∀ c ∈ cs, f c = false) : ∀ d ∈ ds, f d = false := by
  intro d hd
  rw [← Bool.not_eq_true]
  intro hsign
  rw [hfree d ((h.mem_sign (hf d hsign)).mp hd)] at hsign
  cases hsign

/-- A lowered text is cut at a sign where the text is. -/
theorem cutAt (hc : IsSign c) (h : Lowers cs ds) :
    (c ∉ cs ∧ Text.cutAt c cs = (cs, none) ∧ c ∉ ds ∧ Text.cutAt c ds = (ds, none)) ∨
      ∃ before after before' after', cs = before ++ c :: after ∧ ds = before' ++ c :: after' ∧
        c ∉ before ∧ c ∉ before' ∧ Text.cutAt c cs = (before, some after) ∧
        Text.cutAt c ds = (before', some after') ∧ Lowers before before' ∧ Lowers after after' := by
  rcases cutAt_cases c cs with ⟨hfree, hcut⟩ | ⟨before, after, rfl, hbefore, hcut⟩
  · have hfree' : c ∉ ds := fun hin => hfree ((h.mem_sign hc).mp hin)
    exact .inl ⟨hfree, hcut, hfree', cutAt_of_not_mem hfree'⟩
  · obtain ⟨before', ds₂, rfl, h₁, h₂⟩ := h.append
    have hsign := hc.1
    obtain ⟨after', rfl, hafter⟩ := h₂.ascii (by omega)
    have hbefore' : c ∉ before' := fun hin => hbefore ((h₁.mem_sign hc).mp hin)
    rw [hc.2]
    exact .inr ⟨before, after, before', after', rfl, rfl, hbefore, hbefore', hcut,
      cutAt_append hbefore' after', h₁, hafter⟩

/-- What stands before the first sign of a lowered text is what stands before it in the text,
lowered. -/
theorem cutAt_fst (hc : IsSign c) (h : Lowers cs ds) :
    Lowers (Text.cutAt c cs).1 (Text.cutAt c ds).1 := by
  rcases h.cutAt hc with ⟨-, hcut, -, hcut'⟩ | ⟨_, _, _, _, -, -, -, -, hcut, hcut', hbefore, -⟩
  · rw [hcut, hcut']
    exact h
  · rw [hcut, hcut']
    exact hbefore

/-- What follows the last sign of a lowered text is what follows it in the text, lowered. -/
theorem cutAtLast (hc : IsSign c) (h : Lowers cs ds) :
    Lowers (Text.cutAtLast c cs).2 (Text.cutAtLast c ds).2 := by
  by_cases hin : c ∈ cs
  · obtain ⟨before, after, hcs, hafter⟩ := List.eq_append_cons_of_mem (List.mem_reverse.mpr hin)
    have hcs : cs = after.reverse ++ c :: before.reverse := by
      rw [← List.reverse_reverse cs, hcs]
      simp
    subst hcs
    obtain ⟨before', ds₂, rfl, -, h₂⟩ := h.append
    have hsign := hc.1
    obtain ⟨after', rfl, hlowers⟩ := h₂.ascii (by omega)
    have hfree : c ∉ before.reverse := by simpa using hafter
    have hfree' : c ∉ after' := fun hd => hfree ((hlowers.mem_sign hc).mp hd)
    rw [hc.2, cutAtLast_append hfree, cutAtLast_append hfree']
    exact hlowers
  · rw [cutAtLast_of_not_mem hin, cutAtLast_of_not_mem fun hd => hin ((h.mem_sign hc).mp hd)]
    exact h

/-- The parts between the signs of a lowered text are those of the text, lowered. -/
theorem splitAll (hc : IsSign c) (h : Lowers cs ds) :
    List.Forall₂ Lowers (Text.splitAll c cs) (Text.splitAll c ds) := by
  induction hlength : cs.length using Nat.strong_induction_on generalizing cs ds with
  | _ length ih =>
      rcases h.cutAt hc with ⟨hfree, -, hfree', -⟩ |
        ⟨before, after, before', after', rfl, rfl, hfree, hfree', -, -, hbefore, hafter⟩
      · rw [splitAll_of_not_mem hfree, splitAll_of_not_mem hfree']
        exact .cons h .nil
      · rw [splitAll_append hfree, splitAll_append hfree']
        refine .cons hbefore (ih after.length ?_ hafter rfl)
        rw [List.length_append, List.length_cons] at hlength
        omega

/-- A text in ASCII is lowered character by character. -/
theorem eq_map (hascii : ∀ c ∈ cs, c.toNat < 128) (h : Lowers cs ds) :
    ds = cs.map Char.toLower := by
  induction cs generalizing ds with
  | nil => exact h.nil_iff.mp rfl
  | cons c cs ih =>
      obtain ⟨rest, rfl, hrest⟩ := h.ascii (hascii c List.mem_cons_self)
      rw [List.map_cons, ih (fun d hd => hascii d (List.mem_cons_of_mem _ hd)) hrest]

/-- Without a sigma there is one way to lower a text. -/
theorem eq_flatMap (hsigma : 'Σ' ∉ cs) (h : Lowers cs ds) : ds = cs.flatMap lowerChar := by
  induction h with
  | nil => rfl
  | sigma => exact absurd List.mem_cons_self hsigma
  | char _ _ ih => rw [List.flatMap_cons, ih fun hin => hsigma (List.mem_cons_of_mem _ hin)]

theorem eq_lowerChars (hsigma : 'Σ' ∉ cs) (h : Lowers cs ds) : ds = lowerChars cs :=
  (h.eq_flatMap hsigma).trans ((lowers_lowerChars cs).eq_flatMap hsigma).symm

end Lowers

/-! ### Texts without a sigma -/

theorem sigma_not_mem_lowerChars (cs : List Char) : 'Σ' ∉ lowerChars cs := fun hin =>
  (isLow_of_mem_lowerFrom hin).1.1 rfl

/-- A text without a sigma is lowered part by part. -/
theorem lowerChars_append {before after : List Char} (hsigma : 'Σ' ∉ before ++ after) :
    lowerChars (before ++ after) = lowerChars before ++ lowerChars after := by
  obtain ⟨before', after', hwhole, hbefore, hafter⟩ := (lowers_lowerChars (before ++ after)).append
  rw [List.mem_append, not_or] at hsigma
  rw [hwhole, hbefore.eq_lowerChars hsigma.1, hafter.eq_lowerChars hsigma.2]

end VacancyLedger.Text
