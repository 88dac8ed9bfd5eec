/-
What was escaped is read back.

The printer writes four characters as references, each with its semicolon, and leaves all
others as they are.  As long as every ampersand of a text starts one of these four, the
text decodes to what it was written for, whatever stands around the references.  Quoted
values are of that kind, and the quotes around them do not occur in them.
-/
import VacancyLedger.Markup.Printer
import VacancyLedger.Proofs.Text.Scan

namespace VacancyLedger.Markup

variable {c : Char} {cs : List Char} {n : Nat}

/-- The characters that are written as references, and the names of these. -/
def escapes : List (Char × List Char) :=
  [('&', "amp".toList), ('<', "lt".toList), ('>', "gt".toList), ('"', "quot".toList)]

/-- The ways to write a character so that it is read back. -/
inductive Writes (c : Char) : List Char → Prop where
  | plain (h : c ≠ '&') : Writes c [c]
  | reference {name : List Char} (h : (c, name) ∈ escapes) : Writes c ('&' :: (name ++ [';']))

theorem Writes.length_pos {written : List Char} (h : Writes c written) : 0 < written.length := by
  cases h <;> simp

theorem namedValue_escape : ∀ e ∈ escapes, namedValue e.2 true = [e.1] := by decide +kernel

theorem readReference?_escape {e : Char × List Char} (h : e ∈ escapes) (rest : List Char) :
    readReference? (e.2 ++ ';' :: rest) = .ok (some ([e.1], rest)) := by
  rw [← namedValue_escape e h]
  simp only [escapes, List.mem_cons, List.not_mem_nil, or_false] at h
  rcases h with rfl | rfl | rfl | rfl <;> rfl

theorem decodeFrom_plain (h : c ≠ '&') (n : Nat) (cs : List Char) :
    decodeFrom (n + 1) (c :: cs) = (decodeFrom n cs).map (c :: ·) := by
  rw [decodeFrom]
  · rfl
  · simpa using h

theorem decodeFrom_written {f : Char → List Char} (hf : ∀ c, Writes c (f c))
    (hn : (cs.flatMap f).length ≤ n) : decodeFrom n (cs.flatMap f) = .ok cs := by
  induction cs generalizing n with
  | nil => cases n <;> rfl
  | cons c cs ih =>
      rw [List.flatMap_cons] at hn ⊢
      rw [List.length_append] at hn
      generalize hwritten : f c = written at hn ⊢
      have hc := hwritten ▸ hf c
      have hpos := hc.length_pos
      cases n with
      | zero => omega
      | succ n =>
          have hrest : decodeFrom n (cs.flatMap f) = .ok cs := ih (by omega)
          cases hc with
          | plain hc =>
              rw [List.singleton_append, decodeFrom_plain hc, hrest]
              rfl
          | reference he =>
              rw [List.cons_append, List.append_assoc, List.singleton_append, decodeFrom,
                readReference?_escape he]
              simp only [bind, Except.bind, hrest]
              rfl

/-- A text of which each character was written so is read back. -/
theorem decodeAll_written {f : Char → List Char} (hf : ∀ c, Writes c (f c)) (cs : List Char) :
    decodeAll (cs.flatMap f) = .ok cs :=
  decodeFrom_written hf le_rfl

/-- A character is written as it is, or as a reference. -/
theorem escapeChar_cases (c : Char) :
    (c ≠ '<' ∧ c ≠ '&' ∧ escapeChar c = [c]) ∨
      ∃ name, (c, name) ∈ escapes ∧ escapeChar c = '&' :: (name ++ [';']) := by
  unfold escapeChar
  split_ifs with hamp hlt hgt
  · exact .inr ⟨"amp".toList, by simp [escapes, hamp], rfl⟩
  · exact .inr ⟨"lt".toList, by simp [escapes, hlt], rfl⟩
  · exact .inr ⟨"gt".toList, by simp [escapes, hgt], rfl⟩
  · exact .inl ⟨hlt, hamp, rfl⟩

theorem writes_escapeChar (c : Char) : Writes c (escapeChar c) := by
  rcases escapeChar_cases c with ⟨-, hamp, hc⟩ | ⟨name, hname, hc⟩
  · exact hc ▸ .plain hamp
  · exact hc ▸ .reference hname

theorem decodeAll_escape (cs : List Char) : decodeAll (escape cs) = .ok cs :=
  decodeAll_written writes_escapeChar cs

/-! ### Quoted values -/

/-- A character of an escaped value between double quotes. -/
def escapeQuote (c : Char) : List Char :=
  if c = '"' then "&quot;".toList else [c]

theorem writes_escapeQuote (c : Char) : Writes c ((escapeChar c).flatMap escapeQuote) := by
  by_cases hquote : c = '"'
  · subst hquote
    exact @Writes.reference '"' "quot".toList (by simp [escapes])
  · have hsame : (escapeChar c).flatMap escapeQuote = escapeChar c := by
      unfold escapeChar
      split_ifs <;> simp [escapeQuote, hquote]
    rw [hsame]
    exact writes_escapeChar c

theorem not_mem_escapeQuote (cs : List Char) : '"' ∉ cs.flatMap escapeQuote := by
  simp only [List.mem_flatMap, not_exists, not_and]
  intro c _
  unfold escapeQuote
  split_ifs with hquote
  · decide
  · simpa using Ne.symm hquote

/-- A value stands between two quotes that do not occur in it, and is read back. -/
theorem quoteValue_spec (value : List Char) :
    ∃ q body, (q = '"' ∨ q = '\'') ∧ q ∉ body ∧ quoteValue value = q :: (body ++ [q]) ∧
      decodeAll body = .ok value := by
  unfold quoteValue
  simp only [List.contains_eq_mem, decide_eq_true_eq]
  split_ifs with hdouble hsingle
  · refine ⟨'"', (escape value).flatMap escapeQuote, .inl rfl, not_mem_escapeQuote _, rfl, ?_⟩
    rw [escape, List.flatMap_assoc]
    exact decodeAll_written writes_escapeQuote value
  · exact ⟨'\'', escape value, .inr rfl, hsingle, rfl, decodeAll_escape value⟩
  · exact ⟨'"', escape value, .inl rfl, hdouble, rfl, decodeAll_escape value⟩

end VacancyLedger.Markup
