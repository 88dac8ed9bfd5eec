/-
Spelled halves are found again.

Let there be more marks before a half than a text has mark characters of its own.  Then a run of
marks is as long as that only where a half is spelled: a run of the text's own is shorter, and one
that goes over into the marks of a half is longer.  So the halves of a text are found in its
spelling where they stand in the text, and no two texts are spelled the same.
-/
import VacancyLedger.Proofs.Text.Case
import VacancyLedger.Proofs.Text.Scan
import VacancyLedger.Text.Half

namespace VacancyLedger.Text

/-- How many mark characters a text has of its own. -/
def ownMarks (pieces : List Piece) : Nat := pieces.count (.char markChar)

/-- Why a text in pieces cannot be encoded, if it cannot. -/
def brokenPair? : List Piece → Option Unencodable
  | [] => none
  | .half h :: rest => some ⟨h, 0, (rest.takeWhile (·.isHalf)).length + 1⟩
  | .char _ :: rest => (brokenPair? rest).map fun e => { e with position := e.position + 1 }

variable {marks : Nat} {pieces others : List Piece} {c : Char}

theorem spelling_cons (piece : Piece) (pieces : List Piece) :
    spelling marks (piece :: pieces) = piece.spelling marks ++ spelling marks pieces :=
  List.flatMap_cons

theorem ownMarks_char (c : Char) (pieces : List Piece) :
    ownMarks (.char c :: pieces) = ownMarks pieces + if c = markChar then 1 else 0 := by
  unfold ownMarks
  rw [List.count_cons]
  by_cases hmark : c = markChar
  · simp [hmark]
  · simp [hmark]

theorem ownMarks_le (piece : Piece) (pieces : List Piece) :
    ownMarks pieces ≤ ownMarks (piece :: pieces) :=
  List.count_le_count_cons

/-! ### Runs of marks -/

theorem teller_toNat (h : Half) : (Char.ofNat (firstTeller + h)).toNat = firstTeller + h := by
  have hlt := h.isLt
  refine toNat_ofNat (.inr ⟨?_, ?_⟩)
  · unfold firstTeller
    omega
  · unfold firstTeller
    omega

theorem teller_ne_markChar (h : Half) : Char.ofNat (firstTeller + h) ≠ markChar := by
  intro heq
  have hlt := h.isLt
  have hcode := teller_toNat h
  rw [heq, show markChar.toNat = 0xFFFD from rfl] at hcode
  unfold firstTeller at hcode
  omega

theorem span_marks (n : Nat) (hc : c ≠ markChar) (rest : List Char) :
    (List.replicate n markChar ++ c :: rest).span (· == markChar) =
      (List.replicate n markChar, c :: rest) := by
  refine span_run (fun d hd => ?_) fun d hd => ?_
  · simp [List.eq_of_mem_replicate hd]
  · cases hd
    simp [hc]

theorem half?_of_length_ne {n : Nat} (hn : n ≠ marks) (hc : c ≠ markChar) (rest : List Char) :
    half? marks (List.replicate n markChar ++ c :: rest) = none := by
  rw [half?, span_marks n hc]
  simp [hn]

/-- A half is read back from its spelling, followed by anything. -/
theorem half?_half (marks : Nat) (h : Half) (rest : List Char) :
    half? marks ((Piece.half h).spelling marks ++ rest) = some (h, rest) := by
  have hlt := h.isLt
  have hcode := teller_toNat h
  rw [Piece.spelling, List.append_assoc, half?]
  simp only [List.singleton_append, span_marks marks (teller_ne_markChar h),
    List.length_replicate, if_true, hcode]
  rw [dif_pos ⟨by omega, by omega⟩]
  simp

/-- Behind marks of a text's own there is no half, for its run is too short or too long. -/
theorem half?_marks (pieces : List Piece) :
    ∀ {n : Nat}, 0 < n → n + ownMarks pieces < marks →
      half? marks (List.replicate n markChar ++ spelling marks pieces) = none := by
  induction pieces with
  | nil =>
      intro n _ _
      have hspan : (List.replicate n markChar ++ []).span (· == markChar) =
          (List.replicate n markChar, []) :=
        span_run (fun d hd => by simp [List.eq_of_mem_replicate hd]) nofun
      rw [spelling, List.flatMap_nil, half?, hspan]
  | cons piece rest ih =>
      intro n hn hfew
      cases piece with
      | char c =>
          rw [ownMarks_char] at hfew
          rw [spelling_cons, Piece.spelling, List.singleton_append]
          by_cases hmark : c = markChar
          · rw [if_pos hmark] at hfew
            rw [hmark, List.append_cons, ← List.replicate_succ']
            exact ih (Nat.succ_pos n) (by omega)
          · exact half?_of_length_ne (by omega) hmark _
      | half h =>
          rw [spelling_cons, Piece.spelling, List.append_assoc, ← List.append_assoc,
            List.replicate_append_replicate]
          exact half?_of_length_ne (by omega) (teller_ne_markChar h) _

/-- Where a character stands there is no half. -/
theorem half?_char (h : ownMarks (.char c :: pieces) < marks) :
    half? marks (c :: spelling marks pieces) = none := by
  rw [ownMarks_char] at h
  by_cases hmark : c = markChar
  · rw [if_pos hmark] at h
    rw [hmark]
    exact half?_marks pieces Nat.one_pos (by omega)
  · exact half?_of_length_ne (n := 0) (by omega) hmark _

/-! ### Spellings -/

theorem length_le_spelling (marks : Nat) (pieces : List Piece) :
    pieces.length ≤ (spelling marks pieces).length := by
  induction pieces with
  | nil => exact Nat.zero_le _
  | cons piece rest ih =>
      rw [spelling_cons, List.length_append, List.length_cons]
      cases piece with
      | char c =>
          rw [Piece.spelling, List.length_singleton]
          omega
      | half h =>
          rw [Piece.spelling, List.length_append, List.length_singleton]
          omega

theorem halfCount_spelling (pieces : List Piece) :
    ∀ {fuel : Nat}, pieces.length ≤ fuel → ownMarks pieces < marks →
      halfCount marks fuel (spelling marks pieces) =
        (pieces.takeWhile (·.isHalf)).length := by
  induction pieces with
  | nil => intro fuel _ _; cases fuel <;> rfl
  | cons piece rest ih =>
      intro fuel hfuel hfew
      obtain ⟨fuel, rfl⟩ := Nat.exists_eq_add_one_of_ne_zero (Nat.ne_zero_of_lt hfuel)
      have hrest := Nat.lt_of_le_of_lt (ownMarks_le piece rest) hfew
      rw [halfCount, spelling_cons]
      cases piece with
      | char c =>
          simp only [Piece.spelling, List.singleton_append, half?_char hfew]
          rfl
      | half h =>
          simp only [half?_half]
          rw [ih (Nat.le_of_succ_le_succ hfuel) hrest]
          rfl

/-- What is found in the spelling of a text is what the text itself is refused for. -/
theorem unencodable?_spelling (pieces : List Piece) (h : ownMarks pieces < marks) :
    unencodable? marks (spelling marks pieces) = brokenPair? pieces := by
  induction pieces with
  | nil => rfl
  | cons piece rest ih =>
      have hrest := Nat.lt_of_le_of_lt (ownMarks_le piece rest) h
      rw [spelling_cons]
      cases piece with
      | char c =>
          rw [Piece.spelling, List.singleton_append, unencodable?, half?_char h]
          simp only [ih hrest, brokenPair?]
      | half first =>
          have hhalf := half?_half marks first (spelling marks rest)
          cases hspelled : (Piece.half first).spelling marks ++ spelling marks rest with
          | nil => rw [hspelled] at hhalf; cases hhalf
          | cons d ds =>
              rw [hspelled] at hhalf
              rw [unencodable?, hhalf]
              simp only [halfCount_spelling rest (length_le_spelling marks rest) hrest, brokenPair?]

/-- A text of characters alone can be encoded, and no other. -/
theorem brokenPair?_eq_none_iff :
    brokenPair? pieces = none ↔ ∀ piece ∈ pieces, piece.isHalf = false := by
  induction pieces with
  | nil => simp [brokenPair?]
  | cons piece rest ih =>
      cases piece with
      | char c => simp [brokenPair?, ih, Piece.isHalf]
      | half h => simp [brokenPair?, Piece.isHalf]

/-- Two texts are spelled the same only if they are the same. -/
theorem spelling_injective (pieces : List Piece) :
    ∀ {others : List Piece}, ownMarks pieces < marks → ownMarks others < marks →
      spelling marks pieces = spelling marks others → pieces = others := by
  induction pieces with
  | nil =>
      intro others _ _ h
      have hlength := length_le_spelling marks others
      rw [← h] at hlength
      exact (List.eq_nil_of_length_eq_zero (Nat.le_zero.mp hlength)).symm
  | cons piece rest ih =>
      intro others hfew hfew' h
      have hrest := Nat.lt_of_le_of_lt (ownMarks_le piece rest) hfew
      cases others with
      | nil =>
          have hlength := length_le_spelling marks (piece :: rest)
          rw [h] at hlength
          cases hlength
      | cons other others =>
          have hothers := Nat.lt_of_le_of_lt (ownMarks_le other others) hfew'
          have hsame := congrArg (half? marks) h
          rw [spelling_cons, spelling_cons] at h hsame
          cases piece with
          | char c =>
              rw [Piece.spelling, List.singleton_append, half?_char hfew] at hsame
              cases other with
              | char d =>
                  obtain ⟨rfl, htail⟩ := List.cons.inj h
                  rw [ih hrest hothers htail]
              | half _ => rw [half?_half] at hsame; cases hsame
          | half first =>
              rw [half?_half] at hsame
              cases other with
              | char d =>
                  rw [Piece.spelling, List.singleton_append, half?_char hfew'] at hsame
                  cases hsame
              | half _ =>
                  rw [half?_half] at hsame
                  obtain ⟨rfl, htail⟩ := Prod.mk.inj (Option.some.inj hsame)
                  rw [ih hrest hothers htail]

end VacancyLedger.Text
