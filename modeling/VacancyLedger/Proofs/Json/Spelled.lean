/-
Halves of surrogate pairs in a document that was read.

A document has fewer mark characters than stand before every half that is read off it, for each
character that is read has taken up one of the document at least.  So the texts of a value that
was read are spelled in a way in which their halves are found again.
-/
import VacancyLedger.Json.Reader
import VacancyLedger.Proofs.Outcome
import VacancyLedger.Proofs.Table
import VacancyLedger.Proofs.Text.Half

namespace VacancyLedger.Json

/-- Whether all texts and names in a value are spelled with more marks before a half than they have
mark characters of their own. -/
inductive IsSpelled (marks : Nat) : Json → Prop
  | null : IsSpelled marks .null
  | bool (b : Bool) : IsSpelled marks (.bool b)
  | int (n : Int) : IsSpelled marks (.int n)
  | real (x : Float) : IsSpelled marks (.real x)
  | text {pieces : List Text.Piece} (h : Text.ownMarks pieces < marks)
      (hwhole : ∀ piece ∈ pieces, piece.isHalf = false) :
      IsSpelled marks (.text (String.ofList (Text.spelling marks pieces)))
  | torn {pieces : List Text.Piece} (h : Text.ownMarks pieces < marks)
      (hhalf : ∃ piece ∈ pieces, piece.isHalf = true) :
      IsSpelled marks (.torn marks (String.ofList (Text.spelling marks pieces)))
  | list {items : List Json} (h : ∀ item ∈ items, IsSpelled marks item) :
      IsSpelled marks (.list items)
  | object {members : List (String × Json)} (h : ∀ entry ∈ members, IsSpelled marks entry.2)
      (hnames : ∀ entry ∈ members, ∃ pieces, Text.ownMarks pieces < marks ∧
        entry.1 = String.ofList (Text.spelling marks pieces)) :
      IsSpelled marks (.object members)

variable {marks : Nat} {cs rest : List Char} {failure : Failure}

theorem isSpelled_ofPieces {pieces : List Text.Piece} (h : Text.ownMarks pieces < marks) :
    IsSpelled marks (.ofPieces marks pieces) := by
  unfold ofPieces
  by_cases hhalf : pieces.any (·.isHalf) = true
  · rw [if_pos hhalf]
    exact .torn h (List.any_eq_true.mp hhalf)
  · rw [if_neg hhalf]
    exact .text h fun piece hpiece => Bool.eq_false_iff.mpr fun hpair =>
      hhalf (List.any_eq_true.mpr ⟨piece, hpiece, hpair⟩)

/-- Among the texts that are read, those without halves can be encoded. -/
theorem IsSpelled.encodes {s : String} (h : IsSpelled marks (.text s)) :
    Text.unencodable? marks s.toList = none := by
  cases h with
  | text hfew hwhole =>
      rw [String.toList_ofList, Text.unencodable?_spelling _ hfew]
      exact Text.brokenPair?_eq_none_iff.mpr hwhole

/-- Among the texts that are read, those with halves cannot be encoded. -/
theorem IsSpelled.refused {m : Nat} {s : String} (h : IsSpelled marks (.torn m s)) :
    m = marks ∧ ∃ e, Text.unencodable? m s.toList = some e := by
  cases h with
  | torn hfew hhalf =>
      rw [String.toList_ofList, Text.unencodable?_spelling _ hfew]
      refine ⟨rfl, Option.ne_none_iff_exists'.mp fun hnone => ?_⟩
      obtain ⟨piece, hpiece, hpair⟩ := hhalf
      rw [Text.brokenPair?_eq_none_iff.mp hnone piece hpiece] at hpair
      cases hpair

/-! ### What is left of a text -/

theorem length_skipSpace_le (cs : List Char) : (skipSpace cs).length ≤ cs.length :=
  (List.dropWhile_sublist _).length_le

theorem length_spanDigits_le (cs : List Char) : (spanDigits cs).2.length ≤ cs.length := by
  rw [spanDigits, List.span_eq_takeWhile_dropWhile]
  exact (List.dropWhile_sublist _).length_le

theorem length_hex4?_lt {n : Nat} (h : hex4? cs = some (n, rest)) : rest.length < cs.length := by
  unfold hex4? at h
  split at h
  · simp only [Option.bind_eq_bind, Option.bind_eq_some_iff, Option.pure_def, Option.some.injEq,
      Prod.mk.injEq] at h
    obtain ⟨a, -, b, -, c, -, d, -, -, rfl⟩ := h
    simp only [List.length_cons]
    omega
  · cases h

theorem length_dropPrefix?_le {p : List Char} :
    ∀ {cs rest : List Char}, Text.dropPrefix? p cs = some rest → rest.length ≤ cs.length := by
  induction p with
  | nil =>
      intro cs rest h
      cases cs <;> cases h <;> exact Nat.le_refl _
  | cons c p ih =>
      intro cs rest h
      cases cs with
      | nil => cases h
      | cons d cs =>
          rw [Text.dropPrefix?] at h
          split at h
          · exact Nat.le_succ_of_le (ih h)
          · cases h

theorem length_integerDigits_le (cs : List Char) : (integerDigits cs).2.length ≤ cs.length := by
  unfold integerDigits
  split
  · exact Nat.le_succ _
  · exact length_spanDigits_le _

theorem length_fractionDigits_le (cs : List Char) : (fractionDigits cs).2.length ≤ cs.length := by
  unfold fractionDigits
  split
  · split
    · exact Nat.le_succ_of_le (length_spanDigits_le _)
    · exact Nat.le_refl _
  · exact Nat.le_refl _

/-- What is left behind digits, if they may stand behind a sign. -/
theorem length_spanDigits_signed_le {signed : Bool × List Char} {ds : List Char}
    (hsigned : signed.2.length ≤ cs.length) (h : spanDigits signed.2 = (ds, rest)) :
    rest.length ≤ cs.length := by
  have hlength := length_spanDigits_le signed.2
  rw [h] at hlength
  exact Nat.le_trans hlength hsigned

theorem length_exponentPart?_le {n : Int} (h : exponentPart? cs = some (n, rest)) :
    rest.length ≤ cs.length := by
  unfold exponentPart? at h
  split at h
  · split at h
    · simp only at h
      split at h
      · cases h
      · rename_i hspan
        obtain ⟨-, rfl⟩ := Prod.mk.inj (Option.some.inj h)
        refine Nat.le_succ_of_le (length_spanDigits_signed_le ?_ hspan)
        split <;> simp
    · cases h
  · cases h

theorem readNumber_ok {value : Json} (h : readNumber cs = .ok (value, rest)) :
    IsSpelled marks value ∧ rest.length ≤ cs.length := by
  unfold readNumber at h
  simp only at h
  split at h
  · cases h
  · rename_i whole after _ hwhole
    have hafter : after.length ≤ cs.length := by
      have hlength := congrArg (fun parts : List Char × List Char => parts.2.length) hwhole
      dsimp only at hlength
      rw [← hlength]
      refine Nat.le_trans (length_integerDigits_le _) ?_
      split <;> simp
    have hfraction := length_fractionDigits_le after
    split at h
    · rename_i hexponent
      have hlength := length_exponentPart?_le hexponent
      obtain ⟨rfl, rfl⟩ := Prod.mk.inj (Except.ok.inj h)
      exact ⟨.real _, by omega⟩
    · split at h
      · split at h
        · cases h
        · obtain ⟨rfl, rfl⟩ := Prod.mk.inj (Except.ok.inj h)
          exact ⟨.int _, by omega⟩
      · obtain ⟨rfl, rfl⟩ := Prod.mk.inj (Except.ok.inj h)
        exact ⟨.real _, by omega⟩

theorem length_readUnicodeEscape_lt {piece : Text.Piece}
    (h : readUnicodeEscape cs = .ok (piece, rest)) : rest.length < cs.length := by
  have hends : ∀ {ps : Text.Piece} {after : List Char}, after.length < cs.length →
      (Except.ok (ps, after) : Except Failure _) = .ok (piece, rest) → rest.length < cs.length := by
    intro ps after hlt heq
    obtain ⟨-, rfl⟩ := Prod.mk.inj (Except.ok.inj heq)
    exact hlt
  unfold readUnicodeEscape at h
  simp only at h
  split at h
  · cases h
  · split at h
    · cases h
    · rename_i n after hfirst
      have hlt := length_hex4?_lt hfirst
      split at h
      · rename_i more
        simp only [List.length_cons] at hlt
        split at h
        · split at h
          · cases h
          · rename_i n₂ rest₂ hsecond
            have hlt₂ := length_hex4?_lt hsecond
            split at h
            · exact hends (by omega) h
            · exact hends (by simp only [List.length_cons]; omega) h
        · exact hends (by simp only [List.length_cons]; omega) h
      · exact hends hlt h

/-- Every piece of a string has taken up a character of the text, and so has its closing quote. -/
theorem length_readPieces_lt {opening : List Char} :
    ∀ {fuel : Nat} {cs : List Char} {pieces : List Text.Piece} {rest : List Char},
      readPieces opening fuel cs = .ok (pieces, rest) →
      pieces.length + rest.length < cs.length := by
  intro fuel
  induction fuel with
  | zero => intro cs pieces rest h; cases cs <;> cases h
  | succ fuel ih =>
      intro cs pieces rest h
      have hread : ∀ {piece : Text.Piece} {others : List Text.Piece} {after left : List Char},
          after.length < cs.length → readPieces opening fuel after = .ok (others, left) →
          Except.ok (ε := Failure) (piece :: others, left) = .ok (pieces, rest) →
          pieces.length + rest.length < cs.length := by
        intro piece others after left hlt hothers hdone
        have hlength := ih hothers
        obtain ⟨rfl, rfl⟩ := Prod.mk.inj (Except.ok.inj hdone)
        rw [List.length_cons]
        omega
      cases cs with
      | nil => cases h
      | cons c cs =>
          unfold readPieces at h
          dsimp only at h
          split at h
          · obtain ⟨rfl, rfl⟩ := Prod.mk.inj (Except.ok.inj h)
            simp
          · split at h
            · split at h
              · cases h
              · obtain ⟨⟨piece, after⟩, hescape, h⟩ := bind_ok h
                obtain ⟨⟨others, left⟩, hothers, hdone⟩ := bind_ok h
                have hlt := length_readUnicodeEscape_lt hescape
                exact hread (by simp only [List.length_cons]; omega) hothers hdone
              · split at h
                · cases h
                · obtain ⟨⟨others, left⟩, hothers, hdone⟩ := bind_ok h
                  exact hread (by simp only [List.length_cons]; omega) hothers hdone
            · split at h
              · cases h
              · obtain ⟨⟨others, left⟩, hothers, hdone⟩ := bind_ok h
                exact hread (Nat.lt_succ_self _) hothers hdone

/-! ### Values -/

theorem readString_ok {pieces : List Text.Piece} (h : readString cs = .ok (pieces, rest)) :
    Text.ownMarks pieces ≤ cs.length ∧ rest.length < cs.length := by
  have hlength := length_readPieces_lt h
  have hown : Text.ownMarks pieces ≤ pieces.length := List.count_le_length
  exact ⟨by omega, by omega⟩

theorem readAtom_ok {value : Json} (h : readAtom cs = .ok (value, rest)) :
    IsSpelled marks value ∧ rest.length ≤ cs.length := by
  unfold readAtom at h
  split at h
  · rename_i answer hfound
    obtain ⟨⟨name, named⟩, hentry, hanswer⟩ := List.exists_of_findSome?_eq_some hfound
    obtain ⟨after, hafter, rfl⟩ := Option.map_eq_some_iff.mp hanswer
    obtain ⟨rfl, rfl⟩ := Prod.mk.inj (Except.ok.inj h)
    refine ⟨?_, length_dropPrefix?_le hafter⟩
    simp only [names, List.mem_cons, List.not_mem_nil, or_false, Prod.mk.injEq] at hentry
    rcases hentry with ⟨-, rfl⟩ | ⟨-, rfl⟩ | ⟨-, rfl⟩ | ⟨-, rfl⟩ | ⟨-, rfl⟩ | ⟨-, rfl⟩
    · exact .null
    · exact .bool true
    · exact .bool false
    · exact .real _
    · exact .real _
    · exact .real _
  · exact readNumber_ok h

/-- What is read of parts of a text that has fewer characters than there are marks. -/
structure ReadsSpelled (marks fuel : Nat) : Prop where
  value {cs rest : List Char} {value : Json} (hfew : cs.length < marks)
    (h : readValue marks fuel cs = .ok (value, rest)) :
    IsSpelled marks value ∧ rest.length ≤ cs.length
  items {cs rest : List Char} {items : List Json} (hfew : cs.length < marks)
    (h : readItems marks fuel cs = .ok (items, rest)) :
    (∀ item ∈ items, IsSpelled marks item) ∧ rest.length ≤ cs.length
  members {cs rest : List Char} {members : List (String × Json)} (hfew : cs.length < marks)
    (h : readMembers marks fuel cs = .ok (members, rest)) :
    IsSpelled marks (.object members) ∧ rest.length ≤ cs.length

variable {fuel : Nat}

theorem length_of_skipSpace {c : Char} (h : skipSpace cs = c :: rest) : rest.length < cs.length := by
  have hlength := length_skipSpace_le cs
  rw [h, List.length_cons] at hlength
  exact hlength

theorem IsSpelled.ofWritten {written : List (String × Json)}
    (h : IsSpelled marks (.object written)) : IsSpelled marks (.object (ofWritten written)) := by
  cases h with
  | object hvalues hnames =>
      exact .object (fun entry hentry => hvalues entry (Table.mem_ofPairs hentry))
        fun entry hentry => hnames entry (Table.mem_ofPairs hentry)

theorem ReadsSpelled.value_succ (ih : ReadsSpelled marks fuel) {value : Json}
    (hfew : cs.length < marks) (h : readValue marks (fuel + 1) cs = .ok (value, rest)) :
    IsSpelled marks value ∧ rest.length ≤ cs.length := by
  unfold readValue at h
  dsimp only at h
  split at h
  · obtain ⟨⟨pieces, after⟩, hstring, h⟩ := bind_ok h
    dsimp only at h
    obtain ⟨rfl, rfl⟩ := Prod.mk.inj (Except.ok.inj h)
    obtain ⟨hown, hlength⟩ := readString_ok hstring
    rw [List.length_cons] at hfew
    exact ⟨isSpelled_ofPieces (by omega), by rw [List.length_cons]; omega⟩
  · rename_i opened
    rw [List.length_cons] at hfew
    have hskipped := length_skipSpace_le opened
    split at h
    · rename_i hclosed
      obtain ⟨rfl, rfl⟩ := Prod.mk.inj (Except.ok.inj h)
      have hlength := length_of_skipSpace hclosed
      exact ⟨.list nofun, by rw [List.length_cons]; omega⟩
    · obtain ⟨⟨items, after⟩, hitems, h⟩ := bind_ok h
      dsimp only at h
      obtain ⟨rfl, rfl⟩ := Prod.mk.inj (Except.ok.inj h)
      obtain ⟨hspelled, hlength⟩ := ih.items (by omega) hitems
      exact ⟨.list hspelled, by rw [List.length_cons]; omega⟩
  · rename_i opened
    rw [List.length_cons] at hfew
    have hskipped := length_skipSpace_le opened
    split at h
    · rename_i hclosed
      obtain ⟨rfl, rfl⟩ := Prod.mk.inj (Except.ok.inj h)
      have hlength := length_of_skipSpace hclosed
      exact ⟨.object nofun nofun, by rw [List.length_cons]; omega⟩
    · obtain ⟨⟨written, after⟩, hwritten, h⟩ := bind_ok h
      dsimp only at h
      obtain ⟨rfl, rfl⟩ := Prod.mk.inj (Except.ok.inj h)
      obtain ⟨hspelled, hlength⟩ := ih.members (by omega) hwritten
      exact ⟨hspelled.ofWritten, by rw [List.length_cons]; omega⟩
  · exact readAtom_ok h

theorem ReadsSpelled.items_succ (ih : ReadsSpelled marks fuel) {items : List Json}
    (hfew : cs.length < marks) (h : readItems marks (fuel + 1) cs = .ok (items, rest)) :
    (∀ item ∈ items, IsSpelled marks item) ∧ rest.length ≤ cs.length := by
  unfold readItems at h
  obtain ⟨⟨item, after⟩, hitem, h⟩ := bind_ok h
  obtain ⟨hspelled, hlength⟩ := ih.value hfew hitem
  dsimp only at h
  split at h
  · rename_i hclosed
    obtain ⟨rfl, rfl⟩ := Prod.mk.inj (Except.ok.inj h)
    have hless := length_of_skipSpace hclosed
    exact ⟨List.forall_mem_singleton.mpr hspelled, by omega⟩
  · rename_i more hcomma
    have hless := length_of_skipSpace hcomma
    have hskipped := length_skipSpace_le more
    obtain ⟨⟨others, after'⟩, hothers, h⟩ := bind_ok h
    dsimp only at h
    obtain ⟨rfl, rfl⟩ := Prod.mk.inj (Except.ok.inj h)
    obtain ⟨hall, hlength'⟩ := ih.items (by omega) hothers
    exact ⟨List.forall_mem_cons.mpr ⟨hspelled, hall⟩, by omega⟩
  · cases h

theorem ReadsSpelled.members_succ (ih : ReadsSpelled marks fuel)
    {members : List (String × Json)} (hfew : cs.length < marks)
    (h : readMembers marks (fuel + 1) cs = .ok (members, rest)) :
    IsSpelled marks (.object members) ∧ rest.length ≤ cs.length := by
  unfold readMembers at h
  dsimp only at h
  split at h
  · rename_i opened
    rw [List.length_cons] at hfew
    obtain ⟨⟨pieces, named⟩, hstring, h⟩ := bind_ok h
    obtain ⟨hown, hshort⟩ := readString_ok hstring
    have hname : ∃ ps, Text.ownMarks ps < marks ∧ String.ofList (Text.spelling marks pieces) =
        String.ofList (Text.spelling marks ps) := ⟨pieces, by omega, rfl⟩
    dsimp only at h
    split at h
    · rename_i colon hcolon
      have hless := length_of_skipSpace hcolon
      have hskipped := length_skipSpace_le colon
      obtain ⟨⟨value, after⟩, hvalue, h⟩ := bind_ok h
      obtain ⟨hspelled, hlength⟩ := ih.value (by omega) hvalue
      dsimp only at h
      split at h
      · rename_i hclosed
        obtain ⟨rfl, rfl⟩ := Prod.mk.inj (Except.ok.inj h)
        have hless' := length_of_skipSpace hclosed
        refine ⟨.object (List.forall_mem_singleton.mpr hspelled)
          (List.forall_mem_singleton.mpr hname), ?_⟩
        rw [List.length_cons]
        omega
      · rename_i more hcomma
        have hless' := length_of_skipSpace hcomma
        have hskipped' := length_skipSpace_le more
        obtain ⟨⟨others, after'⟩, hothers, h⟩ := bind_ok h
        dsimp only at h
        obtain ⟨rfl, rfl⟩ := Prod.mk.inj (Except.ok.inj h)
        obtain ⟨hall, hlength'⟩ := ih.members (by omega) hothers
        cases hall with
        | object hvalues hnames =>
            refine ⟨.object (List.forall_mem_cons.mpr ⟨hspelled, hvalues⟩)
              (List.forall_mem_cons.mpr ⟨hname, hnames⟩), ?_⟩
            rw [List.length_cons]
            omega
      · cases h
    · cases h
  · cases h

theorem readsSpelled (marks fuel : Nat) : ReadsSpelled marks fuel := by
  induction fuel with
  | zero =>
      refine ⟨fun _ h => ?_, fun _ h => ?_, fun _ h => ?_⟩
      · unfold readValue at h
        cases h
      · unfold readItems at h
        cases h
      · unfold readMembers at h
        cases h
  | succ fuel ih => exact ⟨ih.value_succ, ih.items_succ, ih.members_succ⟩

/-- **In a value that was read, halves of surrogate pairs are found again.** -/
theorem read_spelled {s : String} {value : Json} (h : read s = .ok value) :
    IsSpelled (s.length + 1) value := by
  unfold read at h
  dsimp only at h
  split at h
  · rename_i hread
    cases h
    unfold readChars at hread
    split at hread
    · cases hread
    · obtain ⟨⟨value, rest⟩, hvalue, hread⟩ := bind_ok hread
      have hskipped := length_skipSpace_le s.toList
      rw [String.length_toList] at hvalue hskipped
      have hspelled := ((readsSpelled _ _).value (by omega) hvalue).1
      dsimp only at hread
      split at hread
      · cases hread
        exact hspelled
      · cases hread
  · cases h
  · cases h

end VacancyLedger.Json
