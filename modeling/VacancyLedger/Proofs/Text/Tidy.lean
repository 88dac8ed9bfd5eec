/-
Texts without blanks around them.

What a text starts and ends with says whether there are blanks around it, so a text is tidy if its
ends are no blanks.  Stripping leaves a tidy text or nothing, a text without any blanks is tidy, and
tidy texts that are joined make a tidy text, whatever stands between them.

Numbers are written with digits, signs, a point, an exponent mark and the letters of the names of
the numbers that are not finite, and at least one of these; so there are no blanks in them.
-/
import Mathlib.Data.List.DropRight
import VacancyLedger.Number.Shortest
import VacancyLedger.Proofs.Text.Blank
import VacancyLedger.Proofs.Text.Scan
import VacancyLedger.Proofs.Time.Reading

namespace VacancyLedger.Text

/-- Whether a text is not empty and has no blanks around it. -/
def IsTidy (s : String) : Prop := s ≠ "" ∧ strip s = s

/-- Whether there is a first and a last character, neither of them a blank. -/
def HasPlainEnds (cs : List Char) : Prop :=
  (∃ c ∈ cs.head?, isBlank c = false) ∧ ∃ c ∈ cs.getLast?, isBlank c = false

variable {cs ds : List Char}

theorem HasPlainEnds.ne_nil (h : HasPlainEnds cs) : cs ≠ [] := by
  rintro rfl
  obtain ⟨⟨c, hc, -⟩, -⟩ := h
  cases hc

theorem HasPlainEnds.trim_eq (h : HasPlainEnds cs) : trim cs = cs := by
  obtain ⟨⟨first, hfirst, hfirstplain⟩, last, hlast, hlastplain⟩ := h
  have hstart : trimStart ([] ++ cs) = cs := by
    refine dropWhile_run nofun fun c hc => ?_
    rwa [Option.mem_unique hc hfirst]
  have hend : cs.rdropWhile isBlank = cs := by
    refine List.rdropWhile_eq_self_iff.mpr fun hne => ?_
    rw [← Option.mem_unique hlast (List.getLast?_eq_some_getLast hne), hlastplain]
    exact Bool.false_ne_true
  rw [List.nil_append] at hstart
  rw [trim, hstart]
  exact hend

theorem hasPlainEnds_trim (h : trim cs ≠ []) : HasPlainEnds (trim cs) := by
  have hprefix : trim cs <+: trimStart cs := List.rdropWhile_prefix isBlank _
  have hlast : ¬isBlank ((trim cs).getLast h) = true := List.rdropWhile_last_not isBlank _ h
  refine ⟨⟨(trim cs).head h, List.head?_eq_some_head h, ?_⟩,
    (trim cs).getLast h, List.getLast?_eq_some_getLast h, by simpa using hlast⟩
  exact head?_dropWhile isBlank cs _ (mem_head?_mono hprefix (List.head?_eq_some_head h))

theorem isTidy_iff {s : String} : IsTidy s ↔ HasPlainEnds s.toList := by
  constructor
  · rintro ⟨hne, hstrip⟩
    have htrim : trim s.toList = s.toList := by
      have hlist := congrArg String.toList hstrip
      rwa [strip, String.toList_ofList] at hlist
    rw [← htrim]
    refine hasPlainEnds_trim ?_
    rw [htrim]
    exact fun h => hne (String.toList_eq_nil_iff.mp h)
  · intro h
    refine ⟨fun hempty => h.ne_nil (by rw [hempty]; rfl), ?_⟩
    rw [strip, h.trim_eq, String.ofList_toList]

/-- What stripping leaves of a text is tidy, if it leaves anything. -/
theorem isTidy_strip {s : String} (h : strip s ≠ "") : IsTidy (strip s) := by
  rw [isTidy_iff, strip, String.toList_ofList]
  refine hasPlainEnds_trim fun hnil => h ?_
  rw [strip, hnil]

theorem hasPlainEnds_of_no_blank (hne : cs ≠ []) (h : ∀ c ∈ cs, isBlank c = false) :
    HasPlainEnds cs :=
  ⟨⟨cs.head hne, List.head?_eq_some_head hne, h _ (List.head_mem hne)⟩,
    ⟨cs.getLast hne, List.getLast?_eq_some_getLast hne, h _ (List.getLast_mem hne)⟩⟩

theorem HasPlainEnds.append (hcs : HasPlainEnds cs) (hds : HasPlainEnds ds)
    (between : List Char) : HasPlainEnds (cs ++ between ++ ds) := by
  obtain ⟨⟨first, hfirst, hfirstplain⟩, -⟩ := hcs
  obtain ⟨-, last, hlast, hlastplain⟩ := hds
  refine ⟨⟨first, ?_, hfirstplain⟩, last, ?_, hlastplain⟩
  · rw [List.append_assoc]
    exact mem_head?_mono (List.prefix_append ..) hfirst
  · rw [List.getLast?_append, Option.mem_def.mp hlast]
    rfl

theorem hasPlainEnds_intercalate {parts : List (List Char)} (separator : List Char)
    (hne : parts ≠ []) (h : ∀ part ∈ parts, HasPlainEnds part) :
    HasPlainEnds (List.intercalate separator parts) := by
  induction parts with
  | nil => exact absurd rfl hne
  | cons part rest ih =>
      obtain ⟨hpart, hrest⟩ := List.forall_mem_cons.mp h
      cases rest with
      | nil => simpa using hpart
      | cons next rest =>
          rw [List.intercalate_cons_cons]
          exact hpart.append (ih (List.cons_ne_nil _ _) hrest) separator

theorem isTidy_joinWith {parts : List String} (separator : String) (hne : parts ≠ [])
    (h : ∀ part ∈ parts, IsTidy part) : IsTidy (joinWith separator parts) := by
  rw [isTidy_iff, joinWith, String.toList_ofList]
  refine hasPlainEnds_intercalate _ (mt List.map_eq_nil_iff.mp hne) ?_
  exact List.forall_mem_map.mpr fun part hpart => isTidy_iff.mp (h part hpart)

end VacancyLedger.Text

/-! ### Numbers as texts -/

namespace VacancyLedger.Number

open Text (isBlank IsTidy)

/-- Whether a run of characters is not empty and holds no blank. -/
def IsSolid (cs : List Char) : Prop := cs ≠ [] ∧ ∀ c ∈ cs, isBlank c = false

variable {cs ds : List Char}

instance : Decidable (IsSolid cs) :=
  decidable_of_iff ((!cs.isEmpty && cs.all fun c => !isBlank c) = true) (by simp [IsSolid])

theorem isTidy_of_isSolid {s : String} (h : IsSolid s.toList) : IsTidy s :=
  Text.isTidy_iff.mpr (Text.hasPlainEnds_of_no_blank h.1 h.2)

theorem IsSolid.cons (c : Char) (hc : isBlank c = false) (h : ∀ c ∈ cs, isBlank c = false) :
    IsSolid (c :: cs) :=
  ⟨List.cons_ne_nil c cs, List.forall_mem_cons.mpr ⟨hc, h⟩⟩

/-! ### Integers -/

theorem isSolid_toString (n : Nat) : IsSolid (toString n).toList := by
  have hdigits : (toString n).toList = Nat.toDigits 10 n := Nat.toList_repr
  rw [hdigits]
  exact ⟨Nat.toDigits_ne_nil, fun c hc => Time.Instant.isBlank_of_isDigit
    (Nat.isDigit_of_mem_toDigits (by decide) (by decide) hc)⟩

theorem isTidy_toString (n : Int) : IsTidy (toString n) := by
  cases n with
  | ofNat n =>
      exact isTidy_of_isSolid (isSolid_toString n)
  | negSucc n =>
      have htext : (toString (Int.negSucc n)).toList = '-' :: (toString (n + 1)).toList :=
        String.toList_append
      refine isTidy_of_isSolid ?_
      rw [htext]
      exact .cons '-' (by decide) (isSolid_toString (n + 1)).2

/-! ### Floating point numbers -/

theorem isSolid_layout (h : ∀ c ∈ ds, isBlank c = false) (point : Int) :
    IsSolid (layout ds point) := by
  have hzero : isBlank '0' = false := by decide
  have hpoint : isBlank '.' = false := by decide
  have hzeros : ∀ k, ∀ c ∈ List.replicate k '0', isBlank c = false := fun k c hc => by
    rw [(List.mem_replicate.mp hc).2, hzero]
  unfold layout
  split
  · split
    · exact .cons '0' hzero
        (List.forall_mem_cons.mpr ⟨hpoint, List.forall_mem_append.mpr ⟨hzeros _, h⟩⟩)
    · split
      · refine ⟨by simp, ?_⟩
        refine List.forall_mem_append.mpr ⟨List.forall_mem_append.mpr ⟨h, hzeros _⟩, ?_⟩
        exact List.forall_mem_cons.mpr ⟨hpoint, List.forall_mem_singleton.mpr hzero⟩
      · refine ⟨by simp, List.forall_mem_append.mpr ⟨fun c hc => h c (List.mem_of_mem_take hc), ?_⟩⟩
        exact List.forall_mem_cons.mpr ⟨hpoint, fun c hc => h c (List.mem_of_mem_drop hc)⟩
  · refine ⟨by simp, List.forall_mem_append.mpr ⟨?_, ?_⟩⟩
    · split
      · obtain ⟨hfirst, hrest⟩ := List.forall_mem_cons.mp h
        exact List.forall_mem_cons.mpr ⟨hfirst, List.forall_mem_cons.mpr ⟨hpoint, hrest⟩⟩
      · exact h
    · refine List.forall_mem_cons.mpr ⟨by decide, List.forall_mem_cons.mpr ⟨?_, ?_⟩⟩
      · split <;> decide
      · exact List.forall_mem_append.mpr ⟨hzeros _, (isSolid_toString _).2⟩

theorem shortestDigits_no_blank (m : Nat) (q : Int) :
    ∀ c ∈ (shortestDigits m q).1, isBlank c = false := by
  intro c hc
  have hdigits := (List.dropWhile_sublist (· == '0')).subset (List.mem_reverse.mp hc)
  exact (isSolid_toString _).2 c (List.mem_reverse.mp hdigits)

theorem isTidy_shortest (x : Float) : IsTidy (shortest x) := by
  rw [shortest]
  split
  · exact isTidy_of_isSolid (by decide)
  · split <;> exact isTidy_of_isSolid (by decide)
  · rename_i negative m q _
    have hbody : IsSolid (if m = 0 then ['0', '.', '0'] else
        layout (shortestDigits m q).1 (shortestDigits m q).2) := by
      split
      · decide
      · exact isSolid_layout (shortestDigits_no_blank m q) _
    refine isTidy_of_isSolid ?_
    rw [String.toList_ofList]
    split
    · exact .cons '-' (by decide) hbody.2
    · exact hbody

end VacancyLedger.Number
