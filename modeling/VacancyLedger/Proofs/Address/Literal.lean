/-
Addresses of the internet protocol in lower case.

What stands in brackets in an authority must be an address, and is one still when it is lowered.
An address of the fourth version is made of digits, which stay as they are.  One of the sixth is
cut into groups at its colons, and the groups are hexadecimal in either case: `Replaces` says all
that is looked at in a group, so that the groups of one address may stand in place of those of
another.  One of a version yet to come is a letter, a number and a point, and more of any kind.
-/
import VacancyLedger.Address.Split
import VacancyLedger.Proofs.Text.Lowered

namespace VacancyLedger.Address

open Text (Lowers IsSign)

variable {cs ds : List Char}

/-! ### Digits -/

/-- What lower case makes of hexadecimal digits. -/
theorem hexDigit_table : ∀ c : Char, c.toNat < 128 →
    (!Number.isHexDigit c || Number.isHexDigit c.toLower) = true :=
  Text.forall_ascii (by decide +kernel)

theorem toNat_of_isHexDigit {c : Char} (h : Number.isHexDigit c = true) : c.toNat < 128 := by
  have hle : ∀ d : Char, d.toNat < 128 → c ≤ d → c.toNat < 128 := fun d hd hle =>
    Nat.lt_of_le_of_lt (UInt32.le_iff_toNat_le.mp hle) hd
  unfold Number.isHexDigit Number.hexValue? at h
  split at h
  · rename_i hrange
    exact hle '9' (by decide) hrange.2
  · split at h
    · rename_i hrange
      exact hle 'f' (by decide) hrange.2
    · split at h
      · rename_i hrange
        exact hle 'F' (by decide) hrange.2
      · cases h

theorem isHexDigit_toLower {c : Char} (h : Number.isHexDigit c = true) :
    Number.isHexDigit c.toLower = true := by
  have hchar := hexDigit_table c (toNat_of_isHexDigit h)
  simpa [h] using hchar

theorem all_isHexDigit_of_lowers (h : Lowers cs ds) (hall : cs.all Number.isHexDigit = true) :
    ds.all Number.isHexDigit = true := by
  rw [List.all_eq_true] at hall
  rw [h.eq_map fun c hc => toNat_of_isHexDigit (hall c hc), List.all_map, List.all_eq_true]
  exact fun c hc => isHexDigit_toLower (hall c hc)

theorem digit_table : ∀ c : Char, c.toNat < 128 → (!c.isDigit || c.toLower == c) = true :=
  Text.forall_ascii (by decide +kernel)

/-- Decimal digits stay as they are. -/
theorem eq_of_lowers_digits (h : Lowers cs ds) (hall : cs.all Char.isDigit = true) : ds = cs := by
  rw [List.all_eq_true] at hall
  have hascii : ∀ c ∈ cs, c.toNat < 128 := fun c hc =>
    Nat.lt_of_le_of_lt (Char.isDigit_iff_toNat.mp (hall c hc)).2 (by decide)
  have hfixed : ∀ c ∈ cs, c.toLower = id c := by
    intro c hc
    have hchar := digit_table c (hascii c hc)
    simpa [hall c hc] using hchar
  rw [h.eq_map hascii, List.map_congr_left hfixed, List.map_id]

/-! ### Addresses of the internet protocol -/

theorem isOctet_digits (h : isOctet cs = true) : cs.all Char.isDigit = true := by
  simp only [isOctet, Bool.and_eq_true] at h
  exact h.1.1.1.2

/-- An address of the fourth version stays as it is. -/
theorem eq_of_lowers_isV4 (h : Lowers cs ds) (hv : isV4 cs = true) :
    Text.splitAll '.' ds = Text.splitAll '.' cs := by
  have hparts := h.splitAll (c := '.') (by decide)
  simp only [isV4, Bool.and_eq_true, List.all_eq_true] at hv
  obtain ⟨-, hoctets⟩ := hv
  generalize Text.splitAll '.' cs = parts at hparts hoctets
  generalize Text.splitAll '.' ds = parts' at hparts
  induction hparts with
  | nil => rfl
  | cons hpart _ ih =>
      obtain ⟨hoctet, hrest⟩ := List.forall_mem_cons.mp hoctets
      rw [eq_of_lowers_digits hpart (isOctet_digits hoctet), ih hrest]

theorem isV4_of_lowers (h : Lowers cs ds) (hv : isV4 cs = true) : isV4 ds = true := by
  have hparts := eq_of_lowers_isV4 h hv
  unfold isV4 at hv ⊢
  rw [hparts]
  exact hv

/-- Whether a part of an address of the sixth version may be replaced by another. -/
structure Replaces (part part' : List Char) : Prop where
  empty : part = [] ↔ part' = []
  group : isGroup part = true → isGroup part' = true
  point : '.' ∈ part ↔ '.' ∈ part'
  v4 : isV4 part = true → isV4 part' = true

theorem Replaces.rfl : Replaces cs cs := ⟨Iff.rfl, id, Iff.rfl, id⟩

theorem replaces_of_lowers (h : Lowers cs ds) : Replaces cs ds where
  empty := h.nil_iff
  group := by
    intro hgroup
    simp only [isGroup, Bool.and_eq_true, Bool.not_eq_true', List.isEmpty_eq_false_iff,
      decide_eq_true_eq] at hgroup ⊢
    obtain ⟨⟨hne, hlength⟩, hhex⟩ := hgroup
    have hascii : ∀ c ∈ cs, c.toNat < 128 := fun c hc =>
      toNat_of_isHexDigit (List.all_eq_true.mp hhex c hc)
    refine ⟨⟨fun hnil => hne (h.nil_iff.mpr hnil), ?_⟩, all_isHexDigit_of_lowers h hhex⟩
    rw [h.eq_map hascii, List.length_map]
    exact hlength
  point := (h.mem_sign (by decide)).symm
  v4 := isV4_of_lowers h

section

variable {parts parts' before before' after after' : List (List Char)}

theorem forall₂_getLast? {α β : Type} {R : α → β → Prop} {l : List α} {l' : List β}
    (h : List.Forall₂ R l l') {last : α} (hlast : l.getLast? = some last) :
    ∃ last', l'.getLast? = some last' ∧ R last last' := by
  rw [List.getLast?_eq_head?_reverse] at hlast ⊢
  have hreverse := List.forall₂_reverse_iff.mpr h
  generalize l.reverse = reversed at hreverse hlast
  generalize l'.reverse = reversed' at hreverse
  cases hreverse with
  | nil => cases hlast
  | cons hfirst =>
      obtain rfl := Option.some.inj hlast
      exact ⟨_, rfl, hfirst⟩

theorem all_isGroup_of_replaces (h : List.Forall₂ Replaces parts parts')
    (hall : parts.all isGroup = true) : parts'.all isGroup = true := by
  induction h with
  | nil => rfl
  | cons hpart _ ih =>
      rw [List.all_cons, Bool.and_eq_true] at hall ⊢
      exact ⟨hpart.group hall.1, ih hall.2⟩

/-- The parts that may stand in place of others have their gaps where those have. -/
theorem getD_of_replaces (h : List.Forall₂ Replaces parts parts') (i : Nat) :
    parts.getD i [] = [] ↔ parts'.getD i [] = [] := by
  induction h generalizing i with
  | nil => rfl
  | cons hpart _ ih =>
      cases i with
      | zero => exact hpart.empty
      | succ i => exact ih i

theorem areAroundGap_of_replaces (hbefore : List.Forall₂ Replaces before before')
    (hafter : List.Forall₂ Replaces after after') (h : areAroundGap before after = true) :
    areAroundGap before' after' = true := by
  -- An empty text at an end is no group, in either of the two.
  have htrim : ∀ {l l' : List (List Char)}, List.Forall₂ Replaces l l' →
      List.Forall₂ Replaces (if l = [[]] then [] else l) (if l' = [[]] then [] else l') := by
    intro l l' hl
    have hiff : l = [[]] ↔ l' = [[]] := by
      cases hl with
      | nil => simp
      | cons hpart hrest =>
          cases hrest with
          | nil => simpa using hpart.empty
          | cons => simp
    by_cases hempty : l = [[]]
    · rw [if_pos hempty, if_pos (hiff.mp hempty)]
      exact .nil
    · rw [if_neg hempty, if_neg fun h => hempty (hiff.mpr h)]
      exact hl
  have hb := htrim hbefore
  have ha := htrim hafter
  simp only [areAroundGap, Bool.and_eq_true, decide_eq_true_eq] at h ⊢
  rw [← hb.length_eq, ← ha.length_eq]
  exact ⟨⟨h.1.1, all_isGroup_of_replaces hb h.1.2⟩, all_isGroup_of_replaces ha h.2⟩

theorem all_isGroup_of_areAroundGap (h : areAroundGap before after = true) :
    before = [[]] ∨ before.all isGroup = true := by
  by_cases hempty : before = [[]]
  · exact .inl hempty
  · simp only [areAroundGap, Bool.and_eq_true, if_neg hempty] at h
    exact .inr h.1.2

theorem groups?_of_lowers (h : Lowers cs ds) (hgroups : groups? cs = some parts) :
    ∃ parts', groups? ds = some parts' ∧ List.Forall₂ Replaces parts parts' := by
  have hparts := (h.splitAll (c := ':') (by decide)).imp fun _ _ => replaces_of_lowers
  unfold groups? at hgroups ⊢
  simp only at hgroups ⊢
  rw [← hparts.length_eq]
  split at hgroups
  · cases hgroups
  · rename_i hmany
    rw [if_neg hmany]
    cases hlast : (Text.splitAll ':' cs).getLast? with
    | none =>
        rw [hlast] at hgroups
        cases hgroups
    | some last =>
        obtain ⟨last', hlast', hreplaces⟩ := forall₂_getLast? hparts hlast
        rw [hlast] at hgroups
        rw [hlast']
        have hpoint : last.contains '.' = last'.contains '.' := by
          rw [Bool.eq_iff_iff, List.contains_iff_mem, List.contains_iff_mem]
          exact hreplaces.point
        simp only [← hpoint] at hgroups ⊢
        split at hgroups
        · split at hgroups
          · rename_i hv
            cases hgroups
            rw [if_pos (hreplaces.v4 hv)]
            refine ⟨_, if_pos ‹_›, ?_⟩
            rw [List.dropLast_eq_take, List.dropLast_eq_take, ← hparts.length_eq]
            exact List.rel_append (List.forall₂_take _ hparts)
              (List.forall₂_same.mpr fun _ _ => Replaces.rfl)
          · cases hgroups
        · cases hgroups
          exact ⟨_, if_neg ‹_›, hparts⟩

theorem isV6Unscoped_of_lowers (h : Lowers cs ds) (hv : isV6Unscoped cs = true) :
    isV6Unscoped ds = true := by
  unfold isV6Unscoped at hv ⊢
  cases hgroups : groups? cs with
  | none =>
      rw [hgroups] at hv
      cases hv
  | some parts =>
      obtain ⟨parts', hgroups', hreplaces⟩ := groups?_of_lowers h hgroups
      have hgaps : (List.range parts.length).filter (fun i =>
            0 < i && i + 1 < parts.length && (parts'.getD i []).isEmpty) =
          (List.range parts.length).filter fun i =>
            0 < i && i + 1 < parts.length && (parts.getD i []).isEmpty := by
        refine List.filter_congr fun i _ => ?_
        have hempty : (parts'.getD i []).isEmpty = (parts.getD i []).isEmpty := by
          rw [Bool.eq_iff_iff, List.isEmpty_iff, List.isEmpty_iff]
          exact (getD_of_replaces hreplaces i).symm
        rw [hempty]
      rw [hgroups] at hv
      rw [hgroups']
      simp only [← hreplaces.length_eq, hgaps] at hv ⊢
      split at hv
      · cases hv
      · rename_i hfew
        rw [if_neg hfew]
        split at hv
        · simp only [areComplete, Bool.and_eq_true] at hv ⊢
          rw [← hreplaces.length_eq]
          exact ⟨hv.1, all_isGroup_of_replaces hreplaces hv.2⟩
        · exact areAroundGap_of_replaces (List.forall₂_take _ hreplaces)
            (List.forall₂_drop _ hreplaces) hv
        · cases hv

/-- An address of the sixth version has groups, which stand between colons. -/
theorem groups?_eq_some (h : groups? cs = some parts) :
    ':' ∈ cs ∧ ∀ first rest, Text.splitAll ':' cs = first :: rest →
      ∃ more, parts = first :: more := by
  unfold groups? at h
  simp only at h
  split at h
  · cases h
  · rename_i hmany
    constructor
    · by_contra hfree
      rw [Text.splitAll_of_not_mem hfree] at hmany
      exact hmany (by simp)
    · intro first rest hsplit
      rw [hsplit] at h hmany
      split at h
      · split at h
        · split at h
          · cases h
            cases rest with
            | nil => exact absurd (by simp) hmany
            | cons next rest => exact ⟨_, rfl⟩
          · cases h
        · cases h
          exact ⟨rest, rfl⟩
      · cases h

/-- The first group is empty or a group. -/
theorem isGroup_first (h : isV6Unscoped cs = true) {first : List Char} {rest : List (List Char)}
    (hsplit : Text.splitAll ':' cs = first :: rest) : first = [] ∨ isGroup first = true := by
  unfold isV6Unscoped at h
  cases hgroups : groups? cs with
  | none =>
      rw [hgroups] at h
      cases h
  | some parts =>
      obtain ⟨more, rfl⟩ := (groups?_eq_some hgroups).2 first rest hsplit
      rw [hgroups] at h
      simp only at h
      split at h
      · cases h
      · split at h
        · simp only [areComplete, Bool.and_eq_true, List.all_cons] at h
          exact .inr h.2.1
        · rename_i i hgaps
          have hi : i ∈ (List.range (first :: more).length).filter fun i =>
              0 < i && i + 1 < (first :: more).length && ((first :: more).getD i []).isEmpty := by
            rw [hgaps]
            exact List.mem_singleton_self i
          obtain ⟨k, rfl⟩ : ∃ k, i = k + 1 := by
            simp only [List.mem_filter, Bool.and_eq_true, decide_eq_true_eq] at hi
            exact ⟨i - 1, by omega⟩
          rcases all_isGroup_of_areAroundGap h with hempty | hall
          · rw [List.take_succ_cons] at hempty
            exact .inl (List.cons.inj hempty).1
          · rw [List.take_succ_cons, List.all_cons, Bool.and_eq_true] at hall
            exact .inr hall.1
        · cases h

end

/-! ### What stands in brackets -/

/-- An address of the sixth version holds a colon, and does not start with a letter beyond `f`. -/
theorem isV6_signs (h : isV6 cs = true) : ':' ∈ cs ∧ cs.head? ≠ some 'v' := by
  have haddress : ∀ address, isV6Unscoped address = true →
      ':' ∈ address ∧ address.head? ≠ some 'v' := by
    intro address hv
    constructor
    · cases hgroups : groups? address with
      | none =>
          rw [isV6Unscoped, hgroups] at hv
          cases hv
      | some parts => exact (groups?_eq_some hgroups).1
    · intro hhead
      obtain ⟨rest, rfl⟩ : ∃ rest, address = 'v' :: rest := by
        cases address with
        | nil => cases hhead
        | cons c rest => exact ⟨rest, by rw [Option.some.inj hhead]⟩
      obtain ⟨first, parts, hsplit⟩ : ∃ first parts,
          Text.splitAll ':' ('v' :: rest) = ('v' :: first) :: parts := by
        rw [Text.splitAll, if_neg (by decide)]
        cases Text.splitAll ':' rest with
        | nil => exact ⟨[], [], rfl⟩
        | cons part parts => exact ⟨part, parts, rfl⟩
      rcases isGroup_first hv hsplit with hempty | hgroup
      · cases hempty
      · simp only [isGroup, Bool.and_eq_true, List.all_cons] at hgroup
        exact absurd hgroup.2.1 (by decide)
  unfold isV6 at h
  rw [Bool.and_eq_true] at h
  rcases Text.cutAt_cases '%' cs with ⟨-, hcut⟩ | ⟨address, zone, rfl, -, hcut⟩
  · rw [hcut] at h
    exact haddress cs h.2
  · rw [hcut] at h
    simp only [Bool.and_eq_true] at h
    obtain ⟨hcolon, hhead⟩ := haddress address h.2.2
    refine ⟨List.mem_append_left _ hcolon, ?_⟩
    cases address with
    | nil => cases hcolon
    | cons c address => exact hhead

theorem isV6_of_lowers (h : Lowers cs ds) (hv : isV6 cs = true) : isV6 ds = true := by
  unfold isV6 at hv ⊢
  rw [Bool.and_eq_true] at hv ⊢
  constructor
  · have hslash := hv.1
    rw [Bool.not_eq_true', ← Bool.not_eq_true, List.contains_iff_mem] at hslash ⊢
    exact fun hin => hslash ((h.mem_sign (by decide)).mp hin)
  · have hv := hv.2
    rcases h.cutAt (c := '%') (by decide) with ⟨-, hcut, -, hcut'⟩ |
      ⟨address, zone, address', zone', -, -, -, -, hcut, hcut', haddress, hzone⟩
    · rw [hcut] at hv
      rw [hcut']
      exact isV6Unscoped_of_lowers h hv
    · rw [hcut] at hv
      rw [hcut']
      simp only [Bool.and_eq_true, Bool.not_eq_true', ← Bool.not_eq_true, List.isEmpty_iff,
        List.contains_iff_mem] at hv ⊢
      obtain ⟨⟨hne, hpercent⟩, hv⟩ := hv
      exact ⟨⟨fun hempty => hne (hzone.nil_iff.mpr hempty),
        fun hin => hpercent ((hzone.mem_sign (by decide)).mp hin)⟩,
        isV6Unscoped_of_lowers haddress hv⟩

theorem isFuture_iff : isFuture cs = true ↔ ∃ number more, cs = 'v' :: (number ++ '.' :: more) ∧
    number ≠ [] ∧ number.all Number.isHexDigit = true ∧ more ≠ [] := by
  constructor
  · intro h
    unfold isFuture at h
    split at h
    · rename_i rest
      split at h
      · rename_i digit digits first more hspan
        rw [List.span_eq_takeWhile_dropWhile, Prod.mk.injEq] at hspan
        refine ⟨digit :: digits, first :: more, ?_, List.cons_ne_nil _ _, ?_, List.cons_ne_nil _ _⟩
        · rw [← hspan.1, ← hspan.2, List.takeWhile_append_dropWhile]
        · rw [← hspan.1]
          exact List.all_takeWhile
      · cases h
    · cases h
  · rintro ⟨number, more, rfl, hnumber, hall, hmore⟩
    have hspan : (number ++ '.' :: more).span Number.isHexDigit = (number, '.' :: more) :=
      Text.span_run (List.all_eq_true.mp hall) fun c hc => by
        obtain rfl := Option.some.inj hc
        decide
    unfold isFuture
    simp only [hspan]
    cases number with
    | nil => exact absurd rfl hnumber
    | cons =>
        cases more with
        | nil => exact absurd rfl hmore
        | cons => rfl

theorem isFuture_of_lowers (h : Lowers cs ds) (hv : isFuture cs = true) : isFuture ds = true := by
  obtain ⟨number, more, rfl, hnumber, hall, hmore⟩ := isFuture_iff.mp hv
  obtain ⟨rest, rfl, hrest⟩ := h.ascii (by decide)
  obtain ⟨number', pointed, rfl, hnumbers, hpointed⟩ := hrest.append
  obtain ⟨more', rfl, hmores⟩ := hpointed.ascii (by decide)
  exact isFuture_iff.mpr ⟨number', more', rfl, fun hempty => hnumber (hnumbers.nil_iff.mpr hempty),
    all_isHexDigit_of_lowers hnumbers hall, fun hempty => hmore (hmores.nil_iff.mpr hempty)⟩

theorem not_isV4_of_colon (h : ':' ∈ cs) : isV4 cs = false := by
  rw [← Bool.not_eq_true]
  intro hv
  simp only [isV4, Bool.and_eq_true, List.all_eq_true] at hv
  obtain ⟨part, hpart, hin⟩ := Text.exists_mem_splitAll (c := '.') h (by decide)
  have hdigits := isOctet_digits (hv.2 part hpart)
  exact absurd (List.all_eq_true.mp hdigits ':' hin) (by decide)

theorem checkBracketed_of_lowers (h : Lowers cs ds) (hok : checkBracketed cs = .ok ()) :
    checkBracketed ds = .ok () := by
  unfold checkBracketed at hok
  split at hok
  · split at hok
    · rename_i hfuture
      have hfuture' := isFuture_of_lowers h hfuture
      have hhead : ds.head? = some 'v' := by
        obtain ⟨_, _, rfl, -⟩ := isFuture_iff.mp hfuture'
        rfl
      rw [checkBracketed, if_pos hhead, if_pos hfuture']
    · cases hok
  · split at hok
    · cases hok
    · split at hok
      · rename_i hv
        have hv' := isV6_of_lowers h hv
        obtain ⟨hcolon, hhead⟩ := isV6_signs hv'
        rw [checkBracketed, if_neg hhead, not_isV4_of_colon hcolon, if_neg Bool.false_ne_true,
          if_pos hv']
      · cases hok

end VacancyLedger.Address
