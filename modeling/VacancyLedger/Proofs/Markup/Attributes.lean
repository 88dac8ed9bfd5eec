/-
Attributes that stay as they are when they are written and read again.

The attributes of an element stand in the order of their names, each name once, and the
words of a word list have one space between them.  Attributes that already stand so are not
moved when they are arranged.  Writing them changes at most the name of an encoding; it
changes no name of an attribute, and a name of an encoding that was changed is not changed
again, because no new place appears where one could start.
-/
import Mathlib.Data.String.Basic
import VacancyLedger.Markup.Sanitize
import VacancyLedger.Proofs.Markup.Tree
import VacancyLedger.Proofs.Text.Blank
import VacancyLedger.Proofs.Text.Scan

namespace VacancyLedger.Markup

open Text (isBlank)

variable {element name value : String} {attributes : List (String × String)}

/-! ### The order of attributes -/

/-- Whether attributes stand as they do in an element. -/
structure IsArranged (element : String) (attributes : List (String × String)) : Prop where
  sorted : attributes.Pairwise fun a b => a.1 < b.1
  words : ∀ a ∈ attributes, isWordList element a.1 = true → Text.collapse a.2 = a.2

theorem sorted_insertAttribute (h : attributes.Pairwise fun a b => a.1 < b.1) :
    (insertAttribute name value attributes).Pairwise fun a b => a.1 < b.1 := by
  induction attributes with
  | nil => simp [insertAttribute]
  | cons first rest ih =>
      obtain ⟨hfirst, hrest⟩ := List.pairwise_cons.mp h
      rw [insertAttribute]
      split
      · next hbefore =>
          refine List.pairwise_cons.mpr ⟨List.forall_mem_cons.mpr ⟨hbefore, ?_⟩, h⟩
          exact fun b hb => lt_trans hbefore (hfirst b hb)
      split
      · next hsame =>
          subst hsame
          exact List.pairwise_cons.mpr ⟨hfirst, hrest⟩
      · next hbefore hsame =>
          refine List.pairwise_cons.mpr ⟨fun b hb => ?_, ih hrest⟩
          rcases mem_insertAttribute hb with rfl | hb
          · exact lt_of_le_of_ne (not_lt.mp hbefore) (Ne.symm hsame)
          · exact hfirst b hb

theorem IsArranged.insert (h : IsArranged element attributes)
    (hvalue : isWordList element name = true → Text.collapse value = value) :
    IsArranged element (insertAttribute name value attributes) where
  sorted := sorted_insertAttribute h.sorted
  words := by
    intro a ha
    rcases mem_insertAttribute ha with rfl | ha
    · exact hvalue
    · exact h.words a ha

theorem isArranged_arrange (element : String) (written : List (String × String)) :
    IsArranged element (arrange element written) := by
  have hfold : ∀ attributes, IsArranged element attributes →
      IsArranged element (written.foldl (fun attributes w =>
        insertAttribute w.1 (if isWordList element w.1 then Text.collapse w.2 else w.2) attributes)
          attributes) := by
    induction written with
    | nil => exact fun attributes h => h
    | cons w written ih =>
        intro attributes h
        refine ih _ (h.insert fun hwords => ?_)
        rw [if_pos hwords, Text.collapse_collapse]
  exact hfold [] ⟨.nil, by simp⟩

theorem insertAttribute_last (h : ∀ a ∈ attributes, a.1 < name) :
    insertAttribute name value attributes = attributes ++ [(name, value)] := by
  induction attributes with
  | nil => rfl
  | cons first rest ih =>
      obtain ⟨hfirst, hrest⟩ := List.forall_mem_cons.mp h
      rw [insertAttribute, if_neg (lt_asymm hfirst), if_neg (ne_of_gt hfirst), ih hrest,
        List.cons_append]

/-- Arranging moves nothing that stands in its place. -/
theorem arrange_of_isArranged (h : IsArranged element attributes) :
    arrange element attributes = attributes := by
  have hfold : ∀ before, IsArranged element (before ++ attributes) →
      attributes.foldl (fun attributes w =>
        insertAttribute w.1 (if isWordList element w.1 then Text.collapse w.2 else w.2) attributes)
          before = before ++ attributes := by
    clear h
    induction attributes with
    | nil => simp
    | cons a rest ih =>
        intro before h
        have hvalue : (if isWordList element a.1 then Text.collapse a.2 else a.2) = a.2 := by
          split
          · next hwords => exact h.words a (by simp) hwords
          · rfl
        have hlast : ∀ b ∈ before, b.1 < a.1 := fun b hb =>
          (List.pairwise_append.mp h.sorted).2.2 b hb a List.mem_cons_self
        have happend : before ++ a :: rest = before ++ [a] ++ rest := by simp
        rw [happend] at h ⊢
        rw [List.foldl_cons, hvalue, insertAttribute_last hlast]
        exact ih _ h
  exact hfold [] h

theorem IsArranged.safeAttributes (h : IsArranged element attributes) :
    IsArranged element (safeAttributes attributes) where
  sorted := h.sorted.filter _
  words := fun a ha => h.words a (List.mem_filter.mp ha).1

/-! ### The encoding that is named -/

/-- Whether a parameter of a content type may start after the character. -/
def endsParameter (c : Char) : Bool := c == ';' || isBlank c

theorem renameCharset_named (fuel : Nat) (rest : List Char) :
    renameCharset true (fuel + 1) ("charset=".toList ++ rest) =
      "charset=".toList ++ encodingName ++ renameCharset false fuel (rest.dropWhile (· ≠ ';')) := by
  rfl

theorem renameCharset_other {boundary : Bool} {c : Char} {cs : List Char}
    (h : boundary = true → ¬ "charset=".toList <+: c :: cs) (fuel : Nat) :
    renameCharset boundary (fuel + 1) (c :: cs) =
      c :: renameCharset (endsParameter c) fuel cs := by
  have hnone :
      (if boundary then Text.dropPrefix? "charset=".toList (c :: cs) else none) = none := by
    split
    · next hboundary =>
        rw [← Text.startsWith_iff, Text.startsWith, Option.not_isSome_iff_eq_none] at h
        exact h hboundary
    · rfl
  rw [renameCharset, hnone]
  rfl

/-- A text without an end of a parameter stands in the result only where it stood before. -/
theorem prefix_of_renameCharset {text cs : List Char} {fuel : Nat}
    (htext : text.all (fun c => !endsParameter c) = true)
    (h : text <+: renameCharset false fuel cs) : text <+: cs := by
  induction text generalizing fuel cs with
  | nil => exact List.nil_prefix
  | cons c text ih =>
      obtain ⟨hc, htext⟩ := Bool.and_eq_true_iff.mp (List.all_cons ▸ htext)
      have hc : endsParameter c = false := by simpa using hc
      cases fuel with
      | zero => exact h
      | succ fuel =>
          cases cs with
          | nil => exact h
          | cons d ds =>
              rw [renameCharset_other (by simp)] at h
              obtain ⟨rfl, h⟩ := List.cons_prefix_cons.mp h
              rw [hc] at h
              exact List.cons_prefix_cons.mpr ⟨rfl, ih htext h⟩

/-- The end of a parameter stays in its place. -/
theorem renameCharset_dropWhile {fuel : Nat} {cs : List Char}
    (hcs : ∀ c ∈ cs.head?, decide (c ≠ ';') = false) :
    (renameCharset false fuel cs).dropWhile (· ≠ ';') = renameCharset false fuel cs := by
  cases cs with
  | nil => cases fuel <;> rfl
  | cons c cs =>
      have hc : decide (c ≠ ';') = false := hcs c rfl
      cases fuel with
      | zero => exact List.dropWhile_cons_of_neg (by simpa using hc)
      | succ fuel =>
          rw [renameCharset_other (by simp)]
          exact List.dropWhile_cons_of_neg (by simpa using hc)

/-- An encoding that was renamed is not renamed again. -/
theorem renameCharset_renameCharset {boundary : Bool} {fuel again : Nat} {cs : List Char}
    (hfuel : cs.length ≤ fuel) (hagain : (renameCharset boundary fuel cs).length ≤ again) :
    renameCharset boundary again (renameCharset boundary fuel cs) =
      renameCharset boundary fuel cs := by
  induction fuel generalizing boundary again cs with
  | zero =>
      rw [List.eq_nil_of_length_eq_zero (Nat.le_zero.mp hfuel)]
      cases again <;> rfl
  | succ fuel ih =>
      cases cs with
      | nil => cases again <;> rfl
      | cons c cs =>
          by_cases hnamed : boundary = true ∧ "charset=".toList <+: c :: cs
          · obtain ⟨rfl, rest, hrest⟩ := hnamed
            have hpositive : 0 < "charset=".toList.length := by decide
            have htail : (rest.dropWhile (· ≠ ';')).length ≤ fuel := by
              have hdrop := (List.dropWhile_sublist (l := rest) (· ≠ ';')).length_le
              have hlength := congrArg List.length hrest
              rw [List.length_append, List.length_cons] at hlength
              rw [List.length_cons] at hfuel
              omega
            rw [← hrest, renameCharset_named, List.append_assoc] at hagain ⊢
            obtain ⟨again, rfl⟩ : ∃ n, again = n + 1 :=
              Nat.exists_eq_add_one.mpr (Nat.lt_of_lt_of_le (by simp) hagain)
            generalize hparameter : rest.dropWhile (· ≠ ';') = parameter at htail hagain ⊢
            have hstays : (encodingName ++ renameCharset false fuel parameter).dropWhile (· ≠ ';') =
                renameCharset false fuel parameter := by
              have hname : encodingName.all (· ≠ ';') = true := rfl
              rw [List.dropWhile_append_of_pos (List.all_eq_true.mp hname),
                renameCharset_dropWhile (hparameter ▸ Text.head?_dropWhile _ _)]
            rw [renameCharset_named, hstays, ih htail, List.append_assoc]
            simp only [List.length_append] at hagain
            omega
          · have hother : boundary = true → ¬ "charset=".toList <+: c :: cs :=
              fun hboundary hprefix => hnamed ⟨hboundary, hprefix⟩
            rw [renameCharset_other hother] at hagain ⊢
            obtain ⟨again, rfl⟩ : ∃ n, again = n + 1 :=
              Nat.exists_eq_add_one.mpr (Nat.lt_of_lt_of_le (by simp) hagain)
            have hagain' : boundary = true →
                ¬ "charset=".toList <+: c :: renameCharset (endsParameter c) fuel cs := by
              intro hboundary hprefix
              obtain ⟨hc, hprefix⟩ := List.cons_prefix_cons.mp hprefix
              rw [← hc] at hprefix
              have hbefore : "harset=".toList <+: cs := prefix_of_renameCharset rfl hprefix
              exact hother hboundary (List.cons_prefix_cons.mpr ⟨hc, hbefore⟩)
            rw [renameCharset_other hagain', ih (Nat.le_of_succ_le_succ hfuel)
              (Nat.le_of_succ_le_succ hagain)]

/-! ### Attributes that are read again -/

/-- Attributes with a new value for one name, as they are written. -/
def replaceValue (n : String) (value : List Char) (attributes : List (String × String)) :
    List (String × List Char) :=
  attributes.map fun a => (a.1, if a.1 = n then value else a.2.toList)

/-- Written attributes as they are found again. -/
def foundAgain (written : List (String × List Char)) : List (String × String) :=
  written.map fun a => (a.1, String.ofList a.2)

theorem foundAgain_map_toList (attributes : List (String × String)) :
    foundAgain (attributes.map fun a => (a.1, a.2.toList)) = attributes := by
  simp only [foundAgain, List.map_map, Function.comp_def, String.ofList_toList]
  exact List.map_id' _

theorem lookup_replaceValue (n m : String) (value : List Char)
    (attributes : List (String × String)) :
    (foundAgain (replaceValue n value attributes)).lookup m =
      (attributes.lookup m).map fun v => if m = n then String.ofList value else v := by
  induction attributes with
  | nil => rfl
  | cons a attributes ih =>
      obtain ⟨k, v⟩ := a
      by_cases hm : m = k
      · subst hm
        simp [replaceValue, foundAgain, apply_ite String.ofList]
      · have hne : (m == k) = false := beq_false_of_ne hm
        simp only [replaceValue, foundAgain, List.map_cons, List.lookup_cons, hne]
        exact ih

theorem replaceValue_replaceValue (n : String) (value : List Char)
    (attributes : List (String × String)) :
    replaceValue n value (foundAgain (replaceValue n value attributes)) =
      replaceValue n value attributes := by
  simp only [replaceValue, foundAgain, List.map_map, Function.comp_def]
  refine List.map_congr_left fun a _ => ?_
  split
  · rfl
  · rw [String.toList_ofList]

theorem writtenAttributes_charset (h : (attributes.lookup "charset").isSome = true) :
    writtenAttributes "meta" attributes = replaceValue "charset" encodingName attributes := by
  simp only [writtenAttributes, h, if_true, replaceValue]

theorem writtenAttributes_content {content kind : String}
    (hcharset : attributes.lookup "charset" = none)
    (hcontent : attributes.lookup "content" = some content)
    (hkind : attributes.lookup "http-equiv" = some kind)
    (hlower : Text.lower kind = "content-type") :
    writtenAttributes "meta" attributes =
      replaceValue "content" (renameCharset true (content.length + 1) content.toList)
        attributes := by
  simp [writtenAttributes, hcharset, hcontent, hkind, hlower, replaceValue]

/-- Attributes are written with their own values, unless one names an encoding. -/
theorem writtenAttributes_cases (name : String) (attributes : List (String × String)) :
    writtenAttributes name attributes = attributes.map (fun a => (a.1, a.2.toList)) ∨
      name = "meta" ∧ ((attributes.lookup "charset").isSome = true ∨
        attributes.lookup "charset" = none ∧ ∃ content kind,
          attributes.lookup "content" = some content ∧
          attributes.lookup "http-equiv" = some kind ∧ Text.lower kind = "content-type") := by
  unfold writtenAttributes
  dsimp only
  split
  · next hmeta =>
      split
      · next hcharset => exact .inr ⟨hmeta, .inl hcharset⟩
      · next hcharset =>
          split
          · next content kind hcontent hkind =>
              split
              · next hlower =>
                  refine .inr ⟨hmeta, .inr ⟨?_, content, kind, hcontent, hkind, hlower⟩⟩
                  exact Option.not_isSome_iff_eq_none.mp hcharset
              · exact .inl rfl
          · exact .inl rfl
  · exact .inl rfl

/-- **Attributes that are found where they were written are written as they were.** -/
theorem writtenAttributes_foundAgain (name : String) (attributes : List (String × String)) :
    writtenAttributes name (foundAgain (writtenAttributes name attributes)) =
      writtenAttributes name attributes := by
  rcases writtenAttributes_cases name attributes with
    hsame | ⟨rfl, hcharset | ⟨hcharset, content, kind, hcontent, hkind, hlower⟩⟩
  · rw [hsame, foundAgain_map_toList, hsame]
  · rw [writtenAttributes_charset hcharset, writtenAttributes_charset, replaceValue_replaceValue]
    rw [lookup_replaceValue, Option.isSome_map, hcharset]
  · rw [writtenAttributes_content hcharset hcontent hkind hlower]
    generalize hnew : renameCharset true (content.length + 1) content.toList = new
    have hcharset' := lookup_replaceValue "content" "charset" new attributes
    have hcontent' := lookup_replaceValue "content" "content" new attributes
    have hkind' := lookup_replaceValue "content" "http-equiv" new attributes
    rw [hcharset, Option.map_none] at hcharset'
    rw [hcontent, Option.map_some, if_pos rfl] at hcontent'
    rw [hkind, Option.map_some, if_neg (by decide)] at hkind'
    have hagain : renameCharset true ((String.ofList new).length + 1) (String.ofList new).toList =
        new := by
      rw [String.toList_ofList, String.length_ofList, ← hnew]
      refine renameCharset_renameCharset ?_ (Nat.le_succ _)
      rw [String.length_toList]
      exact Nat.le_succ _
    rw [writtenAttributes_content hcharset' hcontent' hkind' hlower, hagain,
      replaceValue_replaceValue]

/-- Every attribute keeps its name, and its value unless it names an encoding. -/
theorem mem_writtenAttributes {a : String × List Char} (h : a ∈ writtenAttributes name attributes) :
    ∃ value, (a.1, value) ∈ attributes ∧
      (a.2 = value.toList ∨ a.1 = "charset" ∨ a.1 = "content") := by
  have hreplaced {n : String} {new : List Char} (hn : n = "charset" ∨ n = "content")
      (h : a ∈ replaceValue n new attributes) :
      ∃ value, (a.1, value) ∈ attributes ∧
        (a.2 = value.toList ∨ a.1 = "charset" ∨ a.1 = "content") := by
    obtain ⟨b, hb, rfl⟩ := List.mem_map.mp h
    refine ⟨b.2, hb, ?_⟩
    by_cases hbn : b.1 = n
    · exact .inr (hbn ▸ hn)
    · exact .inl (if_neg hbn)
  rcases writtenAttributes_cases name attributes with
    hsame | ⟨rfl, hcharset | ⟨hcharset, content, kind, hcontent, hkind, hlower⟩⟩
  · rw [hsame] at h
    obtain ⟨b, hb, rfl⟩ := List.mem_map.mp h
    exact ⟨b.2, hb, .inl rfl⟩
  · rw [writtenAttributes_charset hcharset] at h
    exact hreplaced (.inl rfl) h
  · rw [writtenAttributes_content hcharset hcontent hkind hlower] at h
    exact hreplaced (.inr rfl) h

theorem writtenAttributes_names (name : String) (attributes : List (String × String)) :
    (writtenAttributes name attributes).map Prod.fst = attributes.map Prod.fst := by
  have hreplaced (n : String) (new : List Char) :
      (replaceValue n new attributes).map Prod.fst = attributes.map Prod.fst := by
    simp [replaceValue, Function.comp_def]
  rcases writtenAttributes_cases name attributes with
    hsame | ⟨rfl, hcharset | ⟨hcharset, content, kind, hcontent, hkind, hlower⟩⟩
  · simp [hsame, Function.comp_def]
  · rw [writtenAttributes_charset hcharset, hreplaced]
  · rw [writtenAttributes_content hcharset hcontent hkind hlower, hreplaced]

theorem IsArranged.foundAgain (h : IsArranged element attributes) :
    IsArranged element (foundAgain (writtenAttributes element attributes)) where
  sorted := by
    have hnames := List.pairwise_map.mpr h.sorted
    rw [← writtenAttributes_names element] at hnames
    exact List.pairwise_map.mpr (List.pairwise_map.mp hnames)
  words := by
    intro a ha hwords
    obtain ⟨w, hw, rfl⟩ := List.mem_map.mp ha
    obtain ⟨value, hvalue, hwritten | hcharset | hcontent⟩ := mem_writtenAttributes hw
    · rw [hwritten, String.ofList_toList]
      exact h.words _ hvalue hwords
    · rw [hcharset] at hwords
      cases hwords
    · rw [hcontent] at hwords
      cases hwords

end VacancyLedger.Markup
