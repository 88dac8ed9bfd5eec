/-
Start tags that are read back.

Whatever stands in a start tag, its name and the names of its attributes come out without
the characters that end a name, and in lower case.  A tag that is written with such names
and with quoted values is read as what it was written for, and the reading goes on after its
bracket.
-/
import VacancyLedger.Markup.Lexer
import VacancyLedger.Proofs.Markup.Reference
import VacancyLedger.Proofs.Outcome
import VacancyLedger.Proofs.Text.Case

namespace VacancyLedger.Markup

open Text (isBlank lowerChars lowerFrom IsSmall mem_lowerChars span_run)

variable {c q : Char} {cs name tail body : List Char} {fuel : Nat}

/-! ### Names -/

/-- Whether an attribute's name may start with the character. -/
def startsAttribute (c : Char) : Bool := !(c == '>' || c == '/' || isBlank c)

/-- Whether an attribute's name goes on with the character. -/
def continuesAttribute (c : Char) : Bool := !(c == '/' || c == '=' || c == '>' || isBlank c)

/-- The name of a tag as it stands in a token. -/
structure IsTagName (name : List Char) : Prop where
  head : ∃ c tail, name = c :: tail ∧ isLetter c = true
  allowed : ∀ c ∈ name, isTagNameChar c = true
  low : lowerChars name = name

/-- The name of an attribute as it stands in a token. -/
structure IsAttributeName (name : List Char) : Prop where
  shape : ∃ c tail, name = c :: tail ∧ startsAttribute c = true ∧
    ∀ d ∈ tail, continuesAttribute d = true
  low : lowerChars name = name

theorem isTagNameChar_of_isSmall (h : IsSmall c) : isTagNameChar c = true := by
  simp only [isTagNameChar, Bool.not_eq_true', Bool.or_eq_false_iff, beq_eq_false_iff_ne]
  refine ⟨⟨⟨⟨⟨⟨⟨?_, ?_⟩, ?_⟩, ?_⟩, ?_⟩, ?_⟩, ?_⟩, ?_⟩ <;> (rintro rfl; exact absurd h (by decide))

theorem continuesAttribute_of_isSmall (h : IsSmall c) : continuesAttribute c = true := by
  simp only [continuesAttribute, Bool.not_eq_true', Bool.or_eq_false_iff, beq_eq_false_iff_ne]
  refine ⟨⟨⟨?_, ?_⟩, ?_⟩, h.1⟩ <;> (rintro rfl; exact absurd h (by decide))

theorem startsAttribute_of_continues (h : continuesAttribute c = true) :
    startsAttribute c = true := by
  simp only [continuesAttribute, startsAttribute, Bool.not_eq_true', Bool.or_eq_false_iff] at h ⊢
  exact ⟨⟨h.1.2, h.1.1.1⟩, h.2⟩

/-- Only ASCII has a character that starts a name and ends it everywhere else. -/
theorem continuesAttribute_of_not_ascii (hascii : ¬ c.toNat < 128) (h : startsAttribute c = true) :
    continuesAttribute c = true := by
  have hequals : c ≠ '=' := by
    rintro rfl
    exact hascii (by decide)
  simp only [continuesAttribute, startsAttribute, Bool.not_eq_true', Bool.or_eq_false_iff] at h ⊢
  exact ⟨⟨⟨h.1.2, beq_eq_false_iff_ne.mpr hequals⟩, h.1.1⟩, h.2⟩

theorem isLetter_table : ∀ n < 128, isLetter (Char.ofNat n) = true →
    isLetter (Char.ofNat n).toLower = true ∧ isTagNameChar (Char.ofNat n) = true := by
  decide +kernel

theorem isLetter_ascii (h : isLetter c = true) : c.toNat < 128 :=
  (Text.toNat_of_isAlpha h).2

theorem isLetter_spec (h : isLetter c = true) :
    isLetter c.toLower = true ∧ isTagNameChar c = true := by
  have hspec := isLetter_table c.toNat (isLetter_ascii h)
  rw [Char.ofNat_toNat] at hspec
  exact hspec h

/-- A name that was read is a tag's name once it is lowered. -/
theorem isTagName_lowerChars (hletter : isLetter c = true)
    (htail : ∀ d ∈ tail, isTagNameChar d = true) : IsTagName (lowerChars (c :: tail)) where
  head := by
    obtain ⟨casedBefore, hcons⟩ := Text.lowerChars_cons_ascii (isLetter_ascii hletter) tail
    exact ⟨_, _, hcons, (isLetter_spec hletter).1⟩
  allowed := by
    intro d hd
    rcases mem_lowerChars hd with hd | hd
    · rcases List.mem_cons.mp hd with rfl | hd
      · exact (isLetter_spec hletter).2
      · exact htail d hd
    · exact isTagNameChar_of_isSmall hd
  low := Text.lowerChars_lowerChars _

theorem isAttributeName_lowerChars (hstart : startsAttribute c = true)
    (htail : ∀ d ∈ tail, continuesAttribute d = true) :
    IsAttributeName (lowerChars (c :: tail)) where
  shape := by
    by_cases hascii : c.toNat < 128
    · obtain ⟨casedBefore, hcons⟩ := Text.lowerChars_cons_ascii hascii tail
      have hsigma : c ≠ 'Σ' := by
        rintro rfl
        exact absurd hascii (by decide)
      have hlow : c.toLower = c ∨ IsSmall c.toLower :=
        (Text.isLow_of_mem_lowerChar hsigma (by simp [Text.lowerChar, hascii])).2
      refine ⟨_, _, hcons, ?_, ?_⟩
      · rcases hlow with hlow | hlow
        · rwa [hlow]
        · exact startsAttribute_of_continues (continuesAttribute_of_isSmall hlow)
      · intro d hd
        exact (Text.isLow_of_mem_lowerFrom hd).2.elim (htail d) continuesAttribute_of_isSmall
    · have hall : ∀ d ∈ lowerChars (c :: tail), continuesAttribute d = true := by
        intro d hd
        rcases mem_lowerChars hd with hd | hd
        · rcases List.mem_cons.mp hd with rfl | hd
          · exact continuesAttribute_of_not_ascii hascii hstart
          · exact htail d hd
        · exact continuesAttribute_of_isSmall hd
      obtain ⟨d, ds, hds⟩ := List.exists_cons_of_ne_nil (Text.lowerChars_cons_ne_nil c tail)
      rw [hds] at hall ⊢
      exact ⟨d, ds, rfl, startsAttribute_of_continues (hall d (List.mem_cons_self ..)),
        fun e he => hall e (List.mem_cons_of_mem _ he)⟩
  low := Text.lowerChars_lowerChars _

/-! ### Names of what was read -/

theorem readAttributes_names {last : Char} {written : List WrittenAttribute} {ending : TagEnd}
    (h : readAttributes fuel last cs = (written, ending)) :
    ∀ a ∈ written, IsAttributeName (lowerChars a.1) := by
  induction fuel generalizing last cs written ending with
  | zero =>
      cases h
      simp
  | succ fuel ih =>
      cases cs with
      | nil =>
          cases h
          simp
      | cons c cs =>
          rw [readAttributes] at h
          split at h
          · cases h
            simp
          · next hgo =>
              have hstart : startsAttribute c = true := by
                simp only [startsAttribute]
                simp only [Bool.or_eq_true, not_or] at hgo
                simp [hgo]
              simp only [List.span_eq_takeWhile_dropWhile] at h
              cases h
              intro a ha
              rcases List.mem_cons.mp ha with rfl | ha
              · refine isAttributeName_lowerChars hstart fun d hd => ?_
                exact List.mem_takeWhile_imp hd
              · exact ih rfl a ha

/-- The names of a start tag, in whatever text it was read. -/
theorem readStartTag_names {written : List WrittenAttribute} {ending : TagEnd}
    (hletter : isLetter c = true) (h : readStartTag (c :: cs) = (name, written, ending)) :
    IsTagName (lowerChars name) ∧ ∀ a ∈ written, IsAttributeName (lowerChars a.1) := by
  simp only [readStartTag, List.span_eq_takeWhile_dropWhile] at h
  cases h
  refine ⟨?_, readAttributes_names rfl⟩
  rw [List.takeWhile_cons_of_pos (isLetter_spec hletter).2]
  exact isTagName_lowerChars hletter fun d hd => List.mem_takeWhile_imp hd

theorem attributesOf_names {written : List WrittenAttribute} {attributes : List (String × String)}
    (h : attributesOf written = .ok attributes)
    (hnames : ∀ a ∈ written, IsAttributeName (lowerChars a.1)) :
    ∀ a ∈ attributes, IsAttributeName a.1.toList := by
  induction written generalizing attributes with
  | nil =>
      cases h
      simp
  | cons a written ih =>
      rw [attributesOf, List.mapM_cons] at h
      obtain ⟨first, hfirst, h⟩ := bind_ok h
      obtain ⟨others, hothers, h⟩ := bind_ok h
      obtain ⟨value, -, hfirst⟩ := bind_ok hfirst
      cases hfirst
      cases h
      intro b hb
      rcases List.mem_cons.mp hb with rfl | hb
      · rw [String.toList_ofList]
        exact hnames a (List.mem_cons_self ..)
      · exact ih hothers (fun a ha => hnames a (List.mem_cons_of_mem _ ha)) b hb

/-! ### Reading a tag that was written -/

/-- How a start tag ends, before the text that follows it. -/
def closing (selfClosing : Bool) (rest : List Char) : List Char :=
  if selfClosing then '/' :: '>' :: rest else '>' :: rest

/-- Attributes as they are written. -/
def writeAttributes (attributes : List (String × List Char)) : List Char :=
  attributes.flatMap fun a => writeAttribute a.1 a.2

theorem writeAttributes_cons (a : String × List Char) (attributes : List (String × List Char)) :
    writeAttributes (a :: attributes) = writeAttribute a.1 a.2 ++ writeAttributes attributes :=
  rfl

theorem skipGaps_space (last : Char) (cs : List Char) :
    skipGaps last (' ' :: cs) = skipGaps ' ' cs := by
  rw [skipGaps]
  · rfl
  · simp

theorem skipGaps_attribute (last : Char) (h : startsAttribute c = true) (cs : List Char) :
    skipGaps last (c :: cs) = (last, c :: cs) := by
  simp only [startsAttribute, Bool.not_eq_true', Bool.or_eq_false_iff, beq_eq_false_iff_ne] at h
  rw [skipGaps]
  · simp [h]
  · simp [h]

theorem skipGaps_closing (last : Char) (selfClosing : Bool) (rest : List Char) :
    skipGaps last (closing selfClosing rest) = (last, closing selfClosing rest) := by
  cases selfClosing <;> rfl

theorem readAttributes_closing (fuel : Nat) (last : Char) (selfClosing : Bool)
    (rest : List Char) :
    readAttributes (fuel + 1) last (closing selfClosing rest) =
      ([], .closed selfClosing rest) := by
  cases selfClosing <;> rfl

theorem readValue?_quoted (hq : q = '"' ∨ q = '\'') (hbody : q ∉ body) (rest : List Char) :
    readValue? ('=' :: q :: (body ++ q :: rest)) = some ⟨body, q, rest⟩ := by
  have hequals : isBlank '=' = false := by decide
  have hblank : isBlank q = false := by rcases hq with rfl | rfl <;> decide
  have hsign : (q == '=') = false := by rcases hq with rfl | rfl <;> decide
  have hquote : (q == '"' || q == '\'') = true := by rcases hq with rfl | rfl <;> decide
  have hvalue : quotedValue? q (body ++ q :: rest) = some (body, rest) := by
    rw [quotedValue?, Text.cutAt_append hbody]
  simp [readValue?, List.span_eq_takeWhile_dropWhile, hequals, hblank, hsign, hquote, hvalue]

/-- One written attribute is read, and the reading goes on behind the gap after it. -/
theorem readAttributes_cons (hname : IsAttributeName name) (value : List Char) (fuel : Nat)
    (last : Char) (cs : List Char) :
    ∃ q body, decodeAll body = .ok value ∧
      readAttributes (fuel + 1) (skipGaps last (writeAttribute (String.ofList name) value ++ cs)).1
          (skipGaps last (writeAttribute (String.ofList name) value ++ cs)).2 =
        ((name, some body) :: (readAttributes fuel (skipGaps q cs).1 (skipGaps q cs).2).1,
          (readAttributes fuel (skipGaps q cs).1 (skipGaps q cs).2).2) := by
  obtain ⟨c, tail, rfl, hstart, htail⟩ := hname.shape
  obtain ⟨q, body, hq, hbody, hwritten, hdecode⟩ := quoteValue_spec value
  refine ⟨q, body, hdecode, ?_⟩
  have htext : writeAttribute (String.ofList (c :: tail)) value ++ cs =
      ' ' :: c :: (tail ++ '=' :: q :: (body ++ q :: cs)) := by
    simp [writeAttribute, hwritten]
  have hgo : (c == '>' || c == '/' || isBlank c ||
      !(' ' == '\'' || ' ' == '"' || ' ' == '/' || isBlank ' ')) = false := by
    simp only [startsAttribute, Bool.not_eq_true', Bool.or_eq_false_iff] at hstart
    simp [hstart, show isBlank ' ' = true by decide]
  have hspan : (tail ++ '=' :: q :: (body ++ q :: cs)).span
      (fun d => !(d == '/' || d == '=' || d == '>' || isBlank d)) =
        (tail, '=' :: q :: (body ++ q :: cs)) :=
    span_run htail (by simp)
  rw [htext, skipGaps_space, skipGaps_attribute _ hstart, readAttributes, hgo]
  simp only [Bool.false_eq_true, if_false, hspan, readValue?_quoted hq hbody]

/-- Attributes that were written are read back, names and values. -/
theorem readAttributes_written {attributes : List (String × List Char)}
    (hnames : ∀ a ∈ attributes, IsAttributeName a.1.toList) (hfuel : attributes.length < fuel)
    (last : Char) (selfClosing : Bool) (rest : List Char) :
    ∃ written, attributesOf written = .ok (attributes.map fun a => (a.1, String.ofList a.2)) ∧
      readAttributes fuel
          (skipGaps last (writeAttributes attributes ++ closing selfClosing rest)).1
          (skipGaps last (writeAttributes attributes ++ closing selfClosing rest)).2 =
        (written, .closed selfClosing rest) := by
  induction attributes generalizing fuel last with
  | nil =>
      obtain ⟨fuel, rfl⟩ := Nat.exists_eq_add_one.mpr hfuel
      refine ⟨[], rfl, ?_⟩
      rw [writeAttributes, List.flatMap_nil, List.nil_append, skipGaps_closing,
        readAttributes_closing]
  | cons a attributes ih =>
      obtain ⟨fuel, rfl⟩ := Nat.exists_eq_add_one.mpr (Nat.zero_lt_of_lt hfuel)
      have hname := hnames a (List.mem_cons_self ..)
      obtain ⟨q, body, hdecode, hread⟩ := readAttributes_cons hname a.2 fuel last
        (writeAttributes attributes ++ closing selfClosing rest)
      obtain ⟨written, hvalues, hrest⟩ := ih (fun b hb => hnames b (List.mem_cons_of_mem _ hb))
        (Nat.lt_of_succ_lt_succ hfuel) q
      refine ⟨(a.1.toList, some body) :: written, ?_, ?_⟩
      · rw [attributesOf] at hvalues
        simp only [attributesOf, List.mapM_cons, Option.getD_some, hdecode, hvalues, hname.low,
          String.ofList_toList]
        rfl
      · rw [String.ofList_toList] at hread
        rw [writeAttributes_cons, List.append_assoc, hread, hrest]

theorem length_writeAttributes (attributes : List (String × List Char)) :
    2 * attributes.length ≤ (writeAttributes attributes).length := by
  induction attributes with
  | nil => simp
  | cons a attributes ih =>
      simp only [writeAttributes_cons, writeAttribute, List.length_append, List.length_cons]
      omega

/-- There is more text than there are attributes, also behind the first gap. -/
theorem length_skipGaps_written {attributes : List (String × List Char)}
    (hnames : ∀ a ∈ attributes, IsAttributeName a.1.toList) (last : Char) (cs : List Char) :
    attributes.length ≤ (skipGaps last (writeAttributes attributes ++ cs)).2.length := by
  cases attributes with
  | nil => exact Nat.zero_le _
  | cons a attributes =>
      obtain ⟨c, tail, hname, hstart, -⟩ := (hnames a (List.mem_cons_self ..)).shape
      have hlength := length_writeAttributes (a :: attributes)
      simp only [writeAttributes_cons, writeAttribute, hname, List.cons_append, skipGaps_space,
        skipGaps_attribute _ hstart, List.length_cons, List.length_append] at hlength ⊢
      omega

/-- **A start tag that was written is read back.** -/
theorem readStartTag_written {attributes : List (String × List Char)} (hname : IsTagName name)
    (hnames : ∀ a ∈ attributes, IsAttributeName a.1.toList) (selfClosing : Bool)
    (rest : List Char) :
    ∃ written, attributesOf written = .ok (attributes.map fun a => (a.1, String.ofList a.2)) ∧
      readStartTag (name ++ (writeAttributes attributes ++ closing selfClosing rest)) =
        (name, written, .closed selfClosing rest) := by
  generalize htext : writeAttributes attributes ++ closing selfClosing rest = text
  have hhead : ∀ d ∈ text.head?, isTagNameChar d = false := by
    subst htext
    cases attributes with
    | nil => cases selfClosing <;> simp [writeAttributes, closing] <;> decide
    | cons a attributes =>
        simp [writeAttributes, writeAttribute]
        decide
  obtain ⟨last, hlast⟩ : ∃ last, name.getLast?.getD '<' = last := ⟨_, rfl⟩
  have hfuel : attributes.length < (skipGaps last text).2.length + 1 := by
    rw [← htext]
    exact Nat.lt_succ_of_le (length_skipGaps_written hnames last _)
  obtain ⟨written, hvalues, hread⟩ := readAttributes_written hnames hfuel last selfClosing rest
  rw [htext] at hread
  refine ⟨written, hvalues, ?_⟩
  simp only [readStartTag, span_run hname.allowed hhead, hlast, hread]

end VacancyLedger.Markup
