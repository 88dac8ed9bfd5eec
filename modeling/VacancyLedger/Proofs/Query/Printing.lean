/-
Tokens printed again, and what they hold.

A printed token is one of the texts it can be read from: its word as it stands, or its phrase
between quotes, which collapsing no longer changes.  So printed tokens with single spaces
between them make up a text that is read as these tokens, wherever they touched each other
in the first place.  What a token holds follows from its spelling too: a word or phrase is
never empty, and folding leaves no character without a trace, so no term is found in a text
that has nothing in it.
-/
import VacancyLedger.Proofs.Query.Flat
import VacancyLedger.Proofs.Query.Spelling

namespace VacancyLedger

/-! ### Folding -/

namespace Text

theorem foldExpansions_filled : foldExpansions.all (fun entry => !entry.2.isEmpty) = true := by
  decide +kernel

theorem foldChar_ne_nil (c : Char) : foldChar c ≠ [] := by
  unfold foldChar
  split
  · exact List.cons_ne_nil _ _
  · split
    · rename_i ns hns
      obtain ⟨before, after, hentry, -⟩ := List.lookup_eq_some_iff.mp hns
      have hmem : (c.toNat, ns) ∈ foldExpansions := by simp [hentry]
      have hfilled := List.all_eq_true.mp foldExpansions_filled _ hmem
      simpa using hfilled
    · exact List.cons_ne_nil _ _

theorem foldChars_eq_nil_iff {cs : List Char} : foldChars cs = [] ↔ cs = [] := by
  cases cs with
  | nil => simp [foldChars]
  | cons c cs => simp [foldChars, foldChar_ne_nil]

theorem fold_ne_empty {s : String} (h : s ≠ "") : fold s ≠ "" := by
  rw [Ne, ← String.toList_inj, fold, String.toList_ofList]
  intro hfold
  exact h (String.toList_inj.mp (foldChars_eq_nil_iff.mp hfold))

theorem mem_words {cs word : List Char} {c : Char} (hword : word ∈ words cs) (hc : c ∈ word) :
    c ∈ cs := by
  fun_induction words cs with
  | case1 => cases hword
  | case2 d cs _ ih => exact List.mem_cons_of_mem d (ih hword)
  | case3 d cs _ ih =>
      rcases List.mem_cons.mp hword with rfl | hword
      · rcases List.mem_cons.mp hc with rfl | hc
        · exact List.mem_cons_self
        · exact List.mem_cons_of_mem d ((List.takeWhile_sublist _).mem hc)
      · exact List.mem_cons_of_mem d ((List.dropWhile_sublist _).mem (ih hword))

/-- Collapsing adds nothing but spaces. -/
theorem mem_collapseChars {cs : List Char} {c : Char} (h : c ∈ collapseChars cs) :
    c ∈ cs ∨ c = ' ' := by
  rcases mem_intercalate h with hspace | ⟨word, hword, hc⟩
  · exact .inr (by simpa using hspace)
  · exact .inl (mem_words hword hc)

end Text

namespace Query

open Text (isBlank)

/-! ### What a token holds -/

/-- The text of a term is what can stand in a word, or what collapsing leaves of a phrase, and there
is something in it. -/
def Term.IsProper (t : Term) : Prop :=
  t.text ≠ "" ∧
    if t.phrase then '"' ∉ t.text.toList ∧ Text.collapse t.text = t.text
    else ∀ c ∈ t.text.toList, isBlank c = false ∧ c ≠ '(' ∧ c ≠ ')' ∧ c ≠ '"'

/-- The word or term of a token is proper. -/
def Kind.IsProper : Kind → Prop
  | .opening | .closing => True
  | .or word => Term.IsProper ⟨word, false⟩
  | .term t _ => t.IsProper

theorem isProper_word {word : List Char} (hne : word ≠ [])
    (hword : ∀ c ∈ word, isWordChar c = true) : Term.IsProper ⟨String.ofList word, false⟩ := by
  refine ⟨by simpa [← String.toList_inj] using hne, ?_⟩
  simpa using fun c hc => isWordChar_iff.mp (hword c hc)

theorem isProper_phrase {inner : List Char} (hinner : '"' ∉ inner)
    (hfull : ∃ c ∈ inner, isBlank c = false) :
    Term.IsProper ⟨String.ofList (Text.collapseChars inner), true⟩ := by
  refine ⟨?_, ?_⟩
  · have hne : Text.collapseChars inner ≠ [] := by
      rw [Ne, Text.collapseChars_eq_nil_iff]
      obtain ⟨c, hc, hblank⟩ := hfull
      intro hall
      rw [hall c hc] at hblank
      cases hblank
    simpa [← String.toList_inj] using hne
  · have hquote : '"' ∉ Text.collapseChars inner := by
      intro hmem
      rcases Text.mem_collapseChars hmem with hmem | hspace
      · exact hinner hmem
      · revert hspace
        decide
    simpa [Text.collapse, Text.collapseChars_collapseChars] using hquote

/-- What a token is read from makes its word or term proper. -/
theorem Spells.isProper {kind : Kind} {source : List Char} (h : Spells kind source) :
    kind.IsProper := by
  cases h with
  | opening | closing => trivial
  | word hne hword _ =>
      unfold wordKind
      split <;> exact isProper_word hne hword
  | phrase hinner hfull => exact isProper_phrase hinner hfull

theorem searchable_nothing : searchable "" "" = "" := by
  have hcollapsed : Text.collapseChars [' '] = [] :=
    Text.collapseChars_eq_nil_iff.mpr (List.forall_mem_singleton.mpr rfl)
  simp [searchable, Text.collapse, hcollapsed, Text.fold, Text.foldChars]

/-- What a proper term looks for is not empty, so a posting with nothing in it does not have it. -/
theorem Term.IsProper.needle_ne {t : Term} (h : t.IsProper) :
    t.needle ≠ "" ∧ t.foundIn (searchable "" "") = false := by
  have hcollapsed : Text.collapse t.text ≠ "" := by
    obtain ⟨hne, hchars⟩ := h
    split at hchars
    · rwa [hchars.2]
    · rw [Ne, ← String.toList_inj, Text.collapse, String.toList_ofList, String.toList_empty,
        Text.collapseChars_eq_nil_iff]
      intro hblank
      refine hne (String.toList_inj.mp (List.eq_nil_iff_forall_not_mem.mpr fun c hc => ?_))
      have hfree := (hchars c hc).1
      rw [hblank c hc] at hfree
      cases hfree
  have hneedle : t.needle ≠ "" := Text.fold_ne_empty hcollapsed
  refine ⟨hneedle, ?_⟩
  rw [← Bool.not_eq_true, searchable_nothing, Term.foundIn, Text.occursIn_iff]
  intro hin
  exact hneedle (String.toList_inj.mp (by simpa using hin))

/-! ### Printed tokens -/

/-- A token in print: its word as it was written, its phrase between quotes, and a hyphen before
either if it excludes. -/
def Kind.written : Kind → List Char
  | .opening => ['(']
  | .closing => [')']
  | .or word => word.toList
  | .term ⟨text, false⟩ negated => sign negated ++ text.toList
  | .term ⟨text, true⟩ negated => sign negated ++ '"' :: (text.toList ++ ['"'])

/-- Tokens in print, with single spaces between them. -/
def printed (kinds : List Kind) : String :=
  String.ofList (List.intercalate [' '] (kinds.map Kind.written))

theorem written_wordKind (negated : Bool) (word : List Char) :
    (wordKind negated word).written = sign negated ++ word := by
  unfold wordKind
  split
  · rename_i hor
    have hplain : negated = false := by
      rw [Bool.and_eq_true] at hor
      simpa using hor.1
    rw [hplain]
    simp [Kind.written, sign]
  · simp [Kind.written]

/-- A printed token can be read from its print. -/
theorem Spells.written {kind : Kind} {source : List Char} (h : Spells kind source) :
    Spells kind kind.written := by
  cases h with
  | opening => exact .opening
  | closing => exact .closing
  | word hne hword halone =>
      rw [written_wordKind]
      exact .word hne hword halone
  | @phrase negated inner hinner hfull =>
      have hproper := isProper_phrase hinner hfull
      have hquote : '"' ∉ Text.collapseChars inner := by simpa using hproper.2.1
      have hsome : ∃ c ∈ Text.collapseChars inner, isBlank c = false := by
        by_contra hnone
        have hblank : ∀ c ∈ Text.collapseChars inner, isBlank c = true := by simpa using hnone
        rw [← Text.collapseChars_eq_nil_iff, Text.collapseChars_collapseChars] at hblank
        exact hproper.1 (by rw [hblank])
      have hagain := @Spells.phrase negated _ hquote hsome
      rw [Text.collapseChars_collapseChars] at hagain
      simpa [Kind.written] using hagain

/-- Printed tokens make up their print. -/
theorem tiles_printed {kinds : List Kind} (h : ∀ kind ∈ kinds, Spells kind kind.written) :
    ∀ position : Nat, ∃ spans,
      Tiles position spans (List.intercalate [' '] (kinds.map Kind.written)) ∧
        spans.map (·.token.kind) = kinds := by
  induction kinds with
  | nil => exact fun position => ⟨[], .nil, rfl⟩
  | cons kind rest ih =>
      intro position
      obtain ⟨hkind, hrest⟩ := List.forall_mem_cons.mp h
      cases rest with
      | nil =>
          have hlast : Tiles position [⟨⟨kind, position⟩, kind.written⟩] (kind.written ++ []) :=
            .token hkind nofun .nil
          exact ⟨_, by simpa using hlast, rfl⟩
      | cons next rest =>
          obtain ⟨spans, htiles, hkinds⟩ := ih hrest (position + kind.written.length + 1)
          -- The space ends the token before it, also if that is a word.
          have hspace : kind.EndsBefore
              (' ' :: List.intercalate [' '] ((next :: rest).map Kind.written)) := by
            intro _ c hc
            cases hc
            decide
          have hblank : isBlank ' ' = true := by decide
          refine ⟨⟨⟨kind, position⟩, kind.written⟩ :: spans, ?_, by simp [hkinds]⟩
          rw [List.map_cons, List.map_cons, List.intercalate_cons_cons, List.append_assoc]
          exact .token hkind hspace (.blank hblank htiles)

/-- What the tokens of a query are made of is printed and read again. -/
theorem tokenize_printed {query : String} {tokens : List Token}
    (h : tokenize query = .ok tokens) :
    ∃ again, tokenize (printed (tokens.map Token.kind)) = .ok again ∧
      again.map Token.kind = tokens.map Token.kind := by
  obtain ⟨spans, htiles, rfl⟩ := tokenize_ok_iff.mp h
  have hspells : ∀ kind ∈ (spans.map Span.token).map Token.kind, Spells kind kind.written := by
    intro kind hkind
    rw [List.map_map, List.mem_map] at hkind
    obtain ⟨s, hs, rfl⟩ := hkind
    exact (htiles.standsIn [] rfl s hs).spells.written
  obtain ⟨again, hagain, hkinds⟩ := tiles_printed hspells 0
  refine ⟨again.map Span.token, tokenize_ok_iff.mpr ⟨again, ?_, rfl⟩, ?_⟩
  · rwa [printed, String.toList_ofList]
  · rw [List.map_map]
    exact hkinds

theorem isProper_of_tokenize {query : String} {tokens : List Token}
    (h : tokenize query = .ok tokens) : ∀ token ∈ tokens, token.kind.IsProper := by
  obtain ⟨spans, htiles, rfl⟩ := tokenize_ok_iff.mp h
  intro token htoken
  obtain ⟨s, hs, rfl⟩ := List.mem_map.mp htoken
  exact (htiles.standsIn [] rfl s hs).spells.isProper

/-- The terms of a query that was read are those of its tokens. -/
theorem isProper_of_parse {query : String} {q : Query} (h : parse query = .ok q) :
    ∀ t ∈ q.leaves ++ q.excluded, t.IsProper := by
  obtain ⟨tokens, htokens, hq⟩ := parse_ok h
  obtain ⟨hleaves, hexcluded, -⟩ := ofTokens_ok hq
  have hproper := isProper_of_tokenize htokens
  intro t ht
  rw [hleaves, hexcluded, List.mem_append, List.mem_filterMap, List.mem_filterMap] at ht
  rcases ht with ⟨⟨kind, position⟩, htoken, hterm⟩ | ⟨⟨kind, position⟩, htoken, hterm⟩
  · have hkind := hproper _ htoken
    unfold Token.wanted? at hterm
    split at hterm
    · cases hterm
      simp_all [Kind.IsProper]
    · cases hterm
  · have hkind := hproper _ htoken
    unfold Token.unwanted? at hterm
    split at hterm
    · cases hterm
      simp_all [Kind.IsProper]
    · cases hterm

/-- **Nothing of a query is lost when it is read as tokens.**  The tokens stand in the text one
after the other, each in a piece of its own, and what is in no piece is blank.  In print, with
single spaces between them, they are read again as what they were.  Words and phrases are never
empty; a word has no blank, parenthesis or quote in it, and a phrase no quote and no blanks but
single spaces between its words.  So no term that a query asks for or excludes is looked for as
the empty text, which every posting has in it: a posting with nothing in it has none of them. -/
theorem tokenize_lossless {query : String} {tokens : List Token}
    (h : tokenize query = .ok tokens) :
    tokens.Pairwise (·.position < ·.position) ∧
    (∃ spans : List Span, spans.map Span.token = tokens ∧
      (∀ s ∈ spans, s.StandsIn query.toList) ∧
      spans.Pairwise (fun s t => s.stop ≤ t.token.position) ∧
      ∀ (i : Nat) (hi : i < query.toList.length),
        (∀ s ∈ spans, ¬(s.token.position ≤ i ∧ i < s.stop)) → isBlank query.toList[i] = true) ∧
    (∃ again, tokenize (printed (tokens.map Token.kind)) = .ok again ∧
      again.map Token.kind = tokens.map Token.kind) ∧
    (∀ token ∈ tokens, token.kind.IsProper) ∧
    ∀ q, parse query = .ok q → ∀ t ∈ q.leaves ++ q.excluded,
      t.needle ≠ "" ∧ t.foundIn (searchable "" "") = false := by
  refine ⟨?_, ?_, tokenize_printed h, isProper_of_tokenize h,
    fun q hq t ht => (isProper_of_parse hq t ht).needle_ne⟩
  · obtain ⟨spans, htiles, rfl⟩ := tokenize_ok_iff.mp h
    rw [List.pairwise_map]
    refine htiles.pairwise.imp_of_mem fun {s t} hs _ hst => ?_
    have hlength := (htiles.standsIn [] rfl s hs).spells.length_pos
    have hstop : s.token.position + s.source.length ≤ t.token.position := hst
    omega
  · obtain ⟨spans, htiles, rfl⟩ := tokenize_ok_iff.mp h
    refine ⟨spans, rfl, htiles.standsIn [] rfl, htiles.pairwise, fun i hi hfree => ?_⟩
    refine htiles.blank_of_uncovered i hi ?_
    rwa [Nat.zero_add]

/-- Parentheses, quotes and a hyphen that touch: a word ends at the quote after it, and a second
hyphen belongs to the word. -/
theorem lossless_touching_tokens :
    let query := "(--a\"b\u2003 c\"OR)-\" d\""
    let tokens : List Token := [⟨.opening, 0⟩, ⟨.term ⟨"-a", false⟩ true, 1⟩,
      ⟨.term ⟨"b c", true⟩ false, 4⟩, ⟨.or "OR", 10⟩, ⟨.closing, 12⟩, ⟨.term ⟨"d", true⟩ true, 13⟩]
    tokenize query = .ok tokens ∧ tokens.Pairwise (·.position < ·.position) ∧
      printed (tokens.map Token.kind) = "( --a \"b c\" OR ) -\"d\"" := by
  intro query tokens
  have h : tokenize query = .ok tokens := by decide +kernel
  exact ⟨h, (tokenize_lossless h).1, by decide +kernel⟩

end Query
end VacancyLedger
