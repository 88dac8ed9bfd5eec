/-
Where the tokens of a query stand in its text.

A token is read from a piece of the text that it takes whole: a parenthesis, a word as far as
it goes, or a phrase with its quotes, and the hyphen before it if it excludes (`Spells`).
Reading a token is finding such a piece at the front of the text, so a text is read as tokens
exactly if those pieces, with nothing but blanks between them, make it up (`Tiles`).  Every
law about positions is then an induction on the pieces, without fuel and without faults.
-/
import VacancyLedger.Proofs.Query.Scanning

namespace VacancyLedger.Query

open Text (isBlank)

/-- What stands before a term: a hyphen if it excludes. -/
def sign (negated : Bool) : List Char := if negated then ['-'] else []

/-- The texts a token can be read from. -/
inductive Spells : Kind → List Char → Prop
  | opening : Spells .opening ['(']
  | closing : Spells .closing [')']
  | word {negated : Bool} {word : List Char} (hne : word ≠ [])
      (hword : ∀ c ∈ word, isWordChar c = true) (halone : negated = false → word.head? ≠ some '-') :
      Spells (wordKind negated word) (sign negated ++ word)
  | phrase {negated : Bool} {inner : List Char} (hinner : '"' ∉ inner)
      (hfull : ∃ c ∈ inner, isBlank c = false) :
      Spells (.term ⟨String.ofList (Text.collapseChars inner), true⟩ negated)
        (sign negated ++ '"' :: (inner ++ ['"']))

/-- Whether the token goes on as long as word characters follow: it is a word and not a
parenthesis or a phrase. -/
def Kind.isRun : Kind → Bool
  | .opening | .closing => false
  | .or _ => true
  | .term t _ => !t.phrase

/-- The token ends before the rest of the text. -/
def Kind.EndsBefore (kind : Kind) (rest : List Char) : Prop :=
  kind.isRun = true → ∀ c ∈ rest.head?, isWordChar c = false

theorem isRun_wordKind (negated : Bool) (word : List Char) :
    (wordKind negated word).isRun = true := by
  unfold wordKind
  split <;> rfl

theorem Spells.ne_nil {kind : Kind} {source : List Char} (h : Spells kind source) :
    source ≠ [] := by
  cases h with
  | opening | closing => exact List.cons_ne_nil _ _
  | word hne _ _ => simp [hne]
  | phrase _ _ => simp

theorem Spells.length_pos {kind : Kind} {source : List Char} (h : Spells kind source) :
    0 < source.length :=
  List.length_pos_iff.mpr h.ne_nil

theorem Spells.parenthesis {kind : Kind} {source : List Char} (h : Spells kind source) :
    (kind = .opening → source = ['(']) ∧ (kind = .closing → source = [')']) := by
  cases h with
  | opening => exact ⟨fun _ => rfl, nofun⟩
  | closing => exact ⟨nofun, fun _ => rfl⟩
  | phrase _ _ => exact ⟨nofun, nofun⟩
  | @word negated word _ _ _ =>
      have hrun := isRun_wordKind negated word
      constructor <;> intro hkind <;> rw [hkind] at hrun <;> cases hrun

/-- An unquoted "or" is an "or" in any case. -/
theorem Spells.or {word : String} {source : List Char} (h : Spells (.or word) source) :
    Text.foldChars source = ['o', 'r'] := by
  generalize hkind : Kind.or word = kind at h
  cases h with
  | opening | closing | phrase _ _ => cases hkind
  | word _ _ _ =>
      unfold wordKind at hkind
      split at hkind
      · rename_i hor
        simp only [Bool.and_eq_true, Bool.not_eq_true', beq_iff_eq] at hor
        simpa [sign, hor.1] using hor.2
      · cases hkind

/-! ### One token -/

section

variable {position : Nat} {c : Char} {cs : List Char} {l : Lexeme}

/-- A term is read from what stands after its sign. -/
theorem spells_of_readTerm {negated : Bool} (hc : isWordChar c = true ∨ c = '"')
    (halone : negated = false → c ≠ '-') (h : readTerm negated position (c :: cs) = .ok l) :
    ∃ source, Spells l.kind (sign negated ++ source) ∧ l.kind.EndsBefore l.rest ∧
      c :: cs = source ++ l.rest ∧ l.size = source.length := by
  by_cases hquote : c = '"'
  · subst hquote
    rcases phrase_cases cs with hinner | ⟨inner, rest, rfl, hinner, hblank | hfull⟩
    · rw [readTerm_openPhrase hinner] at h
      cases h
    · rw [readTerm_blankPhrase hinner hblank] at h
      cases h
    · rw [readTerm_phrase hinner hfull] at h
      cases h
      exact ⟨'"' :: (inner ++ ['"']), .phrase hinner hfull, nofun, by simp, by simp⟩
  · have hword := hc.resolve_right hquote
    rw [readTerm_word hquote] at h
    cases h
    refine ⟨(c :: cs).takeWhile isWordChar, .word ?_ ?_ ?_, ?_, ?_, rfl⟩
    · simp [hword]
    · exact fun d hd => List.mem_takeWhile_imp hd
    · simpa [hword] using halone
    · exact fun _ => Text.head?_dropWhile isWordChar (c :: cs)
    · exact (List.takeWhile_append_dropWhile).symm

/-- A token is read from a piece at the front of the text. -/
theorem spells_of_readToken (hblank : isBlank c = false)
    (h : readToken position c cs = .ok l) :
    ∃ source, Spells l.kind source ∧ l.kind.EndsBefore l.rest ∧ c :: cs = source ++ l.rest ∧
      l.size = source.length := by
  by_cases hopening : c = '('
  · subst hopening
    cases h
    exact ⟨['('], .opening, nofun, rfl, rfl⟩
  by_cases hclosing : c = ')'
  · subst hclosing
    cases h
    exact ⟨[')'], .closing, nofun, rfl, rfl⟩
  by_cases hhyphen : c = '-'
  · subst hhyphen
    cases cs with
    | nil => cases h
    | cons d ds =>
        rw [readToken_hyphen] at h
        split at h
        · cases h
        · rename_i hd
          obtain ⟨term, hterm, rfl⟩ := map_ok h
          obtain ⟨source, hspells, hends, hwhole, hsize⟩ :=
            spells_of_readTerm (isWordChar_or_quote hd) (fun h => by cases h) hterm
          refine ⟨'-' :: source, hspells, hends, by rw [hwhole]; rfl, ?_⟩
          rw [hsize, List.length_cons]
  · rw [readToken_term hopening hclosing hhyphen] at h
    have hc : isWordChar c = true ∨ c = '"' := isWordChar_or_quote (by simp [*])
    exact spells_of_readTerm hc (fun _ => hhyphen) h

/-- The piece a token can be read from is read as that token. -/
theorem readToken_of_spells (position : Nat) {kind : Kind} {source rest : List Char}
    (h : Spells kind source) (hends : kind.EndsBefore rest) (hwhole : c :: cs = source ++ rest) :
    isBlank c = false ∧ readToken position c cs = .ok ⟨kind, source.length, rest⟩ := by
  cases h with
  | opening =>
      cases hwhole
      exact ⟨by decide, rfl⟩
  | closing =>
      cases hwhole
      exact ⟨by decide, rfl⟩
  | @word negated word hne hword halone =>
      obtain ⟨w, ws, rfl⟩ := List.exists_cons_of_ne_nil hne
      have hrest := hends (isRun_wordKind negated (w :: ws))
      obtain ⟨hblank, hopening, hclosing, -⟩ := isWordChar_iff.mp (hword w List.mem_cons_self)
      cases negated with
      | false =>
          cases hwhole
          have hhyphen : c ≠ '-' := fun h => halone rfl (by rw [h]; rfl)
          refine ⟨hblank, ?_⟩
          rw [readToken_term hopening hclosing hhyphen]
          exact readTerm_run false position hword hrest
      | true =>
          cases hwhole
          refine ⟨by decide, ?_⟩
          have hterm := readTerm_run true (position + 1) hword hrest
          rw [List.cons_append] at hterm
          simp only [List.nil_append, List.append_eq, List.cons_append]
          rw [readToken_hyphen, if_neg (by simp [*]), hterm]
          rfl
  | @phrase negated inner hinner hfull =>
      cases negated with
      | false =>
          cases hwhole
          refine ⟨by decide, ?_⟩
          have hterm : readTerm false position ('"' :: (inner ++ '"' :: rest)) = _ :=
            readTerm_phrase hinner hfull
          simpa [readToken, sign] using hterm
      | true =>
          cases hwhole
          refine ⟨by decide, ?_⟩
          have hterm : readTerm true (position + 1) ('"' :: (inner ++ '"' :: rest)) = _ :=
            readTerm_phrase hinner hfull
          simp [readToken_hyphen, hterm, sign, isBlank, Except.map]

end

/-! ### All tokens -/

/-- A token and the piece of the text it is read from. -/
structure Span where
  token : Token
  source : List Char

/-- The position after the piece. -/
def Span.stop (s : Span) : Nat := s.token.position + s.source.length

/-- The pieces make up the text, which starts at `position`, but for blanks. -/
inductive Tiles : Nat → List Span → List Char → Prop
  | nil {position : Nat} : Tiles position [] []
  | blank {position : Nat} {spans : List Span} {c : Char} {rest : List Char}
      (hblank : isBlank c = true) (h : Tiles (position + 1) spans rest) :
      Tiles position spans (c :: rest)
  | token {position : Nat} {spans : List Span} {kind : Kind} {source rest : List Char}
      (hspells : Spells kind source) (hends : kind.EndsBefore rest)
      (h : Tiles (position + source.length) spans rest) :
      Tiles position (⟨⟨kind, position⟩, source⟩ :: spans) (source ++ rest)

theorem tiles_of_tokensFrom {fuel : Nat} :
    ∀ {position : Nat} {cs : List Char} {tokens : List Token}, cs.length ≤ fuel →
      tokensFrom fuel position cs = .ok tokens →
      ∃ spans, Tiles position spans cs ∧ spans.map Span.token = tokens := by
  induction fuel with
  | zero =>
      intro position cs tokens hfuel h
      obtain rfl : cs = [] := List.eq_nil_of_length_eq_zero (Nat.le_zero.mp hfuel)
      cases h
      exact ⟨[], .nil, rfl⟩
  | succ fuel ih =>
      intro position cs tokens hfuel h
      cases cs with
      | nil =>
          cases h
          exact ⟨[], .nil, rfl⟩
      | cons c cs =>
          rw [List.length_cons] at hfuel
          rw [tokensFrom] at h
          split at h
          · rename_i hblank
            obtain ⟨spans, htiles, htokens⟩ := ih (by omega) h
            exact ⟨spans, .blank hblank htiles, htokens⟩
          · rename_i hblank
            rw [Bool.not_eq_true] at hblank
            obtain ⟨l, hl, hafter⟩ := bind_ok h
            obtain ⟨more, hmore, htokens⟩ := bind_ok hafter
            cases htokens
            obtain ⟨source, hspells, hends, hwhole, hsize⟩ := spells_of_readToken hblank hl
            have hlength := (readToken_ok hblank hl).2
            obtain ⟨spans, htiles, rfl⟩ := ih (by omega) hmore
            rw [hsize] at htiles
            exact ⟨⟨⟨l.kind, position⟩, source⟩ :: spans, hwhole ▸ .token hspells hends htiles, rfl⟩

theorem Tiles.tokensFrom {position : Nat} {spans : List Span} {cs : List Char}
    (h : Tiles position spans cs) :
    ∀ {fuel : Nat}, cs.length ≤ fuel →
      tokensFrom fuel position cs = .ok (spans.map Span.token) := by
  induction h with
  | nil =>
      intro fuel _
      cases fuel <;> rfl
  | blank hblank _ ih =>
      intro fuel hfuel
      cases fuel with
      | zero => cases hfuel
      | succ fuel =>
          rw [Query.tokensFrom, if_pos hblank]
          exact ih (Nat.le_of_succ_le_succ hfuel)
  | @token position spans kind source rest hspells hends _ ih =>
      intro fuel hfuel
      obtain ⟨c, cs, hwhole⟩ := List.exists_cons_of_ne_nil
        (List.append_ne_nil_of_left_ne_nil hspells.ne_nil rest)
      obtain ⟨hblank, htoken⟩ := readToken_of_spells position hspells hends hwhole.symm
      have hlength := hspells.length_pos
      rw [List.length_append] at hfuel
      cases fuel with
      | zero => omega
      | succ fuel =>
          rw [hwhole, Query.tokensFrom, if_neg (by simp [hblank]), htoken]
          simp only [bind, Except.bind, ih (show rest.length ≤ fuel by omega)]
          rfl

/-- A query is read as tokens exactly if their pieces make it up. -/
theorem tokenize_ok_iff {query : String} {tokens : List Token} :
    tokenize query = .ok tokens ↔
      ∃ spans, Tiles 0 spans query.toList ∧ spans.map Span.token = tokens := by
  constructor
  · exact tiles_of_tokensFrom String.length_toList.le
  · rintro ⟨spans, htiles, rfl⟩
    exact htiles.tokensFrom String.length_toList.le

/-! ### Positions -/

/-- The token is read from this piece of the text. -/
structure Span.StandsIn (s : Span) (text : List Char) : Prop where
  spells : Spells s.token.kind s.source
  here : s.source <+: text.drop s.token.position

namespace Tiles

variable {position : Nat} {spans : List Span} {cs : List Char}

theorem position_le (h : Tiles position spans cs) : ∀ s ∈ spans, position ≤ s.token.position := by
  induction h with
  | nil => nofun
  | blank _ _ ih => exact fun s hs => Nat.le_of_succ_le (ih s hs)
  | token _ _ _ ih =>
      refine List.forall_mem_cons.mpr ⟨Nat.le_refl _, fun s hs => ?_⟩
      exact Nat.le_trans (Nat.le_add_right _ _) (ih s hs)

/-- A piece ends before the next one starts. -/
theorem pairwise (h : Tiles position spans cs) :
    spans.Pairwise fun s t => s.stop ≤ t.token.position := by
  induction h with
  | nil => exact .nil
  | blank _ _ ih => exact ih
  | token _ _ h ih => exact .cons h.position_le ih

/-- What stands before the text changes only where its pieces are found. -/
theorem standsIn (h : Tiles position spans cs) :
    ∀ before : List Char, before.length = position → ∀ s ∈ spans, s.StandsIn (before ++ cs) := by
  induction h with
  | nil => nofun
  | @blank position spans c rest _ _ ih =>
      intro before hbefore s hs
      have hs := ih (before ++ [c]) (by simp [hbefore]) s hs
      rwa [List.append_assoc] at hs
  | @token position spans kind source rest hspells _ _ ih =>
      intro before hbefore
      refine List.forall_mem_cons.mpr ⟨⟨hspells, ?_⟩, fun s hs => ?_⟩
      · rw [List.drop_left' hbefore]
        exact List.prefix_append source rest
      · have hs := ih (before ++ source) (by simp [hbefore]) s hs
        rwa [List.append_assoc] at hs

/-- A character in no piece is blank. -/
theorem blank_of_uncovered (h : Tiles position spans cs) :
    ∀ (i : Nat) (hi : i < cs.length),
      (∀ s ∈ spans, ¬(s.token.position ≤ position + i ∧ position + i < s.stop)) →
        isBlank cs[i] = true := by
  induction h with
  | nil => nofun
  | @blank position spans c rest hblank h ih =>
      intro i hi hfree
      cases i with
      | zero => exact hblank
      | succ i =>
          refine ih i (Nat.lt_of_succ_lt_succ hi) fun s hs => ?_
          have hs := hfree s hs
          rwa [Nat.add_comm i 1, ← Nat.add_assoc] at hs
  | @token position spans kind source rest hspells hends h ih =>
      intro i hi hfree
      obtain ⟨hfirst, hmore⟩ := List.forall_mem_cons.mp hfree
      have hbehind : source.length ≤ i := by
        simp only [Span.stop] at hfirst
        omega
      rw [List.getElem_append_right hbehind]
      refine ih (i - source.length) _ fun s hs => ?_
      have hs := hmore s hs
      rwa [Nat.add_assoc, Nat.add_sub_cancel' hbehind]

end Tiles

end VacancyLedger.Query
