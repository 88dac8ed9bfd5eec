/-
How a query is scanned, and where scanning fails.

Scanning passes over one blank, parenthesis, word or phrase after the other (`Passes`).  It
is stuck where a hyphen stands alone, where a quote is never closed, and where there is
nothing but blanks between two quotes (`IsStuck`).  Inside a phrase nothing is looked at,
because a phrase is passed over at once.  A query cannot be read as tokens exactly if
scanning it comes to a place where it is stuck.
-/
import Mathlib.Logic.Relation
import VacancyLedger.Proofs.Outcome
import VacancyLedger.Proofs.Text.Blank
import VacancyLedger.Proofs.Text.Scan
import VacancyLedger.Query.Token

namespace VacancyLedger.Query

open Relation (ReflTransGen)
open Text (isBlank)

/-! ### The scan -/

/-- What may stand before the quote that opens a phrase. -/
def IsSign (sign : List Char) : Prop := sign = [] ∨ sign = ['-']

/-- One blank, parenthesis, word or phrase is passed over.  A word goes as far as it can, and a
hyphen alone is none. -/
inductive Passes : List Char → List Char → Prop
  | blank {c : Char} {rest : List Char} (h : isBlank c = true) : Passes (c :: rest) rest
  | opening {rest : List Char} : Passes ('(' :: rest) rest
  | closing {rest : List Char} : Passes (')' :: rest) rest
  | word {word rest : List Char} (hne : word ≠ []) (halone : word ≠ ['-'])
      (hword : ∀ c ∈ word, isWordChar c = true) (hrest : ∀ c ∈ rest.head?, isWordChar c = false) :
      Passes (word ++ rest) rest
  | phrase {sign inner rest : List Char} (hsign : IsSign sign) (hinner : '"' ∉ inner)
      (h : ∃ c ∈ inner, isBlank c = false) : Passes (sign ++ '"' :: (inner ++ '"' :: rest)) rest

/-- Nothing can be read as a token here. -/
inductive IsStuck : List Char → Prop
  | hyphenAtEnd : IsStuck ['-']
  | hyphen {c : Char} {rest : List Char} (h : isBlank c = true ∨ c = '(' ∨ c = ')') :
      IsStuck ('-' :: c :: rest)
  | openPhrase {sign inner : List Char} (hsign : IsSign sign) (hinner : '"' ∉ inner) :
      IsStuck (sign ++ '"' :: inner)
  | blankPhrase {sign inner rest : List Char} (hsign : IsSign sign) (hinner : '"' ∉ inner)
      (h : ∀ c ∈ inner, isBlank c = true) : IsStuck (sign ++ '"' :: (inner ++ '"' :: rest))

theorem Passes.ne_nil {cs rest : List Char} (h : Passes cs rest) : cs ≠ [] := by
  cases h with
  | blank _ | opening | closing => exact List.cons_ne_nil _ _
  | word hne _ _ _ => simp [hne]
  | phrase _ _ _ => simp

theorem IsStuck.ne_nil {cs : List Char} (h : IsStuck cs) : cs ≠ [] := by
  cases h with
  | hyphenAtEnd | hyphen _ => exact List.cons_ne_nil _ _
  | openPhrase _ _ | blankPhrase _ _ _ => simp

/-! ### Terms -/

section

variable {negated : Bool} {position : Nat} {sign inner rest : List Char} {d : Char}

theorem isWordChar_iff {c : Char} :
    isWordChar c = true ↔ isBlank c = false ∧ c ≠ '(' ∧ c ≠ ')' ∧ c ≠ '"' := by
  simp [isWordChar, and_assoc]

theorem readTerm_word (hd : d ≠ '"') (ds : List Char) :
    readTerm negated position (d :: ds) =
      .ok ⟨wordKind negated ((d :: ds).takeWhile isWordChar),
        ((d :: ds).takeWhile isWordChar).length, (d :: ds).dropWhile isWordChar⟩ := by
  simp [readTerm, hd]

/-- A word that nothing more belongs to is read whole. -/
theorem readTerm_run (negated : Bool) (position : Nat) {ds : List Char}
    (hword : ∀ c ∈ d :: ds, isWordChar c = true) (hrest : ∀ c ∈ rest.head?, isWordChar c = false) :
    readTerm negated position (d :: ds ++ rest) =
      .ok ⟨wordKind negated (d :: ds), (d :: ds).length, rest⟩ := by
  have hquote : d ≠ '"' := (isWordChar_iff.mp (hword d (by simp))).2.2.2
  rw [List.cons_append, readTerm_word hquote, ← List.cons_append, Text.takeWhile_run hword hrest,
    Text.dropWhile_run hword hrest]

theorem readTerm_openPhrase (hinner : '"' ∉ inner) :
    readTerm negated position ('"' :: inner) = .error ⟨.unterminatedQuote, position⟩ := by
  simp [readTerm, Text.cutAt_of_not_mem hinner]

theorem readTerm_blankPhrase (hinner : '"' ∉ inner) (h : ∀ c ∈ inner, isBlank c = true) :
    readTerm negated position ('"' :: (inner ++ '"' :: rest)) =
      .error ⟨.emptyPhrase, position⟩ := by
  simp [readTerm, Text.cutAt_append hinner, Text.collapseChars_eq_nil_iff.mpr h]

theorem readTerm_phrase (hinner : '"' ∉ inner) (h : ∃ c ∈ inner, isBlank c = false) :
    readTerm negated position ('"' :: (inner ++ '"' :: rest)) =
      .ok ⟨.term ⟨String.ofList (Text.collapseChars inner), true⟩ negated, inner.length + 2,
        rest⟩ := by
  have hne : Text.collapseChars inner ≠ [] := by
    rw [Ne, Text.collapseChars_eq_nil_iff]
    obtain ⟨c, hc, hblank⟩ := h
    intro hall
    rw [hall c hc] at hblank
    cases hblank
  simp [readTerm, Text.cutAt_append hinner, hne]

/-- The three ways a phrase can be: never closed, blank, or with something in it. -/
theorem phrase_cases (cs : List Char) :
    '"' ∉ cs ∨ ∃ inner rest, cs = inner ++ '"' :: rest ∧ '"' ∉ inner ∧
      ((∀ c ∈ inner, isBlank c = true) ∨ ∃ c ∈ inner, isBlank c = false) := by
  by_cases hquote : '"' ∈ cs
  · obtain ⟨inner, rest, hcs, hinner⟩ := List.eq_append_cons_of_mem hquote
    refine .inr ⟨inner, rest, hcs, hinner, ?_⟩
    by_cases hblank : ∀ c ∈ inner, isBlank c = true
    · exact .inl hblank
    · exact .inr (by simpa using hblank)
  · exact .inl hquote

/-- A word that was read is passed over, with the hyphen before it. -/
theorem passes_word {ds : List Char} (hsign : IsSign sign) (hd : isWordChar d = true)
    (halone : sign = [] → d ≠ '-') :
    Passes (sign ++ d :: ds) ((d :: ds).dropWhile isWordChar) := by
  have hword : Passes ((sign ++ (d :: ds).takeWhile isWordChar) ++ (d :: ds).dropWhile isWordChar)
      ((d :: ds).dropWhile isWordChar) := by
    refine .word ?_ ?_ ?_ ?_
    · simp [hd]
    · rcases hsign with rfl | rfl
      · simp [hd, halone rfl]
      · simp [hd]
    · intro c hc
      rcases List.mem_append.mp hc with hc | hc
      · rcases hsign with rfl | rfl
        · cases hc
        · rw [List.mem_singleton.mp hc]
          decide
      · exact List.mem_takeWhile_imp hc
    · exact Text.head?_dropWhile isWordChar (d :: ds)
  rwa [List.append_assoc, List.takeWhile_append_dropWhile] at hword

/-! ### Tokens -/

theorem readTerm_error {e : Error} {ds : List Char} (sign : List Char) (hsign : IsSign sign)
    (h : readTerm negated position (d :: ds) = .error e) : IsStuck (sign ++ d :: ds) := by
  by_cases hd : d = '"'
  · subst hd
    rcases phrase_cases ds with hinner | ⟨inner, rest, rfl, hinner, hblank | hfull⟩
    · exact .openPhrase hsign hinner
    · exact .blankPhrase hsign hinner hblank
    · rw [readTerm_phrase hinner hfull] at h
      cases h
  · rw [readTerm_word hd] at h
    cases h

theorem readTerm_ok {l : Lexeme} {ds : List Char} (sign : List Char) (hsign : IsSign sign)
    (hd : isWordChar d = true ∨ d = '"') (halone : sign = [] → d ≠ '-')
    (h : readTerm negated position (d :: ds) = .ok l) :
    Passes (sign ++ d :: ds) l.rest ∧ l.rest.length ≤ ds.length := by
  by_cases hquote : d = '"'
  · subst hquote
    rcases phrase_cases ds with hinner | ⟨inner, rest, rfl, hinner, hblank | hfull⟩
    · rw [readTerm_openPhrase hinner] at h
      cases h
    · rw [readTerm_blankPhrase hinner hblank] at h
      cases h
    · rw [readTerm_phrase hinner hfull] at h
      cases h
      refine ⟨.phrase hsign hinner hfull, ?_⟩
      simp only [List.length_append, List.length_cons]
      omega
  · have hword := hd.resolve_right hquote
    rw [readTerm_word hquote] at h
    cases h
    refine ⟨passes_word hsign hword halone, ?_⟩
    simpa [hword] using (List.dropWhile_sublist (l := ds) isWordChar).length_le

end

section

variable {position : Nat} {c : Char} {cs : List Char}

/-- After a hyphen that is not alone there is a word or a quote. -/
theorem isWordChar_or_quote {d : Char} (h : ¬(isBlank d = true ∨ d = '(' ∨ d = ')')) :
    isWordChar d = true ∨ d = '"' := by
  rw [isWordChar_iff]
  by_cases hquote : d = '"'
  · exact .inr hquote
  · simp only [not_or, Bool.not_eq_true] at h
    exact .inl ⟨h.1, h.2.1, h.2.2, hquote⟩

theorem readToken_hyphen (d : Char) (ds : List Char) :
    readToken position '-' (d :: ds) =
      if isBlank d ∨ d = '(' ∨ d = ')' then .error ⟨.loneNegation, position⟩
      else (readTerm true (position + 1) (d :: ds)).map fun l => { l with size := l.size + 1 } := by
  simp only [readToken, Char.reduceEq, if_false, if_true]
  split
  · rfl
  · cases readTerm true (position + 1) (d :: ds) <;> rfl

theorem readToken_term (hopening : c ≠ '(') (hclosing : c ≠ ')')
    (hhyphen : c ≠ '-') : readToken position c cs = readTerm false position (c :: cs) := by
  simp [readToken, hopening, hclosing, hhyphen]

theorem readToken_error {e : Error} (hblank : isBlank c = false)
    (h : readToken position c cs = .error e) : IsStuck (c :: cs) := by
  by_cases hopening : c = '('
  · simp [readToken, hopening] at h
  by_cases hclosing : c = ')'
  · simp [readToken, hclosing] at h
  by_cases hhyphen : c = '-'
  · subst hhyphen
    cases cs with
    | nil => exact .hyphenAtEnd
    | cons d ds =>
        rw [readToken_hyphen] at h
        split at h
        · rename_i hd
          exact .hyphen hd
        · exact readTerm_error ['-'] (.inr rfl) (map_error h)
  · rw [readToken_term hopening hclosing hhyphen] at h
    exact readTerm_error [] (.inl rfl) h

theorem readToken_ok {l : Lexeme} (hblank : isBlank c = false)
    (h : readToken position c cs = .ok l) :
    Passes (c :: cs) l.rest ∧ l.rest.length ≤ cs.length := by
  by_cases hopening : c = '('
  · subst hopening
    cases h
    exact ⟨.opening, Nat.le_refl _⟩
  by_cases hclosing : c = ')'
  · subst hclosing
    cases h
    exact ⟨.closing, Nat.le_refl _⟩
  by_cases hhyphen : c = '-'
  · subst hhyphen
    cases cs with
    | nil => cases h
    | cons d ds =>
        rw [readToken_hyphen] at h
        split at h
        · cases h
        · rename_i hd
          obtain ⟨term, hterm, rfl⟩ := map_ok h
          obtain ⟨hpasses, hlength⟩ :=
            readTerm_ok ['-'] (.inr rfl) (isWordChar_or_quote hd) (fun h => by cases h) hterm
          exact ⟨hpasses, Nat.le_succ_of_le hlength⟩
  · rw [readToken_term hopening hclosing hhyphen] at h
    have hc : isWordChar c = true ∨ c = '"' := isWordChar_or_quote (by simp [*])
    exact readTerm_ok [] (.inl rfl) hc (fun _ => hhyphen) h

/-- Where scanning is stuck there is no token. -/
theorem readToken_of_isStuck (position : Nat) (h : IsStuck (c :: cs)) :
    isBlank c = false ∧ ∃ e, readToken position c cs = .error e := by
  generalize hwhole : c :: cs = whole at h
  cases h with
  | hyphenAtEnd =>
      cases hwhole
      exact ⟨by decide, _, rfl⟩
  | hyphen hd =>
      cases hwhole
      exact ⟨by decide, _, by rw [readToken_hyphen, if_pos hd]⟩
  | openPhrase hsign hinner =>
      rcases hsign with rfl | rfl
      · cases hwhole
        exact ⟨by decide, _, readTerm_openPhrase hinner⟩
      · simp only [List.cons_append, List.nil_append, List.cons.injEq] at hwhole
        obtain ⟨rfl, rfl⟩ := hwhole
        refine ⟨by decide, ?_⟩
        rw [readToken_hyphen, if_neg (by decide), readTerm_openPhrase hinner]
        exact ⟨_, rfl⟩
  | blankPhrase hsign hinner hblank =>
      rcases hsign with rfl | rfl
      · cases hwhole
        exact ⟨by decide, _, readTerm_blankPhrase hinner hblank⟩
      · simp only [List.cons_append, List.nil_append, List.cons.injEq] at hwhole
        obtain ⟨rfl, rfl⟩ := hwhole
        refine ⟨by decide, ?_⟩
        rw [readToken_hyphen, if_neg (by decide), readTerm_blankPhrase hinner hblank]
        exact ⟨_, rfl⟩

/-- What scanning passes over is a blank or a token. -/
theorem readToken_of_passes (position : Nat) {rest : List Char} (h : Passes (c :: cs) rest) :
    isBlank c = true ∧ rest = cs ∨
      isBlank c = false ∧ ∃ l, readToken position c cs = .ok l ∧ l.rest = rest := by
  generalize hwhole : c :: cs = whole at h
  cases h with
  | blank hblank =>
      cases hwhole
      exact .inl ⟨hblank, rfl⟩
  | opening =>
      cases hwhole
      exact .inr ⟨by decide, _, rfl, rfl⟩
  | closing =>
      cases hwhole
      exact .inr ⟨by decide, _, rfl, rfl⟩
  | @word word rest hne halone hword hrest =>
      right
      obtain ⟨w, ws, rfl⟩ := List.exists_cons_of_ne_nil hne
      obtain ⟨hblank, hopening, hclosing, hquote⟩ := isWordChar_iff.mp (hword w (by simp))
      rw [List.cons_append, List.cons.injEq] at hwhole
      obtain ⟨rfl, rfl⟩ := hwhole
      refine ⟨hblank, ?_⟩
      by_cases hhyphen : c = '-'
      · subst hhyphen
        match ws with
        | [] => exact absurd rfl halone
        | d :: ds =>
            obtain ⟨hdblank, hdopening, hdclosing, hdquote⟩ :=
              isWordChar_iff.mp (hword d (by simp))
            have hterm := readTerm_run true (position + 1)
              (fun e he => hword e (List.mem_cons_of_mem _ he)) hrest
            rw [List.cons_append, readToken_hyphen, if_neg (by simp [*]), ← List.cons_append, hterm]
            exact ⟨_, rfl, rfl⟩
      · rw [readToken_term hopening hclosing hhyphen]
        exact ⟨_, readTerm_run false position hword hrest, rfl⟩
  | phrase hsign hinner hfull =>
      right
      rcases hsign with rfl | rfl
      · cases hwhole
        exact ⟨by decide, _, readTerm_phrase hinner hfull, rfl⟩
      · simp only [List.cons_append, List.nil_append, List.cons.injEq] at hwhole
        obtain ⟨rfl, rfl⟩ := hwhole
        refine ⟨by decide, ?_⟩
        rw [readToken_hyphen, if_neg (by decide), readTerm_phrase hinner hfull]
        exact ⟨_, rfl, rfl⟩

end

/-! ### The whole query -/

theorem stuck_of_tokensFrom {fuel : Nat} :
    ∀ {position : Nat} {cs : List Char} {e : Error}, tokensFrom fuel position cs = .error e →
      ∃ rest, ReflTransGen Passes cs rest ∧ IsStuck rest := by
  induction fuel with
  | zero => intro _ _ _ h; cases h
  | succ fuel ih =>
      intro position cs e h
      match cs with
      | [] => cases h
      | c :: cs =>
          rw [tokensFrom] at h
          split at h
          · rename_i hblank
            obtain ⟨rest, hscan, hstuck⟩ := ih h
            exact ⟨rest, .head (.blank hblank) hscan, hstuck⟩
          · rename_i hblank
            rw [Bool.not_eq_true] at hblank
            match htoken : readToken position c cs with
            | .error e => exact ⟨c :: cs, .refl, readToken_error hblank htoken⟩
            | .ok l =>
                rw [htoken] at h
                match hmore : tokensFrom fuel (position + l.size) l.rest with
                | .error e =>
                    obtain ⟨rest, hscan, hstuck⟩ := ih hmore
                    exact ⟨rest, .head (readToken_ok hblank htoken).1 hscan, hstuck⟩
                | .ok more =>
                    simp only [hmore, bind, Except.bind] at h
                    cases h

theorem tokensFrom_of_stuck {cs rest : List Char} (hscan : ReflTransGen Passes cs rest)
    (hstuck : IsStuck rest) :
    ∀ (fuel position : Nat), cs.length ≤ fuel → ∃ e, tokensFrom fuel position cs = .error e := by
  induction hscan using ReflTransGen.head_induction_on with
  | refl =>
      intro fuel position hfuel
      match rest, fuel with
      | [], _ => exact absurd rfl hstuck.ne_nil
      | c :: cs, 0 => cases hfuel
      | c :: cs, fuel + 1 =>
          obtain ⟨hblank, e, he⟩ := readToken_of_isStuck position hstuck
          exact ⟨e, by simp [tokensFrom, hblank, he, bind, Except.bind]⟩
  | @head cs after hpasses _ ih =>
      intro fuel position hfuel
      match cs, fuel with
      | [], _ => exact absurd rfl hpasses.ne_nil
      | c :: cs, 0 => cases hfuel
      | c :: cs, fuel + 1 =>
          rw [List.length_cons] at hfuel
          rcases readToken_of_passes position hpasses with
            ⟨hblank, rfl⟩ | ⟨hblank, l, hl, rfl⟩
          · obtain ⟨e, he⟩ := ih fuel (position + 1) (by omega)
            exact ⟨e, by simp [tokensFrom, hblank, he]⟩
          · have hlength := (readToken_ok hblank hl).2
            obtain ⟨e, he⟩ := ih fuel (position + l.size) (by omega)
            exact ⟨e, by simp [tokensFrom, hblank, hl, he, bind, Except.bind]⟩

/-- A query cannot be read as tokens exactly if scanning it comes to a place where it is stuck. -/
theorem tokenize_error_iff {query : String} :
    (∃ e, tokenize query = .error e) ↔
      ∃ rest, ReflTransGen Passes query.toList rest ∧ IsStuck rest := by
  constructor
  · rintro ⟨e, he⟩
    exact stuck_of_tokensFrom he
  · rintro ⟨rest, hscan, hstuck⟩
    exact tokensFrom_of_stuck hscan hstuck query.length 0 String.length_toList.le

/-! ### Queries without tokens -/

theorem tokensFrom_of_blank {cs : List Char} (h : ∀ c ∈ cs, isBlank c = true) :
    ∀ (fuel position : Nat), tokensFrom fuel position cs = .ok [] := by
  induction cs with
  | nil => intro fuel position; cases fuel <;> rfl
  | cons c cs ih =>
      intro fuel position
      cases fuel with
      | zero => rfl
      | succ fuel =>
          rw [tokensFrom, if_pos (h c (by simp))]
          exact ih (fun d hd => h d (List.mem_cons_of_mem _ hd)) fuel (position + 1)

theorem blank_of_tokensFrom {cs : List Char} :
    ∀ {fuel position : Nat}, cs.length ≤ fuel → tokensFrom fuel position cs = .ok [] →
      ∀ c ∈ cs, isBlank c = true := by
  induction cs with
  | nil => simp
  | cons c cs ih =>
      intro fuel position hfuel h
      obtain ⟨fuel, rfl⟩ := Nat.exists_eq_add_one.mpr (Nat.zero_lt_of_lt hfuel)
      rw [List.length_cons] at hfuel
      rw [tokensFrom] at h
      split at h
      · rename_i hblank
        intro d hd
        rcases List.mem_cons.mp hd with rfl | hd
        · exact hblank
        · exact ih (by omega) h d hd
      · -- A token was read, so there is at least that one.
        obtain ⟨l, -, hl⟩ := bind_ok h
        obtain ⟨more, -, hmore⟩ := bind_ok hl
        cases hmore

/-- A query has no tokens exactly if it is blank. -/
theorem tokens_eq_nil_iff {query : String} {tokens : List Token}
    (h : tokenize query = .ok tokens) : tokens = [] ↔ Text.isAllBlank query = true := by
  rw [Text.isAllBlank_iff]
  constructor
  · rintro rfl
    exact blank_of_tokensFrom String.length_toList.le h
  · intro hblank
    have hnone := tokensFrom_of_blank hblank query.length 0
    exact Except.ok.inj (h.symm.trans hnone)

theorem tokenize_of_blank {query : String} (h : Text.isAllBlank query = true) :
    tokenize query = .ok [] :=
  tokensFrom_of_blank (Text.isAllBlank_iff.mp h) query.length 0

end VacancyLedger.Query
