/-
What the errors of a query point at.

An error of scanning is found where scanning is stuck, so its position is where that place
starts in the text, past the hyphen before a quote (`Stumbles`).  An error of reading is found
by a reader with a stack, which knows what it has taken: the open parentheses and the token
it took last.  So each of its errors is the fault of the token it names (`Blames`), and if a
token cannot be taken any more, the error is its own or that of the token directly before it.
-/
import VacancyLedger.Proofs.Query.Nesting
import VacancyLedger.Proofs.Query.Spelling

namespace VacancyLedger.Query

open Relation (ReflTransGen)
open Text (isBlank)

/-! ### Where scanning is stuck -/

/-- The error of a text in which scanning comes to a place where it is stuck. -/
inductive Stumbles (text : List Char) : Error → Prop
  | loneNegation {before after : List Char} (htext : text = before ++ '-' :: after)
      (hscan : ReflTransGen Passes text ('-' :: after))
      (hafter : ∀ c ∈ after.head?, isBlank c = true ∨ c = '(' ∨ c = ')') :
      Stumbles text ⟨.loneNegation, before.length⟩
  | unterminatedQuote {before hyphen after : List Char}
      (htext : text = before ++ hyphen ++ '"' :: after)
      (hscan : ReflTransGen Passes text (hyphen ++ '"' :: after)) (hhyphen : IsSign hyphen)
      (hafter : '"' ∉ after) : Stumbles text ⟨.unterminatedQuote, (before ++ hyphen).length⟩
  | emptyPhrase {before hyphen inner after : List Char}
      (htext : text = before ++ hyphen ++ '"' :: (inner ++ '"' :: after))
      (hscan : ReflTransGen Passes text (hyphen ++ '"' :: (inner ++ '"' :: after)))
      (hhyphen : IsSign hyphen) (hinner : '"' ∉ inner) (hblank : ∀ c ∈ inner, isBlank c = true) :
      Stumbles text ⟨.emptyPhrase, (before ++ hyphen).length⟩

section

variable {text before : List Char} {c : Char} {cs : List Char} {e : Error}

theorem stumbles_of_readTerm {negated : Bool} {hyphen : List Char} (hhyphen : IsSign hyphen)
    (htext : text = before ++ hyphen ++ c :: cs)
    (hscan : ReflTransGen Passes text (hyphen ++ c :: cs))
    (h : readTerm negated (before ++ hyphen).length (c :: cs) = .error e) : Stumbles text e := by
  by_cases hquote : c = '"'
  · subst hquote
    rcases phrase_cases cs with hinner | ⟨inner, rest, rfl, hinner, hblank | hfull⟩
    · rw [readTerm_openPhrase hinner] at h
      cases h
      exact .unterminatedQuote htext hscan hhyphen hinner
    · rw [readTerm_blankPhrase hinner hblank] at h
      cases h
      exact .emptyPhrase htext hscan hhyphen hinner hblank
    · rw [readTerm_phrase hinner hfull] at h
      cases h
  · rw [readTerm_word hquote] at h
    cases h

theorem stumbles_of_readToken (htext : text = before ++ c :: cs)
    (hscan : ReflTransGen Passes text (c :: cs))
    (h : readToken before.length c cs = .error e) : Stumbles text e := by
  by_cases hopening : c = '('
  · rw [hopening] at h
    cases h
  by_cases hclosing : c = ')'
  · rw [hclosing] at h
    cases h
  by_cases hhyphen : c = '-'
  · subst hhyphen
    cases cs with
    | nil =>
        cases h
        exact .loneNegation htext hscan (by simp)
    | cons d ds =>
        rw [readToken_hyphen] at h
        split at h
        · rename_i hd
          cases h
          exact .loneNegation htext hscan (by simpa using hd)
        · have hterm : readTerm true (before ++ ['-']).length (d :: ds) = .error e := by
            simpa using map_error h
          exact stumbles_of_readTerm (.inr rfl) (by simpa using htext) hscan hterm
  · rw [readToken_term hopening hclosing hhyphen] at h
    have hterm : readTerm false (before ++ []).length (c :: cs) = .error e := by
      rwa [List.append_nil]
    exact stumbles_of_readTerm (.inl rfl) (by simpa using htext) hscan hterm

end

theorem stumbles_of_tokensFrom {text : List Char} {fuel : Nat} :
    ∀ {before cs : List Char} {e : Error}, text = before ++ cs → ReflTransGen Passes text cs →
      tokensFrom fuel before.length cs = .error e → Stumbles text e := by
  induction fuel with
  | zero => intro _ _ _ _ _ h; cases h
  | succ fuel ih =>
      intro before cs e htext hscan h
      cases cs with
      | nil => cases h
      | cons c cs =>
          rw [tokensFrom] at h
          split at h
          · rename_i hblank
            have hnext : text = (before ++ [c]) ++ cs := by simp [htext]
            exact ih hnext (hscan.tail (.blank hblank)) (by simpa using h)
          · rename_i hblank
            rw [Bool.not_eq_true] at hblank
            rcases bind_error h with htoken | ⟨l, hl, hmore⟩
            · exact stumbles_of_readToken htext hscan htoken
            · obtain ⟨source, -, -, hwhole, hsize⟩ := spells_of_readToken hblank hl
              have hnext : text = (before ++ source) ++ l.rest := by
                rw [htext, hwhole, List.append_assoc]
              rcases bind_error hmore with hrest | ⟨more, -, hdone⟩
              · rw [hsize, ← List.length_append] at hrest
                exact ih hnext (hscan.tail (readToken_ok hblank hl).1) hrest
              · cases hdone

/-! ### The token at fault -/

/-- The token of which an error gives the position. -/
inductive Blames (tokens : List Token) : Error → Prop
  | firstOr {before after : List Token} {word : String} {position : Nat}
      (h : tokens = before ++ ⟨.or word, position⟩ :: after)
      (hfirst : before = [] ∨ ∃ earlier start, before = earlier ++ [⟨.opening, start⟩]) :
      Blames tokens ⟨.misplacedOr, position⟩
  | secondOr {before after : List Token} {first word : String} {start position : Nat}
      (h : tokens = before ++ ⟨.or first, start⟩ :: ⟨.or word, position⟩ :: after) :
      Blames tokens ⟨.misplacedOr, position⟩
  | lastOr {before after : List Token} {word : String} {position : Nat}
      (h : tokens = before ++ ⟨.or word, position⟩ :: after) (hlast : Ends after) :
      Blames tokens ⟨.misplacedOr, position⟩
  | emptyGroup {before after : List Token} {position : Nat}
      (h : tokens = before ++ ⟨.opening, position⟩ :: after) (hempty : Ends after) :
      Blames tokens ⟨.emptyGroup, position⟩
  | unclosedGroup {before after : List Token} {position : Nat}
      (h : tokens = before ++ ⟨.opening, position⟩ :: after) (hopen : ¬Closes after)
      (hlast : AllClosed after) : Blames tokens ⟨.unclosedGroup, position⟩
  | unmatchedClosing {before after : List Token} {position : Nat}
      (h : tokens = before ++ ⟨.closing, position⟩ :: after) (hclosed : AllClosed before)
      (hfirst : ∀ earlier stop rest, before = earlier ++ ⟨.closing, stop⟩ :: rest →
        ¬AllClosed earlier) : Blames tokens ⟨.unmatchedClosing, position⟩

/-- The position is that of an "or" or an opening parenthesis at the end of the tokens. -/
def EndsAt (read : List Token) (position : Nat) : Prop :=
  ∃ before kind, read = before ++ [⟨kind, position⟩] ∧ (kind = .opening ∨ ∃ word, kind = .or word)

theorem blames_unmatched {read : List Token} (h : Opened [] read) (position : Nat)
    (rest : List Token) :
    Blames (read ++ ⟨.closing, position⟩ :: rest) ⟨.unmatchedClosing, position⟩ := by
  cases h with
  | none hpaired =>
      refine .unmatchedClosing rfl hpaired.allClosed fun earlier stop more hcut => ?_
      subst hcut
      exact hpaired.not_allClosed

theorem blames_unclosed {opened : List Nat} {read : List Token} {position : Nat}
    (h : Opened (position :: opened) read) : Blames read ⟨.unclosedGroup, position⟩ := by
  cases h with
  | more _ _ hinside => exact .unclosedGroup rfl hinside.not_closes hinside.allClosed

namespace Stand.Holds

variable {s : Stand} {read : List Token} {e : Error}

theorem endsAt_or {opened : List Nat} {position : Nat} (h : Holds ⟨opened, .or position⟩ read) :
    EndsAt read position := by
  obtain ⟨before, word, hread⟩ := h.recalls
  exact ⟨before, .or word, hread, .inr ⟨word, rfl⟩⟩

theorem endsAt_opening {opened : List Nat} {position : Nat}
    (h : Holds ⟨position :: opened, .start⟩ read) :
    ∃ before, read = before ++ [⟨.opening, position⟩] := by
  rcases h.recalls with ⟨-, hnone⟩ | ⟨before, start, rest, hread, hopened⟩
  · cases hnone
  · cases hopened
    exact ⟨before, hread⟩

/-- What cannot be taken is at fault, or the token before it is. -/
theorem blames_step {token : Token} (h : s.Holds read) (hstep : s.step token = .error e)
    (rest : List Token) :
    Blames (read ++ token :: rest) e ∧ (e.position = token.position ∨ EndsAt read e.position) := by
  obtain ⟨opened, place⟩ := s
  obtain ⟨kind, position⟩ := token
  cases kind with
  | term t negated => cases hstep
  | opening => cases hstep
  | or word =>
      cases place with
      | item => cases hstep
      | start =>
          cases hstep
          refine ⟨.firstOr rfl ?_, .inl rfl⟩
          rcases h.recalls with ⟨hread, -⟩ | ⟨before, start, -, hread, -⟩
          · exact .inl hread
          · exact .inr ⟨before, start, hread⟩
      | or waiting =>
          cases hstep
          obtain ⟨before, first, rfl⟩ := h.recalls
          rw [List.append_assoc]
          exact ⟨.secondOr rfl, .inl rfl⟩
  | closing =>
      cases place with
      | or waiting =>
          cases hstep
          have hend := h.endsAt_or
          obtain ⟨before, word, rfl⟩ := h.recalls
          rw [List.append_assoc]
          exact ⟨.lastOr rfl (ends_closing position rest), .inr hend⟩
      | start =>
          cases opened with
          | nil =>
              cases hstep
              exact ⟨blames_unmatched h.opened position rest, .inl rfl⟩
          | cons start opened =>
              cases hstep
              obtain ⟨before, rfl⟩ := h.endsAt_opening
              rw [List.append_assoc]
              exact ⟨.emptyGroup rfl (ends_closing position rest),
                .inr ⟨before, .opening, rfl, .inl rfl⟩⟩
      | item =>
          cases opened with
          | cons start opened => cases hstep
          | nil =>
              cases hstep
              exact ⟨blames_unmatched h.opened position rest, .inl rfl⟩

/-- If nothing is left to take, an "or" or an opening parenthesis is at fault. -/
theorem blames_stop (h : s.Holds read) (hstop : s.stop = .error e) : Blames read e := by
  obtain ⟨opened, place⟩ := s
  cases place with
  | or waiting =>
      cases hstop
      obtain ⟨before, word, rfl⟩ := h.recalls
      exact .lastOr rfl ends_nil
  | start =>
      cases opened with
      | nil => cases hstop
      | cons start opened =>
          cases hstop
          obtain ⟨before, rfl⟩ := h.endsAt_opening
          exact .emptyGroup rfl ends_nil
  | item =>
      cases opened with
      | nil => cases hstop
      | cons start opened =>
          cases hstop
          exact blames_unclosed h.opened

end Stand.Holds

theorem blames_of_check {tokens : List Token} {e : Error}
    (h : Stand.init.check tokens = .error e) : Blames tokens e := by
  rcases Stand.check_error h with
    ⟨before, token, after, reached, rfl, hreached, hstep⟩ | ⟨reached, hreached, hstop⟩
  · exact ((Stand.holds_of_run hreached).blames_step hstep after).1
  · exact (Stand.holds_of_run hreached).blames_stop hstop

/-- The first token that leaves nothing to complete is at fault, or the one before it is. -/
theorem position_of_check {before after : List Token} {token : Token} {e : Error}
    (h : Stand.init.check (before ++ token :: after) = .error e) (hbefore : Completable before)
    (htoken : ¬Completable (before ++ [token])) :
    e.position = token.position ∨ EndsAt before e.position := by
  obtain ⟨s, hs⟩ := completable_iff_run.mp hbefore
  cases hstep : s.step token with
  | ok next =>
      refine absurd (completable_iff_run.mpr ⟨next, ?_⟩) htoken
      rw [Stand.run_snoc, hs]
      exact hstep
  | error e' =>
      have herror : Stand.init.check (before ++ token :: after) = .error e' := by
        rw [Stand.check, Stand.run_append, hs]
        simp [bind, Except.bind, Stand.run_cons, hstep]
      cases herror.symm.trans h
      exact ((Stand.holds_of_run hs).blames_step hstep after).2

/-- If something is missing after the last token, an open parenthesis is at fault, or that token
is. -/
theorem position_of_completable {tokens : List Token} {e : Error}
    (h : Stand.init.check tokens = .error e) (htokens : Completable tokens) :
    e.fault = .unclosedGroup ∨ EndsAt tokens e.position := by
  obtain ⟨⟨opened, place⟩, hs⟩ := completable_iff_run.mp htokens
  have hholds := Stand.holds_of_run hs
  have hstop : Stand.stop ⟨opened, place⟩ = .error e := by
    rwa [Stand.check, hs] at h
  cases place with
  | or waiting =>
      cases hstop
      exact .inr hholds.endsAt_or
  | start =>
      cases opened with
      | nil => cases hstop
      | cons start opened =>
          cases hstop
          obtain ⟨before, hread⟩ := hholds.endsAt_opening
          exact .inr ⟨before, .opening, hread, .inl rfl⟩
  | item =>
      cases opened with
      | nil => cases hstop
      | cons start opened =>
          cases hstop
          exact .inl rfl

/-! ### The character at fault -/

/-- What the text starts with where an error points. -/
def Fault.Marks (text : List Char) : Fault → Prop
  | .loneNegation => text.head? = some '-'
  | .unterminatedQuote | .emptyPhrase => text.head? = some '"'
  | .misplacedOr => ∃ word, Text.foldChars word = ['o', 'r'] ∧ word <+: text
  | .emptyGroup | .unclosedGroup => text.head? = some '('
  | .unmatchedClosing => text.head? = some ')'

theorem Fault.Marks.ne_nil {text : List Char} {fault : Fault} (h : fault.Marks text) :
    text ≠ [] := by
  rintro rfl
  cases fault with
  | misplacedOr =>
      obtain ⟨word, hfold, hprefix⟩ := h
      rw [List.prefix_nil.mp hprefix] at hfold
      cases hfold
  | _ => cases h

theorem Stumbles.marks {text : List Char} {e : Error} (h : Stumbles text e) :
    e.fault.Marks (text.drop e.position) := by
  cases h with
  | loneNegation htext _ _ => simp [htext, Fault.Marks]
  | unterminatedQuote htext _ _ _ | emptyPhrase htext _ _ _ _ =>
      rw [htext]
      simp only [List.drop_left, Fault.Marks, List.head?_cons]

theorem Blames.marks {tokens : List Token} {text : List Char} {e : Error} (h : Blames tokens e)
    (htokens : ∀ token ∈ tokens, ∃ source, Span.StandsIn ⟨token, source⟩ text) :
    e.fault.Marks (text.drop e.position) := by
  have hspells : ∀ {before after : List Token} {kind : Kind} {position : Nat},
      tokens = before ++ ⟨kind, position⟩ :: after →
        ∃ source, Spells kind source ∧ source <+: text.drop position := by
    intro before after kind position hcut
    obtain ⟨source, hsource⟩ := htokens ⟨kind, position⟩ (by simp [hcut])
    exact ⟨source, hsource.spells, hsource.here⟩
  cases h with
  | firstOr h _ | lastOr h _ =>
      obtain ⟨source, hor, hhere⟩ := hspells h
      exact ⟨source, hor.or, hhere⟩
  | @secondOr before after first word start position h =>
      have hcut : tokens = (before ++ [⟨.or first, start⟩]) ++ ⟨.or word, position⟩ :: after := by
        rw [h, List.append_assoc]
        rfl
      obtain ⟨source, hor, hhere⟩ := hspells hcut
      exact ⟨source, hor.or, hhere⟩
  | emptyGroup h _ | unclosedGroup h _ _ =>
      obtain ⟨source, hparen, hhere⟩ := hspells h
      rw [hparen.parenthesis.1 rfl] at hhere
      exact Text.mem_head?_mono hhere rfl
  | unmatchedClosing h _ _ =>
      obtain ⟨source, hparen, hhere⟩ := hspells h
      rw [hparen.parenthesis.2 rfl] at hhere
      exact Text.mem_head?_mono hhere rfl

/-- **An error points at what is wrong.**  Its position lies in the query, and there stands the
character it is about.  A query that cannot be scanned is refused for that, before it is read:
where a hyphen starts a token and no term follows, where a quote opens a phrase that no later
quote closes, or at the quote that opens a phrase of blanks.  Otherwise the error names a token: an
"or" that is the first or last of its sequence or follows another one, an opening parenthesis with
nothing before its closing one or before the end, the last one that is never closed, or the first
closing one before which all are closed.  The first token after which the query cannot be completed
any more is the one it names, or follows directly on the "or" or opening parenthesis it names; if
the query could be completed after its last token, it names that one or one that is not closed. -/
theorem parse_error {query : String} {e : Error} (h : parse query = .error e) :
    e.position < query.length ∧ e.fault.Marks (query.toList.drop e.position) ∧
    (∀ e', tokenize query = .error e' → e = e') ∧
    (tokenize query = .error e ∧ Stumbles query.toList e ∨
      ∃ tokens, tokenize query = .ok tokens ∧ ofTokens tokens = .error e ∧ Blames tokens e ∧
        (∀ before token after, tokens = before ++ token :: after → Completable before →
          ¬Completable (before ++ [token]) →
            e.position = token.position ∨ EndsAt before e.position) ∧
        (Completable tokens → e.fault = .unclosedGroup ∨ EndsAt tokens e.position)) := by
  have hparse : tokenize query >>= ofTokens = .error e := by
    rw [parse] at h
    split at h
    · cases h
    · exact h
  have hcourse : tokenize query = .error e ∧ Stumbles query.toList e ∨
      ∃ tokens, tokenize query = .ok tokens ∧ ofTokens tokens = .error e := by
    rcases bind_error hparse with hscan | ⟨tokens, htokens, hread⟩
    · have hstart : query.toList = [] ++ query.toList := rfl
      exact .inl ⟨hscan, stumbles_of_tokensFrom hstart .refl hscan⟩
    · exact .inr ⟨tokens, htokens, hread⟩
  have hcheck : ∀ tokens, ofTokens tokens = .error e → Stand.init.check tokens = .error e := by
    intro tokens hread
    rw [← ofTokens_eq_check, hread]
    rfl
  have hmarks : e.fault.Marks (query.toList.drop e.position) := by
    rcases hcourse with ⟨-, hstumbles⟩ | ⟨tokens, htokens, hread⟩
    · exact hstumbles.marks
    · refine (blames_of_check (hcheck tokens hread)).marks fun token htoken => ?_
      obtain ⟨spans, htiles, rfl⟩ := tokenize_ok_iff.mp htokens
      obtain ⟨s, hs, rfl⟩ := List.mem_map.mp htoken
      exact ⟨s.source, htiles.standsIn [] rfl s hs⟩
  refine ⟨?_, hmarks, ?_, ?_⟩
  · have hlength := List.length_pos_iff.mpr hmarks.ne_nil
    rw [List.length_drop, String.length_toList] at hlength
    omega
  · intro e' he'
    rw [he'] at hparse
    cases hparse
    rfl
  · rcases hcourse with hscan | ⟨tokens, htokens, hread⟩
    · exact .inl hscan
    · have herror := hcheck tokens hread
      refine .inr ⟨tokens, htokens, hread, blames_of_check herror, ?_,
        position_of_completable herror⟩
      rintro before token after rfl hbefore htoken
      exact position_of_check herror hbefore htoken

/-- The closing parenthesis cannot stand where it does, but the "or" before it is named. -/
theorem error_at_last_or :
    parse "((x) or) -y OR (z" = .error ⟨.misplacedOr, 5⟩ ∧
      Fault.Marks ("((x) or) -y OR (z".toList.drop 5) .misplacedOr := by
  have h : parse "((x) or) -y OR (z" = .error ⟨.misplacedOr, 5⟩ := rfl
  obtain ⟨-, hmarks, -⟩ := parse_error h
  exact ⟨h, hmarks⟩

end VacancyLedger.Query
