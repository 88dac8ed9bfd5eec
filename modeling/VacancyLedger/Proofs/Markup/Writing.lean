/-
Tokens that are read back.

A token that a cleaned tree is written with is read as itself, whatever token follows it.
Text is the exception, as a run of text is read in pieces that need not be those it was
written in; so text is compared letter by letter.  An end tag is read up to the last
character of its name that is not a blank, which is why a name that ends in one is not
read back.
-/
import VacancyLedger.Proofs.Markup.Attributes
import VacancyLedger.Proofs.Markup.Inert

namespace VacancyLedger.Markup

open Text (isBlank lowerChars)

variable {c : Char} {cs name : List Char} {t : Token} {ts : List Token}

/-! ### The names of end tags -/

theorem isBlank_of_isLetter (h : isLetter c = true) : isBlank c = false := by
  have htable : ∀ n < 128, isLetter (Char.ofNat n) = true → isBlank (Char.ofNat n) = false := by
    decide +kernel
  have hspec := htable c.toNat (isLetter_ascii h)
  rw [Char.ofNat_toNat] at hspec
  exact hspec h

/-- Whether a name does not end in a blank. -/
def EndsPlainly (name : List Char) : Prop := ∀ c ∈ name.getLast?, isBlank c = false

theorem EndsPlainly.of_append {before after : List Char} (h : EndsPlainly (before ++ after)) :
    EndsPlainly after := by
  intro c hc
  refine h c ?_
  rw [List.getLast?_append, Option.mem_def.mp hc]
  rfl

/-- Nothing but blanks may stand between a name and its bracket. -/
theorem eq_nil_of_dropWhile_bracket {left rest more : List Char} (hbracket : '>' ∉ left)
    (hlast : EndsPlainly left) (h : (left ++ '>' :: rest).dropWhile isBlank = '>' :: more) :
    left = [] := by
  rw [Text.dropWhile_stop (by decide)] at h
  have hblank : left.dropWhile isBlank = [] := by
    rcases List.append_eq_cons_iff.mp h with ⟨hnil, -⟩ | ⟨before, hcons, -⟩
    · exact hnil
    · have hmem : '>' ∈ left.dropWhile isBlank := by simp [hcons]
      exact absurd ((List.dropWhile_sublist _).subset hmem) hbracket
  rcases List.eq_nil_or_concat left with hnil | ⟨before, last, rfl⟩
  · exact hnil
  · have hend : isBlank last = true := List.dropWhile_eq_nil_iff.mp hblank last (by simp)
    have hplain : isBlank last = false := hlast last (by simp)
    rw [hend] at hplain
    cases hplain

/-- A name that is read before a bracket is read whole. -/
theorem plainEndTag?_endsPlainly {read left rest : List Char} (hname : IsTagName name)
    (hlast : EndsPlainly name) (h : plainEndTag? (name ++ '>' :: rest) = some (read, left)) :
    read = name := by
  have hbracket : '>' ∉ name := fun hmem => absurd (hname.allowed _ hmem) (by decide)
  obtain ⟨c, tail, rfl, hletter⟩ := hname.head
  have hstart : isBlank c = false := isBlank_of_isLetter hletter
  rw [plainEndTag?, List.cons_append, List.dropWhile_cons_of_neg (by simp [hstart])] at h
  simp only [hletter, if_true] at h
  generalize hp : (fun d : Char =>
    d.isAlphanum || d == '-' || d == '.' || d == ':' || d == '_') = p at h
  obtain ⟨run, after, rfl, hrun, hafter⟩ : ∃ run after, tail = run ++ after ∧
      (∀ d ∈ run, p d = true) ∧ ∀ d ∈ after.head?, p d = false :=
    ⟨tail.takeWhile p, tail.dropWhile p, List.takeWhile_append_dropWhile.symm,
      fun d hd => List.mem_takeWhile_imp hd, Text.head?_dropWhile p tail⟩
  have hstop : ∀ d ∈ (after ++ '>' :: rest).head?, p d = false := by
    cases after with
    | nil =>
        subst hp
        simp
    | cons d ds => simpa using hafter
  rw [List.append_assoc, Text.span_run hrun hstop] at h
  simp only at h
  split at h
  · next more hmore =>
      have hnone : after = [] := by
        refine eq_nil_of_dropWhile_bracket ?_ ?_ hmore
        · intro hmem
          exact hbracket (by simp [hmem])
        · exact @EndsPlainly.of_append (c :: run) after hlast
      cases h
      rw [hnone, List.append_nil]
  · cases h

/-- An end tag of a name that does not end in a blank is read back. -/
theorem readEndTag_endsPlainly (h : IsTagName name) (hlast : EndsPlainly name)
    (rest : List Char) :
    readEndTag (name ++ '>' :: rest) = .token (.closeTag (String.ofList name)) rest := by
  have hbracket : '>' ∉ name := fun hmem => absurd (h.allowed _ hmem) (by decide)
  rw [readEndTag, Text.cutAt_append hbracket]
  cases hplain : plainEndTag? (name ++ '>' :: rest) with
  | some found =>
      obtain ⟨read, left⟩ := found
      have hread := plainEndTag?_endsPlainly h hlast hplain
      have hleft := plainEndTag?_rest hbracket hplain
      subst hread hleft
      simp only [Text.map_toLower_of_low h.low]
  | none =>
      obtain ⟨c, tail, hcons, hletter⟩ := h.head
      have htake : (name ++ '>' :: rest).takeWhile isTagNameChar = name :=
        Text.takeWhile_run h.allowed (by simp; decide)
      simp only [htake, h.low]
      simp [hcons, hletter]

/-! ### Tokens as they are written -/

/-- A token of a cleaned tree as it is written. -/
def Token.write : Token → List Char
  | .text content => escape content
  | .openTag name attributes selfClosing =>
    '<' :: (name.toList ++ (writeAttributes (attributes.map fun a => (a.1, a.2.toList)) ++
      closing selfClosing []))
  | .closeTag name => '<' :: '/' :: (name.toList ++ ['>'])
  | .comment _ | .doctype _ | .section _ | .instruction _ => []

/-- Tokens as they are written, one after the other. -/
def writeTokens (ts : List Token) : List Char := ts.flatMap Token.write

/-- Whether a token is one that is read back: a letter of text, a start tag that may stay, or an
end tag of a name that does not end in a blank. -/
def Token.IsWritable : Token → Prop
  | .text content => ∃ c, content = [c]
  | .openTag name attributes _ =>
    IsInertTag name.toList (attributes.map fun a => (a.1, a.2.toList))
  | .closeTag name => IsTagName name.toList ∧ EndsPlainly name.toList
  | .comment _ | .doctype _ | .section _ | .instruction _ => False

/-- A token with its text letter by letter. -/
def Token.letters : Token → List Token
  | .text content => content.map fun c => .text [c]
  | t => [t]

theorem writeTokens_cons (t : Token) (ts : List Token) :
    writeTokens (t :: ts) = t.write ++ writeTokens ts :=
  rfl

theorem closing_append (selfClosing : Bool) (rest : List Char) :
    closing selfClosing [] ++ rest = closing selfClosing rest := by
  cases selfClosing <;> rfl

/-- A token other than a plain letter is written with a sign of markup first. -/
theorem Token.IsWritable.cases (h : t.IsWritable) :
    (∃ c, t = .text [c] ∧ c ≠ '<' ∧ c ≠ '&' ∧ t.write = [c]) ∨
      ∃ sign after, (sign = '<' ∨ sign = '&') ∧ t.write = sign :: after := by
  cases t with
  | text content =>
      obtain ⟨c, rfl⟩ := h
      have hwrite : Token.write (.text [c]) = escapeChar c := List.append_nil _
      rcases escapeChar_cases c with ⟨hlt, hamp, hc⟩ | ⟨name, -, hc⟩
      · exact .inl ⟨c, rfl, hlt, hamp, hwrite.trans hc⟩
      · exact .inr ⟨'&', name ++ [';'], .inr rfl, hwrite.trans hc⟩
  | openTag name attributes selfClosing => exact .inr ⟨'<', _, .inl rfl, rfl⟩
  | closeTag name => exact .inr ⟨'<', _, .inl rfl, rfl⟩
  | comment content => exact h.elim
  | doctype content => exact h.elim
  | «section» content => exact h.elim
  | instruction content => exact h.elim

/-! ### One step -/

/-- A run of plain characters is a run of letters. -/
theorem plain_run (h : ∀ t ∈ ts, t.IsWritable) :
    ∃ rest, (writeTokens ts).dropWhile (fun c => !(c == '<' || c == '&')) = writeTokens rest ∧
      ts = ((writeTokens ts).takeWhile fun c => !(c == '<' || c == '&')).map (fun c => .text [c]) ++
        rest := by
  induction ts with
  | nil => exact ⟨[], rfl, rfl⟩
  | cons t ts ih =>
      obtain ⟨ht, hts⟩ := List.forall_mem_cons.mp h
      rcases ht.cases with ⟨c, rfl, hlt, hamp, hwrite⟩ | ⟨sign, after, hsign, hwrite⟩
      · have hplain : (fun c => !(c == '<' || c == '&')) c = true := by simp [hlt, hamp]
        obtain ⟨rest, hdrop, htake⟩ := ih hts
        rw [writeTokens_cons, hwrite, List.singleton_append,
          List.dropWhile_cons_of_pos (p := fun c => !(c == '<' || c == '&')) hplain,
          List.takeWhile_cons_of_pos (p := fun c => !(c == '<' || c == '&')) hplain]
        refine ⟨rest, hdrop, ?_⟩
        rw [List.map_cons, List.cons_append, ← htake]
      · have hstop : ¬ (fun c => !(c == '<' || c == '&')) sign = true := by
          rcases hsign with rfl | rfl <;> decide
        rw [writeTokens_cons, hwrite, List.cons_append,
          List.dropWhile_cons_of_neg (p := fun c => !(c == '<' || c == '&')) hstop,
          List.takeWhile_cons_of_neg (p := fun c => !(c == '<' || c == '&')) hstop]
        refine ⟨t :: ts, ?_, rfl⟩
        rw [writeTokens_cons, hwrite, List.cons_append]

theorem namedText_escape : ∀ e ∈ escapes, namedText e.2 = [e.1] := by decide +kernel

/-- Reading goes one step further in what was written, letter by letter as it was written. -/
theorem step_written (h : ∀ t ∈ ts, t.IsWritable) (hts : ts ≠ []) (final : Bool) :
    ∃ token rest, step final none (writeTokens ts) =
        .ok (.advance [token] none (writeTokens rest)) ∧
      ts = token.letters ++ rest ∧ (writeTokens rest).length < (writeTokens ts).length := by
  obtain ⟨t, ts, rfl⟩ := List.exists_cons_of_ne_nil hts
  obtain ⟨ht, hrest⟩ := List.forall_mem_cons.mp h
  rw [writeTokens_cons]
  cases t with
  | text content =>
      obtain ⟨c, rfl⟩ := ht
      have hwrite : Token.write (.text [c]) = escapeChar c := List.append_nil _
      rw [hwrite]
      rcases escapeChar_cases c with ⟨hlt, hamp, hc⟩ | ⟨name, hname, hc⟩
      · obtain ⟨rest, hdrop, htake⟩ := plain_run hrest
        have hlength := (List.dropWhile_sublist (l := writeTokens ts)
          fun c => !(c == '<' || c == '&')).length_le
        rw [hc, List.singleton_append, step_plain ⟨hlt, hamp⟩]
        rw [hdrop] at hlength ⊢
        refine ⟨_, rest, rfl, ?_, Nat.lt_succ_of_le hlength⟩
        rw [Token.letters, List.map_cons, List.cons_append, ← htake]
      · have hstep := step_escape hname final (writeTokens ts)
        rw [namedText_escape _ hname] at hstep
        have htext : '&' :: (name ++ [';']) ++ writeTokens ts =
            '&' :: (name ++ ';' :: writeTokens ts) := by simp
        rw [hc, htext]
        refine ⟨_, ts, hstep, rfl, ?_⟩
        simp only [List.length_cons, List.length_append]
        omega
  | openTag name attributes selfClosing =>
      have hstep := step_startTag ht final selfClosing (writeTokens ts)
      have htext : Token.write (.openTag name attributes selfClosing) ++ writeTokens ts =
          '<' :: (name.toList ++ (writeAttributes (attributes.map fun a => (a.1, a.2.toList)) ++
            closing selfClosing (writeTokens ts))) := by
        simp [Token.write, closing_append]
      have hfound : ((attributes.map fun a => (a.1, a.2.toList)).map fun a =>
          (a.1, String.ofList a.2)) = attributes := foundAgain_map_toList attributes
      rw [hfound, String.ofList_toList] at hstep
      have hlength := length_lt_closing selfClosing (writeTokens ts)
      rw [htext]
      refine ⟨_, ts, hstep, rfl, ?_⟩
      simp only [List.length_cons, List.length_append]
      omega
  | closeTag name =>
      have htext : Token.write (.closeTag name) ++ writeTokens ts =
          '<' :: '/' :: (name.toList ++ '>' :: writeTokens ts) := by
        simp [Token.write]
      rw [htext]
      refine ⟨.closeTag name, ts, ?_, rfl, ?_⟩
      · rw [step_markup, readMarkup_cons, if_neg (by decide), if_pos rfl,
          readEndTag_endsPlainly ht.1 ht.2, String.ofList_toList]
        rfl
      · simp only [List.length_cons, List.length_append]
        omega
  | comment content => exact ht.elim
  | doctype content => exact ht.elim
  | «section» content => exact ht.elim
  | instruction content => exact ht.elim

/-! ### The whole reading -/

/-- **What was written is read back, up to the pieces its text is read in.** -/
theorem tokensFrom_written (h : ∀ t ∈ ts, t.IsWritable) (final : Bool) :
    ∃ read, (∀ fuel, (writeTokens ts).length ≤ fuel →
        tokensFrom fuel final none (writeTokens ts) = .ok read) ∧
      read.flatMap Token.letters = ts := by
  refine tokensFrom_shrinking
    (fun ts : { ts : List Token // ∀ t ∈ ts, t.IsWritable } => writeTokens ts.1)
    (fun ts read => read.flatMap Token.letters = ts.1) ?_ ?_ ⟨ts, h⟩
  · rintro ⟨ts, hts⟩ hnone
    cases ts with
    | nil => rfl
    | cons t ts =>
        obtain ⟨token, rest, -, -, hlength⟩ := step_written hts (List.cons_ne_nil t ts) final
        exact absurd (congrArg List.length hnone) (Nat.ne_of_gt (Nat.zero_lt_of_lt hlength))
  · rintro ⟨ts, hts⟩ hne
    have hsome : ts ≠ [] := by
      rintro rfl
      exact hne rfl
    obtain ⟨token, rest, hstep, hletters, hlength⟩ := step_written hts hsome final
    have hrest : ∀ t ∈ rest, t.IsWritable := by
      intro t ht
      exact hts t (hletters ▸ List.mem_append_right _ ht)
    refine ⟨token, ⟨rest, hrest⟩, hstep, hlength, ?_⟩
    intro read hread
    rw [List.flatMap_cons, hread, ← hletters]

/-- What was written is read to its end, as a document. -/
theorem tokens_written (h : ∀ t ∈ ts, t.IsWritable) :
    ∃ read, tokens (String.ofList (writeTokens ts)) = .ok read ∧
      read.flatMap Token.letters = ts := by
  obtain ⟨read, hread, hletters⟩ := tokensFrom_written h false
  refine ⟨read, ?_, hletters⟩
  rw [tokens, String.toList_ofList, String.length_ofList]
  exact hread _ (by omega)

end VacancyLedger.Markup
