/-
What the tokens of a document can be.

Every start tag among them has names that end where a name ends and stand in lower case:
this is a fact about one step of the reading, and the reading only puts steps together.
-/
import VacancyLedger.Proofs.Markup.Tag

namespace VacancyLedger.Markup

open Text (isBlank lowerChars)

variable {cs rest : List Char} {fuel : Nat} {final : Bool} {raw : Option String}
  {found : Found} {s : Step} {read : List Token}

/-! ### One step and all steps -/

/-- The tokens of a step. -/
def Step.tokens : Step → List Token
  | .advance tokens _ _ | .stall tokens _ _ => tokens

theorem tokensFrom_cons (fuel : Nat) (final : Bool) (raw : Option String) (c : Char)
    (cs : List Char) :
    tokensFrom (fuel + 1) final raw (c :: cs) = (do
      match ← step final raw (c :: cs) with
      | .advance tokens raw rest => return tokens ++ (← tokensFrom fuel final raw rest)
      | .stall tokens raw rest =>
        if final then return tokens ++ (if raw.isSome then [] else [.text rest])
        else return tokens ++ (← tokensFrom fuel true raw rest)) :=
  rfl

/-- What holds of the tokens of every step, and of text, holds of the tokens of a document. -/
theorem tokensFrom_all {P : Token → Prop} (htext : ∀ content, P (.text content))
    (hstep : ∀ {final raw cs s}, step final raw cs = .ok s → ∀ t ∈ s.tokens, P t)
    (h : tokensFrom fuel final raw cs = .ok read) : ∀ t ∈ read, P t := by
  induction fuel generalizing final raw cs read with
  | zero =>
      cases h
      simp
  | succ fuel ih =>
      cases cs with
      | nil =>
          cases h
          simp
      | cons c cs =>
          rw [tokensFrom_cons] at h
          obtain ⟨s, hs, h⟩ := bind_ok h
          have htokens := hstep hs
          cases s with
          | advance tokens raw rest =>
              obtain ⟨others, hothers, h⟩ := bind_ok h
              cases h
              exact List.forall_mem_append.mpr ⟨htokens, ih hothers⟩
          | stall tokens raw rest =>
              cases final with
              | false =>
                  obtain ⟨others, hothers, h⟩ := bind_ok h
                  cases h
                  exact List.forall_mem_append.mpr ⟨htokens, ih hothers⟩
              | true =>
                  cases h
                  refine List.forall_mem_append.mpr ⟨htokens, ?_⟩
                  split
                  · simp
                  · simpa using htext rest

theorem tokensFrom_nil (fuel : Nat) (final : Bool) (raw : Option String) :
    tokensFrom fuel final raw [] = .ok [] := by
  cases fuel <;> rfl

/-- Where every step leaves a shorter text of the same kind, the reading comes to its end without
fail, however many steps are left.  The kind is that of the texts of `σ`, and `Reads` says what is
read of them. -/
theorem tokensFrom_shrinking {σ : Type} (text : σ → List Char) (Reads : σ → List Token → Prop)
    (hnil : ∀ s, text s = [] → Reads s [])
    (hstep : ∀ s, text s ≠ [] → ∃ token rest,
      step final none (text s) = .ok (.advance [token] none (text rest)) ∧
        (text rest).length < (text s).length ∧
        ∀ read, Reads rest read → Reads s (token :: read)) (s : σ) :
    ∃ read, (∀ fuel, (text s).length ≤ fuel → tokensFrom fuel final none (text s) = .ok read) ∧
      Reads s read := by
  generalize hn : (text s).length = n
  induction n using Nat.strong_induction_on generalizing s with
  | _ n ih =>
      cases htext : text s with
      | nil => exact ⟨[], fun fuel _ => tokensFrom_nil fuel final none, hnil s htext⟩
      | cons c cs =>
          obtain ⟨token, rest, hone, hshorter, hreads⟩ := hstep s (by simp [htext])
          obtain ⟨read, hread, hrest⟩ := ih _ (hn ▸ hshorter) rest rfl
          refine ⟨token :: read, ?_, hreads read hrest⟩
          intro fuel hfuel
          cases fuel with
          | zero => omega
          | succ fuel =>
              rw [htext] at hone
              rw [tokensFrom_cons, hone]
              simp only [bind, Except.bind, hread fuel (by omega)]
              rfl

/-! ### The names in a token -/

/-- Whether a start tag has names that a start tag can be written with. -/
def Token.IsWellNamed : Token → Prop
  | .openTag name attributes _ =>
    IsTagName name.toList ∧ ∀ a ∈ attributes, IsAttributeName a.1.toList
  | _ => True

/-- Whether the token that was found is well named. -/
def Found.IsWellNamed : Found → Prop
  | .token t _ | .rawElement t _ _ => t.IsWellNamed
  | .incomplete => True

theorem readOpenTag_wellNamed {c : Char} (hletter : isLetter c = true)
    (h : readOpenTag (c :: cs) = .ok found) : found.IsWellNamed := by
  rw [readOpenTag] at h
  split at h
  · cases h
    trivial
  · cases h
    trivial
  · next name written selfClosing rest hread =>
      obtain ⟨hname, hnames⟩ := readStartTag_names hletter hread
      simp only at h
      split at h
      · cases h
      · next attributes hattributes =>
          have htoken : (Token.openTag (String.ofList (lowerChars name)) attributes
              selfClosing).IsWellNamed := by
            refine ⟨?_, attributesOf_names hattributes hnames⟩
            rwa [String.toList_ofList]
          cases h
          split
          · exact htoken
          · exact htoken

theorem readEndTag_wellNamed (cs : List Char) : (readEndTag cs).IsWellNamed := by
  unfold readEndTag
  repeat' split
  all_goals trivial

theorem upToBracket_wellNamed {token : List Char → Token} (h : ∀ cs, (token cs).IsWellNamed)
    (cs : List Char) : (upToBracket token cs).IsWellNamed := by
  unfold upToBracket
  split
  · exact h _
  · trivial

theorem readSection_wellNamed (h : readSection cs = .ok found) : found.IsWellNamed := by
  unfold readSection at h
  dsimp only at h
  repeat' split at h
  all_goals cases h
  all_goals trivial

theorem readDeclaration_wellNamed (h : readDeclaration cs = .ok found) : found.IsWellNamed := by
  unfold readDeclaration at h
  repeat' split at h
  · cases h
    trivial
  · cases h
    trivial
  · exact readSection_wellNamed h
  · cases h
    trivial
  · cases h
    trivial
  · cases h
    exact @upToBracket_wellNamed .comment (fun _ => True.intro) cs

/-- What a step comes to once something was found, or not, in the text after `<`. -/
def Found.toStep (final : Bool) (cs : List Char) : Found → Step
  | .token t rest => .advance [t] none rest
  | .rawElement t name rest => .advance [t] (some name) rest
  | .incomplete =>
    if final then .advance [.text (cutIncomplete cs).1] none (cutIncomplete cs).2
    else .stall [] none ('<' :: cs)

theorem readMarkup_cons (final : Bool) (c : Char) (more : List Char) :
    readMarkup final (c :: more) =
      if isLetter c then (readOpenTag (c :: more)).map (Found.toStep final (c :: more))
      else if c = '/' then .ok ((readEndTag more).toStep final (c :: more))
      else if c = '?' then .ok ((upToBracket .instruction more).toStep final (c :: more))
      else if c = '!' then (readDeclaration more).map (Found.toStep final (c :: more))
      else .ok (.advance [.text ['<']] none (c :: more)) := by
  simp only [← beq_iff_eq (α := Char)]
  rfl

theorem Found.IsWellNamed.toStep (h : found.IsWellNamed) :
    ∀ t ∈ (found.toStep final cs).tokens, t.IsWellNamed := by
  cases found with
  | token t rest =>
      have ht : t.IsWellNamed := h
      simpa [Found.toStep, Step.tokens] using ht
  | rawElement t name rest =>
      have ht : t.IsWellNamed := h
      simpa [Found.toStep, Step.tokens] using ht
  | incomplete => cases final <;> simp [Found.toStep, Step.tokens, Token.IsWellNamed]

theorem readMarkup_wellNamed (h : readMarkup final cs = .ok s) :
    ∀ t ∈ s.tokens, t.IsWellNamed := by
  cases cs with
  | nil =>
      cases h
      simp [Step.tokens]
  | cons c more =>
      rw [readMarkup_cons] at h
      split at h
      · next hletter =>
          obtain ⟨found, hfound, rfl⟩ := map_ok h
          exact (readOpenTag_wellNamed hletter hfound).toStep
      split at h
      · cases h
        exact (readEndTag_wellNamed more).toStep
      split at h
      · cases h
        exact (@upToBracket_wellNamed .instruction (fun _ => True.intro) more).toStep
      split at h
      · obtain ⟨found, hfound, rfl⟩ := map_ok h
        exact (readDeclaration_wellNamed hfound).toStep
      · cases h
        simp [Step.tokens, Token.IsWellNamed]

theorem step_wellNamed (h : step final raw cs = .ok s) : ∀ t ∈ s.tokens, t.IsWellNamed := by
  cases raw with
  | some name =>
      rw [step] at h
      repeat' split at h
      all_goals cases h
      all_goals simp [Step.tokens, Token.IsWellNamed]
  | none =>
      rw [step] at h
      split at h
      · cases h
        simp [Step.tokens, Token.IsWellNamed]
      · exact readMarkup_wellNamed h
      · split at h
        all_goals cases h
        all_goals simp [Step.tokens, Token.IsWellNamed]

/-- **Every start tag of every document is well named.** -/
theorem tokens_wellNamed {document : String} (h : tokens document = .ok read) :
    ∀ t ∈ read, t.IsWellNamed :=
  tokensFrom_all (fun _ => True.intro) step_wellNamed h

end VacancyLedger.Markup
