/-
Which parentheses of a query belong together.

A run of tokens is `Paired` if every parenthesis in it has its partner in it.  A parenthesis is
closed by the first closing one that only paired tokens separate it from (`Closes`), and that
there is at most one such is what `depth` is for: it is never negative along paired tokens and
nothing at their end.  A reader with a stack keeps the parentheses that have no partner yet
(`Opened`), each with paired tokens behind it, and knows which token it took last (`Recalls`);
both are kept by every step, so they hold wherever a reader comes to.
-/
import Mathlib.Data.List.Induction
import VacancyLedger.Proofs.Query.Stack

namespace VacancyLedger.Query

/-- Every parenthesis in the tokens has its partner in them. -/
inductive Paired : List Token → Prop
  | nil : Paired []
  | other {token : Token} {rest : List Token} (hopening : token.kind ≠ .opening)
      (hclosing : token.kind ≠ .closing) (h : Paired rest) : Paired (token :: rest)
  | group {inside rest : List Token} (start stop : Nat) (hinside : Paired inside)
      (h : Paired rest) :
      Paired (⟨.opening, start⟩ :: (inside ++ ⟨.closing, stop⟩ :: rest))

/-- A parenthesis that stands before the tokens is closed in them. -/
def Closes (tokens : List Token) : Prop :=
  ∃ inside stop rest, Paired inside ∧ tokens = inside ++ ⟨.closing, stop⟩ :: rest

/-- Every parenthesis in the tokens is closed in them. -/
def AllClosed (tokens : List Token) : Prop :=
  ∀ before start after, tokens = before ++ ⟨.opening, start⟩ :: after → Closes after

/-! ### Depth -/

/-- How many more parentheses are opened than closed. -/
def depth : List Token → Int
  | [] => 0
  | ⟨.opening, _⟩ :: rest => 1 + depth rest
  | ⟨.closing, _⟩ :: rest => -1 + depth rest
  | ⟨.or _, _⟩ :: rest | ⟨.term _ _, _⟩ :: rest => depth rest

@[simp] theorem depth_nil : depth [] = 0 := rfl

@[simp] theorem depth_opening (position : Nat) (rest : List Token) :
    depth (⟨.opening, position⟩ :: rest) = 1 + depth rest := rfl

@[simp] theorem depth_closing (position : Nat) (rest : List Token) :
    depth (⟨.closing, position⟩ :: rest) = -1 + depth rest := rfl

theorem depth_other {token : Token} (hopening : token.kind ≠ .opening)
    (hclosing : token.kind ≠ .closing) (rest : List Token) :
    depth (token :: rest) = depth rest := by
  obtain ⟨kind, position⟩ := token
  cases kind with
  | opening => exact absurd rfl hopening
  | closing => exact absurd rfl hclosing
  | or _ | term _ _ => rfl

@[simp] theorem depth_append (before after : List Token) :
    depth (before ++ after) = depth before + depth after := by
  induction before with
  | nil => rw [List.nil_append, depth_nil, Int.zero_add]
  | cons token before ih =>
      obtain ⟨kind, position⟩ := token
      cases kind <;> simp [depth, ih] <;> omega

theorem Paired.depth_eq {tokens : List Token} (h : Paired tokens) : depth tokens = 0 := by
  induction h with
  | nil => rfl
  | other hopening hclosing _ ih => rw [depth_other hopening hclosing, ih]
  | group start stop _ _ ihInside ih => simp [ihInside, ih]

/-- No more parentheses are closed than were opened, wherever one stops. -/
theorem Paired.depth_nonneg {tokens : List Token} (h : Paired tokens) :
    ∀ {before after : List Token}, tokens = before ++ after → 0 ≤ depth before := by
  induction h with
  | nil =>
      intro before after hcut
      rw [(List.append_eq_nil_iff.mp hcut.symm).1]
      exact Int.le_refl 0
  | other hopening hclosing _ ih =>
      intro before after hcut
      rcases List.cons_eq_append_iff.mp hcut with ⟨rfl, -⟩ | ⟨more, rfl, hrest⟩
      · exact Int.le_refl 0
      · rw [depth_other hopening hclosing]
        exact ih hrest
  | @group inside rest start stop hinside _ ihInside ih =>
      intro before after hcut
      rcases List.cons_eq_append_iff.mp hcut with ⟨rfl, -⟩ | ⟨more, rfl, hrest⟩
      · exact Int.le_refl 0
      · rw [depth_opening]
        rcases List.append_eq_append_iff.mp hrest with ⟨tail, rfl, htail⟩ | ⟨tail, hmore, -⟩
        · rcases List.cons_eq_append_iff.mp htail with ⟨rfl, -⟩ | ⟨last, rfl, hlast⟩
          · simp [hinside.depth_eq]
          · have hnonneg := ih hlast
            simp [hinside.depth_eq]
            omega
        · have hnonneg := ihInside hmore
          omega

/-- What is closed in paired tokens was opened in them. -/
theorem Paired.not_closes {tokens : List Token} (h : Paired tokens) : ¬Closes tokens := by
  rintro ⟨inside, stop, rest, hinside, rfl⟩
  have hcut : inside ++ ⟨.closing, stop⟩ :: rest = (inside ++ [⟨.closing, stop⟩]) ++ rest := by simp
  have hnonneg := h.depth_nonneg hcut
  rw [depth_append, hinside.depth_eq, depth_closing, depth_nil] at hnonneg
  omega

theorem Closes.append {tokens : List Token} (h : Closes tokens) (more : List Token) :
    Closes (tokens ++ more) := by
  obtain ⟨inside, stop, rest, hinside, rfl⟩ := h
  exact ⟨inside, stop, rest ++ more, hinside, by simp⟩

theorem Paired.allClosed {tokens : List Token} (h : Paired tokens) : AllClosed tokens := by
  induction h with
  | nil =>
      intro before start after hcut
      simp at hcut
  | other hopening _ _ ih =>
      intro before start after hcut
      rcases List.cons_eq_append_iff.mp hcut with ⟨rfl, hfirst⟩ | ⟨more, rfl, hrest⟩
      · cases hfirst
        exact absurd rfl hopening
      · exact ih more start after hrest
  | @group inside rest start stop hinside _ ihInside ih =>
      intro before position after hcut
      rcases List.cons_eq_append_iff.mp hcut with ⟨rfl, hfirst⟩ | ⟨more, rfl, hrest⟩
      · cases hfirst
        exact ⟨inside, stop, rest, hinside, rfl⟩
      · rcases List.append_eq_append_iff.mp hrest with ⟨tail, rfl, htail⟩ | ⟨tail, hmore, htail⟩
        · rcases List.cons_eq_append_iff.mp htail with ⟨rfl, hlast⟩ | ⟨last, rfl, hlast⟩
          · cases hlast
          · exact ih last position after hlast
        · rcases List.cons_eq_append_iff.mp htail with ⟨rfl, hlast⟩ | ⟨last, rfl, hlast⟩
          · cases hlast
          · rw [hlast]
            exact (ihInside more position last hmore).append _

theorem AllClosed.of_append (before : List Token) {after : List Token}
    (h : AllClosed (before ++ after)) : AllClosed after := by
  intro more start rest hcut
  exact h (before ++ more) start rest (by rw [hcut, List.append_assoc])

/-- Where every parenthesis is closed, as many are closed as are opened, or more. -/
theorem AllClosed.depth_le {tokens : List Token} (h : AllClosed tokens) : depth tokens ≤ 0 := by
  match tokens with
  | [] => exact Int.le_refl 0
  | ⟨.closing, position⟩ :: rest =>
      have hrest : AllClosed rest := AllClosed.of_append [_] h
      have hle := hrest.depth_le
      rw [depth_closing]
      omega
  | ⟨.opening, position⟩ :: rest =>
      obtain ⟨inside, stop, after, hinside, hcut⟩ := h [] position rest rfl
      have hafter : AllClosed after := by
        subst hcut
        refine AllClosed.of_append (⟨.opening, position⟩ :: (inside ++ [⟨.closing, stop⟩])) ?_
        simpa using h
      have hlength : after.length < rest.length := by simp [hcut]; omega
      have hle := hafter.depth_le
      rw [depth_opening, hcut, depth_append, hinside.depth_eq, depth_closing]
      omega
  | ⟨.or _, _⟩ :: rest | ⟨.term _ _, _⟩ :: rest =>
      have hrest : AllClosed rest := AllClosed.of_append [_] h
      exact hrest.depth_le
termination_by tokens.length

/-- A closing parenthesis among paired tokens closes one that was open before it. -/
theorem Paired.not_allClosed {before after : List Token} {stop : Nat}
    (h : Paired (before ++ ⟨.closing, stop⟩ :: after)) : ¬AllClosed before := by
  intro hclosed
  have hle := hclosed.depth_le
  have hcut : before ++ ⟨.closing, stop⟩ :: after = (before ++ [⟨.closing, stop⟩]) ++ after := by
    simp
  have hnonneg := h.depth_nonneg hcut
  simp at hnonneg
  omega

/-! ### What is open -/

theorem Paired.append {before after : List Token} (h : Paired before) (hafter : Paired after) :
    Paired (before ++ after) := by
  induction h with
  | nil => exact hafter
  | other hopening hclosing _ ih => exact .other hopening hclosing ih
  | group start stop hinside _ _ ih =>
      rw [List.cons_append, List.append_assoc]
      exact .group start stop hinside ih

/-- The open parentheses among the tokens, the innermost one first: what follows each is paired up
to the next. -/
inductive Opened : List Nat → List Token → Prop
  | none {tokens : List Token} (h : Paired tokens) : Opened [] tokens
  | more {opened : List Nat} {before inside : List Token} (position : Nat)
      (h : Opened opened before) (hinside : Paired inside) :
      Opened (position :: opened) (before ++ ⟨.opening, position⟩ :: inside)

theorem Opened.append {opened : List Nat} {tokens more : List Token} (h : Opened opened tokens)
    (hmore : Paired more) : Opened opened (tokens ++ more) := by
  cases h with
  | none h => exact .none (h.append hmore)
  | more position h hinside =>
      rw [List.append_assoc]
      exact .more position h (hinside.append hmore)

theorem Opened.opening {opened : List Nat} {tokens : List Token} (h : Opened opened tokens)
    (position : Nat) : Opened (position :: opened) (tokens ++ [⟨.opening, position⟩]) :=
  .more position h .nil

theorem Opened.closing {opened : List Nat} {tokens : List Token} {start : Nat}
    (h : Opened (start :: opened) tokens) (stop : Nat) :
    Opened opened (tokens ++ [⟨.closing, stop⟩]) := by
  cases h with
  | more _ h hinside =>
      rw [List.append_assoc]
      exact h.append (.group start stop hinside .nil)

/-! ### Where a reader comes to -/

/-- What the place of a reader says about the token it took last. -/
def Stand.Recalls (s : Stand) (read : List Token) : Prop :=
  match s.place with
  | .start => read = [] ∧ s.opened = [] ∨
      ∃ before position opened, read = before ++ [⟨.opening, position⟩] ∧
        s.opened = position :: opened
  | .item => True
  | .or position => ∃ before word, read = before ++ [⟨.or word, position⟩]

/-- What a reader knows of the tokens it took. -/
structure Stand.Holds (s : Stand) (read : List Token) : Prop where
  opened : Opened s.opened read
  recalls : s.Recalls read

theorem Stand.Holds.step {s next : Stand} {read : List Token} {token : Token} (h : s.Holds read)
    (hstep : s.step token = .ok next) : next.Holds (read ++ [token]) := by
  obtain ⟨kind, position⟩ := token
  cases kind with
  | term t negated =>
      cases hstep
      exact ⟨h.opened.append (.other nofun nofun .nil), trivial⟩
  | opening =>
      cases hstep
      exact ⟨h.opened.opening position, .inr ⟨read, position, s.opened, rfl, rfl⟩⟩
  | or word =>
      obtain ⟨opened, place⟩ := s
      cases place with
      | item =>
          cases hstep
          exact ⟨h.opened.append (.other nofun nofun .nil), read, word, rfl⟩
      | start | or _ => cases hstep
  | closing =>
      obtain ⟨opened, place⟩ := s
      cases place with
      | or _ => cases hstep
      | start => cases opened <;> cases hstep
      | item =>
          cases opened with
          | nil => cases hstep
          | cons start opened =>
              cases hstep
              exact ⟨h.opened.closing position, trivial⟩

theorem Stand.holds_of_run {read : List Token} :
    ∀ {s : Stand}, Stand.init.run read = .ok s → s.Holds read := by
  induction read using List.reverseRecOn with
  | nil =>
      intro s hs
      cases hs
      exact ⟨.none .nil, .inl ⟨rfl, rfl⟩⟩
  | append_singleton read token ih =>
      intro s hs
      rw [Stand.run_snoc] at hs
      obtain ⟨before, hbefore, hstep⟩ := bind_ok hs
      exact (ih hbefore).step hstep

end VacancyLedger.Query
