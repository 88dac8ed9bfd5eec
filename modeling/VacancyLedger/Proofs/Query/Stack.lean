/-
Tokens read one after the other, with a stack of open parentheses.

`readItems` reads a group by calling itself, so where it fails is spread over its calls.  A
`Stand` says how far a reader has come that takes one token at a time: which parentheses are
open, and where it is in the sequence inside the innermost one.  It fails where `readItems`
does and with the same error (`check_eq_readItems`, by induction on the fuel with the open
parentheses left arbitrary), and at each token either goes on or never will.  So the tokens up
to which it comes are the ones that can be completed to a sequence (`completable_iff_run`).
-/
import VacancyLedger.Proofs.Query.Grammar

namespace VacancyLedger.Query

/-- Where a reader is in a sequence: at its start, after an item, or after an "or". -/
inductive Place where
  | start
  | item
  | or (position : Nat)

/-- How far a reader has come: the positions of the parentheses that are open, the innermost one
first, and the place in the sequence inside it. -/
structure Stand where
  opened : List Nat
  place : Place

namespace Stand

/-- The next token is taken. -/
def step (s : Stand) (token : Token) : Except Error Stand :=
  match token.kind with
  | .term _ _ => .ok ⟨s.opened, .item⟩
  | .opening => .ok ⟨token.position :: s.opened, .start⟩
  | .or _ =>
    match s.place with
    | .item => .ok ⟨s.opened, .or token.position⟩
    | .start | .or _ => .error ⟨.misplacedOr, token.position⟩
  | .closing =>
    match s.place, s.opened with
    | .or position, _ => .error ⟨.misplacedOr, position⟩
    | .item, _ :: opened => .ok ⟨opened, .item⟩
    | .start, start :: _ => .error ⟨.emptyGroup, start⟩
    | .start, [] | .item, [] => .error ⟨.unmatchedClosing, token.position⟩

/-- There are no more tokens. -/
def stop (s : Stand) : Except Error Unit :=
  match s.place, s.opened with
  | .or position, _ => .error ⟨.misplacedOr, position⟩
  | .start, start :: _ => .error ⟨.emptyGroup, start⟩
  | .item, start :: _ => .error ⟨.unclosedGroup, start⟩
  | .start, [] | .item, [] => .ok ()

/-- Tokens are taken one after the other. -/
def run (s : Stand) (tokens : List Token) : Except Error Stand :=
  tokens.foldlM step s

/-- Tokens are taken to the last one. -/
def check (s : Stand) (tokens : List Token) : Except Error Unit :=
  s.run tokens >>= stop

/-- Nothing has been taken. -/
def init : Stand := ⟨[], .start⟩

variable {s : Stand} {tokens : List Token}

theorem run_cons (s : Stand) (token : Token) (rest : List Token) :
    s.run (token :: rest) = s.step token >>= fun s => s.run rest := by
  rw [run, List.foldlM_cons]
  rfl

theorem run_append (s : Stand) (before after : List Token) :
    s.run (before ++ after) = s.run before >>= fun s => s.run after := by
  rw [run, List.foldlM_append]
  rfl

theorem run_snoc (s : Stand) (before : List Token) (token : Token) :
    s.run (before ++ [token]) = s.run before >>= fun s => s.step token := by
  rw [run_append]
  refine bind_congr fun s => ?_
  rw [run_cons]
  exact bind_pure _

theorem check_cons (s : Stand) (token : Token) (rest : List Token) :
    s.check (token :: rest) = s.step token >>= fun s => s.check rest := by
  rw [check, run_cons, bind_assoc]
  rfl

/-- A reader fails at a token or at the end. -/
theorem check_error {e : Error} (h : s.check tokens = .error e) :
    (∃ before token after reached, tokens = before ++ token :: after ∧
        s.run before = .ok reached ∧ reached.step token = .error e) ∨
      ∃ reached, s.run tokens = .ok reached ∧ reached.stop = .error e := by
  rcases bind_error h with hrun | ⟨reached, hrun, hstop⟩
  · left
    clear h
    induction tokens generalizing s with
    | nil => cases hrun
    | cons token rest ih =>
        rw [run_cons] at hrun
        rcases bind_error hrun with hstep | ⟨next, hstep, hrest⟩
        · exact ⟨[], token, rest, s, rfl, rfl, hstep⟩
        · obtain ⟨before, found, after, reached, hrest, hreached, herror⟩ := ih hrest
          refine ⟨token :: before, found, after, reached, by rw [hrest]; rfl, ?_, herror⟩
          rw [run_cons, hstep]
          exact hreached
  · exact .inr ⟨reached, hrun, hstop⟩

end Stand

/-! ### Both readers -/

/-- The place after `count` items and perhaps an "or". -/
def placeAfter (count : Nat) : Option Nat → Place
  | some position => .or position
  | none => if count = 0 then .start else .item

/-- What is left of the items of a sequence is where the reader with a stack goes on. -/
theorem check_eq_readItems {fuel : Nat} :
    ∀ (count : Nat) (pending : Option Nat) (opened : List Nat) {tokens : List Token},
      tokens.length < fuel →
      Stand.check ⟨opened, placeAfter count pending⟩ tokens =
        readItems fuel count pending tokens >>= fun items =>
          Stand.check ⟨opened, placeAfter items.count none⟩ items.rest := by
  induction fuel with
  | zero => intro _ _ _ _ hfuel; omega
  | succ fuel ih =>
      intro count pending opened tokens hfuel
      match tokens with
      | [] => cases pending <;> rfl
      | ⟨.closing, position⟩ :: rest => cases pending <;> rfl
      | ⟨.or word, position⟩ :: rest =>
          simp only [List.length_cons] at hfuel
          rw [Stand.check_cons]
          cases pending with
          | some waiting => simp [readItems, Stand.step, placeAfter, bind, Except.bind]
          | none =>
              cases count with
              | zero => simp [readItems, Stand.step, placeAfter, bind, Except.bind]
              | succ count =>
                  have hnext := ih (count + 1) (some position) opened
                    (show rest.length < fuel by omega)
                  simpa [readItems, Stand.step, placeAfter, bind, Except.bind] using hnext
      | ⟨.term t negated, position⟩ :: rest =>
          simp only [List.length_cons] at hfuel
          have hnext := ih (count + 1) none opened (show rest.length < fuel by omega)
          rw [Stand.check_cons]
          simp only [readItems, Stand.step, bind_assoc]
          refine hnext.trans (bind_congr fun items => ?_)
          cases negated <;> rfl
      | ⟨.opening, position⟩ :: inside =>
          simp only [List.length_cons] at hfuel
          have hinside := ih 0 none (position :: opened) (show inside.length < fuel by omega)
          rw [Stand.check_cons]
          simp only [readItems, Stand.step, bind_assoc]
          refine hinside.trans ?_
          cases hgroup : readItems fuel 0 none inside with
          | error e => rfl
          | ok group =>
              have hreading := reading_of_readItems (by omega) hgroup
              have hends := hreading.rest_ends
              have hlength := hreading.length_rest_le
              obtain ⟨nodes, excluded, counted, left⟩ := group
              cases left with
              | nil =>
                  -- The group is not closed, and an empty one is refused for that first.
                  cases counted <;> rfl
              | cons closer rest =>
                  obtain ⟨kind, stop⟩ := closer
                  obtain rfl : kind = .closing := Ends.cons_iff.mp hends
                  cases counted with
                  | zero => rfl
                  | succ counted =>
                      simp only [List.length_cons] at hlength
                      have hnext := ih (count + 1) none opened (show rest.length < fuel by omega)
                      refine hnext.trans ?_
                      simp only [bind, Except.bind, Nat.succ_ne_zero, if_false]
                      cases readItems fuel (count + 1) none rest <;> rfl

/-- Tokens make a query unless the reader with a stack fails, and then they fail alike. -/
theorem ofTokens_eq_check (tokens : List Token) :
    (ofTokens tokens).map (fun _ => ()) = Stand.init.check tokens := by
  have hcheck := check_eq_readItems 0 none [] (Nat.lt_succ_self tokens.length)
  rw [show Stand.init = ⟨[], placeAfter 0 none⟩ from rfl, hcheck, ofTokens]
  cases hitems : readItems (tokens.length + 1) 0 none tokens with
  | error e => rfl
  | ok items =>
      have hends := (reading_of_readItems (Nat.lt_succ_self _) hitems).rest_ends
      obtain ⟨nodes, excluded, count, left⟩ := items
      cases left with
      | nil => cases count <;> rfl
      | cons closer rest =>
          obtain ⟨kind, stop⟩ := closer
          obtain rfl : kind = .closing := Ends.cons_iff.mp hends
          cases count <;> rfl

/-! ### Completion -/

/-- The tokens can be completed to a sequence. -/
def Completable (read : List Token) : Prop :=
  ∃ more, Derives .sequence (read ++ more)

/-- All parentheses that are open are closed, wherever that is. -/
def closings (opened : List Nat) : List Token :=
  opened.map fun _ => ⟨.closing, 0⟩

theorem Stand.check_closings (opened : List Nat) :
    Stand.check ⟨opened, .item⟩ (closings opened) = .ok () := by
  induction opened with
  | nil => rfl
  | cons position opened ih => exact ih

theorem derives_iff_check {tokens : List Token} (hne : tokens ≠ []) :
    Derives .sequence tokens ↔ Stand.init.check tokens = .ok () := by
  rw [← ofTokens_iff_derives hne, ← ofTokens_eq_check]
  cases ofTokens tokens <;> simp [Except.map]

/-- Where the reader comes to, it can go on with a term and close what is open. -/
theorem completable_iff_run {read : List Token} :
    Completable read ↔ ∃ s, Stand.init.run read = .ok s := by
  constructor
  · rintro ⟨more, hderives⟩
    have hcheck := (derives_iff_check hderives.ne_nil).mp hderives
    obtain ⟨all, hall, -⟩ := bind_ok hcheck
    rw [Stand.run_append] at hall
    obtain ⟨s, hs, -⟩ := bind_ok hall
    exact ⟨s, hs⟩
  · rintro ⟨s, hs⟩
    refine ⟨⟨.term ⟨"", false⟩ false, 0⟩ :: closings s.opened,
      (derives_iff_check (by simp)).mpr ?_⟩
    rw [Stand.check, Stand.run_append, hs]
    exact Stand.check_closings s.opened

end VacancyLedger.Query
