/-
The grammar of queries, and that exactly its sequences are read.

    sequence := item ( [OR] item )*
    item     := term | "(" sequence ")"

`Derives` is this grammar over tokens.  What a reading has passed over is, depending on
what came before it, nothing, a sequence, or an "or" and a sequence (`Continues`); and a
reading that may go on after a derived sequence may start before it (`Extends`).  Both are
inductions along one of the two relations, and together they say that tokens make a query
exactly if they are a sequence.
-/
import VacancyLedger.Proofs.Query.Reading
import VacancyLedger.Proofs.Query.Scanning

namespace VacancyLedger.Query

open Relation (ReflTransGen)

/-- What a run of tokens can be derived as. -/
inductive Symbol where
  | item
  | sequence

/-- The grammar: an item is a term or a sequence in parentheses, and a sequence is made of items
between any two of which an "or" may stand. -/
inductive Derives : Symbol → List Token → Prop
  | term (t : Term) (negated : Bool) (position : Nat) : Derives .item [⟨.term t negated, position⟩]
  | group {inside : List Token} (start stop : Nat) (h : Derives .sequence inside) :
      Derives .item (⟨.opening, start⟩ :: (inside ++ [⟨.closing, stop⟩]))
  | single {item : List Token} (h : Derives .item item) : Derives .sequence item
  | adjacent {item rest : List Token} (h : Derives .item item) (hrest : Derives .sequence rest) :
      Derives .sequence (item ++ rest)
  | or {item rest : List Token} (word : String) (position : Nat) (h : Derives .item item)
      (hrest : Derives .sequence rest) : Derives .sequence (item ++ ⟨.or word, position⟩ :: rest)

/-! ### What is read is a sequence -/

/-- What can be read after `count` items and perhaps an "or" that waits for its second item. -/
def Continues (count : Nat) (pending : Option Nat) (read : List Token) : Prop :=
  read = [] ∧ pending = none ∨ Derives .sequence read ∨
    pending = none ∧ count ≠ 0 ∧
      ∃ word position rest, read = ⟨.or word, position⟩ :: rest ∧ Derives .sequence rest

/-- An item can stand before whatever can follow it. -/
theorem Continues.cons {count : Nat} {pending : Option Nat} {item rest : List Token}
    (hitem : Derives .item item) (h : Continues (count + 1) none rest) :
    Continues count pending (item ++ rest) := by
  rcases h with ⟨rfl, -⟩ | hrest | ⟨-, -, word, position, after, rfl, hafter⟩
  · rw [List.append_nil]
    exact .inr (.inl (.single hitem))
  · exact .inr (.inl (.adjacent hitem hrest))
  · exact .inr (.inl (.or word position hitem hafter))

/-- Items were counted if there were any. -/
theorem Continues.sequence {read : List Token} (h : Continues 0 none read) (hread : read ≠ []) :
    Derives .sequence read := by
  rcases h with ⟨rfl, -⟩ | hread | ⟨-, hcount, -⟩
  · exact absurd rfl hread
  · exact hread
  · exact absurd rfl hcount

theorem Reading.continues {count : Nat} {pending : Option Nat} {tokens : List Token} {items : Items}
    (h : Reading count pending tokens items) :
    ∃ read, tokens = read ++ items.rest ∧ Continues count pending read ∧
      (read = [] → items.count = count) := by
  induction h with
  | stop h => exact ⟨[], rfl, .inl ⟨rfl, rfl⟩, fun _ => rfl⟩
  | @or count position word rest items hcount h ih =>
      obtain ⟨read, htokens, hread, -⟩ := ih
      refine ⟨⟨.or word, position⟩ :: read, by rw [htokens]; rfl, ?_, fun h => by cases h⟩
      rcases hread with ⟨-, hpending⟩ | hread | ⟨hpending, -⟩
      · cases hpending
      · exact .inr (.inr ⟨rfl, hcount, word, position, read, rfl, hread⟩)
      · cases hpending
  | wanted _ ih | unwanted _ ih =>
      obtain ⟨read, htokens, hread, -⟩ := ih
      exact ⟨_ :: read, by rw [htokens]; rfl, .cons (.term _ _ _) hread, fun h => by cases h⟩
  | @group count position stop pending inside rest group items hgroup hcount hrest h ihGroup ih =>
      obtain ⟨within, hinside, hwithin, hempty⟩ := ihGroup
      obtain ⟨read, htokens, hread, -⟩ := ih
      have hsequence : Derives .sequence within := hwithin.sequence fun h => hcount (hempty h)
      refine ⟨(⟨.opening, position⟩ :: (within ++ [⟨.closing, stop⟩])) ++ read, ?_,
        .cons (.group _ _ hsequence) hread, fun h => by cases h⟩
      rw [hinside, hrest, htokens]
      simp [Items.cons]

/-! ### Every sequence is read -/

/-- Where reading can go on after the tokens, it can start before them. -/
def Extends : Symbol → List Token → Prop
  | .item, tokens => ∀ (count : Nat) (pending : Option Nat) {rest : List Token} {items : Items},
      Reading (count + 1) none rest items →
        ∃ all, Reading count pending (tokens ++ rest) all ∧ all.rest = items.rest ∧
          all.count = items.count
  | .sequence, tokens => ∀ (count : Nat) (pending : Option Nat) {rest : List Token}, Ends rest →
      ∃ all, Reading count pending (tokens ++ rest) all ∧ all.rest = rest ∧ all.count ≠ 0

/-- An item goes before the rest of its sequence. -/
theorem Extends.before {item after rest : List Token} {count : Nat} (pending : Option Nat)
    {items : Items} (h : Extends .item item)
    (hitems : Reading (count + 1) none (after ++ rest) items)
    (hrest : items.rest = rest) :
    ∃ all, Reading count pending (item ++ after ++ rest) all ∧ all.rest = rest ∧ all.count ≠ 0 := by
  obtain ⟨all, hall, hallRest, hallCount⟩ := h count pending hitems
  have hcount := hitems.count_le
  refine ⟨all, ?_, hallRest.trans hrest, by omega⟩
  rwa [List.append_assoc]

theorem Derives.extends {symbol : Symbol} {tokens : List Token} (h : Derives symbol tokens) :
    Extends symbol tokens := by
  induction h with
  | term t negated position =>
      intro count pending rest items hitems
      cases negated with
      | false => exact ⟨_, .wanted hitems, rfl, rfl⟩
      | true => exact ⟨_, .unwanted hitems, rfl, rfl⟩
  | @group inside start stop _ ih =>
      intro count pending rest items hitems
      obtain ⟨group, hgroup, hrest, hcount⟩ := ih 0 none (ends_closing stop rest)
      refine ⟨items.cons group.node? group.excluded, ?_, rfl, rfl⟩
      rw [List.cons_append, List.append_assoc]
      exact .group hgroup hcount hrest hitems
  | @single item _ ih =>
      intro count pending rest hends
      have hstop : Reading (count + 1) none ([] ++ rest) _ := .stop hends
      simpa using Extends.before pending ih hstop rfl
  | adjacent _ _ ih ihRest =>
      intro count pending rest hends
      obtain ⟨items, hitems, hrest, -⟩ := ihRest (count + 1) none hends
      exact Extends.before pending ih hitems hrest
  | @or item after word position _ _ ih ihRest =>
      intro count pending rest hends
      obtain ⟨items, hitems, hrest, -⟩ := ihRest (count + 1) (some position) hends
      exact Extends.before pending ih (.or (Nat.succ_ne_zero count) hitems) hrest

/-! ### Accepted tokens -/

/-- There are no tokens in nothing that is derived. -/
theorem Derives.ne_nil {symbol : Symbol} {tokens : List Token} (h : Derives symbol tokens) :
    tokens ≠ [] := by
  induction h with
  | term _ _ _ | group _ _ _ _ => exact List.cons_ne_nil _ _
  | single _ ih => exact ih
  | adjacent _ _ ih _ | or _ _ _ _ ih _ => simp [ih]

theorem ofTokens_iff_derives {tokens : List Token} (htokens : tokens ≠ []) :
    (∃ q, ofTokens tokens = .ok q) ↔ Derives .sequence tokens := by
  constructor
  · rintro ⟨q, hq⟩
    obtain ⟨items, hreading, hrest, -⟩ := ofTokens_ok_iff.mp hq
    obtain ⟨read, hread, hcontinues, -⟩ := hreading.continues
    rw [hrest, List.append_nil] at hread
    subst hread
    exact hcontinues.sequence htokens
  · intro h
    obtain ⟨items, hreading, hrest, -⟩ := h.extends 0 none ends_nil
    rw [List.append_nil] at hreading
    exact ⟨_, ofTokens_ok_iff.mpr ⟨items, hreading, hrest, rfl⟩⟩

/-- What a query that is not blank is made of, if it can be read. -/
theorem parse_of_not_blank {query : String} (h : Text.isAllBlank query = false) :
    parse query = tokenize query >>= ofTokens := by
  simp [parse, h]

/-- **A query is read exactly if its tokens are a sequence of the grammar.**  Any other one is
refused with an error.  Its tokens themselves cannot be read exactly if scanning it comes to a
hyphen that stands alone, to a quote that is never closed or to a phrase of blanks. -/
theorem parse_ok_iff_derives {query : String} (h : Text.isAllBlank query = false) :
    ((∃ q, parse query = .ok q) ↔
      ∃ tokens, tokenize query = .ok tokens ∧ Derives .sequence tokens) ∧
    ((∃ e, parse query = .error e) ↔
      ¬∃ tokens, tokenize query = .ok tokens ∧ Derives .sequence tokens) ∧
    ((∃ e, tokenize query = .error e) ↔
      ∃ rest, ReflTransGen Passes query.toList rest ∧ IsStuck rest) := by
  have haccepts : (∃ q, parse query = .ok q) ↔
      ∃ tokens, tokenize query = .ok tokens ∧ Derives .sequence tokens := by
    rw [parse_of_not_blank h]
    constructor
    · rintro ⟨q, hq⟩
      obtain ⟨tokens, htokens, hread⟩ := bind_ok hq
      have hne : tokens ≠ [] := by simp [tokens_eq_nil_iff htokens, h]
      exact ⟨tokens, htokens, (ofTokens_iff_derives hne).mp ⟨q, hread⟩⟩
    · rintro ⟨tokens, htokens, hderives⟩
      rw [htokens]
      exact (ofTokens_iff_derives hderives.ne_nil).mpr hderives
  refine ⟨haccepts, ?_, tokenize_error_iff⟩
  rw [← haccepts]
  cases parse query <;> simp

/-- A query of nested groups, one of which ends with an excluding term, is a sequence. -/
theorem derives_nested_groups :
    Text.isAllBlank "(senior OR (rust -sql)) -intern" = false ∧
      ∃ tokens, tokenize "(senior OR (rust -sql)) -intern" = .ok tokens ∧
        Derives .sequence tokens := by
  have hblank : Text.isAllBlank "(senior OR (rust -sql)) -intern" = false := rfl
  exact ⟨hblank, (parse_ok_iff_derives hblank).1.mp ⟨_, rfl⟩⟩

end VacancyLedger.Query
