/-
What a query asks for, whatever its shape.

Every item of a sequence is an alternative, and so is every item of a group in it: a text is
found by a tree exactly if it is found by one of its leaves.  Reading loses no term.  The
leaves are the terms of the tokens in their order, and the excluded terms are the negated
ones in theirs, however deep they stand; a group that leaves no node has no leaves to lose.
So nesting, "or" and adjacency make no difference to what is found.
-/
import VacancyLedger.Proofs.Query.Grammar
import VacancyLedger.Query.Match

namespace VacancyLedger.Query

/-- The term a token asks for. -/
def Token.wanted? : Token → Option Term
  | ⟨.term t false, _⟩ => some t
  | _ => none

/-- The term a token excludes. -/
def Token.unwanted? : Token → Option Term
  | ⟨.term t true, _⟩ => some t
  | _ => none

mutual

/-- The terms of a tree, from left to right. -/
def Tree.leaves : Tree → List Term
  | .term t => [t]
  | .anyOf alternatives => leavesOf alternatives

/-- The terms of several trees, from left to right. -/
def leavesOf : List Tree → List Term
  | [] => []
  | tree :: trees => tree.leaves ++ leavesOf trees

end

mutual

/-- Every node of the tree has alternatives. -/
def Tree.IsFilled : Tree → Prop
  | .term _ => True
  | .anyOf alternatives => alternatives ≠ [] ∧ AllFilled alternatives

/-- Every node of the trees has alternatives. -/
def AllFilled : List Tree → Prop
  | [] => True
  | tree :: trees => tree.IsFilled ∧ AllFilled trees

end

/-- The terms a query asks for, from left to right. -/
def leaves (q : Query) : List Term :=
  (q.included.map Tree.leaves).getD []

/-! ### Trees -/

theorem leavesOf_append (left right : List Tree) :
    leavesOf (left ++ right) = leavesOf left ++ leavesOf right := by
  induction left with
  | nil => rfl
  | cons tree trees ih => simp [leavesOf, ih]

theorem allFilled_append {left right : List Tree} :
    AllFilled (left ++ right) ↔ AllFilled left ∧ AllFilled right := by
  induction left with
  | nil => simp [AllFilled]
  | cons tree trees ih => simp [AllFilled, ih, and_assoc]

mutual

/-- A tree finds what one of its leaves finds. -/
theorem Tree.foundIn_eq (haystack : String) (tree : Tree) :
    tree.foundIn haystack = tree.leaves.any (·.foundIn haystack) := by
  cases tree with
  | term t => simp [Tree.foundIn, Tree.leaves]
  | anyOf alternatives =>
      rw [Tree.foundIn, Tree.leaves, anyFoundIn_eq haystack alternatives]

theorem anyFoundIn_eq (haystack : String) (trees : List Tree) :
    anyFoundIn haystack trees = (leavesOf trees).any (·.foundIn haystack) := by
  cases trees with
  | nil => rfl
  | cons tree trees =>
      rw [anyFoundIn, leavesOf, List.any_append, Tree.foundIn_eq haystack tree,
        anyFoundIn_eq haystack trees]

end

mutual

theorem Tree.leaves_ne_nil {tree : Tree} (h : tree.IsFilled) : tree.leaves ≠ [] := by
  match tree with
  | .term t => exact List.cons_ne_nil _ _
  | .anyOf alternatives => exact leavesOf_ne_nil h.2 h.1

theorem leavesOf_ne_nil {trees : List Tree} (h : AllFilled trees) (hne : trees ≠ []) :
    leavesOf trees ≠ [] := by
  match trees with
  | tree :: trees =>
      rw [leavesOf]
      exact List.append_ne_nil_of_left_ne_nil (Tree.leaves_ne_nil h.1) _

end

/-! ### What reading keeps -/

theorem leavesOf_node? (items : Items) : leavesOf items.node?.toList = leavesOf items.nodes := by
  unfold Items.node?
  cases h : items.nodes with
  | nil => rfl
  | cons tree trees => simp [leavesOf, Tree.leaves]

theorem allFilled_node? {items : Items} (h : AllFilled items.nodes) :
    AllFilled items.node?.toList := by
  unfold Items.node?
  split
  · trivial
  · rename_i hne
    exact ⟨⟨by simpa using hne, h⟩, trivial⟩

/-- No term is lost and none is read twice: the terms of the items and of what is left are those of
the tokens. -/
theorem Reading.leaves {count : Nat} {pending : Option Nat} {tokens : List Token} {items : Items}
    (h : Reading count pending tokens items) :
    leavesOf items.nodes ++ items.rest.filterMap Token.wanted? =
      tokens.filterMap Token.wanted? := by
  induction h with
  | stop _ => simp [leavesOf]
  | or _ _ ih => simpa [List.filterMap_cons, Token.wanted?] using ih
  | wanted _ ih => simp [Items.cons, leavesOf, Tree.leaves, Token.wanted?, ← ih]
  | unwanted _ ih => simpa [Items.cons, List.filterMap_cons, Token.wanted?] using ih
  | group _ _ hrest _ ihGroup ih =>
      rw [hrest] at ihGroup
      simp only [Items.cons, leavesOf_append, leavesOf_node?, List.append_assoc, ih]
      simpa [List.filterMap_cons, Token.wanted?] using ihGroup

theorem Reading.excluded {count : Nat} {pending : Option Nat} {tokens : List Token} {items : Items}
    (h : Reading count pending tokens items) :
    items.excluded ++ items.rest.filterMap Token.unwanted? = tokens.filterMap Token.unwanted? := by
  induction h with
  | stop _ => simp
  | or _ _ ih => simpa [List.filterMap_cons, Token.unwanted?] using ih
  | wanted _ ih => simpa [Items.cons, List.filterMap_cons, Token.unwanted?] using ih
  | unwanted _ ih => simp [Items.cons, Token.unwanted?, ← ih]
  | group _ _ hrest _ ihGroup ih =>
      rw [hrest] at ihGroup
      simp only [Items.cons, List.append_assoc, ih]
      simpa [List.filterMap_cons, Token.unwanted?] using ihGroup

theorem Reading.filled {count : Nat} {pending : Option Nat} {tokens : List Token} {items : Items}
    (h : Reading count pending tokens items) : AllFilled items.nodes := by
  induction h with
  | stop _ => trivial
  | or _ _ ih => exact ih
  | wanted _ ih => exact ⟨trivial, ih⟩
  | unwanted _ ih => exact ih
  | group _ _ _ _ ihGroup ih => exact allFilled_append.mpr ⟨allFilled_node? ihGroup, ih⟩

/-- A sequence has a term. -/
theorem Derives.exists_term {symbol : Symbol} {tokens : List Token} (h : Derives symbol tokens) :
    ∃ token ∈ tokens, (token.wanted?.isSome || token.unwanted?.isSome) = true := by
  induction h with
  | term t negated position => cases negated <;> simp [Token.wanted?, Token.unwanted?]
  | group _ _ _ ih =>
      obtain ⟨token, htoken, hterm⟩ := ih
      exact ⟨token, by simp [htoken], hterm⟩
  | single _ ih => exact ih
  | adjacent _ _ ih _ | or _ _ _ _ ih _ =>
      obtain ⟨token, htoken, hterm⟩ := ih
      exact ⟨token, by simp [htoken], hterm⟩

/-- The query that tokens make: it is as filled as they are, and its terms are theirs. -/
theorem ofTokens_ok {tokens : List Token} {q : Query} (h : ofTokens tokens = .ok q) :
    q.leaves = tokens.filterMap Token.wanted? ∧ q.excluded = tokens.filterMap Token.unwanted? ∧
      ∀ tree ∈ q.included, tree.IsFilled := by
  obtain ⟨items, hreading, hrest, rfl⟩ := ofTokens_ok_iff.mp h
  have hleaves := hreading.leaves
  have hexcluded := hreading.excluded
  have hfilled := allFilled_node? hreading.filled
  rw [hrest, List.filterMap_nil, List.append_nil] at hleaves hexcluded
  refine ⟨?_, hexcluded, ?_⟩
  · rw [← hleaves, ← leavesOf_node?]
    cases hnode : items.node? with
    | none => rfl
    | some tree => simp [Query.leaves, leavesOf]
  · intro tree htree
    have hnode : items.node? = some tree := htree
    rw [hnode] at hfilled
    exact hfilled.1

/-! ### What a query finds -/

theorem Term.foundIn_iff {t : Term} {haystack : String} :
    t.foundIn haystack = true ↔ t.needle.toList <:+: haystack.toList :=
  Text.occursIn_iff

/-- A text is found if it holds no excluded term and, where something is asked for, something that
is. -/
theorem finds_iff (q : Query) (haystack : String) :
    q.finds haystack = true ↔
      (∀ t ∈ q.excluded, ¬t.needle.toList <:+: haystack.toList) ∧
        (q.included = none ∨ ∃ t ∈ q.leaves, t.needle.toList <:+: haystack.toList) := by
  have hexcluded : (!q.excluded.any (·.foundIn haystack)) = true ↔
      ∀ t ∈ q.excluded, ¬t.needle.toList <:+: haystack.toList := by
    simp [← Term.foundIn_iff]
  rw [finds, Bool.and_eq_true, hexcluded]
  cases hincluded : q.included with
  | none => simp
  | some tree => simp [leaves, hincluded, Tree.foundIn_eq, ← Term.foundIn_iff]

/-- A query that is empty finds everything, as it would if it were looked at. -/
theorem accepts_eq_finds (q : Query) (title description : String) :
    q.accepts title description = q.finds (searchable title description) := by
  rw [accepts]
  cases hempty : q.isEmpty with
  | false => rfl
  | true =>
      simp only [isEmpty, Bool.and_eq_true, Option.isNone_iff_eq_none, List.isEmpty_iff] at hempty
      simp [finds, hempty]

/-- Nothing is asked for exactly if there is nothing to ask for. -/
theorem included_eq_none_iff {q : Query} (h : ∀ tree ∈ q.included, tree.IsFilled) :
    q.included = none ↔ q.leaves = [] := by
  cases hincluded : q.included with
  | none => simp [leaves, hincluded]
  | some tree => simpa [leaves, hincluded] using Tree.leaves_ne_nil (h tree hincluded)

/-- A query that can be read is made of its tokens, also if it is blank and has none. -/
theorem parse_ok {query : String} {q : Query} (h : parse query = .ok q) :
    ∃ tokens, tokenize query = .ok tokens ∧ ofTokens tokens = .ok q := by
  cases hblank : Text.isAllBlank query with
  | false =>
      rw [parse_of_not_blank hblank] at h
      exact bind_ok h
  | true =>
      refine ⟨[], tokenize_of_blank hblank, ?_⟩
      rw [parse, if_pos hblank] at h
      exact h

/-- A query is empty exactly if it has no tokens: each sequence has a term. -/
theorem isEmpty_iff {tokens : List Token} {q : Query} (h : ofTokens tokens = .ok q) :
    q.isEmpty = true ↔ tokens = [] := by
  obtain ⟨hleaves, hexcluded, hfilled⟩ := ofTokens_ok h
  have hempty : q.isEmpty = true ↔ q.leaves = [] ∧ q.excluded = [] := by
    rw [isEmpty, Bool.and_eq_true, Option.isNone_iff_eq_none, included_eq_none_iff hfilled,
      List.isEmpty_iff]
  rw [hempty, hleaves, hexcluded]
  constructor
  · rintro ⟨hwanted, hunwanted⟩
    by_contra hne
    obtain ⟨token, htoken, hterm⟩ := ((ofTokens_iff_derives hne).mp ⟨q, h⟩).exists_term
    rw [List.filterMap_eq_nil_iff] at hwanted hunwanted
    simp [hwanted token htoken, hunwanted token htoken] at hterm
  · rintro rfl
    exact ⟨rfl, rfl⟩

/-- **Only the terms of a query matter, not its shape.**  A posting is found exactly if its text
holds none of the excluded terms and, where there are others, one of those.  No term is lost or
read twice, no node of the tree is without alternatives, and the query is empty exactly if there
was none or it was blank. -/
theorem accepts_iff_terms {query : Option String} {q : Query}
    (h : parse (query.getD "") = .ok q) :
    ∃ tokens, tokenize (query.getD "") = .ok tokens ∧
      (∀ title description, q.accepts title description = true ↔
        (∀ t ∈ tokens.filterMap Token.unwanted?,
          ¬t.needle.toList <:+: (searchable title description).toList) ∧
        (tokens.filterMap Token.wanted? = [] ∨ ∃ t ∈ tokens.filterMap Token.wanted?,
          t.needle.toList <:+: (searchable title description).toList)) ∧
      q.leaves = tokens.filterMap Token.wanted? ∧
      q.excluded = tokens.filterMap Token.unwanted? ∧
      (∀ tree ∈ q.included, tree.IsFilled) ∧
      (q.isEmpty = true ↔ query = none ∨ ∃ s, query = some s ∧ Text.isAllBlank s = true) := by
  obtain ⟨tokens, htokens, hq⟩ := parse_ok h
  obtain ⟨hleaves, hexcluded, hfilled⟩ := ofTokens_ok hq
  refine ⟨tokens, htokens, ?_, hleaves, hexcluded, hfilled, ?_⟩
  · intro title description
    rw [accepts_eq_finds, finds_iff, included_eq_none_iff hfilled, hleaves, hexcluded]
  · rw [isEmpty_iff hq, tokens_eq_nil_iff htokens]
    cases query with
    | none => simp [Text.isAllBlank]
    | some s => simp

/-- The groups are nested two deep, and the inner one loses its second item: its terms are the
tokens' terms all the same. -/
theorem terms_of_nested_groups :
    let q : Query := ⟨some (.anyOf [.anyOf [.term ⟨"senior", false⟩,
      .anyOf [.term ⟨"rust", false⟩]]]), [⟨"sql", false⟩, ⟨"intern", false⟩]⟩
    parse "(senior OR (rust -sql)) -intern" = .ok q ∧
      ∃ tokens, tokenize "(senior OR (rust -sql)) -intern" = .ok tokens ∧
        q.leaves = tokens.filterMap Token.wanted? ∧
        q.excluded = tokens.filterMap Token.unwanted? := by
  intro q
  have h : parse "(senior OR (rust -sql)) -intern" = .ok q := rfl
  have hquery : parse ((some "(senior OR (rust -sql)) -intern").getD "") = .ok q := h
  obtain ⟨tokens, htokens, -, hleaves, hexcluded, -⟩ := accepts_iff_terms hquery
  exact ⟨h, tokens, htokens, hleaves, hexcluded⟩

end VacancyLedger.Query
