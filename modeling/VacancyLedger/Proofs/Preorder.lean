/-
Walking trees in pre-order.

Where a node stands in a tree is told by the numbers of the children one goes down through.  A
place comes before those inside it and before those that branch off to the right of it.  A list
is the walk over the wanted nodes if it is what stands at their places, taken in this order
and each once.

The walk over a list of trees is the walk over the first with that over the others after it,
and the walk over one tree is that over its children, with its own node in front if it is
wanted.  So what recurses through a tree is seen to walk it by one case for each kind of node.
-/
import VacancyLedger.Table

namespace VacancyLedger

/-- Where a node stands in a tree: the numbers of the children to go down through. -/
abbrev Place := List Nat

namespace Place

/-- The order in which a tree is walked: a node before all that is inside it, and what is inside
one child before what is inside a later one. -/
inductive Before : Place → Place → Prop
  | inside {i : Nat} {place : Place} : Before [] (i :: place)
  | left {i j : Nat} {p q : Place} (h : i < j) : Before (i :: p) (j :: q)
  | deeper {i : Nat} {p q : Place} (h : Before p q) : Before (i :: p) (i :: q)

theorem Before.ne {p q : Place} (h : Before p q) : p ≠ q := by
  induction h with
  | inside => exact (List.cons_ne_nil _ _).symm
  | left hlt =>
      intro heq
      exact Nat.ne_of_lt hlt (List.cons.inj heq).1
  | deeper _ ih =>
      intro heq
      exact ih (List.cons.inj heq).2

/-- The same place one child further to the right. -/
def next : Place → Place
  | [] => []
  | i :: place => (i + 1) :: place

theorem Before.next {p q : Place} (h : Before p q) : Before p.next q.next := by
  cases h with
  | inside => exact .inside
  | left hlt => exact .left (Nat.succ_lt_succ hlt)
  | deeper hdeeper => exact .deeper hdeeper

end Place

section

variable {α : Type} {children : α → List α}

/-- The node at a place in a tree. -/
def nodeAt? (children : α → List α) : α → Place → Option α
  | node, [] => some node
  | node, i :: place => (children node)[i]?.bind (nodeAt? children · place)

/-- The node at a place in one of several trees, the first number being that of the tree. -/
def below? (children : α → List α) (trees : List α) : Place → Option α
  | [] => none
  | i :: place => trees[i]?.bind (nodeAt? children · place)

/-- Whether a list is the walk over the wanted ones of the nodes that stand anywhere. -/
def Walks (at? : Place → Option α) (P : α → Prop) (found : List α) : Prop :=
  ∃ places : List Place, places.map at? = found.map some ∧
    places.Pairwise Place.Before ∧ places.Nodup ∧
    ∀ place, place ∈ places ↔ ∃ node, at? place = some node ∧ P node

variable {at? : Place → Option α} {P : α → Prop} {found inner first rest : List α}
  {node tree : α} {trees : List α}

/-- No place comes twice where places stand in order. -/
theorem Walks.of_ordered (places : List Place) (hfound : places.map at? = found.map some)
    (hordered : places.Pairwise Place.Before)
    (hmem : ∀ place, place ∈ places ↔ ∃ node, at? place = some node ∧ P node) :
    Walks at? P found :=
  ⟨places, hfound, hordered, hordered.imp Place.Before.ne, hmem⟩

theorem Walks.mem_iff (h : Walks at? P found) :
    node ∈ found ↔ P node ∧ ∃ place, at? place = some node := by
  obtain ⟨places, hfound, -, -, hmem⟩ := h
  have hnode : node ∈ found ↔ some node ∈ places.map at? := by rw [hfound]; simp
  rw [hnode, List.mem_map]
  constructor
  · rintro ⟨place, hplace, hat⟩
    obtain ⟨other, hother, hwanted⟩ := (hmem place).mp hplace
    obtain rfl := Option.some.inj (hother.symm.trans hat)
    exact ⟨hwanted, place, hat⟩
  · rintro ⟨hwanted, place, hat⟩
    exact ⟨place, (hmem place).mpr ⟨node, hat, hwanted⟩, hat⟩

theorem walks_nil : Walks (below? children []) P [] := by
  refine .of_ordered [] rfl .nil fun place => iff_of_false List.not_mem_nil ?_
  rintro ⟨node, hnode, -⟩
  cases place with
  | nil => cases hnode
  | cons i place => simp [below?] at hnode

/-- Places in the first of several trees, and places in the others. -/
theorem Walks.cons (hfirst : Walks (nodeAt? children tree) P first)
    (hrest : Walks (below? children trees) P rest) :
    Walks (below? children (tree :: trees)) P (first ++ rest) := by
  obtain ⟨ps, hps, hpsordered, -, hpsmem⟩ := hfirst
  obtain ⟨qs, hqs, hqsordered, -, hqsmem⟩ := hrest
  have hbranch : ∀ q ∈ qs, ∃ i place, q = i :: place := by
    intro q hq
    obtain ⟨node, hnode, -⟩ := (hqsmem q).mp hq
    cases q with
    | nil => cases hnode
    | cons i place => exact ⟨i, place, rfl⟩
  refine .of_ordered (ps.map (0 :: ·) ++ qs.map Place.next) ?_ ?_ ?_
  · rw [List.map_append, List.map_append, List.map_map, List.map_map, ← hps, ← hqs]
    congr 1
    refine List.map_congr_left fun q hq => ?_
    obtain ⟨i, place, rfl⟩ := hbranch q hq
    rfl
  · refine List.pairwise_append.mpr ⟨?_, ?_, ?_⟩
    · exact List.pairwise_map.mpr (hpsordered.imp .deeper)
    · exact List.pairwise_map.mpr (hqsordered.imp .next)
    · intro p hp q hq
      obtain ⟨place, -, rfl⟩ := List.mem_map.mp hp
      obtain ⟨r, hr, rfl⟩ := List.mem_map.mp hq
      obtain ⟨i, inside, rfl⟩ := hbranch r hr
      exact .left (Nat.succ_pos i)
  · have hnext : ∀ {p : Place}, p ∈ qs.map Place.next ↔ ∃ i q, i :: q ∈ qs ∧ (i + 1) :: q = p := by
      intro p
      constructor
      · intro hp
        obtain ⟨r, hr, rfl⟩ := List.mem_map.mp hp
        obtain ⟨i, q, rfl⟩ := hbranch r hr
        exact ⟨i, q, hr, rfl⟩
      · rintro ⟨i, q, hq, rfl⟩
        exact List.mem_map.mpr ⟨i :: q, hq, rfl⟩
    intro place
    rw [List.mem_append, hnext]
    rcases place with - | ⟨i | i, place⟩
    · exact iff_of_false (by simp) (by rintro ⟨node, hnode, -⟩; cases hnode)
    · simpa [below?] using hpsmem place
    · have hlater : (∃ j q, j :: q ∈ qs ∧ (j + 1) :: q = (i + 1) :: place) ↔ i :: place ∈ qs := by
        constructor
        · rintro ⟨j, q, hq, heq⟩
          cases heq
          exact hq
        · exact fun h => ⟨i, place, h, rfl⟩
      rw [hlater]
      simpa [below?] using hqsmem (i :: place)

/-- The places inside a node are those of its children. -/
theorem Walks.places (h : Walks (below? children (children node)) P inner) :
    ∃ places : List Place, places.map (nodeAt? children node) = inner.map some ∧
      places.Pairwise Place.Before ∧ [] ∉ places ∧
      ∀ i place, i :: place ∈ places ↔
        ∃ other, nodeAt? children node (i :: place) = some other ∧ P other := by
  obtain ⟨places, hfound, hordered, -, hmem⟩ := h
  have hroot : [] ∉ places := by
    intro hin
    obtain ⟨other, hother, -⟩ := (hmem []).mp hin
    cases hother
  refine ⟨places, ?_, hordered, hroot, fun i place => hmem (i :: place)⟩
  rw [← hfound]
  refine List.map_congr_left fun p hp => ?_
  cases p with
  | nil => exact absurd hp hroot
  | cons i place => rfl

/-- A node that is not wanted adds nothing to the walk over its children. -/
theorem Walks.unwanted (h : Walks (below? children (children node)) P inner) (hnode : ¬P node) :
    Walks (nodeAt? children node) P inner := by
  obtain ⟨places, hfound, hordered, hroot, hmem⟩ := h.places
  refine .of_ordered places hfound hordered fun place => ?_
  cases place with
  | nil =>
      refine iff_of_false hroot ?_
      rintro ⟨other, hother, hwanted⟩
      cases hother
      exact hnode hwanted
  | cons i place => exact hmem i place

/-- A node that is wanted comes before its children. -/
theorem Walks.wanted (h : Walks (below? children (children node)) P inner) (hnode : P node) :
    Walks (nodeAt? children node) P (node :: inner) := by
  obtain ⟨places, hfound, hordered, hroot, hmem⟩ := h.places
  refine .of_ordered ([] :: places) ?_ ?_ fun place => ?_
  · exact congrArg (some node :: ·) hfound
  · refine List.pairwise_cons.mpr ⟨fun p hp => ?_, hordered⟩
    cases p with
    | nil => exact absurd hp hroot
    | cons i place => exact .inside
  · cases place with
    | nil => exact iff_of_true List.mem_cons_self ⟨node, rfl, hnode⟩
    | cons i place => simpa using hmem i place

end
end VacancyLedger
