/-
Trees in which all that was read is settled.

While the tokens of a cleaned tree are read, and as long as no void element gets content,
all that was read before the current run of text is settled: no element is open whose start
tag could still be closed, and no end tag could still be passed over.  In that state each
token has a simple effect.  A letter goes to the run of text; a start tag makes a node of
the run and opens an element, or adds one without content; an end tag makes a node of the
innermost element.
-/
import VacancyLedger.Proofs.Markup.Rebuilding

namespace VacancyLedger.Markup

variable {b : Builder} {nodes : List Node} {name : String}
  {attributes : List (String × String)} {run : List Char}

/-- Whether a run of text is kept as it is. -/
def IsKept (preformatted : Bool) (run : List Char) : Prop :=
  run = [] ∨ Builder.squeeze preformatted run = run

instance {preformatted : Bool} : Decidable (IsKept preformatted run) :=
  inferInstanceAs (Decidable (_ ∨ _))

namespace Builder

/-- The names of the open elements. -/
def names (b : Builder) : List String := b.opened.map (·.name)

/-- The tree with a run of text being read, letter by letter. -/
def reading (b : Builder) (run : List Char) : Builder :=
  { b with pending := (run.map fun c => [c]).reverse }

/-- Nodes put where the reading is. -/
def addAll (b : Builder) (nodes : List Node) : Builder := nodes.foldl add b

/-- What becomes of a run of text. -/
def textNodes (b : Builder) (run : List Char) : List Node :=
  if run = [] then [] else [.text b.textKind (String.ofList (squeeze b.preformatted run))]

/-- Whether a tree has settled all that was read: no text is pending, no void element is open or
may still get an end tag, and no element is open whose text is not escaped. -/
structure IsSettled (b : Builder) : Prop where
  pending : b.pending = []
  closedVoids : b.closedVoids = []
  names : ∀ name ∈ b.names, isVoid name = false ∧ isExecutable name = false

theorem preformatted_eq (b : Builder) : b.preformatted = b.names.any isPreformatted := by
  rw [preformatted, names, List.any_map]
  rfl

theorem addAll_cons (b : Builder) (node : Node) (nodes : List Node) :
    b.addAll (node :: nodes) = (b.add node).addAll nodes :=
  rfl

theorem addAll_append (b : Builder) (first second : List Node) :
    b.addAll (first ++ second) = (b.addAll first).addAll second :=
  List.foldl_append ..

theorem names_add (b : Builder) (node : Node) : (b.add node).names = b.names := by
  cases hopened : b.opened <;> simp [add, names, hopened]

theorem names_addAll (b : Builder) (nodes : List Node) : (b.addAll nodes).names = b.names := by
  induction nodes generalizing b with
  | nil => rfl
  | cons node nodes ih => rw [addAll_cons, ih, names_add]

theorem preformatted_addAll (b : Builder) (nodes : List Node) :
    (b.addAll nodes).preformatted = b.preformatted := by
  rw [preformatted_eq, names_addAll, ← preformatted_eq]

theorem preformatted_enter (b : Builder) (name : String) (attributes : List (String × String)) :
    (b.enter name attributes).preformatted = (isPreformatted name || b.preformatted) :=
  rfl

theorem pending_add (b : Builder) (node : Node) : (b.add node).pending = b.pending := by
  cases hopened : b.opened <;> simp [add, hopened]

theorem closedVoids_add (b : Builder) (node : Node) : (b.add node).closedVoids = b.closedVoids := by
  cases hopened : b.opened <;> simp [add, hopened]

theorem IsSettled.add (h : b.IsSettled) (node : Node) : (b.add node).IsSettled where
  pending := by rw [pending_add, h.pending]
  closedVoids := by rw [closedVoids_add, h.closedVoids]
  names := by
    rw [names_add]
    exact h.names

theorem IsSettled.addAll (h : b.IsSettled) (nodes : List Node) : (b.addAll nodes).IsSettled := by
  induction nodes generalizing b with
  | nil => exact h
  | cons node nodes ih => exact ih (h.add node)

theorem IsSettled.enter (h : b.IsSettled) (hvoid : isVoid name = false)
    (hstays : isExecutable name = false) (attributes : List (String × String)) :
    (b.enter name attributes).IsSettled where
  pending := h.pending
  closedVoids := h.closedVoids
  names := List.forall_mem_cons.mpr ⟨⟨hvoid, hstays⟩, h.names⟩

theorem IsSettled.reading_nil (h : b.IsSettled) : b.reading [] = b := by
  rw [reading, List.map_nil, List.reverse_nil, ← h.pending]

/-- All that is settled stands before the next node. -/
theorem IsSettled.before_eq (h : b.IsSettled) : b.before = b.inside := by
  rw [before]
  split
  · rfl
  · next e outer hopened =>
      have hvoid : isVoid e.name = false := (h.names e.name (by simp [Builder.names, hopened])).1
      rw [hvoid, Bool.and_false]
      rfl

theorem IsSettled.before_addAll (h : b.IsSettled) (nodes : List Node) :
    (b.addAll nodes).before = b.before ++ printAll nodes := by
  induction nodes generalizing b with
  | nil => simp [Builder.addAll, printAll]
  | cons node nodes ih =>
      rw [addAll_cons, ih (h.add node), before_add, h.before_eq, printAll, List.append_assoc]

/-! ### Runs of text -/

theorem reading_letters (b : Builder) (run cs : List Char) :
    (cs.map fun c => Token.text [c]).foldl push (b.reading run) = b.reading (run ++ cs) := by
  rw [foldl_letters]
  simp [reading]

theorem IsSettled.flush_reading (h : b.IsSettled) (run : List Char) :
    (b.reading run).flush = b.addAll (b.textNodes run) := by
  by_cases hrun : run = []
  · subst hrun
    rw [h.reading_nil, flush, h.pending]
    rfl
  · have hletters : (run.map fun c => [c]).flatten = run := by
      rw [← List.flatMap_def, List.flatMap_singleton']
    have hempty : { b.reading run with pending := [] } = b := by
      rw [reading, ← h.pending]
    rw [flush, if_neg (by simpa [reading] using hrun), hempty, textNodes, if_neg hrun]
    simp only [reading, List.reverse_reverse, hletters]
    rfl

/-- No text of a cleaned tree is text of a script. -/
theorem IsSettled.textKind (h : b.IsSettled) : ¬ (b.textKind = .script ∨ b.textKind = .style) := by
  rcases exempt_or_textKind wellNamed b with ⟨e, he, hexempt⟩ | htext
  · have hexecutable : isExecutable e.name = true := hexempt
    have hstays : isExecutable e.name = false := (h.names e.name (List.mem_map_of_mem he)).2
    rw [hexecutable] at hstays
    cases hstays
  · exact not_or.mpr htext

theorem IsSettled.print_textNodes (h : b.IsSettled) (hrun : run ≠ []) :
    printAll (b.textNodes run) = escape (squeeze b.preformatted run) := by
  rw [textNodes, if_neg hrun, printAll, printAll, Node.print, if_neg h.textKind, List.append_nil,
    String.toList_ofList]

theorem IsSettled.print_kept (h : b.IsSettled) (hkept : IsKept b.preformatted run) :
    printAll (b.textNodes run) = escape run := by
  by_cases hrun : run = []
  · subst hrun
    rfl
  · rw [h.print_textNodes hrun, hkept.resolve_left hrun]

/-! ### Tags -/

theorem addAll_enter (b : Builder) (name : String) (attributes : List (String × String))
    (reversed nodes : List Node) :
    ({ b with opened := ⟨name, attributes, reversed⟩ :: b.opened } : Builder).addAll nodes =
      { b with opened := ⟨name, attributes, nodes.reverse ++ reversed⟩ :: b.opened } := by
  induction nodes generalizing reversed with
  | nil => rfl
  | cons node nodes ih =>
      rw [addAll_cons, List.reverse_cons, List.append_assoc]
      exact ih (node :: reversed)

theorem flush_of_pending (h : b.pending = []) : b.flush = b := by
  rw [flush, h]
  rfl

theorem closedVoids_flush (b : Builder) : b.flush.closedVoids = b.closedVoids := by
  rw [flush]
  split
  · rfl
  · rw [closedVoids_add]

theorem endTag_of_closedVoids (h : b.closedVoids = []) (name : String) :
    b.endTag name = b.close name := by
  rw [endTag, h]
  rfl

/-- Closing the innermost element makes a node of it. -/
theorem close_enter {read : Builder} (h : read.flush = (b.enter name attributes).addAll nodes) :
    read.close name = b.add (.element name attributes nodes) := by
  rw [enter, addAll_enter, List.append_nil] at h
  rw [close, h]
  simp [popThrough, pop]

/-- The innermost element gets its end tag. -/
theorem before_close {read : Builder} {outer : List String} (h : read.flush.names = name :: outer)
    (hvoid : isVoid name = false) :
    (read.close name).before = read.flush.before ++ writeEnd name := by
  obtain ⟨e, others, hopened, rfl, -⟩ := List.map_eq_cons_iff.mp h
  have hpop : read.close e.name = read.flush.pop := by
    rw [close, hopened]
    simp [popThrough, hopened]
  rw [hpop, before_pop hopened, hvoid, Bool.and_false]
  rfl

/-- An element that is closed as soon as it is opened. -/
theorem IsSettled.close_enter (h : b.IsSettled) (name : String)
    (attributes : List (String × String)) :
    (b.enter name attributes).close name = b.add (.element name attributes []) := by
  have hflush : (b.enter name attributes).flush = (b.enter name attributes).addAll [] :=
    flush_of_pending h.pending
  exact Builder.close_enter hflush

/-- What a start tag of a cleaned tree does, behind a run of text. -/
theorem IsSettled.push_openTag (h : b.IsSettled) (htag : IsCleanTag name attributes)
    (run : List Char) (selfClosing : Bool) :
    let entered := (b.addAll (b.textNodes run)).enter name (shownAttributes name attributes)
    (b.reading run).push (.openTag name (shownAttributes name attributes) selfClosing) =
      if selfClosing then entered.endTag name
      else if isVoid name then
        { entered.close name with closedVoids := name :: (entered.close name).closedVoids }
      else entered := by
  have harranged : arrange name (shownAttributes name attributes) =
      shownAttributes name attributes := arrange_of_isArranged htag.arranged.foundAgain
  rw [push, startTag, h.flush_reading, harranged]
  rfl

/-- A start tag that closes itself adds an element without content. -/
theorem IsSettled.push_selfClosing (h : b.IsSettled) (htag : IsCleanTag name attributes)
    (run : List Char) :
    (b.reading run).push (.openTag name (shownAttributes name attributes) true) =
      (b.addAll (b.textNodes run)).add
        (.element name (shownAttributes name attributes) []) := by
  have hsettled := h.addAll (b.textNodes run)
  rw [h.push_openTag htag, if_pos rfl, endTag_of_closedVoids (by exact hsettled.closedVoids),
    hsettled.close_enter]

/-- Any other start tag of a void element does as well. -/
theorem IsSettled.before_push_void (h : b.IsSettled) (htag : IsCleanTag name attributes)
    (run : List Char) (hvoid : isVoid name = true) :
    ((b.reading run).push (.openTag name (shownAttributes name attributes) false)).before =
      ((b.addAll (b.textNodes run)).add
        (.element name (shownAttributes name attributes) [])).before := by
  have hsettled := h.addAll (b.textNodes run)
  rw [h.push_openTag htag, if_neg (by decide), if_pos hvoid, hsettled.close_enter]
  rfl

/-- A start tag of another element opens it. -/
theorem IsSettled.push_open (h : b.IsSettled) (htag : IsCleanTag name attributes)
    (run : List Char) (hvoid : isVoid name = false) :
    (b.reading run).push (.openTag name (shownAttributes name attributes) false) =
      (b.addAll (b.textNodes run)).enter name (shownAttributes name attributes) := by
  rw [h.push_openTag htag, if_neg (by decide), if_neg (by simp [hvoid])]

/-- The end tag of an element that is read is the last of its tokens. -/
theorem IsSettled.push_closeTag (h : b.IsSettled) {read : Builder}
    (hread : read.flush = (b.enter name attributes).addAll nodes) :
    read.push (.closeTag name) = b.add (.element name attributes nodes) := by
  have hvoids : read.closedVoids = [] := by
    rw [← closedVoids_flush, hread, Builder.enter, addAll_enter]
    exact h.closedVoids
  rw [push, endTag_of_closedVoids hvoids, Builder.close_enter hread]

end Builder

end VacancyLedger.Markup
