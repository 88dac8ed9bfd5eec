/-
How a tree grows, seen from what it will be written as.

While a tree is built, part of what it will be written as is settled: the nodes that are
closed and the start tags of the elements that are open, except for the bracket of a void
element that has no content yet.  Each token adds to that text and takes nothing back, so
the settled text is a prefix of what the whole tree is written as.  The pieces in which text
is read do not matter, only what they are put together.
-/
import VacancyLedger.Proofs.Markup.Cleaned

namespace VacancyLedger.Markup

variable {b b' : Builder} {node : Node} {name : String} {t : Token} {ts : List Token}

namespace Builder

/-! ### The pieces of text -/

/-- Whether two trees that are being built differ at most in the pieces of the text being read. -/
structure Alike (b b' : Builder) : Prop where
  opened : b.opened = b'.opened
  reversed : b.reversed = b'.reversed
  text : b.pending.reverse.flatten = b'.pending.reverse.flatten
  none : b.pending = [] ↔ b'.pending = []
  closedVoids : b.closedVoids = b'.closedVoids

theorem Alike.refl (b : Builder) : b.Alike b :=
  ⟨rfl, rfl, rfl, Iff.rfl, rfl⟩

theorem Alike.flush (h : b.Alike b') : b.flush = b'.flush := by
  obtain ⟨opened, reversed, pending, closedVoids⟩ := b
  obtain ⟨opened', reversed', pending', closedVoids'⟩ := b'
  obtain ⟨rfl, rfl, htext, hnone, rfl⟩ := h
  simp only at htext hnone
  by_cases hempty : pending = []
  · rw [hempty, hnone.mp hempty]
  · have hempty' : ¬ pending' = [] := fun h => hempty (hnone.mpr h)
    simp only [Builder.flush, List.isEmpty_iff, hempty, hempty', if_false, htext]
    rfl

/-- Letters that are read one by one. -/
theorem foldl_letters (cs : List Char) (b : Builder) :
    (cs.map fun c => Token.text [c]).foldl push b =
      { b with pending := (cs.map fun c => [c]).reverse ++ b.pending } := by
  induction cs generalizing b with
  | nil => rfl
  | cons c cs ih =>
      rw [List.map_cons, List.foldl_cons, ih]
      simp [push]

theorem Alike.push_text (h : b.Alike b') (content : List Char) :
    (b.push (.text content)).Alike ((Token.letters (.text content)).foldl push b') := by
  rw [Token.letters, foldl_letters]
  cases content with
  | nil => exact ⟨h.opened, h.reversed, h.text, h.none, h.closedVoids⟩
  | cons c cs =>
      refine ⟨h.opened, h.reversed, ?_, ?_, h.closedVoids⟩
      · have hletters : ((c :: cs).map fun d => [d]).flatten = c :: cs := by
          rw [← List.flatMap_def, List.flatMap_singleton']
        simp only [push, List.reverse_cons, List.reverse_append, List.reverse_reverse,
          List.flatten_append, h.text, hletters]
        simp
      · simp [push]

theorem Alike.endTag (h : b.Alike b') (name : String) : (b.endTag name).Alike (b'.endTag name) := by
  rw [Builder.endTag, Builder.endTag, ← h.closedVoids]
  split
  · exact ⟨h.opened, h.reversed, h.text, h.none, rfl⟩
  · rw [Builder.close, Builder.close, h.flush]
    exact .refl _

/-- A token may be read with its text letter by letter. -/
theorem Alike.push (h : b.Alike b') (t : Token) :
    (b.push t).Alike (t.letters.foldl Builder.push b') := by
  have hmark : ∀ kind content, (b.addMark kind content).Alike (b'.addMark kind content) := by
    intro kind content
    rw [addMark, addMark, h.flush]
    exact .refl _
  cases t with
  | text content => exact h.push_text content
  | openTag name attributes selfClosing =>
      show (b.startTag name attributes selfClosing).Alike (b'.startTag name attributes selfClosing)
      rw [startTag, startTag, h.flush]
      exact .refl _
  | closeTag name => exact h.endTag name
  | comment content => exact hmark _ _
  | doctype content => exact hmark _ _
  | «section» content =>
      show (b.addSection content).Alike (b'.addSection content)
      rw [addSection, addSection]
      split
      · exact hmark _ _
      · exact hmark _ _
  | instruction content => exact hmark _ _

theorem Alike.foldl (h : b.Alike b') (ts : List Token) :
    (ts.foldl Builder.push b).Alike ((ts.flatMap Token.letters).foldl Builder.push b') := by
  induction ts generalizing b b' with
  | nil => exact h
  | cons t ts ih =>
      rw [List.flatMap_cons, List.foldl_append, List.foldl_cons]
      exact ih (h.push t)

end Builder

/-- A tree depends on the text that was read, not on the pieces it was read in. -/
theorem treeOf_letters (ts : List Token) : treeOf (ts.flatMap Token.letters) = treeOf ts := by
  have halike := (Builder.Alike.refl {}).foldl ts
  rw [treeOf, treeOf, Builder.finish, Builder.finish, halike.flush]

/-! ### The text that is settled -/

/-- A start tag as it is written, without its bracket. -/
def writeStart (name : String) (attributes : List (String × String)) : List Char :=
  '<' :: (name.toList ++
    (writtenAttributes name attributes).flatMap fun (n, v) => writeAttribute n v)

/-- An end tag as it is written. -/
def writeEnd (name : String) : List Char := '<' :: '/' :: (name.toList ++ ['>'])

theorem print_element (name : String) (attributes : List (String × String))
    (children : List Node) :
    (Node.element name attributes children).print =
      if children.isEmpty && isVoid name then writeStart name attributes ++ ['/', '>']
      else writeStart name attributes ++ '>' :: (printAll children ++ writeEnd name) :=
  rfl

/-- An open element and the nodes in it so far. -/
def OpenElement.write (e : OpenElement) : List Char :=
  writeStart e.name e.attributes ++ '>' :: printAll e.reversed.reverse

/-- Open elements, the innermost first, and the nodes in them so far. -/
def writeOpened : List OpenElement → List Char
  | [] => []
  | e :: outer => writeOpened outer ++ e.write

namespace Builder

/-- The text before a node that is added next. -/
def inside (b : Builder) : List Char := printAll b.reversed.reverse ++ writeOpened b.opened

/-- The text that is settled: the bracket of a void element without content is still open. -/
def before (b : Builder) : List Char :=
  match b.opened with
  | [] => b.inside
  | e :: outer =>
    if e.reversed.isEmpty && isVoid e.name then
      { b with opened := outer }.inside ++ writeStart e.name e.attributes
    else b.inside

theorem inside_cons {e : OpenElement} {outer : List OpenElement} (h : b.opened = e :: outer) :
    b.inside = { b with opened := outer }.inside ++ e.write := by
  rw [inside, inside, h, writeOpened, List.append_assoc]

theorem before_prefix_inside (b : Builder) : b.before <+: b.inside := by
  rw [before]
  split
  · exact List.prefix_rfl
  · next e outer hopened =>
      split
      · rw [inside_cons hopened, OpenElement.write, ← List.append_assoc]
        exact List.prefix_append ..
      · exact List.prefix_rfl

theorem before_add (b : Builder) (node : Node) : (b.add node).before = b.inside ++ node.print := by
  cases hopened : b.opened with
  | nil => simp [add, before, inside, hopened, writeOpened, printAll_append, printAll]
  | cons e outer =>
      simp [add, before, inside, hopened, writeOpened, OpenElement.write, printAll_append,
        printAll]

/-- What is settled stays when a node is added. -/
theorem before_prefix_add (b : Builder) (node : Node) : b.before <+: (b.add node).before := by
  rw [before_add]
  exact b.before_prefix_inside.trans (List.prefix_append ..)

theorem before_prefix_flush (b : Builder) : b.before <+: b.flush.before := by
  rw [flush]
  split
  · exact List.prefix_rfl
  · exact before_prefix_add { b with pending := [] } _

theorem before_prefix_addMark (b : Builder) (kind : MarkKind) (content : List Char) :
    b.before <+: (b.addMark kind content).before :=
  b.before_prefix_flush.trans (before_prefix_add _ _)

/-- An element that is closed only gets the end of its start tag, or its end tag. -/
theorem before_pop {e : OpenElement} {outer : List OpenElement} (h : b.opened = e :: outer) :
    b.pop.before = b.before ++
      if e.reversed.isEmpty && isVoid e.name then ['/', '>'] else writeEnd e.name := by
  rw [pop, h]
  simp only
  rw [before_add, print_element, List.isEmpty_reverse, before, h]
  simp only
  split
  · rw [List.append_assoc]
  · rw [inside_cons h, OpenElement.write]
    simp

theorem before_prefix_pop (b : Builder) : b.before <+: b.pop.before := by
  cases h : b.opened with
  | nil => simp [pop, h]
  | cons e outer =>
      rw [before_pop h]
      exact List.prefix_append ..

theorem before_prefix_popThrough (name : String) (n : Nat) (b : Builder) :
    b.before <+: (popThrough name n b).before := by
  induction n generalizing b with
  | zero => exact List.prefix_rfl
  | succ n ih =>
      rw [popThrough]
      split
      · exact List.prefix_rfl
      · split
        · exact b.before_prefix_pop
        · exact b.before_prefix_pop.trans (ih b.pop)

theorem before_prefix_close (b : Builder) (name : String) : b.before <+: (b.close name).before := by
  rw [close]
  split
  · exact b.before_prefix_flush.trans (before_prefix_popThrough name _ _)
  · exact b.before_prefix_flush

theorem before_prefix_endTag (b : Builder) (name : String) :
    b.before <+: (b.endTag name).before := by
  rw [endTag]
  split
  · exact List.prefix_rfl
  · exact b.before_prefix_close name

/-- An element that is opened, before its start tag is known to be all of it. -/
def enter (b : Builder) (name : String) (attributes : List (String × String)) : Builder :=
  { b with opened := ⟨name, attributes, []⟩ :: b.opened }

theorem before_enter (b : Builder) (name : String) (attributes : List (String × String)) :
    (b.enter name attributes).before =
      b.inside ++ writeStart name attributes ++ if isVoid name then [] else ['>'] := by
  rw [before, enter]
  simp only [List.isEmpty_nil, Bool.true_and]
  split
  · rw [List.append_nil]
  · simp [inside, writeOpened, OpenElement.write, printAll]

theorem before_prefix_startTag (b : Builder) (name : String) (attributes : List (String × String))
    (selfClosing : Bool) : b.before <+: (b.startTag name attributes selfClosing).before := by
  have hentered : b.before <+: (b.flush.enter name (arrange name attributes)).before := by
    rw [before_enter, List.append_assoc]
    exact b.before_prefix_flush.trans
      (b.flush.before_prefix_inside.trans (List.prefix_append ..))
  rw [startTag]
  split
  · exact hentered.trans (before_prefix_endTag _ name)
  · split
    · exact hentered.trans (before_prefix_close _ name)
    · exact hentered

/-- What is settled stays when a token is read. -/
theorem before_prefix_push (b : Builder) (t : Token) : b.before <+: (b.push t).before := by
  cases t with
  | text content =>
      cases content with
      | nil => exact List.prefix_rfl
      | cons c cs => exact List.prefix_rfl
  | openTag name attributes selfClosing => exact b.before_prefix_startTag ..
  | closeTag name => exact b.before_prefix_endTag name
  | comment content => exact b.before_prefix_addMark ..
  | doctype content => exact b.before_prefix_addMark ..
  | «section» content =>
      show b.before <+: (b.addSection content).before
      rw [addSection]
      split
      · exact b.before_prefix_addMark ..
      · exact b.before_prefix_addMark ..
  | instruction content => exact b.before_prefix_addMark ..

theorem before_prefix_foldl (b : Builder) (ts : List Token) :
    b.before <+: (ts.foldl push b).before := by
  induction ts generalizing b with
  | nil => exact List.prefix_rfl
  | cons t ts ih => exact (b.before_prefix_push t).trans (ih _)

/-! ### The whole tree -/

theorem length_opened_pop (b : Builder) : b.pop.opened.length = b.opened.length - 1 := by
  cases hopened : b.opened with
  | nil => simp [pop, hopened]
  | cons e outer => cases outer <;> simp [pop, hopened, add]

theorem opened_popAll (b : Builder) : (popAll b.opened.length b).opened = [] := by
  generalize hn : b.opened.length = n
  induction n generalizing b with
  | zero => exact List.eq_nil_of_length_eq_zero hn
  | succ n ih =>
      have hpop := b.length_opened_pop
      rw [hn, Nat.add_sub_cancel] at hpop
      exact ih b.pop hpop

theorem before_prefix_popAll (n : Nat) (b : Builder) : b.before <+: (popAll n b).before := by
  induction n generalizing b with
  | zero => exact List.prefix_rfl
  | succ n ih => exact b.before_prefix_pop.trans (ih b.pop)

/-- With no element open, what is settled is all that was read but a last text. -/
theorem before_of_closed (h : b.opened = []) : b.before = printAll b.reversed.reverse := by
  rw [before, h]
  simp [inside, h, writeOpened]

theorem print_finish (h : b.flush.opened = []) : printAll b.finish = b.flush.before := by
  rw [finish, before_of_closed h]
  simp only [h, List.length_nil, popAll]

/-- **What is settled is what the tree is written as up to there**, whatever tokens follow. -/
theorem before_prefix_finish (b : Builder) (ts : List Token) :
    b.before <+: printAll (ts.foldl push b).finish := by
  rw [finish, ← before_of_closed (opened_popAll _)]
  exact (b.before_prefix_foldl ts).trans
    ((before_prefix_flush _).trans (before_prefix_popAll _ _))

end Builder

end VacancyLedger.Markup
