/-
What the tokens say of the nodes holds of the tree.

A `Rule` asks something of the elements of a tree, one at a time, and of the kinds of its
other nodes; below an exempt element it asks nothing.  While a tree is built, the open
elements are the only nodes that are not finished.  The invariant is that each of them obeys
the rule so far, unless it or an element around it is exempt: then it is going to end up
below an exempt element, wherever its end tag stands.  So a tree obeys a rule as soon as
every token does.
-/
import VacancyLedger.Markup.Node

namespace VacancyLedger.Markup

/-- What is asked of the nodes of a tree. -/
structure Rule where
  /-- The elements whose attributes and content are not looked at. -/
  exempt : String → Prop
  element : String → List (String × String) → Prop
  text : TextKind → Prop
  marks : Prop
  prose : text .prose
  /-- A kind of text that is refused stands only in exempt elements. -/
  special : ∀ {name kind}, specialText? name = some kind → exempt name ∨ text kind

variable {rule : Rule} {b : Builder} {node : Node} {nodes : List Node}
  {name : String} {attributes : List (String × String)}

mutual

/-- Whether a node and the nodes in it are as the rule asks. -/
def Node.Obeys (rule : Rule) : Node → Prop
  | .text kind _ => rule.text kind
  | .mark _ _ => rule.marks
  | .element name attributes children =>
    rule.exempt name ∨ (rule.element name attributes ∧ AllObey rule children)

/-- Whether nodes are as the rule asks. -/
def AllObey (rule : Rule) : List Node → Prop
  | [] => True
  | node :: nodes => node.Obeys rule ∧ AllObey rule nodes

end

theorem allObey_iff : AllObey rule nodes ↔ ∀ node ∈ nodes, node.Obeys rule := by
  induction nodes with
  | nil => simp [AllObey]
  | cons node nodes ih => simp [AllObey, ih]

/-- Whether the nodes a token stands for are as the rule asks. -/
def Token.Obeys (rule : Rule) : Token → Prop
  | .text _ | .closeTag _ => True
  | .openTag name attributes _ => rule.exempt name ∨ rule.element name (arrange name attributes)
  | .comment _ | .doctype _ | .section _ | .instruction _ => rule.marks

/-! ### Attributes -/

theorem mem_insertAttribute {value : String} {a : String × String}
    (h : a ∈ insertAttribute name value attributes) : a = (name, value) ∨ a ∈ attributes := by
  induction attributes with
  | nil => simpa [insertAttribute] using h
  | cons first attributes ih =>
      rw [insertAttribute] at h
      split at h
      · exact List.mem_cons.mp h
      · split at h
        · rcases List.mem_cons.mp h with rfl | h
          · exact .inl rfl
          · exact .inr (List.mem_cons_of_mem _ h)
        · rcases List.mem_cons.mp h with rfl | h
          · exact .inr (List.mem_cons_self ..)
          · exact (ih h).imp_right (List.mem_cons_of_mem _)

/-- Every attribute of an element was written, up to the blanks in a word list. -/
theorem mem_arrange {element : String} {a : String × String} {written : List (String × String)}
    (h : a ∈ arrange element written) :
    ∃ w ∈ written, a = (w.1, if isWordList element w.1 then Text.collapse w.2 else w.2) := by
  have hfold : ∀ attributes, a ∈ written.foldl (fun attributes w =>
      insertAttribute w.1 (if isWordList element w.1 then Text.collapse w.2 else w.2) attributes)
        attributes →
      a ∈ attributes ∨
        ∃ w ∈ written, a = (w.1, if isWordList element w.1 then Text.collapse w.2 else w.2) := by
    clear h
    induction written with
    | nil => exact fun attributes h => .inl h
    | cons w written ih =>
        intro attributes h
        rcases ih _ h with h | ⟨w', hw', ha⟩
        · rcases mem_insertAttribute h with ha | h
          · exact .inr ⟨w, List.mem_cons_self .., ha⟩
          · exact .inl h
        · exact .inr ⟨w', List.mem_cons_of_mem _ hw', ha⟩
  rcases hfold [] h with h | h
  · cases h
  · exact h

/-! ### Open elements -/

/-- Whether one of the open elements is exempt. -/
def Exempt (rule : Rule) (opened : List OpenElement) : Prop :=
  ∃ e ∈ opened, rule.exempt e.name

/-- Whether each open element is as the rule asks so far, or is within an exempt one. -/
def OpenObey (rule : Rule) : List OpenElement → Prop
  | [] => True
  | e :: outer =>
    (Exempt rule (e :: outer) ∨
      (rule.element e.name e.attributes ∧ ∀ node ∈ e.reversed, node.Obeys rule)) ∧
    OpenObey rule outer

/-- What building a tree preserves. -/
structure Builder.Obeys (rule : Rule) (b : Builder) : Prop where
  opened : OpenObey rule b.opened
  nodes : ∀ node ∈ b.reversed, node.Obeys rule

namespace Builder

/-- A node may be added if it obeys, or within an exempt element. -/
theorem Obeys.add (h : b.Obeys rule) (hnode : Exempt rule b.opened ∨ node.Obeys rule) :
    (b.add node).Obeys rule := by
  cases hopened : b.opened with
  | nil =>
      have hnode : node.Obeys rule := by simpa [hopened, Exempt] using hnode
      rw [Builder.add, hopened]
      refine ⟨trivial, ?_⟩
      simpa using ⟨hnode, h.nodes⟩
  | cons e outer =>
      have hopen := h.opened
      rw [hopened] at hopen hnode
      rw [Builder.add, hopened]
      refine ⟨⟨?_, hopen.2⟩, h.nodes⟩
      have hexempt : Exempt rule ({ e with reversed := node :: e.reversed } :: outer) ↔
          Exempt rule (e :: outer) := by simp [Exempt]
      rw [hexempt]
      rcases hopen.1 with hin | ⟨helement, hnodes⟩
      · exact .inl hin
      · rcases hnode with hin | hnode
        · exact .inl hin
        · refine .inr ⟨helement, ?_⟩
          simpa using ⟨hnode, hnodes⟩

theorem exempt_or_textKind (rule : Rule) (b : Builder) :
    Exempt rule b.opened ∨ rule.text b.textKind := by
  rw [Builder.textKind]
  cases hfind : b.opened.findSome? (specialText? ·.name) with
  | none => exact .inr rule.prose
  | some kind =>
      obtain ⟨e, he, hkind⟩ := List.exists_of_findSome?_eq_some hfind
      rcases rule.special hkind with hexempt | htext
      · exact .inl ⟨e, he, hexempt⟩
      · exact .inr htext

theorem Obeys.flush (h : b.Obeys rule) : b.flush.Obeys rule := by
  rw [Builder.flush]
  split
  · exact h
  · refine Obeys.add ⟨h.opened, h.nodes⟩ ?_
    exact exempt_or_textKind rule b

theorem Obeys.addMark (h : b.Obeys rule) (hmarks : rule.marks) (kind : MarkKind)
    (content : List Char) : (b.addMark kind content).Obeys rule :=
  h.flush.add (.inr hmarks)

/-- An element that is closed is a node that obeys, or stays within an exempt element. -/
theorem Obeys.pop (h : b.Obeys rule) : b.pop.Obeys rule := by
  rw [Builder.pop]
  split
  · exact h
  · next e outer hopened =>
      have hopen := h.opened
      rw [hopened] at hopen
      refine Obeys.add ⟨hopen.2, h.nodes⟩ ?_
      rcases hopen.1 with ⟨e', he', hexempt⟩ | ⟨helement, hnodes⟩
      · rcases List.mem_cons.mp he' with rfl | he'
        · exact .inr (.inl hexempt)
        · exact .inl ⟨e', he', hexempt⟩
      · refine .inr (.inr ⟨helement, allObey_iff.mpr ?_⟩)
        simpa using hnodes

theorem Obeys.popThrough (h : b.Obeys rule) (name : String) (n : Nat) :
    (popThrough name n b).Obeys rule := by
  induction n generalizing b with
  | zero => exact h
  | succ n ih =>
      rw [Builder.popThrough]
      split
      · exact h
      · split
        · exact h.pop
        · exact ih h.pop

theorem Obeys.close (h : b.Obeys rule) (name : String) : (b.close name).Obeys rule := by
  rw [Builder.close]
  split
  · exact h.flush.popThrough name _
  · exact h.flush

theorem Obeys.endTag (h : b.Obeys rule) (name : String) : (b.endTag name).Obeys rule := by
  rw [Builder.endTag]
  split
  · exact ⟨h.opened, h.nodes⟩
  · exact h.close name

theorem Obeys.startTag (h : b.Obeys rule)
    (htag : rule.exempt name ∨ rule.element name (arrange name attributes))
    (selfClosing : Bool) : (b.startTag name attributes selfClosing).Obeys rule := by
  have hpushed : Builder.Obeys rule { b.flush with
      opened := ⟨name, arrange name attributes, []⟩ :: b.flush.opened } := by
    refine ⟨⟨?_, h.flush.opened⟩, h.flush.nodes⟩
    rcases htag with hexempt | helement
    · exact .inl ⟨_, List.mem_cons_self .., hexempt⟩
    · exact .inr ⟨helement, by simp⟩
  rw [Builder.startTag]
  split
  · exact hpushed.endTag name
  · split
    · exact ⟨(hpushed.close name).opened, (hpushed.close name).nodes⟩
    · exact hpushed

theorem Obeys.push (h : b.Obeys rule) {token : Token} (htoken : token.Obeys rule) :
    (b.push token).Obeys rule := by
  cases token with
  | text content =>
      cases content with
      | nil => exact h
      | cons c cs => exact ⟨h.opened, h.nodes⟩
  | openTag name attributes selfClosing => exact h.startTag htoken selfClosing
  | closeTag name => exact h.endTag name
  | comment content => exact h.addMark htoken ..
  | doctype content => exact h.addMark htoken ..
  | «section» content =>
      rw [Builder.push, Builder.addSection]
      split
      · exact h.addMark htoken ..
      · exact h.addMark htoken ..
  | instruction content => exact h.addMark htoken ..

theorem Obeys.popAll (h : b.Obeys rule) (n : Nat) : (popAll n b).Obeys rule := by
  induction n generalizing b with
  | zero => exact h
  | succ n ih => exact ih h.pop

theorem Obeys.foldl {tokens : List Token} (h : b.Obeys rule)
    (htokens : ∀ t ∈ tokens, t.Obeys rule) : (tokens.foldl Builder.push b).Obeys rule := by
  induction tokens generalizing b with
  | nil => exact h
  | cons t tokens ih =>
      rw [List.forall_mem_cons] at htokens
      exact ih (h.push htokens.1) htokens.2

end Builder

/-- **A tree obeys a rule if every token does.** -/
theorem treeOf_obeys {tokens : List Token} (h : ∀ t ∈ tokens, t.Obeys rule) :
    AllObey rule (treeOf tokens) := by
  have hempty : Builder.Obeys rule {} := ⟨trivial, by simp⟩
  have hbuilt := hempty.foldl h
  rw [allObey_iff, treeOf, Builder.finish]
  simpa using (hbuilt.flush.popAll _).nodes

end VacancyLedger.Markup
