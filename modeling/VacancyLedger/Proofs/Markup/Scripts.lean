/-
Scripts that are read back.

What stands in a script is not markup, up to its end tag.  A page that is nothing but scripts, none
of which holds a sign that an end tag could start with, is read as the scripts it was written for,
each with its text as it is.
-/
import VacancyLedger.Proofs.Markup.Attributes
import VacancyLedger.Proofs.Markup.Inert

namespace VacancyLedger.Markup

open Text (isBlank)

/-- A script with its attributes and its text. -/
structure Script where
  attributes : List (String × String)
  content : String

namespace Script

/-- The node of a script. -/
def node (s : Script) : Node := .element "script" s.attributes [.text .script s.content]

/-- Whether a script is one that is read back. -/
structure IsWritable (s : Script) : Prop where
  names : ∀ a ∈ s.attributes, IsAttributeName a.1.toList
  arranged : arrange "script" s.attributes = s.attributes
  unmarked : '<' ∉ s.content.toList
  visible : s.content.toList.all Builder.isSpace = false

/-- The tokens that a script is read as. -/
def tokens (s : Script) : List Token :=
  [.openTag "script" s.attributes false, .text s.content.toList, .closeTag "script"]

variable {s : Script} {scripts : List Script}

/-! ### Tokens -/

theorem print_node (s : Script) (rest : List Char) :
    s.node.print ++ rest =
      '<' :: ("script".toList ++ (writeAttributes (s.attributes.map fun a => (a.1, a.2.toList)) ++
        closing false (s.content.toList ++ '<' :: '/' :: ("script".toList ++ '>' :: rest)))) := by
  have hwritten : writtenAttributes "script" s.attributes =
      s.attributes.map fun a => (a.1, a.2.toList) := rfl
  simp only [node, Node.print, hwritten, printAll, List.isEmpty_cons, Bool.false_and,
    Bool.false_eq_true, if_false, true_or, if_true, List.append_nil]
  simp [writeAttributes, closing]

theorem isTagName_script : IsTagName "script".toList where
  head := ⟨'s', "cript".toList, rfl, by decide⟩
  allowed := List.all_eq_true.mp (by decide)
  low := by decide

theorem step_openTag (h : s.IsWritable) (rest : List Char) :
    step false none ('<' :: ("script".toList ++
        (writeAttributes (s.attributes.map fun a => (a.1, a.2.toList)) ++ closing false rest))) =
      .ok (.advance [.openTag "script" s.attributes false] (some "script") rest) := by
  have hnames : ∀ a ∈ s.attributes.map fun a => (a.1, a.2.toList), IsAttributeName a.1.toList := by
    intro b hb
    obtain ⟨a, ha, rfl⟩ := List.mem_map.mp hb
    exact h.names a ha
  obtain ⟨written, hvalues, hread⟩ := readStartTag_written isTagName_script hnames false rest
  have hfound : (s.attributes.map fun a => (a.1, a.2.toList)).map
      (fun a => (a.1, String.ofList a.2)) = s.attributes := foundAgain_map_toList s.attributes
  rw [hfound] at hvalues
  have hopen : readOpenTag ("script".toList ++
      (writeAttributes (s.attributes.map fun a => (a.1, a.2.toList)) ++ closing false rest)) =
      .ok (.rawElement (.openTag "script" s.attributes false) "script" rest) := by
    rw [readOpenTag, hread]
    simp only [hvalues, isTagName_script.low]
    rfl
  rw [step_markup]
  refine (readMarkup_cons false 's' _).trans ?_
  rw [if_pos (by decide)]
  exact congrArg _ hopen

theorem dropRawEnd?_of_ne {c : Char} (h : c ≠ '<') (name : String) (cs : List Char) :
    dropRawEnd? name (c :: cs) = none := by
  rw [dropRawEnd?]
  rintro more hmore
  exact h (List.cons.inj hmore).1

theorem cutAtRawEnd_script {content : List Char} (h : '<' ∉ content) (rest : List Char) :
    cutAtRawEnd "script" (content ++ '<' :: '/' :: ("script".toList ++ '>' :: rest)) =
      some (content, "</script>".toList, rest) := by
  induction content with
  | nil =>
      have hdrop : dropRawEnd? "script" ('<' :: '/' :: ("script".toList ++ '>' :: rest)) =
          some rest := rfl
      have hbefore : readBefore ('<' :: '/' :: ("script".toList ++ '>' :: rest)) rest =
          "</script>".toList := by
        have hlength : ('<' :: '/' :: ("script".toList ++ '>' :: rest)).length - rest.length =
            "</script>".toList.length := by
          simp only [List.length_cons, List.length_append, String.length_toList]
          have hname : "script".length = 6 := rfl
          have htag : "</script>".length = 9 := rfl
          omega
        rw [readBefore, hlength]
        rfl
      rw [List.nil_append, cutAtRawEnd, hdrop]
      simp only [hbefore]
  | cons c content ih =>
      rw [List.mem_cons, not_or] at h
      rw [List.cons_append, cutAtRawEnd, dropRawEnd?_of_ne (Ne.symm h.1), ih h.2]
      rfl

theorem step_content {content : List Char} (h : '<' ∉ content) (rest : List Char) :
    step false (some "script") (content ++ '<' :: '/' :: ("script".toList ++ '>' :: rest)) =
      .ok (.advance [.text content, .closeTag "script"] none rest) := by
  rw [step, cutAtRawEnd_script h]
  rfl

theorem tokensFrom_script (h : s.IsWritable) (fuel : Nat) (rest : List Char) :
    tokensFrom (fuel + 2) false none (s.node.print ++ rest) =
      (tokensFrom fuel false none rest).map (s.tokens ++ ·) := by
  obtain ⟨c, cs, hcs⟩ := List.exists_cons_of_ne_nil
    (l := s.content.toList ++ '<' :: '/' :: ("script".toList ++ '>' :: rest)) (by simp)
  rw [print_node, tokensFrom_cons, step_openTag h, hcs]
  simp only [bind, Except.bind]
  rw [tokensFrom_cons, ← hcs, step_content h.unmarked]
  simp only [bind, Except.bind]
  cases tokensFrom fuel false none rest <;> rfl

theorem tokensFrom_scripts (h : ∀ s ∈ scripts, s.IsWritable) (fuel : Nat)
    (hfuel : 2 * scripts.length ≤ fuel) :
    tokensFrom fuel false none (printAll (scripts.map node)) = .ok (scripts.flatMap tokens) := by
  induction scripts generalizing fuel with
  | nil => exact tokensFrom_nil fuel false none
  | cons s scripts ih =>
    obtain ⟨hs, hscripts⟩ := List.forall_mem_cons.mp h
    obtain ⟨fuel, rfl⟩ : ∃ n, fuel = n + 2 := Nat.exists_eq_add_of_le' (by simp at hfuel; omega)
    rw [List.map_cons, printAll, tokensFrom_script hs, ih hscripts fuel (by simp at hfuel; omega)]
    rfl

/-! ### The tree -/

theorem push_tokens (h : s.IsWritable) (nodes : List Node) :
    s.tokens.foldl Builder.push { reversed := nodes } = { reversed := s.node :: nodes } := by
  have hkept : Builder.squeeze false s.content.toList = s.content.toList := by
    rw [Builder.squeeze, h.visible]
    rfl
  have hopened : Builder.push { reversed := nodes } (.openTag "script" s.attributes false) =
      { opened := [⟨"script", s.attributes, []⟩], reversed := nodes } := by
    rw [Builder.push, Builder.startTag, h.arranged]
    rfl
  obtain ⟨c, cs, hcontent⟩ : ∃ c cs, s.content.toList = c :: cs := by
    apply List.exists_cons_of_ne_nil
    intro hnil
    have hvisible := h.visible
    rw [hnil] at hvisible
    cases hvisible
  have hclosed : ([.text (c :: cs), .closeTag "script"] : List Token).foldl Builder.push
      { opened := [⟨"script", s.attributes, []⟩], reversed := nodes } =
      { reversed := .element "script" s.attributes
          [.text .script (String.ofList (Builder.squeeze false (c :: cs ++ [])))] :: nodes } := rfl
  rw [tokens, List.foldl_cons, hopened, hcontent, hclosed, List.append_nil, ← hcontent, hkept,
    String.ofList_toList]
  rfl

theorem foldl_push (h : ∀ s ∈ scripts, s.IsWritable) (nodes : List Node) :
    (scripts.flatMap tokens).foldl Builder.push { reversed := nodes } =
      { reversed := (scripts.map node).reverse ++ nodes } := by
  induction scripts generalizing nodes with
  | nil => rfl
  | cons s scripts ih =>
      obtain ⟨hs, hscripts⟩ := List.forall_mem_cons.mp h
      rw [List.flatMap_cons, List.foldl_append, push_tokens hs, ih hscripts]
      simp

theorem length_printAll (scripts : List Script) :
    2 * scripts.length ≤ (printAll (scripts.map node)).length := by
  induction scripts with
  | nil => exact Nat.le_refl 0
  | cons s scripts ih =>
      have hprint : printAll ((s :: scripts).map node) =
          s.node.print ++ printAll (scripts.map node) := rfl
      rw [hprint, print_node]
      simp only [List.length_cons, List.length_append, closing, Bool.false_eq_true, if_false]
      omega

/-- **A page that is nothing but scripts is read back.** -/
theorem parse_render (h : ∀ s ∈ scripts, s.IsWritable) :
    parse (render (scripts.map node)) = .ok (scripts.map node) := by
  have htokens : Markup.tokens (render (scripts.map node)) = .ok (scripts.flatMap tokens) := by
    rw [Markup.tokens, render, String.toList_ofList, String.length_ofList]
    have hlength := length_printAll scripts
    exact tokensFrom_scripts h _ (by omega)
  have htree : treeOf (scripts.flatMap tokens) = scripts.map node := by
    rw [treeOf, foldl_push h]
    simp [Builder.finish, Builder.flush, Builder.popAll]
  rw [parse, htokens, Except.map, htree]

end Script
end VacancyLedger.Markup
