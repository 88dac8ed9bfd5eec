/-
When cleaning a description twice is cleaning it once.

A cleaned description is read again as a tree that needs no cleaning, so all depends on
whether that tree is written as the first one was.  It need not be.  Where an element or a
comment was removed, the texts on its two sides are read as one text, and if that is nothing
but spaces it is squeezed; and an end tag does not close a void element that has content.
Nothing else can go wrong: the attributes stay as they are, and every other text and element
is read as it was written.

Both directions follow the tree from left to right.  As long as nothing went wrong, the
tree that is built has settled exactly the text read so far, and no void element is open.
At the first place where something goes wrong, the text that gets settled differs from the
text that was read, and no later token can make up for it.
-/
import VacancyLedger.Proofs.Markup.Settled

namespace VacancyLedger.Markup

variable {b : Builder} {nodes : List Node} {name : String}
  {attributes : List (String × String)} {run : List Char}

/-! ### Trees that are read as they were written -/

/-- The run of text that the next node continues. -/
def Node.runAfter (run : List Char) : Node → List Char
  | .text _ content => run ++ content.toList
  | .mark _ _ => run
  | .element _ _ _ => []

mutual

/-- Whether a node is read as it was written, behind a run of text. -/
def Node.IsSteady : Node → Bool → List Char → Prop
  | .text _ _, _, _ => True
  | .mark _ _, _, _ => True
  | .element name _ children, preformatted, run =>
    IsKept preformatted run ∧ (isVoid name = true → children = []) ∧
      Steady children (isPreformatted name || preformatted) []

/-- Whether nodes are read as they were written, behind a run of text: every run of text is kept,
and no void element has content. -/
def Steady : List Node → Bool → List Char → Prop
  | [], preformatted, run => IsKept preformatted run
  | node :: nodes, preformatted, run =>
    node.IsSteady preformatted run ∧ Steady nodes preformatted (node.runAfter run)

end

mutual

/-- Steadiness is decided along the tree. -/
def Node.decideSteady : (node : Node) → (preformatted : Bool) → (run : List Char) →
    Decidable (node.IsSteady preformatted run)
  | .text _ _, _, _ => isTrue trivial
  | .mark _ _, _, _ => isTrue trivial
  | .element name _ children, preformatted, run =>
    have := decideSteady children (isPreformatted name || preformatted) []
    inferInstanceAs (Decidable (IsKept preformatted run ∧ (isVoid name = true → children = []) ∧ _))

def decideSteady : (nodes : List Node) → (preformatted : Bool) → (run : List Char) →
    Decidable (Steady nodes preformatted run)
  | [], preformatted, run => inferInstanceAs (Decidable (IsKept preformatted run))
  | node :: nodes, preformatted, run =>
    have := node.decideSteady preformatted run
    have := decideSteady nodes preformatted (node.runAfter run)
    inferInstanceAs (Decidable (_ ∧ _))

end

instance {preformatted : Bool} : Decidable (Steady nodes preformatted run) :=
  decideSteady nodes preformatted run

/-! ### What is steady is read as it was written -/

/-- The attributes that are shown are written as they were. -/
theorem writeStart_shown (name : String) (attributes : List (String × String)) :
    writeStart name (shownAttributes name attributes) = writeStart name attributes := by
  rw [writeStart, writeStart, shownAttributes, writtenAttributes_foundAgain]

theorem print_shown (name : String) (attributes : List (String × String))
    (children : List Node) :
    (Node.element name (shownAttributes name attributes) children).print =
      (Node.element name attributes children).print := by
  rw [print_element, print_element, writeStart_shown]

theorem escape_append (first second : List Char) :
    escape (first ++ second) = escape first ++ escape second :=
  List.flatMap_append

mutual

theorem Node.foldl_tokens : ∀ (node : Node) {b : Builder} {run : List Char}, node.IsClean →
    b.IsSettled → node.IsSteady b.preformatted run →
    ∃ added, node.tokens.foldl Builder.push (b.reading run) =
        (b.addAll added).reading (node.runAfter run) ∧
      printAll added ++ escape (node.runAfter run) = escape run ++ node.print
  | .text kind content, b, run, hclean, _, _ => by
      have hraw : ¬ (kind = .script ∨ kind = .style) := not_or.mpr hclean
      refine ⟨[], ?_, ?_⟩
      · rw [Node.tokens, Builder.reading_letters]
        rfl
      · rw [Node.print, if_neg hraw, Node.runAfter, escape_append]
        rfl
  | .mark kind content, b, run, hclean, _, _ => hclean.elim
  | .element name attributes children, b, run, ⟨htag, hchildren⟩, hb, hsteady => by
      obtain ⟨hkept, hempty, hinner⟩ := hsteady
      have hsettled := hb.addAll (b.textNodes run)
      suffices hread : ∃ inner, (Node.element name attributes children).tokens.foldl Builder.push
            (b.reading run) =
          (b.addAll (b.textNodes run)).add (.element name (shownAttributes name attributes) inner) ∧
          (Node.element name attributes inner).print =
            (Node.element name attributes children).print by
        obtain ⟨inner, hread, hprint⟩ := hread
        refine ⟨b.textNodes run ++ [.element name (shownAttributes name attributes) inner], ?_, ?_⟩
        · rw [hread, Node.runAfter, (hb.addAll _).reading_nil, Builder.addAll_append]
          rfl
        · rw [printAll_append, hb.print_kept hkept, ← hprint, ← print_shown]
          simp [printAll, Node.runAfter, escape]
      rw [Node.tokens]
      split
      · next hclosed =>
          have hnone : children = [] := List.isEmpty_iff.mp (Bool.and_eq_true_iff.mp hclosed).1
          exact ⟨[], hb.push_selfClosing htag run, by rw [hnone]⟩
      · next hopen =>
          have hvoid : isVoid name = false := by
            refine Bool.eq_false_iff.mpr fun hvoid => hopen ?_
            rw [hempty hvoid, hvoid]
            rfl
          have hentered := hsettled.enter hvoid htag.stays (shownAttributes name attributes)
          have hsteady : Steady children ((b.addAll (b.textNodes run)).enter name
              (shownAttributes name attributes)).preformatted [] := by
            rw [Builder.preformatted_enter, Builder.preformatted_addAll]
            exact hinner
          obtain ⟨inner, hflush, hprint⟩ := foldl_allTokens children hchildren hentered hsteady
          refine ⟨inner, ?_, by simp [print_element, hvoid, hprint, escape]⟩
          rw [List.foldl_cons, List.foldl_append, hb.push_open htag run hvoid]
          rw [hentered.reading_nil] at hflush
          exact hsettled.push_closeTag hflush

/-- **Steady nodes are read as they were written.** -/
theorem foldl_allTokens : ∀ (nodes : List Node) {b : Builder} {run : List Char}, AllClean nodes →
    b.IsSettled → Steady nodes b.preformatted run →
    ∃ added, ((allTokens nodes).foldl Builder.push (b.reading run)).flush = b.addAll added ∧
      printAll added = escape run ++ printAll nodes
  | [], b, run, _, hb, hsteady =>
      ⟨b.textNodes run, hb.flush_reading run, by
        rw [hb.print_kept hsteady, printAll, List.append_nil]⟩
  | node :: nodes, b, run, hclean, hb, hsteady => by
      obtain ⟨first, hfirst, hprint⟩ := node.foldl_tokens hclean.1 hb hsteady.1
      have hpre : (b.addAll first).preformatted = b.preformatted := b.preformatted_addAll first
      obtain ⟨rest, hrest, hothers⟩ := foldl_allTokens nodes hclean.2 (hb.addAll first)
        (hpre ▸ hsteady.2)
      refine ⟨first ++ rest, ?_, ?_⟩
      · rw [allTokens, List.foldl_append, hfirst, hrest, Builder.addAll_append]
      · rw [printAll_append, hothers, ← List.append_assoc, hprint, printAll, List.append_assoc]

end

/-! ### What is read as it was written is steady -/

theorem eq_of_prefixes {before u v whole : List Char} {c d : Char}
    (h : before ++ c :: u <+: whole) (h' : before ++ d :: v <+: whole) : c = d := by
  obtain ⟨after, rfl⟩ := h
  rw [List.append_assoc, List.prefix_append_right_inj, List.cons_append,
    List.cons_prefix_cons] at h'
  exact h'.1.symm

theorem escape_spaces (h : run.all Builder.isSpace = true) : escape run = run := by
  induction run with
  | nil => rfl
  | cons c run ih =>
      obtain ⟨hc, hrun⟩ := Bool.and_eq_true_iff.mp (List.all_cons ▸ h)
      have hescape : escapeChar c = [c] := by
        unfold escapeChar
        split_ifs with hamp hlt hgt
        · rw [hamp] at hc
          cases hc
        · rw [hlt] at hc
          cases hc
        · rw [hgt] at hc
          cases hc
        · rfl
      have htail : run.flatMap escapeChar = run := ih hrun
      rw [escape, List.flatMap_cons, hescape, htail]
      rfl

/-- A run of text that was squeezed is not what it was: what follows it is a tag, or nothing. -/
theorem squeeze_eq_of_print {preformatted : Bool} {after : List Char} (hrun : run ≠ [])
    (hafter : ∀ c ∈ after.head?, c = '<')
    (h : escape run <+: escape (Builder.squeeze preformatted run) ++ after) :
    Builder.squeeze preformatted run = run := by
  rw [Builder.squeeze] at h ⊢
  split
  · next hcond =>
      have hspaces : run.all Builder.isSpace = true := (Bool.and_eq_true_iff.mp hcond).2
      have hone : [if run.contains '\n' then '\n' else ' '].all Builder.isSpace = true := by
        split <;> decide
      rw [if_pos hcond, escape_spaces hspaces, escape_spaces hone] at h
      generalize (if run.contains '\n' then '\n' else ' ') = one at h ⊢
      obtain ⟨c, rest, rfl⟩ := List.exists_cons_of_ne_nil hrun
      rw [List.singleton_append] at h
      obtain ⟨rfl, hrest⟩ := List.cons_prefix_cons.mp h
      -- A second space would stand where the next tag starts.
      cases rest with
      | nil => rfl
      | cons d rest =>
          obtain ⟨others, hothers⟩ := hrest
          have hd : d = '<' := hafter d (by rw [← hothers]; rfl)
          have hspace : Builder.isSpace d = true := List.all_eq_true.mp hspaces d (by simp)
          rw [hd] at hspace
          cases hspace
  · rfl

/-- The tokens that may follow the nodes in an element: its end tag, or none at all. -/
def Follow : List String → List Token → Prop
  | [], ts => ts = []
  | name :: _, ts => ∃ more, ts = .closeTag name :: more

/-- A run of text is kept if it is written as it was before a tag or at the end. -/
theorem isKept_of_print (hb : b.IsSettled) {after : List Char}
    (hafter : ∀ c ∈ after.head?, c = '<')
    (h : b.before ++ escape run <+: (b.addAll (b.textNodes run)).before ++ after) :
    IsKept b.preformatted run := by
  by_cases hrun : run = []
  · exact .inl hrun
  · rw [hb.before_addAll, hb.print_textNodes hrun, List.append_assoc,
      List.prefix_append_right_inj] at h
    exact .inr (squeeze_eq_of_print hrun hafter h)

theorem isKept_of_tag (hb : b.IsSettled) {whole tag : List Char}
    (hprint : b.before ++ escape run <+: whole)
    (htag : (b.addAll (b.textNodes run)).before ++ '<' :: tag <+: whole) :
    IsKept b.preformatted run := by
  obtain ⟨after, rfl⟩ := htag
  rw [List.append_assoc] at hprint
  exact isKept_of_print hb (by simp) hprint

/-- A start tag stands right behind the run of text before it. -/
theorem before_prefix_openTag (hb : b.IsSettled) (htag : IsCleanTag name attributes)
    (run : List Char) (selfClosing : Bool) :
    (b.addAll (b.textNodes run)).before ++ writeStart name (shownAttributes name attributes) <+:
      ((b.reading run).push
        (.openTag name (shownAttributes name attributes) selfClosing)).before := by
  have hentered : (b.addAll (b.textNodes run)).before ++
      writeStart name (shownAttributes name attributes) <+:
        ((b.addAll (b.textNodes run)).enter name (shownAttributes name attributes)).before := by
    rw [Builder.before_enter, (hb.addAll _).before_eq]
    exact List.prefix_append ..
  rw [hb.push_openTag htag]
  split
  · exact hentered.trans (Builder.before_prefix_endTag _ name)
  · split
    · exact hentered.trans (Builder.before_prefix_close _ name)
    · exact hentered

/-- A run of text before an element is kept if the tree is written as it was. -/
theorem isKept_before_element (hb : b.IsSettled) (htag : IsCleanTag name attributes)
    {children : List Node} {ts : List Token} {whole : List Char}
    (hwhole : printAll (((Node.element name attributes children).tokens ++ ts).foldl
      Builder.push (b.reading run)).finish = whole)
    (hprint : b.before ++ escape run <+: whole) : IsKept b.preformatted run := by
  obtain ⟨selfClosing, others, htokens⟩ : ∃ selfClosing others,
      (Node.element name attributes children).tokens =
        .openTag name (shownAttributes name attributes) selfClosing :: others := by
    rw [Node.tokens]
    split
    · exact ⟨_, _, rfl⟩
    · exact ⟨_, _, rfl⟩
  rw [htokens] at hwhole
  have hsettled := Builder.before_prefix_finish ((b.reading run).push (.openTag name
    (shownAttributes name attributes) selfClosing)) (others ++ ts)
  have hstart := (before_prefix_openTag hb htag run selfClosing).trans hsettled
  exact isKept_of_tag hb hprint (hwhole ▸ hstart)

/-- A void element whose start tag is not closed would be written with its start tag closed. -/
theorem not_void_of_print (hb : b.IsSettled) (htag : IsCleanTag name attributes)
    (hkept : IsKept b.preformatted run) {ts : List Token} {whole others : List Char}
    (hwhole : printAll (ts.foldl Builder.push ((b.reading run).push (.openTag name
      (shownAttributes name attributes) false))).finish = whole)
    (hprint : b.before ++ (escape run ++ (writeStart name attributes ++ '>' :: others)) <+: whole) :
    isVoid name = false := by
  refine Bool.eq_false_iff.mpr fun hvoid => ?_
  have hsettled := Builder.before_prefix_finish ((b.reading run).push (.openTag name
    (shownAttributes name attributes) false)) ts
  rw [hwhole, hb.before_push_void htag run hvoid, Builder.before_add, ← (hb.addAll _).before_eq,
    hb.before_addAll, hb.print_kept hkept, print_shown, print_element,
    if_pos (by simp [hvoid])] at hsettled
  simp only [← List.append_assoc] at hsettled hprint
  have hbracket : '/' = '>' := eq_of_prefixes hsettled hprint
  exact absurd hbracket (by decide)

/-- A run of text at the end of an element is kept if the tree is written as it was. -/
theorem isKept_at_end (hb : b.IsSettled) {ts : List Token} (hfollow : Follow b.names ts)
    (hprint : b.before ++ escape run <+:
      printAll (ts.foldl Builder.push (b.reading run)).finish) : IsKept b.preformatted run := by
  have hflush := hb.flush_reading run
  have hnames : (b.reading run).flush.names = b.names := by rw [hflush, b.names_addAll]
  cases hopened : b.names with
  | nil =>
      rw [hopened] at hfollow hnames
      subst hfollow
      have hclosed : (b.reading run).flush.opened = [] := List.map_eq_nil_iff.mp hnames
      rw [List.foldl_nil, Builder.print_finish hclosed, hflush,
        ← List.append_nil (b.addAll _).before] at hprint
      exact isKept_of_print hb (by simp) hprint
  | cons name outer =>
      rw [hopened] at hfollow hnames
      obtain ⟨more, rfl⟩ := hfollow
      have hvoid : isVoid name = false := (hb.names name (by simp [hopened])).1
      have hend : ((b.reading run).push (.closeTag name)).before =
          (b.addAll (b.textNodes run)).before ++ writeEnd name := by
        rw [Builder.push, Builder.endTag_of_closedVoids (by exact hb.closedVoids),
          Builder.before_close hnames hvoid, hflush]
      have hsettled := Builder.before_prefix_finish ((b.reading run).push (.closeTag name)) more
      rw [hend] at hsettled
      exact isKept_of_tag hb hprint hsettled

mutual

theorem Node.isSteady_of_print : ∀ (node : Node) (ts : List Token) {b : Builder}
    {run : List Char}, node.IsClean → b.IsSettled →
    b.before ++ (escape run ++ node.print) <+:
      printAll ((node.tokens ++ ts).foldl Builder.push (b.reading run)).finish →
    node.IsSteady b.preformatted run
  | .text kind content, ts, b, run, _, _, _ => trivial
  | .mark kind content, ts, b, run, _, _, _ => trivial
  | .element name attributes children, ts, b, run, ⟨htag, hchildren⟩, hb, hprint => by
      generalize hwhole : printAll (((Node.element name attributes children).tokens ++ ts).foldl
        Builder.push (b.reading run)).finish = whole at hprint
      have hkept : IsKept b.preformatted run := by
        refine isKept_before_element hb htag hwhole (.trans ?_ hprint)
        rw [← List.append_assoc]
        exact List.prefix_append ..
      rw [Node.tokens] at hwhole
      split at hwhole
      · next hclosed =>
          have hnone : children = [] := List.isEmpty_iff.mp (Bool.and_eq_true_iff.mp hclosed).1
          subst hnone
          exact ⟨hkept, fun _ => rfl, .inl rfl⟩
      · next hopen =>
          rw [print_element, if_neg hopen] at hprint
          rw [List.cons_append, List.foldl_cons, List.append_assoc] at hwhole
          have hvoid := not_void_of_print hb htag hkept hwhole hprint
          refine ⟨hkept, by simp [hvoid], ?_⟩
          have hentered := (hb.addAll (b.textNodes run)).enter hvoid htag.stays
            (shownAttributes name attributes)
          have hbefore : ((b.addAll (b.textNodes run)).enter name
              (shownAttributes name attributes)).before =
                b.before ++ escape run ++ writeStart name attributes ++ ['>'] := by
            rw [Builder.before_enter, ← (hb.addAll _).before_eq, hb.before_addAll,
              hb.print_kept hkept, writeStart_shown, if_neg (by simp [hvoid])]
          rw [hb.push_open htag run hvoid, ← hentered.reading_nil] at hwhole
          rw [← b.preformatted_addAll (b.textNodes run), ← Builder.preformatted_enter]
          refine steady_of_print children (.closeTag name :: ts) hchildren hentered ⟨ts, rfl⟩ ?_
          rw [hbefore]
          refine .trans ?_ (hprint.trans (hwhole ▸ List.prefix_rfl))
          simp [escape]

/-- **Nodes that are read as they were written are steady.** -/
theorem steady_of_print : ∀ (nodes : List Node) (ts : List Token) {b : Builder}
    {run : List Char}, AllClean nodes → b.IsSettled → Follow b.names ts →
    b.before ++ (escape run ++ printAll nodes) <+:
      printAll ((allTokens nodes ++ ts).foldl Builder.push (b.reading run)).finish →
    Steady nodes b.preformatted run
  | [], ts, b, run, _, hb, hfollow, hprint => by
      rw [printAll, List.append_nil, allTokens, List.nil_append] at hprint
      exact isKept_at_end hb hfollow hprint
  | node :: nodes, ts, b, run, hclean, hb, hfollow, hprint => by
      simp only [allTokens, printAll, List.append_assoc] at hprint
      have hsteady : node.IsSteady b.preformatted run := by
        refine node.isSteady_of_print (allTokens nodes ++ ts) hclean.1 hb (.trans ?_ hprint)
        simp
      obtain ⟨first, hfirst, hadded⟩ := node.foldl_tokens hclean.1 hb hsteady
      refine ⟨hsteady, ?_⟩
      rw [← b.preformatted_addAll first]
      refine steady_of_print nodes ts hclean.2 (hb.addAll first) ?_ ?_
      · rw [b.names_addAll]
        exact hfollow
      · have htext : printAll first ++ (escape (node.runAfter run) ++ printAll nodes) =
            escape run ++ (node.print ++ printAll nodes) := by
          rw [← List.append_assoc, hadded, List.append_assoc]
        rw [List.foldl_append, hfirst] at hprint
        rw [hb.before_addAll, List.append_assoc, htext]
        exact hprint

end

/-! ### Cleaning twice -/

theorem isSettled_empty : Builder.IsSettled {} where
  pending := rfl
  closedVoids := rfl
  names := by simp [Builder.names]

/-- **The tree that is read where a cleaned tree was written is written alike if the first is
steady, and only then.** -/
theorem print_treeOf_iff (hclean : AllClean nodes) :
    printAll (treeOf (allTokens nodes)) = printAll nodes ↔ Steady nodes false [] := by
  have hempty : ({} : Builder).reading [] = {} := isSettled_empty.reading_nil
  constructor
  · intro hprint
    refine steady_of_print nodes [] hclean isSettled_empty rfl ?_
    rw [List.append_nil, hempty, ← treeOf, hprint]
    exact List.prefix_rfl
  · intro hsteady
    obtain ⟨added, hflush, hprint⟩ := foldl_allTokens nodes hclean isSettled_empty hsteady
    rw [hempty] at hflush
    have hclosed : ((allTokens nodes).foldl Builder.push {}).flush.opened = [] := by
      rw [hflush]
      exact List.map_eq_nil_iff.mp (Builder.names_addAll {} added)
    rw [treeOf, Builder.print_finish hclosed, hflush, isSettled_empty.before_addAll, hprint]
    rfl

mutual

/-- What is harmless is not touched when it is cleaned. -/
theorem Node.sanitize_of_obeys : ∀ node : Node, node.Obeys harmless → node.sanitize = [node]
  | .text _ _, _ => rfl
  | .mark _ _, h => h.elim
  | .element name attributes children, h => by
      obtain ⟨⟨hstays, hattributes⟩, hchildren⟩ := h.resolve_left id
      have hsafe := safeAttributes_of_safe fun a ha => (hattributes a ha).2
      rw [Node.sanitize, if_neg (by simp [hstays]), hsafe, sanitizeNodes_of_obey children hchildren]

theorem sanitizeNodes_of_obey : ∀ nodes : List Node, AllObey harmless nodes →
    sanitizeNodes nodes = nodes
  | [], _ => rfl
  | node :: nodes, h => by
      rw [sanitizeNodes, node.sanitize_of_obeys h.1, sanitizeNodes_of_obey nodes h.2]
      rfl

end

/-- A cleaned description is cleaned again to what the tree of its tokens is written as. -/
theorem sanitize_render {description : String} (h : parse description = .ok nodes) :
    ∃ read, tokens (render (sanitizeNodes nodes)) = .ok read ∧
      sanitize (render (sanitizeNodes nodes)) = .ok (render (treeOf read)) := by
  obtain ⟨read, hread, hharmless⟩ := tokens_harmless h
  have hobey : AllObey harmless (treeOf read) :=
    treeOf_obeys fun t ht => (hharmless t ht).obeys
  refine ⟨read, hread, ?_⟩
  rw [sanitize, parse, hread]
  show Except.ok (render (sanitizeNodes (treeOf read))) = _
  rw [sanitizeNodes_of_obey _ hobey]

/-- **Cleaning a cleaned description succeeds, and leaves it as it is if and only if its tree is
steady.**  Names that end in a blank are left out, as their end tags are not read back. -/
theorem sanitize_again {description clean : String} (h : sanitize description = .ok clean) :
    (∃ again, sanitize clean = .ok again) ∧
      ∀ nodes, parse description = .ok nodes → AllObey plainlyEnded (sanitizeNodes nodes) →
        (sanitize clean = .ok clean ↔ Steady (sanitizeNodes nodes) false []) := by
  obtain ⟨nodes, hnodes, rfl⟩ := map_ok h
  obtain ⟨read, hread, hagain⟩ := sanitize_render hnodes
  refine ⟨⟨_, hagain⟩, ?_⟩
  intro same hsame hended
  obtain rfl : nodes = same := Except.ok.inj (hnodes.symm.trans hsame)
  have hclean := allClean_of_parse hnodes
  have htree : treeOf read = treeOf (allTokens (sanitizeNodes nodes)) := by
    obtain ⟨read', hread', hletters⟩ := tokens_render hclean hended
    obtain rfl : read = read' := Except.ok.inj (hread.symm.trans hread')
    rw [← hletters, treeOf_letters]
  rw [hagain, htree, ← print_treeOf_iff hclean]
  constructor
  · intro hsame
    have hchars := congrArg String.toList (Except.ok.inj hsame)
    rwa [render, render, String.toList_ofList, String.toList_ofList] at hchars
  · intro hprint
    rw [render, hprint, ← render]

/-- The handler and the script go the first time, and nothing is left to do. -/
theorem sanitize_again_list :
    sanitize "<div onload='x()'><ul> <li>One<li>Two<script>bad()</script></ul><br></div>" =
      .ok "<div><ul> <li>One<li>Two</li></li></ul><br/></div>" ∧
    sanitize "<div><ul> <li>One<li>Two</li></li></ul><br/></div>" =
      .ok "<div><ul> <li>One<li>Two</li></li></ul><br/></div>" := by
  have hclean :
      sanitize "<div onload='x()'><ul> <li>One<li>Two<script>bad()</script></ul><br></div>" =
        .ok "<div><ul> <li>One<li>Two</li></li></ul><br/></div>" :=
    ok_of_toOption (by decide +kernel)
  have hnodes :
      parse "<div onload='x()'><ul> <li>One<li>Two<script>bad()</script></ul><br></div>" =
        .ok [.element "div" [("onload", "x()")] [
          .element "ul" [] [.text .prose " ", .element "li" [] [.text .prose "One",
            .element "li" [] [.text .prose "Two",
              .element "script" [] [.text .script "bad()"]]]],
          .element "br" [] []]] := rfl
  refine ⟨hclean, ((sanitize_again hclean).2 _ hnodes ?_).mpr ?_⟩
  · simp [sanitizeNodes, Node.sanitize, AllObey, Node.Obeys, plainlyEnded, EndsPlainly,
      isExecutable, executableElements]
    decide
  · decide +kernel

/-- What stood around a comment is one text the second time, and is squeezed. -/
theorem sanitize_not_idempotent :
    sanitize "<p>a</p> <!-- c --> <p>b</p>" = .ok "<p>a</p>  <p>b</p>" ∧
      sanitize "<p>a</p>  <p>b</p>" = .ok "<p>a</p> <p>b</p>" :=
  ⟨ok_of_toOption (by decide +kernel), ok_of_toOption (by decide +kernel)⟩

end VacancyLedger.Markup
