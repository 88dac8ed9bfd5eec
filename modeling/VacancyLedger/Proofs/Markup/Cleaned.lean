/-
The tokens a cleaned tree is written with.

Cleaning leaves text and elements with arranged attributes, none of which would have to go.
Such a tree is written as a sequence of tokens, one letter of text at a time, and these are
the tokens that are read where it was written, as long as no name ends in a blank.  What
tree they make is another matter.
-/
import VacancyLedger.Proofs.Markup.Sanitize
import VacancyLedger.Proofs.Markup.Writing

namespace VacancyLedger.Markup

variable {nodes : List Node} {name : String} {attributes : List (String × String)}

/-! ### What cleaning leaves -/

/-- The attributes of every element are arranged. -/
def arranged : Rule where
  exempt _ := False
  element := IsArranged
  text _ := True
  marks := True
  prose := trivial
  special _ := .inr trivial

theorem Token.obeys_arranged (t : Token) : t.Obeys arranged := by
  cases t with
  | openTag name attributes selfClosing => exact .inr (isArranged_arrange name attributes)
  | _ => trivial

theorem parse_arranged {document : String} (h : parse document = .ok nodes) :
    AllObey arranged nodes := by
  obtain ⟨read, -, rfl⟩ := map_ok h
  exact treeOf_obeys fun t _ => t.obeys_arranged

/-- The name and the attributes of an element that cleaning leaves. -/
structure IsCleanTag (name : String) (attributes : List (String × String)) : Prop where
  isName : IsTagName name.toList
  stays : isExecutable name = false
  names : ∀ a ∈ attributes, IsAttributeName a.1.toList
  safe : ∀ a ∈ attributes, isUnsafeAttribute a.1 a.2 = false
  arranged : IsArranged name attributes

mutual

/-- Whether a node is what cleaning leaves: text that is written with its signs escaped, or an
element with a name and attributes that may stay. -/
def Node.IsClean : Node → Prop
  | .text kind _ => kind ≠ .script ∧ kind ≠ .style
  | .mark _ _ => False
  | .element name attributes children => IsCleanTag name attributes ∧ AllClean children

/-- Whether nodes are what cleaning leaves. -/
def AllClean : List Node → Prop
  | [] => True
  | node :: nodes => node.IsClean ∧ AllClean nodes

end

theorem allClean_append {first second : List Node} (h : AllClean first) (h' : AllClean second) :
    AllClean (first ++ second) := by
  induction first with
  | nil => exact h'
  | cons node first ih => exact ⟨h.1, ih h.2⟩

theorem safeAttributes_of_safe (h : ∀ a ∈ attributes, isUnsafeAttribute a.1 a.2 = false) :
    safeAttributes attributes = attributes := by
  refine List.filter_eq_self.mpr fun a ha => ?_
  simp [h a ha]

theorem isCleanTag_safeAttributes (hname : IsTagName name.toList)
    (hstays : isExecutable name = false) (hnames : ∀ a ∈ attributes, IsAttributeName a.1.toList)
    (harranged : IsArranged name attributes) : IsCleanTag name (safeAttributes attributes) where
  isName := hname
  stays := hstays
  names := fun a ha => hnames a (List.mem_filter.mp ha).1
  safe := fun a ha => by simpa using (List.mem_filter.mp ha).2
  arranged := harranged.safeAttributes

mutual

theorem Node.allClean_sanitize : ∀ node : Node, node.Obeys wellNamed → node.Obeys arranged →
    AllClean node.sanitize
  | .text kind content, hnamed, _ => ⟨hnamed, trivial⟩
  | .mark kind content, _, _ => trivial
  | .element name attributes children, hnamed, harranged => by
      rw [Node.sanitize]
      split
      · trivial
      · next hstays =>
          obtain ⟨⟨hname, hnames⟩, hchildren⟩ := hnamed.resolve_left hstays
          obtain ⟨hattributes, hinner⟩ := harranged.resolve_left id
          refine ⟨⟨?_, allClean_sanitizeNodes children hchildren hinner⟩, trivial⟩
          exact isCleanTag_safeAttributes hname (by simpa using hstays) hnames hattributes

theorem allClean_sanitizeNodes : ∀ nodes : List Node, AllObey wellNamed nodes →
    AllObey arranged nodes → AllClean (sanitizeNodes nodes)
  | [], _, _ => trivial
  | node :: nodes, hnamed, harranged =>
      allClean_append (node.allClean_sanitize hnamed.1 harranged.1)
        (allClean_sanitizeNodes nodes hnamed.2 harranged.2)

end

/-- Cleaning a tree that was read leaves nothing that would have to go. -/
theorem allClean_of_parse {document : String} (h : parse document = .ok nodes) :
    AllClean (sanitizeNodes nodes) :=
  allClean_sanitizeNodes nodes (parse_wellNamed h) (parse_arranged h)

/-! ### The tokens of a tree -/

/-- The attributes of an element as they are found where it was written. -/
def shownAttributes (name : String) (attributes : List (String × String)) :
    List (String × String) :=
  foundAgain (writtenAttributes name attributes)

mutual

/-- The tokens a node is written with, its text letter by letter. -/
def Node.tokens : Node → List Token
  | .text _ content => content.toList.map fun c => .text [c]
  | .mark _ _ => []
  | .element name attributes children =>
    if children.isEmpty && isVoid name then [.openTag name (shownAttributes name attributes) true]
    else
      .openTag name (shownAttributes name attributes) false ::
        (allTokens children ++ [.closeTag name])

/-- The tokens nodes are written with. -/
def allTokens : List Node → List Token
  | [] => []
  | node :: nodes => node.tokens ++ allTokens nodes

end

/-- No name of an element ends in a blank. -/
def plainlyEnded : Rule where
  exempt _ := False
  element name _ := EndsPlainly name.toList
  text _ := True
  marks := True
  prose := trivial
  special _ := .inr trivial

theorem writeTokens_append (ts us : List Token) :
    writeTokens (ts ++ us) = writeTokens ts ++ writeTokens us :=
  List.flatMap_append

theorem writeTokens_letters (cs : List Char) :
    writeTokens (cs.map fun c => .text [c]) = escape cs := by
  induction cs with
  | nil => rfl
  | cons c cs ih =>
      rw [List.map_cons, writeTokens_cons, ih, Token.write]
      simp [escape]

theorem foundAgain_toList (written : List (String × List Char)) :
    ((foundAgain written).map fun a => (a.1, a.2.toList)) = written := by
  simp only [foundAgain, List.map_map, Function.comp_def, String.toList_ofList]
  exact List.map_id' _

theorem write_openTag (name : String) (attributes : List (String × String)) (selfClosing : Bool) :
    (Token.openTag name (shownAttributes name attributes) selfClosing).write =
      '<' :: (name.toList ++ ((writtenAttributes name attributes).flatMap
        (fun (n, v) => writeAttribute n v) ++ closing selfClosing [])) := by
  rw [Token.write, shownAttributes, foundAgain_toList]
  rfl

theorem IsCleanTag.isInertTag (h : IsCleanTag name attributes) :
    IsInertTag name.toList ((shownAttributes name attributes).map fun a => (a.1, a.2.toList)) := by
  have htag := Markup.isInertTag h.isName h.stays h.names
  rw [safeAttributes_of_safe h.safe] at htag
  rw [shownAttributes, foundAgain_toList]
  exact htag

mutual

/-- A node is written as its tokens are, and they can be read back. -/
theorem Node.tokens_spec : ∀ node : Node, node.IsClean → node.Obeys plainlyEnded →
    writeTokens node.tokens = node.print ∧ ∀ t ∈ node.tokens, t.IsWritable
  | .text kind content, hclean, _ => by
      have hraw : ¬ (kind = .script ∨ kind = .style) := not_or.mpr hclean
      refine ⟨?_, ?_⟩
      · rw [Node.tokens, writeTokens_letters, Node.print, if_neg hraw]
      · intro t ht
        obtain ⟨c, -, rfl⟩ := List.mem_map.mp ht
        exact ⟨c, rfl⟩
  | .mark kind content, hclean, _ => hclean.elim
  | .element name attributes children, ⟨htag, hchildren⟩, hended => by
      obtain ⟨hname, hinner⟩ := hended.resolve_left id
      obtain ⟨hprint, hwritable⟩ := allTokens_spec children hchildren hinner
      have hopen : ∀ selfClosing, (Token.openTag name (shownAttributes name attributes)
          selfClosing).IsWritable := fun _ => htag.isInertTag
      have hclose : (Token.closeTag name).IsWritable := ⟨htag.isName, hname⟩
      rw [Node.tokens, Node.print]
      split
      · refine ⟨?_, by simpa using hopen true⟩
        simp [writeTokens, write_openTag, closing]
      · refine ⟨?_, ?_⟩
        · rw [writeTokens_cons, writeTokens_append, hprint, write_openTag]
          simp [writeTokens, Token.write, closing]
        · simp only [List.forall_mem_cons, List.forall_mem_append]
          exact ⟨hopen false, hwritable, hclose, by simp⟩

theorem allTokens_spec : ∀ nodes : List Node, AllClean nodes → AllObey plainlyEnded nodes →
    writeTokens (allTokens nodes) = printAll nodes ∧ ∀ t ∈ allTokens nodes, t.IsWritable
  | [], _, _ => ⟨rfl, by simp [allTokens]⟩
  | node :: nodes, hclean, hended => by
      obtain ⟨hfirst, hwritable⟩ := node.tokens_spec hclean.1 hended.1
      obtain ⟨hrest, hothers⟩ := allTokens_spec nodes hclean.2 hended.2
      refine ⟨?_, ?_⟩
      · rw [allTokens, writeTokens_append, hfirst, hrest, printAll]
      · rw [allTokens]
        exact List.forall_mem_append.mpr ⟨hwritable, hothers⟩

end

/-- **Where a cleaned tree was written, its tokens are read.** -/
theorem tokens_render (hclean : AllClean nodes) (hended : AllObey plainlyEnded nodes) :
    ∃ read, Markup.tokens (render nodes) = .ok read ∧
      read.flatMap Token.letters = allTokens nodes := by
  obtain ⟨hprint, hwritable⟩ := allTokens_spec nodes hclean hended
  rw [render, ← hprint]
  exact tokens_written hwritable

end VacancyLedger.Markup
