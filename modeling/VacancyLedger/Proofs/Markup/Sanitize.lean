/-
A description that was cleaned is safe to read.

Cleaning works on a tree, but what is kept is the text the tree is written as, and that
text is read again by others.  So the argument goes around once.  The names in the first
tree end where a name ends, because they were read, and raw text stands only in scripts and
styles, which go.  What stays is therefore written as `Inert` text.  That text is read as
harmless tokens, and a tree of harmless tokens holds nothing that would have to be removed.
-/
import VacancyLedger.Proofs.Markup.Attributes
import VacancyLedger.Proofs.Markup.Inert

namespace VacancyLedger.Markup

open Text (isBlank)

variable {nodes : List Node} {name : String} {attributes : List (String × String)}

/-! ### The tree that was read -/

/-- Names are fit to be written, and raw text stands only in elements that go. -/
def wellNamed : Rule where
  exempt name := isExecutable name = true
  element name attributes :=
    IsTagName name.toList ∧ ∀ a ∈ attributes, IsAttributeName a.1.toList
  text kind := kind ≠ .script ∧ kind ≠ .style
  marks := True
  prose := by decide
  special := by
    intro name kind h
    unfold specialText? at h
    split at h
    all_goals cases h
    · exact .inl (by decide)
    · exact .inl (by decide)
    all_goals exact .inr (by decide)

theorem Token.IsWellNamed.obeys {token : Token} (h : token.IsWellNamed) :
    token.Obeys wellNamed := by
  cases token with
  | openTag name attributes selfClosing =>
      refine .inr ⟨h.1, ?_⟩
      intro a ha
      obtain ⟨w, hw, rfl⟩ := mem_arrange ha
      exact h.2 w hw
  | _ => trivial

theorem parse_wellNamed {document : String} (h : parse document = .ok nodes) :
    AllObey wellNamed nodes := by
  obtain ⟨read, hread, rfl⟩ := map_ok h
  exact treeOf_obeys fun t ht => (tokens_wellNamed hread t ht).obeys

/-! ### What it is written as -/

theorem printAll_append (first second : List Node) :
    printAll (first ++ second) = printAll first ++ printAll second := by
  induction first with
  | nil => rfl
  | cons node first ih => simp [printAll, ih]

theorem isInertTag (hname : IsTagName name.toList) (hstays : isExecutable name = false)
    (hnames : ∀ a ∈ attributes, IsAttributeName a.1.toList) :
    IsInertTag name.toList (writtenAttributes name (safeAttributes attributes)) where
  isName := hname
  stays := by rwa [String.ofList_toList]
  names := by
    intro a ha
    obtain ⟨value, hvalue, -⟩ := mem_writtenAttributes ha
    exact hnames _ (List.mem_filter.mp hvalue).1
  values := by
    intro a ha
    obtain ⟨value, hvalue, hwritten⟩ := mem_writtenAttributes ha
    have hsafe : isUnsafeAttribute a.1 value = false := by
      simpa using (List.mem_filter.mp hvalue).2
    rcases hwritten with hwritten | hwritten | hwritten
    · rwa [hwritten, String.ofList_toList]
    · rw [hwritten]
      rfl
    · rw [hwritten]
      rfl

mutual

/-- What stays of a well named node may be written before inert text. -/
theorem Node.inert_sanitize : ∀ node : Node, node.Obeys wellNamed → ∀ {rest : List Char},
    Inert rest → Inert (printAll node.sanitize ++ rest)
  | .text kind content, h, rest, hrest => by
      have hraw : ¬ (kind = .script ∨ kind = .style) := not_or.mpr h
      simp only [Node.sanitize, printAll, Node.print, if_neg hraw, List.append_nil]
      exact hrest.escape content.toList
  | .mark kind content, _, rest, hrest => hrest
  | .element name attributes children, h, rest, hrest => by
      by_cases hstays : isExecutable name = true
      · rw [Node.sanitize, if_pos hstays]
        exact hrest
      · obtain ⟨⟨hname, hnames⟩, hchildren⟩ := h.resolve_left hstays
        have htag := isInertTag hname (by simpa using hstays) hnames
        have hinner := inert_sanitizeNodes children hchildren (.endTag hname hrest)
        rw [Node.sanitize, if_neg hstays, printAll, printAll, List.append_nil, Node.print]
        split
        · have hinert := Inert.startTag htag true hrest
          simpa [writeAttributes, closing] using hinert
        · have hinert := Inert.startTag htag false hinner
          simpa [writeAttributes, closing] using hinert

theorem inert_sanitizeNodes : ∀ nodes : List Node, AllObey wellNamed nodes →
    ∀ {rest : List Char}, Inert rest → Inert (printAll (sanitizeNodes nodes) ++ rest)
  | [], _, rest, hrest => hrest
  | node :: nodes, h, rest, hrest => by
      rw [sanitizeNodes, printAll_append, List.append_assoc]
      exact node.inert_sanitize h.1 (inert_sanitizeNodes nodes h.2 hrest)

end

/-! ### The tree that is read again -/

/-- Whether an attribute runs nothing: it is no event handler, and if it is an address that a
browser follows, the address is no script. -/
def IsSafeAttribute (name value : String) : Prop :=
  ¬ ['o', 'n'] <+: (Text.lower name).toList ∧
    (Text.lower name ∈ ["href", "src", "action", "formaction", "xlink:href"] →
      ∀ scheme ∈ ["javascript:", "vbscript:"],
        ¬ scheme.toList <+:
          Text.lowerChars (value.toList.filter fun c => !isBlank c && 32 ≤ c.toNat))

mutual

/-- Whether a node and the nodes in it run nothing: there are only text and elements, none of them
executable, and their attributes are safe. -/
def Node.IsSafe : Node → Prop
  | .text _ _ => True
  | .mark _ _ => False
  | .element name attributes children =>
    name ∉ ["script", "style", "iframe", "object", "embed", "noscript", "template"] ∧
      (∀ a ∈ attributes, IsSafeAttribute a.1 a.2) ∧ AllSafe children

/-- Whether nodes run nothing. -/
def AllSafe : List Node → Prop
  | [] => True
  | node :: nodes => node.IsSafe ∧ AllSafe nodes

end

/-- What a tree of harmless tokens is. -/
def harmless : Rule where
  exempt _ := False
  element := MayStay
  text _ := True
  marks := False
  prose := trivial
  special := fun _ => .inr trivial

/-- No address is a list of words. -/
theorem not_address_of_isWordList {element : String} (h : isWordList element name = true) :
    addressAttributes.contains name = false := by
  unfold isWordList at h
  split at h
  case h_12 => cases h
  all_goals decide

theorem isUnsafeAttribute_arrange {element value : String}
    (h : isUnsafeAttribute name value = false) :
    isUnsafeAttribute name (if isWordList element name then Text.collapse value else value) =
      false := by
  split
  · next hwords =>
      rw [isUnsafeAttribute, not_address_of_isWordList hwords] at h ⊢
      exact h
  · exact h

theorem Token.IsHarmless.obeys {token : Token} (h : token.IsHarmless) :
    token.Obeys harmless := by
  cases token with
  | openTag name attributes selfClosing =>
      refine .inr ⟨h.1, ?_⟩
      intro a ha
      obtain ⟨w, hw, rfl⟩ := mem_arrange ha
      obtain ⟨hlow, hsafe⟩ := h.2 w hw
      exact ⟨hlow, isUnsafeAttribute_arrange hsafe⟩
  | text content => trivial
  | closeTag name => trivial
  | comment content => exact h
  | doctype content => exact h
  | «section» content => exact h
  | instruction content => exact h

theorem isSafeAttribute {value : String} (hlow : Text.lower name = name)
    (h : isUnsafeAttribute name value = false) : IsSafeAttribute name value := by
  rw [IsSafeAttribute, hlow]
  simp only [isUnsafeAttribute, Bool.or_eq_false_iff, Bool.and_eq_false_iff] at h
  obtain ⟨hhandler, haddress⟩ := h
  refine ⟨?_, ?_⟩
  · rw [← Text.startsWith_iff, hhandler]
    exact Bool.false_ne_true
  · intro hname scheme hscheme hprefix
    rcases haddress with haddress | hscript
    · have hcontains : addressAttributes.contains name = true := List.contains_iff_mem.mpr hname
      rw [haddress] at hcontains
      cases hcontains
    · have hstart := List.any_eq_false.mp hscript scheme hscheme
      exact hstart (Text.startsWith_iff.mpr hprefix)

mutual

theorem Node.isSafe_of_obeys : ∀ node : Node, node.Obeys harmless → node.IsSafe
  | .text _ _, _ => trivial
  | .mark _ _, h => h
  | .element name attributes children, h => by
      obtain ⟨⟨hstays, hattributes⟩, hchildren⟩ := h.resolve_left id
      refine ⟨?_, ?_, allSafe_of_obey children hchildren⟩
      · simpa [isExecutable, executableElements] using hstays
      · intro a ha
        obtain ⟨hlow, hsafe⟩ := hattributes a ha
        exact isSafeAttribute hlow hsafe

theorem allSafe_of_obey : ∀ nodes : List Node, AllObey harmless nodes → AllSafe nodes
  | [], _ => trivial
  | node :: nodes, h => ⟨node.isSafe_of_obeys h.1, allSafe_of_obey nodes h.2⟩

end

/-- What a cleaned tree was written as is read, as harmless tokens. -/
theorem tokens_harmless {description : String} (h : parse description = .ok nodes) :
    ∃ read, tokens (render (sanitizeNodes nodes)) = .ok read ∧ ∀ t ∈ read, t.IsHarmless := by
  have hinert : Inert (printAll (sanitizeNodes nodes)) := by
    have hprinted := inert_sanitizeNodes nodes (parse_wellNamed h) .nil
    rwa [List.append_nil] at hprinted
  have hfuel : (printAll (sanitizeNodes nodes)).length ≤
      2 * (render (sanitizeNodes nodes)).length + 2 := by
    rw [render, String.length_ofList]
    omega
  obtain ⟨read, hread, hharmless⟩ := tokensFrom_inert hinert false
  refine ⟨read, ?_, hharmless⟩
  rw [tokens, render, String.toList_ofList]
  exact hread _ hfuel

/-- **A cleaned description is read, and nothing in its tree runs.** -/
theorem sanitize_safe {description clean : String} (h : sanitize description = .ok clean) :
    ∃ nodes, parse clean = .ok nodes ∧ AllSafe nodes := by
  obtain ⟨nodes, hnodes, rfl⟩ := map_ok h
  obtain ⟨read, hread, hharmless⟩ := tokens_harmless hnodes
  refine ⟨treeOf read, ?_, ?_⟩
  · rw [parse, hread]
    rfl
  · exact allSafe_of_obey _ (treeOf_obeys fun t ht => (hharmless t ht).obeys)

/-- A handler, a script, a hidden scheme and a comment go; markup in a value stays a value. -/
theorem sanitize_safe_link :
    sanitize ("<p onclick=x()>Hi<script>alert(1)</script>" ++
        "<a href=' java\tscript:y()' title='</a><script>'>go</a><!-- c -->") =
      .ok "<p>Hi<a title=\"&lt;/a&gt;&lt;script&gt;\">go</a></p>" ∧
    ∃ nodes, parse "<p>Hi<a title=\"&lt;/a&gt;&lt;script&gt;\">go</a></p>" = .ok nodes ∧
      AllSafe nodes := by
  have hclean : sanitize ("<p onclick=x()>Hi<script>alert(1)</script>" ++
        "<a href=' java\tscript:y()' title='</a><script>'>go</a><!-- c -->") =
      .ok "<p>Hi<a title=\"&lt;/a&gt;&lt;script&gt;\">go</a></p>" :=
    ok_of_toOption (by decide +kernel)
  exact ⟨hclean, sanitize_safe hclean⟩

end VacancyLedger.Markup
