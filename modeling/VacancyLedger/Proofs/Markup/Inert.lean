/-
Text that stays harmless when it is read.

`Inert` is the language of what a cleaned tree is written as: characters that start no
markup, the references of escaped characters, end tags, and start tags of elements that may
stay, with attributes that may stay, in quotes.  It asks for no balance of tags.  Reading
takes a text of this language one step further to a shorter one, in either pass and without
fail, so it comes to its end; what it finds on the way is text, end tags and those start tags.
-/
import VacancyLedger.Markup.Sanitize
import VacancyLedger.Proofs.Markup.Lexer

namespace VacancyLedger.Markup

open Text (isBlank)

/-- Whether an element may stay, and all its attributes with it; their names are in lower case. -/
def MayStay (name : String) (attributes : List (String × String)) : Prop :=
  isExecutable name = false ∧
    ∀ a ∈ attributes, Text.lower a.1 = a.1 ∧ isUnsafeAttribute a.1 a.2 = false

/-- Whether a token brings nothing into a document that would have to be removed. -/
def Token.IsHarmless : Token → Prop
  | .text _ | .closeTag _ => True
  | .openTag name attributes _ => MayStay name attributes
  | .comment _ | .doctype _ | .section _ | .instruction _ => False

/-- A start tag as it is written, for an element and attributes that may stay. -/
structure IsInertTag (name : List Char) (attributes : List (String × List Char)) : Prop where
  isName : IsTagName name
  stays : isExecutable (String.ofList name) = false
  names : ∀ a ∈ attributes, IsAttributeName a.1.toList
  values : ∀ a ∈ attributes, isUnsafeAttribute a.1 (String.ofList a.2) = false

/-- Text that stays harmless when it is read. -/
inductive Inert : List Char → Prop where
  | nil : Inert []
  | char {c : Char} {cs : List Char} (h : c ≠ '<' ∧ c ≠ '&') (rest : Inert cs) : Inert (c :: cs)
  | reference {e : Char × List Char} {cs : List Char} (h : e ∈ escapes) (rest : Inert cs) :
      Inert ('&' :: (e.2 ++ ';' :: cs))
  | startTag {name : List Char} {attributes : List (String × List Char)} {cs : List Char}
      (h : IsInertTag name attributes) (selfClosing : Bool) (rest : Inert cs) :
      Inert ('<' :: (name ++ (writeAttributes attributes ++ closing selfClosing cs)))
  | endTag {name cs : List Char} (h : IsTagName name) (rest : Inert cs) :
      Inert ('<' :: '/' :: (name ++ '>' :: cs))

variable {cs name : List Char} {attributes : List (String × List Char)}

/-- Escaped text may stand before harmless text. -/
theorem Inert.escape (text : List Char) (h : Inert cs) : Inert (escape text ++ cs) := by
  induction text with
  | nil => exact h
  | cons c text ih =>
      rw [Markup.escape, List.flatMap_cons, List.append_assoc, ← Markup.escape]
      rcases escapeChar_cases c with ⟨hlt, hamp, hc⟩ | ⟨name, hname, hc⟩
      · rw [hc]
        exact .char ⟨hlt, hamp⟩ ih
      · rw [hc, List.cons_append, List.append_assoc]
        exact .reference hname ih

/-! ### One step -/

/-- What is left of harmless text behind a run of plain characters is harmless. -/
theorem Inert.dropWhile (h : Inert cs) :
    Inert (cs.dropWhile fun c => !(c == '<' || c == '&')) := by
  induction h with
  | nil => exact .nil
  | char hc rest ih =>
      rw [List.dropWhile_cons_of_pos (by simpa using hc)]
      exact ih
  | reference he rest => exact .reference he rest
  | startTag htag selfClosing rest => exact .startTag htag selfClosing rest
  | endTag hname rest => exact .endTag hname rest

theorem readAmpersand_escape (final : Bool) {e : Char × List Char} (h : e ∈ escapes)
    (rest : List Char) :
    readAmpersand final (e.2 ++ ';' :: rest) = .ok (.characters (namedText e.2) rest) := by
  simp only [escapes, List.mem_cons, List.not_mem_nil, or_false] at h
  rcases h with rfl | rfl | rfl | rfl <;> rfl

theorem readOpenTag_written (h : IsInertTag name attributes) (selfClosing : Bool)
    (rest : List Char) :
    readOpenTag (name ++ (writeAttributes attributes ++ closing selfClosing rest)) =
      .ok (.token (.openTag (String.ofList name)
        (attributes.map fun a => (a.1, String.ofList a.2)) selfClosing) rest) := by
  obtain ⟨written, hvalues, hread⟩ := readStartTag_written h.isName h.names selfClosing rest
  have hraw : isRawElement (String.ofList name) = false := by
    have hstays := h.stays
    simp only [isExecutable, executableElements, List.contains_cons, Bool.or_eq_false_iff]
      at hstays
    rw [isRawElement, hstays.1, hstays.2.1, Bool.or_self]
  rw [readOpenTag, hread]
  simp only [hvalues, h.isName.low, hraw, Bool.false_and, Bool.false_eq_true, if_false]

/-- A name that was written before a bracket is read up to the bracket. -/
theorem plainEndTag?_rest {read left rest : List Char} (hname : '>' ∉ name)
    (h : plainEndTag? (name ++ '>' :: rest) = some (read, left)) : left = rest := by
  rw [plainEndTag?, Text.dropWhile_stop (by decide)] at h
  have htrimmed : '>' ∉ name.dropWhile isBlank := fun hmem =>
    hname ((List.dropWhile_sublist _).subset hmem)
  generalize name.dropWhile isBlank = trimmed at h htrimmed
  cases trimmed with
  | nil => cases h
  | cons c tail =>
      simp only [List.cons_append, List.span_eq_takeWhile_dropWhile] at h
      rw [Text.dropWhile_stop (by decide), Text.dropWhile_stop (by decide)] at h
      split at h
      · split at h
        · next heq =>
            cases h
            -- What is left before the bracket would have to start with one.
            rcases List.append_eq_cons_iff.mp heq with ⟨-, heq⟩ | ⟨before, heq, -⟩
            · exact (List.cons.inj heq).2.symm
            · have hleft : '>' ∈ '>' :: before := List.mem_cons_self ..
              rw [← heq] at hleft
              have hmem : '>' ∈ tail :=
                (List.dropWhile_sublist _).subset ((List.dropWhile_sublist _).subset hleft)
              exact absurd (List.mem_cons_of_mem c hmem) htrimmed
        · cases h
      · cases h

/-- An end tag of a tag's name ends at its bracket, whatever else the name holds. -/
theorem readEndTag_written (h : IsTagName name) (rest : List Char) :
    ∃ written, readEndTag (name ++ '>' :: rest) = .token (.closeTag written) rest := by
  have hbracket : '>' ∉ name := fun hmem => absurd (h.allowed _ hmem) (by decide)
  rw [readEndTag, Text.cutAt_append hbracket]
  cases hplain : plainEndTag? (name ++ '>' :: rest) with
  | some found =>
      obtain ⟨read, left⟩ := found
      have hleft := plainEndTag?_rest hbracket hplain
      subst hleft
      exact ⟨_, rfl⟩
  | none =>
      obtain ⟨c, tail, rfl, hletter⟩ := h.head
      simp [hletter]

theorem step_markup (final : Bool) (cs : List Char) :
    step final none ('<' :: cs) = readMarkup final cs := by
  simp [step, List.span_eq_takeWhile_dropWhile]

theorem step_plain {c : Char} (hc : c ≠ '<' ∧ c ≠ '&') (final : Bool) (cs : List Char) :
    step final none (c :: cs) =
      .ok (.advance [.text (c :: cs.takeWhile fun c => !(c == '<' || c == '&'))] none
        (cs.dropWhile fun c => !(c == '<' || c == '&'))) := by
  simp [step, List.span_eq_takeWhile_dropWhile, hc]

theorem step_escape {e : Char × List Char} (he : e ∈ escapes) (final : Bool) (cs : List Char) :
    step final none ('&' :: (e.2 ++ ';' :: cs)) =
      .ok (.advance [.text (namedText e.2)] none cs) := by
  simp [step, List.span_eq_takeWhile_dropWhile, readAmpersand_escape final he]

theorem step_startTag (h : IsInertTag name attributes) (final selfClosing : Bool)
    (rest : List Char) :
    step final none ('<' :: (name ++ (writeAttributes attributes ++ closing selfClosing rest))) =
      .ok (.advance [.openTag (String.ofList name)
        (attributes.map fun a => (a.1, String.ofList a.2)) selfClosing] none rest) := by
  have hread := readOpenTag_written h selfClosing rest
  obtain ⟨c, tail, rfl, hletter⟩ := h.isName.head
  rw [step_markup, List.cons_append, readMarkup_cons, if_pos hletter, ← List.cons_append, hread]
  rfl

theorem IsInertTag.mayStay (h : IsInertTag name attributes) :
    MayStay (String.ofList name) (attributes.map fun a => (a.1, String.ofList a.2)) := by
  refine ⟨h.stays, ?_⟩
  intro b hb
  obtain ⟨a, ha, rfl⟩ := List.mem_map.mp hb
  refine ⟨?_, h.values a ha⟩
  rw [Text.lower, (h.names a ha).low, String.ofList_toList]

theorem length_lt_closing (selfClosing : Bool) (rest : List Char) :
    rest.length < (closing selfClosing rest).length := by
  cases selfClosing with
  | false => exact Nat.lt_succ_self _
  | true => exact Nat.lt_succ_of_lt (Nat.lt_succ_self _)

/-- Reading takes harmless text a step further, to harmless text that is shorter. -/
theorem step_inert (h : Inert cs) (hcs : cs ≠ []) (final : Bool) :
    ∃ token rest, step final none cs = .ok (.advance [token] none rest) ∧ token.IsHarmless ∧
      Inert rest ∧ rest.length < cs.length := by
  cases h with
  | nil => exact absurd rfl hcs
  | char hc rest =>
      refine ⟨_, _, step_plain hc final _, trivial, rest.dropWhile, ?_⟩
      exact Nat.lt_succ_of_le (List.dropWhile_sublist _).length_le
  | reference he rest =>
      refine ⟨_, _, step_escape he final _, trivial, rest, ?_⟩
      simp only [List.length_cons, List.length_append]
      omega
  | @startTag name attributes cs htag selfClosing rest =>
      refine ⟨_, _, step_startTag htag final selfClosing _, htag.mayStay, rest, ?_⟩
      have hclosing := length_lt_closing selfClosing cs
      simp only [List.length_cons, List.length_append]
      omega
  | @endTag name cs hname rest =>
      obtain ⟨written, hread⟩ := readEndTag_written hname cs
      refine ⟨.closeTag written, cs, ?_, trivial, rest, ?_⟩
      · rw [step_markup, readMarkup_cons, if_neg (by decide), if_pos rfl, hread]
        rfl
      · simp only [List.length_cons, List.length_append]
        omega

/-! ### The whole reading -/

/-- **Harmless text is read to its end without fail, as harmless tokens.** -/
theorem tokensFrom_inert (h : Inert cs) (final : Bool) :
    ∃ read, (∀ fuel, cs.length ≤ fuel → tokensFrom fuel final none cs = .ok read) ∧
      ∀ t ∈ read, t.IsHarmless := by
  refine tokensFrom_shrinking (Subtype.val : { cs // Inert cs } → List Char)
    (fun _ read => ∀ t ∈ read, t.IsHarmless) ?_ ?_ ⟨cs, h⟩
  · simp
  · rintro ⟨text, htext⟩ hne
    obtain ⟨token, rest, hstep, htoken, hrest, hlength⟩ := step_inert htext hne final
    refine ⟨token, ⟨rest, hrest⟩, hstep, hlength, ?_⟩
    exact fun read hread => List.forall_mem_cons.mpr ⟨htoken, hread⟩

end VacancyLedger.Markup
