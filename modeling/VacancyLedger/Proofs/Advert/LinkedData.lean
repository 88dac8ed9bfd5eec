/-
The adverts of a web page.

The scripts of a page that hold linked data are its blocks.  They are found by a walk over the page
in pre-order, and the adverts of the page are those of its blocks, one block after the other.  A
block that is no JSON has none, and it does not matter where it stands.

There is one exception.  A block with an integer of too many digits is not passed over as other
blocks that cannot be read: the whole page is refused, with the complaint about the first such
block.
-/
import VacancyLedger.Advert.Format
import VacancyLedger.Proofs.Json.Refused
import VacancyLedger.Proofs.Markup.Scripts
import VacancyLedger.Proofs.Outcome
import VacancyLedger.Proofs.Preorder

namespace VacancyLedger

/-! ### Blocks -/

namespace Markup

/-- The nodes inside a node. -/
def Node.children : Node → List Node
  | .element _ _ children => children
  | _ => []

/-- The text directly inside a node. -/
def Node.ownText : Node → String
  | .element _ _ children =>
    String.join (children.map fun
      | .text _ content => content
      | _ => "")
  | _ => ""

/-- Whether a node is a script that holds linked data. -/
def Node.IsBlock (node : Node) : Prop :=
  ∃ attributes children, node = .element "script" attributes children ∧
    Advert.holdsLinkedData attributes = true

end Markup

namespace Advert

open Markup (Node)

/-- Whether the attributes, and the text that comes with them, are those of a block. -/
def isBlock (script : List (String × String) × String) : Bool := holdsLinkedData script.1

theorem walks_leaf_node {node : Node} (hchildren : node.children = []) (hnode : ¬node.IsBlock) :
    Walks (nodeAt? Node.children node) Node.IsBlock [] := by
  refine .unwanted ?_ hnode
  rw [hchildren]
  exact walks_nil

mutual

theorem walks_contentsOf (node : Node) :
    ∃ blocks, Walks (nodeAt? Node.children node) Node.IsBlock blocks ∧
      ((node.contentsOf "script").filter isBlock).map (·.2) = blocks.map Node.ownText :=
  match node with
  | .text kind content => by
      refine ⟨[], walks_leaf_node rfl ?_, rfl⟩
      rintro ⟨_, _, h, -⟩
      cases h
  | .mark kind content => by
      refine ⟨[], walks_leaf_node rfl ?_, rfl⟩
      rintro ⟨_, _, h, -⟩
      cases h
  | .element name attributes children => by
      obtain ⟨blocks, hinner, hblocks⟩ := walks_contentsOfAll children
      have hwalks : Walks (below? Node.children (Node.element name attributes children).children)
          Node.IsBlock blocks := hinner
      have hown : (Node.element name attributes children).contentsOf "script" =
          if name = "script" then
            (attributes, (Node.element name attributes children).ownText) ::
              Markup.contentsOf "script" children
          else Markup.contentsOf "script" children := by
        rw [Node.contentsOf]
        rfl
      rw [hown]
      by_cases hscript : name = "script"
      · subst hscript
        rw [if_pos rfl]
        cases hholds : holdsLinkedData attributes with
        | true =>
            refine ⟨_ :: blocks, .wanted hwalks ⟨_, _, rfl, hholds⟩, ?_⟩
            rw [List.filter_cons_of_pos (by exact hholds), List.map_cons, List.map_cons, hblocks]
        | false =>
            refine ⟨blocks, .unwanted hwalks ?_, ?_⟩
            · rintro ⟨_, _, h, hblock⟩
              cases h
              rw [hholds] at hblock
              cases hblock
            · rw [List.filter_cons_of_neg (by simp [isBlock, hholds]), hblocks]
      · rw [if_neg hscript]
        refine ⟨blocks, .unwanted hwalks ?_, hblocks⟩
        rintro ⟨_, _, h, -⟩
        cases h
        exact hscript rfl

theorem walks_contentsOfAll (nodes : List Node) :
    ∃ blocks, Walks (below? Node.children nodes) Node.IsBlock blocks ∧
      ((Markup.contentsOf "script" nodes).filter isBlock).map (·.2) = blocks.map Node.ownText :=
  match nodes with
  | [] => ⟨[], walks_nil, rfl⟩
  | node :: nodes => by
      obtain ⟨first, hfirst, hfirsts⟩ := walks_contentsOf node
      obtain ⟨rest, hrest, hrests⟩ := walks_contentsOfAll nodes
      refine ⟨first ++ rest, hfirst.cons hrest, ?_⟩
      rw [Markup.contentsOf, List.filter_append, List.map_append, List.map_append, hfirsts, hrests]

end

theorem walks_linkedData (nodes : List Node) :
    ∃ blocks, Walks (below? Node.children nodes) Node.IsBlock blocks ∧
      linkedData nodes = blocks.map Node.ownText := by
  obtain ⟨blocks, hwalks, hblocks⟩ := walks_contentsOfAll nodes
  exact ⟨blocks, hwalks, hblocks⟩

/-- A page without a sign of markup is a text and nothing else. -/
theorem parse_of_plain {body : String} (h : ∀ c ∈ body.toList, c ≠ '<' ∧ c ≠ '&') :
    Markup.parse body = .ok [] ∨ ∃ content, Markup.parse body = .ok [.text .prose content] := by
  rw [Markup.parse, Markup.tokens]
  cases hbody : body.toList with
  | nil => exact .inl (by rw [Markup.tokensFrom_nil]; rfl)
  | cons c cs =>
      rw [hbody] at h
      obtain ⟨hc, hcs⟩ := List.forall_mem_cons.mp h
      have hplain : (cs.dropWhile fun c => !(c == '<' || c == '&')) = [] := by
        rw [List.dropWhile_eq_nil_iff]
        intro d hd
        simp [hcs d hd]
      rw [Markup.tokensFrom_cons, Markup.step_plain hc, hplain]
      simp only [bind, Except.bind, Markup.tokensFrom_nil]
      exact .inr ⟨_, rfl⟩

/-- There are no blocks on a blank page. -/
theorem linkedData_of_blank {body : String} {nodes : List Node}
    (hblank : Text.isAllBlank body = true) (h : Markup.parse body = .ok nodes) :
    linkedData nodes = [] := by
  have hplain : ∀ c ∈ body.toList, c ≠ '<' ∧ c ≠ '&' := by
    intro c hc
    have hc := Text.isAllBlank_iff.mp hblank c hc
    constructor <;> (rintro rfl; exact absurd hc (by decide))
  rcases parse_of_plain hplain with hparse | ⟨content, hparse⟩ <;>
    · cases h.symm.trans hparse
      rfl

/-! ### The adverts of a block -/

/-- The adverts of a block, of which there are none if it is no JSON. -/
def ofBlock (block : String) : List Advert :=
  match Json.read block with
  | .ok value => (vacanciesIn value).map ofVacancy
  | .error _ => []

/-- Whether a block has an integer of too many digits where it should be read. -/
def IsOverlong (block : String) : Prop := ∃ e, Json.read block = .error (.tooManyDigits e)

instance (block : String) : Decidable (IsOverlong block) :=
  match h : Json.read block with
  | .error (.tooManyDigits e) => isTrue ⟨e, h⟩
  | .error (.malformed _ _) => isFalse fun ⟨_, hlong⟩ => nomatch h.symm.trans hlong
  | .ok _ => isFalse fun ⟨_, hlong⟩ => nomatch h.symm.trans hlong

variable {block : String} {blocks : List String}

theorem ofScript_ok (h : ¬IsOverlong block) : ofScript block = .ok (ofBlock block) := by
  rw [ofScript, ofBlock]
  split
  · rename_i hblank
    obtain ⟨fault, position, hread⟩ := Json.read_of_blank hblank
    rw [hread]
  · cases hread : Json.read block with
    | ok value => rfl
    | error e =>
        cases e with
        | malformed fault position => rfl
        | tooManyDigits e => exact absurd ⟨e, hread⟩ h

theorem ofScript_error_iff {error : Error} :
    ofScript block = .error error ↔
      ∃ e, Json.read block = .error (.tooManyDigits e) ∧ error = .tooManyDigits e := by
  constructor
  · intro h
    by_cases hlong : IsOverlong block
    · obtain ⟨e, hread⟩ := hlong
      refine ⟨e, hread, ?_⟩
      rw [ofScript] at h
      split at h
      · cases h
      · rw [hread] at h
        cases h
        rfl
    · rw [ofScript_ok hlong] at h
      cases h
  · rintro ⟨e, hread, rfl⟩
    rw [ofScript]
    split
    · rename_i hblank
      obtain ⟨fault, position, hfault⟩ := Json.read_of_blank hblank
      rw [hfault] at hread
      cases hread
    · rw [hread]

theorem not_isOverlong_of_ok {adverts : List Advert} (h : ofScript block = .ok adverts) :
    ¬IsOverlong block := by
  rintro ⟨e, hread⟩
  cases h.symm.trans (ofScript_error_iff.mpr ⟨e, hread, rfl⟩)

theorem ofScripts_eq (blocks : List String) :
    ofScripts blocks = (blocks.mapM ofScript).map List.flatten := by
  induction blocks with
  | nil => rfl
  | cons block blocks ih =>
      rw [ofScripts, ih, List.mapM_cons]
      cases ofScript block with
      | error e => rfl
      | ok adverts => cases blocks.mapM ofScript <;> rfl

theorem ofScripts_ok (h : ∀ block ∈ blocks, ¬IsOverlong block) :
    ofScripts blocks = .ok (blocks.flatMap ofBlock) := by
  rw [ofScripts_eq, mapM_of_ok fun block hblock => ofScript_ok (h block hblock)]
  rfl

theorem ofScripts_error {before after : List String} {error : Error}
    (hbefore : ∀ block ∈ before, ¬IsOverlong block) (h : ofScript block = .error error) :
    ofScripts (before ++ block :: after) = .error error := by
  rw [ofScripts_eq, mapM_of_error (fun block hblock => ofScript_ok (hbefore block hblock)) h]
  rfl

/-! ### The adverts of a page -/

theorem read_webPage {body : String} {nodes : List Node} (h : Markup.parse body = .ok nodes) :
    read .jsonLd body = ofScripts (linkedData nodes) := by
  rw [read, ofWebPage]
  split
  · rename_i hblank
    rw [linkedData_of_blank hblank h]
    rfl
  · rw [h]

/--
**The adverts of a web page.**  The blocks of a page are found by a walk over it in pre-order.  If
none of them is overlong, the page is read, and its adverts are those of its blocks in this order,
where a block that is no JSON contributes nothing and changes nothing about the others.  If some
are overlong, the page is refused with the complaint about the first of them; there is no other
reason to refuse it.
-/
theorem web_page_adverts {body : String} {nodes : List Node} (h : Markup.parse body = .ok nodes) :
    ∃ blocks, Walks (below? Node.children nodes) Node.IsBlock blocks ∧
      linkedData nodes = blocks.map Node.ownText ∧
      ((∀ block ∈ blocks, ¬IsOverlong block.ownText) →
        read .jsonLd body = .ok (blocks.flatMap (ofBlock ·.ownText))) ∧
      (∀ before block after, blocks = before ++ block :: after →
        (∀ value, Json.read block.ownText ≠ .ok value) →
          blocks.flatMap (ofBlock ·.ownText) = (before ++ after).flatMap (ofBlock ·.ownText)) ∧
      ∀ error, read .jsonLd body = .error error ↔
        ∃ before block after e, blocks = before ++ block :: after ∧
          (∀ other ∈ before, ¬IsOverlong other.ownText) ∧
          Json.read block.ownText = .error (.tooManyDigits e) ∧ error = .tooManyDigits e := by
  obtain ⟨blocks, hwalks, hblocks⟩ := walks_linkedData nodes
  have hread : read .jsonLd body = ofScripts (blocks.map Node.ownText) := by
    rw [read_webPage h, hblocks]
  have hok : (∀ block ∈ blocks, ¬IsOverlong block.ownText) →
      read .jsonLd body = .ok (blocks.flatMap (ofBlock ·.ownText)) := by
    intro hall
    rw [hread, ofScripts_ok (List.forall_mem_map.mpr hall), List.flatMap_map]
  have herror : ∀ {before block after error}, blocks = before ++ block :: after →
      (∀ other ∈ before, ¬IsOverlong other.ownText) → ofScript block.ownText = .error error →
        read .jsonLd body = .error error := by
    rintro before block after error rfl hbefore hblock
    rw [hread, List.map_append, List.map_cons,
      ofScripts_error (List.forall_mem_map.mpr hbefore) hblock]
  refine ⟨blocks, hwalks, hblocks, hok, ?_, fun error => ⟨fun hrefused => ?_, ?_⟩⟩
  · rintro before block after rfl hblock
    have hnone : ofBlock block.ownText = [] := by
      rw [ofBlock]
      split
      · exact absurd ‹_› (hblock _)
      · rfl
    rw [List.flatMap_append, List.flatMap_cons, hnone, List.nil_append, List.flatMap_append]
  · rcases exists_first_error (fun block : Node => ofScript block.ownText) blocks with
      hall | ⟨before, block, after, e, hsplit, hbefore, hblock⟩
    · rw [hok fun block hblock => not_isOverlong_of_ok (hall block hblock).choose_spec] at hrefused
      cases hrefused
    · have hfirst : ∀ other ∈ before, ¬IsOverlong other.ownText := fun other hother =>
        not_isOverlong_of_ok (hbefore other hother).choose_spec
      cases hrefused.symm.trans (herror hsplit hfirst hblock)
      obtain ⟨e, hread, rfl⟩ := ofScript_error_iff.mp hblock
      exact ⟨before, block, after, e, hsplit, hfirst, hread, rfl⟩
  · rintro ⟨before, block, after, e, hsplit, hbefore, hread, rfl⟩
    exact herror hsplit hbefore (ofScript_error_iff.mpr ⟨e, hread, rfl⟩)

/-! ### Pages made of blocks -/

/-- The script of a block. -/
def blockScript (content : String) : Markup.Script := ⟨[("type", "application/ld+json")], content⟩

/-- The nodes of a page that is nothing but blocks. -/
def blockNodes (contents : List String) : List Node :=
  contents.map fun content => (blockScript content).node

example :
    Markup.render (blockNodes ["[]"]) = "<script type=\"application/ld+json\">[]</script>" := by
  decide +kernel

/-- Whether a block can be written into a page as it is. -/
def IsPlainBlock (content : String) : Prop :=
  '<' ∉ content.toList ∧ content.toList.all Markup.Builder.isSpace = false

instance (content : String) : Decidable (IsPlainBlock content) :=
  inferInstanceAs (Decidable (_ ∧ _))

theorem isAttributeName_type : Markup.IsAttributeName "type".toList where
  shape := ⟨'t', "ype".toList, rfl, by decide, List.all_eq_true.mp (by decide)⟩
  low := by decide

theorem IsPlainBlock.isWritable {content : String} (h : IsPlainBlock content) :
    (blockScript content).IsWritable where
  names := List.forall_mem_singleton.mpr isAttributeName_type
  arranged := rfl
  unmarked := h.1
  visible := h.2

theorem parse_blockNodes {contents : List String} (h : ∀ content ∈ contents, IsPlainBlock content) :
    Markup.parse (Markup.render (blockNodes contents)) = .ok (blockNodes contents) := by
  have hwritable : ∀ script ∈ contents.map blockScript, script.IsWritable :=
    List.forall_mem_map.mpr fun content hcontent => (h content hcontent).isWritable
  have hparse := Markup.Script.parse_render hwritable
  rw [List.map_map] at hparse
  exact hparse

theorem linkedData_blockNodes (contents : List String) :
    linkedData (blockNodes contents) = contents := by
  induction contents with
  | nil => rfl
  | cons content contents ih =>
      have hown : String.join [content] = content := by simp
      have hcons : linkedData (blockNodes (content :: contents)) =
          String.join [content] :: linkedData (blockNodes contents) := rfl
      rw [hcons, hown, ih]

/-- A block that describes a vacancy. -/
def engineerBlock : String := "\x7b\"@type\":\"JobPosting\",\"title\":\"Engineer\"\x7d"

/-- The advert of the vacancy. -/
def engineerAdvert : Advert := ⟨some "Engineer", none, none, none, none, none⟩

theorem ofBlock_engineerBlock : ofBlock engineerBlock = [engineerAdvert] := by decide +kernel

/-- A block that breaks off, before one that describes a vacancy. -/
theorem web_page_adverts_malformed :
    let contents := ["\x7b\"@type\":", engineerBlock]
    Markup.parse (Markup.render (blockNodes contents)) = .ok (blockNodes contents) ∧
      read .jsonLd (Markup.render (blockNodes contents)) = .ok [engineerAdvert] := by
  intro contents
  have hparse : Markup.parse (Markup.render (blockNodes contents)) = .ok (blockNodes contents) :=
    parse_blockNodes (by decide)
  obtain ⟨blocks, -, hblocks, hok, -⟩ := web_page_adverts hparse
  rw [linkedData_blockNodes] at hblocks
  have hread : ∀ content ∈ contents, ¬IsOverlong content := by decide +kernel
  have hadverts : contents.flatMap ofBlock = [engineerAdvert] := by decide +kernel
  rw [hblocks] at hread hadverts
  have hblocksread : ∀ block ∈ blocks, ¬IsOverlong block.ownText := fun block hblock =>
    hread _ (List.mem_map_of_mem hblock)
  refine ⟨hparse, ?_⟩
  rw [hok hblocksread, ← hadverts, List.flatMap_map]

/-- The integer that is written with so many ones. -/
def ones (n : Nat) : String := String.ofList (List.replicate n '1')

theorem eq_of_mem_ones {n : Nat} {c : Char} (h : c ∈ (ones n).toList) : c = '1' := by
  rw [ones, String.toList_ofList] at h
  exact (List.mem_replicate.mp h).2

theorem read_ones {n : Nat} (h : Number.maxDigits < n) :
    Json.read (ones n) = .error (.tooManyDigits ⟨n⟩) := by
  have hlength : (ones n).length = n := by
    rw [ones, String.length_ofList, List.length_replicate]
  have hread := Json.read_of_many_digits (s := ones n) ?_ ?_ (hlength.symm ▸ h)
  · rwa [hlength] at hread
  · intro c hc
    rw [eq_of_mem_ones hc]
    rfl
  · rintro c hc rfl
    cases eq_of_mem_ones (List.mem_of_head? hc)

theorem isPlainBlock_ones (n : Nat) : IsPlainBlock (ones (n + 1)) := by
  refine ⟨fun hmark => ?_, ?_⟩
  · cases eq_of_mem_ones hmark
  · rw [ones, String.toList_ofList, List.replicate_succ, List.all_cons]
    rfl

/-- The blocks of a page, of which the first has an integer of too many digits. -/
def overlongBlocks : List String := [ones 4301, engineerBlock]

/-- The markup of the page can be read, and its second block describes a vacancy, but the page is
refused. -/
theorem overlong_block_refuses_page :
    Markup.parse (Markup.render (blockNodes overlongBlocks)) = .ok (blockNodes overlongBlocks) ∧
      linkedData (blockNodes overlongBlocks) = overlongBlocks ∧
      overlongBlocks.flatMap ofBlock = [engineerAdvert] ∧
      read .jsonLd (Markup.render (blockNodes overlongBlocks)) =
        .error (.tooManyDigits ⟨4301⟩) := by
  have hlong : Json.read (ones 4301) = .error (.tooManyDigits ⟨4301⟩) := read_ones (by decide)
  have hnone : ofBlock (ones 4301) = [] := by rw [ofBlock, hlong]
  have hplain : ∀ content ∈ overlongBlocks, IsPlainBlock content :=
    List.forall_mem_cons.mpr ⟨isPlainBlock_ones _, List.forall_mem_singleton.mpr (by decide)⟩
  have hparse := parse_blockNodes hplain
  refine ⟨hparse, linkedData_blockNodes _, ?_, ?_⟩
  · rw [overlongBlocks, List.flatMap_cons, hnone, List.nil_append, List.flatMap_singleton,
      ofBlock_engineerBlock]
  · rw [read_webPage hparse, linkedData_blockNodes]
    have herror : ofScripts ([] ++ ones 4301 :: [engineerBlock]) = .error (.tooManyDigits ⟨4301⟩) :=
      ofScripts_error nofun (ofScript_error_iff.mpr ⟨_, hlong, rfl⟩)
    exact herror

end Advert
end VacancyLedger
