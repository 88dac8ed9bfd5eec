/-
Documents as trees.

There are no implied end tags: an element lasts until an end tag of its name, or of
an element around it, and an end tag without an open element is passed over.  A
void element is closed as soon as it is opened.  Text that is only spaces is kept as
one space or one newline, except inside preformatted elements.
-/
import VacancyLedger.Markup.Lexer

namespace VacancyLedger.Markup

/-- The kinds of text.  What stands in one of the special elements is not prose. -/
inductive TextKind where
  | prose
  | script
  | style
  | template
  | rubyText
  | rubyParenthesis
  deriving DecidableEq

/-- The kinds of nodes that are neither elements nor plain text. -/
inductive MarkKind where
  | comment
  | doctype
  | declaration
  | characterData
  | instruction
  deriving DecidableEq

/-- A node of a document. -/
inductive Node where
  | text (kind : TextKind) (content : String)
  | mark (kind : MarkKind) (content : String)
  | element (name : String) (attributes : List (String × String)) (children : List Node)
  deriving Inhabited

/-! ### What the elements are -/

/-- Elements that have no content. -/
def voidElements : List String :=
  ["area", "base", "br", "col", "embed", "hr", "img", "input", "keygen", "link", "menuitem", "meta",
   "param", "source", "track", "wbr", "basefont", "bgsound", "command", "frame", "image", "isindex",
   "nextid", "spacer"]

/-- Whether an element has no content. -/
def isVoid (name : String) : Bool := voidElements.contains name

/-- Whether spaces count in an element. -/
def isPreformatted (name : String) : Bool := name == "pre" || name == "textarea"

/-- The kind of the text in an element, if it is a special one. -/
def specialText? (name : String) : Option TextKind :=
  match name with
  | "script" => some .script
  | "style" => some .style
  | "template" => some .template
  | "rt" => some .rubyText
  | "rp" => some .rubyParenthesis
  | _ => none

/-- Whether an attribute of an element is a list of words. -/
def isWordList (element name : String) : Bool :=
  match name with
  | "class" | "accesskey" | "dropzone" => true
  | "rel" => element == "a" || element == "link" || element == "area"
  | "rev" => element == "a" || element == "link"
  | "headers" => element == "td" || element == "th"
  | "accept-charset" => element == "form"
  | "archive" => element == "object"
  | "sizes" => element == "icon"
  | "sandbox" => element == "iframe"
  | "for" => element == "output"
  | _ => false

/-- An attribute put among attributes that stand in the order of their names, in the place of one
of the same name. -/
def insertAttribute (name value : String) : List (String × String) → List (String × String)
  | [] => [(name, value)]
  | (n, v) :: rest =>
    if name < n then (name, value) :: (n, v) :: rest
    else if name = n then (name, value) :: rest
    else (n, v) :: insertAttribute name value rest

/-- The attributes of an element in the order of their names; of two with one name the later one
counts, and the words of a word list have one space between them. -/
def arrange (element : String) (written : List (String × String)) : List (String × String) :=
  written.foldl (fun attributes (name, value) =>
    insertAttribute name (if isWordList element name then Text.collapse value else value)
      attributes) []

/-! ### Building a tree -/

/-- An element that is still open, with the nodes read in it so far, the last one first. -/
structure OpenElement where
  name : String
  attributes : List (String × String)
  reversed : List Node

/-- A tree that is being built: the open elements, the innermost first; the nodes outside all of
them, the last one first; the pieces of the text being read, the last one first; and the void
elements that were closed without an end tag, which may still follow. -/
structure Builder where
  opened : List OpenElement := []
  reversed : List Node := []
  pending : List (List Char) := []
  closedVoids : List String := []

namespace Builder

/-- A node put where the reading is. -/
def add (b : Builder) (node : Node) : Builder :=
  match b.opened with
  | [] => { b with reversed := node :: b.reversed }
  | e :: outer => { b with opened := { e with reversed := node :: e.reversed } :: outer }

/-- Whether the character counts as a space between elements. -/
def isSpace (c : Char) : Bool :=
  c == ' ' || c == '\n' || c == '\t' || c == '\x0c' || c == '\r'

/-- Text as it is kept: spaces alone are one newline, if they hold one, or one space. -/
def squeeze (preformatted : Bool) (cs : List Char) : List Char :=
  if !preformatted && cs.all isSpace then [if cs.contains '\n' then '\n' else ' '] else cs

/-- Whether the reading is inside a preformatted element. -/
def preformatted (b : Builder) : Bool :=
  b.opened.any (isPreformatted ·.name)

/-- The kind of the text at the place of the reading: that of the innermost special element. -/
def textKind (b : Builder) : TextKind :=
  (b.opened.findSome? (specialText? ·.name)).getD .prose

/-- The text read so far becomes a node. -/
def flush (b : Builder) : Builder :=
  if b.pending.isEmpty then b
  else
    let content := squeeze b.preformatted b.pending.reverse.flatten
    { b with pending := [] }.add (.text b.textKind (String.ofList content))

/-- A node that is neither an element nor plain text. -/
def addMark (b : Builder) (kind : MarkKind) (content : List Char) : Builder :=
  let b := b.flush
  b.add (.mark kind (String.ofList (squeeze b.preformatted content)))

/-- The innermost element is closed. -/
def pop (b : Builder) : Builder :=
  match b.opened with
  | [] => b
  | e :: outer =>
    { b with opened := outer }.add (.element e.name e.attributes e.reversed.reverse)

/-- The elements up to the innermost one of a name are closed, `n` at most. -/
def popThrough (name : String) : Nat → Builder → Builder
  | 0, b => b
  | n + 1, b =>
    match b.opened with
    | [] => b
    | e :: _ => if e.name == name then b.pop else popThrough name n b.pop

/-- An element and the elements in it are closed, if one of its name is open. -/
def close (b : Builder) (name : String) : Builder :=
  let b := b.flush
  if b.opened.any (·.name == name) then popThrough name b.opened.length b else b

/-- An end tag: one that follows a void element already closed is passed over. -/
def endTag (b : Builder) (name : String) : Builder :=
  if b.closedVoids.contains name then { b with closedVoids := b.closedVoids.erase name }
  else b.close name

/-- A start tag.  A void element is closed at once; an element that closes itself is closed as by
an end tag. -/
def startTag (b : Builder) (name : String) (attributes : List (String × String))
    (selfClosing : Bool) : Builder :=
  let b := b.flush
  let b := { b with opened := ⟨name, arrange name attributes, []⟩ :: b.opened }
  if selfClosing then b.endTag name
  else if isVoid name then
    let b := b.close name
    { b with closedVoids := name :: b.closedVoids }
  else b

/-- What a section is: character data if it says so, else a declaration. -/
def addSection (b : Builder) (content : List Char) : Builder :=
  if (content.take 6).map Char.toUpper = "CDATA[".toList then
    b.addMark .characterData (content.drop 6)
  else b.addMark .declaration content

/-- The tree after one more token. -/
def push (b : Builder) (token : Token) : Builder :=
  match token with
  | .text [] => b
  | .text content => { b with pending := content :: b.pending }
  | .openTag name attributes selfClosing => b.startTag name attributes selfClosing
  | .closeTag name => b.endTag name
  | .comment content => b.addMark .comment content
  | .doctype content => b.addMark .doctype (content.drop 1)
  | .section content => b.addSection content
  | .instruction content => b.addMark .instruction content

/-- All elements are closed, `n` at most. -/
def popAll : Nat → Builder → Builder
  | 0, b => b
  | n + 1, b => popAll n b.pop

/-- The nodes of the finished tree. -/
def finish (b : Builder) : List Node :=
  let b := b.flush
  (popAll b.opened.length b).reversed.reverse

end Builder

/-- The tree of a sequence of tokens. -/
def treeOf (tokens : List Token) : List Node :=
  (tokens.foldl Builder.push {}).finish

/-- Reads a document. -/
def parse (s : String) : Except Rejection (List Node) :=
  (tokens s).map treeOf

/-! ### Walking a tree -/

mutual

/-- The prose in a node, piece by piece. -/
def Node.pieces : Node → List String
  | .text kind content => if kind = .prose then [content] else []
  | .mark kind content => if kind = .characterData then [content] else []
  | .element _ _ children => pieces children

/-- The prose in nodes, piece by piece. -/
def pieces : List Node → List String
  | [] => []
  | node :: nodes => node.pieces ++ pieces nodes

end

mutual

/-- The text of the direct children of every element of a name, with the element's attributes, in
the order of the document. -/
def Node.contentsOf (name : String) : Node → List (List (String × String) × String)
  | .element n attributes children =>
    let inner := contentsOf name children
    if n = name then
      let own := children.map fun
        | .text _ content => content
        | _ => ""
      (attributes, String.join own) :: inner
    else inner
  | _ => []

/-- The same for a sequence of nodes. -/
def contentsOf (name : String) : List Node → List (List (String × String) × String)
  | [] => []
  | node :: nodes => node.contentsOf name ++ contentsOf name nodes

end

end VacancyLedger.Markup
