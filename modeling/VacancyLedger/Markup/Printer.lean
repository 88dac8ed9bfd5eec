/-
Writing a tree as markup.

Elements are written with their end tags, void ones as `<br/>`; attributes stand in
the order of their names.  A meta element that names an encoding names the one the
text is written in.
-/
import VacancyLedger.Markup.Node

namespace VacancyLedger.Markup

/-- A character of text or of a value as it is written. -/
def escapeChar (c : Char) : List Char :=
  if c = '&' then "&amp;".toList
  else if c = '<' then "&lt;".toList
  else if c = '>' then "&gt;".toList
  else [c]

/-- Text as it is written. -/
def escape (cs : List Char) : List Char :=
  cs.flatMap escapeChar

/-- A value between quotes: single ones if it holds a double quote and no single one. -/
def quoteValue (value : List Char) : List Char :=
  let body := escape value
  if body.contains '"' then
    if body.contains '\'' then
      '"' :: (body.flatMap (fun c => if c = '"' then "&quot;".toList else [c]) ++ ['"'])
    else '\'' :: (body ++ ['\''])
  else '"' :: (body ++ ['"'])

/-! ### The encoding a document names -/

/-- The name of the encoding that documents are written in. -/
def encodingName : List Char := "utf-8".toList

/-- Every encoding named in a content type is replaced; `boundary` says that a parameter may start
here. -/
def renameCharset : Bool → Nat → List Char → List Char
  | _, 0, cs => cs
  | _, _ + 1, [] => []
  | boundary, fuel + 1, c :: cs =>
    match if boundary then Text.dropPrefix? "charset=".toList (c :: cs) else none with
    | some rest =>
      "charset=".toList ++ encodingName ++ renameCharset false fuel (rest.dropWhile (· ≠ ';'))
    | none => c :: renameCharset (c == ';' || Text.isBlank c) fuel cs

/-- The attributes of an element as they are written. -/
def writtenAttributes (name : String) (attributes : List (String × String)) :
    List (String × List Char) :=
  let value? (n : String) := attributes.lookup n
  let replace (n : String) (value : List Char) :=
    attributes.map fun (a, v) => (a, if a = n then value else v.toList)
  if name = "meta" then
    if (value? "charset").isSome then replace "charset" encodingName
    else
      match value? "content", value? "http-equiv" with
      | some content, some kind =>
        if Text.lower kind = "content-type" then
          replace "content" (renameCharset true (content.length + 1) content.toList)
        else attributes.map fun (a, v) => (a, v.toList)
      | _, _ => attributes.map fun (a, v) => (a, v.toList)
  else attributes.map fun (a, v) => (a, v.toList)

/-- An attribute as it is written, after a space. -/
def writeAttribute (name : String) (value : List Char) : List Char :=
  ' ' :: (name.toList ++ '=' :: quoteValue value)

/-! ### Nodes -/

/-- How the content of a mark is enclosed. -/
def markEnds : MarkKind → List Char × List Char
  | .comment => ("<!--".toList, "-->".toList)
  | .doctype => ("<!DOCTYPE ".toList, ">\n".toList)
  | .declaration => ("<?".toList, "?>".toList)
  | .characterData => ("<![CDATA[".toList, "]]>".toList)
  | .instruction => ("<?".toList, ">".toList)

mutual

/-- A node as it is written. -/
def Node.print : Node → List Char
  | .text kind content =>
    if kind = .script ∨ kind = .style then content.toList else escape content.toList
  | .mark kind content =>
    let (start, stop) := markEnds kind
    start ++ content.toList ++ stop
  | .element name attributes children =>
    let opening := '<' :: (name.toList ++
      (writtenAttributes name attributes).flatMap fun (n, v) => writeAttribute n v)
    if children.isEmpty && isVoid name then opening ++ ['/', '>']
    else opening ++ '>' :: (printAll children ++ '<' :: '/' :: (name.toList ++ ['>']))

/-- Nodes as they are written, one after the other. -/
def printAll : List Node → List Char
  | [] => []
  | node :: nodes => node.print ++ printAll nodes

end

/-- A document as it is written. -/
def render (nodes : List Node) : String :=
  String.ofList (printAll nodes)

end VacancyLedger.Markup
