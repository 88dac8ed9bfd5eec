/-
Which postings a query finds.

A term is found where its folded text occurs in the folded text of the posting, both
with single spaces between their words.
-/
import VacancyLedger.Query.Tree

namespace VacancyLedger.Query

/-- What is looked for in place of a term. -/
def Term.needle (t : Term) : String :=
  Text.fold (Text.collapse t.text)

/-- The text of a posting that queries look at. -/
def searchable (title description : String) : String :=
  Text.fold (Text.collapse (title ++ " " ++ description))

/-- Whether a term is found in a text. -/
def Term.foundIn (t : Term) (haystack : String) : Bool :=
  Text.occursIn t.needle haystack

mutual

/-- Whether what a tree asks for is found in a text. -/
def Tree.foundIn (haystack : String) : Tree → Bool
  | .term t => t.foundIn haystack
  | .anyOf alternatives => anyFoundIn haystack alternatives

/-- Whether one of several trees is found in a text. -/
def anyFoundIn (haystack : String) : List Tree → Bool
  | [] => false
  | tree :: trees => tree.foundIn haystack || anyFoundIn haystack trees

end

/-- Whether a query asks for nothing and excludes nothing. -/
def isEmpty (q : Query) : Bool :=
  q.included.isNone && q.excluded.isEmpty

/-- Whether a query finds a text: none of the excluded terms is in it, and something that is asked
for is, if anything is. -/
def finds (q : Query) (haystack : String) : Bool :=
  !q.excluded.any (·.foundIn haystack) &&
    match q.included with
    | none => true
    | some tree => tree.foundIn haystack

/-- Whether a query finds a posting with this title and this plain description. -/
def accepts (q : Query) (title description : String) : Bool :=
  q.isEmpty || q.finds (searchable title description)

end VacancyLedger.Query
