/-
Searching and cutting a list of characters.

Each function answers with the parts it cuts the text into, so that what was
found and what is left are read off the answer and no position has to be kept.
-/

namespace VacancyLedger.Text

/-- Cuts at the first occurrence of `c`: what stands before it and, if it occurs, what follows. -/
def cutAt (c : Char) : List Char → List Char × Option (List Char)
  | [] => ([], none)
  | d :: ds =>
    if d = c then ([], some ds)
    else
      let (before, after) := cutAt c ds
      (d :: before, after)

/-- Cuts at the last occurrence of `c`: what stands before it, if it occurs, and what follows. -/
def cutAtLast (c : Char) (cs : List Char) : Option (List Char) × List Char :=
  match cutAt c cs.reverse with
  | (_, none) => (none, cs)
  | (after, some before) => (some before.reverse, after.reverse)

/-- What is left once `p` is taken from the front, if the text starts with `p`. -/
def dropPrefix? : List Char → List Char → Option (List Char)
  | [], cs => some cs
  | _ :: _, [] => none
  | p :: ps, c :: cs => if p = c then dropPrefix? ps cs else none

/-- Whether the text starts with `p`. -/
def startsWith (p cs : List Char) : Bool :=
  (dropPrefix? p cs).isSome

/-- Whether `needle` occurs in the text. -/
def contains (needle : List Char) : List Char → Bool
  | [] => needle.isEmpty
  | c :: cs => startsWith needle (c :: cs) || contains needle cs

/-- The parts between the occurrences of `c`; a text without `c` is its own only part. -/
def splitAll (c : Char) : List Char → List (List Char)
  | [] => [[]]
  | d :: ds =>
    if d = c then [] :: splitAll c ds
    else
      match splitAll c ds with
      | [] => [[d]]
      | part :: parts => (d :: part) :: parts

/-- Every occurrence of `c` replaced by `by'`. -/
def replaceChar (c : Char) (replacement : List Char) (cs : List Char) : List Char :=
  cs.flatMap fun d => if d = c then replacement else [d]

/-- Whether `needle` occurs in the text. -/
def occursIn (needle haystack : String) : Bool :=
  contains needle.toList haystack.toList

/-- The parts of the list joined with a separator between them. -/
def joinWith (separator : String) (parts : List String) : String :=
  String.ofList (List.intercalate separator.toList (parts.map String.toList))

end VacancyLedger.Text
