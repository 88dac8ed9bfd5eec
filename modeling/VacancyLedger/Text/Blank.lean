/-
Blank characters, and texts up to the blanks between their words.

`words` are the maximal runs of non-blank characters.  `collapse` writes the words
of a text with one space between them, so two texts have the same collapsed form
exactly when they have the same words; that form is what identities, queries and
searchable texts are compared by.
-/

namespace VacancyLedger.Text

/-- The blank characters: the separators and spaces of Unicode, tab to carriage return, the four
information separators and the next-line control. -/
def isBlank (c : Char) : Bool :=
  let n := c.toNat
  (9 ≤ n && n ≤ 13) || (28 ≤ n && n ≤ 32) || n == 0x85 || n == 0xA0 || n == 0x1680 ||
    (0x2000 ≤ n && n ≤ 0x200A) || n == 0x2028 || n == 0x2029 || n == 0x202F || n == 0x205F ||
    n == 0x3000

/-- The text without the blanks it starts with. -/
def trimStart (cs : List Char) : List Char :=
  cs.dropWhile isBlank

/-- The text without the blanks it ends with. -/
def trimEnd (cs : List Char) : List Char :=
  (cs.reverse.dropWhile isBlank).reverse

/-- The text without the blanks at its two ends. -/
def trim (cs : List Char) : List Char :=
  trimEnd (trimStart cs)

/-- The maximal runs of non-blank characters, in order. -/
def words : List Char → List (List Char)
  | [] => []
  | c :: cs =>
    if isBlank c then words cs
    else (c :: cs.takeWhile (!isBlank ·)) :: words (cs.dropWhile (!isBlank ·))
termination_by cs => cs.length
decreasing_by
  · simp
  · exact Nat.lt_succ_of_le (List.dropWhile_sublist _).length_le

/-- The words of a text with one space between them. -/
def collapseChars (cs : List Char) : List Char :=
  List.intercalate [' '] (words cs)

/-- The words of a text with one space between them. -/
def collapse (s : String) : String :=
  String.ofList (collapseChars s.toList)

/-- The text without the blanks at its two ends. -/
def strip (s : String) : String :=
  String.ofList (trim s.toList)

/-- Whether the text holds nothing but blanks. -/
def isAllBlank (s : String) : Bool :=
  s.toList.all isBlank

end VacancyLedger.Text
