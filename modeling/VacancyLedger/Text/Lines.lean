/-
The lines of a text.

A line ends at a line feed, a carriage return or both, at the vertical tab and the form
feed, at three of the information separators, at the next-line control, and at the line
and the paragraph separator.
-/

namespace VacancyLedger.Text

/-- Whether the character ends a line. -/
def endsLine (c : Char) : Bool :=
  let n := c.toNat
  (10 ≤ n && n ≤ 13) || (28 ≤ n && n ≤ 30) || n == 0x85 || n == 0x2028 || n == 0x2029

/-- The lines of a text without their ends; nothing after the last end is no line. -/
def lines : List Char → List (List Char)
  | [] => []
  | '\r' :: '\n' :: cs => [] :: lines cs
  | c :: cs =>
    if endsLine c then [] :: lines cs
    else
      match cs with
      | [] => [[c]]
      | d :: _ =>
        if endsLine d then
          match lines cs with
          | _ :: rest => [c] :: rest
          | [] => [[c]]
        else
          match lines cs with
          | line :: rest => (c :: line) :: rest
          | [] => [[c]]

end VacancyLedger.Text
