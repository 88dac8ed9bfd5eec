/-
Addresses of the internet protocol as they stand in brackets in a URL.

`isV4` and `isV6` say which texts are addresses of the fourth and the sixth version,
and `isFuture` which claim to be of a version yet to come.
-/
import VacancyLedger.Number.Digits
import VacancyLedger.Text.Scan

namespace VacancyLedger.Address

/-- Whether the text is one of the four numbers of an address of the fourth version. -/
def isOctet (cs : List Char) : Bool :=
  !cs.isEmpty && cs.all Char.isDigit && cs.length ≤ 3 && (cs.length == 1 || cs.head? != some '0') &&
    Number.ofDigits cs ≤ 255

/-- Whether the text is an address of the fourth version. -/
def isV4 (cs : List Char) : Bool :=
  let parts := Text.splitAll '.' cs
  parts.length == 4 && parts.all isOctet

/-- Whether the text is one of the groups of an address of the sixth version. -/
def isGroup (cs : List Char) : Bool :=
  !cs.isEmpty && cs.length ≤ 4 && cs.all Number.isHexDigit

/-- The groups of an address, an address of the fourth version at its end standing for two. -/
def groups? (cs : List Char) : Option (List (List Char)) :=
  let parts := Text.splitAll ':' cs
  if parts.length < 3 then none
  else
    match parts.getLast? with
    | some last =>
      if last.contains '.' then
        if isV4 last then some (parts.dropLast ++ [['0'], ['0']]) else none
      else some parts
    | none => none

/-- Whether groups without a gap are all there. -/
def areComplete (parts : List (List Char)) : Bool :=
  parts.length == 8 && parts.all isGroup

/-- Whether the groups before and after a gap are fewer than eight.  An empty text is allowed at
either end, next to the gap. -/
def areAroundGap (before after : List (List Char)) : Bool :=
  let before := if before = [[]] then [] else before
  let after := if after = [[]] then [] else after
  before.length + after.length < 8 && before.all isGroup && after.all isGroup

/-- Whether the text, without a zone, is an address of the sixth version. -/
def isV6Unscoped (cs : List Char) : Bool :=
  match groups? cs with
  | none => false
  | some parts =>
    if 9 < parts.length then false
    else
      -- A gap is an empty group between the first and the last.
      let gaps := (List.range parts.length).filter fun i =>
        0 < i && i + 1 < parts.length && (parts.getD i []).isEmpty
      match gaps with
      | [] => areComplete parts
      | [i] => areAroundGap (parts.take i) (parts.drop (i + 1))
      | _ => false

/-- Whether the text is an address of the sixth version, perhaps with a zone after a percent
sign. -/
def isV6 (cs : List Char) : Bool :=
  !cs.contains '/' &&
    match Text.cutAt '%' cs with
    | (address, none) => isV6Unscoped address
    | (address, some zone) => !zone.isEmpty && !zone.contains '%' && isV6Unscoped address

/-- Whether the text is an address of a version yet to come: `v`, its number, a point and more. -/
def isFuture (cs : List Char) : Bool :=
  match cs with
  | 'v' :: more =>
    match more.span Number.isHexDigit with
    | (_ :: _, '.' :: _ :: _) => true
    | _ => false
  | _ => false

end VacancyLedger.Address
