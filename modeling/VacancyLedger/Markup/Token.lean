/-
Tokens of markup, and how a start tag is read.

A start tag is read in the forgiving way of browsers: any run of characters may be
a name, values may be bare or quoted, slashes between attributes are passed over.
A quote that is never closed does not open a value; what was read before it is
reconsidered, which `readValue?` spells out.
-/
import VacancyLedger.Markup.Reference
import VacancyLedger.Text.Blank
import VacancyLedger.Text.Case
import VacancyLedger.Text.Quoted
import VacancyLedger.Text.Scan

namespace VacancyLedger.Markup

open Text (isBlank)

/-- The pieces a document is read as. -/
inductive Token where
  | text (content : List Char)
  | openTag (name : String) (attributes : List (String × String)) (selfClosing : Bool)
  | closeTag (name : String)
  | comment (content : List Char)
  | doctype (content : List Char)
  | section (content : List Char)
  | instruction (content : List Char)

/-- Why a document is refused. -/
inductive Rejection where
  | unknownSection (keyword : String)
  | unnamedSection (excerpt : String)
  | tooManyDigits (e : Number.TooManyDigits)

/-- What every complaint about markup says first. -/
def Rejection.preamble : String :=
  "The markup you provided was rejected by the parser. Trying a different parser or a different encoding may help.\n\nOriginal exception(s) from parser:\n AssertionError: "

/-- The name a refusal is reported by. -/
def Rejection.name : Rejection → String
  | .tooManyDigits _ => "ValueError"
  | _ => "ParserRejectedMarkup"

/-- Why a document is refused, in words. -/
def Rejection.message : Rejection → String
  | .tooManyDigits e => e.message
  | .unknownSection keyword =>
    preamble ++ "unknown status keyword " ++ Text.quoted keyword ++ " in marked section"
  | .unnamedSection excerpt => preamble ++ "expected name token at " ++ Text.quoted excerpt

/-- Whether the character is an ASCII letter. -/
def isLetter (c : Char) : Bool :=
  c.isAlpha

/-- Whether the character may stand in the name of a tag. -/
def isTagNameChar (c : Char) : Bool :=
  !(c == '\t' || c == '\n' || c == '\r' || c == '\x0c' || c == ' ' || c == '/' || c == '>' ||
    c == '\x00')

/-- Passes over blanks, and over slashes that do not close the tag.  The first argument is the
character before the text; the answer tells which character is before the rest. -/
def skipGaps : Char → List Char → Char × List Char
  | last, [] => (last, [])
  | last, '/' :: '>' :: rest => (last, '/' :: '>' :: rest)
  | last, c :: rest => if c == '/' || isBlank c then skipGaps c rest else (last, c :: rest)

/-- A value between the quotes `q`, if the quote is closed. -/
def quotedValue? (q : Char) (cs : List Char) : Option (List Char × List Char) :=
  match Text.cutAt q cs with
  | (value, some rest) => some (value, rest)
  | (_, none) => none

/-- A value without quotes. -/
def bareValue (cs : List Char) : List Char × List Char :=
  cs.span fun c => !(c == '>' || isBlank c)

/-- A value as it is written: its text, the last character read and the rest. -/
structure WrittenValue where
  content : List Char
  last : Char
  rest : List Char

/-- A bare value after an equals sign, or after a character `before` that was read last. -/
def WrittenValue.bare (before : Char) (cs : List Char) : WrittenValue :=
  let (value, rest) := bareValue cs
  ⟨value, value.getLast?.getD before, rest⟩

/-- Reads the equals signs after an attribute's name and the value they announce.  Where the value
starts with a quote that is never closed, the last blank before it, or else the last of several
equals signs, is taken for the start of a bare value; if there is neither, there is no value. -/
def readValue? (cs : List Char) : Option WrittenValue :=
  let (signs, afterSigns) := (cs.dropWhile isBlank).span (· == '=')
  if signs.isEmpty then none
  else
    let (blanks, body) := afterSigns.span isBlank
    match body with
    | q :: more =>
      if q == '"' || q == '\'' then
        match quotedValue? q more with
        | some (value, rest) => some ⟨value, q, rest⟩
        | none =>
          match blanks.reverse with
          | blank :: earlier => some ⟨[], earlier.head?.getD '=', blank :: body⟩
          | [] => if 2 ≤ signs.length then some (.bare '=' ('=' :: body)) else none
      else some (.bare (blanks.getLast?.getD '=') body)
    | [] => some ⟨[], blanks.getLast?.getD '=', []⟩

/-- How the reading of a start tag ends: at its closing bracket, with the text used up, or at a
character that no tag can go on with. -/
inductive TagEnd where
  | closed (selfClosing : Bool) (rest : List Char)
  | incomplete
  | broken (rest : List Char)

/-- How a start tag ends when no further attribute can be read. -/
def tagEnd : List Char → TagEnd
  | '>' :: rest => .closed false rest
  | '/' :: '>' :: rest => .closed true rest
  | [] => .incomplete
  | c :: rest => if c == '=' || c == '/' || isLetter c then .incomplete else .broken (c :: rest)

/-- An attribute as it is written. -/
abbrev WrittenAttribute := List Char × Option (List Char)

/-- Reads attributes, as long as one may start after the character `last`. -/
def readAttributes : Nat → Char → List Char → List WrittenAttribute × TagEnd
  | 0, _, _ => ([], .incomplete)
  | _ + 1, _, [] => ([], .incomplete)
  | fuel + 1, last, c :: cs =>
    if c == '>' || c == '/' || isBlank c ||
        !(last == '\'' || last == '"' || last == '/' || isBlank last) then
      ([], tagEnd (c :: cs))
    else
      let (tail, rest) := cs.span fun d => !(d == '/' || d == '=' || d == '>' || isBlank d)
      let name := c :: tail
      let (value, last, rest) :=
        match readValue? rest with
        | some v => (some v.content, v.last, v.rest)
        | none => (none, name.getLast?.getD c, rest)
      let (last, rest) := skipGaps last rest
      let (attributes, ending) := readAttributes fuel last rest
      ((name, value) :: attributes, ending)

/-- A start tag as it is written, from its first letter on. -/
def readStartTag (cs : List Char) : List Char × List WrittenAttribute × TagEnd :=
  let (name, rest) := cs.span isTagNameChar
  let (last, rest) := skipGaps (name.getLast?.getD '<') rest
  let (attributes, ending) := readAttributes (rest.length + 1) last rest
  (name, attributes, ending)

/-- The attributes of a tag: names in lower case, references replaced, a missing value empty. -/
def attributesOf (written : List WrittenAttribute) :
    Except Number.TooManyDigits (List (String × String)) :=
  written.mapM fun (name, value) => do
    let value ← decodeAll (value.getD [])
    return (String.ofList (Text.lowerChars name), String.ofList value)

end VacancyLedger.Markup
