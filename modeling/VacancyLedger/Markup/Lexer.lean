/-
Reading a document as tokens.

The text is read in two passes over one sequence of steps.  The first stops at the
first construct that more text could still complete; the second goes on from there
and takes the end of the text for what it is.  In a script or a style only the
matching end tag is markup, and text that no such tag follows is lost.
-/
import VacancyLedger.Markup.Token
import VacancyLedger.Text.Quoted

namespace VacancyLedger.Markup

open Text (isBlank)

/-- The elements whose content is not markup. -/
def isRawElement (name : String) : Bool :=
  name == "script" || name == "style"

/-! ### The parts of declarations and end tags -/

/-- Cuts at the first `--`, blanks and `>`. -/
def cutAtCommentEnd : List Char → Option (List Char × List Char)
  | [] => none
  | c :: cs =>
    let goOn := (cutAtCommentEnd cs).map fun (content, rest) => (c :: content, rest)
    match c, cs with
    | '-', '-' :: more =>
      match more.dropWhile isBlank with
      | '>' :: rest => some ([], rest)
      | _ => goOn
    | _, _ => goOn

/-- Cuts at the first `]`, blanks and `>`; with `twice`, at the first two brackets and `>`. -/
def cutAtSectionEnd (twice : Bool) : List Char → Option (List Char × List Char)
  | [] => none
  | c :: cs =>
    let goOn := (cutAtSectionEnd twice cs).map fun (content, rest) => (c :: content, rest)
    if c == ']' then
      match cs.dropWhile isBlank with
      | '>' :: rest => if twice then goOn else some ([], rest)
      | ']' :: more =>
        match twice, more.dropWhile isBlank with
        | true, '>' :: rest => some ([], rest)
        | _, _ => goOn
      | _ => goOn
    else goOn

/-- The keywords of sections that end at two brackets. -/
def isStandardSection (keyword : String) : Bool :=
  ["temp", "cdata", "ignore", "include", "rcdata"].contains keyword

/-- The keywords of sections that end at one bracket. -/
def isConditionalSection (keyword : String) : Bool :=
  ["if", "else", "endif"].contains keyword

/-- What a step of the reading comes to. -/
inductive Found where
  | token (t : Token) (rest : List Char)
  | rawElement (t : Token) (name : String) (rest : List Char)
  | incomplete

/-- Reads a section, given the text after `<![`. -/
def readSection (cs : List Char) : Except Rejection Found :=
  match cs with
  | [] => .ok .incomplete
  | c :: _ =>
    if isLetter c then
      let (name, rest) := cs.span fun d => d.isAlphanum || d == '-' || d == '_' || d == '.'
      let (blanks, rest) := rest.span isBlank
      if rest.isEmpty then .ok .incomplete
      else
        let keyword := String.ofList (name.map Char.toLower)
        let ending :=
          if isStandardSection keyword then some (cutAtSectionEnd true cs)
          else if isConditionalSection keyword then some (cutAtSectionEnd false cs)
          else none
        match ending with
        | none => .error (.unknownSection (String.ofList (name ++ blanks)))
        | some none => .ok .incomplete
        | some (some (content, rest)) => .ok (.token (.section content) rest)
    else .error (.unnamedSection (String.ofList (('<' :: '!' :: '[' :: cs).take 20)))

/-- A token whose content runs to the next `>`. -/
def upToBracket (token : List Char → Token) (cs : List Char) : Found :=
  match Text.cutAt '>' cs with
  | (content, some rest) => .token (token content) rest
  | (_, none) => .incomplete

/-- Reads what `<!` starts, given the text after it. -/
def readDeclaration (cs : List Char) : Except Rejection Found :=
  match cs with
  | '-' :: '-' :: more =>
    match cutAtCommentEnd more with
    | some (content, rest) => .ok (.token (.comment content) rest)
    | none => .ok .incomplete
  | '[' :: more => readSection more
  | _ =>
    if (cs.take 7).map Char.toLower = "doctype".toList then
      match Text.cutAt '>' (cs.drop 7) with
      | (content, some rest) => .ok (.token (.doctype content) rest)
      | (_, none) => .ok .incomplete
    else .ok (upToBracket .comment cs)

/-- The name of an end tag that is written as it should be, given the text after `</`. -/
def plainEndTag? (cs : List Char) : Option (List Char × List Char) :=
  match cs.dropWhile isBlank with
  | [] => none
  | c :: more =>
    if isLetter c then
      let (tail, rest) := more.span fun d =>
        d.isAlphanum || d == '-' || d == '.' || d == ':' || d == '_'
      match rest.dropWhile isBlank with
      | '>' :: rest => some (c :: tail, rest)
      | _ => none
    else none

/-- Reads an end tag, given the text after `</`.  What follows the name is passed over; an end tag
without a name is a comment, or nothing. -/
def readEndTag (cs : List Char) : Found :=
  match Text.cutAt '>' cs with
  | (_, none) => .incomplete
  | (content, some rest) =>
    match plainEndTag? cs with
    | some (name, rest) => .token (.closeTag (String.ofList (name.map Char.toLower))) rest
    | none =>
      match cs with
      | [] => .incomplete
      | c :: _ =>
        if isLetter c then
          .token (.closeTag (String.ofList (Text.lowerChars (cs.takeWhile isTagNameChar)))) rest
        else if content.isEmpty then .token (.text []) rest
        else .token (.comment content) rest

/-- What was read from `whole` when `rest` is left. -/
def readBefore (whole rest : List Char) : List Char :=
  whole.take (whole.length - rest.length)

/-- Reads a start tag, given the text after `<`. -/
def readOpenTag (cs : List Char) : Except Rejection Found :=
  match readStartTag cs with
  | (_, _, .incomplete) => .ok .incomplete
  | (_, _, .broken rest) => .ok (.token (.text ('<' :: readBefore cs rest)) rest)
  | (name, written, .closed selfClosing rest) =>
    let name := String.ofList (Text.lowerChars name)
    match attributesOf written with
    | .error e => .error (.tooManyDigits e)
    | .ok attributes =>
      let token := Token.openTag name attributes selfClosing
      .ok (if isRawElement name && !selfClosing then .rawElement token name rest
        else .token token rest)

/-! ### References in text -/

/-- What an ampersand in text comes to: characters and the text after them, or the end of a pass,
perhaps with some text passed over. -/
inductive Ampersand where
  | characters (cs : List Char) (rest : List Char)
  | stop (before : List Char) (rest : List Char)

/-- The rest without a semicolon at its start. -/
def dropSemicolon (cs : List Char) : List Char :=
  (takeSemicolon cs).2

/-- Reads the numeric reference after `&#`.  Its digits must be followed by something that is not a
hexadecimal digit. -/
def readNumeric (cs : List Char) : Except Number.TooManyDigits Ampersand :=
  let stop : Ampersand :=
    if cs.contains ';' then .stop ['&', '#'] cs else .stop [] ('&' :: '#' :: cs)
  match cs.span Char.isDigit with
  | ([], _) =>
    match cs with
    | x :: hex =>
      match hex.span Number.isHexDigit with
      | (d :: ds, rest) =>
        if (x == 'x' || x == 'X') && !rest.isEmpty then
          .ok (.characters [numericCharacter (Number.ofHexDigits (d :: ds))] (dropSemicolon rest))
        else .ok stop
      | ([], _) => .ok stop
    | [] => .ok stop
  | (ds, rest) =>
    match rest with
    | c :: _ =>
      if Number.isHexDigit c then .ok stop
      else do
        let n ← Number.convert ds
        return .characters [numericCharacter n] (dropSemicolon rest)
    | [] => .ok stop

/-- Whether the character may stand in a name after its first letter. -/
def isReferenceNameChar (c : Char) : Bool :=
  c.isAlphanum || c == '-' || c == '.'

/-- Cuts before the last hyphen or point of a name, if it has one. -/
def cutName? (name : List Char) : Option (List Char × List Char) :=
  match name.reverse.span Char.isAlphanum with
  | (_, []) => none
  | (tail, mark :: start) => some (start.reverse, mark :: tail.reverse)

/-- Reads the named reference after `&`, which starts with a letter.  The name must be followed by
something: at the end of the text it ends before its last hyphen or point.  In the second pass an
ampersand and one letter that are all that is left lose the ampersand. -/
def readNamed (final : Bool) (cs : List Char) : Ampersand :=
  let (name, rest) := cs.span isReferenceNameChar
  if rest.isEmpty then
    match cutName? name with
    | some (name, rest) => .characters (namedText name) (dropSemicolon rest)
    | none => if final && name.length == 1 then .stop [] cs else .stop [] ('&' :: cs)
  else .characters (namedText name) (dropSemicolon rest)

/-- Reads what an ampersand starts, given the text after it. -/
def readAmpersand (final : Bool) (cs : List Char) : Except Number.TooManyDigits Ampersand :=
  match cs with
  | '#' :: more => readNumeric more
  | c :: _ => if isLetter c then .ok (readNamed final cs) else .ok (.characters ['&'] cs)
  | [] => .ok (.stop [] ['&'])

/-! ### Raw text -/

/-- Whether the character counts as the letter `letter` of an end tag that is looked for without
regard to case.  Beside the two cases of ASCII, the long s counts as an s and the i with and
without its dot as an i. -/
def matchesLetter (letter c : Char) : Bool :=
  c.toLower == letter || (letter == 's' && c == 'ſ') || (letter == 'i' && (c == 'ı' || c == 'İ'))

/-- What is left after letters that match the name. -/
def dropName? : List Char → List Char → Option (List Char)
  | [], cs => some cs
  | _ :: _, [] => none
  | l :: ls, c :: cs => if matchesLetter l c then dropName? ls cs else none

/-- What is left after the end tag of a raw element, if the text starts with it. -/
def dropRawEnd? (name : String) (cs : List Char) : Option (List Char) :=
  match cs with
  | '<' :: '/' :: more =>
    match dropName? name.toList (more.dropWhile isBlank) with
    | some rest =>
      match rest.dropWhile isBlank with
      | '>' :: rest => some rest
      | _ => none
    | none => none
  | _ => none

/-- Cuts at the end tag of a raw element: the text before it, the tag and what follows. -/
def cutAtRawEnd (name : String) : List Char → Option (List Char × List Char × List Char)
  | [] => none
  | c :: cs =>
    match dropRawEnd? name (c :: cs) with
    | some rest => some ([], readBefore (c :: cs) rest, rest)
    | none => (cutAtRawEnd name cs).map fun (before, tag, rest) => (c :: before, tag, rest)

/-! ### The reading -/

/-- A step of the reading: tokens, the raw element the reading is in after them, and the text it
goes on with; or the end of a pass. -/
inductive Step where
  | advance (tokens : List Token) (raw : Option String) (rest : List Char)
  | stall (tokens : List Token) (raw : Option String) (rest : List Char)

/-- What the second pass makes of a construct that is never completed: text up to the next closing
bracket, or else up to the next opening one, or else the bracket alone. -/
def cutIncomplete (cs : List Char) : List Char × List Char :=
  match Text.cutAt '>' cs with
  | (before, some rest) => ('<' :: before ++ ['>'], rest)
  | (_, none) =>
    match cs.span (· ≠ '<') with
    | (_, []) => (['<'], cs)
    | (before, rest) => ('<' :: before, rest)

/-- Reads what `<` starts, given the text after it. -/
def readMarkup (final : Bool) (cs : List Char) : Except Rejection Step := do
  let finish (found : Found) : Step :=
    match found with
    | .token t rest => .advance [t] none rest
    | .rawElement t name rest => .advance [t] (some name) rest
    | .incomplete =>
      if final then
        let (text, rest) := cutIncomplete cs
        .advance [.text text] none rest
      else .stall [] none ('<' :: cs)
  match cs with
  | [] => return .stall [] none ['<']
  | c :: more =>
    if isLetter c then finish <$> readOpenTag cs
    else if c == '/' then return finish (readEndTag more)
    else if c == '?' then return finish (upToBracket .instruction more)
    else if c == '!' then finish <$> readDeclaration more
    else return .advance [.text ['<']] none cs

/-- One step of the reading of a text that is not empty. -/
def step (final : Bool) (raw : Option String) (cs : List Char) : Except Rejection Step :=
  match raw with
  | some name =>
    match cutAtRawEnd name cs with
    | none => .ok (.stall [] (some name) cs)
    | some (before, tag, rest) =>
      match plainEndTag? (tag.drop 2) with
      | some _ => .ok (.advance [.text before, .closeTag name] none rest)
      | none => .ok (.advance [.text before, .text tag] (some name) rest)
  | none =>
    match cs.span fun c => !(c == '<' || c == '&') with
    | (c :: plain, rest) => .ok (.advance [.text (c :: plain)] none rest)
    | ([], '<' :: rest) => readMarkup final rest
    | ([], rest) =>
      match readAmpersand final (rest.drop 1) with
      | .error e => .error (.tooManyDigits e)
      | .ok (.characters text rest) => .ok (.advance [.text text] none rest)
      | .ok (.stop text rest) => .ok (.stall [.text text] none rest)

/-- Reads text as tokens, from the state of a pass. -/
def tokensFrom : Nat → Bool → Option String → List Char → Except Rejection (List Token)
  | 0, _, _, _ => .ok []
  | _ + 1, _, _, [] => .ok []
  | fuel + 1, final, raw, cs => do
    match ← step final raw cs with
    | .advance tokens raw rest => return tokens ++ (← tokensFrom fuel final raw rest)
    | .stall tokens raw rest =>
      if final then return tokens ++ (if raw.isSome then [] else [.text rest])
      else return tokens ++ (← tokensFrom fuel true raw rest)

/-- Reads a document as tokens. -/
def tokens (s : String) : Except Rejection (List Token) :=
  tokensFrom (2 * s.length + 2) false none s.toList

end VacancyLedger.Markup
