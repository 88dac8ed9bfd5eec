/-
The words of a query.

A query is read from left to right into parentheses, the word "or" and terms: words
and quoted phrases, with a hyphen in front of those that exclude.  Each token keeps
the position of its first character.
-/
import VacancyLedger.Text.Blank
import VacancyLedger.Text.Case
import VacancyLedger.Text.Scan

namespace VacancyLedger.Query

/-- What a query looks for: a word, or a phrase that stood between quotes. -/
structure Term where
  text : String
  phrase : Bool
  deriving DecidableEq

/-- The kinds of tokens. -/
inductive Kind where
  | opening
  | closing
  | or (word : String)
  | term (t : Term) (negated : Bool)
  deriving DecidableEq

/-- A token and the position of its first character. -/
structure Token where
  kind : Kind
  position : Nat
  deriving DecidableEq

/-- What can be wrong with a query. -/
inductive Fault where
  | loneNegation
  | unterminatedQuote
  | emptyPhrase
  | misplacedOr
  | emptyGroup
  | unclosedGroup
  | unmatchedClosing
  deriving DecidableEq

/-- A fault in words. -/
def Fault.message : Fault → String
  | .loneNegation => "negation must be immediately followed by a term"
  | .unterminatedQuote => "unterminated quote"
  | .emptyPhrase => "empty phrase"
  | .misplacedOr => "OR must appear between two terms"
  | .emptyGroup => "empty group"
  | .unclosedGroup => "unclosed parenthesis"
  | .unmatchedClosing => "unmatched closing parenthesis"

/-- A fault and the position it is found at. -/
structure Error where
  fault : Fault
  position : Nat
  deriving DecidableEq

/-- An error in words. -/
def Error.message (e : Error) : String :=
  s!"{e.fault.message} at position {e.position}"

/-- Whether the character may stand in a word. -/
def isWordChar (c : Char) : Bool :=
  !(Text.isBlank c || c == '(' || c == ')' || c == '"')

/-- The token of a word: "or" in any case, unless it is negated, or a term. -/
def wordKind (negated : Bool) (word : List Char) : Kind :=
  if !negated && Text.foldChars word == ['o', 'r'] then .or (String.ofList word)
  else .term ⟨String.ofList word, false⟩ negated

/-- A token and what it leaves of the text: how many characters it takes and the rest. -/
structure Lexeme where
  kind : Kind
  size : Nat
  rest : List Char

/-- Reads a term at `position`; `start` is where its token starts, which is before a hyphen. -/
def readTerm (negated : Bool) (position : Nat) : List Char → Except Error Lexeme
  | '"' :: cs =>
    match Text.cutAt '"' cs with
    | (_, none) => .error ⟨.unterminatedQuote, position⟩
    | (inner, some rest) =>
      let phrase := Text.collapseChars inner
      if phrase.isEmpty then .error ⟨.emptyPhrase, position⟩
      else .ok ⟨.term ⟨String.ofList phrase, true⟩ negated, inner.length + 2, rest⟩
  | cs =>
    let word := cs.takeWhile isWordChar
    .ok ⟨wordKind negated word, word.length, cs.dropWhile isWordChar⟩

/-- Reads the token that starts with the non-blank character `c`. -/
def readToken (position : Nat) (c : Char) (cs : List Char) : Except Error Lexeme :=
  if c = '(' then .ok ⟨.opening, 1, cs⟩
  else if c = ')' then .ok ⟨.closing, 1, cs⟩
  else if c = '-' then
    match cs with
    | [] => .error ⟨.loneNegation, position⟩
    | d :: _ =>
      if Text.isBlank d ∨ d = '(' ∨ d = ')' then .error ⟨.loneNegation, position⟩
      else do
        let l ← readTerm true (position + 1) cs
        return { l with size := l.size + 1 }
  else readTerm false position (c :: cs)

/-- Reads a text as tokens, `fuel` at most; `position` counts the characters already read. -/
def tokensFrom : Nat → Nat → List Char → Except Error (List Token)
  | 0, _, _ => .ok []
  | _ + 1, _, [] => .ok []
  | fuel + 1, position, c :: cs =>
    if Text.isBlank c then tokensFrom fuel (position + 1) cs
    else do
      let l ← readToken position c cs
      let more ← tokensFrom fuel (position + l.size) l.rest
      return ⟨l.kind, position⟩ :: more

/-- Reads a query as tokens. -/
def tokenize (query : String) : Except Error (List Token) :=
  tokensFrom query.length 0 query.toList

end VacancyLedger.Query
