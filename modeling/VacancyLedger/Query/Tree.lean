/-
A query as a tree of alternatives.

    query    := sequence?
    sequence := item ( [OR] item )*
    item     := term | "(" sequence ")"

Every item of a sequence is an alternative; "or" may stand between two of them and
changes nothing.  Excluding terms are collected wherever they stand, and a group that
holds nothing else leaves no node.
-/
import VacancyLedger.Query.Token

namespace VacancyLedger

/-- What a query asks for. -/
inductive Query.Tree where
  | term (t : Query.Term)
  | anyOf (alternatives : List Query.Tree)

/-- A query: what it asks for, if anything, and what it excludes. -/
structure Query where
  included : Option Query.Tree
  excluded : List Query.Term

namespace Query

/-- The items of a sequence as they were read: the nodes they leave, the terms they exclude, how
many there were, and the tokens after them. -/
structure Items where
  nodes : List Tree
  excluded : List Term
  count : Nat
  rest : List Token

/-- The node of a sequence: there is none if it only excludes. -/
def Items.node? (items : Items) : Option Tree :=
  if items.nodes.isEmpty then none else some (.anyOf items.nodes)

/-- Items with one more before them. -/
def Items.cons (node : Option Tree) (excluded : List Term) (items : Items) : Items :=
  { items with nodes := node.toList ++ items.nodes, excluded := excluded ++ items.excluded }

/-- Reads the items of a sequence up to a closing parenthesis or the end.  `count` items have been
read before; `pending` is the position of an "or" that waits for its second item. -/
def readItems : Nat → Nat → Option Nat → List Token → Except Error Items
  | 0, count, _, tokens => .ok ⟨[], [], count, tokens⟩
  | fuel + 1, count, pending, tokens =>
    match tokens with
    | [] => finish count pending []
    | token :: rest =>
      match token.kind with
      | .closing => finish count pending tokens
      | .or _ =>
        if count = 0 ∨ pending.isSome then .error ⟨.misplacedOr, token.position⟩
        else readItems fuel count (some token.position) rest
      | .term t negated => do
        let items ← readItems fuel (count + 1) none rest
        return if negated then items.cons none [t] else items.cons (some (.term t)) []
      | .opening => do
        let group ← readItems fuel 0 none rest
        if group.count = 0 then throw ⟨.emptyGroup, token.position⟩
        match group.rest with
        | [] => throw ⟨.unclosedGroup, token.position⟩
        | _ :: rest =>
          let items ← readItems fuel (count + 1) none rest
          return items.cons group.node? group.excluded
where
  /-- The end of a sequence, which no "or" may stand before. -/
  finish (count : Nat) (pending : Option Nat) (rest : List Token) : Except Error Items :=
    match pending with
    | some position => .error ⟨.misplacedOr, position⟩
    | none => .ok ⟨[], [], count, rest⟩

/-- The query that tokens make. -/
def ofTokens (tokens : List Token) : Except Error Query := do
  let items ← readItems (tokens.length + 1) 0 none tokens
  match items.rest with
  | token :: _ => throw ⟨.unmatchedClosing, token.position⟩
  | [] => return ⟨items.node?, items.excluded⟩

/-- Reads a query; a blank one asks for nothing and excludes nothing. -/
def parse (query : String) : Except Error Query :=
  if Text.isAllBlank query then .ok ⟨none, []⟩ else tokenize query >>= ofTokens

end Query
end VacancyLedger
