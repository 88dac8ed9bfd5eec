/-
The rules a site has for robots.

The text is a sequence of groups.  A group names agents and then says which paths they may
or may not ask for, and how long they should wait between two requests.  The first group
with an agent that occurs in the name of the robot counts, else the first group for all
agents; in it the first rule whose path starts the path asked for.
-/
import VacancyLedger.Address.Join
import VacancyLedger.Address.Percent
import VacancyLedger.Address.Request
import VacancyLedger.Crawl.Exchange
import VacancyLedger.Text.Blank
import VacancyLedger.Text.Digit
import VacancyLedger.Text.Lines

namespace VacancyLedger.Crawl

/-- Paths that start like this are allowed, or are not. -/
structure Rule where
  path : List Char
  allowed : Bool
  deriving DecidableEq

/-- The rules for some agents. -/
structure Group where
  agents : List (List Char)
  rules : List Rule
  delay : Option Nat
  deriving DecidableEq

/-- The rules of a site: the groups for agents by name, and the one for all agents. -/
structure Rules where
  groups : List Group
  fallback : Option Group
  deriving DecidableEq

/-- Why the rules of a site, or an address, cannot be made sense of. -/
inductive RuleError where
  | address (e : Address.Error)
  | target (e : Address.Request.Refusal)
  | trouble (t : Trouble)
  | illegible (e : Text.Illegible)
  | notANumber (text : String)
  | tooManyDigits (e : Number.TooManyDigits)
  | delayTooLong

/-- The name the complaint is reported by. -/
def RuleError.name : RuleError → String
  | .target _ => "InvalidURL"
  | .trouble t => t.name
  | .illegible e => e.name
  | .delayTooLong => "OverflowError"
  | _ => "ValueError"

/-- The complaint in words. -/
def RuleError.message : RuleError → String
  | .address e => e.message
  | .target e => e.message
  | .trouble t => t.message
  | .illegible e => e.message
  | .notANumber text => s!"invalid literal for int() with base 10: {Text.quoted text}"
  | .tooManyDigits e => e.message
  | .delayTooLong => "int too large to convert to float"

/-! ### Reading rules -/

/-- A path as it is compared: without the marks that stand before nothing, and encoded. -/
def plainPath (path : List Char) : Except RuleError (List Char) := do
  let p ← (Address.split path).mapError .address
  let (name, parameters) := Address.cutParameters p.scheme p.path
  let url := Address.unsplit { p with path := Address.withParameters name parameters }
  return Address.encodeExcept (fun c => Address.isUnreserved c || c == '/') url

/-- A rule; one that forbids nothing allows everything. -/
def Rule.of (path : List Char) (allowed : Bool) : Except RuleError Rule := do
  return ⟨← plainPath path, allowed || path.isEmpty⟩

/-- A number that looks like one; what does not is no number. -/
def number? (text : List Char) : Except RuleError (Option Nat) :=
  let digits := Text.trim text
  if digits.isEmpty || !digits.all Text.isDigit then .ok none
  else
    match Text.natOfDigits? digits with
    | none => .error (.notANumber (String.ofList text))
    | some n =>
      if Number.maxDigits < digits.length then .error (.tooManyDigits ⟨digits.length⟩)
      else .ok (some n)

/-- What a line of the text says. -/
inductive Line where
  | blank
  | agent (name : List Char)
  | rule (r : Rule)
  | delay (seconds : Option Nat)
  | rate
  | other

/-- Checks the two numbers of a rate, which is then not used. -/
def checkRate (value : List Char) : Except RuleError Unit :=
  match Text.splitAll '/' value with
  | [requests, seconds] =>
    if (Text.trim seconds).isEmpty || !(Text.trim seconds).all Text.isDigit then .ok ()
    else do
      if (← number? requests).isSome then discard (number? seconds)
  | _ => .ok ()

/-- Reads a line; what stands before the first agent is not looked at, as `inGroup` tells. -/
def Line.read (inGroup : Bool) (line : List Char) : Except RuleError Line :=
  if line.isEmpty then .ok .blank
  else
    match Text.cutAt ':' (Text.trim (Text.cutAt '#' line).1) with
    | (_, none) => .ok .other
    | (name, some value) =>
      let value := Address.decodePercent (Text.trim value)
      match String.ofList (Text.lowerChars (Text.trim name)) with
      | "user-agent" => .ok (.agent value)
      | "disallow" => if inGroup then (Rule.of value false).map .rule else .ok .other
      | "allow" => if inGroup then (Rule.of value true).map .rule else .ok .other
      | "crawl-delay" => if inGroup then (number? value).map .delay else .ok .other
      | "request-rate" => if inGroup then (checkRate value).map fun _ => .rate else .ok .other
      | _ => .ok .other

/-- How far the reading of a group has come: nothing has been read, only agents have, or rules. -/
inductive Phase where
  | outside
  | agents
  | rules
  deriving DecidableEq

/-- The rules read so far and the group that is being read. -/
structure Reading where
  rules : Rules
  group : Group
  phase : Phase

/-- A group without agents and rules. -/
def Group.empty : Group := ⟨[], [], none⟩

/-- Rules with one more group; of the groups for all agents the first one counts. -/
def Rules.add (r : Rules) (g : Group) : Rules :=
  if g.agents.contains ['*'] then { r with fallback := r.fallback.or (some g) }
  else { r with groups := r.groups ++ [g] }

/-- Ends the group that is being read; it counts only if it has rules. -/
def Reading.close (r : Reading) : Reading :=
  { rules := if r.phase = .rules then r.rules.add r.group else r.rules
    group := .empty
    phase := .outside }

/-- Takes in what a line says. -/
def Reading.push (r : Reading) : Line → Reading
  | .blank => if r.phase = .outside then r else r.close
  | .agent name =>
    let r := if r.phase = .rules then r.close else r
    { r with group := { r.group with agents := r.group.agents ++ [name] }, phase := .agents }
  | .rule rule =>
    { r with group := { r.group with rules := r.group.rules ++ [rule] }, phase := .rules }
  | .delay seconds =>
    { r with group := { r.group with delay := seconds.or r.group.delay }, phase := .rules }
  | .rate => { r with phase := .rules }
  | .other => r

/-- Reads lines one after the other. -/
def Reading.pushAll (r : Reading) : List (List Char) → Except RuleError Reading
  | [] => .ok r
  | line :: rest => do
    let line ← Line.read (r.phase ≠ .outside) line
    (r.push line).pushAll rest

/-- Reads the rules of a site. -/
def Rules.read (text : String) : Except RuleError Rules := do
  let r ← Reading.pushAll ⟨⟨[], none⟩, .empty, .outside⟩ (Text.lines text.toList)
  return r.close.rules

/-! ### Asking rules -/

/-- The name of a robot that groups are looked up by. -/
def robotName (agent : String) : List Char :=
  Text.lowerChars (Text.cutAt '/' agent.toList).1

/-- Whether a group is for a robot. -/
def Group.appliesTo (g : Group) (robot : List Char) : Bool :=
  g.agents.any fun agent => agent == ['*'] || Text.contains (Text.lowerChars agent) robot

/-- The group that counts for a robot. -/
def Rules.groupFor (r : Rules) (agent : String) : Option Group :=
  (r.groups.find? (·.appliesTo (robotName agent))).or r.fallback

/-- The part of an address that rules are about. -/
def askedPath (url : String) : Except RuleError (List Char) := do
  let p ← (Address.split (Address.decodePercent url.toList)).mapError .address
  let (name, parameters) := Address.cutParameters p.scheme p.path
  let located := Address.unsplit
    { p with scheme := [], authority := [], path := Address.withParameters name parameters }
  let path := Address.encodeExcept (fun c => Address.isUnreserved c || c == '/') located
  return if path.isEmpty then ['/'] else path

/-- Whether the first rule of a group that is about a path allows it. -/
def Group.allows (g : Group) (path : List Char) : Bool :=
  match g.rules.find? fun rule => Text.startsWith rule.path path with
  | some rule => rule.allowed
  | none => true

/-- Whether a robot may ask for an address. -/
def Rules.allows (r : Rules) (agent url : String) : Except RuleError Bool := do
  let path ← askedPath url
  return (r.groupFor agent).elim true (·.allows path)

/-- How long a robot should wait between two requests. -/
def Rules.delay? (r : Rules) (agent : String) : Option Nat :=
  ((r.groupFor agent).bind (·.delay)).or ((r.groupFor "*").bind (·.delay))

end VacancyLedger.Crawl
