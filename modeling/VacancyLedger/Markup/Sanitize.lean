/-
Removing what a browser would execute from a description.

Elements that run or load code go with all they hold; comments, declarations and
instructions go; so do event handlers and the addresses that are scripts.  The
result is written out again as markup.
-/
import VacancyLedger.Markup.Printer

namespace VacancyLedger.Markup

/-- The elements that are removed with their content. -/
def executableElements : List String :=
  ["script", "style", "iframe", "object", "embed", "noscript", "template"]

/-- Whether an element is removed with its content. -/
def isExecutable (name : String) : Bool := executableElements.contains name

/-- The attributes that hold an address a browser follows. -/
def addressAttributes : List String := ["href", "src", "action", "formaction", "xlink:href"]

/-- The schemes of addresses that are scripts. -/
def scriptSchemes : List String := ["javascript:", "vbscript:"]

/-- The characters of an address that count when its scheme is looked at. -/
def compactAddress (value : String) : List Char :=
  Text.lowerChars (value.toList.filter fun c => !Text.isBlank c && 32 ≤ c.toNat)

/-- Whether an address is a script. -/
def isScriptAddress (value : String) : Bool :=
  scriptSchemes.any fun scheme => Text.startsWith scheme.toList (compactAddress value)

/-- Whether an attribute is removed: an event handler, or an address that is a script. -/
def isUnsafeAttribute (name value : String) : Bool :=
  Text.startsWith ['o', 'n'] name.toList ||
    (addressAttributes.contains name && isScriptAddress value)

/-- The attributes that stay. -/
def safeAttributes (attributes : List (String × String)) : List (String × String) :=
  attributes.filter fun (name, value) => !isUnsafeAttribute name value

mutual

/-- What stays of a node. -/
def Node.sanitize : Node → List Node
  | .text kind content => [.text kind content]
  | .mark _ _ => []
  | .element name attributes children =>
    if isExecutable name then []
    else [.element name (safeAttributes attributes) (sanitizeNodes children)]

/-- What stays of nodes. -/
def sanitizeNodes : List Node → List Node
  | [] => []
  | node :: nodes => node.sanitize ++ sanitizeNodes nodes

end

/-- A description without what a browser would execute. -/
def sanitize (description : String) : Except Rejection String :=
  (parse description).map fun nodes => render (sanitizeNodes nodes)

/-- The prose of a description, its words separated by one space. -/
def plainText (description : String) : Except Rejection String :=
  (parse description).map fun nodes => Text.collapse (Text.joinWith " " (pieces nodes))

end VacancyLedger.Markup
