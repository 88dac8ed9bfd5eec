/-
Tables: values by key, in the order in which the keys were first put in.

A value put under a key that is there takes the place of the old one, so a table never
holds a key twice if it was made by `insert` alone.  Where the order is not to depend on what
was put in first, keys are sorted.
-/

namespace VacancyLedger

/-- Values by key, in the order in which the keys were first put in. -/
abbrev Table (κ α : Type) := List (κ × α)

namespace Table

variable {κ α : Type} [BEq κ]

/-- Puts a value under a key: in the place of the value the key had, else at the end. -/
def insert (t : Table κ α) (key : κ) (value : α) : Table κ α :=
  if t.any (·.1 == key) then t.map fun (k, v) => if k == key then (k, value) else (k, v)
  else t ++ [(key, value)]

/-- The value under a key. -/
def get? (t : Table κ α) (key : κ) : Option α :=
  List.lookup key t

/-- Takes a key out. -/
def erase (t : Table κ α) (key : κ) : Table κ α :=
  List.filter (fun (k, _) => !(k == key)) t

/-- The keys, in order. -/
def keys (t : Table κ α) : List κ :=
  List.map (·.1) t

/-- The values, in order. -/
def values (t : Table κ α) : List α :=
  List.map (·.2) t

/-- The table made by putting in pairs one after the other. -/
def ofPairs (pairs : List (κ × α)) : Table κ α :=
  pairs.foldl (fun t (k, v) => insert t k v) []

end Table

/-! ### Sorted lists of distinct texts -/

namespace Text

/-- Puts a text into a sorted list of distinct texts. -/
def insertSorted (s : String) : List String → List String
  | [] => [s]
  | t :: ts => if s < t then s :: t :: ts else if s = t then t :: ts else t :: insertSorted s ts

/-- The distinct texts of a list, sorted. -/
def sorted (texts : List String) : List String :=
  texts.foldr insertSorted []

end Text
end VacancyLedger
