/-
What a file lists.

The items of a list are read in order, and whether there is anything wrong with one depends on
itself and on the items before it.  So either all items are read, or reading stops at the first
item that has a flaw.  What is known in between is that the items read so far have made sources
of different companies, and that these are the companies that are remembered.
-/
import Mathlib.Data.List.Nodup
import Mathlib.Order.Bounds.Basic
import VacancyLedger.Config.SourceFile
import VacancyLedger.Proofs.Outcome

namespace VacancyLedger.SourceFile

open Address (Naming)

/-- Whether a value is a list of these items, or an object that has one under `companies`. -/
inductive Lists : Json → List Json → Prop where
  | plain (items : List Json) : Lists (.list items) items
  | wrapped {members : List (String × Json)} {items : List Json}
      (h : (Json.object members).get? "companies" = some (.list items)) :
      Lists (.object members) items

/-- Whether bytes are a file that lists these items. -/
def FileLists (bytes : List UInt8) (items : List Json) : Prop :=
  ∃ content value, Text.Utf8.read bytes = .ok content ∧
    Json.read (String.ofList (unifyLineEnds content.toList)) = .ok value ∧ Lists value items

/-- Whether each item makes a source, of another company than the others. -/
structure Makes (naming : Naming) (items : List Json) (sources : List Source) : Prop where
  each : items.map (Source.ofJson naming) = sources.map .ok
  distinct : (sources.map (·.company)).Nodup

/-- What is wrong with the item at a place: it cannot be read, or its company was listed
before. -/
inductive Flaw (naming : Naming) (items : List Json) : Nat → Error → Prop where
  | invalid {n : Nat} {item : Json} {problems : List Config.Problem} (hitem : items[n]? = some item)
      (hread : Source.ofJson naming item = .error problems) :
      Flaw naming items n (.invalid n problems)
  | duplicate {m n : Nat} {earlier item : Json} {first source : Source}
      (hitem : items[n]? = some item) (hread : Source.ofJson naming item = .ok source) (hlt : m < n)
      (hearlier : items[m]? = some earlier) (hfirst : Source.ofJson naming earlier = .ok first)
      (hsame : first.company = source.company) : Flaw naming items n (.duplicate source.company)

/-- Whether an error is about the first item that has a flaw. -/
def AboutFirst (naming : Naming) (items : List Json) (error : Error) : Prop :=
  ∃ n, IsLeast {n | ∃ e, Flaw naming items n e} n ∧ Flaw naming items n error

/-- What reading a file comes to. -/
inductive Reading (naming : Naming) (bytes : List UInt8) : Except Error (List Source) → Prop where
  /-- The items that it lists make sources. -/
  | made {items : List Json} {sources : List Source} (hlists : FileLists bytes items)
      (hmakes : Makes naming items sources) : Reading naming bytes (.ok sources)
  /-- One of the items that it lists has a flaw. -/
  | flawed {items : List Json} {error : Error} (hlists : FileLists bytes items)
      (hfirst : AboutFirst naming items error) : Reading naming bytes (.error error)
  /-- It lists no items. -/
  | unlisted {error : Error} (hnone : ∀ items, ¬ FileLists bytes items) :
      Reading naming bytes (.error error)

variable {naming : Naming} {items before rest : List Json} {sources : List Source}
  {bytes : List UInt8} {error : Error} {n : Nat}

/-! ### Items -/

theorem Makes.length_eq (h : Makes naming items sources) : items.length = sources.length := by
  simpa using congrArg List.length h.each

theorem Makes.snoc (h : Makes naming before sources) {item : Json} {source : Source}
    (hread : Source.ofJson naming item = .ok source)
    (hnew : source.company ∉ sources.map (·.company)) :
    Makes naming (before ++ [item]) (sources ++ [source]) where
  each := by simp [h.each, hread]
  distinct := by
    rw [List.map_append, List.nodup_append]
    refine ⟨h.distinct, List.nodup_singleton _, ?_⟩
    rintro a ha b hb rfl
    rw [List.mem_singleton.mp hb] at ha
    exact hnew ha

end VacancyLedger.SourceFile
