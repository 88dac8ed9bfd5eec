/-
The vacancies of a document.

A value is a tree: inside a list are its items, inside an object the values of its members.
The objects that describe vacancies are found by a walk over this tree in pre-order, and it
passes none by and takes none twice, wherever they stand, also one inside another.

So what is found depends on nothing but the objects that describe vacancies and on their order.
A value may be wrapped in lists and in objects that describe none, next to whatever holds none,
and the same vacancies are found in it.
-/
import VacancyLedger.Advert.Field
import VacancyLedger.Proofs.Preorder

namespace VacancyLedger

/-- The values inside a value: the items of a list, the values of the members of an object. -/
def Json.children : Json → List Json
  | .list items => items
  | .object members => members.map (·.2)
  | _ => []

/-- The value at a place inside a value. -/
abbrev Json.inside? (value : Json) : Place → Option Json := nodeAt? Json.children value

namespace Advert

/-- Whether a value is the name of the type of vacancies. -/
def NamesVacancies (type : Json) : Prop := ∃ s, type = .text s ∧ Text.lower s = "jobposting"

/-- Whether a value is an object that says it describes a vacancy: its type is the type of
vacancies, or that is one of its types. -/
def DescribesVacancy (value : Json) : Prop :=
  ∃ type, value.get? "@type" = some type ∧
    (NamesVacancies type ∨ ∃ types, type = .list types ∧ ∃ name ∈ types, NamesVacancies name)

/-- Whether nothing in a value describes a vacancy. -/
def HasNoVacancy (value : Json) : Prop :=
  ∀ place node, value.inside? place = some node → ¬DescribesVacancy node

theorem isVacancyType_iff {type : Json} : isVacancyType type = true ↔ NamesVacancies type := by
  cases type <;> simp [isVacancyType, NamesVacancies]

theorem isVacancy_iff {members : List (String × Json)} :
    isVacancy members = true ↔ DescribesVacancy (.object members) := by
  have hget : (Json.object members).get? "@type" = members.lookup "@type" := rfl
  unfold isVacancy DescribesVacancy
  rw [hget]
  cases members.lookup "@type" with
  | none => simp
  | some type => cases type <;> simp [isVacancyType_iff, NamesVacancies]

theorem not_describesVacancy_of_no_object {value : Json} (h : ∀ name, value.get? name = none) :
    ¬DescribesVacancy value := by
  rintro ⟨type, htype, -⟩
  cases (h "@type").symm.trans htype

/-! ### The walk -/

/-- A value with nothing inside it that is no object. -/
theorem walks_leaf {value : Json} (hchildren : value.children = [])
    (h : ∀ name, value.get? name = none) : Walks value.inside? DescribesVacancy [] := by
  refine .unwanted ?_ (not_describesVacancy_of_no_object h)
  rw [hchildren]
  exact walks_nil

mutual

theorem walks_vacanciesIn (value : Json) :
    Walks value.inside? DescribesVacancy (vacanciesIn value) :=
  match value with
  | .object members => by
      have hinner : Walks (below? Json.children (Json.object members).children) DescribesVacancy
          (vacanciesInMembers members) := walks_vacanciesInMembers members
      rw [vacanciesIn]
      split
      · rename_i h
        exact .wanted hinner (isVacancy_iff.mp h)
      · rename_i h
        exact .unwanted hinner (mt isVacancy_iff.mpr h)
  | .list items => by
      have hinner : Walks (below? Json.children (Json.list items).children) DescribesVacancy
          (vacanciesInItems items) := walks_vacanciesInItems items
      rw [vacanciesIn]
      exact .unwanted hinner (not_describesVacancy_of_no_object fun _ => rfl)
  | .null | .bool _ | .int _ | .real _ | .text _ | .torn _ _ => by
      rw [vacanciesIn]
      · exact walks_leaf rfl fun _ => rfl
      all_goals simp

theorem walks_vacanciesInMembers (members : List (String × Json)) :
    Walks (below? Json.children (members.map (·.2))) DescribesVacancy
      (vacanciesInMembers members) :=
  match members with
  | [] => walks_nil
  | (_, value) :: members => (walks_vacanciesIn value).cons (walks_vacanciesInMembers members)

theorem walks_vacanciesInItems (items : List Json) :
    Walks (below? Json.children items) DescribesVacancy (vacanciesInItems items) :=
  match items with
  | [] => walks_nil
  | item :: items => (walks_vacanciesIn item).cons (walks_vacanciesInItems items)

end

theorem vacanciesIn_eq_nil_iff {value : Json} : vacanciesIn value = [] ↔ HasNoVacancy value := by
  rw [List.eq_nil_iff_forall_not_mem]
  constructor
  · intro h place node hnode hvacancy
    exact h node ((walks_vacanciesIn value).mem_iff.mpr ⟨hvacancy, place, hnode⟩)
  · intro h node hnode
    obtain ⟨hvacancy, place, hat⟩ := (walks_vacanciesIn value).mem_iff.mp hnode
    exact h place node hat hvacancy

/-! ### Lists, objects and wrappings -/

theorem vacanciesInItems_eq (items : List Json) :
    vacanciesInItems items = items.flatMap vacanciesIn := by
  induction items with
  | nil => rfl
  | cons item items ih => rw [vacanciesInItems, ih, List.flatMap_cons]

theorem vacanciesInMembers_eq (members : List (String × Json)) :
    vacanciesInMembers members = members.flatMap fun member => vacanciesIn member.2 := by
  induction members with
  | nil => rfl
  | cons member members ih => rw [vacanciesInMembers, ih, List.flatMap_cons]

/-- The ways to wrap a value in lists and in objects that describe no vacancy, next to values in
which there is none. -/
inductive Wraps (value : Json) : Json → Prop
  | bare : Wraps value value
  | list {wrapped : Json} {before after : List Json} (h : Wraps value wrapped)
      (hbefore : ∀ item ∈ before, HasNoVacancy item) (hafter : ∀ item ∈ after, HasNoVacancy item) :
      Wraps value (.list (before ++ wrapped :: after))
  | object {wrapped : Json} {name : String} {before after : List (String × Json)}
      (h : Wraps value wrapped)
      (hbefore : ∀ member ∈ before, HasNoVacancy member.2)
      (hafter : ∀ member ∈ after, HasNoVacancy member.2)
      (hobject : ¬DescribesVacancy (.object (before ++ (name, wrapped) :: after))) :
      Wraps value (.object (before ++ (name, wrapped) :: after))

/-- What is found in one of several parts, the others holding nothing. -/
theorem flatMap_around {α β : Type} {f : α → List β} {before after : List α} (a : α)
    (hbefore : ∀ b ∈ before, f b = []) (hafter : ∀ b ∈ after, f b = []) :
    (before ++ a :: after).flatMap f = f a := by
  rw [List.flatMap_append, List.flatMap_cons, List.flatMap_eq_nil_iff.mpr hbefore,
    List.flatMap_eq_nil_iff.mpr hafter, List.nil_append, List.append_nil]

theorem Wraps.vacanciesIn_eq {value wrapped : Json} (h : Wraps value wrapped) :
    vacanciesIn wrapped = vacanciesIn value := by
  induction h with
  | bare => rfl
  | list _ hbefore hafter ih =>
      rw [vacanciesIn, vacanciesInItems_eq, ← ih]
      exact flatMap_around _ (fun item hitem => vacanciesIn_eq_nil_iff.mpr (hbefore item hitem))
        fun item hitem => vacanciesIn_eq_nil_iff.mpr (hafter item hitem)
  | object _ hbefore hafter hobject ih =>
      rw [vacanciesIn, if_neg (mt isVacancy_iff.mp hobject), List.nil_append,
        vacanciesInMembers_eq, ← ih]
      exact flatMap_around (f := fun member : String × Json => vacanciesIn member.2) _
        (fun member hmember => vacanciesIn_eq_nil_iff.mpr (hbefore member hmember))
        fun member hmember => vacanciesIn_eq_nil_iff.mpr (hafter member hmember)

/--
**The vacancies of a document.**  What is found in a value are the objects in it that describe a
vacancy, at whatever depth and inside one another, in pre-order and each once for every place it
stands at.  Wrapping the value in any lists and in any objects that describe no vacancy does not
change what is found, and what is found in a list is what is found in its items, one after the
other.
-/
theorem vacancies_in_preorder (value : Json) :
    Walks value.inside? DescribesVacancy (vacanciesIn value) ∧
      (∀ wrapped, Wraps value wrapped → vacanciesIn wrapped = vacanciesIn value) ∧
      ∀ items, vacanciesIn (.list items) = items.flatMap vacanciesIn := by
  refine ⟨walks_vacanciesIn value, fun wrapped h => h.vacanciesIn_eq, fun items => ?_⟩
  rw [vacanciesIn, vacanciesInItems_eq]

/-- A vacancy that has another one inside it, in a graph beside an organization. -/
theorem vacancies_in_graph :
    let inner := Json.object [("@type", .text "JOBPOSTING")]
    let outer := Json.object
      [("@type", .list [.text "Thing", .text "JobPosting"]), ("related", .list [.list [inner]])]
    let graph := Json.object
      [("@graph", .list [.object [("@type", .text "Organization")], outer, .null])]
    Wraps outer graph ∧ vacanciesIn graph = [outer, inner] := by
  intro inner outer graph
  have hlist : Wraps outer
      (.list ([.object [("@type", .text "Organization")]] ++ outer :: [.null])) := by
    refine .list .bare ?_ ?_
    · exact List.forall_mem_singleton.mpr (vacanciesIn_eq_nil_iff.mp (by rfl))
    · exact List.forall_mem_singleton.mpr (vacanciesIn_eq_nil_iff.mp (by rfl))
  have hwraps : Wraps outer (.object ([] ++ ("@graph", _) :: [])) :=
    .object hlist nofun nofun (mt isVacancy_iff.mpr (by decide))
  have houter : vacanciesIn outer = [outer, inner] := by rfl
  exact ⟨hwraps, ((vacancies_in_preorder outer).2.1 graph hwraps).trans houter⟩

end Advert
end VacancyLedger
