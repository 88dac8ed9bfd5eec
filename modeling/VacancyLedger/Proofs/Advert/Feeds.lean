/-
The adverts of feeds.

A feed is a value that holds a list of items, and it is read item by item.  The three kinds of feeds
differ in where the list is held, in what advert an item makes, and in which items they can read.  A
plain feed can read objects only, the other two pass by what is no object; and Greenhouse writes its
descriptions with character references, one of which may have too many digits.

If every item can be read, there is one advert for each object, in order.  Otherwise there are none
at all, and the complaint is about the first item that cannot be read.
-/
import VacancyLedger.Advert.Format
import VacancyLedger.Proofs.Advert.Tidiness
import VacancyLedger.Proofs.Markup.LongReference
import VacancyLedger.Proofs.Outcome

namespace VacancyLedger.Advert

/-- The kinds of feeds. -/
inductive Feed where
  | plain
  | greenhouse
  | lever
  deriving DecidableEq

/-- Whether no text of an advert but the description is empty or has blanks around it. -/
def IsTidy (a : Advert) : Prop :=
  ∀ field ∈ [a.title, a.location, a.datePosted, a.url], ∀ s ∈ field, Text.IsTidy s

/-- Whether the description of a job in a Greenhouse feed is written with a decimal reference of too
many digits. -/
def HasLongContent (job : Json) : Prop :=
  ∃ content, field? job "content" = some content ∧ Markup.HasLongReference content.toList

namespace Feed

/-- The format of the feeds of a kind. -/
def format : Feed → Format
  | .plain => .jsonFeed
  | .greenhouse => .greenhouse
  | .lever => .lever

/-- The values that hold a list of items. -/
inductive Holds : Feed → Json → List Json → Prop
  | plain {items : List Json} : Holds .plain (.list items) items
  | postings {value : Json} {items : List Json}
      (h : value.get? "postings" = some (.list items)) : Holds .plain value items
  | jobs {value : Json} {items : List Json}
      (hpostings : ∀ others, value.get? "postings" ≠ some (.list others))
      (h : value.get? "jobs" = some (.list items)) : Holds .plain value items
  | greenhouse {value : Json} {items : List Json}
      (h : value.get? "jobs" = some (.list items)) : Holds .greenhouse value items
  | lever {items : List Json} : Holds .lever (.list items) items

/-- The adverts of a list of items. -/
def adverts : Feed → List Json → Except Error (List Advert)
  | .plain, items => ofFeedItems 0 items
  | .greenhouse, items => ofGreenhouseJobs items
  | .lever, items => .ok ((items.filter isObject).map ofLeverJob)

/-- Whether an item can be read. -/
def CanRead : Feed → Json → Prop
  | .plain, item => isObject item = true
  | .greenhouse, item => isObject item = true → ¬HasLongContent item
  | .lever, _ => True

/-- The advert that an object makes. -/
def advert : Feed → Json → Advert
  | .plain, item => ofFeedItem item
  | .greenhouse, job => {
      title := field? job "title"
      location := field? job "location"
      datePosted := field? job "updated_at"
      description := (field? job "content").bind fun content =>
        (Markup.decodeAll content.toList).toOption.map String.ofList
      url := field? job "absolute_url"
      marks := job.marks? }
  | .lever, job => ofLeverJob job

end Feed

/-- Whether a page of a company is refused as one from which nothing can be extracted, in so many
words. -/
def Refused (company : String) (answer : Except Complaint (List Advert)) (message : String) :
    Prop :=
  ∃ complaint, answer = .error complaint ∧ complaint.error.name = "ExtractionError" ∧
    complaint.error.message = message ∧ complaint.company = some company

variable {company body : String} {value item job : Json} {items : List Json} {feed : Feed}

/-! ### Where the items are held -/

theorem listUnder?_eq_some {name : String} :
    listUnder? value name = some items ↔ value.get? name = some (.list items) := by
  rw [listUnder?]
  split
  · rename_i h
    rw [h]
    simp
  · rename_i h
    exact iff_of_false nofun (h items)

theorem listUnder?_eq_none {name : String} :
    listUnder? value name = none ↔ ∀ items, value.get? name ≠ some (.list items) := by
  rw [Option.eq_none_iff_forall_ne_some]
  exact forall_congr' fun items => not_congr listUnder?_eq_some

theorem feedItems?_of_not_list (h : ∀ items, value ≠ .list items) :
    feedItems? value = (listUnder? value "postings").or (listUnder? value "jobs") := by
  rw [feedItems?]
  · simp only [List.findSome?]
    cases listUnder? value "postings" <;> cases listUnder? value "jobs" <;> rfl
  · exact h

theorem feedItems?_eq_some : feedItems? value = some items ↔ Feed.Holds .plain value items := by
  by_cases hlist : ∃ others, value = .list others
  · obtain ⟨others, rfl⟩ := hlist
    constructor
    · intro h
      cases h
      exact .plain
    · intro h
      cases h with
      | plain => rfl
      | postings h => cases h
      | jobs hpostings h => cases h
  · rw [feedItems?_of_not_list fun items h => hlist ⟨items, h⟩, Option.or_eq_some_iff,
      listUnder?_eq_some, listUnder?_eq_none, listUnder?_eq_some]
    constructor
    · rintro (h | ⟨hpostings, h⟩)
      · exact .postings h
      · exact .jobs hpostings h
    · intro h
      cases h with
      | plain => exact absurd ⟨_, rfl⟩ hlist
      | postings h => exact .inl h
      | jobs hpostings h => exact .inr ⟨hpostings, h⟩

/-- The adverts of the value of a feed. -/
def Feed.ofValue : Feed → Json → Except Error (List Advert)
  | .plain => ofFeed
  | .greenhouse => ofGreenhouse
  | .lever => ofLever

theorem ofValue_of_holds (h : feed.Holds value items) :
    feed.ofValue value = feed.adverts items := by
  cases feed with
  | plain =>
      show ofFeed value = ofFeedItems 0 items
      rw [ofFeed, feedItems?_eq_some.mpr h]
  | greenhouse =>
      cases h with
      | greenhouse h =>
          show ofGreenhouse value = ofGreenhouseJobs items
          rw [ofGreenhouse, listUnder?_eq_some.mpr h]
  | lever =>
      cases h with
      | lever => rfl

theorem ofValue_of_none (h : ∀ items, ¬feed.Holds value items) :
    feed.ofValue value = .error (.wrongShape feed.format) := by
  cases feed with
  | plain =>
      show ofFeed value = _
      rw [ofFeed]
      cases hitems : feedItems? value with
      | none => rfl
      | some items => exact absurd (feedItems?_eq_some.mp hitems) (h items)
  | greenhouse =>
      show ofGreenhouse value = _
      rw [ofGreenhouse]
      cases hitems : listUnder? value "jobs" with
      | none => rfl
      | some items => exact absurd (.greenhouse (listUnder?_eq_some.mp hitems)) (h items)
  | lever =>
      cases value with
      | list items => exact absurd .lever (h items)
      | null | bool b | int n | real x | text s | torn marks s | object members => rfl

theorem readFor_eq (h : Json.read body = .ok value) :
    readFor company feed.format body = (feed.ofValue value).mapError (·.about company) := by
  have hfeed : ∀ format, readFeed format body = .ok value := fun format => by rw [readFeed, h]
  cases feed with
  | plain | greenhouse | lever =>
      rw [readFor, Feed.format, read, hfeed]
      rfl

/-! ### The adverts of the items -/

theorem ofFeedItems_ok (h : ∀ item ∈ items, isObject item = true) (index : Nat) :
    ofFeedItems index items = .ok (items.map ofFeedItem) := by
  induction items generalizing index with
  | nil => rfl
  | cons item items ih =>
      obtain ⟨hitem, hitems⟩ := List.forall_mem_cons.mp h
      rw [ofFeedItems, if_pos hitem, ih hitems]
      rfl

theorem ofFeedItems_error {before after : List Json} (hbefore : ∀ b ∈ before, isObject b = true)
    (hitem : isObject item = false) (index : Nat) :
    ofFeedItems index (before ++ item :: after) =
      .error (.itemNotAnObject (index + before.length)) := by
  induction before generalizing index with
  | nil =>
      rw [List.nil_append, ofFeedItems, if_neg (by simp [hitem])]
      rfl
  | cons b before ih =>
      obtain ⟨hb, hrest⟩ := List.forall_mem_cons.mp hbefore
      rw [List.cons_append, ofFeedItems, if_pos hb, ih hrest, List.length_cons,
        Nat.add_right_comm, Nat.add_assoc]
      rfl

theorem ofGreenhouseJobs_eq (jobs : List Json) :
    ofGreenhouseJobs jobs = (jobs.filter isObject).mapM ofGreenhouseJob := by
  induction jobs with
  | nil => rfl
  | cons job jobs ih =>
      rw [ofGreenhouseJobs, ih]
      cases hjob : isObject job with
      | true => rw [if_pos rfl, List.filter_cons_of_pos hjob, List.mapM_cons]
      | false =>
          rw [if_neg Bool.false_ne_true, List.filter_cons_of_neg (by simp [hjob])]

theorem ofGreenhouseJob_ok (h : ¬HasLongContent job) :
    ofGreenhouseJob job = .ok (Feed.greenhouse.advert job) := by
  have hdescription : unescaped? job = .ok (Feed.greenhouse.advert job).description := by
    simp only [unescaped?, Feed.advert]
    cases hcontent : field? job "content" with
    | none => rfl
    | some content =>
        cases hdecoded : Markup.decodeAll content.toList with
        | ok cs => simp [hdecoded, Except.toOption]
        | error e =>
            exact absurd ⟨content, hcontent, Markup.decodeAll_error_iff.mp ⟨e, hdecoded⟩⟩ h
  rw [ofGreenhouseJob, hdescription]
  rfl

theorem ofGreenhouseJob_error (h : HasLongContent job) :
    ∃ e, ofGreenhouseJob job = .error (.tooManyDigits e) := by
  obtain ⟨content, hcontent, hlong⟩ := h
  obtain ⟨e, he⟩ := Markup.decodeAll_error_iff.mpr hlong
  refine ⟨e, ?_⟩
  rw [ofGreenhouseJob, unescaped?, hcontent]
  simp only [he]
  rfl

/-- The first job that cannot be read is what a Greenhouse feed is refused for. -/
theorem ofGreenhouseJobs_error {before : List Json} (after : List Json)
    (hbefore : ∀ other ∈ before, Feed.greenhouse.CanRead other)
    (hjob : ¬Feed.greenhouse.CanRead job) :
    ∃ e, ofGreenhouseJob job = .error (.tooManyDigits e) ∧
      ofGreenhouseJobs (before ++ job :: after) = .error (.tooManyDigits e) := by
  obtain ⟨hobject, hlong⟩ : isObject job = true ∧ HasLongContent job := by
    simpa [Feed.CanRead] using hjob
  obtain ⟨e, he⟩ := ofGreenhouseJob_error hlong
  refine ⟨e, he, ?_⟩
  rw [ofGreenhouseJobs_eq, List.filter_append, List.filter_cons_of_pos hobject]
  have hread : ∀ other ∈ before.filter isObject,
      ofGreenhouseJob other = .ok (Feed.greenhouse.advert other) := fun other hother =>
    ofGreenhouseJob_ok (hbefore other (List.mem_filter.mp hother).1 (List.mem_filter.mp hother).2)
  exact mapM_of_error hread he

theorem adverts_ok (h : ∀ item ∈ items, feed.CanRead item) :
    feed.adverts items = .ok ((items.filter isObject).map feed.advert) := by
  cases feed with
  | plain =>
      have hall : items.filter isObject = items := List.filter_eq_self.mpr h
      rw [hall]
      exact ofFeedItems_ok h 0
  | greenhouse =>
      show ofGreenhouseJobs items = _
      rw [ofGreenhouseJobs_eq]
      refine mapM_of_ok fun job hjob => ?_
      obtain ⟨hmem, hobject⟩ := List.mem_filter.mp hjob
      exact ofGreenhouseJob_ok (h job hmem hobject)
  | lever => rfl

theorem isObject_of_ok {adverts : List Advert} {index : Nat}
    (h : ofFeedItems index items = .ok adverts) : ∀ item ∈ items, isObject item = true := by
  induction items generalizing index adverts with
  | nil => nofun
  | cons item items ih =>
      rw [ofFeedItems] at h
      split at h
      · rename_i hitem
        obtain ⟨others, hothers, -⟩ := bind_ok h
        exact List.forall_mem_cons.mpr ⟨hitem, ih hothers⟩
      · cases h

theorem canRead_of_ok {adverts : List Advert} (h : feed.adverts items = .ok adverts) :
    ∀ item ∈ items, feed.CanRead item := by
  intro item hitem
  cases feed with
  | plain => exact isObject_of_ok h item hitem
  | greenhouse =>
      rintro hobject hlong
      obtain ⟨e, he⟩ := ofGreenhouseJob_error hlong
      have hjobs : ofGreenhouseJobs items = .ok adverts := h
      rw [ofGreenhouseJobs_eq] at hjobs
      obtain ⟨advert, hadvert⟩ := exists_ok_of_mapM_ok hjobs item
        (List.mem_filter.mpr ⟨hitem, hobject⟩)
      cases he.symm.trans hadvert
  | lever => trivial

theorem advert_tidy (feed : Feed) (item : Json) : IsTidy (feed.advert item) := by
  simp only [IsTidy, List.forall_mem_cons, List.not_mem_nil, false_imp_iff, implies_true, and_true]
  cases feed with
  | plain =>
      exact ⟨firstField?_tidy _ _, location?_tidy _, firstField?_tidy _ _, firstField?_tidy _ _⟩
  | greenhouse => exact ⟨field?_tidy _ _, field?_tidy _ _, field?_tidy _ _, field?_tidy _ _⟩
  | lever =>
      refine ⟨field?_tidy _ _, fun s hs => ?_, fun s hs => ?_, firstField?_tidy _ _⟩
      · obtain ⟨categories, -, hlocation⟩ := Option.bind_eq_some_iff.mp hs
        exact field?_tidy categories _ s hlocation
      · obtain ⟨created, -, hdate⟩ := Option.bind_eq_some_iff.mp hs
        exact date?_tidy created s hdate

/-! ### The adverts of a feed -/

theorem json_of_readFor {adverts : List Advert}
    (h : readFor company feed.format body = .ok adverts) : ∃ value, Json.read body = .ok value := by
  cases hread : Json.read body with
  | ok value => exact ⟨value, rfl⟩
  | error e =>
      have hfeed : ∀ format, ∃ error, readFeed format body = .error error := by
        intro format
        rw [readFeed, hread]
        cases e <;> exact ⟨_, rfl⟩
      cases feed with
      | plain | greenhouse | lever =>
          rw [readFor, Feed.format, read] at h
          obtain ⟨error, herror⟩ := hfeed _
          rw [herror] at h
          cases h

theorem tidy_of_readFor {adverts : List Advert}
    (h : readFor company feed.format body = .ok adverts) : ∀ advert ∈ adverts, IsTidy advert := by
  obtain ⟨value, hread⟩ := json_of_readFor h
  rw [readFor_eq hread] at h
  by_cases hholds : ∃ items, feed.Holds value items
  · obtain ⟨items, hitems⟩ := hholds
    have hadverts := mapError_ok h
    rw [ofValue_of_holds hitems] at hadverts
    rw [adverts_ok (canRead_of_ok hadverts)] at hadverts
    cases hadverts
    exact List.forall_mem_map.mpr fun item _ => advert_tidy feed item
  · rw [ofValue_of_none fun items hitems => hholds ⟨items, hitems⟩] at h
    cases h

/--
**Feeds are read item by item.**  The answer to a feed depends on nothing but the items it holds,
and a value that holds none is refused with a complaint that names the company.  If every item can
be read, the answer is one advert for each object, in order, so the answer to a list is that to its
first part and that to the rest.  A plain feed with an item that is no object is refused with the
number of the first one, and a Greenhouse feed with a job that cannot be read with the complaint
about the first one.  In an advert no text but the description is empty or has blanks around
it.
-/
theorem feeds_item_by_item (company : String) (feed : Feed) :
    (∀ body value items, Json.read body = .ok value → feed.Holds value items →
      readFor company feed.format body = (feed.adverts items).mapError (·.about company)) ∧
    (∀ body value, Json.read body = .ok value → (∀ items, ¬feed.Holds value items) →
      Refused company (readFor company feed.format body) feed.format.shapeMessage) ∧
    (∀ items, (∀ item ∈ items, feed.CanRead item) →
      feed.adverts items = .ok ((items.filter isObject).map feed.advert)) ∧
    (∀ items more, (∀ item ∈ items ++ more, feed.CanRead item) → ∃ first rest,
      feed.adverts items = .ok first ∧ feed.adverts more = .ok rest ∧
        feed.adverts (items ++ more) = .ok (first ++ rest)) ∧
    (∀ before item after, feed = .plain → (∀ other ∈ before, isObject other = true) →
      isObject item = false →
        Refused company ((feed.adverts (before ++ item :: after)).mapError (·.about company))
          s!"feed item {before.length} is not an object") ∧
    (∀ before job after, feed = .greenhouse → (∀ other ∈ before, feed.CanRead other) →
      ¬feed.CanRead job → ∃ e, ofGreenhouseJob job = .error (.tooManyDigits e) ∧
        feed.adverts (before ++ job :: after) = .error (.tooManyDigits e)) ∧
    ∀ body adverts, readFor company feed.format body = .ok adverts →
      ∀ advert ∈ adverts, IsTidy advert := by
  refine ⟨?_, ?_, fun items => adverts_ok, ?_, ?_, ?_, fun body adverts => tidy_of_readFor⟩
  · intro body value items hread hholds
    rw [readFor_eq hread, ofValue_of_holds hholds]
  · intro body value hread hnone
    rw [readFor_eq hread, ofValue_of_none hnone]
    exact ⟨_, rfl, rfl, rfl, rfl⟩
  · intro items more hall
    obtain ⟨hitems, hmore⟩ := List.forall_mem_append.mp hall
    refine ⟨_, _, adverts_ok hitems, adverts_ok hmore, ?_⟩
    rw [adverts_ok hall, List.filter_append, List.map_append]
  · rintro before item after rfl hbefore hitem
    have hrefused : Feed.plain.adverts (before ++ item :: after) =
        .error (.itemNotAnObject before.length) := by
      rw [← Nat.zero_add before.length]
      exact ofFeedItems_error hbefore hitem 0
    rw [hrefused]
    exact ⟨_, rfl, rfl, rfl, rfl⟩
  · rintro before job after rfl hbefore hjob
    exact ofGreenhouseJobs_error after hbefore hjob

/-- A feed with a job and a number, one with no list, and items of which the second is no object. -/
theorem feeds_item_by_item_cook :
    readFor "acme" .lever "[\x7b\"text\":\" Cook \"\x7d,7]" =
        .ok [⟨some "Cook", none, none, none, none, none⟩] ∧
      Refused "acme" (readFor "acme" .jsonFeed "\x7b\x7d") Format.jsonFeed.shapeMessage ∧
      Refused "acme" ((Feed.plain.adverts [.object [], .null]).mapError (·.about "acme"))
        "feed item 1 is not an object" := by
  refine ⟨?_, ?_, ?_⟩
  · have hvalue : (Json.read "[\x7b\"text\":\" Cook \"\x7d,7]").toOption.map
        (fun value => (ofLever value).toOption) =
        some (some [⟨some "Cook", none, none, none, none, none⟩]) := by decide +kernel
    obtain ⟨value, hread, hlever⟩ := Option.map_eq_some_iff.mp hvalue
    have hholds : ∃ items, Feed.lever.Holds value items := by
      cases value with
      | list items => exact ⟨items, .lever⟩
      | null | bool b | int n | real x | text s | torn marks s | object members => cases hlever
    obtain ⟨items, hitems⟩ := hholds
    have hadverts := (feeds_item_by_item "acme" .lever).2.2.1 items fun _ _ => trivial
    have hanswer := (feeds_item_by_item "acme" .lever).1 _ value items (ok_of_toOption hread) hitems
    have hofvalue : ofLever value = Feed.lever.adverts items := ofValue_of_holds hitems
    rw [hofvalue, hadverts] at hlever
    rw [hadverts, Option.some.inj hlever] at hanswer
    exact hanswer
  · have hnone : ∀ items, ¬Feed.plain.Holds (.object []) items := by
      intro items h
      cases h with
      | postings h => cases h
      | jobs hpostings h => cases h
    exact (feeds_item_by_item "acme" .plain).2.1 _ (.object []) rfl hnone
  · exact (feeds_item_by_item "acme" .plain).2.2.2.2.1 [.object []] .null [] rfl
      (List.forall_mem_singleton.mpr rfl) rfl

/-- A text that is written as one decimal reference of so many digits. -/
def decimalReference (digits : Nat) : String :=
  String.ofList ('&' :: '#' :: (List.replicate digits '1' ++ [';']))

/-- A job whose description is such a text. -/
def jobWithReference (digits : Nat) : Json := .object [("content", .text (decimalReference digits))]

theorem hasLongContent_jobWithReference {digits : Nat} (h : Number.maxDigits < digits) :
    HasLongContent (jobWithReference digits) := by
  refine ⟨decimalReference digits, ?_, ?_⟩
  · have htidy : Text.IsTidy (decimalReference digits) := by
      rw [Text.isTidy_iff, decimalReference, String.toList_ofList]
      refine ⟨⟨'&', rfl, by decide⟩, ';', ?_, by decide⟩
      rw [← List.cons_append, ← List.cons_append]
      exact List.getLast?_concat
    have hget : (jobWithReference digits).get? "content" =
        some (.text (decimalReference digits)) := rfl
    rw [field?, hget, Option.bind_some, textOf?, trimmed?_of_tidy htidy]
  · rw [decimalReference, String.toList_ofList]
    refine ⟨_, List.suffix_refl _, _, rfl, ?_⟩
    have hdigits : ∀ c ∈ List.replicate digits '1', c.isDigit = true := fun c hc => by
      rw [(List.mem_replicate.mp hc).2]
      rfl
    rw [Text.takeWhile_run hdigits (by simp), List.length_replicate]
    exact h

/-- A job that can be read. -/
def cook : Json := .object [("title", .text "Cook")]

/-- A job that can be read is lost with one that cannot, which is an object as well. -/
theorem greenhouse_loses_jobs :
    Feed.greenhouse.Holds (.object [("jobs", .list ([cook] ++ [jobWithReference 4301]))])
        ([cook] ++ [jobWithReference 4301]) ∧
      (∀ job ∈ [cook] ++ [jobWithReference 4301], isObject job = true) ∧
      Feed.greenhouse.adverts [cook] = .ok [⟨some "Cook", none, none, none, none, none⟩] ∧
      ∃ e, ofGreenhouse (.object [("jobs", .list ([cook] ++ [jobWithReference 4301]))]) =
        .error (.tooManyDigits e) := by
  have hholds : Feed.greenhouse.Holds
      (.object [("jobs", .list ([cook] ++ [jobWithReference 4301]))])
      ([cook] ++ [jobWithReference 4301]) := .greenhouse rfl
  have hcook : Feed.greenhouse.adverts [cook] = .ok [⟨some "Cook", none, none, none, none, none⟩] :=
    ok_of_toOption (by decide +kernel)
  have hdigits : Number.maxDigits < 4301 := by decide
  obtain ⟨e, -, he⟩ := ofGreenhouseJobs_error [] (canRead_of_ok hcook)
    fun hread => hread rfl (hasLongContent_jobWithReference hdigits)
  refine ⟨hholds, List.forall_mem_append.mpr ⟨?_, ?_⟩, hcook, e, ?_⟩
  · exact List.forall_mem_singleton.mpr rfl
  · exact List.forall_mem_singleton.mpr rfl
  · have hvalue := ofValue_of_holds hholds
    exact hvalue.trans he

end VacancyLedger.Advert
