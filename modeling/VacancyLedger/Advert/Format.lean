/-
The formats adverts are read from.

There are four: vacancies described in a web page, a plain feed, and the feeds of the
hiring services Greenhouse and Lever.  A feed whose shape is not that of its format is
refused as a whole; a description in a web page that is no JSON is passed over.
-/
import VacancyLedger.Advert.Field
import VacancyLedger.Json.Reader
import VacancyLedger.Listing.Basic
import VacancyLedger.Markup.Node

namespace VacancyLedger

/-- The formats of pages that adverts are read from. -/
inductive Advert.Format where
  | jsonLd
  | jsonFeed
  | greenhouse
  | lever
  deriving DecidableEq

/-- Why no adverts are read from a page. -/
inductive Advert.Error where
  | malformed (format : Advert.Format) (fault : Json.Fault) (position : Nat)
  | wrongShape (format : Advert.Format)
  | itemNotAnObject (index : Nat)
  | tooManyDigits (e : Number.TooManyDigits)
  | markup (e : Markup.Rejection)

namespace Advert

/-- The name of a format in the configuration of a source. -/
def Format.name : Format → String
  | .jsonLd => "json_ld"
  | .jsonFeed => "json_feed"
  | .greenhouse => "greenhouse"
  | .lever => "lever"

/-- All formats. -/
def Format.all : List Format := [.jsonLd, .jsonFeed, .greenhouse, .lever]

/-- What complaints call a page of the format. -/
def Format.pageName : Format → String
  | .jsonLd => "page"
  | .jsonFeed => "feed body"
  | .greenhouse => "greenhouse payload"
  | .lever => "lever payload"

/-- The complaint about a page whose value has not the shape of the format. -/
def Format.shapeMessage : Format → String
  | .jsonLd => "page has no vacancies"
  | .jsonFeed => "feed must be a list or an object with a 'postings' or 'jobs' list"
  | .greenhouse => "greenhouse payload has no 'jobs' list"
  | .lever => "lever payload must be a list"

/-- Why no adverts are read, in words. -/
def Error.message : Error → String
  | .malformed format fault position =>
    s!"{format.pageName} is not valid JSON: {fault.message} at position {position}"
  | .wrongShape format => format.shapeMessage
  | .itemNotAnObject index => s!"feed item {index} is not an object"
  | .tooManyDigits e => e.message
  | .markup e => e.message

/-- The name an error is reported by. -/
def Error.name : Error → String
  | .tooManyDigits _ => "ValueError"
  | .markup e => e.name
  | _ => "ExtractionError"

/-- Whether the complaint is about what the page holds and not about reading it. -/
def Error.concernsPage : Error → Bool
  | .malformed _ _ _ | .wrongShape _ | .itemNotAnObject _ => true
  | .tooManyDigits _ | .markup _ => false

/-- Whether a value is an object. -/
def isObject : Json → Bool
  | .object _ => true
  | _ => false

/-! ### Vacancies described in a web page -/

/-- The advert that a described vacancy makes. -/
def ofVacancy (node : Json) : Advert where
  title := firstField? node ["title", "name"]
  location := location? (node.get? "jobLocation")
  datePosted := field? node "datePosted"
  description := field? node "description"
  url := field? node "url"
  marks := node.marks?

/-- Whether the attributes of a script say that it holds linked data. -/
def holdsLinkedData (attributes : List (String × String)) : Bool :=
  match attributes.lookup "type" with
  | some type =>
    Text.lowerChars (Text.trim (Text.cutAt ';' type.toList).1) == "application/ld+json".toList
  | none => false

/-- The scripts of a page that hold linked data. -/
def linkedData (nodes : List Markup.Node) : List String :=
  ((Markup.contentsOf "script" nodes).filter fun (attributes, _) =>
    holdsLinkedData attributes).map (·.2)

/-- The adverts of one script; one that is blank or no JSON has none. -/
def ofScript (script : String) : Except Error (List Advert) :=
  if Text.isAllBlank script then .ok []
  else
    match Json.read script with
    | .ok value => .ok ((vacanciesIn value).map ofVacancy)
    | .error (.malformed _ _) => .ok []
    | .error (.tooManyDigits e) => .error (.tooManyDigits e)

/-- The adverts of several scripts, one script after the other. -/
def ofScripts : List String → Except Error (List Advert)
  | [] => .ok []
  | script :: scripts => do
    let adverts ← ofScript script
    return adverts ++ (← ofScripts scripts)

/-- The adverts described in a web page. -/
def ofWebPage (body : String) : Except Error (List Advert) :=
  if Text.isAllBlank body then .ok []
  else
    match Markup.parse body with
    | .error e => .error (.markup e)
    | .ok nodes => ofScripts (linkedData nodes)

/-! ### Feeds -/

/-- The value of a feed. -/
def readFeed (format : Format) (body : String) : Except Error Json :=
  match Json.read body with
  | .ok value => .ok value
  | .error (.malformed fault position) => .error (.malformed format fault position)
  | .error (.tooManyDigits e) => .error (.tooManyDigits e)

/-- The list under a name of an object. -/
def listUnder? (value : Json) (name : String) : Option (List Json) :=
  match value.get? name with
  | some (.list items) => some items
  | _ => none

/-- The items of a plain feed. -/
def feedItems? : Json → Option (List Json)
  | .list items => some items
  | value => ["postings", "jobs"].findSome? (listUnder? value)

/-- The advert that an item of a plain feed makes. -/
def ofFeedItem (item : Json) : Advert where
  title := firstField? item ["title", "name"]
  location := location? ((item.get? "location").or (item.get? "location_text"))
  datePosted := firstField? item ["date_posted", "datePosted"]
  description := firstField? item ["description", "description_html"]
  url := firstField? item ["url", "apply_url", "absolute_url"]
  marks := item.marks?

/-- The adverts of the items of a plain feed, of which `index` is the number of the first. -/
def ofFeedItems (index : Nat) : List Json → Except Error (List Advert)
  | [] => .ok []
  | item :: items =>
    if isObject item then do
      return ofFeedItem item :: (← ofFeedItems (index + 1) items)
    else .error (.itemNotAnObject index)

/-- The adverts of the value of a plain feed. -/
def ofFeed (value : Json) : Except Error (List Advert) :=
  match feedItems? value with
  | some items => ofFeedItems 0 items
  | none => .error (.wrongShape .jsonFeed)

/-- The description under `content`, whose markup is written with character references. -/
def unescaped? (job : Json) : Except Error (Option String) :=
  match field? job "content" with
  | none => .ok none
  | some content =>
    match Markup.decodeAll content.toList with
    | .ok cs => .ok (some (String.ofList cs))
    | .error e => .error (.tooManyDigits e)

/-- The advert of a job in a Greenhouse feed. -/
def ofGreenhouseJob (job : Json) : Except Error Advert := do
  let description ← unescaped? job
  return {
    title := field? job "title"
    location := field? job "location"
    datePosted := field? job "updated_at"
    description
    url := field? job "absolute_url"
    marks := job.marks? }

/-- The adverts of the jobs in a Greenhouse feed; what is no object is passed over. -/
def ofGreenhouseJobs : List Json → Except Error (List Advert)
  | [] => .ok []
  | job :: jobs =>
    if isObject job then do
      let advert ← ofGreenhouseJob job
      return advert :: (← ofGreenhouseJobs jobs)
    else ofGreenhouseJobs jobs

/-- The adverts of a Greenhouse feed. -/
def ofGreenhouse (value : Json) : Except Error (List Advert) :=
  match listUnder? value "jobs" with
  | some jobs => ofGreenhouseJobs jobs
  | none => .error (.wrongShape .greenhouse)

/-- The advert of a job in a Lever feed. -/
def ofLeverJob (job : Json) : Advert where
  title := field? job "text"
  location := (job.get? "categories").bind (field? · "location")
  datePosted := (job.get? "createdAt").bind date?
  description := firstField? job ["description", "descriptionPlain"]
  url := firstField? job ["hostedUrl", "applyUrl"]
  marks := job.marks?

/-- The adverts of a Lever feed; what is no object is passed over. -/
def ofLever : Json → Except Error (List Advert)
  | .list jobs => .ok ((jobs.filter isObject).map ofLeverJob)
  | _ => .error (.wrongShape .lever)

/-- The adverts of a page in a format. -/
def read (format : Format) (body : String) : Except Error (List Advert) :=
  match format with
  | .jsonLd => ofWebPage body
  | .jsonFeed => readFeed format body >>= ofFeed
  | .greenhouse => readFeed format body >>= ofGreenhouse
  | .lever => readFeed format body >>= ofLever

/-! ### Pages of companies -/

/-- Why no adverts are read from the page of a company, and the company if it is named. -/
structure Complaint where
  error : Error
  company : Option String

/-- The complaint that an error makes about the page of a company. -/
def Error.about (e : Error) (company : String) : Complaint :=
  ⟨e, if e.concernsPage then some company else none⟩

/-- The adverts of the page of a company in a format. -/
def readFor (company : String) (format : Format) (body : String) :
    Except Complaint (List Advert) :=
  (read format body).mapError (·.about company)

end Advert
end VacancyLedger
