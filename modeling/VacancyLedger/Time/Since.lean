/-
The point in time since which a reader wants to see postings.
-/
import VacancyLedger.Time.Iso

namespace VacancyLedger.Time

/-- Why a text names no point in time. -/
inductive SinceError where
  | unreadable (text : String)
  | outOfRange

/-- The name the complaint is reported by. -/
def SinceError.name : SinceError → String
  | .unreadable _ => "ValueError"
  | .outOfRange => "OverflowError"

/-- The complaint in words. -/
def SinceError.message : SinceError → String
  | .unreadable text => s!"Invalid since timestamp: {text}"
  | .outOfRange => outOfRangeMessage

/-- The text of the instant of a stamp, comparable with the texts of stored instants. -/
def Stamp.since? (stamp : Stamp) : Except SinceError (Option String) :=
  match stamp.instant? with
  | none => .error .outOfRange
  | some t => .ok (some t.text)

/-- The text of the instant that a reader's text names; an empty text names none. -/
def since? (text : String) : Except SinceError (Option String) :=
  if text.isEmpty then .ok none
  else
    match Iso.parse? text with
    | none => .error (.unreadable text)
    | some stamp => stamp.since?

/-- The time since which a reader wants to see postings: a text, or a time that was read before. -/
inductive Since where
  | text (s : String)
  | stamp (t : Stamp)

/-- The text of the instant that a reader has named, if one was. -/
def Since.resolve? : Option Since → Except SinceError (Option String)
  | none => .ok none
  | some (.text s) => since? s
  | some (.stamp t) => t.since?

end VacancyLedger.Time
