import Stencil.Calendar.Format
import Stencil.Calendar.Reading
import Stencil.Filter
import Stencil.Text.Character
import Stencil.Value.Text

/-!
The filter that formats dates in local time.
-/

namespace Stencil

namespace Calendar.StampFault

def toFilterError : StampFault → FilterError
  | .offset => .dateOffset
  | .range => .dateRange

end Calendar.StampFault

namespace Filter

inductive Found
  | moment (t : Calendar.Moment)
  | nothing
  | unreadable (u : Calendar.Unreadable)
  | fault (e : FilterError)

def findNumber (g : Calendar.Setting) (n : Number) : Found :=
  match Calendar.Instant.toLocal g.zone n with
  | .ok t => .moment t
  | .error f => .unreadable (.instant f)

def findText (g : Calendar.Setting) (s : String) : Found :=
  let cs := Text.trim s.toList
  if cs.isEmpty then .nothing
  else
    match Calendar.stampOfText g cs with
    | .error (.unreadable u) => .unreadable u
    | .error (.raised r) => .fault (.raised r)
    | .ok stamp =>
      match stamp.toLocal g.zone with
      | .ok t => .moment t
      | .error f => .fault f.toFilterError

/-- The moment in a format, of which null and the empty text stand for the plain one. -/
def formatted (t : Calendar.Moment) (format : Value) : Value :=
  match format with
  | .text f => .ofString (if f = "" then t.plain else t.format f.toList)
  | _ => .ofString t.plain

/-- The answer for what is found in the value `v`. What cannot be read becomes the empty text. -/
def answer (v format : Value) : Found → FilterAnswer
  | .moment t => ⟨.ok (formatted t format), []⟩
  | .nothing => ⟨.ok (.text ""), []⟩
  | .unreadable u => ⟨.ok (.text ""), [.unreadableDate (v.display.toOption.getD "") u.message]⟩
  | .fault e => ⟨.error e, []⟩

def formatFault? : Value → Option FilterError
  | .null => none
  | .text _ => none
  | f =>
    match f.toText with
    | .ok s => some (.dateFormat (quoted s))
    | .error e => some (.digits e)

def date (g : Calendar.Setting) (v format : Value) : FilterAnswer :=
  let found? : Option Found :=
    match v with
    | .number n => some (findNumber g n)
    | .text s => some (findText g s)
    | _ => none
  match v, found? with
  | .null, _ => ⟨.ok (.text ""), []⟩
  | _, none => ⟨.ok v, []⟩
  | _, some found =>
    match formatFault? format with
    | some e => ⟨.error e, []⟩
    | none => answer v format found

end Filter

end Stencil
