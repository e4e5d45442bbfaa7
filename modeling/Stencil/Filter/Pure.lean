import Stencil.Filter
import Stencil.Text.Case
import Stencil.Value.Text

/-!
The filters that depend on nothing but the value and the arguments: those on text, to which what is
no text becomes the empty text, those on sequences, and those on any value.
-/

namespace Stencil.Filter

def onText (f : List Char → List Char) : Value → Value
  | .text s => .ofString (f s.toList)
  | _ => .text ""

def replaceAll (search replacement : List Char) : List Char → List Char
  | [] => []
  | c :: cs =>
    if search.isPrefixOf (c :: cs) then
      replacement ++ replaceAll search replacement (cs.drop (search.length - 1))
    else c :: replaceAll search replacement cs
termination_by cs => cs.length
decreasing_by
  · simp only [List.length_drop, List.length_cons]
    omega
  · exact Nat.lt_succ_self _

/-- The text with the replacement for every occurrence of `search`; the empty text occurs between
any two characters. -/
def replaceText (search replacement cs : List Char) : List Char :=
  if search.isEmpty then replacement.intercalate (cs.map ([·]))
  else replaceAll search replacement cs

def replace (v search replacement : Value) : Except FilterError Value :=
  match search, replacement with
  | .text s, .text r => .ok (onText (replaceText s.toList r.toList) v)
  | _, _ => .error .replaceArguments

/-- Where a text is cut at most `n` characters in: at the last space there is, unless none follows
a character. -/
def cutAt (n : Nat) (cs : List Char) : Nat :=
  let back := ((cs.take n).reverse.takeWhile fun c => c != ' ').length
  let space := (cs.take n).length - back
  if 1 < space then space - 1 else (cs.take n).length

/-- The whole number of characters that a length allows; a negative one allows none. -/
def wholeLength : Number → Except FilterError Int
  | .int n => .ok n
  | .float (.nan _) => .error .undefinedLength
  | .float (.infinite _) => .error .infiniteLength
  | .float x => .ok (x.truncate?.getD 0)

def truncate (v length killWords ending : Value) : Except FilterError Value :=
  let refuse : Except FilterError Value :=
    match length.display with
    | .ok s => .error (.truncateLength s)
    | .error e => .error (.digits e)
  match length with
  | .number x =>
    if x.lt (.int 0) then refuse
    else
      match v with
      | .text s => do
        let n ← wholeLength x
        let cs := s.toList
        if (cs.length : Int) ≤ n then return .text s
        let k := if killWords.isTruthy then n.toNat else cutAt n.toNat cs
        let e ← ending.toText.mapError .digits
        return .text (String.ofList (cs.take k) ++ e)
      | _ => .ok (.text "")
  | _ => refuse

def breakLines (cs : List Char) : List Char :=
  cs.flatMap fun c => if c = '\n' then "<br>\n".toList else [c]

def default (v fallback : Value) : Value :=
  match v with
  | .null => fallback
  | .text s => if s = "" then fallback else v
  | _ => v

def length : Value → Value
  | .mapping fields => .int fields.length
  | v => .int (v.length?.getD 0)

def first : Value → Value
  | .sequence _ items => items.head?.getD .null
  | _ => .null

def last : Value → Value
  | .sequence _ items => items.getLast?.getD .null
  | _ => .null

def join (v separator : Value) : Except FilterError Value :=
  match v with
  | .sequence _ items => do
    let s ← separator.toText.mapError .digits
    let texts ← items.mapM fun item => item.toText.mapError .digits
    return .text (s.intercalate texts)
  | _ => .ok (.text "")

end Stencil.Filter
