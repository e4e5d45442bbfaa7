import Stencil.Text.Case.Table
import Stencil.Text.Character
import Stencil.Text.Word

/-!
Upper case, lower case and the two ways of capitalising a text. One character may become several,
and a capital sigma becomes a final sigma where it ends a word.
-/

namespace Stencil.Text

def upperChar (c : Char) : List Char :=
  (upperExpansions.lookup c).getD [CaseRun.apply upperRuns c]

def lowerChar (c : Char) : List Char :=
  (lowerExpansions.lookup c).getD [CaseRun.apply lowerRuns c]

def upper (cs : List Char) : List Char :=
  cs.flatMap upperChar

def isCased (c : Char) : Bool :=
  casedRanges.contains c

def isIgnorable (c : Char) : Bool :=
  ignorableRanges.contains c

def meetsCased (cs : List Char) : Bool :=
  (cs.find? fun c => !isIgnorable c).any isCased

/-- The lower case of a text that follows `before`, which is given in reverse. -/
def lowerAfter (before : List Char) : List Char → List Char
  | [] => []
  | c :: cs =>
    (if c = 'Σ' then [if meetsCased before && !meetsCased cs then 'ς' else 'σ']
      else lowerChar c) ++ lowerAfter (c :: before) cs

def lower (cs : List Char) : List Char :=
  lowerAfter [] cs

def capitalize : List Char → List Char
  | [] => []
  | c :: cs => upperChar c ++ lower cs

/-- Each word capitalised: from its first word character on, a run without white space has that
character in upper case and the others in lower case. -/
def title : List Char → List Char
  | [] => []
  | c :: cs =>
    if isWord c then
      upperChar c ++ lower (cs.takeWhile fun d => !isBlank d) ++
        title (cs.dropWhile fun d => !isBlank d)
    else c :: title cs
termination_by cs => cs.length
decreasing_by
  · exact Nat.lt_succ_of_le (List.dropWhile_sublist _).length_le
  · exact Nat.lt_succ_self _

end Stencil.Text
