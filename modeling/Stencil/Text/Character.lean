/-!
White space, with the operations on text that depend on it alone, trimming and cutting off the first
word; and the decimal digits of every script, each with its value.
-/

namespace Stencil.Text

def blanks : List Char :=
  ['\t', '\n', '\x0b', '\x0c', '\r', '\x1c', '\x1d', '\x1e', '\x1f', ' ', '\u0085', '\u00a0',
   '\u1680', '\u2000', '\u2001', '\u2002', '\u2003', '\u2004', '\u2005', '\u2006', '\u2007',
   '\u2008', '\u2009', '\u200a', '\u2028', '\u2029', '\u202f', '\u205f', '\u3000']

def isBlank (c : Char) : Bool :=
  blanks.contains c

def trimLeft (cs : List Char) : List Char :=
  cs.dropWhile isBlank

def trimRight (cs : List Char) : List Char :=
  (cs.reverse.dropWhile isBlank).reverse

def trim (cs : List Char) : List Char :=
  trimRight (trimLeft cs)

/-- The first word of a text, and what follows the white space after it. Both are empty where the
text is blank. -/
def cutWord (cs : List Char) : List Char × List Char :=
  let r := trimLeft cs
  (r.takeWhile fun c => !isBlank c, trimLeft (r.dropWhile fun c => !isBlank c))

/-- The code points of the digits zero; the digits one to nine of a script follow its zero. -/
def zeros : List Nat :=
  [0x30, 0x660, 0x6f0, 0x7c0, 0x966, 0x9e6, 0xa66, 0xae6, 0xb66, 0xbe6, 0xc66, 0xce6, 0xd66,
   0xde6, 0xe50, 0xed0, 0xf20, 0x1040, 0x1090, 0x17e0, 0x1810, 0x1946, 0x19d0, 0x1a80, 0x1a90,
   0x1b50, 0x1bb0, 0x1c40, 0x1c50, 0xa620, 0xa8d0, 0xa900, 0xa9d0, 0xa9f0, 0xaa50, 0xabf0,
   0xff10, 0x104a0, 0x10d30, 0x11066, 0x110f0, 0x11136, 0x111d0, 0x112f0, 0x11450, 0x114d0,
   0x11650, 0x116c0, 0x11730, 0x118e0, 0x11950, 0x11c50, 0x11d50, 0x11da0, 0x16a60, 0x16ac0,
   0x16b50, 0x1d7ce, 0x1d7d8, 0x1d7e2, 0x1d7ec, 0x1d7f6, 0x1e140, 0x1e2f0, 0x1e950, 0x1fbf0]

def digit? (c : Char) : Option Nat :=
  zeros.findSome? fun z => if z ≤ c.toNat ∧ c.toNat < z + 10 then some (c.toNat - z) else none

def isDigit (c : Char) : Bool :=
  (digit? c).isSome

/-- The value of a digit; a character that is no digit counts as zero. -/
def digitValue (c : Char) : Nat :=
  (digit? c).getD 0

theorem digit?_lt {c : Char} {d : Nat} (h : digit? c = some d) : d < 10 := by
  obtain ⟨z, _, hz⟩ := List.exists_of_findSome?_eq_some h
  split at hz
  · simp only [Option.some.injEq] at hz
    omega
  · simp at hz

theorem digitValue_lt (c : Char) : digitValue c < 10 := by
  unfold digitValue
  cases h : digit? c with
  | none => decide
  | some d => exact digit?_lt h

def numberAfter (n : Nat) (cs : List Char) : Nat :=
  cs.foldl (fun n c => 10 * n + digitValue c) n

def number (cs : List Char) : Nat :=
  numberAfter 0 cs

@[simp] theorem number_nil : number [] = 0 := rfl

theorem number_append_singleton (cs : List Char) (c : Char) :
    number (cs ++ [c]) = 10 * number cs + digitValue c := by
  simp [number, numberAfter]

theorem numberAfter_lt (n : Nat) (cs : List Char) :
    numberAfter n cs < (n + 1) * Nat.pow 10 cs.length := by
  induction cs generalizing n with
  | nil => exact Nat.lt_of_lt_of_eq (Nat.lt_succ_self n) (Nat.mul_one (n + 1)).symm
  | cons c cs ih =>
    have hc : 10 * n + digitValue c + 1 ≤ (n + 1) * 10 := by
      have hd := digitValue_lt c
      omega
    calc numberAfter (10 * n + digitValue c) cs
      _ < (10 * n + digitValue c + 1) * Nat.pow 10 cs.length := ih _
      _ ≤ (n + 1) * 10 * Nat.pow 10 cs.length := Nat.mul_le_mul_right _ hc
      _ = (n + 1) * Nat.pow 10 (cs.length + 1) := by
        rw [Nat.mul_assoc, Nat.mul_comm 10]
        rfl

theorem number_lt (cs : List Char) : number cs < Nat.pow 10 cs.length :=
  Nat.lt_of_lt_of_eq (numberAfter_lt 0 cs) (Nat.one_mul _)

end Stencil.Text
