import SourceOutline.Text.Basic

/-!
# Decimal digits of every script

Unicode gives each script's digits ten consecutive code points, so the digit of a character is its
distance from the zero of its script. Time stamps and sizes may be written with any of them.
-/

namespace SourceOutline

/-- The code points of the digit zero in every script that has decimal digits. -/
def digitZeros : List Nat :=
  [0x30, 0x660, 0x6f0, 0x7c0, 0x966, 0x9e6, 0xa66, 0xae6, 0xb66, 0xbe6, 0xc66, 0xce6, 0xd66,
   0xde6, 0xe50, 0xed0, 0xf20, 0x1040, 0x1090, 0x17e0, 0x1810, 0x1946, 0x19d0, 0x1a80, 0x1a90,
   0x1b50, 0x1bb0, 0x1c40, 0x1c50, 0xa620, 0xa8d0, 0xa900, 0xa9d0, 0xa9f0, 0xaa50, 0xabf0,
   0xff10, 0x104a0, 0x10d30, 0x11066, 0x110f0, 0x11136, 0x111d0, 0x112f0, 0x11450, 0x114d0,
   0x11650, 0x116c0, 0x11730, 0x118e0, 0x11950, 0x11c50, 0x11d50, 0x11da0, 0x16a60, 0x16ac0,
   0x16b50, 0x1d7ce, 0x1d7d8, 0x1d7e2, 0x1d7ec, 0x1d7f6, 0x1e140, 0x1e2f0, 0x1e950, 0x1fbf0]

/-- The value of a decimal digit, whatever its script. -/
def digit? (c : Char) : Option Nat :=
  (digitZeros.find? fun first => first ≤ c.toNat && c.toNat ≤ first + 9).map (c.toNat - ·)

def isDigit (c : Char) : Bool := (digit? c).isSome

/-- Reads digits as a number in base ten; other characters count as zero. -/
def numberOfDigits (t : Text) : Nat := t.foldl (fun n c => 10 * n + (digit? c).getD 0) 0

namespace Text

def signed (t : Text) : Bool × Text :=
  match t with
  | '-' :: rest => (true, rest)
  | '+' :: rest => (false, rest)
  | _ => (false, t)

/-- Digits in which single underscores may stand between two digits, without the underscores. -/
def ungrouped? : Text → Option Text
  | [] => none
  | [c] => if isDigit c then some [c] else none
  | c :: '_' :: rest => if isDigit c then (ungrouped? rest).map (c :: ·) else none
  | c :: rest => if isDigit c then (ungrouped? rest).map (c :: ·) else none

/-- A whole number is read in no more digits than this. -/
def maxNumeralDigits : Nat := 4300

/-- A blank that may stand around a whole number; the information separators may not. -/
def isNumeralBlank (c : Char) : Bool := isBlank c && !(0x1c ≤ c.toNat && c.toNat ≤ 0x1f)

/-- Reads a whole number: blanks around it, one sign, and digits of any script with single
underscores between them, at most `maxNumeralDigits` of them. -/
def toInt? (t : Text) : Option Int :=
  let trimmed := ((t.dropWhile isNumeralBlank).reverse.dropWhile isNumeralBlank).reverse
  let (negative, numeral) := signed trimmed
  match ungrouped? numeral with
  | none => none
  | some digits =>
    if maxNumeralDigits < digits.length then none
    else
      let n : Int := numberOfDigits digits
      some (if negative then -n else n)

end Text

end SourceOutline
