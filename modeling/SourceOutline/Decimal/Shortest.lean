import SourceOutline.Text.Basic

/-!
# The shortest decimal of a floating-point number

A positive floating-point number is `m · 2^q` for whole `m` and `q`, and stands for every real that
rounds to it. Its *shortest decimal* has the fewest digits among the decimals that round to it, and
among those it is the nearest. The search tries one digit, two digits and so on up to seventeen: if
the grid of that many digits has a point that rounds to the number, then one of the two grid points
next to the number does.

`FloatStyle` says how such a decimal is laid out; `settingFloatStyle` is how settings show numbers.
-/

namespace SourceOutline

/-- A decimal: its digits as a number, and the power of ten of the last digit. -/
structure Decimal where
  digits : Nat
  exponent : Int
deriving DecidableEq, Repr

namespace Decimal

/-- A positive rational as numerator and denominator, with the ends of the interval that rounds to
it over the same denominator. -/
structure Interval where
  low : Nat
  mid : Nat
  high : Nat
  den : Nat
  /-- Whether the ends round to the number too. -/
  closed : Bool
deriving DecidableEq, Repr

/-- The reals that round to `m · 2^q`. Right above a power of two the numbers below lie twice as
close, so the interval reaches only half as far down. -/
def Interval.ofBinary (m : Nat) (q : Int) (atPowerOfTwo : Bool) : Interval :=
  let up := Nat.pow 2 (q - 2).toNat
  let den := Nat.pow 2 (2 - q).toNat
  { low := (4 * m - if atPowerOfTwo then 1 else 2) * up
    mid := 4 * m * up
    high := (4 * m + 2) * up
    den
    closed := m % 2 == 0 }

def Interval.scale (i : Interval) (exponent : Int) : Interval :=
  let up := Nat.pow 10 (-exponent).toNat
  { i with low := i.low * up, mid := i.mid * up, high := i.high * up,
           den := i.den * Nat.pow 10 exponent.toNat }

def Interval.holds (i : Interval) (n : Nat) : Bool :=
  if i.closed then i.low ≤ n * i.den && n * i.den ≤ i.high
  else i.low < n * i.den && n * i.den < i.high

/-- The whole number in the interval that is nearest to its middle, of two the even one. -/
def Interval.nearest? (i : Interval) : Option Nat :=
  let below := i.mid / i.den
  let above := below + 1
  match i.holds below, i.holds above with
  | false, false => none
  | true, false => some below
  | false, true => some above
  | true, true =>
    let down := i.mid - below * i.den
    let up := above * i.den - i.mid
    if down < up then some below
    else if up < down then some above
    else if below % 2 == 0 then some below else some above

def digitCount : Nat → Nat → Nat
  | 0, _ => 0
  | fuel + 1, n => if n = 0 then 0 else digitCount fuel (n / 10) + 1

/-- The power of ten of the first digit of the middle: the largest that is not above it. -/
def Interval.magnitude (i : Interval) : Int :=
  if i.den ≤ i.mid then (digitCount 400 (i.mid / i.den) : Int) - 1
  else search 400 0
where
  /-- Tries one smaller power after the other. -/
  search : Nat → Nat → Int
    | 0, tried => -(tried : Int)
    | fuel + 1, tried =>
      if i.den ≤ i.mid * Nat.pow 10 (tried + 1) then -(tried + 1 : Int)
      else search fuel (tried + 1)

def trimZeros : Nat → Decimal → Decimal
  | 0, d => d
  | fuel + 1, d =>
    if d.digits ≠ 0 ∧ d.digits % 10 = 0
    then trimZeros fuel { digits := d.digits / 10, exponent := d.exponent + 1 } else d

def Interval.shortest (i : Interval) (magnitude : Int) : (fuel : Nat) → (count : Nat) → Decimal
  | 0, _ => { digits := i.mid / i.den, exponent := 0 }
  | fuel + 1, count =>
    let exponent := magnitude - count + 1
    match (i.scale exponent).nearest? with
    | some digits => trimZeros 20 { digits, exponent }
    | none => shortest i magnitude fuel (count + 1)

/-- The leading bit of a fraction, which is not stored. -/
def hiddenBit : Nat := 0x10000000000000

/-- The reals that round to a positive finite floating-point number, from its 64 bits. -/
def Interval.ofBits (bits : Nat) : Interval :=
  let fraction : Nat := bits % hiddenBit
  let biased : Nat := bits / hiddenBit % 0x800
  if biased = 0 then .ofBinary fraction (-1074) false
  else .ofBinary (hiddenBit + fraction) ((biased : Int) - 1075) (fraction == 0 && decide (1 < biased))

def ofBits (bits : Nat) : Decimal :=
  let interval := Interval.ofBits bits
  interval.shortest interval.magnitude 17 1

end Decimal

structure FloatStyle where
  /-- Numbers below this power of ten are written with an exponent. -/
  smallest : Int
  /-- Numbers from this power of ten on are written with an exponent. -/
  largest : Int
  /-- Whether a whole number keeps a zero behind the point. -/
  keepPoint : Bool
  /-- The least number of digits of an exponent. -/
  exponentDigits : Nat
deriving DecidableEq, Repr

def Decimal.layOut (style : FloatStyle) (d : Decimal) : Text :=
  let digits := Text.ofInt d.digits
  let magnitude := d.exponent + digits.length - 1
  let zeros (n : Int) : Text := List.replicate n.toNat '0'
  if style.smallest ≤ magnitude ∧ magnitude < style.largest then
    if 0 ≤ d.exponent then
      digits ++ zeros d.exponent ++ if style.keepPoint then ['.', '0'] else []
    else if 0 ≤ magnitude then
      digits.take (magnitude + 1).toNat ++ '.' :: digits.drop (magnitude + 1).toNat
    else '0' :: '.' :: zeros (-magnitude - 1) ++ digits
  else
    let tail := if digits.length ≤ 1 then [] else '.' :: digits.drop 1
    digits.take 1 ++ tail ++ 'e' :: (if magnitude < 0 then '-' else '+') ::
      Text.zeroFilled style.exponentDigits magnitude.natAbs

def signBit : Nat := 0x8000000000000000

def Text.ofFloat (style : FloatStyle) (x : Float) : Text :=
  let bits := x.toBits.toNat
  let negative := decide (signBit ≤ bits)
  let bits := bits % signBit
  let sign : Text := if negative then ['-'] else []
  if 0x7ff0000000000000 < bits then "nan".toList
  else if bits = 0x7ff0000000000000 then sign ++ "inf".toList
  else if bits = 0 then sign ++ ({ digits := 0, exponent := 0 } : Decimal).layOut style
  else sign ++ (Decimal.ofBits bits).layOut style

/-- Settings show a number in full from 0.0001 up to below 10^16, with a point in every case, and
exponents with a sign and two digits at least. -/
def settingFloatStyle : FloatStyle :=
  { smallest := -4, largest := 16, keepPoint := true, exponentDigits := 2 }

end SourceOutline
