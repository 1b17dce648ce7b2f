import SourceOutline.Toml.Basic

/-!
# Reading TOML: numbers, dates and times

Each form is read by a function that takes the longest text of that form from the front, or nothing.
-/

namespace SourceOutline

namespace Toml

/-! ## Digits -/

/-- A digit of a class, then digits each with at most one underscore in front; the digits without
the underscores, and the rest. -/
def digitRun (isDigit : Char → Bool) : Text → Text × Text
  | c :: '_' :: d :: rest =>
    if isDigit c then
      if isDigit d then
        let (digits, rest) := digitRun isDigit (d :: rest)
        (c :: digits, rest)
      else ([c], '_' :: d :: rest)
    else ([], c :: '_' :: d :: rest)
  | c :: rest =>
    if isDigit c then
      let (digits, rest) := digitRun isDigit rest
      (c :: digits, rest)
    else ([], c :: rest)
  | [] => ([], [])

def valueOfDigits (base : Nat) (digits : Text) : Nat :=
  digits.foldl (fun n c => n * base + hexValue c) 0

/-- Digits without the zeros in front. -/
def significant (digits : Text) : Text := digits.dropWhile (· == '0')

def maxDigits : Nat := 4300

def basedInteger? (t : Text) : Option (Nat × Text) :=
  let read (base : Nat) (isDigit : Char → Bool) (rest : Text) : Option (Nat × Text) :=
    match digitRun isDigit rest with
    | ([], _) => none
    | (digits, rest) => some (valueOfDigits base digits, rest)
  match t with
  | '0' :: 'x' :: rest => read 16 isHexDigit rest
  | '0' :: 'b' :: rest => read 2 (fun c => c == '0' || c == '1') rest
  | '0' :: 'o' :: rest => read 8 (fun c => '0' ≤ c && c ≤ '7') rest
  | _ => none

/-! ## Decimal numbers -/

/-- A decimal number as written: sign, digits before and behind the point, and exponent. -/
structure Numeral where
  negative : Bool
  whole : Text
  fraction : Option Text
  exponent : Option (Bool × Text)
deriving DecidableEq, Repr

def sign : Text → Bool × Text
  | '-' :: rest => (true, rest)
  | '+' :: rest => (false, rest)
  | t => (false, t)

def fraction? : Text → Option (Text × Text)
  | '.' :: rest =>
    match digitRun Char.isDigit rest with
    | ([], _) => none
    | found => some found
  | _ => none

def exponent? (t : Text) : Option ((Bool × Text) × Text) :=
  let read (rest : Text) : Option ((Bool × Text) × Text) :=
    let (negative, rest) := sign rest
    match digitRun Char.isDigit rest with
    | ([], _) => none
    | (digits, rest) => some ((negative, digits), rest)
  match t with
  | 'e' :: rest => read rest
  | 'E' :: rest => read rest
  | _ => none

/-- A decimal number. The whole part is zero alone or starts with another digit. -/
def numeral? (t : Text) : Option (Numeral × Text) := do
  let (negative, t) := sign t
  let (whole, t) ←
    match t with
    | '0' :: rest => some (['0'], rest)
    | _ =>
      match digitRun Char.isDigit t with
      | ([], _) => none
      | found => some found
  let (fraction, t) :=
    match fraction? t with
    | some (digits, rest) => (some digits, rest)
    | none => (none, t)
  let (exponent, t) :=
    match exponent? t with
    | some (exponent, rest) => (some exponent, rest)
    | none => (none, t)
  return ({ negative, whole, fraction, exponent }, t)

/-- The floating-point number nearest to the digits shifted by `exponent` places. One beyond the range
of such numbers is known by its magnitude alone, which counts from the first digit that is no zero. -/
def nearestFloat (digits : Text) (exponent : Int) : Float :=
  let digits := significant digits
  let magnitude := exponent + digits.length
  if digits.isEmpty then 0.0
  else if 400 < magnitude then 1.0 / 0.0
  else if magnitude < -400 then 0.0
  else Float.ofScientific (valueOfDigits 10 digits) (exponent < 0) exponent.natAbs

/-- The value of a decimal number: whole unless it has a point or an exponent. -/
def Numeral.value (n : Numeral) : Except Fault Value :=
  match n.fraction, n.exponent with
  | none, none =>
    if maxDigits < n.whole.length then .error (.numeralTooLong n.whole.length)
    else
      let whole : Int := valueOfDigits 10 n.whole
      .ok (.int (if n.negative then -whole else whole))
  | fraction, exponent =>
    let fraction := fraction.getD []
    let digits := n.whole ++ fraction
    let shift : Int :=
      match exponent with
      | some (negative, digits) =>
        let size : Int := valueOfDigits 10 digits
        if negative then -size else size
      | none => 0
    let size := nearestFloat digits (shift - fraction.length)
    .ok (.float (if n.negative then -size else size))

def specialFloat? (t : Text) : Option (Float × Text) :=
  let (negative, rest) := sign t
  match rest with
  | 'i' :: 'n' :: 'f' :: rest => some (if negative then -1.0 / 0.0 else 1.0 / 0.0, rest)
  | 'n' :: 'a' :: 'n' :: rest => some (0.0 / 0.0, rest)
  | _ => none

/-! ## Dates and times -/

def fixedDigits? (count : Nat) (t : Text) : Option (Nat × Text) :=
  let digits := t.take count
  if digits.length = count ∧ digits.all Char.isDigit
  then some (valueOfDigits 10 digits, t.drop count) else none

def char? (expected : Char) : Text → Option Text
  | c :: rest => if c == expected then some rest else none
  | [] => none

structure TimeOfDay where
  hour : Nat
  minute : Nat
  second : Nat
  micro : Nat
deriving DecidableEq, Repr

def hourMinute? (t : Text) : Option (Nat × Nat × Text) := do
  let (hour, t) ← fixedDigits? 2 t
  let t ← char? ':' t
  let (minute, t) ← fixedDigits? 2 t
  if hour < 24 ∧ minute < 60 then some (hour, minute, t) else none

/-- A time of day; digits behind the sixth of a second are dropped. -/
def time? (t : Text) : Option (TimeOfDay × Text) := do
  let (hour, minute, t) ← hourMinute? t
  let t ← char? ':' t
  let (second, t) ← fixedDigits? 2 t
  if 60 ≤ second then none
  match t with
  | '.' :: rest =>
    let digits := rest.takeWhile Char.isDigit
    if digits.isEmpty then some ({ hour, minute, second, micro := 0 }, t)
    else
      let six := (digits ++ List.replicate 6 '0').take 6
      some ({ hour, minute, second, micro := valueOfDigits 10 six }, rest.dropWhile Char.isDigit)
  | _ => some ({ hour, minute, second, micro := 0 }, t)

def offset? : Text → Option (Text × Text)
  | 'Z' :: rest => some ("+00:00".toList, rest)
  | 'z' :: rest => some ("+00:00".toList, rest)
  | c :: rest =>
    if c == '+' || c == '-' then
      match hourMinute? rest with
      | some (hour, minute, rest) =>
        let sign := if hour = 0 ∧ minute = 0 then '+' else c
        some (sign :: Text.zeroFilled 2 hour ++ ':' :: Text.zeroFilled 2 minute, rest)
      | none => none
    else none
  | [] => none

def TimeOfDay.text (t : TimeOfDay) : Text :=
  let micro := if t.micro = 0 then [] else '.' :: Text.zeroFilled 6 t.micro
  Text.zeroFilled 2 t.hour ++ ':' :: Text.zeroFilled 2 t.minute ++ ':' ::
    Text.zeroFilled 2 t.second ++ micro

def date? (t : Text) : Option ((Nat × Nat × Nat) × Text) := do
  let (year, t) ← fixedDigits? 4 t
  let t ← char? '-' t
  let (month, t) ← fixedDigits? 2 t
  let t ← char? '-' t
  let (day, t) ← fixedDigits? 2 t
  if 1 ≤ month ∧ month ≤ 12 ∧ 1 ≤ day ∧ day ≤ 31 then some ((year, month, day), t) else none

def timeAfterDate? : Text → Option (TimeOfDay × Text)
  | 'T' :: rest => time? rest
  | 't' :: rest => time? rest
  | ' ' :: rest => time? rest
  | _ => none

/-- A date, perhaps with a time of day and its distance from universal time; malformed when the
calendar has no such day. -/
def dateTime? (t : Text) : Option (Except Fault (Value × Text)) := do
  let ((year, month, day), t) ← date? t
  let date :=
    Text.zeroFilled 4 year ++ '-' :: Text.zeroFilled 2 month ++ '-' :: Text.zeroFilled 2 day
  let real := Moment.isDate year month day
  let found (v : Value) (rest : Text) : Except Fault (Value × Text) :=
    if real then .ok (v, rest) else refuse
  match timeAfterDate? t with
  | none => some (found (.date date) t)
  | some (time, t) =>
    match offset? t with
    | some (offset, t) => some (found (.date (date ++ 'T' :: time.text ++ offset)) t)
    | none =>
      let moment : Moment :=
        { year, month, day, hour := time.hour, minute := time.minute, second := time.second,
          microsecond := time.micro }
      some (found (.moment moment) t)

def scalar (t : Text) : Except Fault (Value × Text) :=
  match t with
  | 't' :: 'r' :: 'u' :: 'e' :: rest => .ok (.bool true, rest)
  | 'f' :: 'a' :: 'l' :: 's' :: 'e' :: rest => .ok (.bool false, rest)
  | _ =>
    match dateTime? t with
    | some found => found
    | none =>
      match time? t with
      | some (time, rest) => .ok (.date time.text, rest)
      | none =>
        match basedInteger? t with
        | some (n, rest) => .ok (.int n, rest)
        | none =>
          match numeral? t with
          | some (n, rest) => n.value.map fun v => (v, rest)
          | none =>
            match specialFloat? t with
            | some (x, rest) => .ok (.float x, rest)
            | none => refuse

end Toml

end SourceOutline
