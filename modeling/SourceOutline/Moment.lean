import SourceOutline.Text.Digit

/-!
# Moments and their stamps

A moment is what a clock says in the proleptic Gregorian calendar, down to the microsecond. Its
*stamp* is the bracketed text `[2024-01-02 Tue 10:30]`, in which nothing beyond the minute is written.
Writing fills every field but the year with zeros; reading takes the first bracketed text of that
shape in a line, ignores the day's name, and accepts it only when it denotes a real minute.
-/

namespace SourceOutline

/-- A moment of the Gregorian calendar, without a time zone. -/
structure Moment where
  year : Nat
  month : Nat
  day : Nat
  hour : Nat
  minute : Nat
  second : Nat := 0
  microsecond : Nat := 0
deriving DecidableEq, Repr, Inhabited

namespace Moment

def isLeapYear (year : Nat) : Bool :=
  year % 4 == 0 && (year % 100 != 0 || year % 400 == 0)

def daysInMonth (year month : Nat) : Nat :=
  match month with
  | 1 | 3 | 5 | 7 | 8 | 10 | 12 => 31
  | 4 | 6 | 9 | 11 => 30
  | 2 => if isLeapYear year then 29 else 28
  | _ => 0

/-- Whether a date exists; years run from 1 to 9999. -/
def isDate (year month day : Nat) : Bool :=
  1 ≤ year && year ≤ 9999 && 1 ≤ day && day ≤ daysInMonth year month

/-- A moment that the calendar and the clock have. -/
def IsReal (m : Moment) : Prop :=
  isDate m.year m.month m.day = true ∧ m.hour < 24 ∧ m.minute < 60 ∧ m.second < 60 ∧
    m.microsecond < 1000000

instance (m : Moment) : Decidable m.IsReal := by unfold IsReal; infer_instance

/-- The moment at which the minute of a moment began. -/
def truncated (m : Moment) : Moment := { m with second := 0, microsecond := 0 }

inductive Field where
  | year (given : Int)
  | month
  | day
  | hour
  | minute
  | second
  | microsecond
deriving DecidableEq, Repr

def Field.message : Field → Text
  | year given => "year ".toList ++ Text.ofInt given ++ " is out of range".toList
  | month => "month must be in 1..12".toList
  | day => "day is out of range for month".toList
  | hour => "hour must be in 0..23".toList
  | minute => "minute must be in 0..59".toList
  | second => "second must be in 0..59".toList
  | microsecond => "microsecond must be in 0..999999".toList

def ofFields (year month day hour minute second microsecond : Int) : Except Field Moment :=
  if year < 1 ∨ 9999 < year then .error (.year year)
  else if month < 1 ∨ 12 < month then .error .month
  else if day < 1 ∨ (daysInMonth year.toNat month.toNat : Int) < day then .error .day
  else if hour < 0 ∨ 23 < hour then .error .hour
  else if minute < 0 ∨ 59 < minute then .error .minute
  else if second < 0 ∨ 59 < second then .error .second
  else if microsecond < 0 ∨ 999999 < microsecond then .error .microsecond
  else
    .ok { year := year.toNat, month := month.toNat, day := day.toNat, hour := hour.toNat,
          minute := minute.toNat, second := second.toNat, microsecond := microsecond.toNat }

def daysBeforeYear (year : Nat) : Nat :=
  let y := year - 1
  y * 365 + y / 4 - y / 100 + y / 400

def daysBeforeMonth (year month : Nat) : Nat :=
  (List.range (month - 1)).foldl (fun days m => days + daysInMonth year (m + 1)) 0

/-- The number of a day, where the first of January of the year 1 has number 1. -/
def ordinal (year month day : Nat) : Nat :=
  daysBeforeYear year + daysBeforeMonth year month + day

/-- The first day of the calendar was a Monday. -/
def dayName (m : Moment) : Text :=
  match (ordinal m.year m.month m.day + 6) % 7 with
  | 0 => "Mon".toList
  | 1 => "Tue".toList
  | 2 => "Wed".toList
  | 3 => "Thu".toList
  | 4 => "Fri".toList
  | 5 => "Sat".toList
  | _ => "Sun".toList

/-- A year is written without zeros in front, months and days in two digits. -/
def dateText (m : Moment) : Text :=
  Text.ofInt m.year ++ '-' :: Text.zeroFilled 2 m.month ++ '-' :: Text.zeroFilled 2 m.day

def timeText (m : Moment) : Text :=
  Text.zeroFilled 2 m.hour ++ ':' :: Text.zeroFilled 2 m.minute

/-- A moment with everything that is known of it, a character between date and time of day. Here years
have four digits, too. -/
def fullText (m : Moment) (between : Char) : Text :=
  let part := if m.microsecond = 0 then [] else '.' :: Text.zeroFilled 6 m.microsecond
  Text.zeroFilled 4 m.year ++ '-' :: Text.zeroFilled 2 m.month ++ '-' :: Text.zeroFilled 2 m.day ++
    between :: m.timeText ++ ':' :: Text.zeroFilled 2 m.second ++ part

/-- The bracketed stamp of a moment to the minute, with the English short name of its day. -/
def stamp (m : Moment) : Text :=
  '[' :: m.dateText ++ ' ' :: m.dayName ++ ' ' :: m.timeText ++ [']']

/-! ## Reading a stamp -/

/-- The digits of a stamp: date and time, each as written, before they are judged. -/
structure StampDigits where
  year : Text
  month : Text
  day : Text
  hour : Text
  minute : Text
deriving DecidableEq, Repr

def takeDigits? : Nat → Text → Option (Text × Text)
  | 0, t => some ([], t)
  | _ + 1, [] => none
  | n + 1, c :: rest =>
    if isDigit c then (takeDigits? n rest).map fun (ds, after) => (c :: ds, after) else none

def takeChar? (expected : Char) : Text → Option Text
  | [] => none
  | c :: rest => if c == expected then some rest else none

def isDayNameChar (c : Char) : Bool := !isBlank c && c != ']'

/-- Reads the text of a stamp at the very start of `t`: ten characters of date, a day's name and
five characters of time, in brackets. -/
def stampAt? (t : Text) : Option StampDigits := do
  let t ← takeChar? '[' t
  let (year, t) ← takeDigits? 4 t
  let t ← takeChar? '-' t
  let (month, t) ← takeDigits? 2 t
  let t ← takeChar? '-' t
  let (day, t) ← takeDigits? 2 t
  let t ← takeChar? ' ' t
  -- no day's name holds a blank, so it ends where the first one stands
  if (t.takeWhile isDayNameChar).isEmpty then none
  let t ← takeChar? ' ' (t.dropWhile isDayNameChar)
  let (hour, t) ← takeDigits? 2 t
  let t ← takeChar? ':' t
  let (minute, t) ← takeDigits? 2 t
  let _ ← takeChar? ']' t
  return { year, month, day, hour, minute }

def findStamp? : Text → Option StampDigits
  | [] => none
  | c :: rest => (stampAt? (c :: rest)).orElse fun _ => findStamp? rest

def digitBetween (low high c : Char) : Bool := low ≤ c && c ≤ high

def isMonthText : Text → Bool
  | [a, b] => (a == '1' && digitBetween '0' '2' b) || (a == '0' && digitBetween '1' '9' b)
  | _ => false

/-- A day is written `01` to `31`; after a leading 1 or 2 any script's digit may stand. -/
def isDayText : Text → Bool
  | [a, b] =>
    (a == '3' && digitBetween '0' '1' b) || (digitBetween '1' '2' a && isDigit b) ||
      (a == '0' && digitBetween '1' '9' b)
  | _ => false

/-- An hour is written `00` to `23`; after a leading 0 or 1 any script's digit may stand. -/
def isHourText : Text → Bool
  | [a, b] => (a == '2' && digitBetween '0' '3' b) || (digitBetween '0' '1' a && isDigit b)
  | _ => false

/-- A minute is written `00` to `59`; the second digit may be of any script. -/
def isMinuteText : Text → Bool
  | [a, b] => digitBetween '0' '5' a && isDigit b
  | _ => false

def StampDigits.moment? (s : StampDigits) : Option Moment :=
  let m : Moment :=
    { year := numberOfDigits s.year, month := numberOfDigits s.month, day := numberOfDigits s.day,
      hour := numberOfDigits s.hour, minute := numberOfDigits s.minute }
  if isMonthText s.month && isDayText s.day && isHourText s.hour && isMinuteText s.minute &&
      isDate m.year m.month m.day
  then some m else none

/-- The moment of the first stamp in a text. A first stamp that denotes no minute hides later
ones. -/
def ofStamp? (t : Text) : Option Moment := (findStamp? t).bind StampDigits.moment?

end Moment

end SourceOutline
