import SourceOutline.Text.Basic

/-!
# UTF-8

Text is stored as octets. Writing is total; reading refuses the first octets that are no character
and says where they stand, how many they are and what is wrong with them: only shortest forms, no
surrogates, nothing above U+10FFFF.
-/

namespace SourceOutline

namespace Utf8

def encodeChar (c : Char) : List UInt8 :=
  let n := c.toNat
  if n < 0x80 then [n.toUInt8]
  else if n < 0x800 then [(0xc0 + n / 0x40).toUInt8, (0x80 + n % 0x40).toUInt8]
  else if n < 0x10000 then
    [(0xe0 + n / 0x1000).toUInt8, (0x80 + n / 0x40 % 0x40).toUInt8, (0x80 + n % 0x40).toUInt8]
  else
    [(0xf0 + n / 0x40000).toUInt8, (0x80 + n / 0x1000 % 0x40).toUInt8,
     (0x80 + n / 0x40 % 0x40).toUInt8, (0x80 + n % 0x40).toUInt8]

def encode (t : Text) : List UInt8 := t.flatMap encodeChar

def size (t : Text) : Nat := t.foldl (fun octets c => octets + (encodeChar c).length) 0

inductive Reason where
  /-- No character starts with this octet. -/
  | invalidStart
  /-- The octets so far start a character, and the next one does not go on with it. -/
  | invalidContinuation
  /-- The octets end within a character. -/
  | unexpectedEnd
deriving DecidableEq, Repr

structure Fault where
  /-- The place of the first of them, counted from zero. -/
  first : Nat
  /-- The first of them. -/
  octet : UInt8
  /-- How many they are. -/
  count : Nat
  reason : Reason
deriving DecidableEq, Repr

def isContinuation (b : UInt8) : Bool := 0x80 ≤ b && b < 0xc0

/-- Whether an octet may follow the first octet of a character of three or four octets: longer forms
than needed, surrogates and numbers above U+10FFFF are out. -/
def mayFollow (first second : UInt8) : Bool :=
  isContinuation second &&
    (if first == 0xe0 then 0xa0 ≤ second
     else if first == 0xed then second < 0xa0
     else if first == 0xf0 then 0x90 ≤ second
     else if first == 0xf4 then second < 0x90
     else true)

def lengthOfStart (b : UInt8) : Nat :=
  if b < 0x80 then 1
  else if b < 0xc2 then 0
  else if b < 0xe0 then 2
  else if b < 0xf0 then 3
  else if b < 0xf5 then 4
  else 0

def goodTail (first : UInt8) (length : Nat) (rest : List UInt8) : List UInt8 :=
  match rest.take (length - 1) with
  | [] => []
  | second :: others =>
    if mayFollow first second then second :: others.takeWhile isContinuation else []

def assemble (first : UInt8) (length : Nat) (tail : List UInt8) : Char :=
  let head :=
    match length with
    | 1 => first.toNat
    | 2 => first.toNat - 0xc0
    | 3 => first.toNat - 0xe0
    | _ => first.toNat - 0xf0
  Char.ofNat (tail.foldl (fun n b => n * 0x40 + (b.toNat - 0x80)) head)

/-- Reads octets, where `skip` of them belong to a character already read, `place` is the number of
octets before them, and `done` holds the characters before them, last first. -/
def decodeFrom (place skip : Nat) (done : Text) : List UInt8 → Except Fault Text
  | [] => .ok done.reverse
  | b :: rest =>
    match skip with
    | skip + 1 => decodeFrom (place + 1) skip done rest
    | 0 =>
      let length := lengthOfStart b
      let tail := goodTail b length rest
      if length = 0 then .error { first := place, octet := b, count := 1, reason := .invalidStart }
      else if tail.length + 1 = length then
        decodeFrom (place + 1) tail.length (assemble b length tail :: done) rest
      else
        let atEnd := tail.length = rest.length
        .error
          { first := place, octet := b, count := tail.length + 1
            reason := if atEnd then .unexpectedEnd else .invalidContinuation }

def decode (octets : List UInt8) : Except Fault Text := decodeFrom 0 0 [] octets

def Fault.message (f : Fault) : Text :=
  let reason := match f.reason with
    | .invalidStart => "invalid start byte".toList
    | .invalidContinuation => "invalid continuation byte".toList
    | .unexpectedEnd => "unexpected end of data".toList
  let hex (n : Nat) : Char := if n < 10 then Char.ofNat (48 + n) else Char.ofNat (87 + n)
  let octet := [hex (f.octet.toNat / 16), hex (f.octet.toNat % 16)]
  let place :=
    if f.count = 1 then "byte 0x".toList ++ octet ++ " in position ".toList ++ Text.ofInt f.first
    else "bytes in position ".toList ++ Text.ofInt f.first ++ '-' ::
      Text.ofInt (f.first + f.count - 1)
  "'utf-8' codec can't decode ".toList ++ place ++ ": ".toList ++ reason

end Utf8

end SourceOutline
