import SourceOutline.Value.Basic

/-!
# Reading TOML: characters and keys

A reader takes what it reads from the front of a text and leaves the rest. This module holds the
type of readers, white space and comments, the four kinds of strings, and keys.
-/

namespace SourceOutline

namespace Toml

inductive Fault where
  | malformed
  /-- A whole number is written with too many digits to be read. -/
  | numeralTooLong (digits : Nat)
  /-- Arrays and inline tables stand too deep in one another. -/
  | nestedTooDeep
deriving DecidableEq, Repr

/-- Takes something from the front of a text. -/
abbrev Reader (α : Type) := Text → Except Fault (α × Text)

def refuse {α : Type} : Except Fault α := .error .malformed

def isSpace (c : Char) : Bool := c == ' ' || c == '\t'

def isSpaceOrBreak (c : Char) : Bool := isSpace c || c == '\n'

/-- Controls, which stand neither in comments nor in strings; the tab may. -/
def isControl (c : Char) : Bool := (c.toNat < 0x20 && c != '\t') || c.toNat == 0x7f

def isHexDigit (c : Char) : Bool :=
  c.isDigit || ('a' ≤ c && c ≤ 'f') || ('A' ≤ c && c ≤ 'F')

def hexValue (c : Char) : Nat :=
  if c.isDigit then c.toNat - 48
  else if 'a' ≤ c && c ≤ 'f' then c.toNat - 87
  else c.toNat - 55

def isBareKeyChar (c : Char) : Bool := c.isAlphanum || c == '-' || c == '_'

def skipSpaces (t : Text) : Text := t.dropWhile isSpace

def skipComment (t : Text) : Except Fault Text :=
  match t with
  | '#' :: rest =>
    if (rest.takeWhile (· != '\n')).any isControl then refuse
    else .ok (rest.dropWhile (· != '\n'))
  | _ => .ok t

/-- Drops spaces, line feeds and comments. Each round drops one comment, so there are no more rounds
than characters. -/
def skipBlanksAndComments : Nat → Text → Except Fault Text
  | 0, t => .ok t
  | fuel + 1, t => do
    let t := t.dropWhile isSpaceOrBreak
    match t with
    | '#' :: _ => skipBlanksAndComments fuel (← skipComment t)
    | _ => return t

/-! ## Strings -/

def literalString : Reader Text
  | [] => refuse
  | '\'' :: rest => .ok ([], rest)
  | c :: rest => do
    if isControl c then throw .malformed
    let (value, rest) ← literalString rest
    return (c :: value, rest)

/-- The character that a number stands for, if there is one. -/
def scalar? (n : Nat) : Option Char :=
  if n < 0xd800 || (0xdfff < n && n < 0x110000) then some (Char.ofNat n) else none

def hexChar (count : Nat) : Reader Char := fun t =>
  let digits := t.take count
  if digits.length = count ∧ digits.all isHexDigit then
    match scalar? (digits.foldl (fun n c => n * 16 + hexValue c) 0) with
    | some c => .ok (c, t.drop count)
    | none => refuse
  else refuse

/-- What follows a backslash in a string of one line. -/
def escape : Reader Char
  | 'b' :: rest => .ok ('\x08', rest)
  | 't' :: rest => .ok ('\t', rest)
  | 'n' :: rest => .ok ('\n', rest)
  | 'f' :: rest => .ok ('\x0c', rest)
  | 'r' :: rest => .ok ('\r', rest)
  | '"' :: rest => .ok ('"', rest)
  | '\\' :: rest => .ok ('\\', rest)
  | 'u' :: rest => hexChar 4 rest
  | 'U' :: rest => hexChar 8 rest
  | _ => refuse

/-- A string between double quotes, after the first of them. -/
def basicString : Nat → Reader Text
  | 0, _ => refuse
  | _, [] => refuse
  | _, '"' :: rest => .ok ([], rest)
  | fuel + 1, '\\' :: rest => do
    let (c, rest) ← escape rest
    let (value, rest) ← basicString fuel rest
    return (c :: value, rest)
  | fuel + 1, c :: rest => do
    if isControl c then throw .malformed
    let (value, rest) ← basicString fuel rest
    return (c :: value, rest)

/-- A backslash at the end of a line: it and the blanks up to the next other character are not part
of the string. `none` when the text after a backslash is no such place. -/
def lineEndEscape? (t : Text) : Option (Except Fault Text) :=
  match t with
  | '\n' :: _ => some (.ok (t.dropWhile isSpaceOrBreak))
  | ' ' :: _ | '\t' :: _ =>
    match skipSpaces t with
    | [] => some (.ok [])
    | '\n' :: rest => some (.ok (rest.dropWhile isSpaceOrBreak))
    | _ => some refuse
  | _ => none

/-- Up to two more quotes directly behind the three that close a string belong to it. -/
def extraQuotes (quote : Char) (t : Text) : Text × Text :=
  let extra := (t.take 2).takeWhile (· == quote)
  (extra, t.drop extra.length)

def multilineBasicString : Nat → Reader Text
  | 0, _ => refuse
  | _, [] => refuse
  | _, '"' :: '"' :: '"' :: rest => .ok (extraQuotes '"' rest)
  | fuel + 1, '\\' :: rest =>
    match lineEndEscape? rest with
    | some rest => do multilineBasicString fuel (← rest)
    | none => do
      let (c, rest) ← escape rest
      let (value, rest) ← multilineBasicString fuel rest
      return (c :: value, rest)
  | fuel + 1, c :: rest => do
    if isControl c && c != '\n' then throw .malformed
    let (value, rest) ← multilineBasicString fuel rest
    return (c :: value, rest)

def multilineLiteralString : Reader Text
  | [] => refuse
  | '\'' :: '\'' :: '\'' :: rest => .ok (extraQuotes '\'' rest)
  | c :: rest => do
    if isControl c && c != '\n' then throw .malformed
    let (value, rest) ← multilineLiteralString rest
    return (c :: value, rest)

/-- A line feed right behind the opening quotes is not part of a string of several lines. -/
def skipFirstBreak : Text → Text
  | '\n' :: rest => rest
  | t => t

def string? (t : Text) : Option (Except Fault (Text × Text)) :=
  match t with
  | '"' :: '"' :: '"' :: rest =>
    some (multilineBasicString (rest.length + 1) (skipFirstBreak rest))
  | '"' :: rest => some (basicString (rest.length + 1) rest)
  | '\'' :: '\'' :: '\'' :: rest => some (multilineLiteralString (skipFirstBreak rest))
  | '\'' :: rest => some (literalString rest)
  | _ => none

/-! ## Keys -/

def keyPart (t : Text) : Except Fault (Text × Text) :=
  match t with
  | '"' :: rest => basicString (rest.length + 1) rest
  | '\'' :: rest => literalString rest
  | _ =>
    let bare := t.takeWhile isBareKeyChar
    if bare.isEmpty then refuse else .ok (bare, t.dropWhile isBareKeyChar)

/-- The parts of a key, with dots between them and spaces around the dots and behind. -/
def key : Nat → Reader (List Text)
  | 0, _ => refuse
  | fuel + 1, t => do
    let (part, rest) ← keyPart t
    match skipSpaces rest with
    | '.' :: rest => do
      let (parts, rest) ← key fuel (skipSpaces rest)
      return (part :: parts, rest)
    | rest => return ([part], rest)

def startsKey (c : Char) : Bool := isBareKeyChar c || c == '"' || c == '\''

end Toml

end SourceOutline
