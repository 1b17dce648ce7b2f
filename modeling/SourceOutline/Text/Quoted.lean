import SourceOutline.Text.Printable

/-!
# Quoted texts

Names in a message stand between quotes, so that spaces and invisible characters in them show. The
quotes are single, or double when the text holds a single quote and no double one; the backslash
escapes the quote, itself, the usual controls and every character that would not print.
-/

namespace SourceOutline

namespace Text

def hexDigit (n : Nat) : Char := if n < 10 then Char.ofNat (48 + n) else Char.ofNat (87 + n)

def hexDigits : Nat → Nat → Text
  | 0, _ => []
  | width + 1, n => hexDigits width (n / 16) ++ [hexDigit (n % 16)]

def quotedChar (quote c : Char) : Text :=
  if c == quote || c == '\\' then ['\\', c]
  else if c == '\t' then ['\\', 't']
  else if c == '\n' then ['\\', 'n']
  else if c == '\r' then ['\\', 'r']
  else if isPrintable c then [c]
  else if c.toNat < 0x100 then '\\' :: 'x' :: hexDigits 2 c.toNat
  else if c.toNat < 0x10000 then '\\' :: 'u' :: hexDigits 4 c.toNat
  else '\\' :: 'U' :: hexDigits 8 c.toNat

def quoteFor (t : Text) : Char := if t.contains '\'' && !t.contains '"' then '"' else '\''

def quoted (t : Text) : Text :=
  let quote := quoteFor t
  quote :: t.flatMap (quotedChar quote) ++ [quote]

def quotedList (ts : List Text) : Text :=
  '[' :: joinWith [',', ' '] (ts.map quoted) ++ [']']

end Text

end SourceOutline
