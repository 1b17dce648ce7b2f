import SourceOutline.Text.Basic

/-!
# Plain text

A control sequence tells a terminal how to display what follows: the escape character, an opening
bracket, parameters of digits, semicolons and question marks, and a letter. Output that goes
anywhere else is plain, which means that the control sequences in it are left out.
-/

namespace SourceOutline

namespace Text

def escapeChar : Char := '\x1b'

/-- A character of the parameters of a control sequence. -/
def isParameterChar (c : Char) : Bool := c.isDigit || c == ';' || c == '?'

/-- The length of the control sequence that a text begins with; zero when it begins with none. -/
def controlLength : Text → Nat
  | c :: '[' :: rest =>
    match rest.dropWhile isParameterChar with
    | last :: _ =>
      if c == escapeChar && last.isAlpha then (rest.takeWhile isParameterChar).length + 3 else 0
    | [] => 0
  | _ => 0

/-- The text without its control sequences, where the next `dropping` characters belong to one. -/
def plainAfter : (dropping : Nat) → Text → Text
  | _, [] => []
  | n + 1, _ :: rest => plainAfter n rest
  | 0, c :: rest =>
    match controlLength (c :: rest) with
    | 0 => c :: plainAfter 0 rest
    | n + 1 => plainAfter n rest

def plain (t : Text) : Text := plainAfter 0 t

end Text

end SourceOutline
