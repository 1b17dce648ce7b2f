import SourceOutline.Decimal.Shortest
import SourceOutline.Text.Quoted
import SourceOutline.Value.Basic

/-!
# Values in messages

A message tells a value in the form in which it would be written down: a text as it is, and what
stands in a list or in a table one after the other, texts then in quotes.
-/

namespace SourceOutline

namespace Value

def writtenAtom : Value → Text
  | null => "None".toList
  | bool true => "True".toList
  | bool false => "False".toList
  | int n => Text.ofInt n
  | float x => Text.ofFloat settingFloatStyle x
  | text t => Text.quoted t
  | moment m => m.fullText ' '
  | date written => written
  | list _ => []
  | tuple _ => []
  | table _ => []

mutual

def writtenInside : Value → Text
  | list items => '[' :: writtenItems items ++ [']']
  | tuple items =>
    '(' :: writtenItems items ++ (if items.length = 1 then [',', ')'] else [')'])
  | table entries => '\x7b' :: writtenEntries entries ++ ['\x7d']
  | v => writtenAtom v

def writtenItems : List Value → Text
  | [] => []
  | [v] => writtenInside v
  | v :: other :: rest => writtenInside v ++ ", ".toList ++ writtenItems (other :: rest)

def writtenEntries : List (Text × Value) → Text
  | [] => []
  | [(key, v)] => Text.quoted key ++ ": ".toList ++ writtenInside v
  | (key, v) :: other :: rest =>
    Text.quoted key ++ ": ".toList ++ writtenInside v ++ ", ".toList ++
      writtenEntries (other :: rest)

end

def written : Value → Text
  | text t => t
  | v => writtenInside v

end Value

end SourceOutline
