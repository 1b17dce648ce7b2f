import SourceOutline.Text.Basic

/-!
# Commands and their options

What may be said on the command line: the commands, the options that each of them accepts, and the
arguments that it takes besides.
-/

namespace SourceOutline

namespace CommandLine

inductive CommandName where
  | outline
  | regions
  | render
  | promote
  | demote
  | todo
  | insert
  | subheading
deriving DecidableEq, Repr

inductive OptionName where
  | verbose
  | version
  | help
  | baseLevel
  | commentChar
  | padding
  | view
  | count
  | subtree
  | backward
  | keyword
  | clear
  | column
  | level
  | respectContent
deriving DecidableEq, Repr

inductive ArgumentName where
  | file
  | line
deriving DecidableEq, Repr

inductive OptionKind where
  /-- Nothing: that it is there says it all. -/
  | flag
  | text
  | number
  /-- A number that is not below a bound. -/
  | numberFrom (least : Int)
  | view
deriving DecidableEq, Repr

namespace CommandName

def all : List CommandName :=
  [outline, regions, render, promote, demote, todo, insert, subheading]

def text : CommandName → Text
  | outline => "outline".toList
  | regions => "regions".toList
  | render => "render".toList
  | promote => "promote".toList
  | demote => "demote".toList
  | todo => "todo".toList
  | insert => "insert".toList
  | subheading => "subheading".toList

def ofText? (t : Text) : Option CommandName := all.find? fun command => command.text == t

def sharedOptions : List OptionName := [.baseLevel, .commentChar, .padding]

def ownOptions : CommandName → List OptionName
  | outline | regions | subheading => []
  | render => [.view]
  | promote | demote => [.count, .subtree]
  | todo => [.backward, .keyword, .clear]
  | insert => [.column, .level, .respectContent]

def options (command : CommandName) : List OptionName :=
  sharedOptions ++ command.ownOptions ++ [.help]

def arguments : CommandName → List ArgumentName
  | outline | regions | render => [.file]
  | _ => [.file, .line]

end CommandName

def programOptions : List OptionName := [.verbose, .version, .help]

namespace OptionName

def spellings : OptionName → List Text
  | verbose => ["-v".toList, "--verbose".toList]
  | version => ["--version".toList]
  | help => ["--help".toList]
  | baseLevel => ["--base-level".toList]
  | commentChar => ["--comment-char".toList]
  | padding => ["--padding".toList]
  | view => ["--view".toList]
  | count => ["-n".toList]
  | subtree => ["--subtree".toList]
  | backward => ["--backward".toList]
  | keyword => ["--set".toList]
  | clear => ["--clear".toList]
  | column => ["--column".toList]
  | level => ["--level".toList]
  | respectContent => ["--respect-content".toList]

def kind : OptionName → OptionKind
  | baseLevel | padding => .number
  | commentChar | keyword => .text
  | view => .view
  | count | level => .numberFrom 1
  | column => .numberFrom 0
  | verbose | version | help | subtree | backward | clear | respectContent => .flag

def isFlag (option : OptionName) : Bool := option.kind == .flag

/-- Whether an option is answered before anything else that was said is looked at. -/
def isEager : OptionName → Bool
  | version | help => true
  | _ => false

def longSpellings (option : OptionName) : List Text :=
  option.spellings.filter fun spelling => ['-', '-'].isPrefixOf spelling

end OptionName

def ArgumentName.text : ArgumentName → Text
  | .file => "FILEPATH".toList
  | .line => "LINE".toList

end CommandLine

end SourceOutline
