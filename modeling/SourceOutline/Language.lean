import SourceOutline.Path.Name
import SourceOutline.Fault

/-!
# Languages and their comment characters

A language declares how its line comments open, or a table that gives characters their class. The
comment character is the first visible character of the opening token, else the first character of
the class of comment starters.
-/

namespace SourceOutline

/-- How a language writes comments. -/
structure Language where
  name : Text
  /-- The token that opens a line comment, perhaps with blanks around it. -/
  commentStart : Option Text := none
  /-- Characters and their classes, in the order of declaration. -/
  classes : List (Text × Text) := []
deriving DecidableEq, Repr

namespace Language

/-- The class of characters that start a comment. -/
def commentStarter : Text := "comment-start".toList

/-- Gives a character a class. A character has one class, and keeps its place among the others when
it is given a new one. -/
def declare (classes : List (Text × Text)) (character class_ : Text) : List (Text × Text) :=
  if classes.any fun entry => entry.1 == character
  then classes.map fun entry => if entry.1 == character then (character, class_) else entry
  else classes ++ [(character, class_)]

def commentChar? (language : Language) : Option Text :=
  match (language.commentStart.getD []).trim with
  | c :: _ => some [c]
  | [] => (language.classes.find? fun entry => entry.2 == commentStarter).map Prod.fst

private def withToken (name token : String) : Language :=
  { name := name.toList, commentStart := some token.toList }

private def withClasses (name : String) (classes : List (Char × String)) : Language :=
  { name := name.toList, classes := classes.map fun entry => ([entry.1], entry.2.toList) }

def known : List Language :=
  [withToken "python" "# ", withToken "shell" "# ", withToken "ruby" "# ", withToken "toml" "# ",
   withToken "yaml" "# ", withToken "c" "// ", withToken "cpp" "// ", withToken "java" "// ",
   withToken "javascript" "// ", withToken "typescript" "// ", withToken "go" "// ",
   withToken "rust" "// ", withToken "lisp" "; ", withToken "elisp" ";; ", withToken "sql" "-- ",
   withToken "lua" "-- ", withToken "haskell" "-- ", withToken "tex" "% ",
   withToken "erlang" "% ", withToken "vim" "\" ",
   withClasses "conf" [('#', "comment-start"), ('\n', "comment-end")],
   withClasses "ini" [('=', "punctuation"), (';', "comment-start")],
   { name := "text".toList }]

def named? (name : Text) : Option Language := known.find? fun language => language.name == name

def extensions : List (String × String) :=
  [(".py", "python"), (".pyi", "python"), (".sh", "shell"), (".bash", "shell"), (".zsh", "shell"),
   (".rb", "ruby"), (".toml", "toml"), (".yaml", "yaml"), (".yml", "yaml"), (".c", "c"),
   (".h", "c"), (".cc", "cpp"), (".cpp", "cpp"), (".hpp", "cpp"), (".java", "java"),
   (".js", "javascript"), (".mjs", "javascript"), (".ts", "typescript"), (".go", "go"),
   (".rs", "rust"), (".lisp", "lisp"), (".scm", "lisp"), (".el", "elisp"), (".sql", "sql"),
   (".lua", "lua"), (".hs", "haskell"), (".tex", "tex"), (".erl", "erlang"), (".vim", "vim"),
   (".conf", "conf"), (".cfg", "conf"), (".ini", "ini"), (".txt", "text")]

def ofPath? (path : PathName) : Option Language :=
  let extension := path.extension.lowerAscii
  (extensions.find? fun entry => entry.1.toList == extension).bind fun entry =>
    named? entry.2.toList

end Language

end SourceOutline
