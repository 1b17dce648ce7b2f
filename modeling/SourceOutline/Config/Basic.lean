import SourceOutline.Path.Name

/-!
# Configuration of outlines

The settings that every reading of an outline depends on, each with a value of its own type.
`Config.Valid` states what the checked configurations promise; the outline functions themselves are
defined on every configuration.
-/

namespace SourceOutline

/-- Whether a blank line goes in front of an inserted heading. -/
inductive BlankLinePolicy where
  | always
  | never
  /-- As in front of the closest preceding sibling. -/
  | auto
deriving DecidableEq, Repr, Inhabited

/-- The files whose block regions get a background. -/
inductive BlockFilter where
  | all
  | named (names : List Text)
deriving DecidableEq, Repr, Inhabited

/-- The settings of an outline. -/
structure Config where
  /-- The length of the comment run that opens a heading of level one. -/
  baseLevel : Int := 3
  /-- A comment character that overrides the language's. -/
  commentChar : Option Text := none
  /-- The glyphs shown in place of heading prefixes, dealt out by level. -/
  bulletGlyphs : List Text := [['◉'], ['○'], ['✸'], ['✿']]
  /-- One face for all headings. -/
  headingFace : Option Text := none
  /-- The blank lines that a block region keeps at its end. -/
  blockPadding : Int := 1
  /-- The files whose block regions get a background. -/
  blockFiles : BlockFilter := .all
  /-- The keywords that may open a title, in cycling order. -/
  todoKeywords : List Text := ["TODO".toList, "DONE".toList]
  /-- The keyword whose arrival records a time; the last keyword when not given. -/
  doneKeyword : Option Text := none
  blankLinePolicy : BlankLinePolicy := .auto
  /-- The size in bytes up to which a file is read. -/
  maxFileSize : Int := 10 * 1024 * 1024
deriving DecidableEq, Repr, Inhabited

/-- A word of capital letters A to Z. -/
def isCapitalWord (t : Text) : Bool := !t.isEmpty && t.all fun c => 'A' ≤ c && c ≤ 'Z'

namespace Config

/-- The keyword that records a time on arrival: the configured one, else the last keyword. -/
def effectiveDoneKeyword (c : Config) : Option Text :=
  c.doneKeyword.orElse fun _ => c.todoKeywords.getLast?

/-- Whether backgrounds are painted for a file. A document without a name is painted only when all
files are. -/
def acceptsBlocks (c : Config) (fileName : Option Text) : Bool :=
  match c.blockFiles, fileName with
  | .all, _ => true
  | .named _, none => false
  | .named names, some file => names.contains (PathName.ofText file).name

/-- What a checked configuration promises. -/
structure Valid (c : Config) : Prop where
  baseLevel_pos : 1 ≤ c.baseLevel
  blockPadding_nonneg : 0 ≤ c.blockPadding
  maxFileSize_pos : 1 ≤ c.maxFileSize
  bulletGlyphs_ne_nil : c.bulletGlyphs ≠ []
  bulletGlyphs_single : ∀ glyph ∈ c.bulletGlyphs, glyph.length = 1
  todoKeywords_words : ∀ keyword ∈ c.todoKeywords, isCapitalWord keyword = true
  todoKeywords_nodup : c.todoKeywords.Nodup
  doneKeyword_mem : ∀ keyword ∈ c.doneKeyword, keyword ∈ c.todoKeywords
  blockFiles_named : ∀ names, c.blockFiles = .named names → ∀ name ∈ names, name ≠ []
  commentChar_visible : ∀ mark ∈ c.commentChar, mark.isBlankText = false

end Config

end SourceOutline
