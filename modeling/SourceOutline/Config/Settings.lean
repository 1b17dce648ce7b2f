import SourceOutline.Value.Basic
import SourceOutline.Config.Basic
import SourceOutline.Text.Quoted

/-!
# Checking settings

`Settings` holds one raw value for each setting, as files and editors give them.
`Settings.normalize` keeps the lists of glyphs, keywords and files from changes, and
`Settings.check` then examines the values one after the other and either names the first fault or
gives the `Config` that they stand for. The order of the examination is part of the rule: of two
faults the earlier one is named.
-/

namespace SourceOutline

inductive Setting where
  | baseLevel
  | commentChar
  | bulletGlyphs
  | headingFace
  | blockPadding
  | blockFiles
  | todoKeywords
  | doneKeyword
  | blankLinePolicy
  | maxFileSize
deriving DecidableEq, Repr, Inhabited

namespace Setting

def all : List Setting :=
  [baseLevel, commentChar, bulletGlyphs, headingFace, blockPadding, blockFiles, todoKeywords,
   doneKeyword, blankLinePolicy, maxFileSize]

def name : Setting → Text
  | baseLevel => "base_level".toList
  | commentChar => "comment_char".toList
  | bulletGlyphs => "bullet_glyphs".toList
  | headingFace => "heading_face".toList
  | blockPadding => "block_padding".toList
  | blockFiles => "block_files".toList
  | todoKeywords => "todo_keywords".toList
  | doneKeyword => "done_keyword".toList
  | blankLinePolicy => "blank_line_policy".toList
  | maxFileSize => "max_file_size".toList

def takesList : Setting → Bool
  | bulletGlyphs | blockFiles | todoKeywords => true
  | _ => false

def ofName? (t : Text) : Option Setting := all.find? fun s => s.name == t

end Setting

inductive ConfigError where
  | notInteger (setting : Setting)
  | notPositive (setting : Setting)
  | negativePadding
  | glyphsNotAList
  | glyphsNotSingle
  | keywordsNotAList
  | keywordsNotWords
  | keywordsRepeated
  | doneNotAKeyword
  | unknownPolicy
  | blockFilesMalformed
  | faceNotAText
  | commentCharBlank
  /-- A change names a setting that does not exist; all names of the change are told. -/
  | unknownSettings (names : List Text)
  /-- A change is addressed to the holder of the settings. -/
  | misaddressed
  /-- A configuration file's table is no table, or names a setting that does not exist. -/
  | badTable (table path : Text)
deriving DecidableEq, Repr

namespace ConfigError

private def quoted (t : Text) : Text := '\x60' :: t ++ ['\x60']

def message : ConfigError → Text
  | notInteger s => quoted s.name ++ " must be an integer".toList
  | notPositive s => quoted s.name ++ " must be a positive integer".toList
  | negativePadding => quoted Setting.blockPadding.name ++ " must be a non-negative integer".toList
  | glyphsNotAList => quoted Setting.bulletGlyphs.name ++ " must be a non-empty list".toList
  | glyphsNotSingle =>
    quoted Setting.bulletGlyphs.name ++ " entries must be single characters".toList
  | keywordsNotAList => quoted Setting.todoKeywords.name ++ " must be a list".toList
  | keywordsNotWords =>
    quoted Setting.todoKeywords.name ++ " entries must be uppercase words".toList
  | keywordsRepeated => quoted Setting.todoKeywords.name ++ " must not contain duplicates".toList
  | doneNotAKeyword =>
    quoted Setting.doneKeyword.name ++ " must be one of ".toList ++
      quoted Setting.todoKeywords.name
  | unknownPolicy =>
    quoted Setting.blankLinePolicy.name ++ " must be one of: always, never, auto".toList
  | blockFilesMalformed =>
    quoted Setting.blockFiles.name ++ " must be \"all\" or a list of file names".toList
  | faceNotAText => quoted Setting.headingFace.name ++ " must be a string".toList
  | commentCharBlank => quoted Setting.commentChar.name ++ " must not be blank".toList
  | unknownSettings names => "Unknown setting in ".toList ++ Text.quotedList names
  | misaddressed => "a change cannot be made to the holder of the settings".toList
  | badTable table path =>
    "Invalid ".toList ++ quoted ('[' :: table ++ [']']) ++ " settings in ".toList ++ path

end ConfigError

/-- One raw value for every setting. -/
structure Settings where
  value : Setting → Value

namespace Settings

/-- The value that stands for a choice of files. -/
def ofBlockFilter : BlockFilter → Value
  | .all => .text "all".toList
  | .named names => .ofTexts names

def ofPolicy : BlankLinePolicy → Value
  | .always => .text "always".toList
  | .never => .text "never".toList
  | .auto => .text "auto".toList

def ofConfig (c : Config) : Settings where
  value
    | .baseLevel => .int c.baseLevel
    | .commentChar => .ofText? c.commentChar
    | .bulletGlyphs => .ofTexts c.bulletGlyphs
    | .headingFace => .ofText? c.headingFace
    | .blockPadding => .int c.blockPadding
    | .blockFiles => ofBlockFilter c.blockFiles
    | .todoKeywords => .ofTexts c.todoKeywords
    | .doneKeyword => .ofText? c.doneKeyword
    | .blankLinePolicy => ofPolicy c.blankLinePolicy
    | .maxFileSize => .int c.maxFileSize

def defaults : Settings := ofConfig {}

def set (s : Settings) (key : Setting) (v : Value) : Settings where
  value k := if k = key then v else s.value k

/-- Sets values by name in order; `none` when a name is not that of a setting. -/
def setNamed? (s : Settings) : List (Text × Value) → Option Settings
  | [] => some s
  | (name, v) :: rest => do
    let key ← Setting.ofName? name
    (s.set key v).setNamed? rest

/-- The name of all settings together. No change may name them, not even a change to nothing. -/
def wholeName : Text := "config".toList

/-- Changes settings by name, where a null value stands for no change. -/
def override? (s : Settings) (changes : List (Text × Value)) : Option Settings :=
  if changes.any fun change => change.1 == wholeName then none
  else s.setNamed? (changes.filter fun change => !change.2.isNull)

/-- The settings with their lists kept from changes. A list in the place of another value stays as it
is. -/
def normalize (s : Settings) : Settings where
  value key := if key.takesList then (s.value key).fixed else s.value key

/-! ## Checks -/

def integer (s : Settings) (key : Setting) : Except ConfigError Int :=
  match (s.value key).int? with
  | some n => .ok n
  | none => .error (.notInteger key)

def ensurePositive (key : Setting) (n : Int) : Except ConfigError Unit :=
  if n ≤ 0 then .error (.notPositive key) else .ok ()

def checkGlyphs (v : Value) : Except ConfigError (List Text) :=
  match v.tuple? with
  | none | some [] => .error .glyphsNotAList
  | some items =>
    match items.mapM Value.text? with
    | none => .error .glyphsNotSingle
    | some glyphs =>
      if glyphs.all (fun glyph => glyph.length == 1) then .ok glyphs else .error .glyphsNotSingle

def checkKeywords (v : Value) : Except ConfigError (List Text) :=
  match v.tuple? with
  | none => .error .keywordsNotAList
  | some items =>
    match items.mapM Value.text? with
    | none => .error .keywordsNotWords
    | some keywords =>
      if !keywords.all isCapitalWord then .error .keywordsNotWords
      else if keywords.Nodup then .ok keywords else .error .keywordsRepeated

def checkDone (keywords : List Text) : Value → Except ConfigError (Option Text)
  | .null => .ok none
  | .text keyword =>
    if keywords.contains keyword then .ok (some keyword) else .error .doneNotAKeyword
  | _ => .error .doneNotAKeyword

def policy? : Value → Option BlankLinePolicy
  | .text t =>
    if t == "always".toList then some .always
    else if t == "never".toList then some .never
    else if t == "auto".toList then some .auto
    else none
  | _ => none

def checkBlockFiles (v : Value) : Except ConfigError BlockFilter :=
  match v with
  | .text t => if t == "all".toList then .ok .all else .error .blockFilesMalformed
  | _ =>
    match v.tuple?.bind fun items => items.mapM Value.text? with
    | some names =>
      if names.all (fun name => !name.isEmpty) then .ok (.named names)
      else .error .blockFilesMalformed
    | none => .error .blockFilesMalformed

def checkFace : Value → Except ConfigError (Option Text)
  | .null => .ok none
  | .text face => .ok (some face)
  | _ => .error .faceNotAText

def checkCommentChar : Value → Except ConfigError (Option Text)
  | .null => .ok none
  | .text mark => if mark.isBlankText then .error .commentCharBlank else .ok (some mark)
  | _ => .error .commentCharBlank

/-- The configuration that values with fixed lists stand for, or the first fault in the order numbers,
glyphs, keywords, done keyword, policy, block files, face, comment character. -/
def examine (s : Settings) : Except ConfigError Config := do
  let baseLevel ← s.integer .baseLevel
  let blockPadding ← s.integer .blockPadding
  let maxFileSize ← s.integer .maxFileSize
  ensurePositive .baseLevel baseLevel
  ensurePositive .maxFileSize maxFileSize
  if blockPadding < 0 then throw .negativePadding
  let bulletGlyphs ← checkGlyphs (s.value .bulletGlyphs)
  let todoKeywords ← checkKeywords (s.value .todoKeywords)
  let doneKeyword ← checkDone todoKeywords (s.value .doneKeyword)
  let some blankLinePolicy := policy? (s.value .blankLinePolicy) | throw .unknownPolicy
  let blockFiles ← checkBlockFiles (s.value .blockFiles)
  let headingFace ← checkFace (s.value .headingFace)
  let commentChar ← checkCommentChar (s.value .commentChar)
  return { baseLevel, commentChar, bulletGlyphs, headingFace, blockPadding, blockFiles,
           todoKeywords, doneKeyword, blankLinePolicy, maxFileSize }

/-- The configuration that the values stand for, or their first fault. -/
def check (s : Settings) : Except ConfigError Config := s.normalize.examine

/-! ## Values taken at their word -/

/-- Whether raw settings paint the blocks of a file: a list accepts its members, a text its pieces,
a table its keys; `none` when the value can hold no names at all. -/
def acceptsBlocks? (s : Settings) (fileName : Option Text) : Option Bool :=
  match s.value .blockFiles, fileName with
  | .text t, file =>
    if t == "all".toList then some true
    else some (file.elim false fun file => (PathName.ofText file).name.occursIn t)
  | _, none => some false
  | .list items, some file | .tuple items, some file =>
    some ((items.filterMap Value.text?).contains (PathName.ofText file).name)
  | .table entries, some file =>
    some ((entries.map Prod.fst).contains (PathName.ofText file).name)
  | _, some _ => none

end Settings

end SourceOutline
