import SourceOutline.Config.Settings
import SourceOutline.Heading
import SourceOutline.Value.Number
import SourceOutline.Value.Written

/-!
# Drafts: settings taken at their word

Settings can be used before anybody has checked them. A value of an unusable kind then does no harm
until something calls for it: a padding that is no number matters where the end of a region is worked
out, and nowhere else. A `Draft` is what such settings amount to: a configuration, in which
unusable values have been replaced by defaults, and beside it the faults that come up where the
replaced values are called for.
-/

namespace SourceOutline

inductive KeywordSource where
  /-- A list, of which the texts can open a title. -/
  | listed (items : List Value)
  /-- A table, whose keys can open a title. They have an order, but none of them can be found by its
  number. -/
  | keyed (keys : List Text)
  /-- One text: each of its pieces can open a title, and a cycle goes through its characters. -/
  | spelled (text : Text)
  /-- A value in which nothing can be looked up; whether it stands for something. -/
  | unusable (given : Bool)

namespace KeywordSource

def ofValue : Value → KeywordSource
  | .list items | .tuple items => listed items
  | .text t => spelled t
  | .table entries => keyed (entries.map Prod.fst)
  | v => unusable v.isSomething

def wordsIn : Text → List Text
  | [] => []
  | c :: rest =>
    let run := (c :: rest).takeWhile isKeywordChar
    (List.range run.length).map (fun n => run.take (n + 1)) ++ wordsIn rest

def words : KeywordSource → List Text
  | listed items => items.filterMap Value.text?
  | keyed keys => keys
  | spelled t => wordsIn t
  | unusable _ => []

def accepts (keyword : Text) : KeywordSource → Except Fault Bool
  | listed items => .ok ((items.filterMap Value.text?).contains keyword)
  | keyed keys => .ok (keys.contains keyword)
  | spelled t => .ok (keyword.occursIn t)
  | unusable _ => .error .unusableSetting

/-- The keywords that a cycle goes through. -/
def ring : KeywordSource → Except Fault (List Value)
  | listed items => .ok items
  | keyed keys => .ok (keys.map .text)
  | spelled t => .ok (t.map fun c => .text [c])
  | unusable false => .ok []
  | unusable true => .error .unusableSetting

def last (source : KeywordSource) : Except Fault (Option Value) :=
  match source with
  | keyed (_ :: _) => .error .notFound
  | source => source.ring.map List.getLast?

end KeywordSource

/-- What settings amount to that nobody has checked. -/
structure Draft where
  /-- The settings, with defaults in the place of unusable values. -/
  config : Config
  /-- The length of the run that ends a section. -/
  sectionLength : Int
  /-- What comes up when a comment run is compared with the base length. -/
  runFault : Option Fault
  /-- What comes up when a heading is read. A base length that is no whole number tells headings from
  other lines, but no heading can be taken apart at it. -/
  headingFault : Option Fault
  /-- What comes up when the padding of a region is counted. -/
  paddingFault : Option Fault
  /-- What comes up when the configured comment character is asked for. -/
  markFault : Option Fault
  keywords : KeywordSource
  /-- The done keyword, or the null value. -/
  done : Value
  /-- The glyphs to deal out, or what comes up when one is asked for. -/
  glyphs : Except Fault (List Value)
  /-- The face of all headings, or the null value. -/
  face : Value

namespace Draft

/-- The glyphs that a value holds; there is none to be found in a table by its number. -/
def glyphsOf : Value → Except Fault (List Value)
  | .list items | .tuple items => .ok items
  | .text t => .ok (t.map fun c => .text [c])
  | .table [] => .ok []
  | .table _ => .error .notFound
  | _ => .error .unusableSetting

/-- What a value comes to as a base length. -/
structure Base where
  /-- The least length of a run that opens a heading. -/
  least : Int
  /-- The length of the run that opens a heading of level one. -/
  first : Int
  runFault : Option Fault := none
  headingFault : Option Fault := none

/-- The base length that a value stands for. Between two whole numbers no run has level one. -/
def baseOf (v : Value) : Base :=
  match v.number? with
  | some (.whole n) => { least := n, first := n }
  | some (.real x) =>
    let least := x.ceil.toInt64.toInt
    { least, first := if x.ceil == x then least else 0, headingFault := some .unusableSetting }
  | none =>
    { least := 0, first := 0, runFault := some .unusableSetting
      headingFault := some .unusableSetting }

def paddingOf (v : Value) : Int × Option Fault :=
  match v.number? with
  | some (.whole n) => (n, none)
  | some (.real x) => (x.floor.toInt64.toInt, none)
  | none => (0, some .unusableSetting)

end Draft

/-- The draft that settings amount to. A policy that is not known works like the automatic one. -/
def Settings.draft (s : Settings) : Draft :=
  let base := Draft.baseOf (s.value .baseLevel)
  let (blockPadding, paddingFault) := Draft.paddingOf (s.value .blockPadding)
  let keywords := KeywordSource.ofValue (s.value .todoKeywords)
  let commentChar := s.value .commentChar
  let otherwise : Config := {}
  { config :=
      { baseLevel := base.least, blockPadding, commentChar := commentChar.text?
        bulletGlyphs :=
          (Settings.checkGlyphs (s.value .bulletGlyphs).fixed).toOption.getD otherwise.bulletGlyphs
        headingFace := (s.value .headingFace).text?
        blockFiles :=
          (Settings.checkBlockFiles (s.value .blockFiles).fixed).toOption.getD otherwise.blockFiles
        todoKeywords := keywords.words
        doneKeyword := (s.value .doneKeyword).text?
        blankLinePolicy := (Settings.policy? (s.value .blankLinePolicy)).getD .auto
        maxFileSize := ((s.value .maxFileSize).int?).getD otherwise.maxFileSize }
    sectionLength := base.first
    runFault := base.runFault
    headingFault := base.headingFault
    paddingFault, keywords
    markFault := if commentChar.isNull || commentChar.text?.isSome then none else some .markNotAText
    done := s.value .doneKeyword
    glyphs := Draft.glyphsOf (s.value .bulletGlyphs)
    face := s.value .headingFace }

end SourceOutline
