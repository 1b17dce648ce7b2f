import SourceOutline.Moment
import SourceOutline.Text.Quoted

/-!
# What can go wrong, and what is worth saying

A `Fault` stops a command; a `Notice` is what a command tells the user while it runs. Each is a
cause, and its wording is one function.
-/

namespace SourceOutline

inductive Fault where
  /-- A line number names no line. -/
  | lineOutOfRange
  /-- No bullet can be picked from an empty row of glyphs. -/
  | noGlyphs
  /-- A configured comment character holds nothing but blanks. -/
  | blankMark
  /-- Outline levels start at one. -/
  | levelBelowOne (level : Int)
  /-- A subtree belongs to a heading only. -/
  | notAHeading (line : Int)
  /-- A command is repeated at least once. -/
  | repeatBelowOne (count : Int)
  /-- Neither the settings nor the language give a comment character. -/
  | noCommentSyntax (language : Option Text)
  /-- Only a listener that was added can be removed. -/
  | notListening
  /-- A command is repeated at least once; the count was given as something but a whole number. -/
  | countRefused (written : Text)
  /-- A run of comment characters is too long to be counted. -/
  | countTooLarge
  /-- A text is too long to be counted. -/
  | textTooLong
  /-- A text does not fit into memory. -/
  | outOfMemory
  /-- A setting has a value of a kind that the outline cannot be read with. -/
  | unusableSetting
  /-- A configured comment character is no text. -/
  | markNotAText
  /-- A keyword in a title is not on the ring of keywords. -/
  | keywordNotListed (keyword : Text)
  /-- A step of a script has an argument of a kind that it cannot use, or lacks one. -/
  | unusableArgument
  /-- Nothing stands under a name that is looked up. -/
  | notFound
  /-- A moment that the calendar or the clock does not have. -/
  | unreal (field : Moment.Field)
deriving DecidableEq, Repr

namespace Fault

def message : Fault → Text
  | lineOutOfRange => "list index out of range".toList
  | noGlyphs => "no glyphs to choose from".toList
  | blankMark => "the comment character is blank".toList
  | levelBelowOne level => "Outline levels start at 1, got ".toList ++ Text.ofInt level
  | notAHeading line => "Line ".toList ++ Text.ofInt line ++ " is not a heading".toList
  | repeatBelowOne count => "Repeat count must be positive, got ".toList ++ Text.ofInt count
  | noCommentSyntax none => "No comment syntax defined for this document".toList
  | noCommentSyntax (some language) =>
    "No comment syntax defined for language \x60".toList ++ language ++ ['\x60']
  | notListening => "list.remove(x): x not in list".toList
  | countRefused written => "Repeat count must be positive, got ".toList ++ written
  | countTooLarge => "cannot fit 'int' into an index-sized integer".toList
  | textTooLong => "repeated string is too long".toList
  | outOfMemory => []
  | unusableSetting => "a setting has an unusable value".toList
  | markNotAText => "the comment character is no text".toList
  | keywordNotListed keyword => Text.quoted keyword ++ " is not in list".toList
  | unusableArgument => "an argument is missing or has an unusable value".toList
  | notFound => "nothing has this name".toList
  | unreal field => field.message

end Fault

/-- How much of one heading's subtree is in view. -/
inductive LocalPhase where
  /-- Only the heading line. -/
  | folded
  /-- The heading's own body and its direct child headings. -/
  | children
  /-- The whole subtree. -/
  | subtree
deriving DecidableEq, Repr, Inhabited

/-- How much of the whole document is in view. -/
inductive GlobalPhase where
  /-- Only outermost headings. -/
  | overview
  /-- Every heading and no body. -/
  | contents
  /-- Everything. -/
  | all
deriving DecidableEq, Repr, Inhabited

def LocalPhase.label : LocalPhase → Text
  | folded => "FOLDED".toList
  | children => "CHILDREN".toList
  | subtree => "SUBTREE".toList

def GlobalPhase.label : GlobalPhase → Text
  | overview => "OVERVIEW".toList
  | contents => "CONTENTS".toList
  | all => "SHOW ALL".toList

inductive Notice where
  | notOnHeading
  | invalidLevel (level : Int)
  /-- A level given as something but a whole number. -/
  | levelRefused (written : Text)
  | cannotPromote
  | noKeywords
  | unknownKeyword (keyword : Text)
  | noNextHeading
  | noPreviousHeading
  | nothingToFold
  | showing (phase : LocalPhase)
  | showingAll (phase : GlobalPhase)
deriving DecidableEq, Repr

def Notice.message : Notice → Text
  | notOnHeading => "Not on a heading".toList
  | invalidLevel level => "Invalid heading level ".toList ++ Text.ofInt level
  | levelRefused written => "Invalid heading level ".toList ++ written
  | cannotPromote => "Cannot promote further".toList
  | noKeywords => "No TODO keywords configured".toList
  | unknownKeyword keyword => "Unknown keyword ".toList ++ keyword
  | noNextHeading => "No next heading".toList
  | noPreviousHeading => "No previous heading".toList
  | nothingToFold => "EMPTY".toList
  | showing phase => phase.label
  | showingAll phase => phase.label

end SourceOutline
