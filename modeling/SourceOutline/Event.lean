import SourceOutline.Fault

/-!
# The journal

What the library does is told in events, in the order in which it happens. All of them are details
for the curious, except that a configuration file was passed over.
-/

namespace SourceOutline

inductive Event where
  /-- A session began a command. -/
  | command (name : Text) (document : Option Text)
  /-- An editing or moving command told the user something. -/
  | outlineReport (notice : Notice)
  /-- A folding command told the user something. -/
  | foldReport (notice : Notice)
  | headingInserted (line level : Int)
  | subheadingInserted (line level : Int)
  | headingPromoted (line steps : Int)
  | headingDemoted (line steps : Int)
  | subtreeShifted (line stop steps : Int)
  | keywordSet (line : Int) (old new : Option Text)
  | movedToHeading (line : Int)
  /-- A cache dropped what it had derived. -/
  | cacheInvalidated (document : Option Text)
  /-- A cache derived the decoration of one line anew. -/
  | headingRederived (line : Int)
  | configUpdated (changes : List Text) (subscribers : Nat)
  | configFileSkipped (path : Text)
  | configFileLoaded (path table : Text)
deriving DecidableEq, Repr

namespace Event

def name : Event → Text
  | command .. => "command".toList
  | outlineReport .. => "outline_report".toList
  | foldReport .. => "fold_report".toList
  | headingInserted .. => "heading_inserted".toList
  | subheadingInserted .. => "subheading_inserted".toList
  | headingPromoted .. => "heading_promoted".toList
  | headingDemoted .. => "heading_demoted".toList
  | subtreeShifted .. => "subtree_shifted".toList
  | keywordSet .. => "keyword_set".toList
  | movedToHeading .. => "moved_to_heading".toList
  | cacheInvalidated .. => "render_cache_invalidated".toList
  | headingRederived .. => "heading_rederived".toList
  | configUpdated .. => "config_updated".toList
  | configFileSkipped .. => "config_file_skipped".toList
  | configFileLoaded .. => "config_file_loaded".toList

/-- Whether an event is a warning, which is told even to those who do not ask for details. -/
def isWarning : Event → Bool
  | configFileSkipped .. => true
  | _ => false

end Event

end SourceOutline
