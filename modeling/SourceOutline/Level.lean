import SourceOutline.Fault

/-!
# Comment runs and outline levels

A comment line opens, after its indentation, with a *run* of comment characters. The length of the
run decides the outline level: a run of the base length is level one, and every further character
goes one level deeper.

Main statement: the run for a level is the one that has this level (`runForLevel_eq_ok`).
-/

namespace SourceOutline

def indentation (line : Text) : Text := line.takeWhile isIndenting

/-- The comment characters that follow the indentation. A mark that is not a single character opens
no run. -/
def openingRun (mark line : Text) : Text :=
  match mark with
  | [c] => line.unindent.takeWhile (· == c)
  | _ => []

/-- The length of the run that opens a comment line; other lines have none. -/
def run? (mark line : Text) : Option Nat :=
  match openingRun mark line with
  | [] => none
  | run => some run.length

/-- The level of a run, if it reaches the base length. -/
def level? (run base : Int) : Option Int :=
  if run < base then none else some (run - base + 1)

def runForLevel (level base : Int) : Except Fault Int :=
  if level < 1 then .error (.levelBelowOne level) else .ok (level + base - 1)

/-- The comment mark, written `count` times; not at all for a negative count. -/
def repeatMark (mark : Text) (count : Int) : Text :=
  (List.replicate count.toNat mark).flatten

/-- Lengths are counted below this bound, and differences between its two signs. -/
def countBound : Int := 0x8000000000000000

/-- The comment mark, written `count` times, if there can be such a text: its length has to be
counted, and there has to be room for it in memory, `room` characters. -/
def writeRun (room : Int) (mark : Text) (count : Int) : Except Fault Text :=
  if count < -countBound ∨ countBound ≤ count then .error .countTooLarge
  else if countBound ≤ count * mark.length then .error .textTooLong
  else if room < count * mark.length then .error .outOfMemory
  else .ok (repeatMark mark count)

def headingOpening (room level : Int) (mark : Text) (base : Int) : Except Fault Text :=
  (runForLevel level base).bind (writeRun room mark)

/-- The bullet of a level: the glyphs are dealt out in order and start over when they run out. -/
def bulletGlyph (level : Int) (glyphs : List Text) : Except Fault Text :=
  match glyphs[((level - 1) % glyphs.length).toNat]? with
  | some glyph => .ok glyph
  | none => .error .noGlyphs

/-- The number of different faces that levels are painted with. -/
def faceLevels : Int := 8

/-- The face of a level: a configured face serves all levels, else eight faces take turns. -/
def displayFace (level : Int) : Option Text → Text
  | some face => face
  | none => "level-".toList ++ Text.ofInt (1 + (level - 1) % faceLevels)

section Runs

variable {run base level : Int}

theorem level?_eq_some : level? run base = some level ↔ 1 ≤ level ∧ run = level + base - 1 := by
  unfold level?
  split
  · simp only [reduceCtorEq, false_iff]
    omega
  · rw [Option.some.injEq]
    omega

/-- **The run for a level is the one that has this level.** -/
theorem runForLevel_eq_ok : runForLevel level base = .ok run ↔ level? run base = some level := by
  rw [level?_eq_some]
  unfold runForLevel
  split
  · simp only [reduceCtorEq, false_iff]
    omega
  · rw [Except.ok.injEq]
    omega

theorem headingOpening_of_level? (h : level? run base = some level) (room : Int) (mark : Text) :
    headingOpening room level mark base = writeRun room mark run := by
  unfold headingOpening
  rw [runForLevel_eq_ok.mpr h]
  rfl

end Runs

theorem indentation_append_unindent (line : Text) : indentation line ++ line.unindent = line :=
  List.takeWhile_append_dropWhile

end SourceOutline
