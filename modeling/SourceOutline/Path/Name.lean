import SourceOutline.Text.Basic

/-!
# Path names

A path is its components between slashes, where empty components and single dots say nothing. What
precedes them is the root: none for a relative path, one slash, or exactly two slashes, which are
kept apart from one.

Nothing here asks a file tree: two dots are a component like any other, and the parent of a path is
the path without its last component, whatever stands there.
-/

namespace SourceOutline

/-- A path: how it starts, and its components from the outermost inwards. -/
structure PathName where
  /-- The slashes in front: nothing, one slash or two. -/
  root : Text
  parts : List Text
deriving DecidableEq, Repr, Inhabited

namespace PathName

/-- The slashes in front of a path. Three or more count as one. -/
def rootOf : Text → Text
  | '/' :: '/' :: '/' :: _ => ['/']
  | '/' :: '/' :: _ => ['/', '/']
  | '/' :: _ => ['/']
  | _ => []

def ofText (t : Text) : PathName :=
  { root := rootOf t
    parts := (t.splitAtChar '/').filter fun part => !part.isEmpty && part != ['.'] }

/-- A path without root and components is the current directory, a single dot. -/
def toText (p : PathName) : Text :=
  match p.root, p.parts with
  | [], [] => ['.']
  | root, parts => root ++ Text.joinWith ['/'] parts

def isAbsolute (p : PathName) : Bool := !p.root.isEmpty

/-- The last component, empty for a path without components. -/
def name (p : PathName) : Text := p.parts.getLast?.getD []

/-- The path without its last component; a path without components is its own parent. -/
def parent (p : PathName) : PathName := { p with parts := p.parts.dropLast }

/-- Every proper ancestor by name, nearest first, down to the path without components. -/
def parents (p : PathName) : List PathName :=
  (List.range p.parts.length).map fun n =>
    { p with parts := p.parts.take (p.parts.length - 1 - n) }

/-- The second path seen from the first: an absolute path stays as it is. -/
def append (p q : PathName) : PathName :=
  if q.isAbsolute then q else { p with parts := p.parts ++ q.parts }

def child (p : PathName) (name : Text) : PathName := { p with parts := p.parts ++ [name] }

/-- Whether `base` is the path itself or one of its ancestors. -/
def isWithin (p base : PathName) : Bool := p.root == base.root && base.parts.isPrefixOf p.parts

/-- The extension of a file name with its dot: what follows the last dot, when something stands on
both sides of that dot. -/
def extension (p : PathName) : Text :=
  let after := p.name.reverse.takeWhile (· != '.')
  let before := (p.name.reverse.dropWhile (· != '.')).drop 1
  if after.isEmpty || before.isEmpty then [] else '.' :: after.reverse

end PathName

end SourceOutline
