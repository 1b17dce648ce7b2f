import SourceOutline.FileTree.Basic

/-!
# Resolving paths

A resolved path is absolute and has neither dots nor links in it. Resolving works on names from left
to right: `..` takes back the last name, and a link is replaced by what its target resolves to.
`FileTree.resolve` refuses a name that does not exist, or, when asked to, keeps it as it is.

Taking back a name asks nobody, so the name may be that of a file: what a resolved path names need
not be what the operating system finds under the path that was given.
-/

namespace SourceOutline

inductive ResolveFault where
  /-- The operating system refuses a path on the way. -/
  | refused (fault : PathFault) (path : Text)
  /-- Links lead back to themselves. -/
  | linkLoop
  /-- Links lead through too many others. -/
  | tooDeep
deriving DecidableEq, Repr

namespace FileTree

/-- The path without its last name. A relative path that has no name left goes up. -/
def takeBack (path : PathName) : PathName :=
  match path.parts.getLast? with
  | none => if path.isAbsolute then path else { path with parts := [['.', '.']] }
  | some last =>
    if last == ['.', '.'] then { path with parts := path.parts ++ [['.', '.']] }
    else { path with parts := path.parts.dropLast }

/-- The links met so far, with their resolution unless it is still going on. -/
abbrev KnownLinks := List (PathName × Option PathName)

/-- How far resolving has come. -/
structure Resolving where
  path : PathName
  known : KnownLinks
  /-- Whether every name has been followed: a link that leads back to itself ends it before. -/
  complete : Bool := true
deriving DecidableEq, Repr

/-- The fault of meeting a link again whose resolution is still going on. -/
def loopFault (t : FileTree) (directory : Location) (link : Text) : ResolveFault :=
  match t.stat directory link with
  | .error .tooManyLinks => .linkLoop
  | .error fault => .refused fault link
  | .ok _ => .linkLoop

/-- Resolves names one after the other; `enter` resolves the target of a link that has not been met
yet. -/
def resolveNames (t : FileTree) (directory : Location) (strict : Bool)
    (enter : KnownLinks → PathName → List Text → Except ResolveFault Resolving)
    (known : KnownLinks) (path : PathName) : List Text → Except ResolveFault Resolving
  | [] => .ok { path, known }
  | part :: rest =>
    if part == ['.', '.'] then
      resolveNames t directory strict enter known (takeBack path) rest
    else
      let there := path.child part
      match t.linkStat directory there.toText with
      | .error fault =>
        if strict || fault == .embeddedNull then .error (.refused fault there.toText)
        else resolveNames t directory strict enter known there rest
      | .ok (.link target) =>
        match known.find? fun entry => entry.1 == there with
        | some (_, some resolved) =>
          resolveNames t directory strict enter known resolved rest
        | some (_, none) =>
          if strict then .error (t.loopFault directory there.toText)
          else .ok { path := { there with parts := there.parts ++ rest }, known, complete := false }
        | none => do
          let start := if target.head? == some '/' then { root := ['/'], parts := [] } else path
          let inner ← enter ((there, none) :: known) start (PathName.ofText target).parts
          if inner.complete then
            resolveNames t directory strict enter ((there, some inner.path) :: inner.known)
              inner.path rest
          else
            return { inner with path := { inner.path with parts := inner.path.parts ++ rest } }
      | .ok _ => resolveNames t directory strict enter known there rest

/-- Resolves names, where `depth` bounds how many links may lead through one another. -/
def resolveWithin (t : FileTree) (directory : Location) (strict : Bool) :
    Nat → KnownLinks → PathName → List Text → Except ResolveFault Resolving
  | 0 => t.resolveNames directory strict fun _ _ _ => .error .tooDeep
  | depth + 1 => t.resolveNames directory strict (resolveWithin t directory strict depth)

/-- Takes back names for the dots that lead upwards; the root is its own parent. -/
def withoutDots (parts : List Text) : List Text :=
  parts.foldl (fun done part => if part == ['.', '.'] then done.dropLast else done ++ [part]) []

/-- Resolves a path seen from a directory. A strict resolution wants every name to exist; another one
only refuses links that lead back to themselves. -/
def resolve (t : FileTree) (directory : Location) (strict : Bool) (path : PathName) :
    Except ResolveFault PathName := do
  let start : PathName := { root := if path.isAbsolute then ['/'] else [], parts := [] }
  let found ← t.resolveWithin directory strict t.linkDepth [] start path.parts
  let above := if found.path.isAbsolute then [] else directory
  let resolved : PathName := { root := ['/'], parts := withoutDots (above ++ found.path.parts) }
  if strict then return resolved
  match t.stat directory resolved.toText with
  | .error .tooManyLinks => throw .linkLoop
  | _ => return resolved

end FileTree

end SourceOutline
