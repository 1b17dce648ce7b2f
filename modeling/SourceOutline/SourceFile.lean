import SourceOutline.FileTree.Resolve
import SourceOutline.Text.Digit

/-!
# Source files

Only a regular file below the working directory is opened, and never through a symbolic link. It is
read as a whole, as UTF-8 and up to a size limit, without any change to its line breaks. Writing it
back replaces the file as a whole, and only when it is still the file that was read.
-/

namespace SourceOutline

/-- The circumstances under which paths are read. -/
structure Surroundings where
  /-- The working directory, a location without links. -/
  directory : Location
  /-- The user's own directory. -/
  home : Text
  /-- The directories of other users, by name. -/
  homes : List (Text × Text) := []
deriving DecidableEq, Repr

inductive SourceFault where
  /-- A tilde names a user without a directory. -/
  | unknownHome
  | linkLoop
  /-- Links lead through too many others. -/
  | tooDeep
  | throughLink (path : Text)
  | missing (path : Text)
  | unresolved (path reason : Text)
  /-- A path cannot be asked for at all. -/
  | badPath (fault : PathFault)
  /-- The operating system cannot be asked for a path that has been resolved. -/
  | unaskable (fault : PathFault) (path : Text)
  | resolvedIrregular (path : Text)
  | outside (path base : Text)
  | inaccessible (path reason : Text)
  | isLink (path : Text)
  | irregular (path : Text)
  | tooLarge (path : Text) (limit : Int)
  | notUtf8 (path : Text) (fault : Utf8.Fault)
  | changed (path : Text)
  /-- The operating system refuses a step of writing, in its own words. -/
  | refused (words : Text)
  /-- Every name for a file in the making is taken. -/
  | noDraftName
  /-- The size limit of the environment is no whole number. -/
  | limitUnreadable (written : Text)
  /-- The size limit of the environment is not positive. -/
  | limitNotPositive (limit : Int)
deriving DecidableEq, Repr

def sizeLimitVariable : Text := "COMMENT_OUTLINE_MAX_FILE_SIZE".toList

namespace SourceFault

def message : SourceFault → Text
  | unknownHome => "Could not determine home directory.".toList
  | linkLoop => "Symlink loop".toList
  | tooDeep => "links are nested too deep".toList
  | throughLink path => "Symlinks are not supported for security reasons: ".toList ++ path
  | missing path => path ++ " does not exist.".toList
  | unresolved path reason => "Error resolving ".toList ++ path ++ ": ".toList ++ reason
  | badPath fault => fault.message []
  | unaskable fault path => fault.message path
  | resolvedIrregular path => path ++ " is not a regular file.".toList
  | outside path base =>
    path ++ " is outside of the working directory ".toList ++ base ++ ['.']
  | inaccessible path reason => "Error accessing ".toList ++ path ++ ": ".toList ++ reason
  | isLink path => "Symlinks are not supported: ".toList ++ path ++ ['.']
  | irregular path => path ++ " is not a regular file.".toList
  | tooLarge path limit =>
    path ++ " exceeds the maximum allowed size of ".toList ++ Text.ofInt limit ++
      " bytes.".toList
  | notUtf8 path fault =>
    "Invalid UTF-8 sequence in ".toList ++ path ++ ": ".toList ++ fault.message
  | changed path => path ++ " changed during processing; refusing to overwrite.".toList
  | refused words => words
  | noDraftName => "[Errno 17] No usable temporary file name found".toList
  | limitUnreadable written =>
    "Invalid value for ".toList ++ sizeLimitVariable ++ ": ".toList ++ written ++
      " (expected positive integer)".toList
  | limitNotPositive limit =>
    sizeLimitVariable ++ " must be a positive integer, got ".toList ++ Text.ofInt limit ++ ['.']

/-- Whether a fault says that a path is refused. Of the faults that a path can have, the others are
reckoned with nowhere. -/
def isRefusal : SourceFault → Bool
  | throughLink _ | missing _ | unresolved .. | badPath _ | resolvedIrregular _ | outside .. => true
  | _ => false

end SourceFault

/-- A file that has been read: its path, its text, and which writing of it was read. -/
structure SourceFile where
  path : PathName
  text : Text
  body : FileBody
deriving DecidableEq, Repr

namespace SourceFile

def sizeLimit (variable_ : Option Text) (otherwise : Int) : Except SourceFault Int :=
  match variable_ with
  | none => .ok otherwise
  | some written =>
    match written.toInt? with
    | none => .error (.limitUnreadable written)
    | some limit => if limit ≤ 0 then .error (.limitNotPositive limit) else .ok limit

/-- The directory that a tilde and perhaps a user's name stand for, without slashes at its end. A
directory that starts with a tilde itself is none. -/
def homeOf? (s : Surroundings) (tilde : Text) : Option Text := do
  let home ←
    if tilde == ['~'] then some s.home
    else (s.homes.find? fun entry => entry.1 == tilde.drop 1).map Prod.snd
  let home := (home.reverse.dropWhile (· == '/')).reverse
  if home.isEmpty then return ['/']
  guard (home.head? != some '~')
  return home

/-- Replaces a tilde at the start of a relative path. -/
def expandHome (s : Surroundings) (path : PathName) : Except SourceFault PathName :=
  match path.isAbsolute, path.parts with
  | false, first :: rest =>
    if first.head? == some '~' then
      if first.contains '\x00' then .error (.badPath .embeddedNull)
      else match homeOf? s first with
      | some home => .ok (PathName.append (.ofText home) { root := [], parts := rest })
      | none => .error .unknownHome
    else .ok path
  | _, _ => .ok path

/-- Whether a path or one of its ancestors by name is a link. -/
def goesThroughLink (t : FileTree) (s : Surroundings) (path : PathName) : Bool :=
  (path :: path.parents).any fun part => t.isLink s.directory part.toText

def resolvePath (t : FileTree) (s : Surroundings) (base : PathName) (raw : Text) :
    Except SourceFault PathName := do
  let path ← expandHome s (.ofText raw)
  if goesThroughLink t s path then throw (.throughLink path.toText)
  match t.resolve s.directory true path with
  | .error .linkLoop => throw .linkLoop
  | .error .tooDeep => throw .tooDeep
  | .error (.refused .noEntry _) => throw (.missing path.toText)
  | .error (.refused .embeddedNull _) => throw (.badPath .embeddedNull)
  | .error (.refused fault at_) => throw (.unresolved path.toText (fault.message at_))
  | .ok resolved =>
    match t.stat s.directory resolved.toText with
    | .ok (.file _) =>
      if resolved.isWithin base then return resolved
      else throw (.outside resolved.toText base.toText)
    | .error fault =>
      if fault.leavesOpen then throw (.unaskable fault resolved.toText)
      else throw (.resolvedIrregular resolved.toText)
    | _ => throw (.resolvedIrregular resolved.toText)

/-- The regular file at a path; links are refused. -/
def inspect (t : FileTree) (directory : Location) (path : PathName) :
    Except SourceFault FileBody :=
  match t.linkStat directory path.toText with
  | .error .embeddedNull => .error (.badPath .embeddedNull)
  | .error fault => .error (.inaccessible path.toText (fault.message path.toText))
  | .ok (.link _) => .error (.isLink path.toText)
  | .ok (.file body) => .ok body
  | .ok _ => .error (.irregular path.toText)

def ensureUnchanged (t : FileTree) (directory : Location) (source : SourceFile) :
    Except SourceFault Unit := do
  let body ← inspect t directory source.path
  if body.version = source.body.version ∧ body.content.length = source.body.content.length
  then return () else throw (.changed source.path.toText)

def read (t : FileTree) (directory : Location) (path : PathName) (limit : Int) :
    Except SourceFault SourceFile := do
  let body ← inspect t directory path
  if limit < body.content.length then throw (.tooLarge path.toText limit)
  else if t.mayRead directory path.toText then
    match Utf8.decode body.content with
    | .ok text => return { path, text, body }
    | .error fault => throw (.notUtf8 path.toText fault)
  else throw (.inaccessible path.toText (PathFault.noAccess.message path.toText))

def ownershipWarning (path : PathName) : Text :=
  "Warning: Could not preserve file ownership for ".toList ++ path.name ++
    " (requires elevated privileges)".toList

/-- The number of names that are tried for a file in the making. -/
def draftTries : Nat := 10000

def draftLocation? (t : FileTree) (location : Location) : Option Location :=
  (List.range draftTries).findSome? fun n =>
    let draft := location.dropLast ++ ["tmp".toList ++ Text.zeroFilled 8 n]
    if (t.node? draft).isNone then some draft else none

/-- The permission bits that are left when a file gets an owner: nobody may run it under the owner's
name any more, nor under the group's, unless the group cannot run it anyway. -/
def ownedMode (mode : Nat) : Nat :=
  let mode := mode - (mode &&& 0o4000)
  if mode &&& 0o010 = 0 then mode else mode - (mode &&& 0o2000)

def draftMode : Nat := 0o600

/-- The steps in which a file is replaced, each of which the operating system may refuse. -/
inductive WriteStep where
  /-- Making a file beside it. -/
  | create
  /-- Writing the content there. -/
  | fill
  /-- Giving that file permission bits and owner. -/
  | permit
  /-- Putting it in the place of the file. -/
  | replace
  /-- Giving the file in its place the times that it is to have. -/
  | touch
  /-- Taking a file away that did not get there. -/
  | remove
deriving DecidableEq, Repr

structure Replacing where
  tree : FileTree
  warnings : List Text := []
  fault : Option SourceFault := none

/-- Replaces the file behind a source. The new content is written to a file beside it, which gets
the permission bits of the source and then takes its place in one step, so that nobody ever sees a
half written file. The new file is given the owner of the source; when it cannot be, there is a
warning. When a step is refused before that, the new file is taken away again, and nobody is told
when that is refused as well. -/
def replace (t : FileTree) (directory : Location) (source : SourceFile) (text : Text)
    (keepsOwner : Bool) (refused : WriteStep → Option Text) : Replacing :=
  match ensureUnchanged t directory source, t.locate false directory source.path.toText with
  | .error fault, _ => { tree := t, fault := some fault }
  | .ok (), .error fault =>
    { tree := t
      fault := some (.inaccessible source.path.toText (fault.message source.path.toText)) }
  | .ok (), .ok location =>
    match draftLocation? t location with
    | none => { tree := t, fault := some .noDraftName }
    | some draft =>
      let octets := Utf8.encode text
      let mode := if keepsOwner then ownedMode source.body.mode else source.body.mode
      let warnings := if keepsOwner then [] else [ownershipWarning source.path]
      let without (written : FileTree) (words : Text) : Replacing :=
        { tree := if (refused .remove).isSome then written else written.erase draft
          fault := some (.refused words) }
      match refused .create, refused .fill, refused .permit, refused .replace with
      | some words, _, _, _ => { tree := t, fault := some (.refused words) }
      | none, some words, _, _ => without (t.write draft [] draftMode) words
      | none, none, some words, _ => without (t.write draft octets draftMode) words
      | none, none, none, some words => { without (t.write draft octets mode) words with warnings }
      | none, none, none, none =>
        { tree := (t.write draft octets mode).rename draft location
          warnings
          fault := (refused .touch).map .refused }

def write (t : FileTree) (directory : Location) (source : SourceFile) (text : Text)
    (keepsOwner : Bool) : Except SourceFault (FileTree × List Text) :=
  let replacing := replace t directory source text keepsOwner fun _ => none
  match replacing.fault with
  | none => .ok (replacing.tree, replacing.warnings)
  | some fault => .error fault

end SourceFile

end SourceOutline
