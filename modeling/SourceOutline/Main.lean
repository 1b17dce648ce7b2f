import Std.Time.Zoned
import SourceOutline.CommandLine.Run
import SourceOutline.CommandLine.Standard.Frontend

/-!
# The program

The command line that a user types is run on a copy of that part of the disk's file tree which it
can be about. What the run prints is printed, and the file that is different afterwards is written
back.
-/

namespace SourceOutline

namespace Program

def diskPath (location : Location) : String :=
  "/" ++ "/".intercalate (location.map String.ofList)

/-- The location of a path on the disk, where `..` takes back a name. -/
def locationOf (directory : Location) (path : Text) : Location :=
  let name := PathName.ofText path
  let parts := if name.isAbsolute then name.parts else directory ++ name.parts
  FileTree.withoutDots parts

/-- A location and every location above it, the outermost first. -/
def withAncestors (location : Location) : List Location :=
  (List.range (location.length + 1)).map location.take

/-- Puts what the disk has at a location into a tree. A link is followed once, to where it leads in
the end. -/
def readNode (t : FileTree) (location : Location) : IO FileTree := do
  let path := System.mkFilePath [diskPath location]
  let readFile : IO Node := do
    let content ← IO.FS.readBinFile path
    return .file { content := content.toList, mode := 0, version := 0 }
  let nodeOf (type : IO.FS.FileType) : IO Node :=
    match type with
    | .dir => pure .directory
    | .file => readFile
    | _ => pure .device
  try
    match (← path.symlinkMetadata).type with
    | .symlink =>
      try
        let target := (← IO.FS.realPath path).toString.toList
        let node ← nodeOf (← path.metadata).type
        return (t.put location (.link target)).place (locationOf [] target) node
      catch _ => return t.put location (.link (diskPath location).toList)
    | type => return t.put location (← nodeOf type)
  catch _ => return t

/-- The locations that a command line can be about: those of its arguments, whichever of them is the
file, and the configuration files for each of them. -/
def locationsOf (directory : Location) (home : Text) (arguments : List Text) : List Location :=
  let ofArgument (argument : Text) : List Location :=
    match argument with
    | '~' :: rest => [locationOf directory argument, locationOf directory (home ++ rest)]
    | _ => [locationOf directory argument]
  let above := ((directory :: arguments.flatMap ofArgument).flatMap withAncestors).eraseDups
  above ++ above.flatMap fun location => Lookup.configFiles.map fun file => location ++ [file.name]

def presentMoment : IO Moment := do
  let now ← Std.Time.PlainDateTime.now
  return {
    year := now.year.toInt.toNat
    month := now.month.toInt.toNat
    day := now.day.toInt.toNat
    hour := now.hour.toInt.toNat
    minute := now.minute.toInt.toNat
    second := now.second.toInt.toNat
    microsecond := now.nanosecond.toInt.toNat / 1000 }

/-- How deep the values of a configuration file may stand in one another. -/
def tomlDepth : Nat := 989

def readSetup (arguments : List Text) : IO CommandLine.Setup := do
  let directory := locationOf [] (← IO.FS.realPath (← IO.currentDir)).toString.toList
  let home := ((← IO.getEnv "HOME").getD "/").toList
  let sizeLimit := (← IO.getEnv (String.ofList sizeLimitVariable)).map String.toList
  let tree ← (locationsOf directory home arguments).foldlM readNode { nextVersion := 1 }
  return { frontend := .standard, tree, surroundings := { directory, home }, sizeLimit,
           now := ← presentMoment, tomlDepth }

/-- Writes back the files that are different in the second tree. -/
def writeChanges (before after : FileTree) : IO Unit := do
  for (location, body) in after.files do
    if before.node? location != some (.file body) then
      IO.FS.writeBinFile (diskPath location) ⟨body.content.toArray⟩

def run (arguments : List Text) : IO UInt32 := do
  let setup ← readSetup arguments
  let outcome := CommandLine.run setup arguments
  for event in outcome.journal do
    let level := if event.isWarning then "warning " else "debug "
    IO.eprintln (level ++ String.ofList event.name)
  IO.print (String.ofList outcome.out)
  IO.eprint (String.ofList outcome.messages)
  if let some breakdown := outcome.breakdown then
    IO.eprintln (String.ofList breakdown.message)
  writeChanges setup.tree outcome.tree
  return UInt32.ofNat outcome.exit

end Program

end SourceOutline

def main (arguments : List String) : IO UInt32 :=
  SourceOutline.Program.run (arguments.map String.toList)
