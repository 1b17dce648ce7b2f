import SourceOutline.Config.Settings
import SourceOutline.Event
import SourceOutline.FileTree.Resolve
import SourceOutline.Toml.Document

/-!
# Finding the configuration

The configuration of a directory is the nearest table that a configuration file gives for it. The
search goes from the directory to the root, and looks in each directory first into the project file
and then into the outline's own file. A file that cannot be read as TOML is passed over; a table that
is found decides alone, even when it is unusable.
-/

namespace SourceOutline

inductive LookupFault where
  | refused (error : ConfigError)
  /-- A configuration file is not UTF-8. -/
  | notUtf8 (fault : Utf8.Fault)
  /-- A configuration file holds a number of too many digits. -/
  | numeralTooLong (digits : Nat)
  /-- The values of a configuration file stand too deep in one another. -/
  | nestedTooDeep
  /-- An override names a setting that does not exist. -/
  | unknownOverride
  /-- Links lead back to themselves. -/
  | linkLoop
  /-- Links lead through too many others. -/
  | linksTooDeep
  /-- The operating system cannot be asked for a path. -/
  | badPath (fault : PathFault) (path : Text)
deriving DecidableEq, Repr

namespace LookupFault

def message : LookupFault → Text
  | refused error => error.message
  | notUtf8 fault => fault.message
  | numeralTooLong digits =>
    "Exceeds the limit (4300 digits) for integer string conversion: value has ".toList ++
      Text.ofInt digits ++
      " digits; use sys.set_int_max_str_digits() to increase the limit".toList
  | nestedTooDeep => "values are nested too deep".toList
  | unknownOverride => "unknown setting".toList
  | linkLoop => "Symlink loop".toList
  | linksTooDeep => "links are nested too deep".toList
  | badPath fault path => fault.message path

end LookupFault

namespace Lookup

/-- A file that may hold a configuration: its name, and the paths of its tables, the first of which
counts. -/
structure ConfigFile where
  name : Text
  tables : List (List Text)
deriving DecidableEq, Repr

/-- The name of the outline's table. -/
def tableName : Text := "comment-outline".toList

/-- The table of tools, in which the outline's table may stand. -/
def toolName : Text := "tool".toList

def configFiles : List ConfigFile :=
  [{ name := "pyproject.toml".toList, tables := [[toolName, tableName]] },
   { name := ".comment-outline.toml".toList, tables := [[tableName], [toolName, tableName]] }]

def valueAt? : List Text → Value → Option Value
  | [], v => some v
  | key :: path, .table entries => (Toml.valueOf? entries key).bind (valueAt? path)
  | _ :: _, _ => none

def firstTable? (entries : Toml.Entries) (tables : List (List Text)) :
    Option (List Text × Value) :=
  tables.findSome? fun path => (valueAt? path (.table entries)).map fun v => (path, v)

/-- The settings that a table gives, where it leaves the defaults in place. Lists are kept from
changes. -/
def settingsOf (path : PathName) (table : List Text) : Value → Except LookupFault Settings
  | .table entries =>
    match Settings.defaults.setNamed? entries with
    | some settings => .ok settings.normalize
    | none => .error (.refused (.badTable (Text.joinWith ['.'] table) path.toText))
  | _ => .error (.refused (.badTable (Text.joinWith ['.'] table) path.toText))

inductive Finding where
  /-- Nothing: there is no file, or no table in it. -/
  | nothing
  /-- The file cannot be read. -/
  | skipped
  /-- The search ends with this answer. -/
  | decided (table : Option (List Text)) (answer : Except LookupFault Settings)

/-- What the content of a configuration file says, read with room for values `depth` deep in one
another. -/
def readTables (depth : Nat) (file : ConfigFile) (path : PathName) (content : List UInt8) :
    Finding :=
  match Utf8.decode content with
  | .error fault => .decided none (.error (.notUtf8 fault))
  | .ok text =>
    match Toml.read depth text with
    | .error .malformed => .skipped
    | .error (.numeralTooLong digits) => .decided none (.error (.numeralTooLong digits))
    | .error .nestedTooDeep => .decided none (.error .nestedTooDeep)
    | .ok entries =>
      match firstTable? entries file.tables with
      | none => .nothing
      | some (table, v) => .decided (some table) (settingsOf path table v)

/-- Looks into a configuration file. Whether there is one can only be asked for a path of a length
that the operating system takes, through directories that may be searched. A device is read as an
empty file. -/
def look (t : FileTree) (depth : Nat) (directory : Location) (file : ConfigFile) (path : PathName) :
    Finding :=
  match t.stat directory path.toText with
  | .error fault =>
    if fault.leavesOpen then .decided none (.error (.badPath fault path.toText)) else .nothing
  | .ok node =>
    if !t.mayRead directory path.toText then .skipped
    else
      match node with
      | .file body => readTables depth file path body.content
      | .device => .nothing
      | _ => .skipped

/-- Looks into configuration files one after the other until one decides. Without one the defaults
hold. -/
def search (t : FileTree) (depth : Nat) (directory : Location) :
    List (ConfigFile × PathName) → Except LookupFault Settings × List Event
  | [] => (.ok .defaults, [])
  | (file, path) :: rest =>
    match look t depth directory file path with
    | .nothing => search t depth directory rest
    | .skipped =>
      let (answer, events) := search t depth directory rest
      (answer, .configFileSkipped path.toText :: events)
    | .decided none answer => (answer, [])
    | .decided (some table) answer =>
      (answer, [.configFileLoaded path.toText (Text.joinWith ['.'] table)])

/-- The configuration files for a directory, nearest first. -/
def candidates (directory : PathName) : List (ConfigFile × PathName) :=
  (directory :: directory.parents).flatMap fun parent =>
    configFiles.map fun file => (file, parent.child file.name)

def load (t : FileTree) (depth : Nat) (directory : Location) (start : PathName) :
    Except LookupFault Settings × List Event :=
  match t.resolve directory false start with
  | .ok resolved => search t depth directory (candidates resolved)
  | .error .linkLoop => (.error .linkLoop, [])
  | .error .tooDeep => (.error .linksTooDeep, [])
  | .error (.refused fault path) => (.error (.badPath fault path), [])

/-- The name of the directory that the search starts from; an override cannot move it. -/
def startName : Text := "search_path".toList

/-- The configuration for a directory: its settings, changed by the given ones that are not null,
and checked. -/
def build (t : FileTree) (depth : Nat) (directory : Location) (start : PathName)
    (overrides : List (Text × Value)) : Except LookupFault Config × List Event :=
  if overrides.any fun change => change.1 == startName then (.error .unknownOverride, [])
  else
    let (loaded, events) := load t depth directory start
    let answer := do
      let settings ← loaded
      match settings.override? overrides with
      | none => throw .unknownOverride
      | some settings => settings.check.mapError .refused
    (answer, events)

end Lookup

end SourceOutline
