import SourceOutline.Toml.Scalar

/-!
# Reading TOML: tables and documents

A document is a sequence of statements that build one table. Besides the table, reading keeps track
of which tables may not be opened again (`Marks.closed`) and which values may not be extended at all
(`Marks.frozen`, set for arrays and inline tables with everything inside them).

`Toml.read` gives the table of a document, or a fault when any part of the document is not TOML.
-/

namespace SourceOutline

namespace Toml

abbrev Entries := List (Text × Value)

def valueOf? (entries : Entries) (key : Text) : Option Value :=
  (entries.find? fun entry => entry.1 == key).map Prod.snd

def putEntry (entries : Entries) (key : Text) (v : Value) : Entries :=
  if entries.any fun entry => entry.1 == key
  then entries.map fun entry => if entry.1 == key then (key, v) else entry
  else entries ++ [(key, v)]

/-- Changes the table at a path, which is made when it is missing. In an array of tables the last
table is meant, if arrays may be entered at all. -/
def changeAt (enterArrays : Bool) (change : Entries → Option Entries) :
    List Text → Entries → Option Entries
  | [], entries => change entries
  | key :: path, entries => do
    let v ←
      match valueOf? entries key with
      | none => (changeAt enterArrays change path []).map Value.table
      | some (.table inner) => (changeAt enterArrays change path inner).map Value.table
      | some (.list items) =>
        match enterArrays, items.getLast? with
        | true, some (.table inner) =>
          (changeAt enterArrays change path inner).map fun inner =>
            Value.list (items.dropLast ++ [.table inner])
        | _, _ => none
      | some _ => none
    return putEntry entries key v

def addEntry (key : Text) (v : Value) (entries : Entries) : Option Entries :=
  if (valueOf? entries key).isSome then none else some (entries ++ [(key, v)])

def addTable (key : Text) (entries : Entries) : Option Entries :=
  match valueOf? entries key with
  | none => some (entries ++ [(key, .list [.table []])])
  | some (.list items) => some (putEntry entries key (.list (items ++ [.table []])))
  | some _ => none

/-! ## Marks -/

/-- What may no longer happen to tables and values, by their keys. -/
inductive Marks where
  | node (closed frozen : Bool) (inner : List (Text × Marks))

namespace Marks

def none : Marks := node false false []

def closed : Marks → Bool
  | node closed _ _ => closed

def frozen : Marks → Bool
  | node _ frozen _ => frozen

def inner : Marks → List (Text × Marks)
  | node _ _ inner => inner

def child? (m : Marks) (key : Text) : Option Marks :=
  (m.inner.find? fun entry => entry.1 == key).map Prod.snd

def setChild (m : Marks) (key : Text) (child : Marks) : Marks :=
  node m.closed m.frozen ((m.inner.filter fun entry => entry.1 != key) ++ [(key, child)])

def isClosed (m : Marks) : List Text → Bool
  | [] => false
  | [key] => (m.child? key).any closed
  | key :: path =>
    match m.child? key with
    | some child => child.isClosed path
    | Option.none => false

/-- Whether the value at a path, or one that it is inside of, may not be extended. -/
def isFrozen (m : Marks) : List Text → Bool
  | [] => false
  | key :: path =>
    match m.child? key with
    | some child => child.frozen || child.isFrozen path
    | Option.none => false

def changeAt (change : Marks → Marks) : List Text → Marks → Marks
  | [], m => change m
  | key :: path, m => m.setChild key (changeAt change path ((m.child? key).getD none))

def close (m : Marks) (path : List Text) : Marks :=
  changeAt (fun m => node true m.frozen m.inner) path m

def freeze (m : Marks) (path : List Text) : Marks :=
  changeAt (fun m => node m.closed true m.inner) path m

def forget : List Text → Marks → Marks
  | [], m => m
  | [key], m => node m.closed m.frozen (m.inner.filter fun entry => entry.1 != key)
  | key :: path, m =>
    match m.child? key with
    | some child => m.setChild key (forget path child)
    | Option.none => m

end Marks

/-! ## Values with parts -/

/-- Whether a value may not be extended once it is written. -/
def hasParts : Value → Bool
  | .list _ => true
  | .table _ => true
  | _ => false

/-- The depth that an array takes of that of its items. -/
def arrayDepth : Nat := 2

def tableDepth : Nat := 3

/-- Enters a value with parts when enough depth is left; gives what is left inside it. -/
def enter (depth taken needed : Nat) : Except Fault Nat :=
  if depth < needed then .error .nestedTooDeep else .ok (depth - taken)

mutual

/-- A value, where `depth` says how deep other values may stand in it. Every step into a part leaves
less text, so `fuel` may be the length of the text. -/
def value : Nat → Nat → Reader Value
  | 0, _, _ => refuse
  | fuel + 1, depth, t =>
    match string? t with
    | some found => found.map fun (s, rest) => (.text s, rest)
    | none =>
      match t with
      | '[' :: rest => do
        let depth ← enter depth arrayDepth (arrayDepth + 1)
        let (items, rest) ← arrayItems fuel depth (← skipBlanksAndComments rest.length rest)
        return (.list items, rest)
      | '{' :: rest =>
        match skipSpaces rest with
        | '}' :: rest => .ok (.table [], rest)
        | rest => do
          let depth ← enter depth tableDepth (tableDepth + 2)
          let (entries, rest) ← inlineEntries fuel depth [] .none rest
          return (.table entries, rest)
      | _ => scalar t

def arrayItems : Nat → Nat → Reader (List Value)
  | 0, _, _ => refuse
  | fuel + 1, depth, t =>
    match t with
    | ']' :: rest => .ok ([], rest)
    | _ => do
      let (item, rest) ← value fuel depth t
      match ← skipBlanksAndComments rest.length rest with
      | ']' :: rest => return ([item], rest)
      | ',' :: rest =>
        let (items, rest) ← arrayItems fuel depth (← skipBlanksAndComments rest.length rest)
        return (item :: items, rest)
      | _ => refuse

/-- The entries of an inline table up to its closing brace, added to those before them. No comma may
follow the last of them. -/
def inlineEntries : Nat → Nat → Entries → Marks → Reader Entries
  | 0, _, _, _, _ => refuse
  | fuel + 1, depth, entries, marks, t => do
    let (path, rest) ← key (t.length + 1) t
    let rest ← match rest with
      | '=' :: rest => pure (skipSpaces rest)
      | _ => refuse
    let (v, rest) ← value fuel depth rest
    if marks.isFrozen path then throw .malformed
    match changeAt false (addEntry (path.getLast?.getD []) v) path.dropLast entries with
    | none => refuse
    | some entries =>
      match skipSpaces rest with
      | '}' :: rest => return (entries, rest)
      | ',' :: rest =>
        let marks := if hasParts v then marks.freeze path else marks
        inlineEntries fuel depth entries marks (skipSpaces rest)
      | _ => refuse

end

/-! ## Statements -/

/-- A document that has been read in part. -/
structure Builder where
  entries : Entries := []
  marks : Marks := .none
  /-- Tables that dotted keys have made; they are closed when the next header comes. -/
  pending : List (List Text) := []
  /-- The path of the table that entries go to. -/
  header : List Text := []

namespace Builder

/-- A header comes: what dotted keys have made cannot be opened any more. -/
def closePending (b : Builder) : Builder :=
  { b with marks := b.pending.foldl Marks.close b.marks, pending := [] }

def openTable (b : Builder) (path : List Text) : Except Fault Builder :=
  if b.marks.isClosed path || b.marks.isFrozen path then refuse
  else
    match changeAt true some path b.entries with
    | none => refuse
    | some entries => .ok { b with entries, marks := b.marks.close path, header := path }

def openArrayTable (b : Builder) (path : List Text) : Except Fault Builder :=
  if b.marks.isFrozen path then refuse
  else
    match changeAt true (addTable (path.getLast?.getD [])) path.dropLast b.entries with
    | none => refuse
    | some entries =>
      .ok { b with entries, marks := (b.marks.forget path).close path, header := path }

/-- Every proper beginning of a key that is not empty, shortest first. -/
def beginnings (path : List Text) : List (List Text) :=
  (List.range (path.length - 1)).map fun n => path.take (n + 1)

def addPair (b : Builder) (path : List Text) (v : Value) : Except Fault Builder :=
  let made := (beginnings path).map fun part => b.header ++ part
  let parent := b.header ++ path.dropLast
  if made.any b.marks.isClosed || b.marks.isFrozen parent then refuse
  else
    match changeAt true (addEntry (path.getLast?.getD []) v) parent b.entries with
    | none => refuse
    | some entries =>
      let marks := if hasParts v then b.marks.freeze (b.header ++ path) else b.marks
      .ok { b with entries, marks, pending := b.pending ++ made }

end Builder

/-- One statement: an entry, the header of a table, or nothing. Values may stand `depth` deep in one
another. -/
def statement (depth : Nat) (b : Builder) (t : Text) : Except Fault (Builder × Text) :=
  match t with
  | '[' :: '[' :: rest => do
    let (path, rest) ← key (rest.length + 1) (skipSpaces rest)
    let b ← b.closePending.openArrayTable path
    match rest with
    | ']' :: ']' :: rest => return (b, skipSpaces rest)
    | _ => refuse
  | '[' :: rest => do
    let (path, rest) ← key (rest.length + 1) (skipSpaces rest)
    let b ← b.closePending.openTable path
    match rest with
    | ']' :: rest => return (b, skipSpaces rest)
    | _ => refuse
  | c :: _ =>
    if startsKey c then do
      let (path, rest) ← key (t.length + 1) t
      match rest with
      | '=' :: rest =>
        let (v, rest) ← value (rest.length + 1) depth (skipSpaces rest)
        return (← b.addPair path v, skipSpaces rest)
      | _ => refuse
    else if c == '#' || c == '\n' then .ok (b, t)
    else refuse
  | [] => .ok (b, [])

def statements (depth : Nat) : Nat → Builder → Text → Except Fault Builder
  | 0, _, _ => refuse
  | fuel + 1, b, t => do
    let (b, rest) ← statement depth b (skipSpaces t)
    match ← skipComment rest with
    | [] => return b
    | '\n' :: rest => statements depth fuel b rest
    | _ => refuse

/-- A carriage return in front of a line feed says nothing, but another one in front of it does. -/
def joinBreaks : Text → Text
  | '\r' :: '\n' :: rest => '\n' :: joinBreaks rest
  | c :: rest => c :: joinBreaks rest
  | [] => []

/-- Reads a document in which values may stand `depth` deep in one another: as deep as the reader,
which calls itself for each of them, may go where it is called. -/
def read (depth : Nat) (t : Text) : Except Fault Entries :=
  let t := joinBreaks t
  (statements depth (t.length + 1) {} t).map Builder.entries

end Toml

end SourceOutline
