import SourceOutline.Config.Lookup
import SourceOutline.Proofs.Config.Checked
import SourceOutline.Proofs.FileTree.Walk

/-!
# The nearest table decides

The places at which the table of a configuration may stand are ordered: from the directory that the
search starts from up to the root, and in each directory the project file before the outline's own
file (`Lookup.spots`). `Lookup.nearest` is what the first of them decides at which a table can be
read, where a file that cannot be read counts as one that is not there.

Main statements: the search finds just that, unless a file that it comes to is one that can neither
be read nor be passed over (`load_skips_iff`); when the files are UTF-8 and no reader's limit is
exceeded, the only such files are those of which nobody can tell whether they are there, because a
path is too long or a directory may not be searched (`load_nearest_iff`).
-/

namespace SourceOutline

namespace Setting

theorem ofName?_name (key : Setting) : ofName? key.name = some key := by
  cases key <;> decide

theorem ofName?_eq_some {t : Text} {key : Setting} : ofName? t = some key ↔ key.name = t := by
  constructor
  · intro h
    have hname := List.find?_some h
    exact beq_iff_eq.mp hname
  · rintro rfl
    exact ofName?_name key

theorem isSome_ofName? {t : Text} : (ofName? t).isSome ↔ ∃ key : Setting, key.name = t := by
  simp only [Option.isSome_iff_exists, ofName?_eq_some]

theorem ofName?_eq_none {t : Text} : ofName? t = none ↔ ∀ key : Setting, key.name ≠ t := by
  constructor
  · rintro h key rfl
    rw [ofName?_name] at h
    cases h
  · intro h
    cases hfound : ofName? t with
    | none => rfl
    | some key => exact absurd (ofName?_eq_some.mp hfound) (h key)

end Setting

namespace Settings

/-- The value that entries give a setting. A table has no name twice; of several entries the last
would count. -/
def given? (entries : List (Text × Value)) (key : Setting) : Option Value :=
  (entries.reverse.find? fun entry => entry.1 == key.name).map Prod.snd

def overriddenBy (s : Settings) (entries : List (Text × Value)) : Settings where
  value key := (given? entries key).getD (s.value key)

def AllNamed (entries : List (Text × Value)) : Prop :=
  ∀ entry ∈ entries, ∃ key : Setting, key.name = entry.1

instance (entries : List (Text × Value)) : Decidable (AllNamed entries) :=
  decidable_of_iff (∀ entry ∈ entries, (Setting.ofName? entry.1).isSome)
    (forall₂_congr fun _ _ => Setting.isSome_ofName?)

theorem given?_cons (name : Text) (v : Value) (rest : List (Text × Value)) (key : Setting) :
    given? ((name, v) :: rest) key =
      (given? rest key).or (if name = key.name then some v else none) := by
  unfold given?
  rw [List.reverse_cons, List.find?_append]
  cases hlater : rest.reverse.find? fun entry => entry.1 == key.name with
  | some entry => rfl
  | none =>
      by_cases hname : name = key.name
      · simp [hname]
      · simp [hname]

/-- Setting values by name overrides the settings that are named. -/
theorem setNamed?_eq (s : Settings) (entries : List (Text × Value)) :
    (AllNamed entries → s.setNamed? entries = some (s.overriddenBy entries)) ∧
      (¬AllNamed entries → s.setNamed? entries = none) := by
  induction entries generalizing s with
  | nil => exact ⟨fun _ => rfl, fun h => absurd (fun entry hmem => by cases hmem) h⟩
  | cons entry rest ih =>
      obtain ⟨name, v⟩ := entry
      have hnamed : AllNamed ((name, v) :: rest) ↔
          (∃ key : Setting, key.name = name) ∧ AllNamed rest := List.forall_mem_cons
      rw [hnamed]
      cases hkey : Setting.ofName? name with
      | none =>
          have hunnamed := Setting.ofName?_eq_none.mp hkey
          refine ⟨fun h => ?_, fun _ => by simp [setNamed?, hkey]⟩
          obtain ⟨⟨key, hname⟩, -⟩ := h
          exact absurd hname (hunnamed key)
      | some key =>
          obtain rfl := Setting.ofName?_eq_some.mp hkey
          have hstep : s.setNamed? ((key.name, v) :: rest) = (s.set key v).setNamed? rest := by
            simp [setNamed?, hkey]
          rw [hstep]
          refine ⟨fun h => ?_, fun h => (ih (s.set key v)).2 fun hrest => h ⟨⟨key, rfl⟩, hrest⟩⟩
          rw [(ih (s.set key v)).1 h.2]
          refine congrArg some (congrArg Settings.mk (funext fun other => ?_))
          rw [given?_cons]
          by_cases hother : other = key
          · subst hother
            cases given? rest other <;> simp [set]
          · have hne : key.name ≠ other.name := by
              intro hname
              have hsame := Setting.ofName?_eq_some.mpr hname
              rw [Setting.ofName?_name] at hsame
              exact hother (Option.some.inj hsame)
            cases given? rest other <;> simp [set, hother, hne]

end Settings

namespace Lookup

/-- A place at which the table of a configuration may stand: a file, and a path of tables in it. -/
structure TableSpot where
  file : PathName
  table : List Text
deriving DecidableEq, Repr

def spotsIn (directory : PathName) : List TableSpot :=
  [{ file := directory.child "pyproject.toml".toList, table := [toolName, tableName] },
   { file := directory.child ".comment-outline.toml".toList, table := [tableName] },
   { file := directory.child ".comment-outline.toml".toList, table := [toolName, tableName] }]

def spots (directory : PathName) : List TableSpot :=
  (directory :: directory.parents).flatMap spotsIn

def entriesAt? (t : FileTree) (depth : Nat) (directory : Location) (file : PathName) :
    Option Toml.Entries :=
  match t.stat directory file.toText with
  | .ok (.file body) =>
    if t.mayRead directory file.toText then
      (Utf8.decode body.content).toOption.bind fun text => (Toml.read depth text).toOption
    else none
  | _ => none

def TableSpot.value? (t : FileTree) (depth : Nat) (directory : Location) (spot : TableSpot) :
    Option Value :=
  (entriesAt? t depth directory spot.file).bind fun entries => valueAt? spot.table (.table entries)

def first? (t : FileTree) (depth : Nat) (directory : Location) (spots : List TableSpot) :
    Option (TableSpot × Value) :=
  spots.findSome? fun spot => (spot.value? t depth directory).map fun v => (spot, v)

/-- What is decided by the value at a place: a table with settings overrides the defaults, and
anything else is refused. -/
def TableSpot.decides (spot : TableSpot) (v : Value) : Except LookupFault Settings :=
  match v with
  | .table entries =>
    if Settings.AllNamed entries then .ok (Settings.defaults.overriddenBy entries).normalize
    else .error (.refused (.badTable (Text.joinWith ['.'] spot.table) spot.file.toText))
  | _ => .error (.refused (.badTable (Text.joinWith ['.'] spot.table) spot.file.toText))

/-- What is decided by the first place at which something stands. Without one the defaults hold. -/
def decidedBy : Option (TableSpot × Value) → Except LookupFault Settings
  | some (spot, v) => spot.decides v
  | none => .ok .defaults

def nearest (t : FileTree) (depth : Nat) (directory : Location) (resolved : PathName) :
    Except LookupFault Settings :=
  decidedBy (first? t depth directory (spots resolved))

/-- Whether reading a file, if it may be read, gives its table, or says that it is no TOML: it is
UTF-8, and it stays within what the reader of TOML can take. -/
def Legible (t : FileTree) (depth : Nat) (directory : Location) (file : PathName) : Prop :=
  ∀ body, t.stat directory file.toText = .ok (.file body) →
    t.mayRead directory file.toText = true →
    ∃ text, Utf8.decode body.content = .ok text ∧
      ∀ fault, Toml.read depth text = .error fault → fault = .malformed

/-- Whether the search can read a file or pass over it. -/
def Answers (t : FileTree) (depth : Nat) (directory : Location) (file : PathName) : Prop :=
  Legible t depth directory file ∧ t.Answered directory file.toText

def spotsOf (candidate : ConfigFile × PathName) : List TableSpot :=
  candidate.1.tables.map fun table => { file := candidate.2, table }

/-- Whether a search through some files comes to a file: nothing stands in the places of the files
before it. -/
def Reaches (t : FileTree) (depth : Nat) (directory : Location)
    (files : List (ConfigFile × PathName)) (file : PathName) : Prop :=
  ∃ front kind back, files = front ++ (kind, file) :: back ∧
    ∀ earlier ∈ front, first? t depth directory (spotsOf earlier) = none

/-- Whether the search for a directory comes to a file. -/
def ComesTo (t : FileTree) (depth : Nat) (directory : Location) (resolved file : PathName) :
    Prop :=
  Reaches t depth directory (candidates resolved) file

/-- Whether settings are given or refused, and nothing else has gone wrong. -/
def Settled (answer : Except LookupFault Settings) : Prop :=
  ∀ fault, answer = .error fault → ∃ e, fault = .refused e

instance (answer : Except LookupFault Settings) : Decidable (Settled answer) :=
  match answer with
  | .ok _ => .isTrue nofun
  | .error (.refused e) => .isTrue fun _ h => ⟨e, (Except.error.inj h).symm⟩
  | .error (.notUtf8 _) => .isFalse fun h => nomatch h _ rfl
  | .error (.numeralTooLong _) => .isFalse fun h => nomatch h _ rfl
  | .error .nestedTooDeep => .isFalse fun h => nomatch h _ rfl
  | .error .unknownOverride => .isFalse fun h => nomatch h _ rfl
  | .error .linkLoop => .isFalse fun h => nomatch h _ rfl
  | .error .linksTooDeep => .isFalse fun h => nomatch h _ rfl
  | .error (.badPath ..) => .isFalse fun h => nomatch h _ rfl

variable {t : FileTree} {depth : Nat} {directory : Location} {file resolved start : PathName}

/-! ## Single files -/

theorem spots_eq (resolved : PathName) : spots resolved = (candidates resolved).flatMap spotsOf := by
  unfold spots candidates
  rw [List.flatMap_assoc]
  rfl

theorem first?_append (front back : List TableSpot) :
    first? t depth directory (front ++ back) =
      (first? t depth directory front).or (first? t depth directory back) :=
  List.findSome?_append

theorem first?_spotsOf_eq_none {candidate : ConfigFile × PathName} :
    first? t depth directory (spotsOf candidate) = none ↔
      ∀ table ∈ candidate.1.tables,
        TableSpot.value? t depth directory { file := candidate.2, table } = none := by
  simp [first?, spotsOf]

/-- What a file has in its places depends on its entries only. -/
theorem first?_of_entries (kind : ConfigFile) {entries : Toml.Entries}
    (h : entriesAt? t depth directory file = some entries) :
    first? t depth directory (spotsOf (kind, file)) =
      (firstTable? entries kind.tables).map fun found =>
        ({ file, table := found.1 }, found.2) := by
  unfold first? spotsOf firstTable?
  rw [List.findSome?_map]
  induction kind.tables with
  | nil => rfl
  | cons table rest ih =>
      rw [List.findSome?_cons, List.findSome?_cons]
      have hvalue : TableSpot.value? t depth directory { file, table } =
          valueAt? table (.table entries) := by
        simp [TableSpot.value?, h]
      rw [Function.comp_apply, hvalue]
      cases valueAt? table (.table entries) with
      | none => exact ih
      | some v => rfl

theorem first?_of_no_entries (kind : ConfigFile) (h : entriesAt? t depth directory file = none) :
    first? t depth directory (spotsOf (kind, file)) = none := by
  rw [first?_spotsOf_eq_none]
  intro table _
  simp [TableSpot.value?, h]

theorem settingsOf_eq (spot : TableSpot) (v : Value) :
    settingsOf spot.file spot.table v = spot.decides v := by
  cases v with
  | table entries =>
      obtain ⟨hnamed, hunnamed⟩ := Settings.setNamed?_eq .defaults entries
      unfold settingsOf TableSpot.decides
      dsimp only
      by_cases h : Settings.AllNamed entries
      · rw [hnamed h, if_pos h]
      · rw [hunnamed h, if_neg h]
  | _ => rfl

/-- Content that can be read says what stands first in the places of its file. -/
theorem readTables_of_legible (kind : ConfigFile) {body : FileBody} {text : Text}
    (hentries : entriesAt? t depth directory file = (Toml.read depth text).toOption)
    (hdecode : Utf8.decode body.content = .ok text)
    (hread : ∀ fault, Toml.read depth text = .error fault → fault = .malformed) :
    (first? t depth directory (spotsOf (kind, file)) = none ∧
      (readTables depth kind file body.content = .nothing ∨
        readTables depth kind file body.content = .skipped)) ∨
    ∃ spot v, first? t depth directory (spotsOf (kind, file)) = some (spot, v) ∧
      readTables depth kind file body.content = .decided (some spot.table) (spot.decides v) := by
  unfold readTables
  rw [hdecode]
  dsimp only
  cases htoml : Toml.read depth text with
  | error fault =>
      obtain rfl := hread fault htoml
      rw [htoml] at hentries
      exact Or.inl ⟨first?_of_no_entries kind hentries, Or.inr rfl⟩
  | ok entries =>
      rw [htoml] at hentries
      rw [first?_of_entries kind hentries]
      dsimp only
      cases hfirst : firstTable? entries kind.tables with
      | none => exact Or.inl ⟨rfl, Or.inl rfl⟩
      | some found =>
          obtain ⟨table, v⟩ := found
          refine Or.inr ⟨{ file, table }, v, rfl, ?_⟩
          rw [← settingsOf_eq]

/-- What the search finds in a file is what stands first in the places of the file. -/
theorem look_of_answers (kind : ConfigFile) (h : Answers t depth directory file) :
    (first? t depth directory (spotsOf (kind, file)) = none ∧
      (look t depth directory kind file = .nothing ∨ look t depth directory kind file = .skipped)) ∨
    ∃ spot v, first? t depth directory (spotsOf (kind, file)) = some (spot, v) ∧
      look t depth directory kind file = .decided (some spot.table) (spot.decides v) := by
  obtain ⟨hlegible, hanswered⟩ := h
  unfold look
  cases hstat : t.stat directory file.toText with
  | error fault =>
      dsimp only
      rw [if_neg (Bool.eq_false_iff.mp (hanswered fault hstat))]
      exact Or.inl ⟨first?_of_no_entries kind (by simp [entriesAt?, hstat]), Or.inl rfl⟩
  | ok node =>
      dsimp only
      cases hmay : t.mayRead directory file.toText with
      | false =>
          refine Or.inl ⟨first?_of_no_entries kind ?_, Or.inr rfl⟩
          cases node <;> simp [entriesAt?, hstat, hmay]
      | true =>
          cases node with
          | file body =>
              obtain ⟨text, hdecode, hread⟩ := hlegible body hstat hmay
              refine readTables_of_legible kind ?_ hdecode hread
              simp [entriesAt?, hstat, hmay, hdecode, Except.toOption]
          | device =>
              exact Or.inl ⟨first?_of_no_entries kind (by simp [entriesAt?, hstat]), Or.inl rfl⟩
          | directory =>
              exact Or.inl ⟨first?_of_no_entries kind (by simp [entriesAt?, hstat]), Or.inr rfl⟩
          | link target =>
              exact Or.inl ⟨first?_of_no_entries kind (by simp [entriesAt?, hstat]), Or.inr rfl⟩

/-- A file that can neither be read nor be passed over ends the search, and not with a refusal. -/
theorem look_of_illegible (kind : ConfigFile) (h : ¬Answers t depth directory file) :
    ∃ fault, look t depth directory kind file = .decided none (.error fault) ∧
      ∀ e, fault ≠ .refused e := by
  by_cases hanswered : t.Answered directory file.toText
  · have hillegible : ¬Legible t depth directory file := fun hlegible => h ⟨hlegible, hanswered⟩
    simp only [Legible, Classical.not_forall] at hillegible
    obtain ⟨body, hstat, hmay, hbody⟩ := hillegible
    have hlook : look t depth directory kind file = readTables depth kind file body.content := by
      unfold look
      rw [hstat, hmay]
      rfl
    rw [hlook]
    unfold readTables
    cases hdecode : Utf8.decode body.content with
    | error fault => exact ⟨_, rfl, nofun⟩
    | ok text =>
        cases hread : Toml.read depth text with
        | ok entries => exact absurd ⟨text, hdecode, fun fault hfault => by simp [hread] at hfault⟩ hbody
        | error fault =>
            cases fault with
            | numeralTooLong digits => exact ⟨.numeralTooLong digits, by simp only [hread], nofun⟩
            | nestedTooDeep => exact ⟨.nestedTooDeep, by simp only [hread], nofun⟩
            | malformed =>
                refine absurd ⟨text, hdecode, fun other hother => ?_⟩ hbody
                rw [hread] at hother
                exact (Except.error.inj hother).symm
  · simp only [FileTree.Answered, Classical.not_forall] at hanswered
    obtain ⟨fault, hstat, hopen⟩ := hanswered
    refine ⟨.badPath fault file.toText, ?_, nofun⟩
    unfold look
    rw [hstat]
    exact if_pos (Bool.not_eq_false _ |>.mp hopen)

/-! ## The search -/

theorem settled_decidedBy (found : Option (TableSpot × Value)) : Settled (decidedBy found) := by
  intro fault h
  cases found with
  | none => cases h
  | some found =>
      obtain ⟨spot, v⟩ := found
      change spot.decides v = .error fault at h
      unfold TableSpot.decides at h
      split at h
      · split at h
        · cases h
        · exact ⟨_, (Except.error.inj h).symm⟩
      · exact ⟨_, (Except.error.inj h).symm⟩

theorem reaches_cons {kind : ConfigFile} {here : PathName} {rest : List (ConfigFile × PathName)} :
    Reaches t depth directory ((kind, here) :: rest) file ↔
      file = here ∨
        first? t depth directory (spotsOf (kind, here)) = none ∧ Reaches t depth directory rest file := by
  constructor
  · rintro ⟨front, other, back, hsplit, hempty⟩
    cases front with
    | nil =>
        obtain ⟨⟨-, rfl⟩, -⟩ := by simpa using hsplit
        exact Or.inl rfl
    | cons first front =>
        obtain ⟨rfl, rfl⟩ := by simpa using hsplit
        obtain ⟨hfirst, hfront⟩ := List.forall_mem_cons.mp hempty
        exact Or.inr ⟨hfirst, front, other, back, rfl, hfront⟩
  · rintro (rfl | ⟨hhere, front, other, back, rfl, hempty⟩)
    · exact ⟨[], kind, rest, rfl, nofun⟩
    · exact ⟨(kind, here) :: front, other, back, rfl, List.forall_mem_cons.mpr ⟨hhere, hempty⟩⟩

/-- A search finds what stands first in the places of its files, unless it comes to a file that can
neither be read nor be passed over: then it is not settled. -/
theorem search_cases (files : List (ConfigFile × PathName)) :
    ((∀ file, Reaches t depth directory files file → Answers t depth directory file) ∧
        (search t depth directory files).1 = decidedBy (first? t depth directory (files.flatMap spotsOf))) ∨
      ((¬∀ file, Reaches t depth directory files file → Answers t depth directory file) ∧
        ¬Settled (search t depth directory files).1) := by
  induction files with
  | nil =>
      refine Or.inl ⟨?_, rfl⟩
      rintro file ⟨front, kind, back, hsplit, -⟩
      simp at hsplit
  | cons candidate rest ih =>
      obtain ⟨kind, here⟩ := candidate
      simp only [reaches_cons, List.flatMap_cons, first?_append]
      by_cases hanswers : Answers t depth directory here
      · obtain ⟨hnone, hlook⟩ | ⟨spot, v, hsome, hlook⟩ := look_of_answers kind hanswers
        · have hsearch : (search t depth directory ((kind, here) :: rest)).1 =
              (search t depth directory rest).1 := by
            obtain hlook | hlook := hlook <;> simp [search, hlook]
          have hreach : (∀ file, file = here ∨
                first? t depth directory (spotsOf (kind, here)) = none ∧ Reaches t depth directory rest file →
                Answers t depth directory file) ↔
              ∀ file, Reaches t depth directory rest file → Answers t depth directory file := by
            constructor
            · intro h file hfile
              exact h file (Or.inr ⟨hnone, hfile⟩)
            · rintro h file (rfl | ⟨-, hfile⟩)
              · exact hanswers
              · exact h file hfile
          rw [hreach, hsearch, hnone, Option.none_or]
          exact ih
        · refine Or.inl ⟨?_, by simp [search, hlook, hsome, decidedBy]⟩
          rintro file (rfl | ⟨hnone, -⟩)
          · exact hanswers
          · rw [hsome] at hnone
            cases hnone
      · obtain ⟨fault, hlook, hfault⟩ := look_of_illegible kind hanswers
        refine Or.inr ⟨fun h => hanswers (h here (Or.inl rfl)), fun h => ?_⟩
        obtain ⟨e, he⟩ := h fault (by simp [search, hlook])
        exact hfault e he

theorem first?_congr {t' : FileTree} {places : List TableSpot}
    (h : ∀ spot ∈ places, spot.value? t' depth directory = spot.value? t depth directory) :
    first? t' depth directory places = first? t depth directory places := by
  unfold first?
  induction places with
  | nil => rfl
  | cons spot rest ih =>
      obtain ⟨hspot, hrest⟩ := List.forall_mem_cons.mp h
      rw [List.findSome?_cons, List.findSome?_cons, hspot, ih hrest]

theorem nearest_of_agree {t' : FileTree} {front back : List TableSpot} {spot : TableSpot}
    (hsplit : spots resolved = (front ++ [spot]) ++ back) (hspot : (spot.value? t depth directory).isSome)
    (hagree : ∀ other ∈ front ++ [spot], other.value? t' depth directory = other.value? t depth directory) :
    nearest t' depth directory resolved = nearest t depth directory resolved := by
  obtain ⟨v, hv⟩ := Option.isSome_iff_exists.mp hspot
  have hfound : (first? t depth directory (front ++ [spot])).isSome := by
    rw [first?_append]
    cases first? t depth directory front with
    | some found => rfl
    | none => simp [first?, hv]
  unfold nearest
  rw [hsplit, first?_append (front ++ [spot]), first?_append (front ++ [spot]), first?_congr hagree,
    Option.or_of_isSome hfound, Option.or_of_isSome hfound]

theorem load_cases (h : t.resolve directory false start = .ok resolved) :
    ((∀ file, ComesTo t depth directory resolved file → Answers t depth directory file) ∧
        (load t depth directory start).1 = nearest t depth directory resolved) ∨
      ((¬∀ file, ComesTo t depth directory resolved file → Answers t depth directory file) ∧
        ¬Settled (load t depth directory start).1) := by
  have hload : load t depth directory start = search t depth directory (candidates resolved) := by
    simp [load, h]
  rw [hload, nearest, spots_eq]
  exact search_cases (candidates resolved)

/-- **The nearest table decides alone**, when every file that the search comes to and may read is UTF-8
and within the limits of the reader, if and only if it can be told of every such file whether it is
there. What stands behind the nearest table does not matter. -/
theorem load_nearest_iff (hresolved : t.resolve directory false start = .ok resolved)
    (hlegible : ∀ file, ComesTo t depth directory resolved file → Legible t depth directory file) :
    ((load t depth directory start).1 = nearest t depth directory resolved ↔
      ∀ file, ComesTo t depth directory resolved file → t.Answered directory file.toText) ∧
    ∀ (t' : FileTree) (front : List TableSpot) (spot : TableSpot) (back : List TableSpot),
      spots resolved = (front ++ [spot]) ++ back → (spot.value? t depth directory).isSome →
      (∀ other ∈ front ++ [spot], other.value? t' depth directory = other.value? t depth directory) →
      nearest t' depth directory resolved = nearest t depth directory resolved := by
  refine ⟨?_, fun t' front spot back => nearest_of_agree⟩
  obtain ⟨hanswers, hload⟩ | ⟨hunanswered, hunsettled⟩ := load_cases hresolved
  · exact iff_of_true hload fun file hfile => (hanswers file hfile).2
  · refine iff_of_false (fun hload => ?_) fun hasked => ?_
    · rw [hload] at hunsettled
      exact hunsettled (settled_decidedBy _)
    · exact hunanswered fun file hfile => ⟨hlegible file hfile, hasked file hfile⟩

/-- The project file of a directory has a table, so that nobody asks whether the file beyond it is
UTF-8. -/
theorem load_nearest_iff_beyond :
    let directory : Location := ["w".toList]
    let resolved : PathName := { root := ['/'], parts := directory }
    let project : Text := "[tool.comment-outline]\nblock_padding = 2\n".toList
    let body : FileBody := { content := Utf8.encode project, mode := 0o644, version := 0 }
    let broken : FileBody := { content := [0xff], mode := 0o644, version := 1 }
    let tree : FileTree :=
      { nodes := [(directory, .directory), (["w".toList, "pyproject.toml".toList], .file body),
          ([".comment-outline.toml".toList], .file broken)] }
    (load tree 100 directory (.ofText [])).1 = nearest tree 100 directory resolved ∧
      (load tree 100 directory (.ofText [])).1.toOption.bind (fun settings =>
        (settings.value .blockPadding).int?) = some 2 := by
  intro directory resolved project body broken tree
  have hread : ∀ fault, Toml.read 100 project = .error fault → fault = .malformed := by
    intro fault hfault
    have hok : (Toml.read 100 project).toBool = true := by decide +kernel
    rw [hfault] at hok
    cases hok
  have hfirst : ∀ file, ComesTo tree 100 directory resolved file →
      file = resolved.child "pyproject.toml".toList := by
    intro file hfile
    obtain hfile | ⟨hnone, -⟩ := reaches_cons.mp hfile
    · exact hfile
    · have hsome : (first? tree 100 directory (spotsIn resolved)).isSome := by decide +kernel
      change first? tree 100 directory ((spotsIn resolved).take 1) = none at hnone
      rw [← List.take_append_drop 1 (spotsIn resolved), first?_append, hnone] at hsome
      cases hsome
  have hdecode : Utf8.decode body.content = .ok project :=
    toOption_eq_some.mp (by decide +kernel)
  have hstat : tree.stat directory (resolved.child "pyproject.toml".toList).toText =
      .ok (.file body) := by
    rfl
  refine ⟨(load_nearest_iff rfl fun file hfile other hother => ?_).1.mpr fun file hfile => ?_, ?_⟩
  · rw [hfirst file hfile, hstat] at hother
    cases hother
    exact fun _ => ⟨project, hdecode, hread⟩
  · rw [hfirst file hfile]
    exact FileTree.answered_of_stat hstat
  · decide +kernel

/-- The path of a directory has room for no name as long as that of the project file. No file is
there, but nobody is told so. -/
theorem load_long_path :
    let directory : Location := List.replicate 19 (List.replicate 214 'b')
    let resolved : PathName := { root := ['/'], parts := directory }
    let tree : FileTree :=
      { nodes := (List.range 19).map fun n => (directory.take (n + 1), .directory) }
    tree.stat directory resolved.toText = .ok .directory ∧
      (∀ file, Legible tree 100 directory file) ∧
      (load tree 100 directory (.ofText [])).1 ≠ nearest tree 100 directory resolved := by
  intro directory resolved tree
  have hnode : ∀ location body, tree.node? location ≠ some (.file body) := by
    intro location body
    unfold FileTree.node?
    cases hfind : tree.nodes.find? fun entry => entry.1 == location with
    | some entry =>
        obtain ⟨n, -, rfl⟩ := List.mem_map.mp (List.mem_of_find?_eq_some hfind)
        exact nofun
    | none =>
        dsimp only
        split <;> exact nofun
  have hunsettled : ¬Settled (load tree 100 directory (.ofText [])).1 := by decide +kernel
  refine ⟨?_, ?_, ?_⟩
  · exact toOption_eq_some.mp (by decide +kernel)
  · intro file body hbody
    obtain ⟨location, -, hfile⟩ := FileTree.stat_eq_ok.mp hbody
    exact absurd hfile (hnode location body)
  · intro hload
    rw [hload] at hunsettled
    exact hunsettled (settled_decidedBy _)

/-- **Settings are given or refused, and files that cannot be read count as absent**, if and only if the
search path can be resolved and every file that the search comes to can be read or passed over. -/
theorem load_skips_iff :
    (Settled (load t depth directory start).1 ∧
        ∀ resolved, t.resolve directory false start = .ok resolved →
          (load t depth directory start).1 = nearest t depth directory resolved) ↔
      ∃ resolved, t.resolve directory false start = .ok resolved ∧
        ∀ file, ComesTo t depth directory resolved file → Answers t depth directory file := by
  cases hresolved : t.resolve directory false start with
  | error fault =>
      refine iff_of_false (fun h => ?_) nofun
      obtain ⟨hsettled, -⟩ := h
      cases fault <;> simp [Settled, load, hresolved] at hsettled
  | ok resolved =>
      obtain ⟨hanswers, hload⟩ | ⟨hunanswered, hunsettled⟩ := load_cases hresolved
      · refine iff_of_true ⟨?_, ?_⟩ ⟨resolved, rfl, hanswers⟩
        · rw [hload]
          exact settled_decidedBy _
        · rintro _ ⟨⟩
          exact hload
      · refine iff_of_false (fun h => hunsettled h.1) ?_
        rintro ⟨_, ⟨⟩, hanswers⟩
        exact hunanswered hanswers

/-- A file with a single octet that starts no character, which should count as absent. -/
theorem load_not_utf8 :
    let body : FileBody := { content := [0xff], mode := 0o644, version := 0 }
    let tree : FileTree := { nodes := [(["pyproject.toml".toList], .file body)] }
    nearest tree 100 [] { root := ['/'], parts := [] } = .ok .defaults ∧
      ¬Settled (load tree 100 [] (.ofText [])).1 := by
  intro body tree
  have hnone : (first? tree 100 [] (spots { root := ['/'], parts := [] })).isNone := by decide +kernel
  refine ⟨?_, by decide +kernel⟩
  unfold nearest
  rw [Option.isNone_iff_eq_none.mp hnone]
  rfl

end Lookup

end SourceOutline
