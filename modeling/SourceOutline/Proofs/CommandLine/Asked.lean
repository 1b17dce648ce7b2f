import SourceOutline.CommandLine.Run
import SourceOutline.Proofs.FileTree.Replaced

/-!
# What a call asks for

Each editing command of the command line stands for commands of a session, which are read off its
parameters (`Invocation.Asks`); they are run one after the other, from point on the line that was
named (`Session.Runs`). They are run on the file that the path is resolved to, under the settings that
are found for it, with those that are overridden in their place (`Opens`). Main statements: the tasks
of invocations are just these (`task_eq_edit_iff`), and a file is opened just so (`openFile_eq_ok`).
-/

namespace SourceOutline

/-- Whether a session answers commands one after the other, the last one with a given answer. -/
inductive Session.Runs (config : Config) : Session → List Command → Session → Answer → Prop
  | last {s s' : Session} {command : Command} {answer : Answer}
      (h : s.run config command = (s', .ok answer)) : Runs config s [command] s' answer
  | next {s s' s'' : Session} {command : Command} {commands : List Command} {first answer : Answer}
      (h : s.run config command = (s', .ok first)) (hrest : Runs config s' commands s'' answer) :
      Runs config s (command :: commands) s'' answer

namespace CommandLine

/-! ## Commands -/

/-- The commands that an invocation asks for on a line. -/
inductive Invocation.Asks (now : Moment) : Invocation → Int → List Command → Prop
  | promote (line count : Int) : Asks now (.promote line count false) line [.promote count]
  | promoteSubtree (line count : Int) :
      Asks now (.promote line count true) line [.promoteSubtree count]
  | demote (line count : Int) : Asks now (.demote line count false) line [.demote count]
  | demoteSubtree (line count : Int) :
      Asks now (.demote line count true) line [.demoteSubtree count]
  | cycleForward (line : Int) :
      Asks now (.todo line false none false) line [.cycleTodo 1 now]
  | cycleBackward (line : Int) :
      Asks now (.todo line true none false) line [.cycleTodo (-1) now]
  | setKeyword (line : Int) (backward : Bool) (keyword : Text) :
      Asks now (.todo line backward (some keyword) false) line [.setTodo (some keyword) now]
  | clearKeyword (line : Int) (backward : Bool) :
      Asks now (.todo line backward none true) line [.setTodo none now]
  | insert (line column : Int) (level : Option Int) (respectContent : Bool) :
      Asks now (.insert line column level respectContent) line
        [.moveTo (line - 1) column, .insertHeading level respectContent]
  | subheading (line : Int) : Asks now (.subheading line) line [.insertSubheading]

variable {setup : Setup} {call : Call} {opened : Opened} {now : Moment} {line : Int}
  {commands : List Command} {invocation : Invocation} {config : Config} {s s' : Session}
  {answer : Answer}

/-- **The task of an invocation is the edit that it asks for.** -/
theorem task_eq_edit_iff :
    invocation.task now = .ok (.edit line commands) ↔ invocation.Asks now line commands := by
  constructor
  · intro h
    cases invocation with
    | outline => cases h
    | regions => cases h
    | render view => cases h
    | promote _ count subtree =>
        cases subtree <;> cases h
        · exact .promote line count
        · exact .promoteSubtree line count
    | demote _ count subtree =>
        cases subtree <;> cases h
        · exact .demote line count
        · exact .demoteSubtree line count
    | todo _ backward keyword clear =>
        cases keyword with
        | none =>
            cases clear with
            | true =>
                cases h
                exact .clearKeyword line backward
            | false =>
                cases backward <;> cases h
                · exact .cycleForward line
                · exact .cycleBackward line
        | some keyword =>
            cases clear <;> cases h
            exact .setKeyword line backward keyword
    | insert _ column level respectContent =>
        cases h
        exact .insert line column level respectContent
    | subheading _ =>
        cases h
        exact .subheading line
  · intro h
    cases h <;> rfl

/-- Commands that are run one after the other. -/
theorem runCommands_eq_ok (hne : commands ≠ []) :
    runCommands config s commands = (s', .ok answer) ↔ s.Runs config commands s' answer := by
  induction commands generalizing s with
  | nil => exact absurd rfl hne
  | cons command rest ih =>
      cases rest with
      | nil =>
          constructor
          · exact .last
          · intro h
            cases h with
            | last h => exact h
            | next h hrest => cases hrest
      | cons other rest =>
          have hrest := fun s => ih (s := s) (List.cons_ne_nil other rest)
          rw [runCommands]
          · constructor
            · intro h
              split at h
              · rename_i after first hfirst
                exact .next hfirst ((hrest after).mp h)
              · cases h
            · intro h
              cases h with
              | next hfirst h =>
                  rw [hfirst]
                  exact (hrest _).mpr h
          · exact List.cons_ne_nil other rest

/-! ## Settings -/

def Overrides.appliedTo (o : Overrides) (settings : Settings) : Settings where
  value
    | .baseLevel => (o.baseLevel.map Value.int).getD (settings.value .baseLevel)
    | .commentChar => (o.commentChar.map Value.text).getD (settings.value .commentChar)
    | .blockPadding => (o.padding.map Value.int).getD (settings.value .blockPadding)
    | key => settings.value key

theorem override?_changes (o : Overrides) (settings : Settings) :
    settings.override? o.changes = some (o.appliedTo settings) := by
  obtain ⟨value⟩ := settings
  obtain ⟨baseLevel, commentChar, padding⟩ := o
  have hsame : ∀ changed : Setting → Value, ∀ overrides : Overrides,
      (∀ key, changed key = (overrides.appliedTo ⟨value⟩).value key) →
      some (Settings.mk changed) = some (overrides.appliedTo ⟨value⟩) :=
    fun changed overrides h => congrArg (fun value => some (Settings.mk value)) (funext h)
  cases baseLevel <;> cases commentChar <;> cases padding <;>
    exact hsame _ _ fun key => by cases key <;> rfl

theorem build_eq_ok {t : FileTree} {depth : Nat} {directory : Location} {start : PathName}
    (o : Overrides) :
    (Lookup.build t depth directory start o.changes).1 = .ok config ↔
      ∃ loaded, (Lookup.load t depth directory start).1 = .ok loaded ∧
        (o.appliedTo loaded).check = .ok config := by
  have hnames : (o.changes.any fun change => change.1 == Lookup.startName) = false := by
    unfold Overrides.changes
    simp only [List.any_cons, List.any_nil]
    decide
  unfold Lookup.build
  rw [hnames, if_neg Bool.false_ne_true]
  dsimp only
  rw [bind_eq_ok]
  refine exists_congr fun loaded => and_congr_right fun _ => ?_
  rw [override?_changes]
  exact mapError_eq_ok

/-! ## Files -/

/-- Whether what was opened for a call is the file at a location. -/
structure Opens (setup : Setup) (call : Call) (opened : Opened) (location : Location) : Prop where
  resolved : SourceFile.resolvePath setup.tree setup.surroundings
    { root := ['/'], parts := setup.surroundings.directory } call.path = .ok opened.source.path
  configured : ∃ loaded, (Lookup.load setup.tree setup.tomlDepth setup.surroundings.directory
    opened.source.path.parent).1 = .ok loaded ∧
      (call.overrides.appliedTo loaded).check = .ok opened.config
  located : setup.tree.locate false setup.surroundings.directory opened.source.path.toText =
    .ok location
  file : setup.tree.node? location = some (.file opened.source.body)
  small : ∃ limit, SourceFile.sizeLimit setup.sizeLimit opened.config.maxFileSize = .ok limit ∧
    (opened.source.body.content.length : Int) ≤ limit
  readable : setup.tree.mayRead setup.surroundings.directory opened.source.path.toText = true
  decoded : Utf8.decode opened.source.body.content = .ok opened.source.text
  fresh : opened.session = .create (.ofFile opened.source.path opened.source.text) none setup.room

/-- **What is opened for a call.** -/
theorem openFile_eq_ok :
    (openFile setup call).1 = .ok opened ↔ ∃ location, Opens setup call opened location := by
  unfold openFile
  dsimp only
  constructor
  · intro h
    split at h
    · cases h
    · rename_i path hpath
      obtain ⟨config, hconfig, h⟩ := bind_eq_ok.mp h
      obtain ⟨limit, hlimit, h⟩ := bind_eq_ok.mp h
      obtain ⟨source, hread, h⟩ := bind_eq_ok.mp h
      cases h
      obtain ⟨rfl, ⟨location, hlocate, hnode⟩, hsmall, hmay, hdecode⟩ :=
        SourceFile.read_eq_ok.mp (mapError_eq_ok.mp hread)
      exact ⟨location, hpath, (build_eq_ok call.overrides).mp (mapError_eq_ok.mp hconfig), hlocate,
        hnode, ⟨limit, mapError_eq_ok.mp hlimit, hsmall⟩, hmay, hdecode, rfl⟩
  · rintro ⟨location, hpath, hconfig, hlocate, hnode, ⟨limit, hlimit, hsmall⟩, hmay, hdecode, hfresh⟩
    obtain ⟨source, config, session⟩ := opened
    dsimp only at hpath hconfig hlocate hnode hlimit hsmall hmay hdecode hfresh ⊢
    obtain rfl := hfresh
    rw [hpath]
    dsimp only
    refine bind_eq_ok.mpr ⟨config, mapError_eq_ok.mpr ((build_eq_ok call.overrides).mpr hconfig), ?_⟩
    refine bind_eq_ok.mpr ⟨limit, mapError_eq_ok.mpr hlimit, ?_⟩
    refine bind_eq_ok.mpr ⟨source, mapError_eq_ok.mpr (SourceFile.read_eq_ok.mpr ?_), rfl⟩
    exact ⟨rfl, ⟨location, hlocate, hnode⟩, hsmall, hmay, hdecode⟩

end CommandLine

end SourceOutline
