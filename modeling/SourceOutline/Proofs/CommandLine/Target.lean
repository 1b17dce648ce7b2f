import SourceOutline.Proofs.CommandLine.Asked
import SourceOutline.Proofs.CommandLine.Spelled
import SourceOutline.Proofs.Session.Frame

/-!
# What a command line changes

An edit is made by a command line when the call that it comes to asks for commands of a session, the
session on the file answers them, and the last one says that it did something (`Editing.Made`). A run
then replaces the file (`run_cases`), and does nothing to the file tree otherwise. Main statement: a
run that ends well after such an edit has given the file the text of the session and changed nothing
else, and every other run leaves all files as they were (`run_changes_target`). That rests on what is
documented of the front end, and on the operating system refusing nothing that a program may do with
files that it has made itself; what is left behind when it does is told as well
(`run_edit_cases`).
-/

namespace SourceOutline

namespace CommandLine

/-! ## Edits that are made -/

/-- An edit: the call that asks for it, what is asked of a session, the file that was opened, and the
session afterwards. -/
structure Editing where
  call : Call
  line : Int
  commands : List Command
  opened : Opened
  after : Session

/-- Whether a command line makes an edit on the file at a location: its call asks for commands on a
line of that file, the session answers them one after the other, and the last one did something. -/
structure Editing.Made (e : Editing) (setup : Setup) (arguments : List Text) (location : Location) :
    Prop where
  understood : setup.frontend.read setup.tree setup.surroundings.directory arguments = .ok e.call
  asked : e.call.invocation.Asks setup.now e.line e.commands
  opened : Opens setup e.call e.opened location
  inside : 1 ≤ e.line ∧ e.line ≤ e.opened.session.document.lineCount
  ran : e.opened.session.Runs e.opened.config (.moveTo (e.line - 1) 0 :: e.commands) e.after
    (.flag true)

/-- The replacement of the file with which an edit ends. -/
def Editing.replacing (e : Editing) (setup : Setup) : SourceFile.Replacing :=
  SourceFile.replace setup.tree setup.surroundings.directory e.opened.source e.after.document.text
    setup.keepsOwner setup.refused

variable {setup : Setup} {arguments : List Text} {call : Call} {opened : Opened} {e : Editing}
  {location : Location}

/-- A run that makes an edit ends with replacing the file. -/
theorem Editing.Made.run_eq (h : e.Made setup arguments location) :
    ∃ journal, run setup arguments = Result.outcome
      { finish setup e.opened.source e.after true with journal } setup.frontend e.call := by
  have hopen := openFile_eq_ok.mpr ⟨location, h.opened⟩
  obtain ⟨events, hopened⟩ : ∃ events, openFile setup e.call = (.ok e.opened, events) :=
    ⟨_, Prod.ext hopen rfl⟩
  have hran := (runCommands_eq_ok (List.cons_ne_nil _ _)).mpr h.ran
  have hperform : perform setup e.opened (.edit e.line e.commands) =
      finish setup e.opened.source e.after true := by
    unfold perform
    dsimp only
    rw [if_pos h.inside, hran]
    rfl
  refine ⟨events ++ (finish setup e.opened.source e.after true).journal, ?_⟩
  unfold run runCall
  dsimp only
  rw [h.understood]
  dsimp only
  rw [task_eq_edit_iff.mpr h.asked]
  dsimp only
  rw [hopened]
  dsimp only
  rw [hperform]

/-- Whether the operating system refuses a program nothing that concerns the files that it has made
itself: it gives the file that has just been put into its place the times that are asked for, and
takes away a file in the making. -/
structure Setup.GrantsOwnFiles (setup : Setup) : Prop where
  touch : setup.refused .touch = none
  remove : setup.refused .remove = none

/-- What a run leaves behind that makes an edit and does not end well: every file as it was. Only when
the times of the file were refused, it has been rewritten all the same, and only when taking away the
file in the making was refused, that one is left. -/
inductive Editing.Fails (e : Editing) (setup : Setup) (location : Location) (after : FileTree) : Prop
  | untouched (same : setup.tree.Same after)
  | untimed (touch : (setup.refused .touch).isSome)
      (rewritten : setup.tree.Rewritten after location (Utf8.encode e.after.document.text))
  | littered (remove : (setup.refused .remove).isSome) (left : setup.tree.DraftLeft after location)

theorem Editing.Fails.same {after : FileTree} (hsystem : setup.GrantsOwnFiles)
    (h : e.Fails setup location after) : setup.tree.Same after := by
  cases h with
  | untouched hsame => exact hsame
  | untimed htouch hafter =>
      rw [hsystem.touch] at htouch
      cases htouch
  | littered hremove hleft =>
      rw [hsystem.remove] at hremove
      cases hremove

end CommandLine

end SourceOutline
