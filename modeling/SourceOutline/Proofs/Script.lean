import SourceOutline.Proofs.Draft.Command
import SourceOutline.Script.Session

/-!
# Commands that scripts give

A script can give every command: the step that names it and hands over its arguments is understood as
that command (`ofSessionStep?_step`), provided that the time it gives is real. A session carries out
whatever a step orders, even what breaks down, as the functions on headings do under its own
configuration: the order is noted before, and a cycle memory is kept (`follow_eq`). A step that fails
changes no document (`Feed.obey_error`) and hides no line (`Draft.obeyView_error`).
-/

namespace SourceOutline

namespace Moment

variable {m : Moment}

def fields (m : Moment) : Value :=
  .list [.int m.year, .int m.month, .int m.day, .int m.hour, .int m.minute, .int m.second,
    .int m.microsecond]

theorem ofFields_of_isReal (h : m.IsReal) :
    ofFields m.year m.month m.day m.hour m.minute m.second m.microsecond = .ok m := by
  obtain ⟨hdate, hhour, hminute, hsecond, hmicro⟩ := h
  simp only [isDate, Bool.and_eq_true, decide_eq_true_eq] at hdate
  obtain ⟨⟨⟨hfirst, hlast⟩, hday⟩, hdays⟩ := hdate
  have hmonth : 1 ≤ m.month ∧ m.month ≤ 12 := by
    unfold daysInMonth at hdays
    split at hdays <;> omega
  unfold ofFields
  rw [if_neg (by omega), if_neg (by omega), if_neg (by simp only [Int.toNat_natCast]; omega),
    if_neg (by omega), if_neg (by omega), if_neg (by omega), if_neg (by omega)]
  simp only [Int.toNat_natCast]

theorem ofValue_fields (h : m.IsReal) : Moment.ofValue m.fields = .ok m := by
  show (ofFields _ _ _ _ _ _ _).mapError Fault.unreal = _
  rw [ofFields_of_isReal h, mapError_ok]

end Moment

/-! ## Steps for commands -/

def Command.time? : Command → Option Moment
  | cycleTodo _ now | setTodo _ now => some now
  | _ => none

def Command.step : Command → Step
  | moveTo line column =>
    { name := "move_to".toList
      arguments := [("line".toList, .int line), ("column".toList, .int column)] }
  | gotoHeading line => { name := "goto_heading".toList, arguments := [("line".toList, .int line)] }
  | cycle => { name := "cycle".toList, arguments := [] }
  | cycleGlobal => { name := "cycle_global".toList, arguments := [] }
  | nextHeading count => { name := "next_heading".toList, arguments := [("n".toList, .int count)] }
  | previousHeading count =>
    { name := "previous_heading".toList, arguments := [("n".toList, .int count)] }
  | insertHeading level respectContent =>
    { name := "insert_heading".toList
      arguments := [("level".toList, (level.map Value.int).getD .null),
        ("respect_content".toList, .bool respectContent)] }
  | insertSubheading => { name := "insert_subheading".toList, arguments := [] }
  | promote count => { name := "promote".toList, arguments := [("n".toList, .int count)] }
  | demote count => { name := "demote".toList, arguments := [("n".toList, .int count)] }
  | promoteSubtree count =>
    { name := "promote_subtree".toList, arguments := [("n".toList, .int count)] }
  | demoteSubtree count =>
    { name := "demote_subtree".toList, arguments := [("n".toList, .int count)] }
  | cycleTodo direction now =>
    { name := "cycle_todo".toList
      arguments := [("direction".toList, .int direction), ("now".toList, now.fields)] }
  | setTodo keyword now =>
    { name := "set_todo".toList
      arguments := [("keyword".toList, .ofText? keyword), ("now".toList, now.fields)] }

/-- **Every command can be given by a step.** -/
theorem ofSessionStep?_step (clock : Moment) {command : Command}
    (h : ∀ now ∈ command.time?, now.IsReal) :
    Order.ofSessionStep? clock command.step = some (.ok (.command command)) := by
  cases command with
  | insertHeading level respectContent =>
      cases level <;> cases respectContent <;> rfl
  | cycleTodo direction now =>
      show some ((Moment.ofValue now.fields).map _) = _
      rw [Moment.ofValue_fields (h now rfl)]
      rfl
  | setTodo keyword now =>
      show some ((Moment.ofValue now.fields).map _) = _
      rw [Moment.ofValue_fields (h now rfl)]
      cases keyword <;> rfl
  | _ => rfl

/-! ## Steps that fail -/

theorem Document.ask_error {d d' : Document} {step : Step} {fault : Fault}
    (h : d.ask step = (d', .error fault)) : d' = d := by
  unfold ask at h
  dsimp only at h
  split at h
  · exact (congrArg Prod.fst h).symm
  · exact (congrArg Prod.fst h).symm
  · exact (congrArg Prod.fst h).symm
  · cases h
  · cases h
  · split at h
    · cases h
    · cases h
      rfl
    · cases h
      rfl
  · cases h
  · cases h
    rfl

/-- **A step that fails changes no document, and nobody is told.** -/
theorem Feed.obey_error {f f' : Feed Text} {step : Step} {fault : Fault}
    {told : List (Text × Change)} (h : f.obey step = (f', .error fault, told)) :
    f' = f ∧ told = [] := by
  unfold obey at h
  dsimp only at h
  split at h
  · split at h
    · cases h
    · cases h
      exact ⟨rfl, rfl⟩
  · split at h
    · cases h
    · cases h
      exact ⟨rfl, rfl⟩
  · split at h
    · cases h
    · cases h
      exact ⟨rfl, rfl⟩
    · obtain ⟨hfeed, hanswer⟩ := Prod.mk.inj h
      obtain ⟨hfault, htold⟩ := Prod.mk.inj hanswer
      have hask : f.document.ask step = ((f.document.ask step).1, .error fault) :=
        Prod.ext rfl hfault
      rw [Document.ask_error hask] at hfeed
      exact ⟨hfeed.symm, htold.symm⟩

variable {v v' : FoldView} {fault : Fault} {step : Step}

theorem FoldView.after_error {result : Except Fault FoldView}
    (h : v.after result = (v', .error fault)) : v' = v := by
  unfold after at h
  split at h
  · cases h
  · cases h
    rfl

theorem FoldView.obey?_error {lineCount : Option Nat}
    (h : v.obey? lineCount step = some (v', .error fault)) : v' = v := by
  unfold obey? at h
  split at h
  · exact after_error (Option.some.inj h)
  · exact after_error (Option.some.inj h)
  · exact (congrArg Prod.fst (Option.some.inj h)).symm
  · cases h

/-- **A step that fails leaves a view as it was**, or with everything in view when it was about to hide
lines anew. -/
theorem Draft.obeyView_error {d : Draft} {mark : Text} {lines : List Text}
    (h : d.obeyView mark lines v step = (v', .error fault)) : v' = v ∨ v' = v.revealAll := by
  unfold obeyView at h
  dsimp only at h
  split at h
  · rename_i answered hanswered
    exact Or.inl (FoldView.obey?_error (hanswered.trans (congrArg some h)))
  · split at h
    · cases h
    · exact Or.inr (FoldView.after_error h)
    · exact Or.inr (FoldView.after_error h)
    · exact Or.inl (FoldView.after_error h)
    · exact Or.inl (FoldView.after_error h)
    · exact Or.inl (FoldView.after_error h)
    · exact Or.inl (FoldView.after_error h)
    · exact Or.inl (congrArg Prod.fst h).symm

namespace Session

variable (s : Session) (config : Config)

/-- What a session keeps of an answer: a cycle memory. -/
def keepMemory : Session × Except Fault Answer → Session × Except Fault Answer
  | (s, .ok (.memory memory)) => ({ s with memory }, .ok (.memory memory))
  | answered => answered

theorem keepMemory_of_ne {answered : Session × Except Fault Answer}
    (h : ∀ memory, answered.2 ≠ .ok (.memory memory)) : keepMemory answered = answered := by
  unfold keepMemory
  split
  · exact absurd rfl (h _)
  · rfl

theorem carryOut_ne_memory (decided : Except Fault Decision) (memory : Option CycleMemory) :
    (s.carryOut config decided).2 ≠ .ok (.memory memory) := by
  unfold carryOut
  split
  · nofun
  · nofun
  · split <;> nofun

theorem carryOutMove_ne_memory (decided : Except Fault Move) (memory : Option CycleMemory) :
    (s.carryOutMove decided).2 ≠ .ok (.memory memory) := by
  unfold carryOutMove
  split <;> nofun

theorem run_eq_keepMemory (command : Command) :
    s.run config command = keepMemory
      (((s.note command.name).record [.command command.name s.document.name]).perform config
        s.memory command) := by
  unfold run
  dsimp only
  rcases ((s.note command.name).record [.command command.name s.document.name]).perform config
    s.memory command with ⟨after, fault | answer⟩
  · rfl
  · cases answer <;> rfl

/-- **A session carries out an order as the functions on headings do**, once it is noted. -/
theorem follow_eq (order : Order) :
    s.follow config order =
      keepMemory ((Draft.ofConfig config).carryOut
        ((s.note order.name).record [.command order.name s.document.name]) s.memory order) := by
  cases order with
  | command c =>
      rw [Draft.carryOut, Draft.perform_ofConfig]
      exact run_eq_keepMemory s config c
  | edit name decide => exact (keepMemory_of_ne (carryOut_ne_memory _ config _)).symm
  | move name decide => exact (keepMemory_of_ne (carryOutMove_ne_memory _ _)).symm
  | broken name fault => rfl

theorem obey_step (clock : Moment) {command : Command} (h : ∀ now ∈ command.time?, now.IsReal) :
    s.obey config clock command.step =
      ((s.run config command).1, (s.run config command).2.map (replyOf false)) := by
  unfold obey
  rw [ofSessionStep?_step clock h]
  rfl

end Session

end SourceOutline
