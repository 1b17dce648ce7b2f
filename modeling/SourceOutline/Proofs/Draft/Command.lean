import SourceOutline.Draft.Command
import SourceOutline.Proofs.Draft.Outline
import SourceOutline.Proofs.Edit.Ring

/-!
# Commands under the draft of checked settings

Under the draft of a configuration no command is led to anything unusable (`check_ofConfig`), and the
rules that a draft has of its own for keywords come to those of the configuration
(`cycleTodo_ofConfig`, `setTodo_ofConfig`). Main statement: the draft of settings that pass the check
performs every command as a session does under the configuration that they stand for
(`perform_draft`).
-/

namespace SourceOutline

namespace Draft

variable (config : Config) (mark : Text) (doc : Document)

/-! ## Where commands lead -/

theorem readAtPoint_ofConfig : (ofConfig config).readAtPoint mark doc = .ok () :=
  reading_ofConfig _ _ _ _

theorem readSubtree_ofConfig : (ofConfig config).readSubtree mark doc = .ok () := by
  unfold readSubtree
  rw [readAtPoint_ofConfig, ok_bind]
  split
  · exact reading_ofConfig _ _ _ _
  · rfl

theorem follow_ofConfig (previous : Option CycleMemory) (command : Command) :
    (ofConfig config).follow mark doc previous command = .ok () := by
  cases command with
  | moveTo line column => rfl
  | gotoHeading line => rfl
  | cycleGlobal => simp only [follow, measuring_ofConfig, ite_self]
  | nextHeading count => exact measuring_ofConfig _ _ _ _
  | previousHeading count => exact measuring_ofConfig _ _ _ _
  | insertHeading level respectContent =>
      have hrefuse : refuseWith (ofConfig config).headingFault = .ok () := rfl
      simp only [follow, readNearest_ofConfig, readAtPoint_ofConfig, hrefuse, ok_bind, pure_eq_ok,
        ite_self]
  | promoteSubtree count =>
      simp only [follow, readAtPoint_ofConfig, readSubtree_ofConfig, ite_self]
  | demoteSubtree count => exact readSubtree_ofConfig _ _ _
  | cycle => exact readAtPoint_ofConfig _ _ _
  | insertSubheading => exact readAtPoint_ofConfig _ _ _
  | promote count => exact readAtPoint_ofConfig _ _ _
  | demote count => exact readAtPoint_ofConfig _ _ _
  | cycleTodo direction now => exact readAtPoint_ofConfig _ _ _
  | setTodo keyword now => exact readAtPoint_ofConfig _ _ _

theorem check_ofConfig (previous : Option CycleMemory) (command : Command) :
    (ofConfig config).check doc previous command = .ok () := by
  unfold check
  split
  · rfl
  · have hrefuse : refuseWith (ofConfig config).markFault = .ok () := rfl
    rw [hrefuse, ok_bind]
    split
    · rfl
    · exact follow_ofConfig _ _ _ _ _

/-! ## Keywords -/

theorem doneKeyword_ofConfig (new old : Option Text) :
    (ofConfig config).doneKeyword new old = .ok config.effectiveDoneKeyword := by
  have hlast : (ofConfig config).keywords.last =
      .ok (config.todoKeywords.getLast?.map .text) := by
    show Except.ok (config.todoKeywords.map Value.text).getLast? = _
    rw [List.getLast?_map]
  unfold doneKeyword Config.effectiveDoneKeyword
  cases hdone : config.doneKeyword with
  | none =>
      have hnull : (ofConfig config).done.isNull = true := by simp [ofConfig, hdone, Value.ofText?, Value.isNull]
      rw [if_pos hnull, hlast, ok_bind]
      cases config.todoKeywords.getLast? <;> rfl
  | some keyword =>
      have hgiven : (ofConfig config).done = .text keyword := by simp [ofConfig, hdone, Value.ofText?]
      rw [hgiven]
      rfl

theorem applyKeyword_congr {other : Config}
    (h : other.effectiveDoneKeyword = config.effectiveDoneKeyword) (now : Moment)
    (keyword : Option Text) (conv : Convention) (heading : Heading) :
    doc.applyKeyword other now keyword conv heading =
      doc.applyKeyword config now keyword conv heading := by
  unfold Document.applyKeyword
  rw [h]

theorem applyKeyword_ofConfig (now : Moment) (keyword : Option Text) (conv : Convention)
    (heading : Heading) :
    (ofConfig config).applyKeyword doc now keyword conv heading =
      doc.applyKeyword config now keyword conv heading := by
  unfold applyKeyword
  rw [doneKeyword_ofConfig, ok_bind]
  refine applyKeyword_congr config doc ?_ now keyword conv heading
  show config.effectiveDoneKeyword.orElse (fun _ => none) = config.effectiveDoneKeyword
  cases config.effectiveDoneKeyword <;> rfl

/-- What is decided about the heading at point depends on what is decided about headings that can be
there. -/
theorem decideAtHeading_congr {decide other : Convention → Heading → Except Fault Decision}
    (h : ∀ conv heading, doc.headingAtPoint config = .ok (conv, some heading) →
      decide conv heading = other conv heading) :
    doc.decideAtHeading config decide = doc.decideAtHeading config other := by
  unfold Document.decideAtHeading
  cases hread : doc.headingAtPoint config with
  | error fault => rfl
  | ok found =>
      obtain ⟨conv, heading⟩ := found
      cases heading with
      | none => rfl
      | some heading => exact h conv heading hread

theorem setTodo_ofConfig (keyword : Option Text) (now : Moment) :
    (ofConfig config).setTodo doc keyword now = doc.setTodo config keyword now := by
  have haccepts : ∀ k, (ofConfig config).keywords.accepts k =
      .ok (config.todoKeywords.contains k) := by
    intro k
    show Except.ok (((config.todoKeywords.map Value.text).filterMap Value.text?).contains k) = _
    rw [Value.filterMap_text?_map]
  unfold setTodo Document.setTodo
  refine decideAtHeading_congr config doc fun conv heading _ => ?_
  cases keyword.filter fun k => !k.isEmpty with
  | none => exact applyKeyword_ofConfig ..
  | some k =>
      dsimp only
      rw [haccepts, ok_bind, applyKeyword_ofConfig]

theorem keywordOf_getD (keywords : List Text) (n : Nat) :
    keywordOf ((Value.null :: keywords.map .text).getD n .null) =
      .ok ((Document.keywordRing keywords)[n]?).join := by
  cases n with
  | zero => rfl
  | succ n =>
      show keywordOf ((keywords.map Value.text).getD n .null) = .ok ((keywords.map some)[n]?).join
      rw [List.getD_eq_getElem?_getD, List.getElem?_map, List.getElem?_map]
      cases keywords[n]? <;> rfl

/-- Every keyword on the ring is found among the values. -/
theorem findIdx?_places {keywords : List Text} {keyword : Option Text}
    (h : ∀ k ∈ keyword, k ∈ keywords) :
    (Value.null :: keywords.map .text).findIdx? (fun v => v.text? == keyword) =
      some ((Document.keywordRing keywords).idxOf keyword) := by
  have hring : (Value.null :: keywords.map .text).map Value.text? =
      Document.keywordRing keywords := by
    show none :: (keywords.map Value.text).map Value.text? = none :: keywords.map some
    rw [List.map_map]
    rfl
  have hlt := List.idxOf_lt_length_iff.mpr (Document.mem_keywordRing.mpr h)
  have hfound : (Document.keywordRing keywords).findIdx? (· == keyword) =
      some ((Document.keywordRing keywords).idxOf keyword) :=
    List.findIdx?_eq_some_iff_findIdx_eq.mpr ⟨hlt, rfl⟩
  rw [← hfound, ← hring, List.findIdx?_map]
  rfl

theorem keyword_mem_of_headingAtPoint {conv : Convention} {heading : Heading}
    (h : doc.headingAtPoint config = .ok (conv, some heading)) :
    ∀ k ∈ heading.keyword, k ∈ config.todoKeywords := by
  obtain ⟨found, hconv, h⟩ := bind_eq_ok.mp h
  obtain ⟨read, hread, h⟩ := bind_eq_ok.mp h
  cases h
  obtain ⟨line, -, hread⟩ := bind_eq_ok.mp hread
  have hheading := Except.ok.inj hread
  rw [Convention.keyword_of_readHeading? hheading, (Document.convention_eq_ok hconv).2]
  exact mem_of_splitKeyword

theorem cycleTodo_ofConfig (direction : Int) (now : Moment) :
    (ofConfig config).cycleTodo doc direction now = doc.cycleTodo config direction now := by
  have hring : (ofConfig config).keywords.ring = .ok (config.todoKeywords.map .text) := rfl
  unfold cycleTodo Document.cycleTodo
  refine decideAtHeading_congr config doc fun conv heading hread => ?_
  rw [hring, ok_bind, List.isEmpty_map]
  split
  · rfl
  · dsimp only
    rw [findIdx?_places (keyword_mem_of_headingAtPoint config doc hread)]
    dsimp only
    rw [keywordOf_getD, ok_bind, applyKeyword_ofConfig, Document.nextKeyword_eq, List.length_cons,
      List.length_map, Document.length_keywordRing]
    simp only [decide_eq_true_eq]
    rfl

/-! ## Commands -/

/-- **The draft of a configuration performs commands as a session does.** -/
theorem perform_ofConfig (s : Session) (previous : Option CycleMemory) (command : Command) :
    (ofConfig config).perform s previous command = s.perform config previous command := by
  unfold perform
  rw [check_ofConfig]
  dsimp only
  cases command with
  | cycleTodo direction now => exact congrArg (s.carryOut config) (cycleTodo_ofConfig ..)
  | setTodo keyword now => exact congrArg (s.carryOut config) (setTodo_ofConfig ..)
  | _ => rfl

/-- **The draft of settings that pass the check performs every command as a session does under the
configuration that they stand for.** -/
theorem perform_draft {settings : Settings} (h : settings.check = .ok config) (s : Session)
    (previous : Option CycleMemory) (command : Command) :
    settings.draft.perform s previous command = s.perform config previous command := by
  rw [Settings.draft_eq_ofConfig h, perform_ofConfig]

end Draft

end SourceOutline
