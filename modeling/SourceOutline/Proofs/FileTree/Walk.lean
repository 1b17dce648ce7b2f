import SourceOutline.Proofs.Outcome
import SourceOutline.Proofs.Path.Written

/-!
# Walking without links

A location is solid when nothing but directories stand above it and no link at it. Names are walked
when they lead from one location to another through directories and over no link, where two dots lead
to the directory above (`FileTree.Walk`). Main statements: the operating system follows names that can
be walked to where they lead, unless a directory on the way may not be searched (`Walk.locate`), and
what it finds under one name more is what stands at that name (`Walk.linkStat_child`).
-/

namespace SourceOutline

namespace Utf8

theorem size_append (t u : Text) : size (t ++ u) = size t + size u := by
  have hfrom : ∀ (t : Text) (n : Nat),
      t.foldl (fun octets c => octets + (encodeChar c).length) n = n + size t := by
    intro t
    unfold size
    induction t with
    | nil => exact fun n => rfl
    | cons c rest ih =>
        intro n
        rw [List.foldl_cons, List.foldl_cons, ih, ih (0 + _)]
        omega
  unfold size
  rw [List.foldl_append, hfrom]
  rfl

end Utf8

namespace FileTree

variable {t : FileTree} {followLast : Bool} {jump : Location → List Text → Except PathFault Location}
  {directory start here there location : Location} {name path : Text} {names rest : List Text}
  {p : PathName} {node : Node}

/-! ## What the operating system answers -/

theorem stat_eq_ok : t.stat directory path = .ok node ↔
    ∃ location, t.locate true directory path = .ok location ∧ t.node? location = some node := by
  unfold stat
  rw [bind_eq_ok]
  refine exists_congr fun location => and_congr_right fun _ => ?_
  cases t.node? location with
  | none => exact iff_of_false nofun nofun
  | some other => exact ⟨fun h => congrArg some (Except.ok.inj h), fun h => by cases h; rfl⟩

theorem linkStat_eq_ok : t.linkStat directory path = .ok node ↔
    ∃ location, t.locate false directory path = .ok location ∧ t.node? location = some node := by
  unfold linkStat
  rw [bind_eq_ok]
  refine exists_congr fun location => and_congr_right fun _ => ?_
  cases t.node? location with
  | none => exact iff_of_false nofun nofun
  | some other => exact ⟨fun h => congrArg some (Except.ok.inj h), fun h => by cases h; rfl⟩

/-- Whether it can be told if a path names anything: the operating system finds something there, or
its fault says that nothing is. -/
def Answered (t : FileTree) (directory : Location) (path : Text) : Prop :=
  ∀ fault, t.stat directory path = .error fault → fault.leavesOpen = false

theorem answered_of_stat (h : t.stat directory path = .ok node) : t.Answered directory path := by
  intro fault hfault
  rw [h] at hfault
  cases hfault

theorem answered_iff_of_fault {fault : PathFault} (h : t.stat directory path = .error fault) :
    t.Answered directory path ↔ fault.leavesOpen = false := by
  constructor
  · exact fun hanswered => hanswered fault h
  · intro hclosed other hother
    rw [h] at hother
    cases hother
    exact hclosed

/-- Whether a path is one that the operating system can be asked for. -/
structure Askable (path : Text) : Prop where
  withoutNull : path.contains '\x00' = false
  short : Utf8.size path ≤ maxPathSize

theorem Askable.of_isPrefix {front : Text} (h : Askable path) (hfront : front <+: path) :
    Askable front := by
  obtain ⟨tail, rfl⟩ := hfront
  obtain ⟨hnull, hshort⟩ := h
  rw [Utf8.size_append] at hshort
  refine ⟨?_, by omega⟩
  rw [List.contains_append, Bool.or_eq_false_iff] at hnull
  exact hnull.1

theorem askable_of_locate (h : t.locate followLast directory path = .ok location) :
    Askable path := by
  unfold locate at h
  split at h
  · cases h
  · rename_i hnull
    split at h
    · cases h
    · split at h
      · cases h
      · rename_i hshort
        exact ⟨Bool.eq_false_iff.mpr hnull, Nat.le_of_not_lt hshort⟩

theorem exists_follow_eq (t : FileTree) (followLast : Bool) (links : Nat) :
    ∃ jump, t.follow followLast links = t.followNames followLast jump := by
  cases links with
  | zero => exact ⟨_, rfl⟩
  | succ links => exact ⟨_, rfl⟩

def origin (directory : Location) (p : PathName) : Location :=
  if p.isAbsolute then [] else directory

/-- Nothing is followed on a path without components. -/
theorem locate_of_no_parts (t : FileTree) (followLast : Bool) (directory : Location) (hp : p.Normal)
    (hparts : p.parts = []) (h : Askable p.toText) :
    t.locate followLast directory p.toText = .ok (origin directory p) ∨
      t.locate followLast directory p.toText = .error .noAccess := by
  obtain ⟨jump, hjump⟩ := exists_follow_eq t followLast maxLinks
  have hne : p.toText.isEmpty = false := List.isEmpty_eq_false_iff.mpr (PathName.toText_ne_nil hp)
  unfold locate
  rw [if_neg (Bool.eq_false_iff.mp h.withoutNull), if_neg (Bool.eq_false_iff.mp hne),
    if_neg (Nat.not_lt_of_le h.short), hjump, PathName.head?_toText hp]
  change t.followNames followLast jump (origin directory p) _ = _ ∨
    t.followNames followLast jump (origin directory p) _ = _
  obtain hsteps | hsteps := steps_toText_of_no_parts hp hparts
  · rw [hsteps]
    cases hclosed : t.closed.contains (origin directory p) with
    | true => exact Or.inr (if_pos hclosed)
    | false => exact Or.inl (if_neg (Bool.eq_false_iff.mp hclosed))
  · rw [hsteps]
    exact Or.inl rfl

theorem exists_locate_eq (t : FileTree) (followLast : Bool) (directory : Location) (hp : p.Normal)
    (hparts : p.parts ≠ []) (h : Askable p.toText) :
    ∃ jump, t.locate followLast directory p.toText =
      t.followNames followLast jump (origin directory p) p.parts := by
  obtain ⟨jump, hjump⟩ := exists_follow_eq t followLast maxLinks
  refine ⟨jump, ?_⟩
  have hne : p.toText.isEmpty = false := List.isEmpty_eq_false_iff.mpr (PathName.toText_ne_nil hp)
  unfold locate
  rw [if_neg (Bool.eq_false_iff.mp h.withoutNull), if_neg (Bool.eq_false_iff.mp hne),
    if_neg (Nat.not_lt_of_le h.short), hjump, PathName.head?_toText hp, steps_toText hp hparts]
  rfl

/-! ## Solid locations -/

structure IsName (name : Text) : Prop extends IsPart name where
  ne_up : name ≠ ['.', '.']
  short : Utf8.size name ≤ maxNameSize

def IsDirectory (t : FileTree) (location : Location) : Prop :=
  t.node? location = some .directory

instance (t : FileTree) (location : Location) : Decidable (t.IsDirectory location) :=
  inferInstanceAs (Decidable (t.node? location = some .directory))

def IsPlain (t : FileTree) (location : Location) : Prop :=
  ∃ node, t.node? location = some node ∧ ∀ target, node ≠ .link target

/-- Locations that are reached from the root through directories, and over no link. -/
inductive Solid (t : FileTree) : Location → Prop
  | root (hroot : t.IsDirectory []) : Solid t []
  | child {parent : Location} {name : Text} (hparent : Solid t parent)
      (hdirectory : t.IsDirectory parent) (hname : IsName name) (hplain : t.IsPlain (parent ++ [name])) :
      Solid t (parent ++ [name])

structure SolidDirectory (t : FileTree) (location : Location) : Prop where
  solid : t.Solid location
  directory : t.IsDirectory location

theorem IsDirectory.isPlain (h : t.IsDirectory here) : t.IsPlain here := ⟨_, h, nofun⟩

theorem Solid.isDirectory_root (h : t.Solid here) : t.IsDirectory [] := by
  induction h with
  | root hroot => exact hroot
  | child _ _ _ _ ih => exact ih

theorem Solid.isPart (h : t.Solid here) : ∀ name ∈ here, IsPart name := by
  induction h with
  | root _ => exact nofun
  | child _ _ hname _ ih =>
      intro part hpart
      obtain hpart | hpart := List.mem_append.mp hpart
      · exact ih part hpart
      · rw [List.mem_singleton.mp hpart]
        exact hname.toIsPart

theorem Solid.dropLast (h : t.Solid here) : t.Solid here.dropLast := by
  cases h with
  | root hroot => exact .root hroot
  | child hparent _ _ _ =>
      rw [List.dropLast_concat]
      exact hparent

theorem solidDirectory_root (h : t.IsDirectory []) : t.SolidDirectory [] := ⟨.root h, h⟩

theorem SolidDirectory.child (h : t.SolidDirectory here) (hname : IsName name)
    (hchild : t.IsDirectory (here ++ [name])) : t.SolidDirectory (here ++ [name]) :=
  ⟨.child h.solid h.directory hname hchild.isPlain, hchild⟩

theorem SolidDirectory.dropLast (h : t.SolidDirectory here) : t.SolidDirectory here.dropLast := by
  refine ⟨h.solid.dropLast, ?_⟩
  cases h.solid with
  | root hroot => exact hroot
  | child _ hdirectory _ _ =>
      rw [List.dropLast_concat]
      exact hdirectory

theorem SolidDirectory.origin (h : t.SolidDirectory directory) (p : PathName) :
    t.SolidDirectory (origin directory p) := by
  unfold FileTree.origin
  split
  · exact solidDirectory_root h.solid.isDirectory_root
  · exact h

/-- Names that lead from one location to another through directories and over no link. -/
inductive Walk (t : FileTree) (start : Location) : List Text → Location → Prop
  | stay : Walk t start [] start
  | up {names : List Text} {here : Location} (hwalk : Walk t start names here)
      (hhere : t.IsDirectory here) : Walk t start (names ++ [['.', '.']]) here.dropLast
  | down {names : List Text} {here : Location} {name : Text} (hwalk : Walk t start names here)
      (hhere : t.IsDirectory here) (hname : IsName name) (hplain : t.IsPlain (here ++ [name])) :
      Walk t start (names ++ [name]) (here ++ [name])

theorem Walk.eq_start (h : t.Walk start [] there) : there = start := by
  generalize hnames : ([] : List Text) = names at h
  cases h with
  | stay => rfl
  | up _ _ => exact absurd hnames.symm (List.append_ne_nil_of_right_ne_nil _ (List.cons_ne_nil _ _))
  | down _ _ _ _ =>
      exact absurd hnames.symm (List.append_ne_nil_of_right_ne_nil _ (List.cons_ne_nil _ _))

/-- The last of some names that can be walked. -/
theorem Walk.last (h : t.Walk start (names ++ [name]) there) :
    ∃ here, t.Walk start names here ∧ t.IsDirectory here ∧
      (name = ['.', '.'] ∧ there = here.dropLast ∨
        IsName name ∧ there = here ++ [name] ∧ t.IsPlain there) := by
  generalize hnames : names ++ [name] = all at h
  cases h with
  | stay => exact absurd hnames (List.append_ne_nil_of_right_ne_nil _ (List.cons_ne_nil _ _))
  | @up before here hwalk hhere =>
      obtain ⟨rfl, hlast⟩ := List.append_inj' hnames rfl
      obtain ⟨rfl, -⟩ := List.cons.inj hlast
      exact ⟨here, hwalk, hhere, Or.inl ⟨rfl, rfl⟩⟩
  | @down before here other hwalk hhere hname hplain =>
      obtain ⟨rfl, hlast⟩ := List.append_inj' hnames rfl
      obtain ⟨rfl, -⟩ := List.cons.inj hlast
      exact ⟨here, hwalk, hhere, Or.inr ⟨hname, rfl, hplain⟩⟩

theorem Walk.solid (h : t.Walk start names here) (hstart : t.Solid start) : t.Solid here := by
  induction h with
  | stay => exact hstart
  | up _ _ ih => exact ih.dropLast
  | down _ hhere hname hplain ih => exact .child ih hhere hname hplain

theorem Walk.isPlain (h : t.Walk start names here) (hstart : t.SolidDirectory start) :
    t.IsPlain here := by
  cases h with
  | stay => exact hstart.directory.isPlain
  | up hwalk hbefore =>
      have habove := SolidDirectory.dropLast ⟨hwalk.solid hstart.solid, hbefore⟩
      exact habove.directory.isPlain
  | down _ _ _ hplain => exact hplain

theorem Solid.walk (h : t.Solid here) : t.Walk [] here here := by
  induction h with
  | root _ => exact .stay
  | child _ hdirectory hname hplain ih => exact .down ih hdirectory hname hplain

/-! ## Following names that can be walked -/

/-- What is found behind a name in a directory that may be searched. -/
def beyond (t : FileTree) (followLast : Bool)
    (jump : Location → List Text → Except PathFault Location) (here : Location) (name : Text)
    (rest : List Text) : Except PathFault Location :=
  match t.node? (here ++ [name]) with
  | none => .error .noEntry
  | some .directory => t.followNames followLast jump (here ++ [name]) rest
  | some (.link target) =>
    if rest.isEmpty && !followLast then .ok (here ++ [name])
    else jump (if target.head? == some '/' then [] else here) (steps target ++ rest)
  | some _ => if rest.isEmpty then .ok (here ++ [name]) else .error .notDirectory

theorem followNames_name (hname : IsName name) (rest : List Text) :
    t.followNames followLast jump here (name :: rest) =
      if t.closed.contains here then .error .noAccess
      else t.beyond followLast jump here name rest := by
  conv => lhs; unfold followNames
  have hempty := mt List.isEmpty_iff.mp hname.ne_nil
  have hdot := mt beq_iff_eq.mp hname.ne_dot
  have hup := mt beq_iff_eq.mp hname.ne_up
  refine (if_neg hempty).trans ?_
  by_cases hclosed : t.closed.contains here = true
  · rw [if_pos hclosed, if_pos hclosed]
  · rw [if_neg hclosed, if_neg hclosed]
    exact (if_neg hdot).trans ((if_neg hup).trans (if_neg (Nat.not_lt_of_le hname.short)))

theorem followNames_up (rest : List Text) :
    t.followNames followLast jump here (['.', '.'] :: rest) =
      if t.closed.contains here then .error .noAccess
      else t.followNames followLast jump here.dropLast rest := by
  conv => lhs; unfold followNames
  rfl

theorem followNames_of_long (hpart : IsPart name) (hup : name ≠ ['.', '.'])
    (hlong : maxNameSize < Utf8.size name) :
    t.followNames followLast jump here (name :: rest) ≠ .ok location := by
  unfold followNames
  rw [if_neg (mt List.isEmpty_iff.mp hpart.ne_nil), if_neg (mt beq_iff_eq.mp hpart.ne_dot),
    if_neg (mt beq_iff_eq.mp hup), if_pos hlong]
  split <;> exact nofun

/-- Whether names are followed from one location to another, whatever comes behind them. -/
def LeadsTo (t : FileTree) (start : Location) (names : List Text) (here : Location) : Prop :=
  ∀ followLast jump rest, t.followNames followLast jump start (names ++ rest) =
    t.followNames followLast jump here rest

/-- Whether names lead into a directory that may not be searched, whatever comes behind them. -/
def Barred (t : FileTree) (start : Location) (names : List Text) : Prop :=
  ∀ followLast jump rest, t.followNames followLast jump start (names ++ rest) = .error .noAccess

theorem LeadsTo.up (h : t.LeadsTo start names here) :
    t.LeadsTo start (names ++ [['.', '.']]) here.dropLast ∨
      t.Barred start (names ++ [['.', '.']]) := by
  cases hclosed : t.closed.contains here with
  | true =>
      refine Or.inr fun followLast jump rest => ?_
      rw [List.append_assoc, h, List.singleton_append, followNames_up, if_pos hclosed]
  | false =>
      refine Or.inl fun followLast jump rest => ?_
      rw [List.append_assoc, h, List.singleton_append, followNames_up,
        if_neg (Bool.eq_false_iff.mp hclosed)]

theorem LeadsTo.down (h : t.LeadsTo start names here) (hname : IsName name) :
    (∀ followLast jump rest, t.followNames followLast jump start ((names ++ [name]) ++ rest) =
        t.beyond followLast jump here name rest) ∨
      t.Barred start (names ++ [name]) := by
  cases hclosed : t.closed.contains here with
  | true =>
      refine Or.inr fun followLast jump rest => ?_
      rw [List.append_assoc, h, List.singleton_append, followNames_name hname, if_pos hclosed]
  | false =>
      refine Or.inl fun followLast jump rest => ?_
      rw [List.append_assoc, h, List.singleton_append, followNames_name hname,
        if_neg (Bool.eq_false_iff.mp hclosed)]

theorem Barred.append (h : t.Barred start names) (more : List Text) :
    t.Barred start (names ++ more) := by
  intro followLast jump rest
  rw [List.append_assoc, h]

/-- From a directory that can be walked to, the further names are followed, unless a directory on the
way there may not be searched. -/
theorem Walk.leadsTo (h : t.Walk start names here) (hhere : t.IsDirectory here) :
    t.LeadsTo start names here ∨ t.Barred start names := by
  induction h with
  | stay => exact Or.inl fun followLast jump rest => rfl
  | up _ hbefore ih =>
      obtain hleads | hbarred := ih hbefore
      · exact hleads.up
      · exact Or.inr (hbarred.append _)
  | down _ hbefore hname _ ih =>
      obtain hleads | hbarred := ih hbefore
      · refine (hleads.down hname).imp_left fun hbeyond followLast jump rest => ?_
        rw [IsDirectory] at hhere
        rw [hbeyond, beyond, hhere]
      · exact Or.inr (hbarred.append _)

/-- Behind what is no directory, no name is followed. -/
theorem Walk.not_followNames (h : t.Walk start names here) (hstart : t.SolidDirectory start)
    (hhere : ¬t.IsDirectory here) (hrest : rest ≠ []) :
    t.followNames followLast jump start (names ++ rest) ≠ .ok location := by
  cases h with
  | stay => exact absurd hstart.directory hhere
  | up hwalk hbefore =>
      have habove := SolidDirectory.dropLast ⟨hwalk.solid hstart.solid, hbefore⟩
      exact absurd habove.directory hhere
  | down hwalk hbefore hname hplain =>
      obtain ⟨node, hnode, hlink⟩ := hplain
      have hempty : rest.isEmpty = false := List.isEmpty_eq_false_iff.mpr hrest
      obtain hbeyond | hbarred : _ ∨ t.Barred start _ :=
        (hwalk.leadsTo hbefore).elim (·.down hname) fun hbarred => Or.inr (hbarred.append _)
      · rw [hbeyond, beyond, hnode]
        cases node with
        | directory => exact absurd hnode hhere
        | link target => exact absurd rfl (hlink target)
        | file body => simp [hempty]
        | device => simp [hempty]
      · rw [hbarred]
        exact nofun

/-- Names that can be walked are followed to where they lead, unless a directory on the way may not
be searched. -/
theorem Walk.followNames (h : t.Walk start names here) :
    t.followNames followLast jump start names = .ok here ∨
      t.followNames followLast jump start names = .error .noAccess := by
  rw [← List.append_nil names]
  cases h with
  | stay => exact Or.inl rfl
  | up hwalk hbefore =>
      obtain hleads | hbarred := hwalk.leadsTo hbefore
      · exact hleads.up.imp (fun h => h _ _ []) fun h => h _ _ []
      · exact Or.inr (hbarred.append _ _ _ [])
  | down hwalk hbefore hname hplain =>
      obtain ⟨node, hnode, hlink⟩ := hplain
      obtain hleads | hbarred := hwalk.leadsTo hbefore
      · refine (hleads.down hname).imp (fun hbeyond => ?_) fun h => h _ _ []
        rw [hbeyond, beyond, hnode]
        cases node with
        | link target => exact absurd rfl (hlink target)
        | directory => rfl
        | file body => rfl
        | device => rfl
      · exact Or.inr (hbarred.append _ _ _ [])

/-! ## Locating paths that can be walked -/

/-- A path whose components can be walked is located where they lead, unless a directory on the way
may not be searched. -/
theorem Walk.locate (h : t.Walk (origin directory p) p.parts here) (hp : p.Normal)
    (hasked : Askable p.toText) :
    t.locate followLast directory p.toText = .ok here ∨
      t.locate followLast directory p.toText = .error .noAccess := by
  by_cases hparts : p.parts = []
  · rw [hparts] at h
    rw [h.eq_start]
    exact locate_of_no_parts t followLast directory hp hparts hasked
  · obtain ⟨jump, hlocate⟩ := exists_locate_eq t followLast directory hp hparts hasked
    rw [hlocate]
    exact h.followNames

/-- A solid location is what its absolute path names. -/
theorem Solid.eq_of_locate (h : t.Solid here)
    (hlocate : t.locate followLast directory (PathName.toText { root := ['/'], parts := here }) =
      .ok location) : location = here := by
  let p : PathName := { root := ['/'], parts := here }
  have hnormal : p.Normal := ⟨Or.inr (Or.inl rfl), h.isPart⟩
  have hwalk : t.Walk (origin directory p) p.parts here := h.walk
  have hwhere : t.locate followLast directory p.toText = .ok here ∨
      t.locate followLast directory p.toText = .error .noAccess :=
    hwalk.locate hnormal (askable_of_locate hlocate)
  rw [hlocate] at hwhere
  obtain hhere | hbarred := hwhere
  · exact Except.ok.inj hhere
  · cases hbarred

/-- What is found under the name of a member, where no link at the end is followed, is what stands
there. -/
theorem Walk.linkStat_child (h : t.Walk (origin directory p) p.parts here)
    (hdirectory : t.SolidDirectory directory) (hp : (p.child name).Normal) (hup : name ≠ ['.', '.'])
    (hstat : t.linkStat directory (p.child name).toText = .ok node) :
    t.IsDirectory here ∧ IsName name ∧ t.node? (here ++ [name]) = some node := by
  obtain ⟨location, hlocate, hnode⟩ := linkStat_eq_ok.mp hstat
  have hparts : (p.child name).parts ≠ [] :=
    List.append_ne_nil_of_right_ne_nil p.parts (List.cons_ne_nil name [])
  obtain ⟨jump, hfollow⟩ :=
    exists_locate_eq t false directory hp hparts (askable_of_locate hlocate)
  have hpart : IsPart name := hp.parts name (List.mem_append_right p.parts List.mem_cons_self)
  rw [hlocate] at hfollow
  change _ = t.followNames false jump (origin directory p) (p.parts ++ [name]) at hfollow
  by_cases hhere : t.IsDirectory here
  · obtain hleads | hbarred := h.leadsTo hhere
    · by_cases hshort : Utf8.size name ≤ maxNameSize
      · have hname : IsName name := { hpart with ne_up := hup, short := hshort }
        obtain hbeyond | hbarred := hleads.down hname
        · rw [← List.append_nil (p.parts ++ [name]), hbeyond, beyond] at hfollow
          refine ⟨hhere, hname, ?_⟩
          have hlocation : location = here ++ [name] := by
            split at hfollow
            · cases hfollow
            · exact Except.ok.inj hfollow
            · exact Except.ok.inj hfollow
            · exact Except.ok.inj hfollow
          rw [← hlocation, hnode]
        · rw [← List.append_nil (p.parts ++ [name]), hbarred] at hfollow
          cases hfollow
      · rw [hleads] at hfollow
        exact absurd hfollow.symm (followNames_of_long hpart hup (Nat.lt_of_not_le hshort))
    · rw [hbarred] at hfollow
      cases hfollow
  · exact absurd hfollow.symm
      (h.not_followNames (hdirectory.origin p) hhere (List.cons_ne_nil name []))

/-- A link is seen under the name of a member, when the directories on the way may be searched. -/
theorem Walk.isLink_child {target : Text} (h : t.Walk (origin directory p) p.parts here)
    (hhere : t.IsDirectory here) (hp : (p.child name).Normal) (hname : IsName name)
    (hopen : ¬t.Barred (origin directory p) (p.parts ++ [name]))
    (hasked : Askable (p.child name).toText) (hnode : t.node? (here ++ [name]) = some (.link target)) :
    t.isLink directory (p.child name).toText = true := by
  have hparts : (p.child name).parts ≠ [] :=
    List.append_ne_nil_of_right_ne_nil p.parts (List.cons_ne_nil name [])
  obtain ⟨jump, hlocate⟩ := exists_locate_eq t false directory hp hparts hasked
  change _ = t.followNames false jump (origin directory p) (p.parts ++ [name]) at hlocate
  obtain hleads | hbarred := h.leadsTo hhere
  · obtain hbeyond | hbarred := hleads.down hname
    · rw [← List.append_nil (p.parts ++ [name]), hbeyond, beyond, hnode] at hlocate
      have hstat : t.linkStat directory (p.child name).toText = .ok (.link target) :=
        linkStat_eq_ok.mpr ⟨_, hlocate, hnode⟩
      unfold isLink
      rw [hstat]
    · exact absurd hbarred hopen
  · exact absurd (hbarred.append _) hopen

theorem not_barred_of_locate {front : List Text} (hp : p.Normal) (hasked : Askable p.toText)
    (hopen : t.locate followLast directory p.toText ≠ .error .noAccess) (hfront : front ≠ [])
    (hsplit : p.parts = front ++ rest) : ¬t.Barred (origin directory p) front := by
  intro hbarred
  have hparts : p.parts ≠ [] := by
    rw [hsplit]
    exact List.append_ne_nil_of_left_ne_nil hfront rest
  obtain ⟨jump, hlocate⟩ := exists_locate_eq t followLast directory hp hparts hasked
  rw [hlocate, hsplit, hbarred] at hopen
  exact hopen rfl

end FileTree

end SourceOutline
