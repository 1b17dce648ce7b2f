import SourceOutline.FileTree.Resolve
import SourceOutline.Proofs.FileTree.Walk

/-!
# What resolving finds

A strict resolution keeps to paths whose components can be walked: a name is added only after the
operating system has found it, and taken back only from where it has led. Main statements: what a path
is resolved to is a solid location (`resolve_solid`); a path that has no link in it and goes up from
directories only is resolved to where its components lead (`resolve_walks`), and so is every path
without links under which the operating system finds anything (`resolve_found`).
-/

namespace SourceOutline

namespace FileTree

variable {t : FileTree} {directory here start : Location} {path given p : PathName}
  {names rest : List Text} {known : KnownLinks} {found : Resolving}
  {enter : KnownLinks → PathName → List Text → Except ResolveFault Resolving}

/-! ## Taking back names -/

structure Standing (t : FileTree) (directory : Location) (p : PathName) : Prop where
  normal : p.Normal
  walks : ∃ here, t.Walk (origin directory p) p.parts here

theorem normal_takeBack (h : p.Normal) : (takeBack p).Normal := by
  have hup : IsPart ['.', '.'] := ⟨by decide, by decide, by decide⟩
  unfold takeBack
  split
  · rename_i hlast
    split
    · exact h
    · refine ⟨h.root, fun part hpart => ?_⟩
      rw [List.mem_singleton.mp hpart]
      exact hup
  · split
    · exact h.child hup
    · exact ⟨h.root, fun part hpart => h.parts part (List.dropLast_subset p.parts hpart)⟩

theorem origin_takeBack (directory : Location) (p : PathName) :
    origin directory (takeBack p) = origin directory p := by
  unfold takeBack
  split
  · split <;> rfl
  · split <;> rfl

/-- Taking back a name leads to the directory above. -/
theorem Walk.takeBack (h : t.Walk (origin directory p) p.parts here)
    (hdirectory : t.SolidDirectory directory) :
    t.Walk (origin directory (takeBack p)) (takeBack p).parts here.dropLast := by
  have horigin := hdirectory.origin p
  rw [origin_takeBack]
  unfold FileTree.takeBack
  split
  · rename_i hlast
    have hparts := List.getLast?_eq_none_iff.mp hlast
    rw [hparts] at h
    obtain rfl := h.eq_start
    split
    · -- the root is its own parent
      rename_i habsolute
      have hroot : origin directory p = [] := if_pos habsolute
      rw [hparts, hroot]
      exact .stay
    · exact .up .stay horigin.directory
  · rename_i last hlast
    obtain ⟨front, hfront⟩ := List.getLast?_eq_some_iff.mp hlast
    rw [hfront] at h
    obtain ⟨before, hwalk, hbefore, ⟨hup, hhere⟩ | ⟨hname, hhere, -⟩⟩ := h.last
    · rw [if_pos (beq_iff_eq.mpr hup)]
      refine .up (hfront ▸ h) ?_
      rw [hhere]
      exact (SolidDirectory.dropLast ⟨hwalk.solid horigin.solid, hbefore⟩).directory
    · rw [if_neg (mt beq_iff_eq.mp hname.ne_up), hhere, List.dropLast_concat]
      change t.Walk (origin directory p) p.parts.dropLast before
      rw [hfront, List.dropLast_concat]
      exact hwalk

theorem Standing.takeBack (h : t.Standing directory p) (hdirectory : t.SolidDirectory directory) :
    t.Standing directory (takeBack p) := by
  obtain ⟨hnormal, here, hwalk⟩ := h
  exact ⟨normal_takeBack hnormal, here.dropLast, hwalk.takeBack hdirectory⟩

theorem Standing.child {name : Text} {node : Node} (h : t.Standing directory p)
    (hdirectory : t.SolidDirectory directory) (hpart : IsPart name) (hup : name ≠ ['.', '.'])
    (hstat : t.linkStat directory (p.child name).toText = .ok node)
    (hlink : ∀ target, node ≠ .link target) : t.Standing directory (p.child name) := by
  obtain ⟨hnormal, here, hwalk⟩ := h
  obtain ⟨hhere, hname, hnode⟩ :=
    hwalk.linkStat_child hdirectory (hnormal.child hpart) hup hstat
  exact ⟨hnormal.child hpart, here ++ [name], .down hwalk hhere hname ⟨node, hnode, hlink⟩⟩

/-! ## Every strict resolution can be walked -/

def KnownLinks.Standing (t : FileTree) (directory : Location) (known : KnownLinks) : Prop :=
  ∀ link resolved, (link, some resolved) ∈ known → t.Standing directory resolved

structure Resolving.Standing (t : FileTree) (directory : Location) (found : Resolving) : Prop where
  path : t.Standing directory found.path
  known : found.known.Standing t directory
  complete : found.complete = true

/-- Whether a way of resolving gives only what can be walked. -/
def Sure (t : FileTree) (directory : Location)
    (enter : KnownLinks → PathName → List Text → Except ResolveFault Resolving) : Prop :=
  ∀ known path names found, known.Standing t directory → t.Standing directory path →
    (∀ name ∈ names, IsPart name) → enter known path names = .ok found → found.Standing t directory

def startOf (p : PathName) : PathName :=
  { root := if p.isAbsolute then ['/'] else [], parts := [] }

theorem normal_startOf (p : PathName) : (startOf p).Normal := by
  refine ⟨?_, nofun⟩
  cases habsolute : p.isAbsolute with
  | false => exact Or.inl (by simp [startOf, habsolute])
  | true => exact Or.inr (Or.inl (by simp [startOf, habsolute]))

theorem origin_startOf (directory : Location) (p : PathName) :
    origin directory (startOf p) = origin directory p := by
  unfold origin startOf
  cases p.isAbsolute <;> rfl

theorem standing_startOf (t : FileTree) (directory : Location) (p : PathName) :
    t.Standing directory (startOf p) := ⟨normal_startOf p, _, .stay⟩

theorem resolveNames_sure (hdirectory : t.SolidDirectory directory)
    (henter : t.Sure directory enter) :
    t.Sure directory (t.resolveNames directory true enter) := by
  intro known path names
  induction names generalizing known path with
  | nil =>
      rintro found hknown hpath - ⟨⟩
      exact ⟨hpath, hknown, rfl⟩
  | cons name rest ih =>
      intro found hknown hpath hnames hfound
      obtain ⟨hpart, hrest⟩ := List.forall_mem_cons.mp hnames
      unfold resolveNames at hfound
      split at hfound
      · exact ih _ _ _ hknown (hpath.takeBack hdirectory) hrest hfound
      · rename_i hup
        dsimp only at hfound
        split at hfound
        · cases hfound
        · rename_i target hstat
          split at hfound
          · rename_i link resolved hfind
            have hmem := List.mem_of_find?_eq_some hfind
            exact ih _ _ _ hknown (hknown link resolved hmem) hrest hfound
          · cases hfound
          · obtain ⟨inner, hinner, hfound⟩ := bind_eq_ok.mp hfound
            have hbelow : KnownLinks.Standing t directory ((path.child name, none) :: known) := by
              intro link resolved hmem
              obtain hmem | hmem := List.mem_cons.mp hmem
              · cases hmem
              · exact hknown link resolved hmem
            have hstart : t.Standing directory
                (if target.head? == some '/' then { root := ['/'], parts := [] } else path) := by
              split
              · exact standing_startOf t directory { root := ['/'], parts := [] }
              · exact hpath
            obtain ⟨hinside, hlater, hcomplete⟩ := henter _ _ _ _ hbelow hstart
              (PathName.normal_ofText target).parts hinner
            rw [if_pos hcomplete] at hfound
            refine ih _ _ _ ?_ hinside hrest hfound
            intro link resolved hmem
            obtain hmem | hmem := List.mem_cons.mp hmem
            · cases hmem
              exact hinside
            · exact hlater link resolved hmem
        · rename_i node hlink hstat
          refine ih _ _ _ hknown ?_ hrest hfound
          refine hpath.child hdirectory hpart (mt beq_iff_eq.mpr hup) hstat fun target => ?_
          rintro rfl
          exact hlink target rfl

theorem resolveWithin_sure (hdirectory : t.SolidDirectory directory) (depth : Nat) :
    t.Sure directory (t.resolveWithin directory true depth) := by
  induction depth with
  | zero => exact resolveNames_sure hdirectory nofun
  | succ depth ih => exact resolveNames_sure hdirectory ih

theorem withoutDots_concat (parts : List Text) (part : Text) :
    withoutDots (parts ++ [part]) =
      if part == ['.', '.'] then (withoutDots parts).dropLast else withoutDots parts ++ [part] := by
  unfold withoutDots
  rw [List.foldl_append]
  rfl

/-- Where names lead can be read off the names. -/
theorem Walk.withoutDots_eq (h : t.Walk start names here) (hstart : withoutDots start = start) :
    withoutDots (start ++ names) = here := by
  induction h with
  | stay => rw [List.append_nil, hstart]
  | up _ _ ih => rw [← List.append_assoc, withoutDots_concat, ih, if_pos (beq_self_eq_true _)]
  | down _ _ hname _ ih =>
      rw [← List.append_assoc, withoutDots_concat, ih, if_neg (mt beq_iff_eq.mp hname.ne_up)]

theorem Solid.withoutDots_eq (h : t.Solid here) : withoutDots here = here :=
  h.walk.withoutDots_eq rfl

theorem resolve_eq (hdirectory : t.SolidDirectory directory)
    (hfound : t.resolveWithin directory true t.linkDepth [] (startOf given) given.parts =
      .ok found)
    (hwalk : t.Walk (origin directory found.path) found.path.parts here) :
    t.resolve directory true given = .ok { root := ['/'], parts := here } := by
  have hdots := hwalk.withoutDots_eq (hdirectory.origin found.path).solid.withoutDots_eq
  unfold resolve
  change (t.resolveWithin directory true t.linkDepth [] (startOf given) given.parts >>= _) = _
  rw [hfound, ← hdots]
  rfl

/-- **What a strict resolution gives is a solid location.** -/
theorem resolve_solid (hdirectory : t.SolidDirectory directory) (hgiven : given.Normal)
    (h : t.resolve directory true given = .ok p) : p.root = ['/'] ∧ t.Solid p.parts := by
  obtain ⟨found, hfound, -⟩ := bind_eq_ok.mp h
  obtain ⟨⟨-, here, hwalk⟩, -, -⟩ := resolveWithin_sure hdirectory t.linkDepth [] _ _ _ nofun
    (standing_startOf t directory given) hgiven.parts hfound
  rw [resolve_eq hdirectory hfound hwalk] at h
  cases h
  exact ⟨rfl, hwalk.solid (hdirectory.origin found.path).solid⟩

/-! ## Resolving what is found -/

/-- Whether neither a path nor one of its ancestors by name is a link. -/
def Unlinked (t : FileTree) (directory : Location) (p : PathName) : Prop :=
  ∀ front back, p.parts = front ++ back →
    t.isLink directory (PathName.toText { p with parts := front }) = false

/-- Whether a path goes up from directories only. -/
def GoesUpFromDirectories (t : FileTree) (directory : Location) (p : PathName) : Prop :=
  ∀ front back here, p.parts = front ++ ['.', '.'] :: back → t.Walk (origin directory p) front here →
    t.IsDirectory here

/-- On a path without links, no link is met. -/
theorem Unlinked.not_link {front : List Text} {name : Text} (h : t.Unlinked directory given)
    (hgiven : given.Normal) (hasked : Askable given.toText)
    (hsplit : given.parts = (front ++ [name]) ++ rest)
    (hfront : t.Walk (origin directory given) front here) (hhere : t.IsDirectory here)
    (hname : IsName name) (hopen : t.locate true directory given.toText ≠ .error .noAccess)
    (target : Text) : t.node? (here ++ [name]) ≠ some (.link target) := by
  intro hnode
  let above : PathName := { given with parts := front }
  have hnormal : (above.child name).Normal := by
    refine ⟨hgiven.root, fun part hpart => hgiven.parts part ?_⟩
    rw [hsplit]
    exact List.mem_append_left rest hpart
  have hne : front ++ [name] ≠ [] :=
    List.append_ne_nil_of_right_ne_nil front (List.cons_ne_nil name [])
  have hfree : ¬t.Barred (origin directory given) (front ++ [name]) :=
    not_barred_of_locate hgiven hasked hopen hne hsplit
  have hlink : t.isLink directory (above.child name).toText = true :=
    Walk.isLink_child hfront hhere hnormal hname hfree
      (hasked.of_isPrefix (PathName.toText_isPrefix hne hsplit)) hnode
  exact Bool.false_ne_true ((h (front ++ [name]) rest hsplit).symm.trans hlink)

/-- The operating system finds something only under a path that goes up from directories. -/
theorem goesUpFromDirectories_of_locate {location : Location}
    (hdirectory : t.SolidDirectory directory) (hgiven : given.Normal)
    (hlocate : t.locate true directory given.toText = .ok location) :
    t.GoesUpFromDirectories directory given := by
  intro front back here hsplit hfront
  have hparts : given.parts ≠ [] := by
    rw [hsplit]
    exact List.append_ne_nil_of_right_ne_nil front (List.cons_ne_nil _ back)
  obtain ⟨jump, hfollow⟩ :=
    exists_locate_eq t true directory hgiven hparts (askable_of_locate hlocate)
  rw [hlocate, hsplit] at hfollow
  by_cases hhere : t.IsDirectory here
  · exact hhere
  · exact absurd hfollow.symm
      (hfront.not_followNames (hdirectory.origin given) hhere (List.cons_ne_nil _ back))

theorem exists_resolveWithin_eq (t : FileTree) (directory : Location) (strict : Bool)
    (depth : Nat) :
    ∃ enter, t.resolveWithin directory strict depth = t.resolveNames directory strict enter := by
  cases depth with
  | zero => exact ⟨_, rfl⟩
  | succ depth => exact ⟨_, rfl⟩

section Walks

variable (hdirectory : t.SolidDirectory directory) (hgiven : given.Normal)
  (hunlinked : t.Unlinked directory given) (hasked : Askable given.toText)
  (hopen : t.locate true directory given.toText ≠ .error .noAccess)
  (hup : t.GoesUpFromDirectories directory given)
include hdirectory hgiven hunlinked hasked hopen hup

/-- The components of a path and those of what it is resolved to are walked side by side. -/
theorem resolveNames_walks
    (enter : KnownLinks → PathName → List Text → Except ResolveFault Resolving)
    (known : KnownLinks) {front : List Text} (hsplit : given.parts = front ++ rest)
    (hfront : t.Walk (origin directory given) front here) (hnormal : path.Normal)
    (hpath : t.Walk (origin directory path) path.parts here) :
    (∃ found location, t.resolveNames directory true enter known path rest = .ok found ∧
        t.Walk (origin directory given) given.parts location ∧
        t.Walk (origin directory found.path) found.path.parts location) ∨
      ∃ fault at_, t.resolveNames directory true enter known path rest =
        .error (.refused fault at_) := by
  induction rest generalizing front here path with
  | nil =>
      rw [List.append_nil] at hsplit
      exact Or.inl ⟨_, here, rfl, hsplit ▸ hfront, hpath⟩
  | cons name rest ih =>
      have hpart : IsPart name := by
        refine hgiven.parts name ?_
        rw [hsplit]
        exact List.mem_append_right front List.mem_cons_self
      have hnext : given.parts = (front ++ [name]) ++ rest := by
        rw [hsplit, List.append_assoc, List.singleton_append]
      unfold resolveNames
      split
      · rename_i hname
        obtain rfl := beq_iff_eq.mp hname
        have hhere := hup front rest here hsplit hfront
        exact ih hnext (.up hfront hhere) (normal_takeBack hnormal) (hpath.takeBack hdirectory)
      · rename_i hname
        have hchild := hnormal.child hpart
        dsimp only
        cases hstat : t.linkStat directory (path.child name).toText with
        | error fault => exact Or.inr ⟨fault, _, rfl⟩
        | ok node =>
            obtain ⟨hhere, hname, hnode⟩ :=
              hpath.linkStat_child hdirectory hchild (mt beq_iff_eq.mpr hname) hstat
            have hplain : ∀ target, node ≠ .link target := by
              rintro target rfl
              exact hunlinked.not_link hgiven hasked hnext hfront hhere hname hopen target hnode
            have hthere : t.IsPlain (here ++ [name]) := ⟨node, hnode, hplain⟩
            have hstep := ih hnext (.down hfront hhere hname hthere) hchild
              (.down hpath hhere hname hthere)
            cases node with
            | link target => exact absurd rfl (hplain target)
            | _ => exact hstep

/-- A path without links that goes up from directories only, and through directories that may be
searched, is resolved to where its components lead, unless the operating system refuses to be asked on the way. -/
theorem resolve_walks :
    (∃ location, t.Walk (origin directory given) given.parts location ∧
        t.resolve directory true given = .ok { root := ['/'], parts := location }) ∨
      ∃ fault at_, t.resolve directory true given = .error (.refused fault at_) := by
  obtain ⟨enter, henter⟩ := exists_resolveWithin_eq t directory true t.linkDepth
  have hstart : t.Walk (origin directory (startOf given)) (startOf given).parts
      (origin directory given) := by
    rw [origin_startOf]
    exact .stay
  rcases resolveNames_walks hdirectory hgiven hunlinked hasked hopen hup enter []
      (List.nil_append given.parts).symm .stay (normal_startOf given) hstart with
    ⟨found, location, hfound, hwalk, hresolved⟩ | ⟨fault, at_, hfault⟩
  · rw [← henter] at hfound
    exact Or.inl ⟨location, hwalk, resolve_eq hdirectory hfound hresolved⟩
  · refine Or.inr ⟨fault, at_, ?_⟩
    unfold resolve
    change (t.resolveWithin directory true t.linkDepth [] (startOf given) given.parts >>= _) = _
    rw [henter, hfault]
    rfl

end Walks

/-- **What the operating system finds under a path without links is what the path is resolved to**,
unless the operating system refuses to be asked on the way. -/
theorem resolve_found {location : Location} (hdirectory : t.SolidDirectory directory)
    (hgiven : given.Normal) (hunlinked : t.Unlinked directory given)
    (hlocate : t.locate true directory given.toText = .ok location) :
    t.resolve directory true given = .ok { root := ['/'], parts := location } ∨
      ∃ fault at_, t.resolve directory true given = .error (.refused fault at_) := by
  have hasked := askable_of_locate hlocate
  have hup := goesUpFromDirectories_of_locate hdirectory hgiven hlocate
  have hopen : t.locate true directory given.toText ≠ .error .noAccess := by
    rw [hlocate]
    exact nofun
  rcases resolve_walks hdirectory hgiven hunlinked hasked hopen hup with
    ⟨reached, hwalk, hok⟩ | hrefused
  · have hreached := (hwalk.locate hgiven hasked).resolve_right hopen
    obtain rfl := Except.ok.inj (hlocate.symm.trans hreached)
    exact Or.inl hok
  · exact Or.inr hrefused

end FileTree

end SourceOutline
