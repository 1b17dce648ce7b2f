import SourceOutline.SourceFile
import SourceOutline.Proofs.FileTree.Resolved

/-!
# Which paths are accepted

A path that is accepted names a regular file below the working directory, whatever links there are
(`contained_of_resolvePath`). Main statement: it is the file that the operating system finds under the
path as it was given, and every other path is refused, unless the path asks for the directory of an
unknown user, is resolved to a path of which nobody can tell whether it names anything, or slips past
the operating system (`resolvePath_keeps_iff`).
-/

namespace SourceOutline

def Surroundings.base (s : Surroundings) : PathName := { root := ['/'], parts := s.directory }

namespace SourceFile

variable {t : FileTree} {s : Surroundings} {given p path : PathName} {raw : Text}
  {fault : SourceFault}

/-- What is promised of an accepted path: it names a regular file below the working directory, and
nothing on the given path is a link. -/
structure Contained (t : FileTree) (s : Surroundings) (given p : PathName) : Prop where
  absolute : p.root = ['/']
  located : t.locate true s.directory p.toText = .ok p.parts
  regular : ∃ body, t.node? p.parts = some (.file body)
  below : ∃ names, names ≠ [] ∧ p.parts = s.directory ++ names
  unlinked : ∀ part ∈ given :: given.parents, t.isLink s.directory part.toText = false

/-- What is promised of reading a path: it is accepted as what the operating system finds there, or
it is refused. -/
def Keeps (t : FileTree) (s : Surroundings) (raw : Text) : Prop :=
  (∃ given p, expandHome s (.ofText raw) = .ok given ∧ resolvePath t s s.base raw = .ok p ∧
      Contained t s given p ∧ t.locate true s.directory given.toText = .ok p.parts) ∨
    ∃ fault, resolvePath t s s.base raw = .error fault ∧ fault.isRefusal = true

/-- Whether the operating system finds nothing under a path, and resolving it leads to a regular file
below the working directory all the same, or does not end for all the links. -/
def SlipsPast (t : FileTree) (s : Surroundings) (given : PathName) : Prop :=
  t.pathExists s.directory given.toText = false ∧
    ((∃ p body, t.resolve s.directory true given = .ok p ∧
        t.stat s.directory p.toText = .ok (.file body) ∧ p.isWithin s.base = true) ∨
      t.resolve s.directory true given = .error .linkLoop ∨
      t.resolve s.directory true given = .error .tooDeep)

theorem keeps_iff_of_error (h : resolvePath t s s.base raw = .error fault) :
    Keeps t s raw ↔ fault.isRefusal = true := by
  unfold Keeps
  rw [h]
  constructor
  · rintro (⟨_, _, -, hok, -⟩ | ⟨_, ⟨⟩, hrefusal⟩)
    · cases hok
    · exact hrefusal
  · intro hrefusal
    exact Or.inr ⟨fault, rfl, hrefusal⟩

/-! ## Paths that are given -/

theorem normal_expandHome (hpath : path.Normal) (h : expandHome s path = .ok given) :
    given.Normal := by
  unfold expandHome at h
  split at h
  · rename_i first rest _ hparts
    split at h
    · split at h
      · cases h
      · split at h
        · cases h
          refine (PathName.normal_ofText _).append ⟨Or.inl rfl, fun part hpart => ?_⟩
          exact hpath.parts part (hparts ▸ List.mem_cons_of_mem first hpart)
        · cases h
    · cases h
      exact hpath
  · cases h
    exact hpath

theorem expandHome_error (h : expandHome s path = .error fault) :
    fault = .unknownHome ∨ fault.isRefusal = true := by
  unfold expandHome at h
  split at h
  · split at h
    · split at h
      · cases h
        exact Or.inr rfl
      · split at h
        · cases h
        · cases h
          exact Or.inl rfl
    · cases h
  · cases h

theorem mem_parents_of_split {front back : List Text} (hback : back ≠ [])
    (h : p.parts = front ++ back) : { p with parts := front } ∈ p.parents := by
  have hlength : p.parts.length = front.length + back.length := by rw [h, List.length_append]
  have hpos := List.length_pos_iff.mpr hback
  refine List.mem_map.mpr ⟨p.parts.length - 1 - front.length, List.mem_range.mpr (by omega), ?_⟩
  have htake : p.parts.length - 1 - (p.parts.length - 1 - front.length) = front.length := by omega
  rw [htake, h, List.take_left]

theorem unlinked_of_not_goesThroughLink (h : goesThroughLink t s given = false) :
    t.Unlinked s.directory given := by
  have hlinks := List.any_eq_false.mp h
  intro front back hsplit
  rw [← Bool.not_eq_true]
  by_cases hback : back = []
  · rw [hback, List.append_nil] at hsplit
    rw [← hsplit]
    exact hlinks given List.mem_cons_self
  · exact hlinks _ (List.mem_cons_of_mem given (mem_parents_of_split hback hsplit))

/-! ## What is accepted -/

theorem resolvePath_of_error {base : PathName} (h : expandHome s (.ofText raw) = .error fault) :
    resolvePath t s base raw = .error fault := by
  unfold resolvePath
  rw [h]
  rfl

theorem resolvePath_of_link {base : PathName} (hgiven : expandHome s (.ofText raw) = .ok given)
    (hlinks : goesThroughLink t s given = true) :
    resolvePath t s base raw = .error (.throughLink given.toText) := by
  unfold resolvePath
  rw [hgiven]
  change (if goesThroughLink t s given then _ else _) = _
  rw [if_pos hlinks]
  rfl

theorem resolvePath_of_unlinked (hgiven : expandHome s (.ofText raw) = .ok given)
    (hlinks : goesThroughLink t s given = false) (base : PathName) :
    resolvePath t s base raw =
      match t.resolve s.directory true given with
      | .error .linkLoop => .error .linkLoop
      | .error .tooDeep => .error .tooDeep
      | .error (.refused .noEntry _) => .error (.missing given.toText)
      | .error (.refused .embeddedNull _) => .error (.badPath .embeddedNull)
      | .error (.refused fault at_) => .error (.unresolved given.toText (fault.message at_))
      | .ok resolved =>
        match t.stat s.directory resolved.toText with
        | .ok (.file _) =>
          if resolved.isWithin base then .ok resolved
          else .error (.outside resolved.toText base.toText)
        | .error fault =>
          if fault.leavesOpen then .error (.unaskable fault resolved.toText)
          else .error (.resolvedIrregular resolved.toText)
        | _ => .error (.resolvedIrregular resolved.toText) := by
  unfold resolvePath
  rw [hgiven]
  change (if goesThroughLink t s given then _ else _) = _
  rw [if_neg (Bool.eq_false_iff.mp hlinks)]
  rfl

theorem resolvePath_ok (hgiven : expandHome s (.ofText raw) = .ok given)
    (h : resolvePath t s s.base raw = .ok p) :
    goesThroughLink t s given = false ∧ t.resolve s.directory true given = .ok p ∧
      (∃ body, t.stat s.directory p.toText = .ok (.file body)) ∧ p.isWithin s.base = true := by
  cases hlinks : goesThroughLink t s given with
  | true =>
      rw [resolvePath_of_link hgiven hlinks] at h
      cases h
  | false =>
      refine ⟨rfl, ?_⟩
      rw [resolvePath_of_unlinked hgiven hlinks] at h
      split at h
      · cases h
      · cases h
      · cases h
      · cases h
      · cases h
      · rename_i resolved hresolved
        split at h
        · rename_i body hstat
          split at h
          · rename_i hwithin
            cases h
            exact ⟨hresolved, ⟨body, hstat⟩, hwithin⟩
          · cases h
        · split at h
          · cases h
          · cases h
        · cases h

/-- **An accepted path names a regular file below the working directory.** -/
theorem contained_of_resolvePath (hdirectory : t.SolidDirectory s.directory)
    (hgiven : expandHome s (.ofText raw) = .ok given) (h : resolvePath t s s.base raw = .ok p) :
    Contained t s given p := by
  obtain ⟨hlinks, hresolve, ⟨body, hstat⟩, hwithin⟩ := resolvePath_ok hgiven h
  obtain ⟨hroot, hsolid⟩ := FileTree.resolve_solid hdirectory
    (normal_expandHome (PathName.normal_ofText raw) hgiven) hresolve
  obtain ⟨root, parts⟩ := p
  obtain rfl : root = ['/'] := hroot
  obtain ⟨location, hlocate, hnode⟩ := FileTree.stat_eq_ok.mp hstat
  obtain rfl : parts = location := (hsolid.eq_of_locate hlocate).symm
  obtain ⟨-, hprefix⟩ := Bool.and_eq_true_iff.mp hwithin
  obtain ⟨names, hnames⟩ := List.isPrefixOf_iff_prefix.mp hprefix
  refine ⟨rfl, hlocate, ⟨body, hnode⟩, ⟨names, ?_, hnames.symm⟩, ?_⟩
  · -- the working directory itself is no file
    rintro rfl
    rw [List.append_nil] at hnames
    have hbase := hdirectory.directory
    change s.directory = parts at hnames
    rw [FileTree.IsDirectory, hnames, hnode] at hbase
    cases hbase
  · intro part hpart
    exact Bool.eq_false_iff.mpr (List.any_eq_false.mp hlinks part hpart)

section Resolved

variable (hdirectory : t.SolidDirectory s.directory)
  (hgiven : expandHome s (.ofText raw) = .ok given) (hlinks : goesThroughLink t s given = false)
include hdirectory hgiven hlinks

theorem resolve_of_pathExists (h : t.pathExists s.directory given.toText = true) :
    (∃ p, t.resolve s.directory true given = .ok p ∧
        t.locate true s.directory given.toText = .ok p.parts) ∨
      ∃ fault at_, t.resolve s.directory true given = .error (.refused fault at_) := by
  unfold FileTree.pathExists at h
  split at h
  · rename_i node hstat
    obtain ⟨location, hlocate, -⟩ := FileTree.stat_eq_ok.mp hstat
    have hnormal := normal_expandHome (PathName.normal_ofText raw) hgiven
    obtain hok | hrefused := FileTree.resolve_found hdirectory hnormal
      (unlinked_of_not_goesThroughLink hlinks) hlocate
    · exact Or.inl ⟨_, hok, hlocate⟩
    · exact Or.inr hrefused
  · cases h

/-- Only a path that goes up from what is no directory, one that leads through a directory that may
not be searched, or one that is too long can slip past the operating system. -/
theorem not_slipsPast (hasked : FileTree.Askable given.toText)
    (hopen : t.locate true s.directory given.toText ≠ .error .noAccess)
    (hup : t.GoesUpFromDirectories s.directory given) : ¬SlipsPast t s given := by
  have hnormal := normal_expandHome (PathName.normal_ofText raw) hgiven
  have hunlinked := unlinked_of_not_goesThroughLink hlinks
  rintro ⟨hlost, hleads⟩
  rcases FileTree.resolve_walks hdirectory hnormal hunlinked hasked hopen hup with
    ⟨location, hwalk, -⟩ | ⟨fault, at_, hrefused⟩
  · obtain ⟨node, hnode, -⟩ := hwalk.isPlain (hdirectory.origin given)
    have hlocate := (hwalk.locate hnormal hasked).resolve_right hopen
    have hstat : t.stat s.directory given.toText = .ok node :=
      FileTree.stat_eq_ok.mpr ⟨location, hlocate, hnode⟩
    unfold FileTree.pathExists at hlost
    rw [hstat] at hlost
    cases hlost
  · rw [hrefused] at hleads
    obtain ⟨_, _, ⟨⟩, -⟩ | ⟨⟨⟩⟩ | ⟨⟨⟩⟩ := hleads

/-- A resolved path that is a regular file below the working directory is as promised if and only if
the operating system finds anything under the given path. -/
theorem keeps_iff_of_accepted (hresolve : t.resolve s.directory true given = .ok p)
    {body : FileBody} (hstat : t.stat s.directory p.toText = .ok (.file body))
    (hwithin : p.isWithin s.base = true) :
    Keeps t s raw ↔ t.pathExists s.directory given.toText = true := by
  have hanswer : resolvePath t s s.base raw = .ok p := by
    rw [resolvePath_of_unlinked hgiven hlinks, hresolve]
    dsimp only
    rw [hstat]
    exact if_pos hwithin
  have hcontained := contained_of_resolvePath hdirectory hgiven hanswer
  constructor
  · rintro (⟨other, q, hother, hq, -, hsame⟩ | ⟨fault, hfault, -⟩)
    · obtain rfl := Except.ok.inj (hgiven.symm.trans hother)
      obtain rfl := Except.ok.inj (hanswer.symm.trans hq)
      obtain ⟨found, hnode⟩ := hcontained.regular
      unfold FileTree.pathExists
      rw [FileTree.stat_eq_ok.mpr ⟨p.parts, hsame, hnode⟩]
    · rw [hanswer] at hfault
      cases hfault
  · intro hexists
    refine Or.inl ⟨given, p, hgiven, hanswer, hcontained, ?_⟩
    obtain ⟨q, hq, hlocate⟩ | ⟨_, _, hrefused⟩ :=
      resolve_of_pathExists hdirectory hgiven hlinks hexists
    · obtain rfl := Except.ok.inj (hresolve.symm.trans hq)
      exact hlocate
    · rw [hresolve] at hrefused
      cases hrefused

/-- A path that is not resolved is refused, unless resolving it does not end for all the links. -/
theorem keeps_iff_of_unresolved {fault : ResolveFault}
    (hresolve : t.resolve s.directory true given = .error fault) :
    Keeps t s raw ↔ ¬SlipsPast t s given := by
  have hanswer := resolvePath_of_unlinked hgiven hlinks s.base
  rw [hresolve] at hanswer
  cases fault with
  | refused fault at_ =>
      refine iff_of_true ?_ ?_
      · cases fault <;> exact (keeps_iff_of_error hanswer).mpr rfl
      · rintro ⟨-, hleads⟩
        rw [hresolve] at hleads
        obtain ⟨_, _, ⟨⟩, -⟩ | ⟨⟨⟩⟩ | ⟨⟨⟩⟩ := hleads
  | _ =>
      rw [keeps_iff_of_error hanswer]
      refine iff_of_false nofun fun h => h ⟨?_, ?_⟩
      · refine Bool.eq_false_iff.mpr fun hexists => ?_
        rcases resolve_of_pathExists hdirectory hgiven hlinks hexists with
          ⟨_, hok, -⟩ | ⟨_, _, hrefused⟩
        · rw [hresolve] at hok
          cases hok
        · rw [hresolve] at hrefused
          cases hrefused
      · rw [hresolve]
        simp

/-- A resolved path is asked for, and accepted or refused, when there is an answer. -/
theorem keeps_iff_of_resolved (hresolve : t.resolve s.directory true given = .ok p) :
    Keeps t s raw ↔ t.Answered s.directory p.toText ∧ ¬SlipsPast t s given := by
  have hanswer := resolvePath_of_unlinked hgiven hlinks s.base
  rw [hresolve] at hanswer
  dsimp only at hanswer
  by_cases haccepted : (∃ body, t.stat s.directory p.toText = .ok (.file body)) ∧
      p.isWithin s.base = true
  · obtain ⟨⟨body, hstat⟩, hwithin⟩ := haccepted
    have hslips : SlipsPast t s given ↔ t.pathExists s.directory given.toText = false :=
      and_iff_left (Or.inl ⟨p, body, hresolve, hstat, hwithin⟩)
    rw [keeps_iff_of_accepted hdirectory hgiven hlinks hresolve hstat hwithin, hslips,
      Bool.not_eq_false]
    exact (and_iff_right (FileTree.answered_of_stat hstat)).symm
  · have hslips : ¬SlipsPast t s given := by
      rintro ⟨-, hleads⟩
      rw [hresolve] at hleads
      obtain ⟨_, body, ⟨⟩, hstat, hwithin⟩ | ⟨⟨⟩⟩ | ⟨⟨⟩⟩ := hleads
      exact haccepted ⟨⟨body, hstat⟩, hwithin⟩
    rw [and_iff_left hslips]
    cases hstat : t.stat s.directory p.toText with
    | error fault =>
        rw [hstat] at hanswer
        dsimp only at hanswer
        rw [FileTree.answered_iff_of_fault hstat]
        cases hopen : fault.leavesOpen with
        | true =>
            rw [hopen, if_pos rfl] at hanswer
            exact iff_of_false (mt (keeps_iff_of_error hanswer).mp nofun) nofun
        | false =>
            rw [hopen, if_neg Bool.false_ne_true] at hanswer
            exact iff_of_true ((keeps_iff_of_error hanswer).mpr rfl) rfl
    | ok node =>
        rw [hstat] at hanswer
        refine iff_of_true ?_ (FileTree.answered_of_stat hstat)
        cases node with
        | file body =>
            have houtside : p.isWithin s.base ≠ true := fun h => haccepted ⟨⟨body, hstat⟩, h⟩
            dsimp only at hanswer
            rw [if_neg houtside] at hanswer
            exact (keeps_iff_of_error hanswer).mpr rfl
        | _ => exact (keeps_iff_of_error hanswer).mpr rfl

/-- Once the given path is known and has no link in it, the promise is kept unless there is no answer
for the resolved path or the given one slips past the operating system. -/
theorem keeps_iff_of_unlinked :
    Keeps t s raw ↔
      (∀ p, t.resolve s.directory true given = .ok p → t.Answered s.directory p.toText) ∧
        ¬SlipsPast t s given := by
  cases hresolve : t.resolve s.directory true given with
  | error fault =>
      rw [keeps_iff_of_unresolved hdirectory hgiven hlinks hresolve]
      exact (and_iff_right nofun).symm
  | ok p =>
      rw [keeps_iff_of_resolved hdirectory hgiven hlinks hresolve]
      refine and_congr_left fun _ => ⟨?_, fun h => h p rfl⟩
      rintro h _ ⟨⟩
      exact h

end Resolved

/-- **An accepted path names a regular file below the working directory. It is the file that is found
under the given path, and every other path is refused, exactly if** the home that the path asks for is
known, it can be told whether what it is resolved to names anything, and it does not slip past the
operating system. No path does that which is short enough, leads through no directory that may not be
searched, and goes up from directories only. -/
theorem resolvePath_keeps_iff (hdirectory : t.SolidDirectory s.directory) (raw : Text) :
    (∀ given p, expandHome s (.ofText raw) = .ok given → resolvePath t s s.base raw = .ok p →
        Contained t s given p) ∧
      (Keeps t s raw ↔ expandHome s (.ofText raw) ≠ .error .unknownHome ∧
        ∀ given, expandHome s (.ofText raw) = .ok given → goesThroughLink t s given = false →
          (∀ p, t.resolve s.directory true given = .ok p → t.Answered s.directory p.toText) ∧
            ¬SlipsPast t s given) ∧
      ∀ given, expandHome s (.ofText raw) = .ok given → goesThroughLink t s given = false →
        FileTree.Askable given.toText → t.locate true s.directory given.toText ≠ .error .noAccess →
        t.GoesUpFromDirectories s.directory given → ¬SlipsPast t s given := by
  refine ⟨fun given p => contained_of_resolvePath hdirectory, ?_,
    fun given => not_slipsPast hdirectory⟩
  cases hgiven : expandHome s (.ofText raw) with
  | error fault =>
      rw [keeps_iff_of_error (resolvePath_of_error hgiven)]
      obtain rfl | hrefusal := expandHome_error hgiven
      · exact iff_of_false nofun fun h => h.1 rfl
      · refine iff_of_true hrefusal ⟨?_, nofun⟩
        rintro ⟨⟩
        cases hrefusal
  | ok given =>
      cases hlinks : goesThroughLink t s given with
      | true =>
          rw [keeps_iff_of_error (resolvePath_of_link hgiven hlinks)]
          refine iff_of_true rfl ⟨nofun, ?_⟩
          rintro _ ⟨⟩ hunlinked
          rw [hlinks] at hunlinked
          cases hunlinked
      | false =>
          rw [keeps_iff_of_unlinked hdirectory hgiven hlinks]
          constructor
          · rintro h
            refine ⟨nofun, ?_⟩
            rintro _ ⟨⟩ -
            exact h
          · rintro ⟨-, h⟩
            exact h given rfl hlinks

/-- A path that goes down, up and down again, past a link that it does not go through. -/
theorem resolvePath_keeps_iff_dots :
    let file : Location := ["w".toList, "src".toList, "a.c".toList]
    let body : FileBody := { content := [], mode := 0o644, version := 0 }
    let tree : FileTree :=
      { nodes := [(["w".toList], .directory), (["w".toList, "src".toList], .directory),
          (file, .file body), (["w".toList, "out".toList], .link "/".toList)] }
    let surroundings : Surroundings := { directory := ["w".toList], home := "/".toList }
    let raw := "src/../src//a.c".toList
    Keeps tree surroundings raw ∧
      resolvePath tree surroundings surroundings.base raw = .ok { root := ['/'], parts := file } := by
  intro file body tree surroundings raw
  have hroot : tree.IsDirectory [] := by decide +kernel
  have hplace : tree.IsDirectory ["w".toList] := by decide +kernel
  have hname : FileTree.IsName "w".toList :=
    ⟨⟨by decide, by decide, by decide⟩, by decide, by decide⟩
  have hdirectory : tree.SolidDirectory surroundings.directory :=
    (FileTree.solidDirectory_root hroot).child hname hplace
  have hgiven : expandHome surroundings (.ofText raw) = .ok (.ofText raw) :=
    toOption_eq_some.mp (by decide +kernel)
  have hresolve : tree.resolve surroundings.directory true (.ofText raw) =
      .ok { root := ['/'], parts := file } := toOption_eq_some.mp (by decide +kernel)
  have hstat : tree.stat surroundings.directory (PathName.toText { root := ['/'], parts := file }) =
      .ok (.file body) := toOption_eq_some.mp (by decide +kernel)
  have hexists : tree.pathExists surroundings.directory (PathName.toText (.ofText raw)) = true := by
    decide +kernel
  refine ⟨(resolvePath_keeps_iff hdirectory raw).2.1.mpr ⟨?_, ?_⟩,
    toOption_eq_some.mp (by decide +kernel)⟩
  · rw [hgiven]
    intro h
    cases h
  · intro given h _
    obtain rfl := Except.ok.inj (hgiven.symm.trans h)
    refine ⟨fun p hp => ?_, fun hslips => ?_⟩
    · obtain rfl := Except.ok.inj (hresolve.symm.trans hp)
      exact FileTree.answered_of_stat hstat
    · have hlost := hslips.1
      rw [hexists] at hlost
      cases hlost

/-- A path into the directory of a user whom nobody knows is not refused, and a name that is taken
back behind a file leads to a file that nobody finds under the path. -/
theorem resolvePath_unknown_home :
    let tree : FileTree :=
      { nodes := [(["w".toList], .directory),
          (["w".toList, "f".toList], .file { content := [], mode := 0o644, version := 0 }),
          (["w".toList, "g".toList], .file { content := [], mode := 0o644, version := 1 })] }
    let surroundings : Surroundings := { directory := ["w".toList], home := "/".toList }
    tree.SolidDirectory surroundings.directory ∧
      ¬Keeps tree surroundings "~nosuchuser/x".toList ∧ ¬Keeps tree surroundings "f/../g".toList := by
  intro tree surroundings
  have hroot : tree.IsDirectory [] := by decide +kernel
  have hplace : tree.IsDirectory ["w".toList] := by decide +kernel
  have hname : FileTree.IsName "w".toList :=
    ⟨⟨by decide, by decide, by decide⟩, by decide, by decide⟩
  refine ⟨(FileTree.solidDirectory_root hroot).child hname hplace, ?_, ?_⟩
  · have hanswer : resolvePath tree surroundings surroundings.base "~nosuchuser/x".toList =
        .error .unknownHome := resolvePath_of_error rfl
    rw [keeps_iff_of_error hanswer]
    exact Bool.false_ne_true
  · have hanswer : resolvePath tree surroundings surroundings.base "f/../g".toList =
        .ok { root := ['/'], parts := ["w".toList, "g".toList] } :=
      toOption_eq_some.mp (by decide +kernel)
    have hgiven : expandHome surroundings (.ofText "f/../g".toList) =
        .ok (.ofText "f/../g".toList) := toOption_eq_some.mp (by decide +kernel)
    have hlost : (tree.locate true surroundings.directory
        (PathName.toText (.ofText "f/../g".toList))).toOption = none := by decide +kernel
    rintro (⟨given, p, hsame, -, -, hlocate⟩ | ⟨fault, hfault, -⟩)
    · obtain rfl := Except.ok.inj (hgiven.symm.trans hsame)
      rw [hlocate] at hlost
      cases hlost
    · rw [hanswer] at hfault
      cases hfault

end SourceFile

end SourceOutline
