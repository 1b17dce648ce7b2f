import Mathlib.Data.List.Forall2
import SourceOutline.Proofs.Edit.Spot

/-!
# Outlines with a heading added

An outline is read off line by line (`headings_eq`), so an insertion shows in it where lines are
taken and where they get another line below them, and nowhere else. Main statement: when the comment
character is visible, an insertion adds its heading to the outline, on the level that is asked for,
and all other headings come through (`run_insert_adds`).
-/

namespace SourceOutline

namespace Convention

variable {conv : Convention} {lines : List Text} {i k count : Nat}

/-- Headings that are related line by line are related one by one. -/
theorem forall₂_headingsBetween {R : Heading → Heading → Prop} {lines' : List Text}
    (h : ∀ j < count,
      Option.Rel R (conv.headingOn? lines (i + j)) (conv.headingOn? lines' (k + j))) :
    List.Forall₂ R (conv.headingsBetween lines i (i + count))
      (conv.headingsBetween lines' k (k + count)) := by
  unfold headingsBetween
  rw [Nat.add_sub_cancel_left, Nat.add_sub_cancel_left]
  induction count generalizing i k with
  | zero => exact .nil
  | succ count ih =>
      have hrest := ih (i := i + 1) (k := k + 1) fun j hj => by
        rw [Nat.add_assoc, Nat.add_assoc, Nat.add_comm 1]
        exact h (j + 1) (by omega)
      have hhere := h 0 (Nat.zero_lt_succ _)
      rw [Nat.add_zero, Nat.add_zero] at hhere
      rw [List.range'_succ, List.range'_succ, List.filterMap_cons, List.filterMap_cons]
      generalize conv.headingOn? lines i = old at hhere ⊢
      generalize conv.headingOn? lines' k = new at hhere ⊢
      cases hhere with
      | none => exact hrest
      | some hrelated => exact .cons hrelated hrest

end Convention

namespace Document

variable {d d' : Document} {config : Config} {conv : Convention} {n c i k first last : Nat}
  {line opening : Text} {respectContent blank : Bool} {spot : InsertionSpot} {heading : Heading}
  {split : Heading → Prop} {room level : Int} {mark : Char}

/-- **The outline after an insertion**, when the old lines that are kept or stay are related to what
stands at their places, and the others hold no heading. -/
theorem HeadingInserted.exists_outline {R : Heading → Heading → Prop}
    (h : d.HeadingInserted d' spot first last blank opening)
    (hnew : conv.headingOn? d'.lines (first + spot.kept.length + blank.toNat) = some heading)
    (hstays : ∀ i, i < first + spot.kept.length ∨ last ≤ i →
      Option.Rel R (conv.headingOn? d.lines i) (conv.headingOn? d'.lines (d.placeIn d' i)))
    (hgoes : ∀ i, first + spot.kept.length ≤ i → i < last → conv.headingOn? d.lines i = none) :
    ∃ above below, conv.headings d'.lines = above ++ heading :: below ∧
      List.Forall₂ R (conv.headings d.lines) (above ++ below) := by
  have hlength := h.length_eq
  have hlast := h.last_le
  have hkept := h.kept_le
  obtain ⟨rest, hrest⟩ := Nat.exists_eq_add_of_le hlast
  have hblank : conv.headingsBetween d'.lines (first + spot.kept.length)
      (first + spot.kept.length + blank.toNat) = [] := by
    refine Convention.headingsBetween_eq_nil fun i hlow hhigh => ?_
    exact Convention.headingOn?_eq_none (h.getElem?_between hlow hhigh) (Convention.level?_nil conv)
  refine ⟨conv.headingsBetween d'.lines 0 (first + spot.kept.length),
    conv.headingsBetween d'.lines (first + spot.kept.length + blank.toNat + 1) d'.lines.length,
    ?_, ?_⟩
  · rw [Convention.headings_eq,
      Convention.headingsBetween_split (Nat.zero_le (first + spot.kept.length)) (by omega),
      Convention.headingsBetween_split
        (Nat.le_add_right (first + spot.kept.length) blank.toNat) (by omega),
      Convention.headingsBetween_split
        (Nat.le_succ (first + spot.kept.length + blank.toNat)) (by omega),
      hblank, Convention.headingsBetween_succ hnew]
    rfl
  · rw [Convention.headings_eq,
      Convention.headingsBetween_split (Nat.zero_le (first + spot.kept.length)) (by omega),
      Convention.headingsBetween_split hkept hlast, Convention.headingsBetween_eq_nil hgoes,
      List.nil_append, hrest,
      show d'.lines.length = first + spot.kept.length + blank.toNat + 1 + rest by omega]
    refine List.rel_append ?_ (Convention.forall₂_headingsBetween fun j hj => ?_)
    · rw [← Nat.zero_add (first + spot.kept.length)]
      refine Convention.forall₂_headingsBetween fun j hj => ?_
      have hrel := hstays j (Or.inl hj)
      rwa [h.placeIn_above hj, ← Nat.zero_add j] at hrel
    · have hplace := h.placeIn_below (i := last + j) (by omega)
      have hrel := hstays (last + j) (Or.inr (Nat.le_add_right _ _))
      rwa [show d.placeIn d' (last + j) = first + spot.kept.length + blank.toNat + 1 + j by omega]
        at hrel

/-! ## Headings that come through -/

/-- Whether a heading is what an insertion has made of another one: it is found at its place, and
all that it says is as before, except for keyword and title of a heading that is split. -/
structure CameThrough (d d' : Document) (split : Heading → Prop) (old new : Heading) : Prop where
  line : new.line = d.placeIn d' old.line.toNat
  indentation : new.indentation = old.indentation
  run : new.run = old.run
  level : new.level = old.level
  closed : new.closed = old.closed
  text : ¬split old → new.keyword = old.keyword ∧ new.title = old.title

theorem bind_closedMoment? {below : Option Text}
    (h : ∀ text ∈ below, conv.isClosed text = false) :
    below.bind (closedMoment? conv.mark) = none := by
  cases below with
  | none => rfl
  | some text =>
      have hopen : isClosedLine conv.mark text = false := h text rfl
      rw [Option.bind_some, closedMoment?, hopen]
      rfl

theorem bind_closedMoment?_of_detached (hline : d.lines[i]? = some line)
    (hheading : conv.isHeading line = true) (hdetached : ¬d.Attached conv i) :
    (d.lines[i + 1]?).bind (closedMoment? conv.mark) = none := by
  refine bind_closedMoment? fun text htext => ?_
  rw [Bool.eq_false_iff]
  intro hclosed
  exact hdetached ⟨⟨line, hline, hheading⟩, closedBelow_iff.mpr ⟨text, htext, hclosed⟩⟩

/-- **A heading on a line that is not taken comes through**, when the insertion has not come between
it and its closed line, and has not put a closed line below it. -/
theorem HeadingInserted.rel_placeIn (h : d.HeadingInserted d' spot first last blank opening)
    (hdetached : ∀ i, d.Attached conv i → first ≠ i + 1)
    (hopen : ∀ text ∈ d'.lines[first]?, conv.isClosed text = false) (hi : i < first ∨ last ≤ i) :
    Option.Rel (CameThrough d d' split) (conv.headingOn? d.lines i)
      (conv.headingOn? d'.lines (d.placeIn d' i)) := by
  have hplace := h.getElem?_placeIn hi
  cases hline : d.lines[i]? with
  | none =>
      rw [hline] at hplace
      rw [Convention.headingOn?, Convention.headingOn?, hline, hplace]
      exact .none
  | some line =>
      rw [hline] at hplace
      rw [Convention.headingOn?_of_get hline, Convention.headingOn?_of_get hplace]
      cases hread : conv.readHeading? i line d.lines[i + 1]? with
      | none =>
          rw [Convention.readHeading?_eq_none.mpr (Convention.readHeading?_eq_none.mp hread)]
          exact .none
      | some heading =>
          have hfrom := Convention.readFrom_of_readHeading? hread
          have hbelow : (d'.lines[d.placeIn d' i + 1]?).bind (closedMoment? conv.mark) =
              (d.lines[i + 1]?).bind (closedMoment? conv.mark) := by
            by_cases hnext : i + 1 = first
            · -- there has been no closed line below it, and there is none now
              rw [bind_closedMoment?_of_detached hline
                  (Convention.isHeading_iff.mpr ⟨_, hfrom.level_eq⟩)
                  fun hattached => hdetached i hattached hnext.symm,
                h.placeIn_above (by omega), hnext, bind_closedMoment? hopen]
            · rw [← h.placeIn_succ (by omega), h.getElem?_placeIn (by omega)]
          rw [Convention.readHeading?_moved hread (d.placeIn d' i)]
          refine .some ⟨?_, rfl, rfl, rfl, ?_, fun _ => ⟨rfl, rfl⟩⟩
          · dsimp only
            rw [hfrom.line_eq, Int.toNat_natCast]
          · dsimp only
            rw [Convention.closed_of_readHeading? hread, hbelow]

/-- Right below what is kept there is no closed line, unless the new line is one. -/
theorem HeadingInserted.open_behind_kept (h : d.HeadingInserted d' spot first last blank opening)
    (hopen : conv.isClosed (opening ++ ' ' :: spot.title) = false) :
    ∀ text ∈ d'.lines[first + spot.kept.length]?, conv.isClosed text = false := by
  intro text htext
  cases blank with
  | true =>
      rw [h.getElem?_blank rfl] at htext
      cases htext
      exact Convention.isClosed_nil conv
  | false =>
      have hnew := h.getElem?_new
      rw [Bool.toNat_false, Nat.add_zero] at hnew
      rw [hnew] at htext
      cases htext
      exact hopen

/-- The line in front of which a heading is inserted, or the part of it that is kept, is no closed
line afterwards. -/
theorem SpotFor.open_first (hspot : d.SpotFor conv n c line respectContent spot)
    (h : d.HeadingInserted d' spot first last blank opening)
    (hopen : conv.isClosed (opening ++ ' ' :: spot.title) = false) :
    ∀ text ∈ d'.lines[first]?, conv.isClosed text = false := by
  intro text htext
  cases hspot with
  | split opened =>
      rw [h.getElem?_first rfl] at htext
      cases htext
      exact Convention.isClosed_keptOf opened c
  | splitAttached read =>
      rw [h.getElem?_first rfl] at htext
      cases htext
      exact Convention.isClosed_keptOf (Convention.level?_eq_some.mp read.level_eq).2.1 c
  | _ => exact h.open_behind_kept hopen text htext

/-- **A heading that is split comes through** with its first part, when the comment character is
visible and the closed line below it stays. -/
theorem rel_split (hmark : conv.mark = [mark]) (hvisible : isBlank mark = false)
    (hline : d.lines[n]? = some line) (hget : d'.lines[n]? = some (keptOf line c))
    (hopen : conv.isClosed line = false) (hplace : d.placeIn d' n = n)
    (hcolumn : ∀ heading : Heading, heading.ReadFrom conv n line →
      heading.openingEnd < c ∧ split heading)
    (hbelow : conv.isHeading line = true → (d'.lines[n + 1]?).bind (closedMoment? conv.mark) =
      (d.lines[n + 1]?).bind (closedMoment? conv.mark)) :
    Option.Rel (CameThrough d d' split) (conv.headingOn? d.lines n)
      (conv.headingOn? d'.lines n) := by
  have hpiece := keptOf_isPrefix line c
  rw [Convention.headingOn?_of_get hline, Convention.headingOn?_of_get hget]
  cases hread : conv.readHeading? n line d.lines[n + 1]? with
  | none =>
      have hplain := Convention.readHeading?_eq_none.mp hread
      rw [Convention.readHeading?_eq_none.mpr
        (Convention.level?_piece_eq_none hpiece hopen hplain)]
      exact .none
  | some heading =>
      have hfrom := Convention.readFrom_of_readHeading? hread
      obtain ⟨hlt, hsplit⟩ := hcolumn heading hfrom
      have hlong := hfrom.openingEnd_le_keptOf hmark hvisible (Nat.le_of_lt hlt)
      rw [Convention.readHeading?_piece hread hpiece hlong]
      refine .some ⟨?_, rfl, rfl, rfl, ?_, fun hwhole => absurd hsplit hwhole⟩
      · dsimp only
        rw [hfrom.line_eq, Int.toNat_natCast, hplace]
      · dsimp only
        rw [Convention.closed_of_readHeading? hread,
          hbelow (Convention.isHeading_iff.mpr ⟨_, hfrom.level_eq⟩)]

/-- **Headings on kept lines come through.** -/
theorem SpotFor.rel_kept (hspot : d.SpotFor conv n c line respectContent spot)
    (h : d.HeadingInserted d' spot first last blank opening)
    (hopen : conv.isClosed (opening ++ ' ' :: spot.title) = false) (hmark : conv.mark = [mark])
    (hvisible : isBlank mark = false) (hline : d.lines[n]? = some line)
    (hstart : spot.start = first)
    (hsplit : ∀ heading : Heading, heading.ReadFrom conv n line → heading.openingEnd < c →
      respectContent = false → split heading)
    (hfirst : first ≤ i) (hi : i < first + spot.kept.length) :
    Option.Rel (CameThrough d d' split) (conv.headingOn? d.lines i)
      (conv.headingOn? d'.lines i) := by
  have hbehind := h.open_behind_kept hopen
  have hplace := h.placeIn_above hi
  cases hspot
  case split opened visible column detached =>
    obtain rfl : first = n := by
      dsimp only at hstart
      omega
    obtain rfl : i = first := by
      dsimp only [List.length_singleton] at hi
      omega
    refine rel_split hmark hvisible hline (h.getElem?_first rfl) opened hplace
      (fun heading hread => ⟨column heading hread, hsplit heading hread (column heading hread) rfl⟩)
      fun hheading => ?_
    -- no closed line stands below, before and after
    have hbelow : ∀ text ∈ d'.lines[i + 1]?, conv.isClosed text = false := hbehind
    rw [bind_closedMoment? hbelow, bind_closedMoment?_of_detached hline hheading detached]
  case splitAttached heading closed read column get closed_eq =>
    obtain rfl : first = n := by
      dsimp only at hstart
      omega
    have hnext : d'.lines[first + 1]? = some closed := h.getElem?_kept (Nat.lt_succ_self _)
    by_cases hhere : i = first
    · subst hhere
      refine rel_split hmark hvisible hline (h.getElem?_first rfl)
        (Convention.level?_eq_some.mp read.level_eq).2.1 hplace (fun other hread => ?_)
        fun _ => by rw [hnext, get]
      have hlt : other.openingEnd < c := hread.openingEnd_unique read ▸ column
      exact ⟨hlt, hsplit other hread hlt rfl⟩
    · obtain rfl : i = first + 1 := by
        dsimp only [List.length_cons, List.length_nil] at hi
        omega
      have hplain := Convention.level?_of_isClosed closed_eq
      rw [Convention.headingOn?_eq_none get hplain, Convention.headingOn?_eq_none hnext hplain]
      exact .none
  all_goals
    dsimp only [List.length_nil] at hi
    omega

/-- **Headings come through** on all lines that stay or are kept. -/
theorem SpotFor.rel_stays (hspot : d.SpotFor conv n c line respectContent spot)
    (h : d.HeadingInserted d' spot first last blank opening)
    (hopen : conv.isClosed (opening ++ ' ' :: spot.title) = false) (hmark : conv.mark = [mark])
    (hvisible : isBlank mark = false) (hline : d.lines[n]? = some line)
    (hstart : spot.start = first)
    (hsplit : ∀ heading : Heading, heading.ReadFrom conv n line → heading.openingEnd < c →
      respectContent = false → split heading)
    (hi : i < first + spot.kept.length ∨ last ≤ i) :
    Option.Rel (CameThrough d d' split) (conv.headingOn? d.lines i)
      (conv.headingOn? d'.lines (d.placeIn d' i)) := by
  by_cases hkept : first ≤ i ∧ i < first + spot.kept.length
  · rw [h.placeIn_above hkept.2]
    exact hspot.rel_kept h hopen hmark hvisible hline hstart hsplit hkept.1 hkept.2
  · refine h.rel_placeIn (fun j hattached => ?_) (hspot.open_first h hopen) (by omega)
    have := hspot.start_ne hline hattached
    omega

theorem SpotFor.headingOn?_taken (hspot : d.SpotFor conv n c line respectContent spot)
    (hmark : conv.mark = [mark]) (hvisible : isBlank mark = false)
    (hline : d.lines[n]? = some line) (hstart : spot.start = first) (hstop : spot.stop = last)
    (hlow : first + spot.kept.length ≤ i) (hhigh : i < last) :
    conv.headingOn? d.lines i = none := by
  cases hspot
  all_goals dsimp only [List.length_nil, List.length_cons] at hstart hstop hlow
  case blank opened blank =>
    obtain rfl : i = n := by omega
    have hplain := Convention.level?_of_isBlankText hmark hvisible blank
    exact Convention.headingOn?_eq_none hline hplain
  all_goals omega

/-! ## One heading more -/

/-- Whether a document has the outline of another one with one heading added, which has been put on
a level. Point is behind the comment run of the heading and one space. -/
structure HeadingAdded (d d' : Document) (conv : Convention) (level : Int)
    (split : Heading → Prop) (new : Heading) : Prop where
  outline : ∃ above below, conv.headings d'.lines = above ++ new :: below ∧
    List.Forall₂ (CameThrough d d' split) (conv.headings d.lines) (above ++ below)
  level : new.level = level
  point : d'.point = { line := new.line, column := (new.openingEnd + 1 : Nat) }
  space : ∃ text, d'.lines[new.line.toNat]? = some text ∧ text[new.openingEnd]? = some ' '

/-- Whether the new line at point adds a heading to the outline, unless it has the form of a closed
line, which it cannot have when the shortest comment run of a heading is longer. -/
def AddsHeading (d d' : Document) (conv : Convention) (level : Int)
    (split : Heading → Prop) : Prop :=
  ∃ line, d'.lines[d'.point.line.toNat]? = some line ∧
    (3 ≤ conv.config.baseLevel → conv.isClosed line = false) ∧
    (conv.isClosed line = false → ∃ new, d.HeadingAdded d' conv level split new)

theorem HeadingInserted.adds {indent run : Text} (hmark : conv.mark = [mark])
    (hvisible : isBlank mark = false) (hbase : 1 ≤ conv.config.baseLevel)
    (hindent : ∀ ch ∈ indent, isIndenting ch = true) (hlevel : 1 ≤ level)
    (hwrite : writeRun room conv.mark (level + conv.config.baseLevel - 1) = .ok run)
    (h : d.HeadingInserted d' spot first last blank (indent ++ run))
    (hstays : conv.isClosed (indent ++ run ++ ' ' :: spot.title) = false →
      ∀ i, i < first + spot.kept.length ∨ last ≤ i →
        Option.Rel (CameThrough d d' split) (conv.headingOn? d.lines i)
          (conv.headingOn? d'.lines (d.placeIn d' i)))
    (hgoes : ∀ i, first + spot.kept.length ≤ i → i < last → conv.headingOn? d.lines i = none) :
    d.AddsHeading d' conv level split := by
  obtain ⟨hclosed, hread⟩ :=
    readHeading?_inserted hmark (isIndenting_eq_false hvisible) rfl hbase hindent hlevel hwrite
      spot.title
  have hnew := h.getElem?_new
  have hnumber : d'.point.line.toNat = first + spot.kept.length + blank.toNat := by
    rw [h.point]
    exact Int.toNat_natCast _
  refine ⟨_, hnumber ▸ hnew, fun hthree => ?_, fun hopen => ?_⟩
  · rw [Bool.eq_false_iff]
    intro htwo
    have := (hclosed.mp htwo).1
    omega
  · obtain ⟨new, hheading, hline, hown, hend⟩ := hread hopen
      (first + spot.kept.length + blank.toNat : Nat)
      d'.lines[first + spot.kept.length + blank.toNat + 1]?
    have hspace : (indent ++ run ++ ' ' :: spot.title)[new.openingEnd]? = some ' ' := by
      rw [hend, List.getElem?_append_right (Nat.le_refl _), Nat.sub_self]
      rfl
    refine ⟨new, h.exists_outline ?_ (hstays hopen) hgoes, hown, ?_, _, ?_, hspace⟩
    · rw [Convention.headingOn?_of_get hnew, hheading]
    · rw [h.point, hline, hend]
    · rw [hline, Int.toNat_natCast]
      exact hnew

end Document

namespace Session

open Document

variable {s : Session} {config : Config} {conv : Convention} {mark : Char}

/-- Inserting a heading adds it to the outline. -/
theorem run_insertHeading_adds (valid : config.Valid) (inside : s.document.PointInside)
    (hconv : s.document.convention config = .ok conv) (hmark : conv.mark = [mark])
    (hvisible : isBlank mark = false) {level? : Option Int} {respectContent : Bool}
    (hran : (s.run config (.insertHeading level? respectContent)).2 = .ok (.flag true)) :
    let d' := (s.run config (.insertHeading level? respectContent)).1.document
    d'.convention config = .ok conv ∧ s.document.AddsHeading d' conv
      (s.document.insertLevel conv level?) (s.document.SplitsAt respectContent) := by
  obtain ⟨n, c, line, hpoint, hline, hcolumn⟩ := pointInside_iff.mp inside
  obtain ⟨hpos, first, last, run, hstart, hstop, hwrite, h⟩ :=
    run_insertHeading valid hconv hpoint hline hcolumn hran
  have hspot := spotFor_insertSpot hpoint hline hcolumn conv respectContent
  have hconfig := (convention_eq_ok hconv).2
  rw [← hconfig] at hwrite
  refine ⟨(convention_congr h.language config).trans hconv, ?_⟩
  refine h.adds hmark hvisible (hconfig ▸ valid.baseLevel_pos)
    (fun _ => isIndenting_of_mem_insertIndentation) hpos hwrite
    (fun hopen i => hspot.rel_stays h hopen hmark hvisible hline hstart fun heading hread hlt
      hrespect => (splitsAt_iff hpoint hread.line_eq).mpr ⟨hrespect, rfl, hlt⟩)
    fun i => hspot.headingOn?_taken hmark hvisible hline hstart hstop

/-- Inserting a heading below another one adds it to the outline. -/
theorem run_insertSubheading_adds (valid : config.Valid) (inside : s.document.PointInside)
    (hconv : s.document.convention config = .ok conv) (hmark : conv.mark = [mark])
    (hvisible : isBlank mark = false)
    (hran : (s.run config .insertSubheading).2 = .ok (.flag true)) :
    let d' := (s.run config .insertSubheading).1.document
    d'.convention config = .ok conv ∧
      ∃ n line heading, s.document.AtHeading config conv n line heading ∧
        s.document.AddsHeading d' conv (heading.level + 1) fun _ => False := by
  obtain ⟨n, line, heading, run, hat, hwrite, h⟩ := run_insertSubheading valid hconv inside hran
  refine ⟨(convention_congr h.language config).trans hconv, n, line, heading, hat, ?_⟩
  have hfrom := hat.readFrom
  have hlevel := hfrom.level_pos
  have hrun : heading.level + 1 + conv.config.baseLevel - 1 = heading.run + 1 := by
    rw [hfrom.level_eq_run]
    omega
  refine h.adds hmark hvisible (hat.config_eq ▸ valid.baseLevel_pos) hfrom.indenting (by omega)
    (hrun ▸ hwrite) (fun hopen i hi => ?_) fun i hlow hhigh => ?_
  · refine h.rel_placeIn (fun j hattached => ?_) (h.open_behind_kept hopen) hi
    exact hattached.behindClosed_ne hat.get (Convention.isHeading_iff.mpr ⟨_, hfrom.level_eq⟩)
  · dsimp only [List.length_nil] at hlow
    omega

/-- **An insertion adds exactly one heading**, when the comment character is a single visible one:
the new heading is at point and on the level that is asked for, and all old headings come through,
with keyword and title, except for that which is split. -/
theorem run_insert_adds (valid : config.Valid) (inside : s.document.PointInside)
    (hconv : s.document.convention config = .ok conv) (hmark : conv.mark = [mark])
    (hvisible : isBlank mark = false) :
    (∀ level? respectContent,
      (s.run config (.insertHeading level? respectContent)).2 = .ok (.flag true) →
      let d' := (s.run config (.insertHeading level? respectContent)).1.document
      d'.convention config = .ok conv ∧ s.document.AddsHeading d' conv
        (s.document.insertLevel conv level?) (s.document.SplitsAt respectContent)) ∧
    ((s.run config .insertSubheading).2 = .ok (.flag true) →
      let d' := (s.run config .insertSubheading).1.document
      d'.convention config = .ok conv ∧
        ∃ n line heading, s.document.AtHeading config conv n line heading ∧
          s.document.AddsHeading d' conv (heading.level + 1) fun _ => False) :=
  ⟨fun _ _ => run_insertHeading_adds valid inside hconv hmark hvisible,
    run_insertSubheading_adds valid inside hconv hmark hvisible⟩

/-- A heading with a keyword and a closed line is split, and a heading is put below another one. -/
theorem run_insert_adds_split :
    let s := (create (Document.ofText
      "/// A\n//// DONE B c\n  // CLOSED: [2024-01-02 Tue 10:30]\n//// D".toList
      (Language.named? "c".toList) none)).setPoint { line := 1, column := 12 }
    let conv : Convention := ⟨['/'], {}⟩
    Config.Valid {} ∧ s.document.PointInside ∧ s.document.convention {} = .ok conv ∧
      conv.mark = ['/'] ∧ isBlank '/' = false ∧
      (s.run {} (.insertHeading none false)).2 = .ok (.flag true) ∧
      (s.run {} .insertSubheading).2 = .ok (.flag true) ∧
      (∃ new, s.document.HeadingAdded (s.run {} (.insertHeading none false)).1.document conv 2
        (s.document.SplitsAt false) new) ∧
      ∃ new, s.document.HeadingAdded (s.run {} .insertSubheading).1.document conv 3
        (fun _ => False) new := by
  intro s conv
  have valid : Config.Valid {} := Settings.valid_of_check (s := .defaults) rfl
  have inside : s.document.PointInside := by decide
  have hconv : s.document.convention {} = .ok conv := rfl
  have hsplit : (s.run {} (.insertHeading none false)).2 = .ok (.flag true) := by decide
  have hbelow : (s.run {} .insertSubheading).2 = .ok (.flag true) := by decide
  have hbase : 3 ≤ conv.config.baseLevel := by decide
  have hlevel : s.document.insertLevel conv none = 2 := by decide
  obtain ⟨hheading, hsubheading⟩ := run_insert_adds valid inside hconv rfl (by decide)
  obtain ⟨-, line, -, hopen, hadded⟩ := hheading none false hsplit
  obtain ⟨-, n, text, heading, hat, other, -, hother, hgrown⟩ := hsubheading hbelow
  have hpoint : (n : Int) = 1 := hat.point.symm
  obtain rfl : n = 1 := by omega
  obtain rfl : text = "//// DONE B c".toList := Option.some.inj (hat.get.symm.trans rfl)
  have htwo : heading.level = 2 := by
    have hread : conv.level? "//// DONE B c".toList = some 2 := by decide
    exact Option.some.inj (hat.readFrom.level_eq.symm.trans hread)
  rw [hlevel] at hadded
  rw [htwo] at hgrown
  exact ⟨valid, inside, hconv, rfl, by decide, hsplit, hbelow, hadded (hopen hbase),
    hgrown (hother hbase)⟩

/-- The comment character is a form feed, which is a blank but opens no line. Splitting behind the
comment run of a heading leaves nothing of the heading: the outline does not grow. -/
theorem run_insertHeading_loses_heading :
    let language : Language :=
      { name := "feed".toList, classes := [(['\x0c'], "comment-start".toList)] }
    let s := (create (Document.ofText "\x0c\x0c\x0c A".toList (some language) none)).setPoint
      { line := 0, column := 4 }
    let d' := (s.run {} (.insertHeading none false)).1.document
    ∃ conv, Config.Valid {} ∧ s.document.PointInside ∧ s.document.convention {} = .ok conv ∧
      conv.mark = ['\x0c'] ∧ '\x0c' ≠ ' ' ∧ '\x0c' ≠ '\t' ∧
      (s.run {} (.insertHeading none false)).2 = .ok (.flag true) ∧
      d'.lines = [[], "\x0c\x0c\x0c A".toList] ∧ d'.point = { line := 1, column := 4 } ∧
      conv.isClosed "\x0c\x0c\x0c A".toList = false ∧
      (conv.headings s.document.lines).length = 1 ∧ (conv.headings d'.lines).length = 1 := by
  intro language s d'
  have valid : Config.Valid {} := Settings.valid_of_check (s := .defaults) rfl
  refine ⟨⟨['\x0c'], {}⟩, valid, ?_⟩
  decide

end Session

end SourceOutline
