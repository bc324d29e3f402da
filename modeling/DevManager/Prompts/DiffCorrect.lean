import DevManager.Prompts.DiffPhases

/-!
# Complete diffs are correct

A diff with the status `Complete` is a patch: its hunks, applied to the lines of the old body,
give those of the new one. `Aligned hunks i j` is the invariant of the comparison, that the
hunks so far and the lines common to both account for the first `i` lines of the old body and
the first `j` of the new one.

* `appendHunk_spec`: what a hunk quotes.
* `compareLoop_left`: the loop keeps the bodies aligned, as long as nothing is approximate.
-/

namespace DevManager.Prompts

open List

/-! ## Patches -/

/-- The lines that a hunk adds. -/
def LineHunk.addedLines (hunk : LineHunk) : List LineSlice :=
  hunk.changes.filterMap fun change => match change.kind with
    | .added => some ⟨change.text, change.terminated⟩
    | .removed => none

/-- One hunk of a patch: the old lines before it are copied, those it removes are skipped, and
those it adds are written. The state is how many old lines are done with, and the output. -/
def applyHunk (old : List LineSlice) (state : ℕ × List LineSlice) (hunk : LineHunk) :
    ℕ × List LineSlice :=
  (hunk.oldStart - 1 + hunk.oldCount,
    state.2 ++ slice old state.1 (hunk.oldStart - 1) ++ hunk.addedLines)

/-- The lines that the hunks make of the old ones. -/
def applyHunks (old : List LineSlice) (hunks : List LineHunk) : List LineSlice :=
  let state := hunks.foldl (applyHunk old) (0, [])
  state.2 ++ old.drop state.1

/-- The changes that quote `count` lines from index `start` on, with their numbers. -/
def quoteLines (change : ℕ → LineSlice → LineChange) (lines : List LineSlice) (start count : ℕ) :
    List LineChange :=
  ((lines.drop start).take count).zipIdx.map fun entry => change (start + entry.2 + 1) entry.1

/-- A hunk that replaces lines of the old body by lines of the new one, and quotes both. -/
structure LineHunk.Fits (old new : List LineSlice) (hunk : LineHunk) : Prop where
  oldStart : 1 ≤ hunk.oldStart
  newStart : 1 ≤ hunk.newStart
  oldEnd : hunk.oldStart - 1 + hunk.oldCount ≤ old.length
  newEnd : hunk.newStart - 1 + hunk.newCount ≤ new.length
  kind : hunk.kind = lineHunkKind hunk.oldCount hunk.newCount
  changes : hunk.changes = quoteLines removedLine old (hunk.oldStart - 1) hunk.oldCount ++
    quoteLines addedLine new (hunk.newStart - 1) hunk.newCount

/-- The first hunk ends before the second begins, in both bodies. -/
def LineHunk.Before (first second : LineHunk) : Prop :=
  first.oldStart + first.oldCount ≤ second.oldStart ∧
    first.newStart + first.newCount ≤ second.newStart

/-- The hunks and the lines common to both account for the first `oldIndex` lines of the old body
and the first `newIndex` of the new one. -/
inductive Aligned (old new : List LineSlice) : List LineHunk → ℕ → ℕ → Prop
  | start : Aligned old new [] 0 0
  | common {hunks oldIndex newIndex line} (h : Aligned old new hunks oldIndex newIndex)
      (hold : old[oldIndex]? = some line) (hnew : new[newIndex]? = some line) :
      Aligned old new hunks (oldIndex + 1) (newIndex + 1)
  | hunk {hunks hunk} (h : Aligned old new hunks (hunk.oldStart - 1) (hunk.newStart - 1))
      (hfits : hunk.Fits old new) :
      Aligned old new (hunks ++ [hunk]) (hunk.oldStart - 1 + hunk.oldCount)
        (hunk.newStart - 1 + hunk.newCount)

section Patches

variable {old new : List LineSlice} {hunks : List LineHunk} {oldIndex newIndex : ℕ}

variable (h : Aligned old new hunks oldIndex newIndex)

include h

theorem Aligned.fits :
    ∀ hunk ∈ hunks, hunk.Fits old new := by
  induction h with
  | start => simp
  | common _ _ _ ih => exact ih
  | hunk _ hfits ih =>
    intro hunk hhunk
    rcases mem_append.mp hhunk with hhunk | hhunk
    · exact ih hunk hhunk
    · rw [mem_singleton.mp hhunk]
      exact hfits

theorem Aligned.ends : ∀ hunk ∈ hunks,
    hunk.oldStart + hunk.oldCount ≤ oldIndex + 1 ∧
      hunk.newStart + hunk.newCount ≤ newIndex + 1 := by
  induction h with
  | start => simp
  | common _ _ _ ih =>
    intro hunk hhunk
    have hends := ih hunk hhunk
    omega
  | @hunk hunks last _ hfits ih =>
    intro hunk hhunk
    rcases mem_append.mp hhunk with hhunk | hhunk
    · have hends := ih hunk hhunk
      omega
    · rw [mem_singleton.mp hhunk]
      have hold := hfits.oldStart
      have hnew := hfits.newStart
      omega

theorem Aligned.ordered :
    hunks.Pairwise LineHunk.Before := by
  induction h with
  | start => exact .nil
  | common _ _ _ ih => exact ih
  | @hunk hunks last h hfits ih =>
    rw [pairwise_append]
    refine ⟨ih, pairwise_singleton _ _, fun first hfst second hsnd => ?_⟩
    rw [mem_singleton.mp hsnd]
    have hends := h.ends first hfst
    have hold := hfits.oldStart
    have hnew := hfits.newStart
    unfold LineHunk.Before
    omega

omit h

theorem filterMap_quoteLines_removed (lines) (start count : ℕ) :
    (quoteLines removedLine lines start count).filterMap (fun change => match change.kind with
      | .added => some (⟨change.text, change.terminated⟩ : LineSlice)
      | .removed => none) = [] := by
  rw [quoteLines, filterMap_map, filterMap_eq_nil_iff]
  exact fun _ _ => rfl

theorem filterMap_quoteLines_added (lines) (start count : ℕ) :
    (quoteLines addedLine lines start count).filterMap (fun change => match change.kind with
      | .added => some (⟨change.text, change.terminated⟩ : LineSlice)
      | .removed => none) = (lines.drop start).take count := by
  have hsome : ((fun change : LineChange => match change.kind with
      | .added => some (⟨change.text, change.terminated⟩ : LineSlice)
      | .removed => none) ∘ fun entry : LineSlice × ℕ =>
        addedLine (start + entry.2 + 1) entry.1) = fun entry => some entry.1 := rfl
  rw [quoteLines, filterMap_map, hsome, filterMap_eq_map', zipIdx_map_fst]

theorem LineHunk.Fits.addedLines_eq {hunk : LineHunk} (h : hunk.Fits old new) :
    hunk.addedLines = (new.drop (hunk.newStart - 1)).take hunk.newCount := by
  rw [LineHunk.addedLines, h.changes, filterMap_append, filterMap_quoteLines_removed,
    filterMap_quoteLines_added, nil_append]

theorem Aligned.applied (h : Aligned old new hunks oldIndex newIndex) :
    (hunks.foldl (applyHunk old) (0, [])).1 ≤ oldIndex ∧
      (hunks.foldl (applyHunk old) (0, [])).2 ++
        slice old (hunks.foldl (applyHunk old) (0, [])).1 oldIndex = new.take newIndex := by
  induction h with
  | start => exact ⟨le_rfl, by simp [slice]⟩
  | common _ hold hnew ih =>
    obtain ⟨hle, heq⟩ := ih
    refine ⟨Nat.le_succ_of_le hle, ?_⟩
    obtain ⟨hlt, rfl⟩ := List.getElem?_eq_some_iff.mp hnew
    rw [slice_succ hle hold, ← append_assoc, heq, take_succ_eq_append_getElem hlt]
  | @hunk hunks hunk _ hfits ih =>
    obtain ⟨-, heq⟩ := ih
    rw [foldl_append]
    refine ⟨le_rfl, ?_⟩
    have hnil : slice old (hunk.oldStart - 1 + hunk.oldCount)
        (hunk.oldStart - 1 + hunk.oldCount) = [] :=
      drop_eq_nil_of_le (length_take_le _ _)
    show _ ++ slice old _ (hunk.oldStart - 1) ++ hunk.addedLines ++ slice old
      (hunk.oldStart - 1 + hunk.oldCount) (hunk.oldStart - 1 + hunk.oldCount) = _
    rw [hnil, append_nil, heq, hfits.addedLines_eq, ← take_add]

theorem Aligned.applyHunks_eq (h : Aligned old new hunks old.length new.length) :
    applyHunks old hunks = new := by
  obtain ⟨-, heq⟩ := h.applied
  rw [slice, take_length, take_length] at heq
  exact heq

end Patches

/-! ## Hunks -/

section Hunks

variable {old new : List LineSlice} {hunks : List LineHunk}

/-- The hunk that replaces one range of lines by another. -/
def hunkOf (old new : List LineSlice) (oldStart oldEnd newStart newEnd : ℕ) : LineHunk where
  oldStart := oldStart + 1
  oldCount := oldEnd - oldStart
  newStart := newStart + 1
  newCount := newEnd - newStart
  kind := lineHunkKind (oldEnd - oldStart) (newEnd - newStart)
  changes := quoteLines removedLine old oldStart (oldEnd - oldStart) ++
    quoteLines addedLine new newStart (newEnd - newStart)

variable {oldStart oldEnd newStart newEnd : ℕ}

theorem hunkOf_oldEnd (hold : oldStart ≤ oldEnd) :
    (hunkOf old new oldStart oldEnd newStart newEnd).oldStart - 1 +
      (hunkOf old new oldStart oldEnd newStart newEnd).oldCount = oldEnd := by
  show oldStart + 1 - 1 + (oldEnd - oldStart) = oldEnd
  omega

theorem hunkOf_newEnd (hnew : newStart ≤ newEnd) :
    (hunkOf old new oldStart oldEnd newStart newEnd).newStart - 1 +
      (hunkOf old new oldStart oldEnd newStart newEnd).newCount = newEnd := by
  show newStart + 1 - 1 + (newEnd - newStart) = newEnd
  omega

theorem fits_hunkOf (hold : oldStart ≤ oldEnd)
    (hnew : newStart ≤ newEnd) (holdEnd : oldEnd ≤ old.length) (hnewEnd : newEnd ≤ new.length) :
    (hunkOf old new oldStart oldEnd newStart newEnd).Fits old new := by
  refine ⟨Nat.succ_pos _, Nat.succ_pos _, ?_, ?_, rfl, rfl⟩
  · rw [hunkOf_oldEnd hold]
    exact holdEnd
  · rw [hunkOf_newEnd hnew]
    exact hnewEnd

variable {change : ℕ → LineSlice → LineChange} {lines : List LineSlice}

theorem quoteLines_succ {start count : ℕ} (h : start + count < lines.length) :
    quoteLines change lines start (count + 1) = quoteLines change lines start count ++
      [change (start + count + 1) (lines.getD (start + count) default)] := by
  have hlt : count < (lines.drop start).length := by
    rw [length_drop]
    omega
  have hline : lines.getD (start + count) default = (lines.drop start)[count] := by
    rw [getElem_drop, getD_eq_getElem _ _ h]
  rw [hline, quoteLines, take_succ_eq_append_getElem hlt, zipIdx_append, map_append,
    length_take, min_eq_left hlt.le, Nat.zero_add]
  rfl

theorem modify_concat {α : Type} (f : α → α) (xs : List α) (x : α) :
    (xs ++ [x]).modify xs.length f = xs ++ [f x] := by
  induction xs with
  | nil => rfl
  | cons y xs ih => simp [ih]

theorem appendLineChange_spec
    {index : ℕ} {hunk work} (hwork : work.result.hunks = hunks ++ [hunk]) :
    Wp (appendLineChange hunks.length lines change index)
      (fun _ work' => work'.result.hunks = hunks ++ [{ hunk with
        changes := hunk.changes ++ [change (index + 1) (lines.getD index default)] }])
      (fun _ _ => True) work := by
  unfold appendLineChange
  rw [wp_bind]
  refine ((keeps_onBudget PromptDiff.hunks _).wp work).imp (fun _ work hkept => ?_)
    fun _ _ _ => trivial
  replace hwork : work.result.hunks = _ := hkept.trans hwork
  rw [wp_bind]
  refine ((keeps_reserve PromptDiff.hunks _).wp work).imp (fun _ work hkept => ?_)
    fun _ _ _ => trivial
  replace hwork : work.result.hunks = _ := hkept.trans hwork
  rw [wp_bind]
  refine (copyWithCancellation_spec _).imp (fun copied work h => ?_) fun _ _ _ => trivial
  obtain ⟨rfl, hkept⟩ := h
  rw [← hkept] at hwork
  unfold pushChange
  rw [wp_modify]
  show work.result.hunks.modify hunks.length _ = _
  rw [hwork, modify_concat]

theorem appendSide_spec
    {start stop : ℕ} (hstop : stop ≤ lines.length) {hunk work}
    (hwork : work.result.hunks = hunks ++ [hunk]) :
    Wp ((List.range' start (stop - start)).forM (appendLineChange hunks.length lines change))
      (fun _ work' => work'.result.hunks = hunks ++ [{ hunk with
        changes := hunk.changes ++ quoteLines change lines start (stop - start) }])
      (fun _ _ => True) work := by
  have hrule := Wp.forM (R := fun (_ : PhaseStop) (_ : DiffWork) => True)
    (f := appendLineChange hunks.length lines change)
    (P := fun rest work => ∃ count, count ≤ stop - start ∧
      rest = List.range' (start + count) (stop - start - count) ∧
      work.result.hunks = hunks ++ [{ hunk with
        changes := hunk.changes ++ quoteLines change lines start count }])
    (fun index rest work h => ?_) (List.range' start (stop - start)) (s := work)
    ⟨0, Nat.zero_le _, rfl, by rw [hwork]; simp [quoteLines]⟩
  · refine hrule.imp (fun _ work h => ?_) fun _ _ h => h
    obtain ⟨count, hle, hrest, hwork⟩ := h
    have hlen := congrArg List.length hrest
    rw [length_nil, length_range'] at hlen
    rwa [show count = stop - start by omega] at hwork
  · obtain ⟨count, hle, hrest, hwork⟩ := h
    have hlen := congrArg List.length hrest
    rw [length_cons, length_range'] at hlen
    have hcount : stop - start - count = (stop - start - (count + 1)) + 1 := by omega
    rw [hcount, range'_succ] at hrest
    obtain ⟨rfl, rfl⟩ := List.cons.inj hrest
    refine (appendLineChange_spec hwork).imp (fun _ work' h => ?_) fun _ _ h => h
    refine ⟨count + 1, by omega, rfl, ?_⟩
    rw [h, quoteLines_succ (by omega), append_assoc]

theorem keepsHunks_appendInlineSpan (pair) (graphemes)
    (start stop : ℕ) (kind) :
    Keeps (fun work => work.result.hunks) (appendInlineSpan pair graphemes start stop kind) := by
  intro hunks
  unfold appendInlineSpan
  refine maintains_ite (maintains_pure _) ?_
  refine (keeps_onBudget _ _ hunks).bind fun _ => (keeps_reserve _ _ hunks).bind fun _ => ?_
  exact (keeps_copy _ _ hunks).bind fun _ => maintains_modify fun _ h => h

variable [UnicodeSegmentation]

theorem keepsHunks_appendInlineSpans (pair) :
    Keeps (fun work => work.result.hunks) (appendInlineSpans pair) :=
  fun hunks => maintains_appendInlineSpans (fun _ _ h => h) (fun _ h => h)
    fun _ _ _ _ _ => keepsHunks_appendInlineSpan _ _ _ _ _ hunks

theorem appendHunk_spec (hsome : oldStart < oldEnd ∨ newStart < newEnd) (hold : oldEnd ≤ old.length)
    (hnew : newEnd ≤ new.length) {work} (hwork : work.result.hunks = hunks) :
    Wp (appendHunk old new oldStart oldEnd newStart newEnd)
      (fun _ work' => work'.result.hunks = hunks ++
        [hunkOf old new oldStart oldEnd newStart newEnd])
      (fun _ _ => True) work := by
  unfold appendHunk
  rw [if_neg (by omega), wp_bind]
  refine ((keeps_reserve PromptDiff.hunks _).wp work).imp (fun _ work hkept => ?_)
    fun _ _ _ => trivial
  replace hwork : work.result.hunks = _ := hkept.trans hwork
  rw [wp_bind, wp_get, wp_bind, wp_set, wp_bind]
  unfold appendLineChanges
  rw [wp_bind, hwork]
  refine (appendSide_spec hold rfl).imp (fun _ work hwork => ?_) fun _ _ h => h
  refine (appendSide_spec hnew hwork).imp (fun _ work hwork => ?_) fun _ _ h => h
  exact (Maintains.foldlM (fun _ _ _ => (keepsHunks_appendInlineSpans _ _).bind fun _ =>
    maintains_pure _) _ work hwork).imp (fun _ _ h => h) fun _ _ _ => trivial

end Hunks

/-! ## The comparison -/

/-- What the comparison knows while nothing is approximate: the bodies are aligned, and equal
bodies have no hunk. -/
def Exact (old new : List LineSlice) (oldIndex newIndex : ℕ) (approximate : Bool)
    (work : DiffWork) : Prop :=
  approximate = false → Aligned old new work.result.hunks oldIndex newIndex ∧
    (old = new → work.result.hunks = [] ∧ oldIndex = newIndex)

section Compare

variable {old new : List LineSlice} {oldIndex newIndex : ℕ} {approximate : Bool} {work : DiffWork}

theorem finishTruncated_status : (finishTruncated work approximate).status ≠ .complete := by
  unfold finishTruncated
  dsimp only
  split_ifs <;> exact DiffStatus.noConfusion

theorem finishComparison_complete (h : (finishComparison approximate work).status = .complete) :
    approximate = false ∧ (finishComparison approximate work).hunks = work.result.hunks := by
  unfold finishComparison at h ⊢
  cases hlook : runOn observeCancellation work.budget with
  | mk result budget =>
    rw [hlook] at h
    cases result with
    | error stop => cases h
    | ok _ =>
      cases approximate with
      | true => cases h
      | false => exact ⟨rfl, rfl⟩

theorem exact_of_approximate : Exact old new oldIndex newIndex true work := Bool.noConfusion

variable [UnicodeSegmentation]

theorem Exact.hunk {oldEnd newEnd : ℕ} {budget} {a : Bool} {work'}
    {approximate' : Bool} (h : Exact old new oldIndex newIndex approximate work)
    (hkept : approximate' = false → approximate = false)
    (hdiffer : oldIndex = newIndex → old ≠ new) (hsome : oldIndex < oldEnd ∨ newIndex < newEnd)
    (hold : oldIndex ≤ oldEnd) (hnew : newIndex ≤ newEnd) (holdEnd : oldEnd ≤ old.length)
    (hnewEnd : newEnd ≤ new.length)
    (hrun : runOn (appendHunk old new oldIndex oldEnd newIndex newEnd)
      { work with budget } = (.ok a, work')) :
    Exact old new oldEnd newEnd approximate' work' := by
  intro hexact
  obtain ⟨haligned, hequal⟩ := h (hkept hexact)
  have hwork : ({ work with budget } : DiffWork).result.hunks = work.result.hunks := rfl
  have hhunks := (appendHunk_spec hsome holdEnd hnewEnd hwork).of_ok hrun
  have hnext := Aligned.hunk haligned (fits_hunkOf hold hnew holdEnd hnewEnd)
  rw [hunkOf_oldEnd hold, hunkOf_newEnd hnew] at hnext
  refine ⟨?_, fun heq => absurd heq (hdiffer (hequal heq).2)⟩
  rw [hhunks]
  exact hnext

/-- A round ends with a result that is not complete, or leaves locals with `P`. -/
def RoundEnd.Ends (P : ℕ → ℕ → Bool → DiffWork → Prop) : RoundEnd → Prop
  | .returned result => result.status ≠ .complete
  | .left oldIndex newIndex approximate work => P oldIndex newIndex approximate work

/-- The comparison is still exact, and further on. -/
def Further (old new : List LineSlice) (oldIndex newIndex oldIndex' newIndex' : ℕ)
    (approximate : Bool) (work : DiffWork) : Prop :=
  Exact old new oldIndex' newIndex' approximate work ∧ oldIndex' ≤ old.length ∧
    newIndex' ≤ new.length ∧ oldIndex ≤ oldIndex' ∧ newIndex ≤ newIndex' ∧
    oldIndex + newIndex < oldIndex' + newIndex'

/-- The comparison is still exact, and unless it is approximate one body is at its end. -/
def Read (old new : List LineSlice) (oldIndex newIndex : ℕ) (approximate : Bool)
    (work : DiffWork) : Prop :=
  Exact old new oldIndex newIndex approximate work ∧ oldIndex ≤ old.length ∧
    newIndex ≤ new.length ∧
    (approximate = false → oldIndex = old.length ∨ newIndex = new.length)

theorem compareRegion_sound (h : Exact old new oldIndex newIndex approximate work)
    (hdiffer : oldIndex = newIndex → old ≠ new) (hold : oldIndex < old.length)
    (hnew : newIndex < new.length) :
    (compareRegion old new oldIndex newIndex approximate work).Ends
      (Further old new oldIndex newIndex) := by
  have hend : oldIndex ≤ old.length ∧ newIndex ≤ new.length ∧
      oldIndex + newIndex < old.length + new.length := by omega
  unfold compareRegion
  split
  next anchorOld anchorNew budget hanchor =>
    obtain ⟨hle, hle', hlt, hins, hin'⟩ :=
      ((findLineAnchor_spec hold hnew).of_ok hanchor) _ rfl
    dsimp only at hle hle' hlt hins hin'
    split
    next wasApproximate work' hrun =>
      exact ⟨h.hunk (by cases approximate <;> simp) hdiffer (by omega) hle hle' hins.le
        hin'.le hrun, hins.le, hin'.le, hle, hle', hlt⟩
    next => exact DiffStatus.noConfusion
    next => exact DiffStatus.noConfusion
    next => exact finishTruncated_status
  next budget _ =>
    dsimp only
    split
    next wasApproximate work' hrun =>
      refine ⟨h.hunk (fun hexact => ?_) hdiffer (.inl hold) hold.le hnew.le le_rfl le_rfl hrun,
        le_rfl, le_rfl, hend⟩
      cases approximate with
      | false => rfl
      | true => simp at hexact
    next => exact DiffStatus.noConfusion
    next => exact ⟨exact_of_approximate, le_rfl, le_rfl, hend⟩
    next => exact finishTruncated_status
  next => exact DiffStatus.noConfusion
  next budget _ =>
    split
    next => exact ⟨exact_of_approximate, le_rfl, le_rfl, hend⟩
    next => exact DiffStatus.noConfusion
    next => exact ⟨exact_of_approximate, le_rfl, le_rfl, hend⟩
    next => exact finishTruncated_status

theorem compareLoop_left (fuel : ℕ) : ∀ {oldIndex newIndex : ℕ} {approximate : Bool}
    {work : DiffWork}, Exact old new oldIndex newIndex approximate work →
    oldIndex ≤ old.length → newIndex ≤ new.length →
    old.length - oldIndex + (new.length - newIndex) ≤ fuel →
    (compareLoop old new fuel oldIndex newIndex approximate work).Ends (Read old new) := by
  induction fuel with
  | zero =>
    intro oldIndex newIndex approximate work h hold hnew hfuel
    exact ⟨h, hold, hnew, fun _ => .inl (by omega)⟩
  | succ fuel ih =>
    intro oldIndex newIndex approximate work h hold hnew hfuel
    unfold compareLoop
    split_ifs with hins
    · obtain ⟨hlt, hlt'⟩ := hins
      have holdLine : old[oldIndex]? = some (old.getD oldIndex default) := by
        rw [getD_eq_getElem _ _ hlt, getElem?_eq_getElem hlt]
      have hnewLine : new[newIndex]? = some (new.getD newIndex default) := by
        rw [getD_eq_getElem _ _ hlt', getElem?_eq_getElem hlt']
      have hcompared := @linesEqual_spec work.budget (old.getD oldIndex default)
        (new.getD newIndex default)
      split
      next budget hrun =>
        -- the lines are equal
        have hsame := (hcompared.of_ok hrun).mp rfl
        refine ih (fun hexact => ?_) hlt hlt' (by omega)
        obtain ⟨haligned, hequal⟩ := h hexact
        rw [← hsame] at hnewLine
        exact ⟨haligned.common holdLine hnewLine,
          fun heq => ⟨(hequal heq).1, congrArg Nat.succ (hequal heq).2⟩⟩
      next budget hrun =>
        -- the lines differ
        have hne : old.getD oldIndex default ≠ new.getD newIndex default := by
          intro heq
          exact Bool.false_ne_true ((hcompared.of_ok hrun).mpr heq)
        have hdiffer : oldIndex = newIndex → old ≠ new := by
          rintro rfl rfl
          exact hne rfl
        have hkept : Exact old new oldIndex newIndex
            (approximate || largeHeuristicInput old new) { work with budget } :=
          fun hexact => h (Bool.or_eq_false_iff.mp hexact).1
        have hsound := compareRegion_sound hkept hdiffer hlt hlt'
        split
        next result hret =>
          rw [hret] at hsound
          exact hsound
        next oldIndex' newIndex' approximate' work' hleft =>
          rw [hleft] at hsound
          obtain ⟨hexact, hle, hle', hmono, hmono', hprogress⟩ := hsound
          exact ih hexact hle hle' (by omega)
      next => exact DiffStatus.noConfusion
      next => exact ⟨exact_of_approximate, hold, hnew, Bool.noConfusion⟩
    · exact ⟨h, hold, hnew, fun _ => by omega⟩

theorem compareRest_exact (hread : Read old new oldIndex newIndex approximate work) :
    (compareRest old new oldIndex newIndex approximate work).Ends
      (fun _ _ => Exact old new old.length new.length) := by
  obtain ⟨h, hold, hnew, hend⟩ := hread
  unfold compareRest
  split_ifs with hrest
  · dsimp only
    split
    next wasApproximate work' hrun =>
      intro hexact
      have hkept : approximate = false := by
        cases approximate with
        | false => rfl
        | true => simp at hexact
      have hdiffer : oldIndex = newIndex → old ≠ new := by
        rintro rfl rfl
        have hread := hend hkept
        omega
      have hrun' : runOn (appendHunk old new oldIndex old.length newIndex new.length)
          { work with budget := work.budget } = (.ok wasApproximate, work') := hrun
      exact h.hunk (fun _ => hkept) hdiffer hrest hold hnew le_rfl le_rfl hrun' hexact
    next => exact DiffStatus.noConfusion
    next => exact exact_of_approximate
    next => exact finishTruncated_status
  · rw [not_or, not_lt, not_lt] at hrest
    obtain rfl : oldIndex = old.length := by omega
    obtain rfl : newIndex = new.length := by omega
    exact h

theorem compareLines_complete (hwork : work.result.hunks = [])
    (h : (compareLines old new work).status = .complete) :
    Aligned old new (compareLines old new work).hunks old.length new.length ∧
      (old = new → (compareLines old new work).hunks = []) := by
  have hstart : Exact old new 0 0 false work := by
    intro _
    rw [hwork]
    exact ⟨.start, fun _ => ⟨rfl, rfl⟩⟩
  have hloop := compareLoop_left (old.length + new.length) hstart (Nat.zero_le _) (Nat.zero_le _)
    (by omega)
  unfold compareLines at h ⊢
  cases hleft : compareLoop old new (old.length + new.length) 0 0 false work with
  | returned result =>
    rw [hleft] at hloop h
    exact absurd h hloop
  | left oldIndex newIndex approximate work =>
    rw [hleft] at hloop h
    have hrest := compareRest_exact hloop
    dsimp only at h ⊢
    cases hdone : compareRest old new oldIndex newIndex approximate work with
    | returned result =>
      rw [hdone] at hrest h
      exact absurd h hrest
    | left oldIndex newIndex approximate work =>
      rw [hdone] at hrest h
      obtain ⟨hexact, hhunks⟩ := finishComparison_complete h
      obtain ⟨haligned, hequal⟩ := hrest hexact
      dsimp only
      rw [hhunks]
      exact ⟨haligned, fun heq => (hequal heq).1⟩

end Compare

section Diff

variable [UnicodeSegmentation] [Externals]

theorem diffVersionsWithBudget_complete {old new budget}
    (h : (diffVersionsWithBudget old new budget).status = .complete) :
    Aligned (normalizedLines old) (normalizedLines new)
        (diffVersionsWithBudget old new budget).hunks (normalizedLines old).length
        (normalizedLines new).length ∧
      (normalizedLines old = normalizedLines new →
        (diffVersionsWithBudget old new budget).hunks = []) := by
  unfold diffVersionsWithBudget at h ⊢
  split_ifs at h ⊢ with hbytes
  · cases h
  split at h
  · cases h
  next budget _ =>
    split at h
    · cases h
    · cases h
    next oldHash newHash budget _ =>
      dsimp only at h ⊢
      split at h
      · cases h
      · cases h
      next oldLines newLines budget' hscan =>
        obtain ⟨rfl, rfl⟩ := Prod.mk.inj ((scanBodies_spec old new).of_ok hscan)
        exact compareLines_complete rfl h

/-- A complete diff is a patch: its hunks are in order and apart, quote the lines they are about,
and make the new body of the old one; there are none exactly when the bodies are the same. -/
theorem complete_diff_correct (old new : List UInt8) (budget : DiffBudget)
    (h : (diffVersionsWithBudget old new budget).status = .complete) :
    applyHunks (normalizedLines old) (diffVersionsWithBudget old new budget).hunks =
        normalizedLines new ∧
      (∀ hunk ∈ (diffVersionsWithBudget old new budget).hunks,
        hunk.Fits (normalizedLines old) (normalizedLines new)) ∧
      (diffVersionsWithBudget old new budget).hunks.Pairwise LineHunk.Before ∧
      ((diffVersionsWithBudget old new budget).hunks = [] ↔
        normalizeBody old = normalizeBody new) := by
  obtain ⟨haligned, hequal⟩ := diffVersionsWithBudget_complete h
  refine ⟨haligned.applyHunks_eq, haligned.fits, haligned.ordered, fun hnone => ?_, fun hsame => ?_⟩
  · have happ := haligned.applyHunks_eq
    rw [hnone] at happ
    exact normalizedLines_inj.mp happ
  · exact hequal (normalizedLines_inj.mpr hsame)

end Diff

section Sample

attribute [local instance] sampleExternals

@[reducible] def sampleSegmentation : UnicodeSegmentation where
  graphemes line := line.map fun byte => [byte]

attribute [local instance] sampleSegmentation

/-- The second line of `a`, `b` is replaced by `c`. -/
theorem complete_diff_correct_replaced :
    applyHunks (normalizedLines [97, 10, 98, 10])
        (diffVersions [97, 10, 98, 10] [97, 13, 10, 99, 10]).hunks =
      normalizedLines [97, 13, 10, 99, 10] ∧
      (diffVersions [97, 10, 98, 10] [97, 13, 10, 99, 10]).hunks ≠ [] := by
  have hstatus : (diffVersions [97, 10, 98, 10] [97, 13, 10, 99, 10]).status = .complete := by
    decide +kernel
  obtain ⟨happ, -, -, hnone⟩ := complete_diff_correct _ _ _ hstatus
  exact ⟨happ, fun h => absurd (hnone.mp h) (by decide)⟩

end Sample

end DevManager.Prompts
