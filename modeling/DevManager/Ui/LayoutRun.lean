import DevManager.Ui.LayoutValid

/-!
# The pane workspace over whole runs

Half of the calls on a workspace edit it in place and never `validate` it; the other
half refuse a copy that does not `validate`. One broken edit of the first kind would
therefore make every later one of the second kind fail. `WellFormed` is what
`validate` accepts, and every call keeps it, whatever the order.

* `validate_eq_ok`: `validate` accepts the well-formed workspaces.
-/

namespace DevManager

open List Calls

/-- The edits of one or two panes in a copy of the tree that is then checked. -/
def WorkspaceEdit.isPaneEdit {K : Type} : WorkspaceEdit K → Bool
  | insertBeside .. | removePane _ | swapPanes .. | movePane .. => true
  | _ => false

namespace Workspace

open WorkspaceNode

variable {K : Type}

/-! ## Well-formed workspaces -/

/-- The ids of the panes. -/
def paneIds (w : Workspace K) : List PaneId := (panesOf w.root).map TaskPane.id

/-- The ids of the splits. -/
def splitIds (w : Workspace K) : List SplitId := splitIdsOf w.root

/-- What `validate` accepts. -/
structure WellFormed (w : Workspace K) : Prop where
  tree : ∀ root ∈ w.root, root.Valid
  hasFocus : w.root.isSome = true → w.focused.isSome = true
  focused : ∀ paneId ∈ w.focused, paneId ∈ w.paneIds
  previous : ∀ paneId ∈ w.previousFocus, paneId ∈ w.paneIds ∧ w.focused ≠ some paneId
  zoomed : ∀ paneId ∈ w.zoomed, paneId ∈ w.paneIds

section Basic

variable {w : Workspace K} {root : WorkspaceNode K} {id : PaneId} {p : TaskPane K}

theorem paneIds_of_root (h : w.root = some root) :
    w.paneIds = root.collectPanes.map TaskPane.id := by
  rw [paneIds, h]
  rfl

theorem splitIds_of_root (h : w.root = some root) : w.splitIds = root.splitIds := by
  rw [splitIds, h]
  rfl

theorem paneIds_of_none (h : w.root = none) : w.paneIds = [] := by
  rw [paneIds, h]
  rfl

theorem mem_paneIds_iff : id ∈ w.paneIds ↔ (w.pane id).isSome = true := by
  unfold pane
  cases h : w.root with
  | none => simp [paneIds_of_none h]
  | some root =>
    rw [paneIds_of_root h, Option.bind_some]
    show _ ↔ root.containsPane id = true
    rw [containsPane_iff, mem_map]

theorem mem_paneIds_of_pane (h : w.pane id = some p) : id ∈ w.paneIds :=
  mem_paneIds_iff.mpr (by rw [h]; rfl)

theorem pane_eq_some (h : w.pane id = some p) :
    ∃ root, w.root = some root ∧ root.findPane id = some p := by
  unfold pane at h
  exact Option.bind_eq_some_iff.mp h

theorem WellFormed.focusedAt (hw : w.WellFormed) (h : w.pane id = some p) :
    p.lastFocusedAt ≠ 0 := by
  obtain ⟨root, hroot, hfind⟩ := pane_eq_some h
  exact (hw.tree root hroot).focused p (findPane_eq_some hfind).1

theorem validate_eq_ok [DecidableEq K] : w.validate = .ok () ↔ w.WellFormed := by
  unfold validate
  cases hroot : w.root with
  | none =>
    simp only [failIf_eq_ok, not_not, Option.isNone_iff_eq_none]
    constructor
    · rintro ⟨hfocus, hpre, hzoomed⟩
      refine ⟨by simp [hroot], by simp [hroot], ?_, ?_, ?_⟩
      · simp [hfocus]
      · simp [hpre]
      · simp [hzoomed]
    · intro h
      have hnil : ∀ paneId, paneId ∉ w.paneIds := by simp [paneIds_of_none hroot]
      refine ⟨?_, ?_, ?_⟩
      · exact Option.eq_none_iff_forall_not_mem.mpr fun paneId hmem =>
          hnil paneId (h.focused paneId hmem)
      · exact Option.eq_none_iff_forall_not_mem.mpr fun paneId hmem =>
          hnil paneId (h.previous paneId hmem).1
      · exact Option.eq_none_iff_forall_not_mem.mpr fun paneId hmem =>
          hnil paneId (h.zoomed paneId hmem)
  | some root =>
    have hids : ∀ paneId, paneId ∈ (Seen.add ⟨[], [], []⟩ root.collectPanes root.splitIds).paneIds ↔
        paneId ∈ w.paneIds := by
      intro paneId
      rw [paneIds_of_root hroot]
      simp [Seen.add]
    simp only [ok_iff, validateNode_empty]
    constructor
    · rintro ⟨seen, ⟨hvalid, rfl⟩, focused, hfocus, hmem, hpre, hzoomed⟩
      simp only [hids, not_exists, not_and, not_or, not_not] at hmem hpre hzoomed
      refine ⟨by simpa [hroot] using hvalid, by simp [hfocus], ?_, ?_, hzoomed⟩
      · rw [hfocus]
        rintro paneId ⟨⟩
        exact hmem
      · intro paneId hpane
        obtain ⟨hne, hmem'⟩ := hpre paneId hpane
        refine ⟨hmem', ?_⟩
        rw [hfocus]
        exact fun heq => hne (Option.some.inj heq).symm
    · intro h
      obtain ⟨focused, hfocus⟩ := Option.isSome_iff_exists.mp (h.hasFocus (by simp [hroot]))
      refine ⟨_, ⟨h.tree root hroot, rfl⟩, focused, hfocus, ?_, ?_, ?_⟩
      · rw [hids]
        exact h.focused focused hfocus
      · rintro ⟨paneId, hpane, hbad⟩
        obtain ⟨hmem, hne⟩ := h.previous paneId hpane
        rcases hbad with rfl | hbad
        · exact hne hfocus
        · exact hbad ((hids paneId).mpr hmem)
      · rintro ⟨paneId, hpane, hbad⟩
        exact hbad ((hids paneId).mpr (h.zoomed paneId hpane))

end Basic

/-! ## What a call may come to -/

/-- The ids that a call draws are new. -/
structure Fresh (w : Workspace K) (ids : FreshIds) : Prop where
  pane : ids.pane ∉ w.paneIds
  split : ∀ i, ids.split i ∉ w.splitIds
  injective : Function.Injective ids.split

/-- A well-formed workspace with no ids but those of `w` and the fresh ones. -/
structure Next (w : Workspace K) (ids : FreshIds) (next : Workspace K) : Prop where
  wellFormed : next.WellFormed
  paneIds : ∀ id ∈ next.paneIds, id ∈ w.paneIds ∨ id = ids.pane
  splitIds : ∀ id ∈ next.splitIds, id ∈ w.splitIds ∨ ∃ i, ids.split i = id

/-- A call fails with one of these errors and leaves `w` as it is, or it leaves a next
workspace. -/
inductive Outcome {ε α : Type} (w : Workspace K) (ids : FreshIds) (errors : ε → Prop) :
    Except ε α × Workspace K → Prop
  | failed (error : ε) (herror : errors error) : Outcome w ids errors (.error error, w)
  | left (value : α) (next : Workspace K) (hnext : Next w ids next) :
      Outcome w ids errors (.ok value, next)

section Next

variable {w next last : Workspace K} {ids : FreshIds}

theorem Next.refl (hw : w.WellFormed) : Next w ids w :=
  ⟨hw, fun _ h => .inl h, fun _ h => .inl h⟩

theorem Next.trans (h : Next w ids next) (h' : Next next ids last) : Next w ids last := by
  refine ⟨h'.wellFormed, fun id hid => ?_, fun id hid => ?_⟩
  · rcases h'.paneIds id hid with hold | hnew
    · exact h.paneIds id hold
    · exact .inr hnew
  · rcases h'.splitIds id hid with hold | hnew
    · exact h.splitIds id hold
    · exact .inr hnew

theorem Next.of_root (hnext : next.WellFormed) (h : next.root = w.root) : Next w ids next := by
  refine ⟨hnext, fun id hid => .inl ?_, fun id hid => .inl ?_⟩
  · rwa [Workspace.paneIds, h] at hid
  · rwa [Workspace.splitIds, h] at hid

theorem Outcome.toNext {ε α : Type} {errors : ε → Prop} {out : Except ε α × Workspace K}
    (h : Outcome w ids errors out) (hw : w.WellFormed) : Next w ids out.2 := by
  cases h with
  | failed => exact .refl hw
  | left value next hnext => exact hnext

end Next

section Commit

variable {ε α : Type} {w next : Workspace K} {ids : FreshIds} {errors : ε → Prop}
  {r : Except ε (α × Workspace K)}

theorem Outcome.commit_ok (value : α) (h : r = .ok (value, next)) (hnext : Next w ids next) :
    Outcome w ids errors (w.commit r) := by
  rw [h]
  exact .left _ _ hnext

theorem commit_eq_ok {value : α} : w.commit r = (.ok value, next) ↔ r = .ok (value, next) := by
  rcases r with error | ⟨value', candidate⟩
  · simp [Workspace.commit]
  · simp [Workspace.commit]

theorem Outcome.commit (h : ∀ value next, r = .ok (value, next) → Next w ids next)
    (herror : ∀ error, errors error) : Outcome w ids errors (w.commit r) := by
  cases r with
  | ok => exact .left _ _ (h _ _ rfl)
  | error => exact .failed _ (herror ..)

theorem Outcome.commit_error (error : ε) (h : r = .error error) (herror : errors error) :
    Outcome w ids errors (w.commit r) := by
  rw [h]
  exact .failed _ herror

end Commit

/-! ## Starting -/

theorem wellFormed_default : (default : Workspace K).WellFormed := by
  refine ⟨?_, ?_, ?_, ?_, ?_⟩
  · nofun
  · nofun
  · nofun
  · nofun
  · nofun

theorem wellFormed_single (id : PaneId) (taskId : K) : (single id taskId).WellFormed := by
  refine ⟨?_, fun _ => rfl, ?_, ?_, ?_⟩
  · rintro root ⟨⟩
    refine ⟨shaped_pane, ?_, ?_, ?_, ?_⟩
    · intro p hp
      rw [collectPanes_pane, mem_singleton] at hp
      rw [hp]
      exact Nat.one_ne_zero
    · exact nodup_singleton id
    · exact nodup_singleton taskId
    · exact nodup_nil
  · rintro paneId ⟨⟩
    exact mem_singleton_self id
  · nofun
  · nofun

theorem single_next (w : Workspace K) (ids : FreshIds) (taskId : K) :
    Next w ids (single ids.pane taskId) := by
  refine ⟨wellFormed_single _ _, fun id hid => .inr ?_, fun id hid => ?_⟩
  · exact mem_singleton.mp hid
  · cases hid

/-! ## Focus and zoom -/

theorem nextFocusClock_ne (clock : ℕ) : nextFocusClock clock ≠ 0 := by
  unfold nextFocusClock
  omega

section Focus

variable {w : Workspace K} {ids : FreshIds} {id : PaneId} {p : TaskPane K}

theorem WellFormed.withRoot {root} (hw : w.WellFormed) (hroot : w.root.isSome = true)
    (hvalid : root.Valid) (hids : ∀ id ∈ w.paneIds, id ∈ root.collectPanes.map TaskPane.id) :
    ({ w with root := some root } : Workspace K).WellFormed := by
  refine ⟨?_, fun _ => hw.hasFocus hroot, fun id hid => ?_, fun id hid => ?_, fun id hid => ?_⟩
  · rintro root' ⟨⟩
    exact hvalid
  · exact hids id (hw.focused id hid)
  · exact ⟨hids id (hw.previous id hid).1, (hw.previous id hid).2⟩
  · exact hids id (hw.zoomed id hid)

theorem updatePane_next (ids : FreshIds) (edit : TaskPane K → TaskPane K) (hw : w.WellFormed)
    (hpane : w.pane id = some p) (hid : (edit p).id = p.id) (hfocus : (edit p).lastFocusedAt ≠ 0)
    (htask : (edit p).taskId = p.taskId ∨ ∀ q ∈ panesOf w.root, q.taskId ≠ (edit p).taskId) :
    ∃ root, w.updatePane id edit = some { w with root := some root } ∧
      Next w ids { w with root := some root } := by
  obtain ⟨root, hroot, hfind⟩ := pane_eq_some hpane
  obtain ⟨root', hupd, hreplaced⟩ := updatePane_of_find edit hfind
  have hvalid := hw.tree root hroot
  have hperm := hreplaced.perm_ids hid
  have hnew : (edit p).taskId = p.taskId ∨
      (edit p).taskId ∉ root.collectPanes.map TaskPane.taskId := by
    refine htask.imp_right fun hnew hmem => ?_
    rw [hroot] at hnew
    obtain ⟨q, hq, heq⟩ := mem_map.mp hmem
    exact hnew q hq heq
  refine ⟨root', ?_, ?_, fun id hid => .inl ?_, fun id hid => .inl ?_⟩
  · rw [updatePane, hroot]
    show (root.updatePane id edit).bind _ = _
    rw [hupd]
    rfl
  · refine hw.withRoot (by simp [hroot]) (hreplaced.valid hvalid hid hfocus hnew) fun id hid => ?_
    rw [paneIds_of_root hroot] at hid
    exact hperm.mem_iff.mpr hid
  · rw [paneIds_of_root hroot]
    exact hperm.mem_iff.mp hid
  · rw [splitIds_of_root hroot, ← hreplaced.splits]
    exact hid

theorem WellFormed.focus (hw : w.WellFormed) (hid : id ∈ w.paneIds) (hne : w.focused ≠ some id)
    (clock : ℕ) :
    ({ w with focusClock := clock, previousFocus := w.focused, focused := some id } :
      Workspace K).WellFormed := by
  refine ⟨hw.tree, fun _ => rfl, ?_, fun previous hpre => ⟨hw.focused previous hpre, ?_⟩, hw.zoomed⟩
  · rintro paneId ⟨⟩
    exact hid
  · intro heq
    cases heq
    exact hne hpre

theorem focusPane_of_pane (ids : FreshIds) (hw : w.WellFormed) (hpane : w.pane id = some p) :
    ∃ next, w.focusPane id = (.ok (), next) ∧ Next w ids next ∧ next.focused = some id := by
  unfold focusPane
  rw [if_neg (by simp [hpane])]
  split_ifs with hfocus
  · exact ⟨w, rfl, .refl hw, hfocus⟩
  · have hmem := mem_paneIds_of_pane hpane
    have hfocused := hw.focus hmem hfocus (nextFocusClock w.focusClock)
    obtain ⟨root, hupd, hnext⟩ := updatePane_next ids
      (fun p => { p with lastFocusedAt := nextFocusClock w.focusClock }) hfocused hpane rfl
      (nextFocusClock_ne _) (.inl rfl)
    simp only [hupd]
    exact ⟨_, rfl, Next.trans (.of_root hfocused rfl) hnext, rfl⟩

theorem focusPane_outcome (hw : w.WellFormed) (id : PaneId) :
    Outcome w ids (· = .missingPane) (w.focusPane id) := by
  cases hpane : w.pane id with
  | none =>
    rw [focusPane, if_pos (by simp [hpane])]
    exact .failed _ rfl
  | some p =>
    obtain ⟨next, heq, hnext, -⟩ := focusPane_of_pane ids hw hpane
    rw [heq]
    exact .left _ _ hnext

theorem WellFormed.withZoom (hw : w.WellFormed) (hid : id ∈ w.paneIds) :
    ({ w with zoomed := some id } : Workspace K).WellFormed := by
  refine ⟨hw.tree, hw.hasFocus, hw.focused, hw.previous, ?_⟩
  rintro paneId ⟨⟩
  exact hid

theorem WellFormed.unzoom (hw : w.WellFormed) : w.unzoom.WellFormed :=
  ⟨hw.tree, hw.hasFocus, hw.focused, hw.previous, by simp [Workspace.unzoom]⟩

theorem zoom_of_pane (ids : FreshIds) (hw : w.WellFormed) (hpane : w.pane id = some p) :
    ∃ next, w.zoom id = (.ok (), next) ∧ Next w ids next := by
  obtain ⟨focused, hfocused, hnext, hid⟩ := focusPane_of_pane ids hw hpane
  have hmem : id ∈ focused.paneIds := hnext.wellFormed.focused id hid
  obtain ⟨q, hq⟩ := Option.isSome_iff_exists.mp (mem_paneIds_iff.mp hmem)
  have hfocus := hnext.wellFormed.focusedAt hq
  obtain ⟨root, hupd, hlast⟩ := updatePane_next ids
    (fun p => { p with presentation := .full }) hnext.wellFormed hq rfl hfocus (.inl rfl)
  have hzoom := hlast.wellFormed.withZoom (hlast.wellFormed.focused id hid)
  refine ⟨_, ?_, (hnext.trans hlast).trans (.of_root hzoom rfl)⟩
  rw [zoom, hfocused]
  simp only [hupd]

theorem zoom_outcome (hw : w.WellFormed) (id : PaneId) :
    Outcome w ids (· = .missingPane) (w.zoom id) := by
  cases hpane : w.pane id with
  | none =>
    rw [zoom, focusPane, if_pos (by simp [hpane])]
    exact .failed _ rfl
  | some p =>
    obtain ⟨next, heq, hnext⟩ := zoom_of_pane ids hw hpane
    rw [heq]
    exact .left _ _ hnext

theorem toggleZoomFocused_next (hw : w.WellFormed) : Next w ids w.toggleZoomFocused := by
  unfold toggleZoomFocused
  split
  · exact .of_root hw.unzoom rfl
  · next focused hzoomed hfocus =>
    obtain ⟨p, hp⟩ := Option.isSome_iff_exists.mp (mem_paneIds_iff.mp (hw.focused focused hfocus))
    obtain ⟨next, heq, hnext⟩ := zoom_of_pane ids hw hp
    rw [heq]
    exact hnext
  · exact .refl hw

end Focus

/-! ## Tasks -/

section Tasks

variable [DecidableEq K] {w : Workspace K} {ids : FreshIds} {taskId : K} {p : TaskPane K}

theorem pane_of_paneForTask (h : w.paneForTask taskId = some p) : ∃ q, w.pane p.id = some q := by
  obtain ⟨root, hroot, hfind⟩ := Option.bind_eq_some_iff.mp h
  rw [findPaneForTask, findPaneBy_eq] at hfind
  have hmem : p.id ∈ w.paneIds := by
    rw [paneIds_of_root hroot]
    exact mem_map_of_mem (mem_of_find?_eq_some hfind)
  exact Option.isSome_iff_exists.mp (mem_paneIds_iff.mp hmem)

theorem containsTask_iff : w.containsTask taskId = true ↔
    ∃ q ∈ panesOf w.root, q.taskId = taskId := by
  unfold Workspace.containsTask paneForTask
  cases hroot : w.root with
  | none => simp [panesOf]
  | some => exact WorkspaceNode.containsTask_iff

theorem focusTask_outcome (hw : w.WellFormed) (taskId : K) :
    Outcome w ids (· = .missingPane) (w.focusTask taskId) := by
  unfold focusTask
  split
  · exact focusPane_outcome hw _
  · exact .failed _ rfl

theorem replaceFocusedTask_outcome (hw : w.WellFormed) (taskId : K) :
    Outcome w ids (· = .missingPane) (w.replaceFocusedTask taskId) := by
  unfold replaceFocusedTask
  split_ifs with hhas
  · exact focusTask_outcome hw taskId
  · split
    · exact .failed _ rfl
    · next id hid =>
      -- The focused pane is in the tree, so the clock is never advanced for nothing.
      obtain ⟨p, hp⟩ := Option.isSome_iff_exists.mp (mem_paneIds_iff.mp (hw.focused id hid))
      have hclock : ({ w with focusClock := nextFocusClock w.focusClock } :
        Workspace K).WellFormed :=
        ⟨hw.tree, hw.hasFocus, hw.focused, hw.previous, hw.zoomed⟩
      obtain ⟨root, hupd, hnext⟩ := updatePane_next ids
        (fun p => { p with taskId, lastFocusedAt := nextFocusClock w.focusClock })
        hclock hp rfl (nextFocusClock_ne _)
        (.inr fun q hq heq => hhas (containsTask_iff.mpr ⟨q, hq, heq⟩))
      simp only [hupd]
      exact .left _ _ (Next.trans (.of_root hclock rfl) hnext)

theorem setPresentation_outcome (hw : w.WellFormed) (taskId : K) (presentation : PanePresentation) :
    Outcome w ids (· = .missingPane) (w.setPresentation taskId presentation) := by
  unfold setPresentation
  split
  · exact .failed _ rfl
  · next p hp =>
    obtain ⟨q, hq⟩ := pane_of_paneForTask hp
    have hfocus := hw.focusedAt hq
    obtain ⟨root, hupd, hnext⟩ := updatePane_next ids
      (fun p => { p with presentation }) hw hq rfl hfocus (.inl rfl)
    rw [hupd]
    exact .left _ _ hnext

/-! ## Inserting -/

theorem grown_next {root next} {clock : ℕ} (hw : w.WellFormed)
    (hroot : w.root = some root) (hfresh : w.Fresh ids) (htask : ¬ w.containsTask taskId = true)
    (hclock : clock ≠ 0)
    (h : Grown (.new ids.pane taskId clock) (ids.split 0) root next) :
    Next w ids { w with
      root := some next
      focused := some ids.pane
      previousFocus := w.focused
      focusClock := clock } := by
  have hvalid := hw.tree root hroot
  have hids : ∀ id ∈ next.collectPanes.map TaskPane.id, id = ids.pane ∨ id ∈ w.paneIds := by
    intro id hid
    rw [paneIds_of_root hroot]
    exact mem_cons.mp ((h.panes.map TaskPane.id).mem_iff.mp hid)
  have hmem : ∀ id, id = ids.pane ∨ id ∈ w.paneIds → id ∈ next.collectPanes.map TaskPane.id := by
    intro id hid
    rw [paneIds_of_root hroot] at hid
    exact (h.panes.map TaskPane.id).mem_iff.mpr (mem_cons.mpr hid)
  have hpane := hfresh.pane
  have hsplit := hfresh.split 0
  rw [paneIds_of_root hroot] at hpane
  rw [splitIds_of_root hroot] at hsplit
  have hnew : taskId ∉ root.collectPanes.map TaskPane.taskId := by
    intro hin
    obtain ⟨q, hq, heq⟩ := mem_map.mp hin
    refine htask (containsTask_iff.mpr ⟨q, ?_, heq⟩)
    rw [hroot]
    exact hq
  refine ⟨⟨?_, fun _ => rfl, ?_, ?_, ?_⟩, fun id hid => (hids id hid).symm, fun id hid => ?_⟩
  · rintro root' ⟨⟩
    exact h.valid hvalid hclock hpane hnew hsplit
  · rintro id ⟨⟩
    exact hmem _ (.inl rfl)
  · intro id hid
    refine ⟨hmem id (.inr (hw.focused id hid)), ?_⟩
    rintro ⟨⟩
    exact hfresh.pane (hw.focused _ hid)
  · exact fun id hid => hmem id (.inr (hw.zoomed id hid))
  · rw [splitIds_of_root hroot]
    exact (h.mem_splitIds hid).imp_right fun heq => ⟨0, heq.symm⟩

theorem insertBeside_outcome (hw : w.WellFormed) (hfresh : w.Fresh ids) (taskId : K)
    (target : PaneId) (edge : Edge) :
    Outcome w ids (· ≠ .invalidTree) (w.insertBeside taskId target edge ids) := by
  unfold insertBeside
  split_ifs with htask
  · exact .failed _ (by simp)
  · split
    · exact .left _ _ (single_next w ids taskId)
    · next root hroot =>
      rcases insertPaneNear_cases target (.new ids.pane taskId (nextFocusClock w.focusClock))
        edge.axis edge.insertsAfter (ids.split 0) root with ⟨next, hgone⟩ | ⟨next, hin, hgrown⟩
      · refine .commit_error .missingPane ?_ (by simp)
        simp only [hgone]
        rfl
      · have hnext := grown_next hw hroot hfresh htask (nextFocusClock_ne _) hgrown
        refine .commit_ok ids.pane ?_ hnext
        simp only [hin, ok_iff, validate_eq_ok]
        exact ⟨by simp, hnext.wellFormed, trivial⟩

theorem insertAfterFocused_outcome (hw : w.WellFormed) (hfresh : w.Fresh ids) (taskId : K)
    (axis : Axis) :
    Outcome w ids (· ≠ .invalidTree) (w.insertAfterFocused taskId axis ids) := by
  unfold insertAfterFocused
  split
  · exact insertBeside_outcome hw hfresh _ _ _
  · split_ifs
    · exact .failed _ (by simp)
    · exact .left _ _ (single_next w ids taskId)
  · next root hfocus hroot =>
    have hfocused := hw.hasFocus (by simp [hroot])
    rw [hfocus] at hfocused
    cases hfocused

theorem insertIntoGrid_outcome (hw : w.WellFormed) (hfresh : w.Fresh ids) (taskId : K)
    (columns : ℕ) :
    Outcome w ids (· ≠ .invalidTree) (w.insertIntoGrid taskId columns ids) := by
  unfold insertIntoGrid
  split_ifs with htask
  · exact .failed _ (by simp)
  · split
    · exact .left _ _ (single_next w ids taskId)
    · next root hroot =>
      have hgrown := placeInGrid_grown (hw.tree root hroot).shaped
        (.new ids.pane taskId (nextFocusClock w.focusClock)) columns (ids.split 0)
      have hnext := grown_next hw hroot hfresh htask (nextFocusClock_ne _) hgrown
      refine .commit_ok ids.pane ?_ hnext
      simp only [ok_iff, validate_eq_ok]
      exact ⟨hnext.wellFormed, trivial⟩

/-! ## Removing -/

omit [DecidableEq K] in
@[simp] theorem root_repairFocus (w : Workspace K) (id : PaneId) :
    (w.repairFocusAfterRemoval id).root = w.root := by
  unfold repairFocusAfterRemoval
  split
  · rfl
  · dsimp only
    split_ifs <;> rfl

omit [DecidableEq K] in
theorem repairFocus_wellFormed {id} {next}
    {zoomed} (hw : w.WellFormed) (hfocus : w.focused.isSome = true)
    (hvalid : ∀ root ∈ next, root.Valid)
    (hkept : ∀ x ∈ w.paneIds, x ≠ id → x ∈ (panesOf next).map TaskPane.id)
    (hzoomed : ∀ x ∈ zoomed, x ∈ (panesOf next).map TaskPane.id) :
    (({ w with root := next, zoomed } : Workspace K).repairFocusAfterRemoval
      id).WellFormed := by
  unfold repairFocusAfterRemoval
  cases next with
  | none => exact ⟨by simp, by simp, by simp, by simp, hzoomed⟩
  | some root =>
    have hroot := hvalid root rfl
    have hne : ∀ x ∈ w.focused, w.focused ≠ some id → x ≠ id := by
      rintro x hx hne rfl
      exact hne hx
    dsimp only
    split_ifs with hother hpre
    · obtain ⟨p, hp, hfst⟩ := firstPaneId_of_shaped hroot.shaped
      refine ⟨hvalid, fun _ => ?_, fun x hx => ?_, by simp, hzoomed⟩
      · rw [Option.isSome_or, hfst]
        simp
      · rcases Option.or_eq_some_iff.mp hx with hx | ⟨-, hx⟩
        · have hfound := (Option.filter_eq_some_iff.mp hx).2
          rw [Bool.and_eq_true] at hfound
          exact mem_paneIds_iff.mpr hfound.2
        · rw [hfst] at hx
          cases hx
          exact mem_map_of_mem hp
    · exact ⟨hvalid, fun _ => hfocus,
        fun x hx => hkept x (hw.focused x hx) (hne x hx hother), by simp, hzoomed⟩
    · refine ⟨hvalid, fun _ => hfocus,
        fun x hx => hkept x (hw.focused x hx) (hne x hx hother), fun x hx => ?_, hzoomed⟩
      refine ⟨hkept x (hw.previous x hx).1 ?_, (hw.previous x hx).2⟩
      rintro rfl
      exact hpre hx

theorem removePane_outcome (hw : w.WellFormed) (id : PaneId) :
    Outcome w ids (· ≠ .invalidTree) (w.removePane id) := by
  unfold removePane
  cases hp : w.pane id with
  | none => exact .failed _ (by simp)
  | some p =>
    rw [if_neg (by simp)]
    obtain ⟨root, hroot, hfind⟩ := pane_eq_some hp
    have hvalid := hw.tree root hroot
    obtain ⟨next, q, hrem, hid, hremoved⟩ :=
      removePaneNode_removed (containsPane_of_find hfind)
    subst hid
    have hkept : ∀ x ∈ w.paneIds, x ≠ q.id → x ∈ (panesOf next).map TaskPane.id := by
      intro x hx hne
      rw [paneIds_of_root hroot] at hx
      exact (hremoved.mem_ids.mp hx).resolve_left hne
    have hzoomed : ∀ x ∈ (if w.zoomed = some q.id then none else w.zoomed),
        x ∈ (panesOf next).map TaskPane.id := by
      intro x hx
      split_ifs at hx with hzoom
      · cases hx
      · refine hkept x (hw.zoomed x hx) ?_
        rintro rfl
        exact hzoom hx
    have hrepaired := repairFocus_wellFormed hw (hw.hasFocus (by simp [hroot]))
      (hremoved.valid hvalid) hkept hzoomed
    refine .commit_ok () ?_ ⟨hrepaired, fun x hx => .inl ?_, fun x hx => .inl ?_⟩
    · simp only [hroot, okOr, ok_bind, hrem, ok_iff, validate_eq_ok]
      exact ⟨by simp, hrepaired, trivial⟩
    · rw [paneIds, root_repairFocus] at hx
      rw [paneIds_of_root hroot]
      exact hremoved.mem_ids.mpr (.inr hx)
    · rw [splitIds, root_repairFocus] at hx
      rw [splitIds_of_root hroot]
      exact hremoved.splits.subset hx

/-! ## Swapping and moving -/

theorem swapped_eq (first second : PaneId) (field) :
    swapped first second field = field.map (Equiv.swap first second) := by
  unfold swapped
  split_ifs with hfst hsnd
  · rw [hfst, Option.map_some, Equiv.swap_apply_left]
  · rw [hsnd, Option.map_some, Equiv.swap_apply_right]
  · cases field with
    | none => rfl
    | some id =>
      rw [Option.map_some, Equiv.swap_apply_of_ne_of_ne]
      · exact fun h => hfst (congrArg some h)
      · exact fun h => hsnd (congrArg some h)

variable {first second : PaneId}

omit [DecidableEq K] in
theorem WellFormed.swap {next} (hw : w.WellFormed)
    (hvalid : next.Valid) (hids : ∀ x ∈ w.paneIds, x ∈ next.collectPanes.map TaskPane.id)
    (hfst : first ∈ w.paneIds) (hsnd : second ∈ w.paneIds) :
    ({ w with
      root := some next
      focused := swapped first second w.focused
      previousFocus := swapped first second w.previousFocus
      zoomed := swapped first second w.zoomed } : Workspace K).WellFormed := by
  have hswap : ∀ field : Option PaneId, (∀ x ∈ field, x ∈ w.paneIds) →
      ∀ y ∈ field.map (Equiv.swap first second), y ∈ next.collectPanes.map TaskPane.id := by
    intro field hfield y hy
    obtain ⟨x, hx, rfl⟩ := Option.mem_map.mp hy
    rw [Equiv.swap_apply_def]
    split_ifs
    · exact hids _ hsnd
    · exact hids _ hfst
    · exact hids x (hfield x hx)
  simp only [swapped_eq]
  refine ⟨?_, fun _ => ?_, hswap _ hw.focused, fun y hy => ⟨?_, ?_⟩, hswap _ hw.zoomed⟩
  · rintro root ⟨⟩
    exact hvalid
  · rw [Option.isSome_map]
    refine hw.hasFocus ?_
    cases hroot : w.root with
    | none => simp [paneIds_of_none hroot] at hfst
    | some root => rfl
  · exact hswap _ (fun x hx => (hw.previous x hx).1) y hy
  · obtain ⟨x, hx, rfl⟩ := Option.mem_map.mp hy
    intro heq
    obtain ⟨x', hx', hsame⟩ := Option.map_eq_some_iff.mp heq
    rw [(Equiv.swap first second).injective hsame] at hx'
    exact (hw.previous x hx).2 hx'

omit [DecidableEq K] in
theorem swapPanes_of_panes {p q} (hw : w.WellFormed)
    (hne : first ≠ second) (hfst : w.pane first = some p) (hsnd : w.pane second = some q) :
    ∃ root mid next, w.root = some root ∧
      root.updatePane first (fun _ => { q with id := first }) = some mid ∧
      mid.updatePane second (fun _ => { p with id := second }) = some next ∧
      next.splitIds = root.splitIds ∧
      (next.collectPanes.map TaskPane.id).Perm w.paneIds ∧
      ({ w with
        root := some next
        focused := swapped first second w.focused
        previousFocus := swapped first second w.previousFocus
        zoomed := swapped first second w.zoomed } : Workspace K).WellFormed := by
  obtain ⟨root, hroot, hfin⟩ := pane_eq_some hfst
  obtain ⟨root', hroot', hfindSecond⟩ := pane_eq_some hsnd
  rw [hroot] at hroot'
  cases hroot'
  have hvalid := hw.tree root hroot
  obtain ⟨hpmem, rfl⟩ := findPane_eq_some hfin
  obtain ⟨hqmem, rfl⟩ := findPane_eq_some hfindSecond
  obtain ⟨mid, hmid, hmidReplaced⟩ :=
    updatePane_of_find (fun _ => { q with id := p.id }) hfin
  obtain ⟨next, hnext, hnextReplaced⟩ := updatePane_of_find (fun _ => { p with id := q.id })
    (findPane_swapped hvalid hqmem hne hmidReplaced)
  obtain ⟨hnextValid, hperm⟩ := swapped_valid hvalid hpmem hqmem hmidReplaced hnextReplaced
  rw [← paneIds_of_root hroot] at hperm
  refine ⟨root, mid, next, hroot, hmid, hnext, ?_, hperm, ?_⟩
  · rw [hnextReplaced.splits, hmidReplaced.splits]
  · exact hw.swap hnextValid (fun x hx => hperm.mem_iff.mpr hx) (mem_paneIds_of_pane hfst)
      (mem_paneIds_of_pane hsnd)

theorem swapPanes_eq_ok {p q root mid next}
    (hne : first ≠ second) (hfst : w.pane first = some p) (hsnd : w.pane second = some q)
    (hroot : w.root = some root)
    (hmid : root.updatePane first (fun _ => { q with id := first }) = some mid)
    (hnext : mid.updatePane second (fun _ => { p with id := second }) = some next)
    (hwell : ({ w with
        root := some next, focused := swapped first second w.focused,
        previousFocus := swapped first second w.previousFocus,
        zoomed := swapped first second w.zoomed } : Workspace K).WellFormed) :
    w.swapPanes first second = (.ok (), { w with
        root := some next
        focused := swapped first second w.focused
        previousFocus := swapped first second w.previousFocus
        zoomed := swapped first second w.zoomed }) := by
  rw [swapPanes, if_neg hne, if_neg (by simp [hfst, hsnd]), commit_eq_ok]
  simp only [hfst, hsnd, okOr, ok_bind, updatePane, hroot, Option.bind_eq_bind, Option.bind_some,
    hmid, hnext, ok_iff, validate_eq_ok, Option.pure_def]
  exact ⟨hwell, trivial⟩

theorem swapPanes_outcome (hw : w.WellFormed) (first second : PaneId) :
    Outcome w ids (· ≠ .invalidTree) (w.swapPanes first second) := by
  by_cases hne : first = second
  · rw [swapPanes, if_pos hne]
    exact .failed _ (by simp)
  cases hfst : w.pane first with
  | none =>
    rw [swapPanes, if_neg hne, if_pos (by simp [hfst])]
    exact .failed _ (by simp)
  | some p =>
    cases hsnd : w.pane second with
    | none =>
      rw [swapPanes, if_neg hne, if_pos (by simp [hsnd])]
      exact .failed _ (by simp)
    | some q =>
      obtain ⟨root, mid, next, hroot, hmid, hnext, hsplits, hperm, hwell⟩ :=
        swapPanes_of_panes hw hne hfst hsnd
      rw [swapPanes_eq_ok hne hfst hsnd hroot hmid hnext hwell]
      refine .left _ _ ⟨hwell, fun x hx => .inl (hperm.mem_iff.mp hx), fun x hx => .inl ?_⟩
      rw [splitIds_of_root hroot, ← hsplits]
      exact hx

theorem movePaneToEdge_outcome (hw : w.WellFormed) (hfresh : w.Fresh ids) {source target}
    (hne : source ≠ target) (hsrc : source ∈ w.paneIds) (htarget : target ∈ w.paneIds)
    (edge : Edge) :
    Outcome w ids (· ≠ .invalidTree) (w.movePaneToEdge source target edge ids) := by
  unfold movePaneToEdge
  obtain ⟨p, hp⟩ := Option.isSome_iff_exists.mp (mem_paneIds_iff.mp hsrc)
  obtain ⟨root, hroot, hfind⟩ := pane_eq_some hp
  have hvalid := hw.tree root hroot
  obtain ⟨left, q, hrem, hid, hremoved⟩ :=
    removePaneNode_removed (containsPane_of_find hfind)
  subst hid
  -- The target is another pane, so it is still there to insert beside.
  have htarget' : target ∈ (panesOf left).map TaskPane.id := by
    rw [paneIds_of_root hroot] at htarget
    exact (hremoved.mem_ids.mp htarget).resolve_left hne.symm
  cases left with
  | none => cases htarget'
  | some without =>
    have hhas : without.containsPane target = true := by
      rw [containsPane_iff]
      exact mem_map.mp htarget'
    obtain ⟨next, hins, hgrown⟩ := insertPaneNear_grown target q edge.axis edge.insertsAfter
      (ids.split 0) hhas
    have hgone := hremoved.not_mem hvalid
    have hfocus : q.lastFocusedAt ≠ 0 :=
      hvalid.focused q (hremoved.panes.mem_iff.mpr (.head _))
    have hsplit : ids.split 0 ∉ without.splitIds := by
      intro hmem
      refine hfresh.split 0 ?_
      rw [splitIds_of_root hroot]
      exact hremoved.splits.subset hmem
    have hnextValid := hgrown.valid (hremoved.valid hvalid without rfl) hfocus hgone.1
      hgone.2 hsplit
    have hperm : (next.collectPanes.map TaskPane.id).Perm w.paneIds := by
      rw [paneIds_of_root hroot]
      exact (hgrown.panes.trans hremoved.panes.symm).map _
    have hwell := hw.withRoot (by simp [hroot]) hnextValid fun x hx => hperm.mem_iff.mpr hx
    refine .commit_ok () ?_ ⟨hwell, fun x hx => .inl (hperm.mem_iff.mp hx), fun x hx => ?_⟩
    · simp only [hroot, okOr, ok_bind, hrem, hins, ok_iff, validate_eq_ok]
      exact ⟨by simp, hwell, trivial⟩
    · rw [splitIds_of_root hroot]
      rcases hgrown.mem_splitIds hx with hold | rfl
      · exact .inl (hremoved.splits.subset hold)
      · exact .inr ⟨0, rfl⟩

theorem movePane_outcome (hw : w.WellFormed) (hfresh : w.Fresh ids) (source : PaneId) (target) :
    Outcome w ids (· ≠ .invalidTree) (w.movePane source target ids) := by
  unfold movePane
  split_ifs with hsame hgone
  · exact .failed _ (by simp)
  · exact .failed _ (by simp)
  · have hsrc : source ∈ w.paneIds :=
      mem_paneIds_iff.mpr (Option.isSome_iff_ne_none.mpr fun h => hgone (.inl (by rw [h]; rfl)))
    have htarget : target.pane ∈ w.paneIds :=
      mem_paneIds_iff.mpr (Option.isSome_iff_ne_none.mpr fun h => hgone (.inr (by rw [h]; rfl)))
    split
    · exact swapPanes_outcome hw _ _
    · exact movePaneToEdge_outcome hw hfresh hsame hsrc htarget _

/-! ## Sizes -/

section Sizes

variable {taskId : K} {allocation : Allocation}

theorem isValid_pinned {logicalPx : F32} (h : ¬ (¬ logicalPx.isFinite ∨ logicalPx.leZero)) :
    (Allocation.pinned logicalPx).isValid = true := by
  rw [not_or, not_not] at h
  obtain ⟨hfin, hpos⟩ := h
  have hnan : logicalPx.isNan = false := by
    rw [F32.isNan, decide_eq_false (of_decide_eq_true hfin), Bool.false_and]
  simp only [F32.leZero, hnan, Bool.not_false, Bool.true_and, Bool.or_eq_true, not_or,
    Bool.not_eq_true] at hpos
  simp [Allocation.isValid, hfin, F32.gtZero, hnan, hpos]

omit [DecidableEq K] in
theorem resized_next {root next} (hw : w.WellFormed) (hroot : w.root = some root)
    (h : Resized root next) : Next w ids { w with root := some next } := by
  refine ⟨hw.withRoot (by simp [hroot]) (h.valid (hw.tree root hroot)) fun x hx => ?_,
    fun x hx => .inl ?_, fun x hx => .inl ?_⟩
  · rwa [h.panes, ← paneIds_of_root hroot]
  · rw [paneIds_of_root hroot, ← h.panes]
    exact hx
  · rw [splitIds_of_root hroot, ← h.splits]
    exact hx

theorem setTaskAllocation_outcome (hw : w.WellFormed) (taskId : K)
    (hvalid : allocation.isValid = true) (errors : WorkspaceError → Prop)
    (hgone : errors .missingPane) :
    Outcome w ids errors (w.setTaskAllocation taskId allocation) := by
  unfold setTaskAllocation
  split
  · exact .failed _ hgone
  · next root hroot =>
    have hres := setTaskAllocation_resized taskId hvalid root
    have hsame := setTaskAllocation_of_false allocation taskId root
    rcases hset : root.setTaskAllocation taskId allocation with ⟨next, done⟩
    rw [hset] at hres hsame
    cases done with
    | true => exact .left _ _ (resized_next hw hroot hres)
    | false =>
      have hnext : next = root := hsame rfl
      have hw' : ({ w with root := some next } : Workspace K) = w := by
        rw [hnext, ← hroot]
      simp only [hw']
      exact .failed _ hgone

theorem setSplitChild_outcome (hw : w.WellFormed) (splitId : SplitId) (childIndex : ℕ)
    (hvalid : allocation.isValid = true) :
    Outcome w ids (fun _ => True) (w.setSplitChild splitId childIndex allocation) := by
  unfold setSplitChild
  refine .commit (fun value next h => ?_) fun _ => trivial
  simp only [ok_iff] at h
  obtain ⟨root, hroot, children, -, -, -, next', hupd, -, -, rfl⟩ := h
  exact resized_next hw hroot
    (updateSplit_resized (fun children => resizedIn_modify hvalid childIndex) hupd)

end Sizes

end Tasks

/-! ## Rebuilding as a grid -/

section Grid

variable {w : Workspace K} {ids : FreshIds}

theorem orderedPanes_perm (order) :
    ∀ panes : List (TaskPane K), (orderedPanes order panes).Perm panes := by
  induction order with
  | nil => exact fun panes => .refl panes
  | cons id order ih =>
    intro panes
    rw [orderedPanes]
    split
    · next p hfind =>
      obtain ⟨hid, before, after, rfl, hpre⟩ := find?_eq_some_iff_append.mp hfind
      rw [eraseP_append_right _ (by simpa using hpre), eraseP_cons, hid, cond_true]
      exact ((ih _).cons p).trans perm_middle.symm
    · exact ih panes

theorem dangling_of_mem {field} (h : ∀ id ∈ field, id ∈ w.paneIds) :
    w.dangling field = false := by
  cases field with
  | none => rfl
  | some id =>
    show (w.pane id).isNone = false
    rw [← Option.not_isSome, mem_paneIds_iff.mp (h id rfl)]
    rfl

theorem rebuildAsGrid_next (hw : w.WellFormed) (hfresh : w.Fresh ids) (order)
    (columns : ℕ) : Next w ids (w.rebuildAsGrid order columns ids).2 := by
  unfold rebuildAsGrid
  split
  · exact .refl hw
  · next root hroot =>
    have hvalid := hw.tree root hroot
    have hord := orderedPanes_perm order root.collectPanes
    have hne : orderedPanes order root.collectPanes ≠ [] := by
      obtain ⟨p, hp, -⟩ := firstPaneId_of_shaped hvalid.shaped
      exact ne_nil_of_mem (hord.mem_iff.mpr hp)
    obtain ⟨next, hgrid, hpanes, hshaped, hsplits, hdrawn⟩ :=
      gridTree_spec columns hfresh.injective hne
    rw [← hpanes] at hord
    have hnext : next.Valid :=
      ⟨hshaped, fun p hp => hvalid.focused p (hord.mem_iff.mp hp),
        (hord.map _).nodup_iff.mpr hvalid.paneIds,
        (hord.map _).nodup_iff.mpr hvalid.taskIds, hsplits⟩
    have hperm : (next.collectPanes.map TaskPane.id).Perm w.paneIds := by
      rw [paneIds_of_root hroot]
      exact hord.map _
    have hwell := hw.withRoot (by simp [hroot]) hnext fun x hx => hperm.mem_iff.mpr hx
    have hfocus : w.focused.isNone = false := by
      rw [← Option.not_isSome, hw.hasFocus (by simp [hroot])]
      rfl
    have hsame : ∀ field : Option PaneId, (∀ id ∈ field, id ∈ w.paneIds) →
        ({ w with root := some next } : Workspace K).dangling field = false :=
      fun field h => dangling_of_mem fun id hid => hperm.mem_iff.mpr (h id hid)
    simp only [hgrid, hfocus, hsame _ hw.focused, hsame _ fun id hid => (hw.previous id hid).1,
      hsame _ hw.zoomed, Bool.or_false, Bool.false_eq_true, if_false]
    exact ⟨hwell, fun x hx => .inl (hperm.mem_iff.mp hx), fun x hx => .inr (hdrawn x hx)⟩

end Grid

/-! ## Calls and runs -/

section Run

variable [DecidableEq K] {w : Workspace K} {ids : FreshIds}

omit [DecidableEq K] in
theorem Outcome.reply {α : Type} {errors : WorkspaceError → Prop} {errors' : Failure → Prop}
    {f : α → WorkspaceReply} {out}
    (h : Outcome w ids errors out) (herrors : ∀ e, errors e → errors' (.err e)) :
    Outcome w ids errors' (reply f out) := by
  cases h with
  | failed error herror => exact .failed _ (herrors error herror)
  | left value next hnext => exact .left _ _ hnext

omit [DecidableEq K] in
theorem Outcome.map {ε α β : Type} {errors errors' : ε → Prop} {f : α → β}
    {out} (h : Outcome w ids errors out)
    (herrors : ∀ e, errors e → errors' e) : Outcome w ids errors' (out.1.map f, out.2) := by
  cases h with
  | failed error herror => exact .failed _ (herrors error herror)
  | left value next hnext => exact .left _ _ hnext

theorem pinTaskAxisSize_outcome (hw : w.WellFormed) (taskId : K) (logicalPx : F32) :
    Outcome w ids (fun _ => True) (w.pinTaskAxisSize taskId logicalPx) := by
  unfold pinTaskAxisSize
  split_ifs with hpx
  · exact .failed _ trivial
  · exact setTaskAllocation_outcome hw taskId (isValid_pinned hpx) _ trivial

theorem resizeSplitChild_outcome (hw : w.WellFormed) (splitId : SplitId) (childIndex : ℕ)
    (logicalPx : F32) :
    Outcome w ids (fun _ => True) (w.resizeSplitChild splitId childIndex logicalPx) := by
  unfold resizeSplitChild
  split_ifs with hpx
  · exact .failed _ trivial
  · exact setSplitChild_outcome hw splitId childIndex (isValid_pinned hpx)

theorem call_outcome {c} (hw : w.WellFormed) (hfresh : w.Fresh c.ids) :
    Outcome w c.ids (fun e => c.edit.isPaneEdit = true → e ≠ .err .invalidTree) (w.call c) := by
  obtain ⟨edit, ids⟩ := c
  have hgone : ∀ e, e = .missingPane →
      edit.isPaneEdit = true → Failure.err e ≠ .err .invalidTree := by
    rintro e rfl -
    simp
  have hcheck : ∀ e, e ≠ .invalidTree →
      edit.isPaneEdit = true → Failure.err e ≠ .err .invalidTree := by
    intro e he _ heq
    exact he (Failure.err.inj heq)
  have hother : edit.isPaneEdit = false → ∀ e : Failure, True →
      edit.isPaneEdit = true → e ≠ .err .invalidTree := by
    intro hfalse e _ htrue
    rw [hfalse] at htrue
    cases htrue
  cases edit with
  | insertAfterFocused => exact (insertAfterFocused_outcome hw hfresh _ _).reply hcheck
  | insertBeside => exact (insertBeside_outcome hw hfresh _ _ _).reply hcheck
  | insertIntoGrid => exact (insertIntoGrid_outcome hw hfresh _ _).reply hcheck
  | rebuildAsGrid => exact .left _ _ (rebuildAsGrid_next hw hfresh _ _)
  | focusPane => exact (focusPane_outcome hw _).reply hgone
  | focusTask => exact (focusTask_outcome hw _).reply hgone
  | zoom => exact (zoom_outcome hw _).reply hgone
  | unzoom => exact .left _ _ (.of_root hw.unzoom rfl)
  | toggleZoomFocused => exact .left _ _ (toggleZoomFocused_next hw)
  | replaceFocusedTask => exact (replaceFocusedTask_outcome hw _).reply hgone
  | removePane => exact (removePane_outcome hw _).reply hcheck
  | swapPanes => exact (swapPanes_outcome hw _ _).reply hcheck
  | movePane => exact (movePane_outcome hw hfresh _ _).reply hcheck
  | pinTaskAxisSize taskId logicalPx =>
    exact (pinTaskAxisSize_outcome hw taskId logicalPx).reply fun e => hother rfl (.err e)
  | resetTaskAxisSize =>
    exact (setTaskAllocation_outcome hw _ isValid_default (· = .missingPane) rfl).reply hgone
  | resizeSplitChild => exact (resizeSplitChild_outcome hw _ _ _).map (hother rfl)
  | resetSplitChild => exact (setSplitChild_outcome hw _ _ isValid_default).map (hother rfl)
  | setPresentation => exact (setPresentation_outcome hw _ _).reply hgone

/-- The ids that the calls draw are distinct, and not in the workspace. -/
structure FreshCalls (w : Workspace K) (calls : List (WorkspaceCall K)) : Prop where
  fresh : ∀ c ∈ calls, w.Fresh c.ids
  distinct : calls.Pairwise fun c d =>
    c.ids.pane ≠ d.ids.pane ∧ ∀ i j, c.ids.split i ≠ d.ids.split j

omit [DecidableEq K] in
theorem FreshCalls.next {c calls next}
    (h : w.FreshCalls (c :: calls)) (hnext : Next w c.ids next) : next.FreshCalls calls := by
  obtain ⟨hfst, hrest⟩ := pairwise_cons.mp h.distinct
  refine ⟨fun d hd => ?_, hrest⟩
  have hfresh := h.fresh d (.tail _ hd)
  obtain ⟨hpane, hsplit⟩ := hfst d hd
  refine ⟨fun hmem => ?_, fun i hmem => ?_, hfresh.injective⟩
  · rcases hnext.paneIds _ hmem with hold | hdrawn
    · exact hfresh.pane hold
    · exact hpane hdrawn.symm
  · rcases hnext.splitIds _ hmem with hold | ⟨j, hdrawn⟩
    · exact hfresh.split i hold
    · exact hsplit j i hdrawn

theorem wellFormed_after {rest : List (WorkspaceCall K)} :
    ∀ (before : List (WorkspaceCall K)) {w : Workspace K}, w.WellFormed →
      w.FreshCalls (before ++ rest) →
        (after call w before).WellFormed ∧ (after call w before).FreshCalls rest := by
  intro before
  induction before with
  | nil => exact fun hw hfresh => ⟨hw, hfresh⟩
  | cons c before ih =>
    intro w hw hfresh
    have hnext := (call_outcome hw (hfresh.fresh c (.head _))).toNext hw
    rw [after_cons]
    exact ih hnext.wellFormed (hfresh.next hnext)

/-- Over every list of calls on an empty workspace or one of a single pane, with distinct fresh
ids: the workspace passes `validate` at every point, a call that fails leaves it unchanged, and
the edits of single panes never fail with `InvalidTree`. -/
theorem workspace_edits_valid (start : Workspace K)
    (hstart : start = default ∨ ∃ id taskId, start = single id taskId)
    (calls : List (WorkspaceCall K)) (hfresh : start.FreshCalls calls) :
    (∀ before rest, calls = before ++ rest → (after call start before).validate = .ok ()) ∧
    ∀ before c rest, calls = before ++ c :: rest →
      (∀ e, ((after call start before).call c).1 = .error e →
        ((after call start before).call c).2 = after call start before) ∧
      (c.edit.isPaneEdit = true →
        ((after call start before).call c).1 ≠ .error (.err .invalidTree)) := by
  have hwell : start.WellFormed := by
    rcases hstart with rfl | ⟨id, taskId, rfl⟩
    · exact wellFormed_default
    · exact wellFormed_single id taskId
  refine ⟨?_, ?_⟩
  · rintro before rest rfl
    exact validate_eq_ok.mpr (wellFormed_after before hwell hfresh).1
  · rintro before c rest rfl
    obtain ⟨hw, hrest⟩ := wellFormed_after before hwell hfresh
    have hcall := call_outcome hw (hrest.fresh c (.head _))
    generalize (after call start before).call c = out at hcall ⊢
    cases hcall with
    | failed error herror =>
      refine ⟨fun _ _ => rfl, fun hedit heq => ?_⟩
      exact herror hedit (Except.error.inj heq)
    | left value next hnext =>
      refine ⟨fun e he => ?_, fun _ heq => ?_⟩
      · cases he
      · cases heq

def sampleIds (n : ℕ) : FreshIds where
  pane := ⟨n + 1⟩
  split i := ⟨4 * i + n⟩

def sampleCalls : List (WorkspaceCall ℕ) :=
  [⟨.insertBeside 1 ⟨0⟩ .right, sampleIds 0⟩, ⟨.zoom ⟨1⟩, sampleIds 1⟩,
    ⟨.movePane ⟨1⟩ (.edge ⟨0⟩ .left), sampleIds 2⟩, ⟨.removePane ⟨1⟩, sampleIds 3⟩]

theorem freshCalls_sample : (single ⟨0⟩ 0 : Workspace ℕ).FreshCalls sampleCalls := by
  have hfresh : ∀ n, (single ⟨0⟩ 0 : Workspace ℕ).Fresh (sampleIds n) := by
    intro n
    refine ⟨fun hmem => ?_, fun i hmem => ?_, fun i j hij => ?_⟩
    · have hid : (sampleIds n).pane = ⟨0⟩ := mem_singleton.mp hmem
      exact absurd (congrArg PaneId.uuid hid) (Nat.succ_ne_zero n)
    · cases hmem
    · have huuid : 4 * i + n = 4 * j + n := congrArg SplitId.uuid hij
      omega
  have hdist : ∀ n m, n < m → m < 4 → (sampleIds n).pane ≠ (sampleIds m).pane ∧
      ∀ i j, (sampleIds n).split i ≠ (sampleIds m).split j := by
    intro n m hlt hm
    refine ⟨fun h => ?_, fun i j h => ?_⟩
    · have huuid : n + 1 = m + 1 := congrArg PaneId.uuid h
      omega
    · have huuid : 4 * i + n = 4 * j + m := congrArg SplitId.uuid h
      omega
  refine ⟨?_, ?_⟩
  · intro c hc
    simp only [sampleCalls, mem_cons, not_mem_nil, or_false] at hc
    rcases hc with rfl | rfl | rfl | rfl <;> exact hfresh _
  · simp only [sampleCalls, pairwise_cons, mem_cons, not_mem_nil, or_false,
      forall_eq_or_imp, forall_eq, List.Pairwise.nil, and_true, IsEmpty.forall_iff, implies_true]
    exact ⟨⟨hdist 0 1 (by omega) (by omega), hdist 0 2 (by omega) (by omega),
      hdist 0 3 (by omega) (by omega)⟩, ⟨hdist 1 2 (by omega) (by omega),
      hdist 1 3 (by omega) (by omega)⟩, hdist 2 3 (by omega) (by omega)⟩

theorem workspace_edits_valid_sample :
    (after call (single ⟨0⟩ 0) sampleCalls).validate = .ok () ∧
      ((after call (single ⟨0⟩ 0) (sampleCalls.take 2)).call
        ⟨.movePane ⟨1⟩ (.edge ⟨0⟩ .left), sampleIds 2⟩).1 ≠ .error (.err .invalidTree) := by
  have h := workspace_edits_valid (single ⟨0⟩ 0) (.inr ⟨⟨0⟩, 0, rfl⟩) sampleCalls freshCalls_sample
  exact ⟨h.1 sampleCalls [] (append_nil _).symm,
    (h.2 (sampleCalls.take 2) _ (sampleCalls.drop 3) rfl).2 rfl⟩

-- Each of these calls returns `Ok`: the run is not one of refusals.
example : (Calls.trace call (single ⟨0⟩ 0) sampleCalls).map Prod.snd =
    [.ok (.pane ⟨1⟩), .ok .done, .ok .done, .ok .done] := rfl

end Run

end Workspace

end DevManager
