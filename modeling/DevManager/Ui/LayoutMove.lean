import DevManager.Lib.Keyed
import DevManager.Ui.LayoutRun

/-!
# Where a moved pane ends up

`move_pane` takes the source out of the tree, which may collapse the splits around
the target, and puts it back beside the target, which may extend a split or make a
new one. What the user sees is the list of panes in tree order, and there the two
steps are simple.

* `removePaneNode_panes`: `remove_pane_node` takes the first pane of the id out of the list.
* `insertPaneNear_panes`: `insert_pane_near` puts the pane beside one of the target's id.
-/

namespace DevManager

open List

namespace WorkspaceNode

variable {K : Type}

/-! ## Removing -/

section Remove

variable (target : PaneId)

mutual

theorem removePaneNode_panes : ∀ node : WorkspaceNode K, panesOf (node.removePaneNode target).1 =
        node.collectPanes.eraseP (fun p => p.id = target) ∧
      (node.removePaneNode target).2 = node.collectPanes.find? fun p => p.id = target
  | .pane p => by
    rw [removePaneNode, collectPanes_pane]
    by_cases hid : p.id = target
    · rw [if_pos hid, eraseP_cons_of_pos (by simpa using hid),
        find?_cons_of_pos (by simpa using hid)]
      exact ⟨rfl, rfl⟩
    · rw [if_neg hid, eraseP_cons_of_neg (by simpa using hid),
        find?_cons_of_neg (by simpa using hid)]
      exact ⟨collectPanes_pane, rfl⟩
  | .split id axis children => by
    obtain ⟨hpanes, hrem⟩ := removePaneNodeIn_panes children
    rw [removePaneNode, collectPanes_split, ← hpanes, ← hrem]
    rcases removePaneNodeIn target children with ⟨next, _ | removed⟩
    · refine ⟨?_, rfl⟩
      show (split id axis next).collectPanes = _
      exact collectPanes_split
    · exact ⟨panesOf_normalized, rfl⟩

theorem removePaneNodeIn_panes : ∀ children : List (SplitChild (WorkspaceNode K)),
    collectPanesIn (removePaneNodeIn target children).1 =
        (collectPanesIn children).eraseP (fun p => p.id = target) ∧
      (removePaneNodeIn target children).2 = (collectPanesIn children).find? fun p => p.id = target
  | [] => ⟨rfl, rfl⟩
  | ⟨node, allocation⟩ :: children => by
    obtain ⟨hnode, hrem⟩ := removePaneNode_panes node
    obtain ⟨hchild, hrest⟩ := removePaneNodeIn_panes children
    rw [removePaneNodeIn, collectPanesIn_cons, find?_append]
    rcases h : node.removePaneNode target with ⟨next, _ | removed⟩
    · rw [h] at hnode hrem
      have hnone : ∀ p ∈ node.collectPanes, ¬ p.id = target := by
        intro p hp
        simpa using find?_eq_none.mp hrem.symm p hp
      rw [eraseP_append_right _ (by simpa using hnone), ← hrem, Option.none_or]
      refine ⟨?_, hrest⟩
      show collectPanesIn (keptChild allocation next ++ _) = _
      rw [collectPanesIn_append, collectPanesIn_keptChild, hchild, hnode,
        eraseP_of_forall_not (by simpa using hnone)]
    · rw [h] at hnode hrem
      rw [eraseP_append_left (find?_some hrem.symm)
        _ (mem_of_find?_eq_some hrem.symm), ← hrem, Option.some_or]
      refine ⟨?_, rfl⟩
      show collectPanesIn (keptChild allocation next ++ children) = _
      rw [collectPanesIn_append, collectPanesIn_keptChild, hnode]

end

end Remove

/-! ## Inserting -/

section Insert

variable {target : PaneId} {p : TaskPane K} {axis : Axis} {insertAfter : Bool}
  {splitId : SplitId} {children children' : List (SplitChild (WorkspaceNode K))}

theorem insertAmong_panes (h : insertAmong target p insertAfter children = some children') :
    PlacedBeside TaskPane.id target insertAfter p (collectPanesIn children)
      (collectPanesIn children') := by
  unfold insertAmong at h
  split at h
  · next index hidx =>
    cases h
    obtain ⟨hlt, hchild, -⟩ := findIdx?_eq_some_iff_getElem.mp hidx
    obtain ⟨before, ⟨node, allocation⟩, rest, rfl, rfl⟩ :
        ∃ before child rest, children = before ++ child :: rest ∧ before.length = index := by
      refine ⟨children.take index, children[index], children.drop (index + 1), ?_, ?_⟩
      · rw [getElem_cons_drop, take_append_drop]
      · rw [length_take]
        omega
    simp only [getElem_append_right le_rfl, Nat.sub_self, getElem_cons_zero] at hchild
    cases node with
    | split id axis grandchildren => cases hchild
    | pane existing =>
      have hid : existing.id = target := by simpa [isPane] using hchild
      refine ⟨collectPanesIn before, existing, collectPanesIn rest, hid, ?_, ?_⟩
      · rw [collectPanesIn_append, collectPanesIn_cons, collectPanes_pane, singleton_append]
      · rw [insertIdx_append_cons, collectPanesIn_append, collectPanesIn_append]
        cases insertAfter <;> rfl
  · cases h

variable (axis) (insertAfter) (splitId)

mutual

theorem insertPaneNear_panes : ∀ {node : WorkspaceNode K},
    (node.insertPaneNear target p axis insertAfter splitId).2 = true →
      PlacedBeside TaskPane.id target insertAfter p node.collectPanes
        (node.insertPaneNear target p axis insertAfter splitId).1.collectPanes
  | .pane existing, h => by
    rw [insertPaneNear] at h ⊢
    by_cases hid : existing.id = target
    · rw [if_pos hid]
      refine ⟨[], existing, [], hid, collectPanes_pane, ?_⟩
      cases insertAfter <;> rfl
    · rw [if_neg hid] at h
      cases h
  | .split id splitAxis children, h => by
    rw [insertPaneNear] at h ⊢
    split at h
    · next children' hamong =>
      split_ifs at hamong with haxis
      simpa using insertAmong_panes hamong
    · simpa using insertPaneNearIn_panes h

theorem insertPaneNearIn_panes : ∀ {children : List (SplitChild (WorkspaceNode K))},
    (insertPaneNearIn target p axis insertAfter splitId children).2 = true →
      PlacedBeside TaskPane.id target insertAfter p (collectPanesIn children)
        (collectPanesIn (insertPaneNearIn target p axis insertAfter splitId children).1)
  | [], h => by cases h
  | ⟨node, allocation⟩ :: children, h => by
    rw [insertPaneNearIn] at h ⊢
    split_ifs at h ⊢ with hnode
    · exact (insertPaneNear_panes h).append_right _
    · exact (insertPaneNearIn_panes h).append_left _

end

end Insert

end WorkspaceNode

namespace Workspace

open WorkspaceNode

variable {K : Type} [DecidableEq K] {w next : Workspace K} {ids : FreshIds}

/-! ## The order of the panes -/

omit [DecidableEq K] in
theorem WellFormed.nodup_ids (hw : w.WellFormed) : ((panesOf w.root).map TaskPane.id).Nodup := by
  cases hroot : w.root with
  | none => exact nodup_nil
  | some => exact (hw.tree _ hroot).paneIds

omit [DecidableEq K] in
theorem pane_eq_find? (w : Workspace K) (id : PaneId) :
    w.pane id = (panesOf w.root).find? fun p => p.id = id := by
  unfold pane
  cases w.root with
  | none => rfl
  | some => exact findPane_eq _ id

theorem movePaneToEdge_panes {source target} {edge : Edge} (hw : w.WellFormed)
    (h : w.movePaneToEdge source target edge ids = (.ok (), next)) :
    ∃ moved, w.pane source = some moved ∧
      PlacedBeside TaskPane.id target edge.insertsAfter moved
        ((panesOf w.root).filter fun p => p.id ≠ source) (panesOf next.root) := by
  rw [movePaneToEdge, commit_eq_ok] at h
  simp only [ok_iff] at h
  obtain ⟨root, hroot, moved, hmoved, without, hwithout, hins, -, -, rfl⟩ := h
  obtain ⟨hpanes, hrem⟩ := removePaneNode_panes source root
  have hids := hw.nodup_ids
  rw [hwithout] at hpanes
  rw [pane_eq_find?, hroot]
  rw [hroot] at hids
  have hleft : without.collectPanes = (panesOf (some root)).filter fun p => p.id ≠ source :=
    hpanes.trans (eraseP_key hids)
  refine ⟨moved, hrem.symm.trans hmoved, ?_⟩
  rw [← hleft]
  exact insertPaneNear_panes edge.axis edge.insertsAfter (ids.split 0) (by simpa using hins)

theorem insertBeside_panes {taskId : K} {target id} {edge : Edge}
    (h : w.insertBeside taskId target edge ids = (.ok id, next)) :
    match w.root with
    | none => panesOf next.root = [.new ids.pane taskId 1]
    | some root =>
      PlacedBeside TaskPane.id target edge.insertsAfter
        (.new ids.pane taskId (nextFocusClock w.focusClock)) root.collectPanes
        (panesOf next.root) := by
  unfold insertBeside at h
  split_ifs at h with htask
  · cases h
  · cases hroot : w.root with
    | none =>
      simp only [hroot] at h
      cases h
      exact collectPanes_pane
    | some root =>
      simp only [hroot, commit_eq_ok, ok_iff] at h
      obtain ⟨hins, -, rfl, rfl⟩ := h
      exact insertPaneNear_panes edge.axis edge.insertsAfter (ids.split 0) (by simpa using hins)

/-- On a valid workspace: after a move to an edge the panes are the old ones with the source taken
out and put back right before the target (left, top) or right after it (right, bottom), so
no pane is lost and the others keep their order. The pane that `insert_beside` opens takes its
place by the same law. -/
theorem movePane_panes (hw : w.validate = .ok ()) :
    (∀ source target edge ids next,
      w.movePane source (.edge target edge) ids = (.ok (), next) →
        ∃ moved, w.pane source = some moved ∧
          PlacedBeside TaskPane.id target edge.insertsAfter moved
            ((panesOf w.root).filter fun p => p.id ≠ source) (panesOf next.root) ∧
          (panesOf next.root).Perm (panesOf w.root) ∧
          (panesOf next.root).filter (fun p => p.id ≠ source) =
            (panesOf w.root).filter fun p => p.id ≠ source) ∧
    ∀ taskId target edge ids id
      next, w.insertBeside taskId target edge ids = (.ok id, next) →
        match w.root with
        | none => panesOf next.root = [.new ids.pane taskId 1]
        | some root =>
          PlacedBeside TaskPane.id target edge.insertsAfter
            (.new ids.pane taskId (nextFocusClock w.focusClock)) root.collectPanes
            (panesOf next.root) := by
  have hwell := validate_eq_ok.mp hw
  refine ⟨?_, fun taskId target edge ids id next h => insertBeside_panes h⟩
  intro source target edge ids next h
  unfold movePane at h
  split_ifs at h
  · cases h
  · cases h
  · obtain ⟨moved, hmoved, hbeside⟩ := movePaneToEdge_panes hwell h
    have hfind := hmoved
    rw [pane_eq_find?] at hfind
    have hid : moved.id = source := ((find?_key_eq_some hwell.nodup_ids).mp hfind).2
    have hsame := hbeside.filter_ne
    rw [hid, filter_filter] at hsame
    refine ⟨moved, hmoved, hbeside, ?_, ?_⟩
    · exact hbeside.perm.trans (perm_cons_filter hwell.nodup_ids hfind).symm
    · simpa using hsame

def sampleColumns : Workspace ℕ where
  root := some (.split ⟨10⟩ .horizontal [.auto (.pane (.new ⟨0⟩ 0 1)),
    .auto (.split ⟨11⟩ .vertical [.auto (.pane (.new ⟨1⟩ 1 2)), .auto (.pane (.new ⟨2⟩ 2 3))])])
  focused := some ⟨0⟩
  previousFocus := some ⟨1⟩
  focusClock := 3
  zoomed := some ⟨2⟩

/-- The upper pane of the column goes before the left one; its column collapses. -/
theorem movePane_panes_sampleColumns :
    ∃ moved, sampleColumns.pane ⟨1⟩ = some moved ∧
      PlacedBeside TaskPane.id ⟨0⟩ false moved
        ((panesOf sampleColumns.root).filter fun p => p.id ≠ ⟨1⟩)
        (panesOf (sampleColumns.movePane ⟨1⟩ (.edge ⟨0⟩ .left) (sampleIds 12)).2.root) := by
  have hvalid : sampleColumns.validate = .ok () := by decide
  obtain ⟨moved, hmoved, hbeside, -⟩ := (movePane_panes hvalid).1 ⟨1⟩ ⟨0⟩ .left (sampleIds 12) _
    (Prod.ext (by decide) rfl)
  exact ⟨moved, hmoved, hbeside⟩

end Workspace

end DevManager
