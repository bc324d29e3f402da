import DevManager.Ui.LayoutTree

/-!
# Valid pane trees

`validate_node` walks a tree with three sets and fails on anything it meets twice.
`Valid` says what it accepts, and every edit of `layout.rs` keeps a tree valid: those
that set sizes and those that build a grid are described here, the others in
`LayoutTree`.

* `validateNode_empty`: `validate_node` accepts the valid trees.
* `gridTree_spec`: a grid has the panes it is built from, in order.
* `Replaced.valid`, `Grown.valid`, `Removed.valid`, `Resized.valid`, `swapped_valid`:
  what each edit asks for to keep a tree valid.
-/

namespace DevManager

open List

namespace WorkspaceNode

variable {K : Type}

/-! ## Sizes -/

/-- `next` is `node` with other allocations. -/
structure Resized (node next : WorkspaceNode K) : Prop where
  panes : next.collectPanes = node.collectPanes
  splits : next.splitIds = node.splitIds
  shaped : node.Shaped → next.Shaped

/-- The same for the children of a split. -/
structure ResizedIn (children next : List (SplitChild (WorkspaceNode K))) : Prop where
  panes : collectPanesIn next = collectPanesIn children
  splits : splitIdsIn next = splitIdsIn children
  length : next.length = children.length
  shaped : ShapedIn children → ShapedIn next

section Resize

variable {node node' : WorkspaceNode K} {allocation current : Allocation} {id : SplitId}
  {axis : Axis} {children children' : List (SplitChild (WorkspaceNode K))}

theorem ResizedIn.refl : ResizedIn children children := ⟨rfl, rfl, rfl, fun h => h⟩

theorem Resized.refl : Resized node node := ⟨rfl, rfl, fun h => h⟩

theorem ResizedIn.split (h : ResizedIn children children') :
    Resized (.split id axis children) (.split id axis children') := by
  refine ⟨?_, ?_, ?_⟩
  · rw [collectPanes_split, collectPanes_split, h.panes]
  · rw [splitIds_split, splitIds_split, h.splits]
  · rw [shaped_split, shaped_split, h.length]
    exact fun hchild => ⟨hchild.1, h.shaped hchild.2⟩

theorem ResizedIn.cons (hnode : Resized node node')
    (hvalid : current.isValid = true → allocation.isValid = true)
    (h : ResizedIn children children') :
    ResizedIn (⟨node, current⟩ :: children) (⟨node', allocation⟩ :: children') := by
  refine ⟨?_, ?_, ?_, ?_⟩
  · rw [collectPanesIn_cons, collectPanesIn_cons, hnode.panes, h.panes]
  · rw [splitIdsIn_cons, splitIdsIn_cons, hnode.splits, h.splits]
  · rw [length_cons, length_cons, h.length]
  · exact fun hall => ⟨hvalid hall.1, hnode.shaped hall.2.1, h.shaped hall.2.2⟩

theorem resizedIn_modify (hvalid : allocation.isValid = true) (index : ℕ) :
    ResizedIn children
      (children.modify index fun child => { child with allocation }) := by
  induction children generalizing index with
  | nil =>
    rw [modify_nil]
    exact .refl
  | cons child children ih =>
    cases index with
    | zero =>
      rw [modify_zero_cons]
      exact ResizedIn.cons .refl (fun _ => hvalid) .refl
    | succ index =>
      rw [modify_succ_cons]
      exact ResizedIn.cons .refl (fun h => h) (ih index)

section Task

variable [DecidableEq K] (taskId : K)

mutual

theorem setTaskAllocation_resized (hvalid : allocation.isValid = true) :
    ∀ node, Resized node (node.setTaskAllocation taskId allocation).1
  | .pane p => by
    rw [setTaskAllocation]
    exact .refl
  | .split id axis children => by
    rw [setTaskAllocation]
    exact (setTaskAllocationIn_resized hvalid children).split

theorem setTaskAllocationIn_resized (hvalid : allocation.isValid = true) :
    ∀ children, ResizedIn children (setTaskAllocationIn taskId allocation children).1
  | [] => .refl
  | ⟨node, current⟩ :: children => by
    rw [setTaskAllocationIn]
    split_ifs
    · refine ResizedIn.cons (setTaskAllocation_resized hvalid node) (fun hcur => ?_) .refl
      split_ifs
      · exact hcur
      · exact hvalid
    · exact ResizedIn.cons .refl (fun h => h) (setTaskAllocationIn_resized hvalid children)

end

variable (allocation)

mutual

theorem setTaskAllocation_of_false : ∀ node : WorkspaceNode K,
    (node.setTaskAllocation taskId allocation).2 = false →
      (node.setTaskAllocation taskId allocation).1 = node
  | .pane p, _ => by rw [setTaskAllocation]
  | .split id axis children, h => by
    rw [setTaskAllocation] at h ⊢
    show split id axis (setTaskAllocationIn taskId allocation children).1 = _
    rw [setTaskAllocationIn_of_false children h]

theorem setTaskAllocationIn_of_false : ∀ children,
    (setTaskAllocationIn taskId allocation children).2 = false →
      (setTaskAllocationIn taskId allocation children).1 = children
  | [], _ => rfl
  | ⟨node, current⟩ :: children, h => by
    rw [setTaskAllocationIn] at h ⊢
    split_ifs at h ⊢ with hhas
    show ⟨node, current⟩ :: (setTaskAllocationIn taskId allocation children).1 = _
    rw [setTaskAllocationIn_of_false children h]

end

end Task

section Split

variable {splitId : SplitId}
  {edit : List (SplitChild (WorkspaceNode K)) → List (SplitChild (WorkspaceNode K))}

mutual

theorem updateSplit_resized (hedit : ∀ children, ResizedIn children (edit children)) :
    ∀ {node next : WorkspaceNode K}, node.updateSplit splitId edit = some next → Resized node next
  | .pane p, next, h => by cases h
  | .split id axis children, next, h => by
    rw [updateSplit] at h
    split_ifs at h with hid
    · cases h
      exact (hedit children).split
    · obtain ⟨children', hchild, rfl⟩ := Option.map_eq_some_iff.mp h
      exact (updateSplitIn_resized hedit hchild).split

theorem updateSplitIn_resized (hedit : ∀ children, ResizedIn children (edit children)) :
    ∀ {children next : List (SplitChild (WorkspaceNode K))},
      updateSplitIn splitId edit children = some next → ResizedIn children next
  | [], next, h => by cases h
  | ⟨node, allocation⟩ :: children, next, h => by
    rw [updateSplitIn] at h
    cases hnode : node.updateSplit splitId edit with
    | some node' =>
      rw [hnode] at h
      cases h
      exact ResizedIn.cons (updateSplit_resized hedit hnode) (fun h => h) .refl
    | none =>
      rw [hnode] at h
      obtain ⟨children', hchild, rfl⟩ := Option.map_eq_some_iff.mp h
      exact ResizedIn.cons .refl (fun h => h) (updateSplitIn_resized hedit hchild)

end

end Split

end Resize

/-! ## Building a grid -/

/-- The children that the loop of `grid_tree` collects for a row. -/
def cells (panes : List (TaskPane K)) : List (SplitChild (WorkspaceNode K)) :=
  panes.map fun p => .auto (.pane p)

section Grid

variable {ids : ℕ → SplitId} {rows : List (WorkspaceNode K)} {panes cs : List (TaskPane K)}

@[simp] theorem collectPanesIn_cells : collectPanesIn (cells panes) = panes := by
  induction panes with
  | nil => rfl
  | cons p panes ih => exact congrArg (p :: ·) ih

@[simp] theorem splitIdsIn_cells : splitIdsIn (cells panes) = [] := by
  induction panes with
  | nil => rfl
  | cons p panes ih => exact ih

@[simp] theorem shapedIn_cells : ShapedIn (cells panes) := by
  induction panes with
  | nil => trivial
  | cons p panes ih => exact ⟨isValid_default, shaped_pane, ih⟩

theorem gridRow_cells (splitId : SplitId) (h : cs ≠ []) :
    (gridRow splitId (cells cs)).collectPanes = cs ∧
      (gridRow splitId (cells cs)).splitIds.Sublist [splitId] ∧
      (gridRow splitId (cells cs)).Shaped := by
  match cs, h with
  | [p], _ => exact ⟨rfl, nil_sublist _, shaped_pane⟩
  | p :: q :: rest, _ =>
    refine ⟨?_, ?_, ?_⟩
    · show collectPanesIn (cells (p :: q :: rest)) = _
      exact collectPanesIn_cells
    · show (splitId :: splitIdsIn (cells (p :: q :: rest))).Sublist _
      rw [splitIdsIn_cells]
    · show 2 ≤ (cells (p :: q :: rest)).length ∧ ShapedIn (cells (p :: q :: rest))
      exact ⟨by simp [cells], shapedIn_cells⟩

/-- Rows that draw at most one split each, in the order of the supply. -/
structure RowsDrawn (ids : ℕ → SplitId) (rows : List (WorkspaceNode K)) : Prop where
  shaped : ∀ row ∈ rows, row.Shaped
  splits : (rows.flatMap splitIds).Sublist ((List.range rows.length).map ids)

theorem RowsDrawn.concat (h : RowsDrawn ids rows) (hcs : cs ≠ []) :
    RowsDrawn ids (rows ++ [gridRow (ids rows.length) (cells cs)]) := by
  obtain ⟨-, hsplits, hshaped⟩ := gridRow_cells (ids rows.length) hcs
  refine ⟨?_, ?_⟩
  · intro row hrow
    rw [mem_append, mem_singleton] at hrow
    rcases hrow with hrow | rfl
    · exact h.shaped row hrow
    · exact hshaped
  · rw [flatMap_append, length_append, length_singleton, range_succ, map_append]
    refine h.splits.append ?_
    rw [flatMap_singleton]
    exact hsplits

variable (columns : ℕ)

theorem gridRows_drawn (panes : List (TaskPane K)) :
    ∀ rows cs, RowsDrawn ids rows →
      RowsDrawn ids (gridRows columns ids panes rows (cells cs)) ∧
        (gridRows columns ids panes rows (cells cs)).flatMap collectPanes =
          rows.flatMap collectPanes ++ (cs ++ panes) := by
  induction panes with
  | nil =>
    intro rows cs h
    rw [gridRows]
    split_ifs with hnil
    · have hcs : cs = [] := by simpa [cells] using hnil
      subst hcs
      exact ⟨h, by simp⟩
    · have hcs : cs ≠ [] := by
        rintro rfl
        exact hnil rfl
      refine ⟨h.concat hcs, ?_⟩
      rw [flatMap_append, flatMap_singleton, (gridRow_cells _ hcs).1, append_nil]
  | cons p panes ih =>
    intro rows cs h
    have hcells : cells cs ++ [.auto (.pane p)] = cells (cs ++ [p]) := by simp [cells]
    have hne : cs ++ [p] ≠ [] := by simp
    rw [gridRows, hcells]
    split_ifs
    · obtain ⟨hdrawn, hpanes⟩ := ih _ [] (h.concat hne)
      refine ⟨hdrawn, hpanes.trans ?_⟩
      rw [flatMap_append, flatMap_singleton, (gridRow_cells _ hne).1]
      simp
    · obtain ⟨hdrawn, hpanes⟩ := ih rows (cs ++ [p]) h
      refine ⟨hdrawn, hpanes.trans ?_⟩
      simp

variable (rows)

theorem collectPanesIn_rows :
    collectPanesIn (rows.map .auto) = rows.flatMap collectPanes := by
  rw [collectPanesIn_eq, flatMap_map]
  rfl

theorem splitIdsIn_rows :
    splitIdsIn (rows.map .auto) = rows.flatMap splitIds := by
  rw [splitIdsIn_eq, flatMap_map]
  rfl

variable {rows}

theorem shapedIn_rows (h : RowsDrawn ids rows) : ShapedIn (rows.map .auto) := by
  rw [shapedIn_iff, forall_mem_map]
  exact fun row hrow => ⟨isValid_default, h.shaped row hrow⟩

theorem RowsDrawn.index_of_mem (h : RowsDrawn ids rows) {id}
    (hid : id ∈ rows.flatMap splitIds) : ∃ i < rows.length, ids i = id := by
  obtain ⟨i, hi, rfl⟩ := mem_map.mp (h.splits.subset hid)
  exact ⟨i, mem_range.mp hi, rfl⟩

theorem gridTree_rows (ids : ℕ → SplitId) (hne : panes ≠ []) :
    ∃ rows, RowsDrawn ids rows ∧ rows.flatMap collectPanes = panes ∧
      rows = gridRows (max columns 1) ids panes [] [] ∧
      gridTree panes columns ids = match rows with
        | [row] => some row
        | rows => some (split (ids rows.length) .vertical (rows.map .auto)) := by
  obtain ⟨hdrawn, hpanes⟩ := gridRows_drawn (max columns 1) panes [] []
    (⟨by simp, by simp⟩ : RowsDrawn ids [])
  rw [flatMap_nil, nil_append, nil_append] at hpanes
  refine ⟨_, hdrawn, hpanes, rfl, ?_⟩
  rw [gridTree, if_neg (by simpa using hne)]
  rfl

theorem gridTree_panes (ids : ℕ → SplitId) (hne : panes ≠ []) :
    ∃ next, gridTree panes columns ids = some next ∧ next.collectPanes = panes := by
  obtain ⟨rows, -, hpanes, -, hgrid⟩ := gridTree_rows columns ids hne
  rw [hgrid]
  split
  · next row =>
    rw [flatMap_singleton] at hpanes
    exact ⟨row, rfl, hpanes⟩
  · refine ⟨_, rfl, ?_⟩
    rw [collectPanes_split, collectPanesIn_rows, hpanes]

theorem gridTree_spec (hinj : Function.Injective ids) (hne : panes ≠ []) :
    ∃ next, gridTree panes columns ids = some next ∧ next.collectPanes = panes ∧ next.Shaped ∧
      next.splitIds.Nodup ∧ ∀ id ∈ next.splitIds, ∃ i, ids i = id := by
  obtain ⟨tree, htree, hcollect⟩ := gridTree_panes columns ids hne
  obtain ⟨rows, hdrawn, hpanes, -, hgrid⟩ := gridTree_rows columns ids hne
  have hnodup := hdrawn.splits.nodup (nodup_range.map hinj)
  refine ⟨tree, htree, hcollect, ?_⟩
  rw [hgrid] at htree
  split at htree
  · cases htree
    rw [flatMap_singleton] at hnodup
    refine ⟨hdrawn.shaped tree (.head _), hnodup, fun id hid => ?_⟩
    obtain ⟨i, -, hi⟩ := hdrawn.index_of_mem (by rwa [flatMap_singleton])
    exact ⟨i, hi⟩
  · next hone =>
    cases htree
    refine ⟨?_, ?_, ?_⟩
    · rw [shaped_split, length_map]
      refine ⟨?_, shapedIn_rows hdrawn⟩
      match rows, hone, hpanes with
      | [], _, hpanes => exact absurd hpanes.symm hne
      | [row], hone, _ => exact absurd rfl (hone row)
      | _ :: _ :: rest, _, _ => simp
    · rw [splitIds_split, splitIdsIn_rows, nodup_cons]
      refine ⟨fun hmem => ?_, hnodup⟩
      obtain ⟨i, hi, heq⟩ := hdrawn.index_of_mem hmem
      exact absurd (hinj heq) hi.ne
    · rw [splitIds_split, splitIdsIn_rows]
      intro id hid
      rcases mem_cons.mp hid with rfl | hid
      · exact ⟨_, rfl⟩
      · obtain ⟨i, -, hi⟩ := hdrawn.index_of_mem hid
        exact ⟨i, hi⟩

end Grid

/-! ## What `validate_node` checks -/

/-- What a tree must be: shaped, focused at a time in every pane, and without a pane, a task or a
split twice. -/
structure Valid (node : WorkspaceNode K) : Prop where
  shaped : node.Shaped
  focused : ∀ p ∈ node.collectPanes, p.lastFocusedAt ≠ 0
  paneIds : (node.collectPanes.map TaskPane.id).Nodup
  taskIds : (node.collectPanes.map TaskPane.taskId).Nodup
  splitIds : node.splitIds.Nodup

namespace Seen

/-- The sets after a tree with these panes and splits, the newest first. -/
def add (seen : Seen K) (panes : List (TaskPane K)) (splits : List SplitId) : Seen K where
  paneIds := (panes.map TaskPane.id).reverse ++ seen.paneIds
  taskIds := (panes.map TaskPane.taskId).reverse ++ seen.taskIds
  splitIds := splits.reverse ++ seen.splitIds

/-- Nothing was seen twice. -/
structure Distinct (seen : Seen K) : Prop where
  paneIds : seen.paneIds.Nodup
  taskIds : seen.taskIds.Nodup
  splitIds : seen.splitIds.Nodup

variable {seen : Seen K} {panes panes' : List (TaskPane K)} {splits splits' : List SplitId}

theorem add_add :
    (seen.add panes splits).add panes' splits' = seen.add (panes ++ panes')
    (splits ++ splits') := by
  simp [add, map_append, reverse_append, append_assoc]

theorem Distinct.of_add (h : (seen.add panes splits).Distinct) : seen.Distinct :=
  ⟨h.paneIds.of_append_right, h.taskIds.of_append_right, h.splitIds.of_append_right⟩

theorem distinct_add_pane {p} (h : seen.Distinct) :
    (seen.add [p] []).Distinct ↔ p.id ∉ seen.paneIds ∧ p.taskId ∉ seen.taskIds := by
  constructor
  · exact fun haddr => ⟨(nodup_cons.mp haddr.paneIds).1, (nodup_cons.mp haddr.taskIds).1⟩
  · exact fun hnew => ⟨nodup_cons.mpr ⟨hnew.1, h.paneIds⟩,
      nodup_cons.mpr ⟨hnew.2, h.taskIds⟩, h.splitIds⟩

theorem distinct_add_split {id} (h : seen.Distinct) :
    (seen.add [] [id]).Distinct ↔ id ∉ seen.splitIds := by
  constructor
  · exact fun haddr => (nodup_cons.mp haddr.splitIds).1
  · exact fun hnew => ⟨h.paneIds, h.taskIds, nodup_cons.mpr ⟨hnew, h.splitIds⟩⟩

end Seen

section Validate

variable [DecidableEq K]

mutual

theorem validateNode_eq_ok : ∀ (node : WorkspaceNode K) {seen seen' : Seen K}, seen.Distinct →
    (node.validateNode seen = .ok seen' ↔
      node.Shaped ∧ (∀ p ∈ node.collectPanes, p.lastFocusedAt ≠ 0) ∧
        (seen.add node.collectPanes node.splitIds).Distinct ∧
        seen' = seen.add node.collectPanes node.splitIds)
  | .pane p, seen, seen', hseen => by
    rw [validateNode, collectPanes_pane, splitIds_pane, Seen.distinct_add_pane hseen]
    simp only [ok_iff, not_or, shaped_pane, true_and, List.forall_mem_singleton, and_assoc]
    exact Iff.rfl
  | .split id axis children, seen, seen', hseen => by
    rw [validateNode, collectPanes_split, splitIds_split, shaped_split]
    simp only [ok_iff, not_or, not_lt]
    have haddr : seen.add (collectPanesIn children) (id :: splitIdsIn children) =
        (seen.add [] [id]).add (collectPanesIn children) (splitIdsIn children) := by
      rw [Seen.add_add]
      rfl
    rw [haddr, ← Seen.distinct_add_split hseen]
    constructor
    · rintro ⟨⟨hlen, hid⟩, h⟩
      obtain ⟨hshaped, hfocus, hdist, heq⟩ := (validateNodeIn_eq_ok children hid).mp h
      exact ⟨⟨hlen, hshaped⟩, hfocus, hdist, heq⟩
    · rintro ⟨⟨hlen, hshaped⟩, hfocus, hdist, heq⟩
      exact ⟨⟨hlen, hdist.of_add⟩, (validateNodeIn_eq_ok children hdist.of_add).mpr
        ⟨hshaped, hfocus, hdist, heq⟩⟩

theorem validateNodeIn_eq_ok : ∀ (children : List (SplitChild (WorkspaceNode K)))
    {seen seen' : Seen K}, seen.Distinct →
    (validateNodeIn children seen = .ok seen' ↔
      ShapedIn children ∧ (∀ p ∈ collectPanesIn children, p.lastFocusedAt ≠ 0) ∧
        (seen.add (collectPanesIn children) (splitIdsIn children)).Distinct ∧
        seen' = seen.add (collectPanesIn children) (splitIdsIn children))
  | [], seen, seen', hseen => by
    rw [validateNodeIn, pure_eq_ok]
    exact ⟨fun h => ⟨trivial, by simp, hseen, h⟩, fun h => h.2.2.2⟩
  | ⟨node, allocation⟩ :: children, seen, seen', hseen => by
    rw [validateNodeIn, collectPanesIn_cons, splitIdsIn_cons, shapedIn_cons, ← Seen.add_add]
    simp only [ok_iff, forall_mem_append]
    constructor
    · rintro ⟨hvalid, seen₁, hnode, hchild⟩
      obtain ⟨hshaped, hfocus, hdist, rfl⟩ := (validateNode_eq_ok node hseen).mp hnode
      obtain ⟨hshaped', hfocus', hdist', heq⟩ :=
        (validateNodeIn_eq_ok children hdist).mp hchild
      exact ⟨⟨hvalid, hshaped, hshaped'⟩, ⟨hfocus, hfocus'⟩, hdist', heq⟩
    · rintro ⟨⟨hvalid, hshaped, hshaped'⟩, ⟨hfocus, hfocus'⟩, hdist, heq⟩
      exact ⟨hvalid, _, (validateNode_eq_ok node hseen).mpr
        ⟨hshaped, hfocus, hdist.of_add, rfl⟩,
        (validateNodeIn_eq_ok children hdist.of_add).mpr ⟨hshaped', hfocus', hdist, heq⟩⟩

end

theorem validateNode_empty {node : WorkspaceNode K} {seen} :
    node.validateNode ⟨[], [], []⟩ = .ok seen ↔
      node.Valid ∧ seen = Seen.add ⟨[], [], []⟩ node.collectPanes node.splitIds := by
  have hnil : (⟨[], [], []⟩ : Seen K).Distinct := ⟨nodup_nil, nodup_nil, nodup_nil⟩
  rw [validateNode_eq_ok node hnil]
  constructor
  · rintro ⟨hshaped, hfocus, ⟨hpanes, htasks, hsplits⟩, heq⟩
    simp only [Seen.add, append_nil, nodup_reverse] at hpanes htasks hsplits
    exact ⟨⟨hshaped, hfocus, hpanes, htasks, hsplits⟩, heq⟩
  · rintro ⟨hvalid, heq⟩
    refine ⟨hvalid.shaped, hvalid.focused, ⟨?_, ?_, ?_⟩, heq⟩
    · simpa [Seen.add] using hvalid.paneIds
    · simpa [Seen.add] using hvalid.taskIds
    · simpa [Seen.add] using hvalid.splitIds

end Validate

/-! ## Edits of valid trees -/

section Edits

variable {node next : WorkspaceNode K} {p q : TaskPane K} {splitId : SplitId}

theorem Resized.valid (h : Resized node next) (hvalid : node.Valid) : next.Valid := by
  refine ⟨h.shaped hvalid.shaped, ?_, ?_, ?_, ?_⟩
  · rw [h.panes]
    exact hvalid.focused
  · rw [h.panes]
    exact hvalid.paneIds
  · rw [h.panes]
    exact hvalid.taskIds
  · rw [h.splits]
    exact hvalid.splitIds

theorem Replaced.perm_ids (h : Replaced p q node next) (hid : q.id = p.id) :
    (next.collectPanes.map TaskPane.id).Perm (node.collectPanes.map TaskPane.id) := by
  obtain ⟨rest, hnode, hnext⟩ := h.panes
  have hsame : (q :: rest).map TaskPane.id = (p :: rest).map TaskPane.id := by
    rw [map_cons, map_cons, hid]
  exact (hnext.map _).trans (hsame ▸ (hnode.map _).symm)

theorem Replaced.valid (h : Replaced p q node next) (hvalid : node.Valid) (hid : q.id = p.id)
    (hfocus : q.lastFocusedAt ≠ 0)
    (htask : q.taskId = p.taskId ∨ q.taskId ∉ node.collectPanes.map TaskPane.taskId) :
    next.Valid := by
  obtain ⟨rest, hnode, hnext⟩ := h.panes
  refine ⟨h.shaped hvalid.shaped, ?_, ?_, ?_, ?_⟩
  · intro r hr
    rcases mem_cons.mp (hnext.mem_iff.mp hr) with rfl | hrest
    · exact hfocus
    · exact hvalid.focused r (hnode.mem_iff.mpr (.tail _ hrest))
  · exact (h.perm_ids hid).nodup_iff.mpr hvalid.paneIds
  · have htasks : ((p :: rest).map TaskPane.taskId).Nodup :=
      (hnode.map _).nodup_iff.mp hvalid.taskIds
    rw [(hnext.map TaskPane.taskId).nodup_iff, map_cons, nodup_cons]
    rw [map_cons, nodup_cons] at htasks
    refine ⟨fun hmem => ?_, htasks.2⟩
    rcases htask with hsame | hnew
    · rw [hsame] at hmem
      exact htasks.1 hmem
    · exact hnew ((hnode.map TaskPane.taskId).mem_iff.mpr (.tail _ hmem))
  · rw [h.splits]
    exact hvalid.splitIds

theorem Grown.valid (h : Grown p splitId node next) (hvalid : node.Valid)
    (hfocus : p.lastFocusedAt ≠ 0) (hid : p.id ∉ node.collectPanes.map TaskPane.id)
    (htask : p.taskId ∉ node.collectPanes.map TaskPane.taskId)
    (hsplit : splitId ∉ node.splitIds) : next.Valid := by
  refine ⟨h.shaped hvalid.shaped, ?_, ?_, ?_, ?_⟩
  · intro r hr
    rcases mem_cons.mp (h.panes.mem_iff.mp hr) with rfl | hold
    · exact hfocus
    · exact hvalid.focused r hold
  · exact (h.panes.map _).nodup_iff.mpr (nodup_cons.mpr ⟨hid, hvalid.paneIds⟩)
  · exact (h.panes.map _).nodup_iff.mpr (nodup_cons.mpr ⟨htask, hvalid.taskIds⟩)
  · rcases h.splits with hsame | hnew
    · exact hsame.nodup_iff.mpr hvalid.splitIds
    · exact hnew.nodup_iff.mpr (nodup_cons.mpr ⟨hsplit, hvalid.splitIds⟩)

variable {left : Option (WorkspaceNode K)}

theorem Removed.valid (h : Removed p node left) (hvalid : node.Valid) :
    ∀ node' ∈ left, node'.Valid := by
  rintro node' ⟨⟩
  have hpanes : node.collectPanes.Perm (p :: node'.collectPanes) := h.panes
  refine ⟨h.shaped hvalid.shaped node' rfl, ?_, ?_, ?_, ?_⟩
  · intro r hr
    exact hvalid.focused r (hpanes.mem_iff.mpr (.tail _ hr))
  · exact (nodup_cons.mp ((hpanes.map _).nodup_iff.mp hvalid.paneIds)).2
  · exact (nodup_cons.mp ((hpanes.map _).nodup_iff.mp hvalid.taskIds)).2
  · exact h.splits.nodup hvalid.splitIds

theorem Removed.not_mem (h : Removed p node left) (hvalid : node.Valid) :
    p.id ∉ (panesOf left).map TaskPane.id ∧ p.taskId ∉ (panesOf left).map TaskPane.taskId :=
  ⟨(nodup_cons.mp ((h.panes.map _).nodup_iff.mp hvalid.paneIds)).1,
    (nodup_cons.mp ((h.panes.map _).nodup_iff.mp hvalid.taskIds)).1⟩

theorem Valid.eq_of_id (hvalid : node.Valid) (hp : p ∈ node.collectPanes)
    (hq : q ∈ node.collectPanes) (h : p.id = q.id) : p = q :=
  inj_on_of_nodup_map hvalid.paneIds hp hq h

end Edits

/-! ### Swapping two panes -/

section Swap

variable {node mid next : WorkspaceNode K} {first second : TaskPane K}

theorem swapped_valid (hvalid : node.Valid) (hfst : first ∈ node.collectPanes)
    (hsnd : second ∈ node.collectPanes)
    (hmid : Replaced first { second with id := first.id } node mid)
    (hnext : Replaced second { first with id := second.id } mid next) :
    next.Valid ∧ (next.collectPanes.map TaskPane.id).Perm (node.collectPanes.map TaskPane.id) := by
  obtain ⟨rest, hnode, hmid'⟩ := hmid.panes
  obtain ⟨rest', hmid'', hne'⟩ := hnext.panes
  have hids : (next.collectPanes.map TaskPane.id).Perm (node.collectPanes.map TaskPane.id) :=
    (hnext.perm_ids rfl).trans (hmid.perm_ids rfl)
  have hrest : (rest'.map TaskPane.taskId).Perm (rest.map TaskPane.taskId) :=
    List.Perm.cons_inv ((hmid''.map TaskPane.taskId).symm.trans (hmid'.map TaskPane.taskId))
  have htasks : (next.collectPanes.map TaskPane.taskId).Perm
      (node.collectPanes.map TaskPane.taskId) :=
    ((hne'.map TaskPane.taskId).trans (hrest.cons _)).trans (hnode.map TaskPane.taskId).symm
  refine ⟨⟨hnext.shaped (hmid.shaped hvalid.shaped), ?_, ?_, ?_, ?_⟩, hids⟩
  · have hfocus : ∀ r ∈ mid.collectPanes, r.lastFocusedAt ≠ 0 := by
      intro r hr
      rcases mem_cons.mp (hmid'.mem_iff.mp hr) with rfl | hr
      · exact hvalid.focused second hsnd
      · exact hvalid.focused r (hnode.mem_iff.mpr (.tail _ hr))
    intro r hr
    rcases mem_cons.mp (hne'.mem_iff.mp hr) with rfl | hr
    · exact hvalid.focused first hfst
    · exact hfocus r (hmid''.mem_iff.mpr (.tail _ hr))
  · exact hids.nodup_iff.mpr hvalid.paneIds
  · exact htasks.nodup_iff.mpr hvalid.taskIds
  · rw [hnext.splits, hmid.splits]
    exact hvalid.splitIds

theorem findPane_swapped (hvalid : node.Valid) (hsnd : second ∈ node.collectPanes)
    (hne : first.id ≠ second.id) (hmid : Replaced first { second with id := first.id } node mid) :
    mid.findPane second.id = some second := by
  obtain ⟨rest, hnode, hmid'⟩ := hmid.panes
  have hhas : mid.containsPane second.id = true := by
    have hmem : second.id ∈ mid.collectPanes.map TaskPane.id :=
      (hmid.perm_ids rfl).mem_iff.mpr (mem_map_of_mem hsnd)
    rw [containsPane_iff]
    simpa using hmem
  obtain ⟨r, hr⟩ := Option.isSome_iff_exists.mp hhas
  obtain ⟨hrmid, hrid⟩ := findPane_eq_some hr
  rcases mem_cons.mp (hmid'.mem_iff.mp hrmid) with rfl | hrest
  · exact absurd hrid hne
  · have hrnode : r ∈ node.collectPanes := hnode.mem_iff.mpr (.tail _ hrest)
    rw [hr, hvalid.eq_of_id hrnode hsnd hrid]

end Swap

end WorkspaceNode

end DevManager
