import DevManager.Ui.LayoutMove

/-!
# Pinned sizes and copies with other keys

`task_axis_allocation` looks for the split child that is the pane of a task, and
`set_task_allocation` descends into the children that hold the task and sets the size
where the descent ends. Both stop at the same child, so that a pin on a group is never
taken for the pin of a panel in it.

* `setTaskAllocation_isTrue`: the update finds a child when the lookup does.
* `setTaskAllocation_eq_mapAllocations`: it sets the size of the pane of the task and keeps
  every other one.
* `mapWorkspaceNode_eq_ok`: the copy is made when no two tasks get one key.
-/

namespace DevManager

open List

namespace WorkspaceNode

variable {K : Type}

/-! ## Other allocations -/

mutual

/-- The same tree, splits and panes, with other allocations: `f` gives that of a child from its
node and the one it has. -/
def mapAllocations (f : WorkspaceNode K → Allocation → Allocation) :
    WorkspaceNode K → WorkspaceNode K
  | .pane p => .pane p
  | .split id axis children => .split id axis (mapAllocationsIn f children)

def mapAllocationsIn (f : WorkspaceNode K → Allocation → Allocation) :
    List (SplitChild (WorkspaceNode K)) → List (SplitChild (WorkspaceNode K))
  | [] => []
  | ⟨node, current⟩ :: children =>
    ⟨mapAllocations f node, f node current⟩ :: mapAllocationsIn f children

end

section Allocations

variable {f g : WorkspaceNode K → Allocation → Allocation}

mutual

@[simp] theorem collectPanes_mapAllocations : ∀ node : WorkspaceNode K,
    (node.mapAllocations f).collectPanes = node.collectPanes
  | .pane p => by
    rw [mapAllocations]
  | .split id axis children => by
    rw [mapAllocations, collectPanes_split, collectPanes_split,
      collectPanesIn_mapAllocationsIn children]

theorem collectPanesIn_mapAllocationsIn : ∀ children : List (SplitChild (WorkspaceNode K)),
    collectPanesIn (mapAllocationsIn f children) = collectPanesIn children
  | [] => rfl
  | ⟨node, current⟩ :: children => by
    rw [mapAllocationsIn, collectPanesIn_cons, collectPanesIn_cons,
      collectPanes_mapAllocations node, collectPanesIn_mapAllocationsIn children]

end

end Allocations

section Task

variable [DecidableEq K] {taskId : K} {allocation allocation' : Allocation}

/-- The new allocation of the pane of one task. -/
def allocating (taskId : K) (allocation : Allocation) (node : WorkspaceNode K)
    (current : Allocation) : Allocation :=
  if node.isTask taskId then allocation else current

@[simp] theorem isTask_pane (p : TaskPane K) : (pane p).isTask taskId =
    decide (p.taskId = taskId) :=
  rfl

@[simp] theorem isTask_split (id : SplitId) (axis : Axis)
    (children : List (SplitChild (WorkspaceNode K))) :
    (split id axis children).isTask taskId = false := rfl

@[simp] theorem isTask_mapAllocations (f : WorkspaceNode K → Allocation → Allocation)
    (node : WorkspaceNode K) : (node.mapAllocations f).isTask taskId = node.isTask taskId := by
  cases node with
  | pane p => rw [mapAllocations]
  | split id axis children =>
    rw [mapAllocations]
    rfl

theorem containsTask_of_isTask {node : WorkspaceNode K} (h : node.isTask taskId = true) :
    node.containsTask taskId = true := by
  cases node with
  | pane p => exact containsTask_iff.mpr ⟨p, by simp, of_decide_eq_true h⟩
  | split id axis children => cases h

theorem containsTask_split {id} {axis : Axis} {children} :
    (split id axis children).containsTask taskId = true ↔
      ∃ p ∈ collectPanesIn children, p.taskId = taskId := by
  rw [containsTask_iff, collectPanes_split]

/-! ## The update and the lookup -/

mutual

theorem findTaskAllocation_isSome : ∀ node : WorkspaceNode K,
    (node.findTaskAllocation taskId).isSome = true ↔
      node.isTask taskId = false ∧ node.containsTask taskId = true
  | .pane p => by
    rw [findTaskAllocation, containsTask_iff]
    simp
  | .split id axis children => by
    rw [findTaskAllocation, containsTask_split, findTaskAllocationIn_isSome axis children]
    simp

theorem findTaskAllocationIn_isSome (axis : Axis) :
    ∀ children : List (SplitChild (WorkspaceNode K)),
      (findTaskAllocationIn taskId axis children).isSome = true ↔
        ∃ p ∈ collectPanesIn children, p.taskId = taskId
  | [] => by simp [findTaskAllocationIn]
  | ⟨node, current⟩ :: children => by
    have hnode := findTaskAllocation_isSome node
    have hrest := findTaskAllocationIn_isSome axis children
    rw [findTaskAllocationIn, collectPanesIn_cons]
    simp only [mem_append, or_and_right, exists_or]
    rw [← hrest, ← containsTask_iff]
    cases htask : node.isTask taskId with
    | true => simp [containsTask_of_isTask htask]
    | false => simp [Option.isSome_or, hnode, htask]

end

mutual

theorem setTaskAllocation_isTrue : ∀ node : WorkspaceNode K,
    (node.setTaskAllocation taskId allocation).2 = true ↔
      node.isTask taskId = false ∧ node.containsTask taskId = true
  | .pane p => by
    rw [setTaskAllocation, containsTask_iff]
    simp
  | .split id axis children => by
    rw [setTaskAllocation, containsTask_split, ← setTaskAllocationIn_isTrue children]
    simp

theorem setTaskAllocationIn_isTrue : ∀ children : List (SplitChild (WorkspaceNode K)),
    (setTaskAllocationIn taskId allocation children).2 = true ↔
      ∃ p ∈ collectPanesIn children, p.taskId = taskId
  | [] => by simp [setTaskAllocationIn]
  | ⟨node, current⟩ :: children => by
    have hrest := setTaskAllocationIn_isTrue children
    rw [setTaskAllocationIn, collectPanesIn_cons]
    simp only [mem_append, or_and_right, exists_or]
    rw [← hrest, ← containsTask_iff]
    by_cases hhas : node.containsTask taskId = true
    · simp [hhas]
    · simp [hhas]

end

mutual

theorem mapAllocations_missing : ∀ {node : WorkspaceNode K},
    (∀ p ∈ node.collectPanes, p.taskId ≠ taskId) →
      node.mapAllocations (allocating taskId allocation) = node
  | .pane p, _ => by rw [mapAllocations]
  | .split id axis children, h => by
    rw [collectPanes_split] at h
    rw [mapAllocations, mapAllocationsIn_missing h]

theorem mapAllocationsIn_missing : ∀ {children : List (SplitChild (WorkspaceNode K))},
    (∀ p ∈ collectPanesIn children, p.taskId ≠ taskId) →
      mapAllocationsIn (allocating taskId allocation) children = children
  | [], _ => rfl
  | ⟨node, current⟩ :: children, h => by
    rw [collectPanesIn_cons, forall_mem_append] at h
    have htask : node.isTask taskId = false := by
      rw [Bool.eq_false_iff]
      intro htask
      obtain ⟨p, hp, heq⟩ := containsTask_iff.mp (containsTask_of_isTask htask)
      exact h.1 p hp heq
    rw [mapAllocationsIn, mapAllocations_missing h.1, mapAllocationsIn_missing h.2, allocating,
      htask]
    rfl

end

mutual

theorem setTaskAllocation_eq_mapAllocations : ∀ {node : WorkspaceNode K},
    (node.collectPanes.map TaskPane.taskId).Nodup →
      (node.setTaskAllocation taskId allocation).1 =
        node.mapAllocations (allocating taskId allocation)
  | .pane p, _ => by
    rw [setTaskAllocation, mapAllocations]
  | .split id axis children, h => by
    rw [collectPanes_split] at h
    rw [setTaskAllocation, mapAllocations, ← setTaskAllocationIn_eq_mapAllocationsIn h]

theorem setTaskAllocationIn_eq_mapAllocationsIn :
    ∀ {children : List (SplitChild (WorkspaceNode K))},
      ((collectPanesIn children).map TaskPane.taskId).Nodup →
        (setTaskAllocationIn taskId allocation children).1 =
          mapAllocationsIn (allocating taskId allocation) children
  | [], _ => rfl
  | ⟨node, current⟩ :: children, h => by
    rw [collectPanesIn_cons, map_append, nodup_append'] at h
    obtain ⟨hnode, hrest, hdisj⟩ := h
    rw [setTaskAllocationIn, mapAllocationsIn]
    by_cases hhas : node.containsTask taskId = true
    · -- the child that holds the task: the pane itself, or a split that goes on with the descent
      obtain ⟨p, hp, htaskId⟩ := containsTask_iff.mp hhas
      have hgone : ∀ q ∈ collectPanesIn children, q.taskId ≠ taskId := by
        intro q hq heq
        exact hdisj (mem_map_of_mem hp) (mem_map.mpr ⟨q, hq, heq.trans htaskId.symm⟩)
      have hdone : (node.setTaskAllocation taskId allocation).2 = !node.isTask taskId := by
        rw [Bool.eq_iff_iff, setTaskAllocation_isTrue, and_iff_left hhas]
        simp
      rw [if_pos hhas, mapAllocationsIn_missing hgone, ← setTaskAllocation_eq_mapAllocations hnode]
      show (⟨_, if (node.setTaskAllocation taskId allocation).2 then current else allocation⟩ :
        SplitChild (WorkspaceNode K)) :: _ = _
      rw [hdone, allocating]
      cases node.isTask taskId <;> rfl
    · have hgone : ∀ q ∈ node.collectPanes, q.taskId ≠ taskId := by
        intro q hq heq
        exact hhas (containsTask_iff.mpr ⟨q, hq, heq⟩)
      have htask : node.isTask taskId = false := by
        rw [Bool.eq_false_iff]
        exact fun htask => hhas (containsTask_of_isTask htask)
      rw [if_neg hhas, mapAllocations_missing hgone, allocating, htask,
        ← setTaskAllocationIn_eq_mapAllocationsIn hrest]
      rfl

end

mutual

theorem findTaskAllocation_mapAllocations : ∀ node : WorkspaceNode K,
    (node.mapAllocations (allocating taskId allocation)).findTaskAllocation taskId =
      (node.findTaskAllocation taskId).map fun found => (found.1, allocation)
  | .pane p => by
    rw [mapAllocations, findTaskAllocation]
    rfl
  | .split id axis children => by
    rw [mapAllocations, findTaskAllocation, findTaskAllocation,
      findTaskAllocationIn_mapAllocationsIn axis children]

theorem findTaskAllocationIn_mapAllocationsIn (axis : Axis) :
    ∀ children : List (SplitChild (WorkspaceNode K)),
      findTaskAllocationIn taskId axis (mapAllocationsIn (allocating taskId allocation) children) =
        (findTaskAllocationIn taskId axis children).map fun found => (found.1, allocation)
  | [] => rfl
  | ⟨node, current⟩ :: children => by
    rw [mapAllocationsIn, findTaskAllocationIn, findTaskAllocationIn, isTask_mapAllocations,
      findTaskAllocation_mapAllocations node, findTaskAllocationIn_mapAllocationsIn axis children,
      allocating]
    split_ifs
    · rfl
    · rw [Option.map_or]

end

mutual

theorem mapAllocations_mapAllocations : ∀ node : WorkspaceNode K,
    (node.mapAllocations (allocating taskId allocation)).mapAllocations
        (allocating taskId allocation') =
      node.mapAllocations (allocating taskId allocation')
  | .pane p => by
    rw [mapAllocations, mapAllocations]
  | .split id axis children => by
    rw [mapAllocations, mapAllocations, mapAllocations, mapAllocationsIn_mapAllocationsIn children]

theorem mapAllocationsIn_mapAllocationsIn : ∀ children : List (SplitChild (WorkspaceNode K)),
    mapAllocationsIn (allocating taskId allocation')
        (mapAllocationsIn (allocating taskId allocation) children) =
      mapAllocationsIn (allocating taskId allocation') children
  | [] => rfl
  | ⟨node, current⟩ :: children => by
    rw [mapAllocationsIn, mapAllocationsIn, mapAllocationsIn, mapAllocations_mapAllocations node,
      mapAllocationsIn_mapAllocationsIn children, allocating, allocating, allocating,
      isTask_mapAllocations]
    split_ifs <;> rfl

end

end Task

/-! ## Other keys -/

/-- The pane under another key. -/
def mapTask {U : Type} (f : K → U) (p : TaskPane K) : TaskPane U :=
  ⟨p.id, f p.taskId, p.presentation, p.lastFocusedAt, p.view⟩

mutual

/-- The same tree, splits and allocations, with every pane under another key. -/
def mapTasks {U : Type} (f : K → U) : WorkspaceNode K → WorkspaceNode U
  | .pane p => .pane (mapTask f p)
  | .split id axis children => .split id axis (mapTasksIn f children)

def mapTasksIn {U : Type} (f : K → U) :
    List (SplitChild (WorkspaceNode K)) → List (SplitChild (WorkspaceNode U))
  | [] => []
  | ⟨node, allocation⟩ :: children => ⟨mapTasks f node, allocation⟩ :: mapTasksIn f children

end

section Keys

variable {U : Type} {f : K → U}

@[simp] theorem length_mapTasksIn (children) :
    (mapTasksIn f children).length = children.length := by
  induction children with
  | nil => rfl
  | cons child children ih => rw [mapTasksIn, length_cons, length_cons, ih]

mutual

@[simp] theorem collectPanes_mapTasks : ∀ node : WorkspaceNode K,
    (node.mapTasks f).collectPanes = node.collectPanes.map (mapTask f)
  | .pane p => by
    rw [mapTasks, collectPanes_pane, collectPanes_pane]
    rfl
  | .split id axis children => by
    rw [mapTasks, collectPanes_split, collectPanes_split, collectPanesIn_mapTasksIn children]

theorem collectPanesIn_mapTasksIn : ∀ children : List (SplitChild (WorkspaceNode K)),
    collectPanesIn (mapTasksIn f children) = (collectPanesIn children).map (mapTask f)
  | [] => rfl
  | ⟨node, allocation⟩ :: children => by
    rw [mapTasksIn, collectPanesIn_cons, collectPanesIn_cons, map_append,
      collectPanes_mapTasks node, collectPanesIn_mapTasksIn children]

end

mutual

@[simp] theorem splitIds_mapTasks : ∀ node : WorkspaceNode K,
    (node.mapTasks f).splitIds = node.splitIds
  | .pane p => by
    rw [mapTasks, splitIds_pane, splitIds_pane]
  | .split id axis children => by
    rw [mapTasks, splitIds_split, splitIds_split, splitIdsIn_mapTasksIn children]

theorem splitIdsIn_mapTasksIn : ∀ children : List (SplitChild (WorkspaceNode K)),
    splitIdsIn (mapTasksIn f children) = splitIdsIn children
  | [] => rfl
  | ⟨node, allocation⟩ :: children => by
    rw [mapTasksIn, splitIdsIn_cons, splitIdsIn_cons, splitIds_mapTasks node,
      splitIdsIn_mapTasksIn children]

end

mutual

theorem Shaped.mapTasks : ∀ {node : WorkspaceNode K}, node.Shaped → (node.mapTasks f).Shaped
  | .pane p, _ => by
    rw [WorkspaceNode.mapTasks]
    exact shaped_pane
  | .split id axis children, h => by
    rw [shaped_split] at h
    rw [WorkspaceNode.mapTasks, shaped_split, length_mapTasksIn]
    exact ⟨h.1, shapedIn_mapTasksIn h.2⟩

theorem shapedIn_mapTasksIn : ∀ {children : List (SplitChild (WorkspaceNode K))},
    ShapedIn children → ShapedIn (mapTasksIn f children)
  | [], _ => trivial
  | ⟨node, allocation⟩ :: children, h => by
    rw [shapedIn_cons] at h
    rw [mapTasksIn, shapedIn_cons]
    exact ⟨h.1, h.2.1.mapTasks, shapedIn_mapTasksIn h.2.2⟩

end

/-- The keys of the panes of a list, in its order. -/
def keysOf (f : K → U) (panes : List (TaskPane K)) : List U := panes.map fun p => f p.taskId

variable [DecidableEq U]

mutual

theorem mapWorkspaceNode_eq_ok : ∀ (node : WorkspaceNode K) {seen seen' : List U}
    {node' : WorkspaceNode U}, seen.Nodup →
      (node.mapWorkspaceNode f seen = .ok (node', seen') ↔
        ((keysOf f node.collectPanes).reverse ++ seen).Nodup ∧ node' = node.mapTasks f ∧
          seen' = (keysOf f node.collectPanes).reverse ++ seen)
  | .pane p, seen, seen', node', hseen => by
    rw [mapWorkspaceNode, collectPanes_pane, WorkspaceNode.mapTasks]
    show (if f p.taskId ∈ seen then _ else _) = _ ↔ (f p.taskId :: seen).Nodup ∧ _ ∧
      seen' = f p.taskId :: seen
    rw [nodup_cons, and_iff_left hseen]
    split_ifs with hmem
    · simp [hmem]
    · simp only [Except.ok.injEq, Prod.mk.injEq, hmem, not_false_eq_true, true_and]
      exact and_congr eq_comm eq_comm
  | .split id axis children, seen, seen', node', hseen => by
    rw [mapWorkspaceNode, collectPanes_split, WorkspaceNode.mapTasks]
    simp only [ok_iff, Prod.exists]
    constructor
    · rintro ⟨children', seen₁, h, rfl, rfl⟩
      obtain ⟨hnodup, rfl, rfl⟩ := (mapWorkspaceNodeIn_eq_ok children hseen).mp h
      exact ⟨hnodup, rfl, rfl⟩
    · rintro ⟨hnodup, rfl, rfl⟩
      exact ⟨_, _, (mapWorkspaceNodeIn_eq_ok children hseen).mpr ⟨hnodup, rfl, rfl⟩, rfl, rfl⟩

theorem mapWorkspaceNodeIn_eq_ok : ∀ (children : List (SplitChild (WorkspaceNode K)))
    {seen seen' : List U} {children' : List (SplitChild (WorkspaceNode U))}, seen.Nodup →
      (mapWorkspaceNodeIn f children seen = .ok (children', seen') ↔
        ((keysOf f (collectPanesIn children)).reverse ++ seen).Nodup ∧
          children' = mapTasksIn f children ∧
          seen' = (keysOf f (collectPanesIn children)).reverse ++ seen)
  | [], seen, seen', children', hseen => by
    rw [mapWorkspaceNodeIn]
    simp [keysOf, mapTasksIn, hseen, eq_comm]
  | ⟨node, allocation⟩ :: children, seen, seen', children', hseen => by
    rw [mapWorkspaceNodeIn, collectPanesIn_cons, mapTasksIn]
    simp only [ok_iff, Prod.exists]
    have happend : (keysOf f (node.collectPanes ++ collectPanesIn children)).reverse ++ seen =
        (keysOf f (collectPanesIn children)).reverse ++
          ((keysOf f node.collectPanes).reverse ++ seen) := by
      simp [keysOf]
    rw [happend]
    constructor
    · rintro ⟨node', seen₁, hnode, children', seen₂, hchild, rfl, rfl⟩
      obtain ⟨hnodup, rfl, rfl⟩ := (mapWorkspaceNode_eq_ok node hseen).mp hnode
      obtain ⟨hall, rfl, rfl⟩ := (mapWorkspaceNodeIn_eq_ok children hnodup).mp hchild
      exact ⟨hall, rfl, rfl⟩
    · rintro ⟨hall, rfl, rfl⟩
      have hnodup := hall.of_append_right
      exact ⟨_, _, (mapWorkspaceNode_eq_ok node hseen).mpr ⟨hnodup, rfl, rfl⟩, _, _,
        (mapWorkspaceNodeIn_eq_ok children hnodup).mpr ⟨hall, rfl, rfl⟩, rfl, rfl⟩

end

end Keys

end WorkspaceNode

namespace Workspace

open WorkspaceNode

variable {K : Type} {w next : Workspace K}

/-- The workspace with the allocation of one task set, and nothing else changed. -/
def withAllocation [DecidableEq K] (w : Workspace K) (taskId : K) (allocation : Allocation) :
    Workspace K :=
  { w with root := w.root.map (mapAllocations (allocating taskId allocation)) }

/-- The workspace with every pane under another key, and nothing else changed. -/
def withKeys {U : Type} (w : Workspace K) (f : K → U) : Workspace U :=
  { w with root := w.root.map (mapTasks f) }

/-- The tasks of the panes. -/
def taskIds (w : Workspace K) : List K := (panesOf w.root).map TaskPane.taskId

theorem WellFormed.nodup_taskIds (hw : w.WellFormed) : w.taskIds.Nodup := by
  unfold taskIds
  cases hroot : w.root with
  | none => exact nodup_nil
  | some => exact (hw.tree _ hroot).taskIds

section Sizes

variable [DecidableEq K] {taskId : K} {allocation allocation' : Allocation}

@[simp] theorem panesOf_withAllocation :
    panesOf (w.withAllocation taskId allocation).root = panesOf w.root := by
  unfold withAllocation
  cases w.root with
  | none => rfl
  | some => exact collectPanes_mapAllocations _

@[simp] theorem withAllocation_withAllocation :
    (w.withAllocation taskId allocation).withAllocation taskId allocation' =
      w.withAllocation taskId allocation' := by
  unfold withAllocation
  cases w.root with
  | none => rfl
  | some root => simp only [Option.map_some, mapAllocations_mapAllocations]

@[simp] theorem taskAxisAllocation_withAllocation :
    (w.withAllocation taskId allocation).taskAxisAllocation taskId =
      (w.taskAxisAllocation taskId).map fun found => (found.1, allocation) := by
  unfold taskAxisAllocation withAllocation
  cases w.root with
  | none => rfl
  | some => exact findTaskAllocation_mapAllocations _

theorem setTaskAllocation_eq (hnodup : w.taskIds.Nodup) :
    w.setTaskAllocation taskId allocation =
      if (w.taskAxisAllocation taskId).isSome then (.ok (), w.withAllocation taskId allocation)
      else (.error .missingPane, w) := by
  obtain ⟨root, focused, previousFocus, focusClock, zoomed⟩ := w
  cases root with
  | none => rfl
  | some root =>
    have hfound : (root.setTaskAllocation taskId allocation).2 =
        (root.findTaskAllocation taskId).isSome := by
      rw [Bool.eq_iff_iff, setTaskAllocation_isTrue, findTaskAllocation_isSome]
    unfold Workspace.setTaskAllocation
    show (if (root.setTaskAllocation taskId allocation).2 then _ else _) =
      if (root.findTaskAllocation taskId).isSome then _ else _
    rw [hfound]
    split_ifs with h
    · rw [setTaskAllocation_eq_mapAllocations hnodup]
      rfl
    · rw [setTaskAllocation_of_false allocation taskId root
        (by rw [hfound]; exact eq_false_of_ne_true h)]

theorem pinTaskAxisSize_eq {logicalPx : F32} (hfin : logicalPx.isFinite = true)
    (hpos : logicalPx.gtZero = true) :
    w.pinTaskAxisSize taskId logicalPx = w.setTaskAllocation taskId (.pinned logicalPx) := by
  have hle : logicalPx.leZero = false := by
    simp only [F32.gtZero, Bool.and_eq_true, Bool.not_eq_true'] at hpos
    simp [F32.leZero, hpos]
  rw [pinTaskAxisSize, if_neg (by simp [hfin, hle])]

end Sizes

section Keys

variable {U : Type} {f : K → U}

theorem paneIds_withKeys : (w.withKeys f).paneIds = w.paneIds := by
  unfold paneIds withKeys
  cases w.root with
  | none => rfl
  | some root =>
    show ((root.mapTasks f).collectPanes).map TaskPane.id = root.collectPanes.map TaskPane.id
    rw [collectPanes_mapTasks, map_map]
    rfl

theorem WellFormed.withKeys (hw : w.WellFormed) (hnodup : (w.taskIds.map f).Nodup) :
    (w.withKeys f).WellFormed := by
  refine ⟨?_, ?_, ?_, ?_, ?_⟩
  · intro root' hroot'
    obtain ⟨root, hroot, rfl⟩ := Option.map_eq_some_iff.mp hroot'
    have hvalid := hw.tree root hroot
    rw [taskIds, hroot, map_map] at hnodup
    refine ⟨hvalid.shaped.mapTasks, ?_, ?_, ?_, ?_⟩
    · rw [collectPanes_mapTasks]
      exact forall_mem_map.mpr hvalid.focused
    · rw [collectPanes_mapTasks, map_map]
      exact hvalid.paneIds
    · rw [collectPanes_mapTasks, map_map]
      exact hnodup
    · rw [splitIds_mapTasks]
      exact hvalid.splitIds
  · intro hroot
    exact hw.hasFocus (by simpa [Workspace.withKeys] using hroot)
  all_goals rw [paneIds_withKeys]
  · exact hw.focused
  · exact hw.previous
  · exact hw.zoomed

variable [DecidableEq U]

theorem mapTaskKeys_eq_ok (hw : w.WellFormed) {mapped} :
    w.mapTaskKeys f = .ok mapped ↔ (w.taskIds.map f).Nodup ∧ mapped = w.withKeys f := by
  have hvalid (hnodup : (w.taskIds.map f).Nodup) : (w.withKeys f).validate = .ok () :=
    validate_eq_ok.mpr (hw.withKeys hnodup)
  obtain ⟨root, focused, previousFocus, focusClock, zoomed⟩ := w
  unfold mapTaskKeys
  cases root with
  | none =>
    have hnil := hvalid nodup_nil
    simp only [ok_iff]
    constructor
    · rintro ⟨_, rfl, -, rfl⟩
      exact ⟨nodup_nil, rfl⟩
    · rintro ⟨-, rfl⟩
      exact ⟨none, rfl, hnil, rfl⟩
  | some root =>
    have htree {seen : List U} {node : WorkspaceNode U} :
        root.mapWorkspaceNode f [] = .ok (node, seen) ↔
          (keysOf f root.collectPanes).Nodup ∧ node = root.mapTasks f ∧
            seen = (keysOf f root.collectPanes).reverse := by
      have h : root.mapWorkspaceNode f [] = .ok (node, seen) ↔
          ((keysOf f root.collectPanes).reverse ++ []).Nodup ∧ node = root.mapTasks f ∧
            seen = (keysOf f root.collectPanes).reverse ++ [] :=
        mapWorkspaceNode_eq_ok root nodup_nil
      rwa [append_nil, nodup_reverse] at h
    have hkeys : keysOf f root.collectPanes = (root.collectPanes.map TaskPane.taskId).map f := by
      rw [map_map]
      rfl
    simp only [ok_iff, Prod.exists]
    constructor
    · rintro ⟨node, seen, h, _, rfl, -, rfl⟩
      obtain ⟨hnodup, rfl, -⟩ := htree.mp h
      exact ⟨hkeys ▸ hnodup, rfl⟩
    · rintro ⟨hnodup, rfl⟩
      exact ⟨_, _, htree.mpr ⟨hkeys ▸ hnodup, rfl, rfl⟩, _, rfl, hvalid hnodup, rfl⟩

end Keys

/-! ## Valid workspaces -/

/-- On a valid workspace: a positive finite size is pinned exactly where `task_axis_allocation`
finds the task, and else nothing changes; the pin is read back along the same axis, no other
allocation, split, pane or field changes, and a reset brings the automatic size. The copy under
other keys is made exactly when no two tasks of the workspace get one key, and is the same
workspace up to the keys. -/
theorem pinTaskAxisSize_local [DecidableEq K] (hw : w.validate = .ok ()) :
    (∀ taskId logicalPx, logicalPx.isFinite = true → logicalPx.gtZero = true →
      ((w.pinTaskAxisSize taskId logicalPx).1 = .ok () ↔
        (w.taskAxisAllocation taskId).isSome = true) ∧
      ((w.pinTaskAxisSize taskId logicalPx).1 ≠ .ok () →
        w.pinTaskAxisSize taskId logicalPx = (.error .missingPane, w)) ∧
      ∀ pinned, w.pinTaskAxisSize taskId logicalPx = (.ok (), pinned) →
        pinned = w.withAllocation taskId (.pinned logicalPx) ∧
        panesOf pinned.root = panesOf w.root ∧
        ∃ axis current, w.taskAxisAllocation taskId = some (axis, current) ∧
          pinned.taskAxisAllocation taskId = some (axis, .pinned logicalPx) ∧
          pinned.resetTaskAxisSize taskId = (.ok (), w.withAllocation taskId .default) ∧
          (w.withAllocation taskId .default).taskAxisAllocation taskId = some (axis, .default)) ∧
    ∀ {U : Type} [DecidableEq U] (mapKey : K → U), ((∃ mapped, w.mapTaskKeys mapKey = .ok mapped) ↔
        Set.InjOn mapKey {taskId | taskId ∈ w.taskIds}) ∧
      ∀ mapped, w.mapTaskKeys mapKey = .ok mapped →
        mapped = w.withKeys mapKey ∧
        panesOf mapped.root = (panesOf w.root).map (mapTask mapKey) := by
  have hwell := validate_eq_ok.mp hw
  refine ⟨?_, ?_⟩
  · intro taskId logicalPx hfin hpos
    rw [pinTaskAxisSize_eq hfin hpos, setTaskAllocation_eq hwell.nodup_taskIds]
    split_ifs with hfound
    · refine ⟨iff_of_true rfl hfound, fun h => absurd rfl h, ?_⟩
      rintro pinned ⟨⟩
      obtain ⟨⟨axis, current⟩, hlookup⟩ := Option.isSome_iff_exists.mp hfound
      have hnodup : (w.withAllocation taskId (.pinned logicalPx)).taskIds.Nodup := by
        rw [taskIds, panesOf_withAllocation]
        exact hwell.nodup_taskIds
      refine ⟨rfl, panesOf_withAllocation, axis, current, hlookup, ?_, ?_, ?_⟩
      · rw [taskAxisAllocation_withAllocation, hlookup]
        rfl
      · rw [resetTaskAxisSize, setTaskAllocation_eq hnodup, taskAxisAllocation_withAllocation,
          hlookup, withAllocation_withAllocation]
        rfl
      · rw [taskAxisAllocation_withAllocation, hlookup]
        rfl
    · refine ⟨iff_of_false nofun hfound, fun _ => rfl, ?_⟩
      rintro pinned ⟨⟩
  · intro U _ mapKey
    refine ⟨?_, ?_⟩
    · simp only [mapTaskKeys_eq_ok hwell, exists_and_left, exists_eq, and_true]
      rw [nodup_map_iff_inj_on hwell.nodup_taskIds]
      rfl
    · intro mapped hmap
      obtain ⟨-, rfl⟩ := (mapTaskKeys_eq_ok hwell).mp hmap
      refine ⟨rfl, ?_⟩
      unfold withKeys
      cases w.root with
      | none => rfl
      | some => exact collectPanes_mapTasks _

/-- The lower pane of the column is pinned, and the pin is read back and reset. -/
theorem pinTaskAxisSize_local_sampleColumns : ∃ pinned axis current,
    sampleColumns.pinTaskAxisSize 2 F32.one = (.ok (), pinned) ∧
      panesOf pinned.root = panesOf sampleColumns.root ∧
      sampleColumns.taskAxisAllocation 2 = some (axis, current) ∧
      pinned.taskAxisAllocation 2 = some (axis, .pinned F32.one) ∧
      pinned.resetTaskAxisSize 2 = (.ok (), sampleColumns.withAllocation 2 .default) := by
  have hvalid : sampleColumns.validate = .ok () := by decide
  obtain ⟨hok, -, hpin⟩ := (pinTaskAxisSize_local hvalid).1 2 F32.one (by decide) (by decide)
  have heq : sampleColumns.pinTaskAxisSize 2 F32.one =
      (.ok (), (sampleColumns.pinTaskAxisSize 2 F32.one).2) := Prod.ext (hok.mpr (by decide)) rfl
  obtain ⟨-, hpanes, axis, current, hsize, hback, hreset, -⟩ := hpin _ heq
  exact ⟨_, axis, current, heq, hpanes, hsize, hback, hreset⟩

end Workspace

end DevManager
