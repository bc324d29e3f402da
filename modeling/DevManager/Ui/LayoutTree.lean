import DevManager.Ui.Layout
import Mathlib.Data.List.Nodup
import Mathlib.Data.List.Perm.Basic
import Mathlib.Data.List.InsertIdx

/-!
# What the edits do to a pane tree

A tree is seen as its panes, the ids of its splits, and whether it is shaped: every
split has two children or more, each with a valid allocation. Every edit of
`layout.rs` is described by what it does to these three, the first two up to order.

* `updatePane_of_find`: an edit through `find_pane_mut` replaces one pane.
* `insertPaneNear_grown`, `placeInGrid_grown`: an insertion adds one pane, and at
  most one split.
* `removePaneNode_removed`: a removal takes one pane, and splits only disappear.
-/

namespace DevManager

open List

namespace WorkspaceNode

variable {K : Type}

/-! ## Panes, splits and shape -/

mutual

/-- The ids of the splits of a tree. -/
def splitIds : WorkspaceNode K → List SplitId
  | .pane _ => []
  | .split id _ children => id :: splitIdsIn children

def splitIdsIn : List (SplitChild (WorkspaceNode K)) → List SplitId
  | [] => []
  | ⟨node, _⟩ :: children => splitIds node ++ splitIdsIn children

end

mutual

/-- Every split has two children or more, each with a valid allocation. -/
def Shaped : WorkspaceNode K → Prop
  | .pane _ => True
  | .split _ _ children => 2 ≤ children.length ∧ ShapedIn children

def ShapedIn : List (SplitChild (WorkspaceNode K)) → Prop
  | [] => True
  | ⟨node, allocation⟩ :: children => allocation.isValid = true ∧ Shaped node ∧ ShapedIn children

end

section Children

variable {node : WorkspaceNode K} {allocation : Allocation} {id : SplitId} {axis : Axis}
  {children children' : List (SplitChild (WorkspaceNode K))} {p : TaskPane K}

@[simp] theorem collectPanes_pane : (pane p).collectPanes = [p] := by
  rw [collectPanes]

@[simp] theorem collectPanes_split : (split id axis children).collectPanes =
    collectPanesIn children := by
  rw [collectPanes]

@[simp] theorem splitIds_pane : (pane p).splitIds = [] := by
  rw [splitIds]

@[simp] theorem splitIds_split : (split id axis children).splitIds = id :: splitIdsIn children := by
  rw [splitIds]

@[simp] theorem shaped_pane : (pane p).Shaped := by
  rw [Shaped]
  trivial

@[simp] theorem shaped_split :
    (split id axis children).Shaped ↔ 2 ≤ children.length ∧ ShapedIn children := by
  rw [Shaped]

@[simp] theorem collectPanesIn_nil : collectPanesIn ([] : List (SplitChild (WorkspaceNode K))) =
    [] :=
  rfl

@[simp] theorem collectPanesIn_cons :
    collectPanesIn (⟨node, allocation⟩ :: children) = node.collectPanes ++
      collectPanesIn children :=
  rfl

@[simp] theorem splitIdsIn_cons :
    splitIdsIn (⟨node, allocation⟩ :: children) = node.splitIds ++ splitIdsIn children := rfl

@[simp] theorem shapedIn_nil : ShapedIn ([] : List (SplitChild (WorkspaceNode K))) := trivial

@[simp] theorem shapedIn_cons : ShapedIn (⟨node, allocation⟩ :: children) ↔
    allocation.isValid = true ∧ node.Shaped ∧ ShapedIn children := Iff.rfl

theorem collectPanesIn_eq :
    collectPanesIn children = children.flatMap fun child => child.node.collectPanes := by
  induction children with
  | nil => rfl
  | cons child children ih => rw [collectPanesIn_cons, flatMap_cons, ih]

theorem splitIdsIn_eq :
    splitIdsIn children = children.flatMap fun child => child.node.splitIds := by
  induction children with
  | nil => rfl
  | cons child children ih => rw [splitIdsIn_cons, flatMap_cons, ih]

theorem shapedIn_iff : ShapedIn children ↔
    ∀ child ∈ children, child.allocation.isValid = true ∧ child.node.Shaped := by
  induction children with
  | nil => simp
  | cons child children ih =>
    rw [forall_mem_cons, ← ih, and_assoc]
    exact .rfl

@[simp] theorem collectPanesIn_append :
    collectPanesIn (children ++ children') = collectPanesIn children ++
      collectPanesIn children' := by
  rw [collectPanesIn_eq, flatMap_append, ← collectPanesIn_eq, ← collectPanesIn_eq]

@[simp] theorem splitIdsIn_append :
    splitIdsIn (children ++ children') = splitIdsIn children ++ splitIdsIn children' := by
  rw [splitIdsIn_eq, flatMap_append, ← splitIdsIn_eq, ← splitIdsIn_eq]

@[simp] theorem shapedIn_append :
    ShapedIn (children ++ children') ↔ ShapedIn children ∧ ShapedIn children' := by
  simp only [shapedIn_iff, mem_append, or_imp, forall_and]
  tauto

end Children

theorem isValid_default : Allocation.default.isValid = true := by decide

/-! ## Finding panes -/

mutual

theorem findPaneBy_eq (test : TaskPane K → Bool) :
    ∀ node : WorkspaceNode K, node.findPaneBy test = node.collectPanes.find? test
  | .pane p => by
    rw [findPaneBy, collectPanes_pane]
    cases h : test p <;> simp [h]
  | .split _ _ children => by
    rw [findPaneBy, collectPanes_split, findPaneByIn_eq test children]

theorem findPaneByIn_eq (test : TaskPane K → Bool) :
    ∀ children : List (SplitChild (WorkspaceNode K)),
      findPaneByIn test children = (collectPanesIn children).find? test
  | [] => rfl
  | ⟨node, _⟩ :: children => by
    rw [findPaneByIn, collectPanesIn_cons, find?_append, findPaneBy_eq test node,
      findPaneByIn_eq test children]

end

theorem findPane_eq (node : WorkspaceNode K) (id : PaneId) :
    node.findPane id = node.collectPanes.find? fun p => p.id = id := findPaneBy_eq _ node

theorem containsPane_iff {node : WorkspaceNode K} {id} :
    node.containsPane id = true ↔ ∃ p ∈ node.collectPanes, p.id = id := by
  rw [containsPane, findPane_eq, find?_isSome]
  simp only [decide_eq_true_eq]

theorem findPane_eq_some {node : WorkspaceNode K} {id p}
    (h : node.findPane id = some p) : p ∈ node.collectPanes ∧ p.id = id := by
  rw [findPane_eq] at h
  exact ⟨mem_of_find?_eq_some h, by simpa using find?_some h⟩

theorem containsPane_of_find {node : WorkspaceNode K} {id p}
    (h : node.findPane id = some p) : node.containsPane id = true := by
  rw [containsPane, h]
  rfl

theorem containsTask_iff [DecidableEq K] {node : WorkspaceNode K} {taskId : K} :
    node.containsTask taskId = true ↔ ∃ p ∈ node.collectPanes, p.taskId = taskId := by
  rw [containsTask, findPaneForTask, findPaneBy_eq, find?_isSome]
  simp only [decide_eq_true_eq]

theorem firstPaneId_of_shaped :
    ∀ {node : WorkspaceNode K}, node.Shaped → ∃ p ∈ node.collectPanes, node.firstPaneId = some p.id
  | .pane p, _ => ⟨p, by simp, rfl⟩
  | .split _ _ [], h => by
    rw [shaped_split] at h
    simp at h
  | .split _ _ (⟨node, allocation⟩ :: children), h => by
    rw [shaped_split, shapedIn_cons] at h
    obtain ⟨p, hp, hfst⟩ := firstPaneId_of_shaped h.2.2.1
    refine ⟨p, ?_, by rw [firstPaneId, hfst]⟩
    rw [collectPanes_split, collectPanesIn_cons]
    exact mem_append_left _ hp

/-! ## Replacing one pane -/

/-- `next` is `node` with one pane replaced. -/
structure Replaced (p q : TaskPane K) (node next : WorkspaceNode K) : Prop where
  panes : ∃ rest, node.collectPanes.Perm (p :: rest) ∧ next.collectPanes.Perm (q :: rest)
  splits : next.splitIds = node.splitIds
  shaped : node.Shaped → next.Shaped

section Update

variable {id : PaneId} (edit : TaskPane K → TaskPane K)

mutual

theorem updatePane_eq_none :
    ∀ {node : WorkspaceNode K}, node.findPane id = none → node.updatePane id edit = none
  | .pane p, h => by
    rw [findPane, findPaneBy] at h
    by_cases hid : p.id = id
    · simp [hid] at h
    · rw [updatePane, if_neg hid]
  | .split _ _ children, h => by
    rw [findPane, findPaneBy] at h
    rw [updatePane, updatePaneIn_eq_none h]
    rfl

theorem updatePaneIn_eq_none : ∀ {children : List (SplitChild (WorkspaceNode K))},
    findPaneByIn (fun p => p.id = id) children = none → updatePaneIn id edit children = none
  | [], _ => rfl
  | ⟨node, _⟩ :: children, h => by
    rw [findPaneByIn, Option.or_eq_none_iff] at h
    rw [updatePaneIn, updatePane_eq_none h.1, updatePaneIn_eq_none h.2]
    rfl

end

mutual

theorem updatePane_of_find : ∀ {node : WorkspaceNode K} {p : TaskPane K},
    node.findPane id = some p →
      ∃ next, node.updatePane id edit = some next ∧ Replaced p (edit p) node next
  | .pane p', p, h => by
    rw [findPane, findPaneBy] at h
    split_ifs at h with hid
    cases h
    refine ⟨.pane (edit p'), ?_, ⟨[], by simp, by simp⟩, by simp, by simp⟩
    rw [updatePane, if_pos (by simpa using hid)]
  | .split splitId axis children, p, h => by
    rw [findPane, findPaneBy] at h
    obtain ⟨next, hnext, ⟨rest, hrest, hrest'⟩, hsplits, hlen, hshaped⟩ :=
      updatePaneIn_of_find h
    refine ⟨.split splitId axis next, ?_, ⟨rest, ?_, ?_⟩, ?_, ?_⟩
    · rw [updatePane, hnext]
      rfl
    · rwa [collectPanes_split]
    · rwa [collectPanes_split]
    · rw [splitIds_split, splitIds_split, hsplits]
    · rw [shaped_split, shaped_split, hlen]
      exact fun hchild => ⟨hchild.1, hshaped hchild.2⟩

theorem updatePaneIn_of_find :
    ∀ {children : List (SplitChild (WorkspaceNode K))} {p : TaskPane K},
      findPaneByIn (fun p => p.id = id) children = some p →
        ∃ next, updatePaneIn id edit children = some next ∧
          (∃ rest, (collectPanesIn children).Perm (p :: rest) ∧
            (collectPanesIn next).Perm (edit p :: rest)) ∧
          splitIdsIn next = splitIdsIn children ∧ next.length = children.length ∧
          (ShapedIn children → ShapedIn next)
  | [], p, h => by cases h
  | ⟨node, allocation⟩ :: children, p, h => by
    rw [findPaneByIn] at h
    cases hnode : node.findPane id with
    | some p' =>
      have hp : p' = p := by
        rw [findPane] at hnode
        rw [hnode, Option.some_or] at h
        exact Option.some.inj h
      subst hp
      obtain ⟨next, hnext, ⟨rest, hrest, hrest'⟩, hsplits, hshaped⟩ := updatePane_of_find hnode
      refine ⟨⟨next, allocation⟩ :: children, ?_, ⟨rest ++ collectPanesIn children, ?_, ?_⟩, ?_,
        rfl, ?_⟩
      · rw [updatePaneIn, hnext]
      · exact hrest.append_right _
      · exact hrest'.append_right _
      · rw [splitIdsIn_cons, splitIdsIn_cons, hsplits]
      · rw [shapedIn_cons, shapedIn_cons]
        exact fun hchild => ⟨hchild.1, hshaped hchild.2.1, hchild.2.2⟩
    | none =>
      have hrec : findPaneByIn (fun p => p.id = id) children = some p := by
        rw [findPane] at hnode
        rwa [hnode, Option.none_or] at h
      obtain ⟨next, hnext, ⟨rest, hrest, hrest'⟩, hsplits, hlen, hshaped⟩ :=
        updatePaneIn_of_find hrec
      refine ⟨⟨node, allocation⟩ :: next, ?_, ⟨node.collectPanes ++ rest, ?_, ?_⟩, ?_, ?_, ?_⟩
      · rw [updatePaneIn, updatePane_eq_none edit hnode, hnext]
        rfl
      · exact (hrest.append_left _).trans perm_middle
      · exact (hrest'.append_left _).trans perm_middle
      · rw [splitIdsIn_cons, splitIdsIn_cons, hsplits]
      · rw [length_cons, length_cons, hlen]
      · rw [shapedIn_cons, shapedIn_cons]
        exact fun hchild => ⟨hchild.1, hchild.2.1, hshaped hchild.2.2⟩

end

end Update

/-! ## Inserting a pane -/

/-- `next` is `node` with one more pane, and at most one more split. -/
structure Grown (p : TaskPane K) (splitId : SplitId) (node next : WorkspaceNode K) : Prop where
  panes : next.collectPanes.Perm (p :: node.collectPanes)
  splits : next.splitIds.Perm node.splitIds ∨ next.splitIds.Perm (splitId :: node.splitIds)
  shaped : node.Shaped → next.Shaped

theorem Grown.mem_splitIds {p : TaskPane K} {splitId id node next}
    (h : Grown p splitId node next) (hid : id ∈ next.splitIds) :
    id ∈ node.splitIds ∨ id = splitId := by
  rcases h.splits with hsame | hnew
  · exact .inl (hsame.mem_iff.mp hid)
  · exact (mem_cons.mp (hnew.mem_iff.mp hid)).symm

/-- The same for the children of a split. -/
structure GrownIn (p : TaskPane K) (splitId : SplitId)
    (children next : List (SplitChild (WorkspaceNode K))) : Prop where
  panes : (collectPanesIn next).Perm (p :: collectPanesIn children)
  splits : (splitIdsIn next).Perm (splitIdsIn children) ∨
    (splitIdsIn next).Perm (splitId :: splitIdsIn children)
  length : children.length ≤ next.length
  shaped : ShapedIn children → ShapedIn next

section Insert

variable {target : PaneId} {p : TaskPane K} {axis : Axis} {insertAfter : Bool}
  {splitId id : SplitId} {node next : WorkspaceNode K} {allocation : Allocation}
  {children children' : List (SplitChild (WorkspaceNode K))}

theorem GrownIn.split (h : GrownIn p splitId children children') :
    Grown p splitId (.split id axis children) (.split id axis children') := by
  refine ⟨?_, ?_, ?_⟩
  · rw [collectPanes_split, collectPanes_split]
    exact h.panes
  · rw [splitIds_split, splitIds_split]
    rcases h.splits with hsame | hnew
    · exact .inl (hsame.cons id)
    · exact .inr ((hnew.cons id).trans (List.Perm.swap splitId id _))
  · rw [shaped_split, shaped_split]
    exact fun hchild => ⟨hchild.1.trans h.length, h.shaped hchild.2⟩

theorem Grown.child (children children') (h : Grown p splitId node next) :
    GrownIn p splitId (children ++ ⟨node, allocation⟩ :: children')
      (children ++ ⟨next, allocation⟩ :: children') := by
  refine ⟨?_, ?_, by simp, ?_⟩
  · simp only [collectPanesIn_append, collectPanesIn_cons]
    exact ((h.panes.append_right _).append_left _).trans perm_middle
  · simp only [splitIdsIn_append, splitIdsIn_cons]
    rcases h.splits with hsame | hnew
    · exact .inl ((hsame.append_right _).append_left _)
    · exact .inr (((hnew.append_right _).append_left _).trans perm_middle)
  · simp only [shapedIn_append, shapedIn_cons]
    exact fun ⟨hpre, hvalid, hnode, hpost⟩ => ⟨hpre, hvalid, h.shaped hnode, hpost⟩

theorem GrownIn.cons (h : GrownIn p splitId children children') :
    GrownIn p splitId (⟨node, allocation⟩ :: children) (⟨node, allocation⟩ :: children') := by
  refine ⟨?_, ?_, by simpa using h.length, ?_⟩
  · simp only [collectPanesIn_cons]
    exact (h.panes.append_left _).trans perm_middle
  · simp only [splitIdsIn_cons]
    rcases h.splits with hsame | hnew
    · exact .inl (hsame.append_left _)
    · exact .inr ((hnew.append_left _).trans perm_middle)
  · simp only [shapedIn_cons]
    exact fun ⟨hvalid, hnode, hchild⟩ => ⟨hvalid, hnode, h.shaped hchild⟩

theorem grownIn_of_perm (h : children'.Perm (.auto (.pane p) :: children)) :
    GrownIn p splitId children children' := by
  refine ⟨?_, .inl ?_, ?_, fun hchild => ?_⟩
  · rw [collectPanesIn_eq, collectPanesIn_eq]
    exact h.flatMap_right _
  · rw [splitIdsIn_eq, splitIdsIn_eq]
    exact h.flatMap_right _
  · rw [h.length_eq]
    simp
  · rw [shapedIn_iff] at hchild ⊢
    intro child hin
    rcases mem_cons.mp (h.mem_iff.mp hin) with rfl | hold
    · exact ⟨isValid_default, shaped_pane⟩
    · exact hchild child hold

theorem insertAmong_grown (h : insertAmong target p insertAfter children = some children') :
    GrownIn p splitId children children' := by
  unfold insertAmong at h
  split at h
  · next index hidx =>
    cases h
    have hlt : index < children.length := (findIdx?_eq_some_iff_getElem.mp hidx).1
    refine grownIn_of_perm (perm_insertIdx _ _ ?_)
    split_ifs <;> omega
  · cases h

theorem mem_of_insertAmong (h : insertAmong target p insertAfter children = some children') :
    ∃ q ∈ collectPanesIn children, q.id = target := by
  unfold insertAmong at h
  split at h
  · next index hidx =>
    obtain ⟨hlt, hchild, -⟩ := findIdx?_eq_some_iff_getElem.mp hidx
    rw [collectPanesIn_eq]
    cases hnode : children[index].node with
    | pane existing =>
      rw [hnode] at hchild
      refine ⟨existing, mem_flatMap.mpr ⟨_, getElem_mem hlt, ?_⟩, ?_⟩
      · rw [hnode]
        simp
      · simpa [isPane] using hchild
    | split id axis grandchildren =>
      rw [hnode] at hchild
      simp [isPane] at hchild
  · cases h

variable (target) (p) (axis) (insertAfter) (splitId)

mutual

theorem insertPaneNear_grown : ∀ {node : WorkspaceNode K}, node.containsPane target = true →
    ∃ next, node.insertPaneNear target p axis insertAfter splitId = (next, true) ∧
      Grown p splitId node next
  | .pane existing, h => by
    obtain ⟨q, hq, hid⟩ := containsPane_iff.mp h
    rw [collectPanes_pane, mem_singleton] at hq
    subst hq
    rw [insertPaneNear, if_pos hid]
    refine ⟨_, rfl, ?_, .inr ?_, ?_⟩
    · cases insertAfter
      · exact List.Perm.refl _
      · exact List.Perm.swap _ _ _
    · cases insertAfter <;> exact List.Perm.refl _
    · cases insertAfter <;> simp [SplitChild.auto, isValid_default]
  | .split id splitAxis children, h => by
    rw [insertPaneNear]
    split
    · next children' hamong =>
      split_ifs at hamong with haxis
      exact ⟨_, rfl, (insertAmong_grown hamong).split⟩
    · rw [containsPane_iff, collectPanes_split] at h
      obtain ⟨children', hins, hgrown⟩ := insertPaneNearIn_grown h
      rw [hins]
      exact ⟨_, rfl, hgrown.split⟩

theorem insertPaneNearIn_grown : ∀ {children : List (SplitChild (WorkspaceNode K))},
    (∃ q ∈ collectPanesIn children, q.id = target) →
      ∃ next, insertPaneNearIn target p axis insertAfter splitId children = (next, true) ∧
        GrownIn p splitId children next
  | [], h => by simp at h
  | ⟨node, allocation⟩ :: children, h => by
    rw [insertPaneNearIn]
    split_ifs with hnode
    · obtain ⟨next, hins, hgrown⟩ := insertPaneNear_grown hnode
      rw [hins]
      exact ⟨_, rfl, Grown.child [] children hgrown⟩
    · have hrest : ∃ q ∈ collectPanesIn children, q.id = target := by
        obtain ⟨q, hq, hid⟩ := h
        rw [collectPanesIn_cons, mem_append] at hq
        rcases hq with hq | hq
        · exact absurd (containsPane_iff.mpr ⟨q, hq, hid⟩) hnode
        · exact ⟨q, hq, hid⟩
      obtain ⟨children', hins, hgrown⟩ := insertPaneNearIn_grown hrest
      rw [hins]
      exact ⟨_, rfl, hgrown.cons⟩

end

mutual

theorem containsPane_of_inserted : ∀ {node : WorkspaceNode K},
    (node.insertPaneNear target p axis insertAfter splitId).2 = true →
      ∃ q ∈ node.collectPanes, q.id = target
  | .pane existing, h => by
    rw [insertPaneNear] at h
    by_cases hid : existing.id = target
    · exact ⟨existing, by simp, hid⟩
    · rw [if_neg hid] at h
      cases h
  | .split id splitAxis children, h => by
    rw [insertPaneNear] at h
    rw [collectPanes_split]
    split at h
    · next children' hamong =>
      split_ifs at hamong with haxis
      exact mem_of_insertAmong hamong
    · exact containsPaneIn_of_inserted h

theorem containsPaneIn_of_inserted : ∀ {children : List (SplitChild (WorkspaceNode K))},
    (insertPaneNearIn target p axis insertAfter splitId children).2 = true →
      ∃ q ∈ collectPanesIn children, q.id = target
  | [], h => by simp [insertPaneNearIn] at h
  | ⟨node, allocation⟩ :: children, h => by
    rw [insertPaneNearIn] at h
    split_ifs at h with hnode
    · obtain ⟨q, hq, hid⟩ := containsPane_iff.mp hnode
      exact ⟨q, mem_append_left _ hq, hid⟩
    · obtain ⟨q, hq, hid⟩ := containsPaneIn_of_inserted h
      exact ⟨q, mem_append_right _ hq, hid⟩

end

theorem insertPaneNear_cases (node) :
    (∃ next, node.insertPaneNear target p axis insertAfter splitId = (next, false)) ∨
      ∃ next, node.insertPaneNear target p axis insertAfter splitId = (next, true) ∧
        Grown p splitId node next := by
  rcases h : node.insertPaneNear target p axis insertAfter splitId with ⟨next, inserted⟩
  cases inserted with
  | false => exact .inl ⟨next, rfl⟩
  | true =>
    have hmem := containsPane_of_inserted target p axis insertAfter splitId (by rw [h])
    obtain ⟨next', heq, hgrown⟩ := insertPaneNear_grown target p axis insertAfter splitId
      (containsPane_iff.mpr hmem)
    rw [h] at heq
    cases heq
    exact .inr ⟨next, rfl, hgrown⟩

end Insert

/-! ### Grids -/

section Place

variable {p : TaskPane K} {splitId : SplitId} {node : WorkspaceNode K}

theorem grown_pair (axis : Axis) :
    Grown p splitId node (.split splitId axis [.auto node, .auto (.pane p)]) := by
  refine ⟨?_, .inr ?_, fun hnode => ?_⟩
  · show (node.collectPanes ++ [p]).Perm _
    exact perm_append_singleton p _
  · show (splitId :: (node.splitIds ++ ([] ++ []))).Perm _
    rw [append_nil, append_nil]
  · rw [shaped_split]
    exact ⟨le_rfl, isValid_default, hnode, isValid_default, shaped_pane, trivial⟩

theorem appendColumn_cases (node) (p : TaskPane K) (columns : ℕ) (splitId : SplitId) :
    (∃ next, appendColumn node (.pane p) columns splitId = .ok next ∧ Grown p splitId node next) ∨
      appendColumn node (.pane p) columns splitId = .error (node, .pane p) := by
  unfold appendColumn
  split
  · next id children =>
    split_ifs with hfull
    · exact .inr rfl
    · refine .inl ⟨_, rfl, GrownIn.split (grownIn_of_perm ?_)⟩
      exact perm_append_singleton _ _
  · split_ifs with hnarrow
    · exact .inr rfl
    · exact .inl ⟨_, rfl, grown_pair .horizontal⟩

theorem placeInGrid_grown (hnode : node.Shaped) (p : TaskPane K) (columns : ℕ) (splitId : SplitId) :
    Grown p splitId node (node.placeInGrid (.pane p) columns splitId) := by
  unfold placeInGrid
  split
  · next id children =>
    have hne : children ≠ [] := by
      rintro rfl
      simp at hnode
    obtain ⟨init, last, rfl⟩ := eq_nil_or_concat' children |>.resolve_left hne
    simp only [getLast?_concat, dropLast_concat]
    -- The last row either takes the pane as a column, or the pane becomes a row after it.
    rcases appendColumn_cases last.node p columns splitId with ⟨next, hnext, hgrown⟩ | hboth
    · rw [hnext]
      exact (hgrown.child init []).split
    · rw [hboth]
      refine GrownIn.split (grownIn_of_perm ?_)
      show (init ++ [last, .auto (.pane p)]).Perm _
      rw [append_cons]
      exact perm_append_singleton _ _
  · rcases appendColumn_cases node p columns splitId with ⟨next, hnext, hgrown⟩ | hboth
    · rw [hnext]
      exact hgrown
    · rw [hboth]
      exact grown_pair .vertical

end Place

/-! ## Removing a pane -/

/-- The panes of what is left of a tree. -/
def panesOf (next : Option (WorkspaceNode K)) : List (TaskPane K) := next.elim [] collectPanes

/-- The ids of the splits of what is left of a tree. -/
def splitIdsOf (next : Option (WorkspaceNode K)) : List SplitId := next.elim [] splitIds

/-- `next` is what is left of `node` without the pane. -/
structure Removed (p : TaskPane K) (node : WorkspaceNode K) (next : Option (WorkspaceNode K)) :
    Prop where
  panes : node.collectPanes.Perm (p :: panesOf next)
  splits : (splitIdsOf next).Sublist node.splitIds
  shaped : node.Shaped → ∀ node' ∈ next, node'.Shaped

theorem Removed.mem_ids {p node} {next : Option (WorkspaceNode K)} {id} (h : Removed p node next) :
    id ∈ node.collectPanes.map TaskPane.id ↔ id = p.id ∨ id ∈ (panesOf next).map TaskPane.id := by
  rw [(h.panes.map TaskPane.id).mem_iff, map_cons, mem_cons]

section Remove

variable {target : PaneId} {allocation : Allocation} {id : SplitId} {axis : Axis}
  {next : Option (WorkspaceNode K)} {children : List (SplitChild (WorkspaceNode K))}

theorem collectPanesIn_keptChild : collectPanesIn (keptChild allocation next) = panesOf next := by
  cases next with
  | none => rfl
  | some node =>
    show node.collectPanes ++ [] = node.collectPanes
    rw [append_nil]

theorem splitIdsIn_keptChild : splitIdsIn (keptChild allocation next) = splitIdsOf next := by
  cases next with
  | none => rfl
  | some node =>
    show node.splitIds ++ [] = node.splitIds
    rw [append_nil]

theorem shapedIn_keptChild (hvalid : allocation.isValid = true)
    (h : ∀ node ∈ next, node.Shaped) : ShapedIn (keptChild allocation next) := by
  cases next with
  | none => trivial
  | some => exact ⟨hvalid, h _ rfl, trivial⟩

theorem panesOf_normalized : panesOf (normalized id axis children) = collectPanesIn children := by
  unfold normalized
  split
  · rfl
  · next child =>
    show child.node.collectPanes = child.node.collectPanes ++ []
    rw [append_nil]
  · rfl

theorem splitIdsOf_normalized :
    (splitIdsOf (normalized id axis children)).Sublist (id :: splitIdsIn children) := by
  unfold normalized
  split
  · exact nil_sublist _
  · next child =>
    show child.node.splitIds.Sublist (id :: (child.node.splitIds ++ []))
    rw [append_nil]
    exact sublist_cons_self _ _
  · exact List.Sublist.refl _

theorem shaped_normalized (h : ShapedIn children) :
    ∀ node ∈ normalized id axis children, node.Shaped := by
  unfold normalized
  split
  · nofun
  · next child =>
    rintro node ⟨⟩
    exact h.2.1
  · next hnil hone =>
    rintro node ⟨⟩
    rw [shaped_split]
    refine ⟨?_, h⟩
    match children, hnil, hone with
    | [], hnil, _ => exact absurd rfl hnil
    | [child], _, hone => exact absurd rfl (hone child)
    | _ :: _ :: rest, _, _ => simp

mutual

theorem removePaneNode_missing : ∀ {node : WorkspaceNode K}, node.containsPane target = false →
    node.removePaneNode target = (some node, none)
  | .pane p, h => by
    have hid : p.id ≠ target := by
      intro hid
      rw [containsPane_iff.mpr ⟨p, by simp, hid⟩] at h
      cases h
    rw [removePaneNode, if_neg hid]
  | .split id axis children, h => by
    have hin : ∀ child ∈ children, child.node.containsPane target = false := by
      intro child hchild
      rw [Bool.eq_false_iff] at h ⊢
      intro hhas
      obtain ⟨p, hp, hid⟩ := containsPane_iff.mp hhas
      refine h (containsPane_iff.mpr ⟨p, ?_, hid⟩)
      rw [collectPanes_split, collectPanesIn_eq]
      exact mem_flatMap.mpr ⟨child, hchild, hp⟩
    rw [removePaneNode, removePaneNodeIn_missing hin]

theorem removePaneNodeIn_missing : ∀ {children : List (SplitChild (WorkspaceNode K))},
    (∀ child ∈ children, child.node.containsPane target = false) →
      removePaneNodeIn target children = (children, none)
  | [], _ => rfl
  | ⟨node, allocation⟩ :: children, h => by
    rw [removePaneNodeIn, removePaneNode_missing (h _ mem_cons_self),
      removePaneNodeIn_missing fun child hchild => h child (mem_cons_of_mem _ hchild)]
    rfl

end

mutual

theorem removePaneNode_removed : ∀ {node : WorkspaceNode K}, node.containsPane target = true →
    ∃ next p, node.removePaneNode target = (next, some p) ∧ p.id = target ∧ Removed p node next
  | .pane p, h => by
    obtain ⟨q, hq, hid⟩ := containsPane_iff.mp h
    rw [collectPanes_pane, mem_singleton] at hq
    subst hq
    refine ⟨none, q, by rw [removePaneNode, if_pos hid], hid, ?_, ?_, ?_⟩
    · rw [collectPanes_pane]
      exact List.Perm.refl _
    · exact nil_sublist _
    · intro _ node hnode
      cases hnode
  | .split id axis children, h => by
    rw [containsPane_iff, collectPanes_split] at h
    obtain ⟨next, p, hrem, hid, hpanes, hsplits, hshaped⟩ := removePaneNodeIn_removed h
    refine ⟨normalized id axis next, p, by rw [removePaneNode, hrem], hid, ?_, ?_, ?_⟩
    · rw [collectPanes_split, panesOf_normalized]
      exact hpanes
    · rw [splitIds_split]
      exact splitIdsOf_normalized.trans (hsplits.cons_cons id)
    · rw [shaped_split]
      exact fun hchild => shaped_normalized (hshaped hchild.2)

theorem removePaneNodeIn_removed : ∀ {children : List (SplitChild (WorkspaceNode K))},
    (∃ q ∈ collectPanesIn children, q.id = target) →
      ∃ next p, removePaneNodeIn target children = (next, some p) ∧ p.id = target ∧
        (collectPanesIn children).Perm (p :: collectPanesIn next) ∧
        (splitIdsIn next).Sublist (splitIdsIn children) ∧ (ShapedIn children → ShapedIn next)
  | [], h => by simp at h
  | ⟨node, allocation⟩ :: children, h => by
    cases hnode : node.containsPane target with
    | true =>
      obtain ⟨next, p, hrem, hid, hr⟩ := removePaneNode_removed hnode
      refine ⟨keptChild allocation next ++ children, p, ?_, hid, ?_, ?_, ?_⟩
      · rw [removePaneNodeIn, hrem]
      · rw [collectPanesIn_append, collectPanesIn_keptChild]
        exact hr.panes.append_right _
      · rw [splitIdsIn_append, splitIdsIn_keptChild]
        exact hr.splits.append_right _
      · rw [shapedIn_append]
        exact fun hall => ⟨shapedIn_keptChild hall.1 (hr.shaped hall.2.1), hall.2.2⟩
    | false =>
      have hrest : ∃ q ∈ collectPanesIn children, q.id = target := by
        obtain ⟨q, hq, hid⟩ := h
        rw [collectPanesIn_cons, mem_append] at hq
        rcases hq with hq | hq
        · rw [containsPane_iff.mpr ⟨q, hq, hid⟩] at hnode
          cases hnode
        · exact ⟨q, hq, hid⟩
      obtain ⟨next, p, hrem, hid, hpanes, hsplits, hshaped⟩ := removePaneNodeIn_removed hrest
      refine ⟨⟨node, allocation⟩ :: next, p, ?_, hid, ?_, ?_, ?_⟩
      · rw [removePaneNodeIn, removePaneNode_missing hnode, hrem]
        rfl
      · exact (hpanes.append_left _).trans perm_middle
      · exact (List.Sublist.refl _).append hsplits
      · exact fun hall => ⟨hall.1, hall.2.1, hshaped hall.2.2⟩

end

end Remove

end WorkspaceNode

end DevManager
