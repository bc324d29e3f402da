import DevManager.Domain.Id
import DevManager.Lib.Calls
import DevManager.Lib.Result

/-!
# The pane workspace (`src/ui/task_workspace/layout.rs`)

The canvas shows panes, one for each open task, in a tree of splits. A
`Workspace` is that tree with the focused pane, the one focused before it, and
the one zoomed to fill the canvas. Some calls edit it in place, others edit a
copy, `validate` the copy and only then put it back; every call is a function to
what it returns and the workspace it leaves.

The key `K` of a task is arbitrary, as in the source. `PaneId::new` and
`SplitId::new` draw fresh UUIDs: a call is given the ids it draws. Sizes are
`f32` by their bits. `grid_columns_for` is floating point arithmetic on the
canvas, and only its result enters: a call that packs a grid is given the number
of columns.
-/

namespace DevManager

/-! ## Sizes -/

/-- An `f32`, by its bits: sign, eight bits of exponent, 23 of mantissa. -/
structure F32 where
  bits : BitVec 32

namespace F32

variable (x : F32)

def exponent : BitVec 8 := x.bits.extractLsb' 23 8
def mantissa : BitVec 23 := x.bits.extractLsb' 0 23
def isNegative : Bool := x.bits.msb

def isNan : Bool := x.exponent = 255 && x.mantissa ≠ 0
def isZero : Bool := x.exponent = 0 && x.mantissa = 0

/-- `x.is_finite()`. -/
def isFinite : Bool := x.exponent ≠ 255

/-- `x > 0.0`. -/
def gtZero : Bool := !x.isNan && !x.isNegative && !x.isZero

/-- `x <= 0.0`. -/
def leZero : Bool := !x.isNan && (x.isNegative || x.isZero)

/-- `1.0`. -/
def one : F32 := ⟨0x3f800000⟩

end F32

/-- `Allocation`, L99-102 -/
inductive Allocation
  | auto (weight : F32)
  | pinned (logicalPx : F32)

namespace Allocation

/-- `auto`, L105-107 -/
def default : Allocation := .auto F32.one

/-- `is_valid`, L109-114 -/
def isValid : Allocation → Bool
  | .auto weight => weight.isFinite && weight.gtZero
  | .pinned logicalPx => logicalPx.isFinite && logicalPx.gtZero

end Allocation

/-! ## The tree -/

/-- `PaneId`, L59 -/
structure PaneId where
  uuid : ℕ
deriving DecidableEq

/-- `SplitId`, L74 -/
structure SplitId where
  uuid : ℕ
deriving DecidableEq

/-- `Axis`, L93-96 -/
inductive Axis
  | horizontal
  | vertical
deriving DecidableEq

/-- `PaneView`, L132-142 -/
inductive PaneView
  | conversation | terminal | files | changes | browser | review | artifacts | services
deriving DecidableEq

/-- `PanePresentation`, L169-178 -/
inductive PanePresentation
  | full
  | minimised
deriving DecidableEq

/-- `TaskPane`, L187-196 -/
structure TaskPane (K : Type) where
  id : PaneId
  taskId : K
  presentation : PanePresentation
  lastFocusedAt : ℕ
  view : PaneView
deriving DecidableEq

/-- `TaskPane::new` (L199-207), with the id it draws. -/
def TaskPane.new {K : Type} (id : PaneId) (taskId : K) (lastFocusedAt : ℕ) : TaskPane K where
  id := id
  taskId := taskId
  presentation := .full
  lastFocusedAt := lastFocusedAt
  view := .conversation

/-- `SplitChild` (L212-215), of a tree of type `ν`. -/
structure SplitChild (ν : Type) where
  node : ν
  allocation : Allocation

/-- `auto`, L218-223 -/
def SplitChild.auto {ν : Type} (node : ν) : SplitChild ν := ⟨node, Allocation.default⟩

/-- `WorkspaceNode`, L228-235 -/
inductive WorkspaceNode (K : Type)
  | pane (pane : TaskPane K)
  | split (id : SplitId) (axis : Axis) (children : List (SplitChild (WorkspaceNode K)))

/-- `Edge`, L238-243 -/
inductive Edge
  | left
  | right
  | top
  | bottom

/-- `axis`, L246-251 -/
def Edge.axis : Edge → Axis
  | left | right => .horizontal
  | top | bottom => .vertical

/-- `inserts_after`, L253-255 -/
def Edge.insertsAfter : Edge → Bool
  | right | bottom => true
  | left | top => false

/-- `DropTarget`, L259-262 -/
inductive DropTarget
  | center (pane : PaneId)
  | edge (pane : PaneId) (edge : Edge)

/-- The pane that a drop is aimed at (L759-761). -/
def DropTarget.pane : DropTarget → PaneId
  | center pane => pane
  | edge pane _ => pane

/-- `WorkspaceError`, L265-270 -/
inductive WorkspaceError
  | duplicateTask
  | invalidTree
  | missingPane
  | selfDrop
deriving DecidableEq

/-- How a call ends without a value: it returns `Err`, or it panics. -/
inductive Failure
  | err (error : WorkspaceError)
  | panic

namespace WorkspaceNode

variable {K : Type}

/-! ### Looking things up -/

mutual

/-- `find_pane` and `find_pane_for_task` (L1112-1131): the first pane, in tree order,
that passes the test. -/
def findPaneBy (test : TaskPane K → Bool) : WorkspaceNode K → Option (TaskPane K)
  | .pane p => if test p then some p else none
  | .split _ _ children => findPaneByIn test children

def findPaneByIn (test : TaskPane K → Bool) :
    List (SplitChild (WorkspaceNode K)) → Option (TaskPane K)
  | [] => none
  | ⟨node, _⟩ :: children => (findPaneBy test node).or (findPaneByIn test children)

end

/-- `find_pane`, L1112-1119 -/
def findPane (node : WorkspaceNode K) (paneId : PaneId) : Option (TaskPane K) :=
  node.findPaneBy fun p => p.id = paneId

/-- `contains_pane`, L1485-1487 -/
def containsPane (node : WorkspaceNode K) (target : PaneId) : Bool := (node.findPane target).isSome

/-- `find_pane_for_task`, L1121-1131 -/
def findPaneForTask [DecidableEq K] (node : WorkspaceNode K) (taskId : K) : Option (TaskPane K) :=
  node.findPaneBy fun p => p.taskId = taskId

/-- `contains_task`, L1214-1216 -/
def containsTask [DecidableEq K] (node : WorkspaceNode K) (taskId : K) : Bool :=
  (node.findPaneForTask taskId).isSome

/-- `first_pane_id`, L1093-1100 -/
def firstPaneId : WorkspaceNode K → Option PaneId
  | .pane p => some p.id
  | .split _ _ [] => none
  | .split _ _ (⟨node, _⟩ :: _) => firstPaneId node

mutual

/-- `collect_panes` (L1344-1353): every pane of a tree, in tree order. -/
def collectPanes : WorkspaceNode K → List (TaskPane K)
  | .pane p => [p]
  | .split _ _ children => collectPanesIn children

def collectPanesIn : List (SplitChild (WorkspaceNode K)) → List (TaskPane K)
  | [] => []
  | ⟨node, _⟩ :: children => collectPanes node ++ collectPanesIn children

end

mutual

/-- `find_split`, L1154-1162 -/
def findSplit (splitId : SplitId) :
    WorkspaceNode K → Option (List (SplitChild (WorkspaceNode K)))
  | .pane _ => none
  | .split id _ children => if id = splitId then some children else findSplitIn splitId children

def findSplitIn (splitId : SplitId) :
    List (SplitChild (WorkspaceNode K)) → Option (List (SplitChild (WorkspaceNode K)))
  | [] => none
  | ⟨node, _⟩ :: children => (findSplit splitId node).or (findSplitIn splitId children)

end

/-! ### Editing in place

A function of the source that returns a `&mut` is modelled with the edit made
through it: `none` where it returns `None`, and else the edited tree. -/

mutual

/-- An edit through `find_pane_mut` (L1145-1152). -/
def updatePane (paneId : PaneId) (edit : TaskPane K → TaskPane K) :
    WorkspaceNode K → Option (WorkspaceNode K)
  | .pane p => if p.id = paneId then some (.pane (edit p)) else none
  | .split id axis children => (updatePaneIn paneId edit children).map (.split id axis)

def updatePaneIn (paneId : PaneId) (edit : TaskPane K → TaskPane K) :
    List (SplitChild (WorkspaceNode K)) → Option (List (SplitChild (WorkspaceNode K)))
  | [] => none
  | ⟨node, allocation⟩ :: children =>
    match updatePane paneId edit node with
    | some next => some (⟨next, allocation⟩ :: children)
    | none => (updatePaneIn paneId edit children).map (⟨node, allocation⟩ :: ·)

end

mutual

/-- An edit through `find_split_mut` (L1164-1180). -/
def updateSplit (splitId : SplitId)
    (edit : List (SplitChild (WorkspaceNode K)) → List (SplitChild (WorkspaceNode K))) :
    WorkspaceNode K → Option (WorkspaceNode K)
  | .pane _ => none
  | .split id axis children =>
    if id = splitId then some (.split id axis (edit children))
    else (updateSplitIn splitId edit children).map (.split id axis)

def updateSplitIn (splitId : SplitId)
    (edit : List (SplitChild (WorkspaceNode K)) → List (SplitChild (WorkspaceNode K))) :
    List (SplitChild (WorkspaceNode K)) → Option (List (SplitChild (WorkspaceNode K)))
  | [] => none
  | ⟨node, allocation⟩ :: children =>
    match updateSplit splitId edit node with
    | some next => some (⟨next, allocation⟩ :: children)
    | none => (updateSplitIn splitId edit children).map (⟨node, allocation⟩ :: ·)

end

mutual

/-- `set_task_allocation` (L1193-1212): the tree it leaves, and what it returns. -/
def setTaskAllocation [DecidableEq K] (taskId : K) (allocation : Allocation) :
    WorkspaceNode K → WorkspaceNode K × Bool
  | .pane p => (.pane p, false)
  | .split id axis children =>
    let (children, done) := setTaskAllocationIn taskId allocation children
    (.split id axis children, done)

/-- The loop over the children. The innermost split that holds the task has the pane as a
child, and sets the allocation of that child. -/
def setTaskAllocationIn [DecidableEq K] (taskId : K) (allocation : Allocation) :
    List (SplitChild (WorkspaceNode K)) → List (SplitChild (WorkspaceNode K)) × Bool
  | [] => ([], false)
  | ⟨node, current⟩ :: children =>
    if node.containsTask taskId then
      let (next, done) := setTaskAllocation taskId allocation node
      (⟨next, if done then current else allocation⟩ :: children, true)
    else
      let (rest, done) := setTaskAllocationIn taskId allocation children
      (⟨node, current⟩ :: rest, done)

end

/-- `matches!(&child.node, WorkspaceNode::Pane(pane) if &pane.task_id == task)`. -/
def isTask [DecidableEq K] (taskId : K) : WorkspaceNode K → Bool
  | .pane p => p.taskId = taskId
  | .split .. => false

mutual

/-- The `visit` of `task_axis_allocation` (L868-884). -/
def findTaskAllocation [DecidableEq K] (taskId : K) :
    WorkspaceNode K → Option (Axis × Allocation)
  | .pane _ => none
  | .split _ axis children => findTaskAllocationIn taskId axis children

def findTaskAllocationIn [DecidableEq K] (taskId : K) (axis : Axis) :
    List (SplitChild (WorkspaceNode K)) → Option (Axis × Allocation)
  | [] => none
  | ⟨node, allocation⟩ :: children =>
    if node.isTask taskId then some (axis, allocation)
    else (findTaskAllocation taskId node).or (findTaskAllocationIn taskId axis children)

end

/-! ### Copying with other task keys -/

section Keys

variable {U : Type} [DecidableEq U] (mapKey : K → U)

mutual

/-- `map_workspace_node` (L1044-1082): the copy, and the keys seen until its end. -/
def mapWorkspaceNode : WorkspaceNode K → List U → Except WorkspaceError (WorkspaceNode U × List U)
  | .pane p, seen =>
    let mapped := mapKey p.taskId
    if mapped ∈ seen then .error .duplicateTask
    else .ok (.pane ⟨p.id, mapped, p.presentation, p.lastFocusedAt, p.view⟩, mapped :: seen)
  | .split id axis children, seen => do
    let (children, seen) ← mapWorkspaceNodeIn children seen
    pure (.split id axis children, seen)

def mapWorkspaceNodeIn :
    List (SplitChild (WorkspaceNode K)) → List U →
      Except WorkspaceError (List (SplitChild (WorkspaceNode U)) × List U)
  | [], seen => .ok ([], seen)
  | ⟨node, allocation⟩ :: children, seen => do
    let (node, seen) ← mapWorkspaceNode node seen
    let (children, seen) ← mapWorkspaceNodeIn children seen
    pure (⟨node, allocation⟩ :: children, seen)

end

end Keys

/-! ### Inserting and removing -/

/-- `matches!(&child.node, WorkspaceNode::Pane(existing) if existing.id == target)`. -/
def isPane (target : PaneId) : WorkspaceNode K → Bool
  | .pane existing => existing.id = target
  | .split .. => false

/-- The children with the pane next to the child that is the target
(L1423-1444). -/
def insertAmong (target : PaneId) (p : TaskPane K) (insertAfter : Bool)
    (children : List (SplitChild (WorkspaceNode K))) :
    Option (List (SplitChild (WorkspaceNode K))) :=
  match children.findIdx? fun child => child.node.isPane target with
  | some index =>
    some (children.insertIdx (if insertAfter then index + 1 else index) (.auto (.pane p)))
  | none => none

mutual

/-- `insert_pane_near` (L1401-1483), with the id that a new split draws. -/
def insertPaneNear (target : PaneId) (p : TaskPane K) (axis : Axis) (insertAfter : Bool)
    (splitId : SplitId) : WorkspaceNode K → WorkspaceNode K × Bool
  | .pane existing =>
    if existing.id = target then
      let (first, second) := if insertAfter then (existing, p) else (p, existing)
      (.split splitId axis [.auto (.pane first), .auto (.pane second)], true)
    else (.pane existing, false)
  | .split id splitAxis children =>
    match if splitAxis = axis then insertAmong target p insertAfter children else none with
    | some next => (.split id splitAxis next, true)
    | none =>
      let (next, inserted) := insertPaneNearIn target p axis insertAfter splitId children
      (.split id splitAxis next, inserted)

/-- The insertion into the first child that contains the target (L1446-1471). -/
def insertPaneNearIn (target : PaneId) (p : TaskPane K) (axis : Axis) (insertAfter : Bool)
    (splitId : SplitId) :
    List (SplitChild (WorkspaceNode K)) → List (SplitChild (WorkspaceNode K)) × Bool
  | [] => ([], false)
  | ⟨node, allocation⟩ :: children =>
    if node.containsPane target then
      let (next, inserted) := insertPaneNear target p axis insertAfter splitId node
      (⟨next, allocation⟩ :: children, inserted)
    else
      let (rest, inserted) := insertPaneNearIn target p axis insertAfter splitId children
      (⟨node, allocation⟩ :: rest, inserted)

end

/-- A split of what is left of its children: nothing, the one child, or a split
(L1523-1531). -/
def normalized (id : SplitId) (axis : Axis) :
    List (SplitChild (WorkspaceNode K)) → Option (WorkspaceNode K)
  | [] => none
  | [child] => some child.node
  | children => some (.split id axis children)

/-- The child that is pushed when something is left of it (L1505-1510). -/
def keptChild (allocation : Allocation) :
    Option (WorkspaceNode K) → List (SplitChild (WorkspaceNode K))
  | some node => [⟨node, allocation⟩]
  | none => []

mutual

/-- `remove_pane_node`, L1489-1538 -/
def removePaneNode (target : PaneId) :
    WorkspaceNode K → Option (WorkspaceNode K) × Option (TaskPane K)
  | .pane p => if p.id = target then (none, some p) else (some (.pane p), none)
  | .split id axis children =>
    match removePaneNodeIn target children with
    | (next, none) => (some (.split id axis next), none)
    | (next, some removed) => (normalized id axis next, some removed)

/-- The loop over the children, which keeps those after the removed pane as they are. -/
def removePaneNodeIn (target : PaneId) :
    List (SplitChild (WorkspaceNode K)) → List (SplitChild (WorkspaceNode K)) × Option (TaskPane K)
  | [] => ([], none)
  | ⟨node, allocation⟩ :: children =>
    match removePaneNode target node with
    | (next, some removed) => (keptChild allocation next ++ children, some removed)
    | (next, none) =>
      let (rest, removed) := removePaneNodeIn target children
      (keptChild allocation next ++ rest, removed)

end

/-! ### Grids -/

/-- `append_column` (L1302-1341): `Err` gives both nodes back. -/
def appendColumn (row new : WorkspaceNode K) (columns : ℕ) (splitId : SplitId) :
    Except (WorkspaceNode K × WorkspaceNode K) (WorkspaceNode K) :=
  match row with
  | .split id .horizontal children =>
    if children.length ≥ max columns 1 then .error (.split id .horizontal children, new)
    else .ok (.split id .horizontal (children ++ [.auto new]))
  | node =>
    if columns < 2 then .error (node, new)
    else .ok (.split splitId .horizontal [.auto node, .auto new])

/-- `place_in_grid` (L1243-1293), with the id that a new split draws; at most one is
made. -/
def placeInGrid (root new : WorkspaceNode K) (columns : ℕ) (splitId : SplitId) : WorkspaceNode K :=
  match root with
  | .split id .vertical children =>
    match children.getLast? with
    | none => new
    | some last =>
      match appendColumn last.node new columns splitId with
      | .ok row => .split id .vertical (children.dropLast ++ [⟨row, last.allocation⟩])
      | .error (row, new) =>
        .split id .vertical (children.dropLast ++ [⟨row, last.allocation⟩, .auto new])
  | row =>
    match appendColumn row new columns splitId with
    | .ok row => row
    | .error (row, new) => .split splitId .vertical [.auto row, .auto new]

/-- `grid_row` (L1387-1399), with the id that a new split draws. -/
def gridRow (splitId : SplitId) : List (SplitChild (WorkspaceNode K)) → WorkspaceNode K
  | [child] => child.node
  | children => .split splitId .horizontal children

/-- The loop of `grid_tree` (L1363-1373) over the panes that are left, with `rows` and
`children`. The row of index `i` draws the id `splitIds i`. -/
def gridRows (columns : ℕ) (splitIds : ℕ → SplitId) :
    List (TaskPane K) → List (WorkspaceNode K) → List (SplitChild (WorkspaceNode K)) →
      List (WorkspaceNode K)
  | [], rows, children =>
    if children.isEmpty then rows else rows ++ [gridRow (splitIds rows.length) children]
  | p :: panes, rows, children =>
    let children := children ++ [.auto (.pane p)]
    if children.length = columns then
      gridRows columns splitIds panes (rows ++ [gridRow (splitIds rows.length) children]) []
    else gridRows columns splitIds panes rows children

/-- `grid_tree`, L1358-1382 -/
def gridTree (panes : List (TaskPane K)) (columns : ℕ) (splitIds : ℕ → SplitId) :
    Option (WorkspaceNode K) :=
  if panes.isEmpty then none
  else
    match gridRows (max columns 1) splitIds panes [] [] with
    | [row] => some row
    | rows => some (.split (splitIds rows.length) .vertical (rows.map .auto))

/-! ### Validation -/

/-- The sets that `validate_node` fills. -/
structure Seen (K : Type) where
  paneIds : List PaneId
  taskIds : List K
  splitIds : List SplitId

mutual

/-- `validate_node` (L1540-1568): the sets it leaves. -/
def validateNode [DecidableEq K] : WorkspaceNode K → Seen K → Except WorkspaceError (Seen K)
  | .pane p, seen => do
    failIf (p.lastFocusedAt = 0 ∨ p.id ∈ seen.paneIds ∨ p.taskId ∈ seen.taskIds) .invalidTree
    pure { seen with paneIds := p.id :: seen.paneIds, taskIds := p.taskId :: seen.taskIds }
  | .split id _ children, seen => do
    failIf (children.length < 2 ∨ id ∈ seen.splitIds) .invalidTree
    validateNodeIn children { seen with splitIds := id :: seen.splitIds }

def validateNodeIn [DecidableEq K] :
    List (SplitChild (WorkspaceNode K)) → Seen K → Except WorkspaceError (Seen K)
  | [], seen => pure seen
  | ⟨node, allocation⟩ :: children, seen => do
    failIf (¬ allocation.isValid) .invalidTree
    let seen ← validateNode node seen
    validateNodeIn children seen

end

end WorkspaceNode

/-! ## The workspace -/

/-- `Workspace`, L274-284 -/
structure Workspace (K : Type) where
  root : Option (WorkspaceNode K)
  focused : Option PaneId
  previousFocus : Option PaneId
  focusClock : ℕ
  zoomed : Option PaneId

/-- What the `new` of ids return during one call. -/
structure FreshIds where
  pane : PaneId
  split : ℕ → SplitId

/-- `clock.saturating_add(1).max(1)`. -/
def nextFocusClock (clock : ℕ) : ℕ := max (saturatingAdd clock 1) 1

namespace Workspace

variable {K : Type}

/-- `default`, L290-298 -/
def default : Workspace K where
  root := none
  focused := none
  previousFocus := none
  focusClock := 0
  zoomed := none

/-- `Workspace::single` (L302-312), with the id it draws. -/
def single (id : PaneId) (taskId : K) : Workspace K where
  root := some (.pane (.new id taskId 1))
  focused := some id
  previousFocus := none
  focusClock := 1
  zoomed := none

/-- `*self = candidate` at the end of a call that works on a copy; an error before that leaves
`self` as it was. -/
def commit {ε α : Type} (w : Workspace K) :
    Except ε (α × Workspace K) → Except ε α × Workspace K
  | .ok (value, candidate) => (.ok value, candidate)
  | .error error => (.error error, w)

variable (w : Workspace K) (paneId : PaneId)

/-- `pane`, L340-342 -/
def pane : Option (TaskPane K) := w.root.bind fun root => root.findPane paneId

/-- An edit through `pane_mut` (L857-861). -/
def updatePane (edit : TaskPane K → TaskPane K) : Option (Workspace K) := do
  let root ← w.root
  let next ← root.updatePane paneId edit
  pure { w with root := some next }

/-! ### Focus and zoom -/

/-- `focus_pane`, L531-546 -/
def focusPane : Except WorkspaceError Unit × Workspace K :=
  if (w.pane paneId).isNone then (.error .missingPane, w)
  else if w.focused = some paneId then (.ok (), w)
  else
    let clock := nextFocusClock w.focusClock
    let w := { w with focusClock := clock, previousFocus := w.focused, focused := some paneId }
    match w.updatePane paneId fun p => { p with lastFocusedAt := clock } with
    | some next => (.ok (), next)
    | none => (.ok (), w)

/-- `zoom`, L555-564 -/
def zoom : Except WorkspaceError Unit × Workspace K :=
  match w.focusPane paneId with
  | (.error error, w) => (.error error, w)
  | (.ok (), w) =>
    match w.updatePane paneId fun p => { p with presentation := .full } with
    | some next => (.ok (), { next with zoomed := some paneId })
    | none => (.error .missingPane, w)

/-- `unzoom`, L566-568 -/
def unzoom : Workspace K := { w with zoomed := none }

/-- `toggle_zoom_focused`, L570-580 -/
def toggleZoomFocused : Workspace K :=
  match w.zoomed, w.focused with
  | some _, _ => { w with zoomed := none }
  | none, some focused => (w.zoom focused).2
  | none, none => w

/-- `repair_focus_after_removal`, L1026-1041 -/
def repairFocusAfterRemoval (removed : PaneId) : Workspace K :=
  match w.root with
  | none => { w with focused := none, previousFocus := none }
  | some root =>
    let previous := w.previousFocus.filter fun paneId =>
      paneId ≠ removed && (w.pane paneId).isSome
    if w.focused = some removed then
      { w with focused := previous.or root.firstPaneId, previousFocus := none }
    else if w.previousFocus = some removed then { w with previousFocus := none }
    else w

section Keyed

variable [DecidableEq K] (taskId : K)

/-- `pane_for_task`, L344-348 -/
def paneForTask : Option (TaskPane K) :=
  w.root.bind fun root => root.findPaneForTask taskId

/-- `contains_task`, L358-360 -/
def containsTask : Bool := (w.paneForTask taskId).isSome

/-- `validate`, L823-855 -/
def validate : Except WorkspaceError Unit :=
  match w.root with
  | none =>
    failIf (¬ (w.focused.isNone ∧ w.previousFocus.isNone ∧ w.zoomed.isNone)) .invalidTree
  | some root => do
    let seen ← root.validateNode ⟨[], [], []⟩
    let focused ← okOr w.focused .invalidTree
    failIf (focused ∉ seen.paneIds) .invalidTree
    failIf (∃ previous ∈ w.previousFocus, previous = focused ∨ previous ∉ seen.paneIds)
      .invalidTree
    failIf (∃ zoomed ∈ w.zoomed, zoomed ∉ seen.paneIds) .invalidTree

/-- `focus_task`, L668-674 -/
def focusTask : Except WorkspaceError Unit × Workspace K :=
  match w.paneForTask taskId with
  | some p => w.focusPane p.id
  | none => (.error .missingPane, w)

/-- `replace_focused_task`, L679-690 -/
def replaceFocusedTask : Except WorkspaceError Unit × Workspace K :=
  if w.containsTask taskId then w.focusTask taskId
  else
    match w.focused with
    | none => (.error .missingPane, w)
    | some paneId =>
      let clock := nextFocusClock w.focusClock
      let w := { w with focusClock := clock }
      match w.updatePane paneId fun p => { p with taskId, lastFocusedAt := clock } with
      | some next => (.ok (), next)
      | none => (.error .missingPane, w)

/-- `set_presentation`, L1011-1024 -/
def setPresentation (presentation : PanePresentation) :
    Except WorkspaceError Unit × Workspace K :=
  match w.paneForTask taskId with
  | none => (.error .missingPane, w)
  | some p =>
    match w.updatePane p.id fun p => { p with presentation } with
    | some next => (.ok (), next)
    | none => (.error .missingPane, w)

/-! ### Inserting, removing and moving -/

/-- `insert_beside`, L416-447 -/
def insertBeside (target : PaneId) (edge : Edge) (ids : FreshIds) :
    Except WorkspaceError PaneId × Workspace K :=
  if w.containsTask taskId then (.error .duplicateTask, w)
  else
    match w.root with
    | none => (.ok ids.pane, single ids.pane taskId)
    | some root => w.commit do
      let clock := nextFocusClock w.focusClock
      let (next, inserted) := root.insertPaneNear target (.new ids.pane taskId clock) edge.axis
        edge.insertsAfter (ids.split 0)
      failIf (¬ inserted) .missingPane
      let candidate := { w with
        root := some next, focused := some ids.pane, previousFocus := w.focused,
        focusClock := clock }
      candidate.validate
      pure (ids.pane, candidate)

/-- `insert_after_focused`, L384-408 -/
def insertAfterFocused (axis : Axis) (ids : FreshIds) :
    Except WorkspaceError PaneId × Workspace K :=
  match w.focused, w.root with
  | some target, _ =>
    w.insertBeside taskId target (match axis with
      | .horizontal => .right
      | .vertical => .bottom) ids
  | none, none =>
    if w.containsTask taskId then (.error .duplicateTask, w)
    else (.ok ids.pane, single ids.pane taskId)
  | none, some _ => (.error .invalidTree, w)

/-- `insert_into_grid` (L459-484), where `grid_columns_for` returned `columns`. -/
def insertIntoGrid (columns : ℕ) (ids : FreshIds) :
    Except WorkspaceError PaneId × Workspace K :=
  if w.containsTask taskId then (.error .duplicateTask, w)
  else
    match w.root with
    | none => (.ok ids.pane, single ids.pane taskId)
    | some root => w.commit do
      let clock := nextFocusClock w.focusClock
      let new := WorkspaceNode.pane (.new ids.pane taskId clock)
      let candidate := { w with
        root := some (root.placeInGrid new columns (ids.split 0)), focused := some ids.pane,
        previousFocus := w.focused, focusClock := clock }
      candidate.validate
      pure (ids.pane, candidate)

/-- `remove_pane`, L692-710 -/
def removePane (paneId : PaneId) : Except WorkspaceError Unit × Workspace K :=
  if (w.pane paneId).isNone then (.error .missingPane, w)
  else w.commit do
    let root ← okOr w.root .missingPane
    let (next, removed) := root.removePaneNode paneId
    failIf removed.isNone .missingPane
    let candidate := { w with
      root := next
      zoomed := if w.zoomed = some paneId then none else w.zoomed }
    let candidate := candidate.repairFocusAfterRemoval paneId
    candidate.validate
    pure ((), candidate)

/-- `if field == Some(first) { Some(second) } else if field == Some(second) { Some(first) }`. -/
def swapped (first second : PaneId) (field : Option PaneId) : Option PaneId :=
  if field = some first then some second
  else if field = some second then some first
  else field

/-- `swap_panes`, L712-756 -/
def swapPanes (first second : PaneId) : Except WorkspaceError Unit × Workspace K :=
  if first = second then (.error .selfDrop, w)
  else if (w.pane first).isNone ∨ (w.pane second).isNone then (.error .missingPane, w)
  else w.commit do
    let firstPane ← okOr (w.pane first) .missingPane
    let secondPane ← okOr (w.pane second) .missingPane
    let candidate ← okOr (w.updatePane first fun _ => { secondPane with id := first }) .missingPane
    let candidate ←
      okOr (candidate.updatePane second fun _ => { firstPane with id := second }) .missingPane
    let candidate := { candidate with
      focused := swapped first second candidate.focused,
      previousFocus := swapped first second candidate.previousFocus,
      zoomed := swapped first second candidate.zoomed }
    candidate.validate
    pure ((), candidate)

/-- The part of `move_pane` for an edge of the target (L773-793). -/
def movePaneToEdge (source target : PaneId) (edge : Edge) (ids : FreshIds) :
    Except WorkspaceError Unit × Workspace K :=
  w.commit do
    let root ← okOr w.root .missingPane
    let (without, moved) := root.removePaneNode source
    let moved ← okOr moved .missingPane
    let without ← okOr without .invalidTree
    let (next, inserted) := without.insertPaneNear target moved edge.axis edge.insertsAfter
      (ids.split 0)
    failIf (¬ inserted) .missingPane
    let candidate := { w with root := some next }
    candidate.validate
    pure ((), candidate)

/-- `move_pane`, L758-794 -/
def movePane (source : PaneId) (target : DropTarget) (ids : FreshIds) :
    Except WorkspaceError Unit × Workspace K :=
  if source = target.pane then (.error .selfDrop, w)
  else if (w.pane source).isNone ∨ (w.pane (target.pane)).isNone then
    (.error .missingPane, w)
  else
    match target with
    | .center pane => w.swapPanes source pane
    | .edge pane edge => w.movePaneToEdge source pane edge ids

end Keyed

/-! ### Grids -/

/-- The panes in the given order, then those it does not name (L497-506). -/
def orderedPanes : List PaneId → List (TaskPane K) → List (TaskPane K)
  | [], panes => panes
  | paneId :: order, panes =>
    match panes.find? fun p => p.id = paneId with
    | some p => p :: orderedPanes order (panes.eraseP fun p => p.id = paneId)
    | none => orderedPanes order panes

/-- The field names a pane that is not in the tree. -/
def dangling (field : Option PaneId) : Bool := field.any fun paneId => (w.pane paneId).isNone

/-- `rebuild_as_grid` (L491-529). The root has been taken when `rebuilt` is compared
with it, so any tree counts as a change. -/
def rebuildAsGrid (order : List PaneId) (columns : ℕ) (ids : FreshIds) : Bool × Workspace K :=
  match w.root with
  | none => (false, w)
  | some root =>
    let ordered := orderedPanes order root.collectPanes
    let rebuilt := WorkspaceNode.gridTree ordered columns ids.split
    let w := { w with root := rebuilt }
    (rebuilt.isSome, { w with
      focused :=
        if w.focused.isNone || w.dangling w.focused then rebuilt.bind WorkspaceNode.firstPaneId
        else w.focused
      previousFocus := if w.dangling w.previousFocus then none else w.previousFocus
      zoomed := if w.dangling w.zoomed then none else w.zoomed })

/-! ### Sizes -/

section Sizes

variable [DecidableEq K] (taskId : K)

/-- `task_axis_allocation`, L865-887 -/
def taskAxisAllocation : Option (Axis × Allocation) :=
  w.root.bind fun root => root.findTaskAllocation taskId

/-- `set_task_allocation` on the root (L923-928, L932-937). -/
def setTaskAllocation (allocation : Allocation) :
    Except WorkspaceError Unit × Workspace K :=
  match w.root with
  | none => (.error .missingPane, w)
  | some root =>
    let (next, done) := root.setTaskAllocation taskId allocation
    let w := { w with root := some next }
    if done then (.ok (), w) else (.error .missingPane, w)

/-- `pin_task_axis_size`, L915-929 -/
def pinTaskAxisSize (logicalPx : F32) : Except WorkspaceError Unit × Workspace K :=
  if ¬ logicalPx.isFinite ∨ logicalPx.leZero then (.error .invalidTree, w)
  else w.setTaskAllocation taskId (.pinned logicalPx)

/-- `reset_task_axis_size`, L931-938 -/
def resetTaskAxisSize : Except WorkspaceError Unit × Workspace K :=
  w.setTaskAllocation taskId .default

variable (splitId : SplitId) (childIndex : ℕ)

/-- The copy with the allocation of one child set, shared by `resize_split_child` and
`reset_split_child` (L973-984, L988-1003). For the largest index,
`child_index + 1` overflows: a panic, or without overflow checks one when the child is
indexed. -/
def setSplitChild (allocation : Allocation) :
    Except Failure Unit × Workspace K :=
  w.commit do
    let root ← okOr w.root (.err .missingPane)
    let children ← okOr (root.findSplit splitId) (.err .missingPane)
    failIf (childIndex ≥ u64Max) .panic
    failIf (childIndex + 1 ≥ children.length) (.err .missingPane)
    let next ← okOr (root.updateSplit splitId fun children =>
      children.modify childIndex fun child => { child with allocation })
      (.err .missingPane)
    let candidate := { w with root := some next }
    mapErr candidate.validate .err
    pure ((), candidate)

/-- `resize_split_child`, L952-986 -/
def resizeSplitChild (logicalPx : F32) :
    Except Failure Unit × Workspace K :=
  if ¬ logicalPx.isFinite ∨ logicalPx.leZero then (.error (.err .invalidTree), w)
  else w.setSplitChild splitId childIndex (.pinned logicalPx)

/-- `reset_split_child`, L988-1003 -/
def resetSplitChild : Except Failure Unit × Workspace K :=
  w.setSplitChild splitId childIndex .default

end Sizes

/-- `map_task_keys` (L802-821), for a closure that is a function of the key. -/
def mapTaskKeys {U : Type} [DecidableEq U] (mapKey : K → U) :
    Except WorkspaceError (Workspace U) := do
  let root ←
    match w.root with
    | some node =>
      let (node, _) ← node.mapWorkspaceNode mapKey []
      pure (some node)
    | none => pure none
  let mapped : Workspace U := { w with root }
  mapped.validate
  pure mapped

end Workspace

/-! ## Calls -/

/-- The calls that edit a workspace. -/
inductive WorkspaceEdit (K : Type)
  | insertAfterFocused (taskId : K) (axis : Axis)
  | insertBeside (taskId : K) (target : PaneId) (edge : Edge)
  | insertIntoGrid (taskId : K) (columns : ℕ)
  | rebuildAsGrid (order : List PaneId) (columns : ℕ)
  | focusPane (paneId : PaneId)
  | focusTask (taskId : K)
  | zoom (paneId : PaneId)
  | unzoom
  | toggleZoomFocused
  | replaceFocusedTask (taskId : K)
  | removePane (paneId : PaneId)
  | swapPanes (first second : PaneId)
  | movePane (source : PaneId) (target : DropTarget)
  | pinTaskAxisSize (taskId : K) (logicalPx : F32)
  | resetTaskAxisSize (taskId : K)
  | resizeSplitChild (splitId : SplitId) (childIndex : ℕ) (logicalPx : F32)
  | resetSplitChild (splitId : SplitId) (childIndex : ℕ)
  | setPresentation (taskId : K) (presentation : PanePresentation)

/-- An edit, with the ids that are new when it is made. -/
structure WorkspaceCall (K : Type) where
  edit : WorkspaceEdit K
  ids : FreshIds

/-- What a call returns. -/
inductive WorkspaceReply
  | done
  | pane (paneId : PaneId)
  | changed (changed : Bool)

namespace Workspace

variable {K : Type}

/-- The result of a call that can only fail with a `WorkspaceError`. -/
def reply {α : Type} (f : α → WorkspaceReply) (out : Except WorkspaceError α × Workspace K) :
    Except Failure WorkspaceReply × Workspace K :=
  (mapErr (out.1.map f) .err, out.2)

/-- One call on a workspace. -/
def call [DecidableEq K] (w : Workspace K) (c : WorkspaceCall K) :
    Except Failure WorkspaceReply × Workspace K :=
  match c.edit with
  | .insertAfterFocused taskId axis => reply .pane (w.insertAfterFocused taskId axis c.ids)
  | .insertBeside taskId target edge => reply .pane (w.insertBeside taskId target edge c.ids)
  | .insertIntoGrid taskId columns => reply .pane (w.insertIntoGrid taskId columns c.ids)
  | .rebuildAsGrid order columns =>
    let (changed, next) := w.rebuildAsGrid order columns c.ids
    (.ok (.changed changed), next)
  | .focusPane paneId => reply (fun _ => .done) (w.focusPane paneId)
  | .focusTask taskId => reply (fun _ => .done) (w.focusTask taskId)
  | .zoom paneId => reply (fun _ => .done) (w.zoom paneId)
  | .unzoom => (.ok .done, w.unzoom)
  | .toggleZoomFocused => (.ok .done, w.toggleZoomFocused)
  | .replaceFocusedTask taskId => reply (fun _ => .done) (w.replaceFocusedTask taskId)
  | .removePane paneId => reply (fun _ => .done) (w.removePane paneId)
  | .swapPanes first second => reply (fun _ => .done) (w.swapPanes first second)
  | .movePane source target => reply (fun _ => .done) (w.movePane source target c.ids)
  | .pinTaskAxisSize taskId logicalPx =>
    reply (fun _ => .done) (w.pinTaskAxisSize taskId logicalPx)
  | .resetTaskAxisSize taskId => reply (fun _ => .done) (w.resetTaskAxisSize taskId)
  | .resizeSplitChild splitId childIndex logicalPx =>
    let (result, next) := w.resizeSplitChild splitId childIndex logicalPx
    (result.map fun _ => .done, next)
  | .resetSplitChild splitId childIndex =>
    let (result, next) := w.resetSplitChild splitId childIndex
    (result.map fun _ => .done, next)
  | .setPresentation taskId presentation =>
    reply (fun _ => .done) (w.setPresentation taskId presentation)

end Workspace

end DevManager
