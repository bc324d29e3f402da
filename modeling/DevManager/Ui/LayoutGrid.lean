import DevManager.Ui.LayoutSwap

/-!
# One grid, built two ways

A grid is built at once from a list of panes (`grid_tree`), or pane by pane
(`place_in_grid`), which looks at the shape of the tree it was given to find the last
row. Both follow one rule, stated here without trees: a pane goes to the last row while
that has room, and else begins a row.

* `eraseIds_gridTree`: `grid_tree` draws the rows of the rule.
* `placeInGrid_treeOf`: `place_in_grid` follows the rule on a tree that draws rows.
-/

namespace DevManager

open List

/-! ## The rule -/

section Rule

variable {α : Type} {columns : ℕ} {rows : List (List α)} {last : List α} {a : α}

/-- The rows with one more cell: in the last row while that has room, and else in a row of its
own. -/
def addCell (columns : ℕ) (rows : List (List α)) (a : α) : List (List α) :=
  match rows.getLast? with
  | none => [[a]]
  | some last =>
    if last.length < columns then rows.dropLast ++ [last ++ [a]] else rows ++ [[a]]

theorem addCell_nil : addCell columns [] a = [[a]] := rfl

theorem addCell_room (h : last.length < columns) :
    addCell columns (rows ++ [last]) a = rows ++ [last ++ [a]] := by
  rw [addCell, getLast?_concat, dropLast_concat]
  exact if_pos h

theorem addCell_full (h : ¬ last.length < columns) :
    addCell columns (rows ++ [last]) a = rows ++ [last] ++ [[a]] := by
  rw [addCell, getLast?_concat]
  exact if_neg h

theorem addCell_new (h : ∀ row ∈ rows, row.length = columns) :
    addCell columns rows a = rows ++ [[a]] := by
  obtain rfl | ⟨init, last, rfl⟩ := eq_nil_or_concat' rows
  · exact addCell_nil
  · exact addCell_full (by rw [h last (by simp)]; omega)

theorem addCell_ne (h : ∀ row ∈ rows, row ≠ []) :
    addCell columns rows a ≠ [] ∧ ∀ row ∈ addCell columns rows a, row ≠ [] := by
  obtain rfl | ⟨init, last, rfl⟩ := eq_nil_or_concat' rows
  · exact ⟨by simp [addCell_nil], by simp [addCell_nil]⟩
  · rw [forall_mem_append] at h
    by_cases hroom : last.length < columns
    · rw [addCell_room hroom]
      refine ⟨by simp, ?_⟩
      rw [forall_mem_append]
      exact ⟨h.1, by simp⟩
    · rw [addCell_full hroom]
      refine ⟨by simp, ?_⟩
      rw [forall_mem_append, forall_mem_append]
      exact ⟨h, by simp⟩

end Rule

namespace WorkspaceNode

variable {K : Type}

/-! ## Trees up to the ids of their splits -/

mutual

/-- The tree with one id for every split. -/
def eraseIds : WorkspaceNode K → WorkspaceNode K
  | .pane p => .pane p
  | .split _ axis children => .split ⟨0⟩ axis (eraseIdsIn children)

def eraseIdsIn : List (SplitChild (WorkspaceNode K)) → List (SplitChild (WorkspaceNode K))
  | [] => []
  | ⟨node, allocation⟩ :: children => ⟨eraseIds node, allocation⟩ :: eraseIdsIn children

end

section Erase

variable {p : TaskPane K} {node : WorkspaceNode K} {id : SplitId} {axis : Axis}
  {children children' : List (SplitChild (WorkspaceNode K))} {panes : List (TaskPane K)}

@[simp] theorem eraseIds_pane : (pane p).eraseIds = pane p := by
  rw [eraseIds]

@[simp] theorem eraseIds_split :
    (split id axis children).eraseIds = split ⟨0⟩ axis (eraseIdsIn children) := by
  rw [eraseIds]

theorem eraseIdsIn_eq : eraseIdsIn children =
    children.map fun child => ⟨child.node.eraseIds, child.allocation⟩ := by
  induction children with
  | nil => rfl
  | cons child children ih => rw [eraseIdsIn, ih, map_cons]

@[simp] theorem eraseIdsIn_append :
    eraseIdsIn (children ++ children') = eraseIdsIn children ++ eraseIdsIn children' := by
  rw [eraseIdsIn_eq, map_append, ← eraseIdsIn_eq, ← eraseIdsIn_eq]

@[simp] theorem eraseIdsIn_cells : eraseIdsIn (cells panes) = cells panes := by
  rw [eraseIdsIn_eq, cells, map_map]
  refine map_congr_left fun p _ => ?_
  show (⟨(pane p).eraseIds, _⟩ : SplitChild (WorkspaceNode K)) = _
  rw [eraseIds_pane]
  rfl

theorem eraseIds_ne_split (h : ∀ id children, node ≠ .split id axis children) :
    ∀ id children, node.eraseIds ≠ .split id axis children := by
  intro id children heq
  cases node with
  | pane p =>
    rw [eraseIds_pane] at heq
    cases heq
  | split id' axis' children' =>
    rw [eraseIds_split] at heq
    injection heq with _ haxis _
    exact h id' children' (by rw [haxis])

theorem eraseIdsIn_rows (rows : List (WorkspaceNode K)) :
    eraseIdsIn (rows.map .auto) = (rows.map eraseIds).map .auto := by
  rw [eraseIdsIn_eq, map_map, map_map]
  rfl

end Erase

/-! ## Drawing rows -/

/-- A row of cells. -/
def rowTree (row : List (TaskPane K)) : WorkspaceNode K := gridRow ⟨0⟩ (cells row)

/-- The tree that draws these rows. -/
def treeOf (rows : List (List (TaskPane K))) : WorkspaceNode K :=
  match rows.map rowTree with
  | [row] => row
  | rows => .split ⟨0⟩ .vertical (rows.map .auto)

section Draw

variable {p : TaskPane K} {new : WorkspaceNode K} {columns : ℕ} {cs row last : List (TaskPane K)}
  {rows init : List (List (TaskPane K))} {id : SplitId}

theorem treeOf_singleton : treeOf [row] = rowTree row := rfl

theorem treeOf_concat (h : init ≠ []) :
    treeOf (init ++ [last]) =
      .split ⟨0⟩ .vertical ((init.map fun row => .auto (rowTree row)) ++
        [.auto (rowTree last)]) := by
  obtain ⟨first, rest, rfl⟩ := exists_cons_of_ne_nil h
  cases rest with
  | nil => rfl
  | cons second rest =>
    unfold treeOf
    simp

theorem eraseIds_gridRow : (gridRow id (cells cs)).eraseIds = rowTree cs := by
  match cs with
  | [] => rfl
  | [p] => exact eraseIds_pane
  | p :: q :: rest =>
    show (split id .horizontal (cells (p :: q :: rest))).eraseIds = _
    rw [eraseIds_split, eraseIdsIn_cells]
    rfl

/-- The cells of the row that is not full yet. -/
def unfinished (cs : List (TaskPane K)) : List (List (TaskPane K)) := if cs = [] then [] else [cs]

theorem addCell_unfinished (hfull : ∀ row ∈ rows, row.length = columns)
    (hroom : cs.length < columns) :
    addCell columns (rows ++ unfinished cs) p = rows ++ [cs ++ [p]] := by
  unfold unfinished
  split_ifs with hnil
  · rw [hnil, append_nil, addCell_new hfull, nil_append]
  · rw [addCell_room hroom]

theorem eraseIds_gridRows (columns : ℕ) (ids : ℕ → SplitId) (panes : List (TaskPane K)) :
    ∀ (rows : List (WorkspaceNode K)) (full : List (List (TaskPane K))) (cs : List (TaskPane K)),
      rows.map eraseIds = full.map rowTree → (∀ row ∈ full, row.length = columns) →
        cs.length < columns →
          (gridRows columns ids panes rows (cells cs)).map eraseIds =
            (panes.foldl (addCell columns) (full ++ unfinished cs)).map rowTree := by
  induction panes with
  | nil =>
    intro rows full cs hrows _ _
    rw [gridRows, foldl_nil, unfinished]
    by_cases hnil : cs = []
    · subst hnil
      simpa [cells] using hrows
    · have hcells : (cells cs).isEmpty = false := by simpa [cells] using hnil
      rw [hcells, if_neg hnil, if_neg (by simp), map_append, map_append, hrows,
        map_singleton, map_singleton, eraseIds_gridRow]
  | cons p panes ih =>
    intro rows full cs hrows hfull hroom
    have hcells : cells cs ++ [.auto (.pane p)] = cells (cs ++ [p]) := by simp [cells]
    rw [gridRows, foldl_cons, addCell_unfinished hfull hroom, hcells]
    split_ifs with hlast
    · -- The row is full: the next pane begins a new one.
      have hlen : (cs ++ [p]).length = columns := by simpa [cells] using hlast
      have hnext := ih (rows ++ [gridRow (ids rows.length) (cells (cs ++ [p]))])
        (full ++ [cs ++ [p]]) [] ?_ ?_ (Nat.zero_lt_of_lt hroom)
      · rw [unfinished, if_pos rfl, append_nil] at hnext
        exact hnext
      · rw [map_append, map_append, hrows, map_singleton, map_singleton, eraseIds_gridRow]
      · rw [forall_mem_append]
        exact ⟨hfull, by simpa using hlen⟩
    · have hlen : (cs ++ [p]).length < columns := by
        have hne : ¬ (cs ++ [p]).length = columns := by simpa [cells] using hlast
        rw [length_append, length_singleton] at hne ⊢
        omega
      have hnext := ih rows full (cs ++ [p]) hrows hfull hlen
      rw [unfinished, if_neg (by simp)] at hnext
      exact hnext

theorem eraseIds_gridTree (columns : ℕ) (ids : ℕ → SplitId) {panes : List (TaskPane K)}
    (hne : panes ≠ []) : (gridTree panes columns ids).map eraseIds =
      some (treeOf (panes.foldl (addCell (max columns 1)) [])) := by
  obtain ⟨rows, -, -, hrows, hgrid⟩ := gridTree_rows columns ids hne
  have herase : rows.map eraseIds = (panes.foldl (addCell (max columns 1)) []).map rowTree := by
    have hloop := eraseIds_gridRows (max columns 1) ids panes [] [] [] rfl (by simp) (by simp)
    rw [hrows]
    simpa [unfinished, cells] using hloop
  rw [hgrid, treeOf, ← herase]
  split
  · rfl
  · next hone =>
    rw [Option.map_some, eraseIds_split, eraseIdsIn_rows]
    split
    · next row hrow =>
      obtain ⟨row', hrow', -⟩ := map_eq_singleton_iff.mp hrow
      exact absurd hrow' (hone row')
    · rfl

/-! ## Placing pane by pane -/

theorem appendColumn_row (splitId id : SplitId) (children)
    (new : WorkspaceNode K) (columns : ℕ) :
    appendColumn (.split splitId .horizontal children) new columns id =
      if children.length ≥ max columns 1 then .error (.split splitId .horizontal children, new)
      else .ok (.split splitId .horizontal (children ++ [.auto new])) := rfl

theorem appendColumn_column (node new : WorkspaceNode K) (columns : ℕ) (id : SplitId)
    (h : ∀ splitId children, node ≠ .split splitId .horizontal children) :
    appendColumn node new columns id =
      if columns < 2 then .error (node, new)
      else .ok (.split id .horizontal [.auto node, .auto new]) := by
  unfold appendColumn
  split
  · next splitId children => exact absurd rfl (h splitId children)
  · rfl

theorem eraseIds_appendColumn (node new : WorkspaceNode K) (columns : ℕ) (id : SplitId) :
    appendColumn node.eraseIds new.eraseIds columns ⟨0⟩ =
      match appendColumn node new columns id with
      | .ok row => .ok row.eraseIds
      | .error (row, new) => .error (row.eraseIds, new.eraseIds) := by
  by_cases hrow : ∃ splitId children, node = .split splitId .horizontal children
  · obtain ⟨splitId, children, rfl⟩ := hrow
    have hlen : (eraseIdsIn children).length = children.length := by
      rw [eraseIdsIn_eq, length_map]
    rw [eraseIds_split]
    rw [appendColumn_row, appendColumn_row, hlen]
    split_ifs with hfull
    · simp
    · simp [eraseIdsIn, SplitChild.auto]
  · have hnode : ∀ splitId children, node ≠ .split splitId .horizontal children :=
      fun splitId children h => hrow ⟨splitId, children, h⟩
    rw [appendColumn_column _ _ _ _ hnode, appendColumn_column _ _ _ _ (eraseIds_ne_split hnode)]
    split_ifs with hnarrow
    · rfl
    · simp [eraseIdsIn, SplitChild.auto]

theorem placeInGrid_row (node new : WorkspaceNode K) (columns : ℕ) (id : SplitId)
    (h : ∀ splitId children, node ≠ .split splitId .vertical children) :
    node.placeInGrid new columns id = match appendColumn node new columns id with
      | .ok row => row
      | .error (row, new) => .split id .vertical [.auto row, .auto new] := by
  unfold placeInGrid
  split
  · next splitId children => exact absurd rfl (h splitId children)
  · rfl

theorem placeInGrid_rows (splitId id : SplitId) (init)
    (last) (new : WorkspaceNode K) (columns : ℕ) :
    (split splitId .vertical (init ++ [last])).placeInGrid new columns id =
      match appendColumn last.node new columns id with
      | .ok row => .split splitId .vertical (init ++ [⟨row, last.allocation⟩])
      | .error (row, new) =>
        .split splitId .vertical (init ++ [⟨row, last.allocation⟩, .auto new]) := by
  rw [placeInGrid, getLast?_concat]
  have hin : (init ++ [last]).dropLast = init := dropLast_concat
  generalize (init ++ [last]).dropLast = others at hin ⊢
  subst hin
  rfl

theorem eraseIds_placeInGrid (node new : WorkspaceNode K) (columns : ℕ) (id : SplitId) :
    (node.placeInGrid new columns id).eraseIds =
      node.eraseIds.placeInGrid new.eraseIds columns ⟨0⟩ := by
  by_cases hrows : ∃ splitId children, node = .split splitId .vertical children
  · obtain ⟨splitId, children, rfl⟩ := hrows
    rw [eraseIds_split]
    obtain rfl | ⟨init, last, rfl⟩ := eq_nil_or_concat' children
    · rfl
    · have herased : eraseIdsIn (init ++ [last]) =
          eraseIdsIn init ++ [⟨last.node.eraseIds, last.allocation⟩] := by
        rw [eraseIdsIn_append]
        rfl
      rw [placeInGrid_rows, herased, placeInGrid_rows,
        eraseIds_appendColumn last.node new columns id]
      rcases appendColumn last.node new columns id with ⟨row, new⟩ | row
      · simp [eraseIdsIn, SplitChild.auto]
      · simp [eraseIdsIn]
  · have hnode : ∀ splitId children, node ≠ .split splitId .vertical children :=
      fun splitId children h => hrows ⟨splitId, children, h⟩
    rw [placeInGrid_row _ _ _ _ hnode, placeInGrid_row _ _ _ _ (eraseIds_ne_split hnode),
      eraseIds_appendColumn node new columns id]
    rcases appendColumn node new columns id with ⟨row, new⟩ | row
    · simp [eraseIdsIn, SplitChild.auto]
    · rfl

theorem appendColumn_rowTree (hrow : row ≠ []) :
    appendColumn (rowTree row) (.pane p) columns ⟨0⟩ =
      if row.length < max columns 1 then .ok (rowTree (row ++ [p]))
      else .error (rowTree row, .pane p) := by
  match row, hrow with
  | [q], _ =>
    show (if columns < 2 then _ else _) = _
    by_cases hnarrow : columns < 2
    · rw [if_pos hnarrow, if_neg (by simp; omega)]
    · rw [if_neg hnarrow, if_pos (by simp; omega)]
      rfl
  | q :: q' :: rest, _ =>
    show (if (cells (q :: q' :: rest)).length ≥ max columns 1 then _ else _) = _
    have hlen : (cells (q :: q' :: rest)).length = (q :: q' :: rest).length := by simp [cells]
    rw [hlen]
    by_cases hroom : (q :: q' :: rest).length < max columns 1
    · rw [if_neg (by omega), if_pos hroom]
      simp [rowTree, cells, gridRow]
    · rw [if_pos (by omega), if_neg hroom]
      rfl

theorem placeInGrid_rowTree (hrow : row ≠ []) : (rowTree row).placeInGrid new columns id =
      match appendColumn (rowTree row) new columns id with
      | .ok row => row
      | .error (row, new) => .split id .vertical [.auto row, .auto new] := by
  match row, hrow with
  | [q], _ => rfl
  | q :: q' :: rest, _ => rfl

theorem placeInGrid_treeOf (hne : rows ≠ []) (hrows : ∀ row ∈ rows, row ≠ []) :
    (treeOf rows).placeInGrid (.pane p) columns ⟨0⟩ = treeOf (addCell (max columns 1) rows p) := by
  obtain ⟨init, last, rfl⟩ := eq_nil_or_concat' rows |>.resolve_left hne
  have hlast : last ≠ [] := hrows last (by simp)
  by_cases hin : init = []
  · subst hin
    rw [nil_append, treeOf_singleton, placeInGrid_rowTree hlast, appendColumn_rowTree hlast]
    by_cases hroom : last.length < max columns 1
    · have hcell : addCell (max columns 1) ([] ++ [last]) p = _ := addCell_room hroom
      rw [nil_append] at hcell
      rw [if_pos hroom, hcell]
      rfl
    · have hcell : addCell (max columns 1) ([] ++ [last]) p = _ := addCell_full hroom
      rw [nil_append] at hcell
      rw [if_neg hroom, hcell]
      rfl
  · rw [treeOf_concat hin, placeInGrid_rows]
    show (match appendColumn (rowTree last) (.pane p) columns ⟨0⟩ with
      | .ok row => _
      | .error (row, new) => _) = _
    rw [appendColumn_rowTree hlast]
    by_cases hroom : last.length < max columns 1
    · rw [if_pos hroom, addCell_room hroom, treeOf_concat hin]
      rfl
    · rw [if_neg hroom, addCell_full hroom, treeOf_concat (by simp)]
      simp only [map_append, map_singleton, append_assoc, singleton_append]
      rfl

/-- Panes placed one at a time, each with the id that its call of `place_in_grid` draws. -/
def placeAll (columns : ℕ) (placed : List (TaskPane K × SplitId)) (node : WorkspaceNode K) :
    WorkspaceNode K :=
  placed.foldl (fun node q => node.placeInGrid (.pane q.1) columns q.2) node

theorem eraseIds_placeAll (columns : ℕ) (placed : List (TaskPane K × SplitId)) :
    ∀ {rows : List (List (TaskPane K))} {node : WorkspaceNode K}, rows ≠ [] →
      (∀ row ∈ rows, row ≠ []) → node.eraseIds = treeOf rows →
        (placeAll columns placed node).eraseIds =
          treeOf ((placed.map Prod.fst).foldl (addCell (max columns 1)) rows) := by
  induction placed with
  | nil => exact fun _ _ hnode => hnode
  | cons q placed ih =>
    intro rows node hne hrows hnode
    have hstep : (node.placeInGrid (.pane q.1) columns q.2).eraseIds =
        treeOf (addCell (max columns 1) rows q.1) := by
      rw [eraseIds_placeInGrid, hnode, eraseIds_pane, placeInGrid_treeOf hne hrows]
    obtain ⟨hne', hrows'⟩ := addCell_ne hrows
    exact ih hne' hrows' hstep

end Draw

end WorkspaceNode

namespace Workspace

open WorkspaceNode

variable {K : Type}

/-! ## Rebuilding -/

theorem orderedPanes_eq (order) : ∀ {panes : List (TaskPane K)},
    (panes.map TaskPane.id).Nodup →
      orderedPanes order panes =
        order.eraseDups.filterMap (fun id => panes.find? fun p => p.id = id) ++
          panes.filter fun p => p.id ∉ order := by
  induction order with
  | nil =>
    intro panes _
    simp [orderedPanes]
  | cons id order ih =>
    intro panes hids
    have hkeep : ((panes.filter fun p => p.id ≠ id).map TaskPane.id).Nodup :=
      hids.sublist (filter_sublist.map TaskPane.id)
    -- The other names find what they found, without the first one as well.
    have hnames : (order.filter fun b => !b == id).eraseDups.filterMap
          (fun id => panes.find? fun p => p.id = id) =
        order.eraseDups.filterMap
          fun b => (panes.filter fun p => p.id ≠ id).find? fun p => p.id = b := by
      rw [eraseDups_filter, filterMap_filter]
      congr 1
      funext b
      rw [find?_filter_key]
      by_cases hb : b = id
      · simp [hb]
      · simp [hb]
    have hrest : ((panes.filter fun p => p.id ≠ id).filter fun p => p.id ∉ order) =
        panes.filter fun p => p.id ∉ id :: order := by
      rw [filter_filter]
      congr 1
      funext p
      simp [Bool.and_comm]
    rw [orderedPanes, eraseDups_cons, filterMap_cons, hnames, ← hrest]
    cases hfind : panes.find? fun p => p.id = id with
    | some p =>
      dsimp only
      rw [eraseP_key hids, ih hkeep, cons_append]
    | none =>
      have hgone : (panes.filter fun p => p.id ≠ id) = panes := by
        rw [filter_eq_self]
        intro p hp
        simpa using find?_eq_none.mp hfind p hp
      dsimp only
      rw [hgone, ih hids]

theorem dangling_of_wellFormed {w next : Workspace K} {field}
    (hnext : ∀ id, next.pane id = w.pane id) (h : ∀ id ∈ field, id ∈ w.paneIds) :
    next.dangling field = false := by
  refine dangling_of_mem fun id hid => ?_
  rw [mem_paneIds_iff, hnext id, ← mem_paneIds_iff]
  exact h id hid

theorem rebuildAsGrid_panes {w : Workspace K} (hw : w.WellFormed) (order)
    (columns : ℕ) (ids : FreshIds) :
    ∃ root, (w.rebuildAsGrid order columns ids).2 = { w with root } ∧
      panesOf root = order.eraseDups.filterMap w.pane ++
        (panesOf w.root).filter (fun p => p.id ∉ order) ∧
      (panesOf root).Perm (panesOf w.root) := by
  unfold rebuildAsGrid
  cases hroot : w.root with
  | none =>
    have hpane : w.pane = fun _ => none := by
      funext id
      rw [pane, hroot]
      rfl
    have hsame : w = { w with root := none } := by rw [← hroot]
    refine ⟨none, hsame, ?_, .refl _⟩
    rw [hpane]
    simp [panesOf]
  | some root =>
    have hids := hw.nodup_ids
    rw [hroot] at hids
    have hord := orderedPanes_perm order root.collectPanes
    have hne : orderedPanes order root.collectPanes ≠ [] := by
      obtain ⟨p, hp, -⟩ := firstPaneId_of_shaped (hw.tree root hroot).shaped
      exact ne_nil_of_mem (hord.mem_iff.mpr hp)
    obtain ⟨next, hgrid, hpanes⟩ := gridTree_panes columns ids.split hne
    rw [← hpanes] at hord
    have hpane : ∀ id, ({ w with root := some next } : Workspace K).pane id = w.pane id := by
      intro id
      rw [pane_eq_find?, pane_eq_find?, hroot]
      exact find?_key_perm hids hord
    have hfocus : w.focused.isNone = false := by
      rw [← Option.not_isSome, hw.hasFocus (by simp [hroot])]
      rfl
    refine ⟨some next, ?_, ?_, hord⟩
    · simp only [hgrid, hfocus, dangling_of_wellFormed hpane hw.focused,
        dangling_of_wellFormed hpane fun id hid => (hw.previous id hid).1,
        dangling_of_wellFormed hpane hw.zoomed, Bool.or_false, Bool.false_eq_true, if_false]
    · have hname : w.pane = fun id => root.collectPanes.find? fun p => p.id = id := by
        funext id
        rw [pane_eq_find?, hroot]
        rfl
      rw [hname]
      exact hpanes.trans (orderedPanes_eq order hids)

/-- Panes placed one at a time, from the first one on, give the tree of `grid_tree` up to the ids of
its splits, for every number of columns. On a valid workspace `rebuild_as_grid` keeps every
pane, once: those of the order first, in that order and each where it is named first, and the
others after them as they stood. The fields that name a pane stay, and name what they named. -/
theorem grid_incremental_batch :
    (∀ first (placed : List (TaskPane K × SplitId)) columns
      ids,
      some (placeAll columns placed (.pane first)).eraseIds =
        (gridTree (first :: placed.map Prod.fst) columns ids).map eraseIds) ∧
    ∀ [DecidableEq K] (w next : Workspace K) (order : List PaneId) (columns : ℕ) (ids : FreshIds),
      w.validate = .ok () → (w.rebuildAsGrid order columns ids).2 = next →
        panesOf next.root = order.eraseDups.filterMap w.pane ++
            (panesOf w.root).filter (fun p => p.id ∉ order) ∧
          (panesOf next.root).Perm (panesOf w.root) ∧
          next.focused = w.focused ∧ next.previousFocus = w.previousFocus ∧
          next.zoomed = w.zoomed ∧ ∀ id, next.pane id = w.pane id := by
  refine ⟨?_, ?_⟩
  · intro first placed columns ids
    have hfst : (WorkspaceNode.pane first).eraseIds = treeOf [[first]] := eraseIds_pane
    rw [eraseIds_placeAll columns placed (by simp) (by simp) hfst,
      eraseIds_gridTree columns ids (by simp)]
    rfl
  · intro _ w next order columns ids hw hnext
    have hwell := validate_eq_ok.mp hw
    obtain ⟨root, hleft, hpanes, hperm⟩ := rebuildAsGrid_panes hwell order columns ids
    rw [hleft] at hnext
    subst hnext
    refine ⟨hpanes, hperm, rfl, rfl, rfl, fun id => ?_⟩
    rw [pane_eq_find?, pane_eq_find?]
    exact find?_key_perm hwell.nodup_ids hperm

/-- A third pane fills the row of two; an order that names the last pane twice and one that is not
there. -/
theorem grid_incremental_batch_sampleColumns :
    some (placeAll 2 [((.new ⟨1⟩ 1 2 : TaskPane ℕ), ⟨5⟩), (.new ⟨2⟩ 2 3, ⟨6⟩)]
        (.pane (.new ⟨0⟩ 0 1))).eraseIds =
      (gridTree [.new ⟨0⟩ 0 1, .new ⟨1⟩ 1 2, .new ⟨2⟩ 2 3] 2 fun i => ⟨i⟩).map eraseIds ∧
    panesOf (sampleColumns.rebuildAsGrid [⟨2⟩, ⟨7⟩, ⟨2⟩] 2 (sampleIds 12)).2.root =
      [.new ⟨2⟩ 2 3, .new ⟨0⟩ 0 1, .new ⟨1⟩ 1 2] := by
  have hvalid : sampleColumns.validate = .ok () := by decide
  obtain ⟨hpanes, -⟩ := (grid_incremental_batch (K := ℕ)).2 sampleColumns _
    [⟨2⟩, ⟨7⟩, ⟨2⟩] 2 (sampleIds 12) hvalid rfl
  refine ⟨grid_incremental_batch.1 _ [(.new ⟨1⟩ 1 2, ⟨5⟩), (.new ⟨2⟩ 2 3, ⟨6⟩)] 2 _, ?_⟩
  rw [hpanes]
  decide

end Workspace

end DevManager
