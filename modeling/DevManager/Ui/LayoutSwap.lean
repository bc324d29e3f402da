import DevManager.Ui.LayoutMove

/-!
# What a swap exchanges

`swap_panes` writes the contents of each of two panes under the id of the other, and
rewrites the three fields that name a pane. Seen from outside, two tasks change places
and nothing else moves.

* `updatePane_eq_mapPanes`: an edit through `find_pane_mut` maps the panes and keeps the
  tree around them.
* `swapPanes_eq`: `swap_panes` is `exchange`.
-/

namespace DevManager

open Option

namespace WorkspaceNode

variable {K : Type}

/-! ## Mapping the panes -/

mutual

/-- The same tree, splits and allocations, with other panes in the places of its panes. -/
def mapPanes (f : TaskPane K → TaskPane K) : WorkspaceNode K → WorkspaceNode K
  | .pane p => .pane (f p)
  | .split id axis children => .split id axis (mapPanesIn f children)

def mapPanesIn (f : TaskPane K → TaskPane K) :
    List (SplitChild (WorkspaceNode K)) → List (SplitChild (WorkspaceNode K))
  | [] => []
  | ⟨node, allocation⟩ :: children => ⟨mapPanes f node, allocation⟩ :: mapPanesIn f children

end

section Map

variable {f g : TaskPane K → TaskPane K}

mutual

@[simp] theorem collectPanes_mapPanes : ∀ node : WorkspaceNode K,
    (node.mapPanes f).collectPanes = node.collectPanes.map f
  | .pane p => by
    rw [mapPanes, collectPanes_pane, collectPanes_pane]
    rfl
  | .split id axis children => by
    rw [mapPanes, collectPanes_split, collectPanes_split, collectPanesIn_mapPanesIn children]

theorem collectPanesIn_mapPanesIn : ∀ children : List (SplitChild (WorkspaceNode K)),
    collectPanesIn (mapPanesIn f children) = (collectPanesIn children).map f
  | [] => rfl
  | ⟨node, allocation⟩ :: children => by
    rw [mapPanesIn, collectPanesIn_cons, collectPanesIn_cons, List.map_append,
      collectPanes_mapPanes node, collectPanesIn_mapPanesIn children]

end

mutual

theorem mapPanes_mapPanes : ∀ node : WorkspaceNode K,
    (node.mapPanes f).mapPanes g = node.mapPanes (g ∘ f)
  | .pane p => by
    rw [mapPanes, mapPanes, mapPanes, Function.comp_apply]
  | .split id axis children => by
    rw [mapPanes, mapPanes, mapPanes, mapPanesIn_mapPanesIn children]

theorem mapPanesIn_mapPanesIn : ∀ children : List (SplitChild (WorkspaceNode K)),
    mapPanesIn g (mapPanesIn f children) = mapPanesIn (g ∘ f) children
  | [] => rfl
  | ⟨node, allocation⟩ :: children => by
    rw [mapPanesIn, mapPanesIn, mapPanesIn, mapPanes_mapPanes node, mapPanesIn_mapPanesIn children]

end

mutual

theorem mapPanes_congr : ∀ {node : WorkspaceNode K}, (∀ p ∈ node.collectPanes, f p = g p) →
    node.mapPanes f = node.mapPanes g
  | .pane p, h => by
    rw [mapPanes, mapPanes, h p (by simp)]
  | .split id axis children, h => by
    rw [collectPanes_split] at h
    rw [mapPanes, mapPanes, mapPanesIn_congr h]

theorem mapPanesIn_congr : ∀ {children : List (SplitChild (WorkspaceNode K))},
    (∀ p ∈ collectPanesIn children, f p = g p) → mapPanesIn f children = mapPanesIn g children
  | [], _ => rfl
  | ⟨node, allocation⟩ :: children, h => by
    rw [collectPanesIn_cons, List.forall_mem_append] at h
    rw [mapPanesIn, mapPanesIn, mapPanes_congr h.1, mapPanesIn_congr h.2]

end

mutual

@[simp] theorem mapPanes_id : ∀ node : WorkspaceNode K, node.mapPanes id = node
  | .pane p => by
    rw [mapPanes, id]
  | .split splitId axis children => by
    rw [mapPanes, mapPanesIn_id children]

theorem mapPanesIn_id : ∀ children : List (SplitChild (WorkspaceNode K)),
    mapPanesIn id children = children
  | [] => rfl
  | ⟨node, allocation⟩ :: children => by
    rw [mapPanesIn, mapPanes_id node, mapPanesIn_id children]

end

end Map

/-! ## Editing one pane -/

section Update

variable {paneId : PaneId} {edit : TaskPane K → TaskPane K}

/-- The edit where the id is, and nothing elsewhere. -/
def editAt (paneId : PaneId) (edit : TaskPane K → TaskPane K) (p : TaskPane K) : TaskPane K :=
  if p.id = paneId then edit p else p

variable {node : WorkspaceNode K}

theorem mapPanes_editAt_missing
    (h : ∀ p ∈ node.collectPanes, p.id ≠ paneId) : node.mapPanes (editAt paneId edit) = node := by
  have hsame : ∀ p ∈ node.collectPanes, editAt paneId edit p = id p := fun p hp => if_neg (h p hp)
  rw [mapPanes_congr hsame, mapPanes_id]

theorem mapPanesIn_editAt_missing {children} (h : ∀ p ∈ collectPanesIn children, p.id ≠ paneId) :
    mapPanesIn (editAt paneId edit) children = children := by
  have hsame : ∀ p ∈ collectPanesIn children, editAt paneId edit p = id p :=
    fun p hp => if_neg (h p hp)
  rw [mapPanesIn_congr hsame, mapPanesIn_id]

theorem missing_of_updatePane (h : node.updatePane paneId edit = none) :
    ∀ p ∈ node.collectPanes, p.id ≠ paneId := by
  intro p hp hid
  obtain ⟨q, hq⟩ := isSome_iff_exists.mp (containsPane_iff.mpr ⟨p, hp, hid⟩)
  obtain ⟨next, hnext, -⟩ := updatePane_of_find edit hq
  rw [h] at hnext
  cases hnext

theorem found_of_updatePane {next}
    (h : node.updatePane paneId edit = some next) : ∃ p ∈ node.collectPanes, p.id = paneId := by
  cases hfind : node.findPane paneId with
  | some => exact ⟨_, findPane_eq_some hfind⟩
  | none =>
    rw [updatePane_eq_none edit hfind] at h
    cases h

mutual

theorem updatePane_eq_mapPanes : ∀ {node next : WorkspaceNode K},
    (node.collectPanes.map TaskPane.id).Nodup → node.updatePane paneId edit = some next →
      next = node.mapPanes (editAt paneId edit)
  | .pane p, next, _, h => by
    rw [updatePane] at h
    split_ifs at h with hid
    cases h
    rw [mapPanes, editAt, if_pos hid]
  | .split id axis children, next, hids, h => by
    rw [updatePane] at h
    obtain ⟨children', hchild, rfl⟩ := map_eq_some_iff.mp h
    rw [collectPanes_split] at hids
    rw [mapPanes, updatePaneIn_eq_mapPanesIn hids hchild]

theorem updatePaneIn_eq_mapPanesIn : ∀ {children next : List (SplitChild (WorkspaceNode K))},
    ((collectPanesIn children).map TaskPane.id).Nodup →
      updatePaneIn paneId edit children = some next →
        next = mapPanesIn (editAt paneId edit) children
  | [], next, _, h => by cases h
  | ⟨node, allocation⟩ :: children, next, hids, h => by
    rw [collectPanesIn_cons, List.map_append, List.nodup_append'] at hids
    obtain ⟨hnodeIds, hres, hdisj⟩ := hids
    rw [updatePaneIn] at h
    rw [mapPanesIn]
    cases hnode : node.updatePane paneId edit with
    | some node' =>
      rw [hnode] at h
      cases h
      obtain ⟨p, hp, hid⟩ := found_of_updatePane hnode
      have hrest : ∀ q ∈ collectPanesIn children, q.id ≠ paneId := by
        intro q hq hqid
        exact hdisj (List.mem_map_of_mem hp) (List.mem_map.mpr ⟨q, hq, hqid.trans hid.symm⟩)
      rw [updatePane_eq_mapPanes hnodeIds hnode, mapPanesIn_editAt_missing hrest]
    | none =>
      rw [hnode] at h
      obtain ⟨children', hchild, rfl⟩ := map_eq_some_iff.mp h
      rw [mapPanes_editAt_missing (missing_of_updatePane hnode),
        updatePaneIn_eq_mapPanesIn hres hchild]

end

end Update

end WorkspaceNode

namespace Workspace

open WorkspaceNode

variable {K : Type} {w next : Workspace K} {first second : PaneId} {p q r : TaskPane K}

/-! ## The exchange -/

/-- The contents of `p` under the id of `q`, and those of `q` under the id of `p`. -/
def exchanged (p q r : TaskPane K) : TaskPane K :=
  if r.id = p.id then { q with id := p.id }
  else if r.id = q.id then { p with id := q.id }
  else r

/-- The workspace with the contents of `p` and `q` exchanged; the fields that name one of the two
follow its contents. -/
def exchange (w : Workspace K) (p q : TaskPane K) : Workspace K :=
  { w with
    root := w.root.map (mapPanes (exchanged p q)), focused := swapped p.id q.id w.focused,
    previousFocus := swapped p.id q.id w.previousFocus, zoomed := swapped p.id q.id w.zoomed }

/-- The task in the pane that a field names. -/
def taskAt (w : Workspace K) (field : Option PaneId) : Option K :=
  (field.bind w.pane).map TaskPane.taskId

@[simp] theorem exchanged_id (p q r : TaskPane K) : (exchanged p q r).id = r.id := by
  unfold exchanged
  split_ifs with hp hq
  · exact hp.symm
  · exact hq.symm
  · rfl

theorem exchanged_left (p q : TaskPane K) : exchanged p q p = { q with id := p.id } := if_pos rfl

theorem exchanged_right (hne : p.id ≠ q.id) : exchanged p q q = { p with id := q.id } := by
  rw [exchanged, if_neg hne.symm, if_pos rfl]

theorem exchanged_other (hp : r.id ≠ p.id) (hq : r.id ≠ q.id) : exchanged p q r = r := by
  rw [exchanged, if_neg hp, if_neg hq]

theorem editAt_editAt (hne : p.id ≠ q.id) :
    editAt q.id (fun _ => { p with id := q.id }) ∘ editAt p.id (fun _ => { q with id := p.id }) =
      exchanged p q := by
  funext r
  rw [Function.comp_apply]
  unfold exchanged editAt
  by_cases hp : r.id = p.id
  · rw [if_pos hp, if_pos hp, if_neg hne]
  · rw [if_neg hp, if_neg hp]

theorem panesOf_exchange (w : Workspace K) (p q) :
    panesOf (w.exchange p q).root = (panesOf w.root).map (exchanged p q) := by
  unfold exchange
  cases w.root with
  | none => rfl
  | some => exact collectPanes_mapPanes _

theorem pane_exchange (w : Workspace K) (p q) (id : PaneId) :
    (w.exchange p q).pane id = (w.pane id).map (exchanged p q) := by
  rw [pane_eq_find?, pane_eq_find?, panesOf_exchange, List.find?_map]
  congr 2
  funext r
  rw [Function.comp_apply, exchanged_id]

theorem pane_id (h : w.pane first = some p) : p.id = first := by
  obtain ⟨root, -, hfind⟩ := pane_eq_some h
  exact (findPane_eq_some hfind).2

theorem taskAt_exchange (hne : p.id ≠ q.id) (hp : w.pane p.id = some p) (hq : w.pane q.id = some q)
    (field : Option PaneId) :
    (w.exchange p q).taskAt (swapped p.id q.id field) = w.taskAt field := by
  unfold taskAt swapped
  by_cases hfst : field = some p.id
  · rw [if_pos hfst, hfst, bind_some, bind_some, pane_exchange, hp, hq,
      map_some, exchanged_right hne]
    rfl
  · rw [if_neg hfst]
    by_cases hsnd : field = some q.id
    · rw [if_pos hsnd, hsnd, bind_some, bind_some, pane_exchange, hp, hq, map_some, exchanged_left]
      rfl
    · rw [if_neg hsnd]
      cases field with
      | none => rfl
      | some id =>
        rw [bind_some, bind_some, pane_exchange]
        cases hr : w.pane id with
        | none => rfl
        | some r =>
          have hid := pane_id hr
          have hother : exchanged p q r = r := by
            refine exchanged_other (fun hsame => hfst ?_) (fun hsame => hsnd ?_)
            · rw [← hsame, hid]
            · rw [← hsame, hid]
          rw [map_some, hother]

theorem swapped_swapped (first second : PaneId) (field : Option PaneId) :
    swapped first second (swapped first second field) = field := by
  have hinv : (Equiv.swap first second : PaneId → PaneId) ∘ Equiv.swap first second = id := by
    funext x
    exact Equiv.swap_apply_self first second x
  rw [swapped_eq, swapped_eq, map_map, hinv, map_id, id]

theorem exchange_exchange (hw : w.WellFormed) (hne : p.id ≠ q.id) (hp : w.pane p.id = some p)
    (hq : w.pane q.id = some q) :
    (w.exchange p q).exchange { q with id := p.id } { p with id := q.id } = w := by
  have hroot : (w.root.map (mapPanes (exchanged p q))).map
      (mapPanes (exchanged { q with id := p.id } { p with id := q.id })) = w.root := by
    obtain ⟨root, hroot, hfin⟩ := pane_eq_some hp
    obtain ⟨root', hroot', hfindSecond⟩ := pane_eq_some hq
    rw [hroot] at hroot'
    cases hroot'
    have hvalid := hw.tree root hroot
    have hsame : ∀ r ∈ root.collectPanes,
        (exchanged { q with id := p.id } { p with id := q.id } ∘ exchanged p q) r = id r := by
      intro r hr
      rw [Function.comp_apply, id]
      by_cases hfst : r.id = p.id
      · rw [hvalid.eq_of_id hr (findPane_eq_some hfin).1 hfst, exchanged_left]
        exact exchanged_left _ _
      · by_cases hsnd : r.id = q.id
        · rw [hvalid.eq_of_id hr (findPane_eq_some hfindSecond).1 hsnd, exchanged_right hne]
          exact exchanged_right hne
        · rw [exchanged_other hfst hsnd]
          exact exchanged_other hfst hsnd
    rw [hroot, map_some, map_some, mapPanes_mapPanes, mapPanes_congr hsame, mapPanes_id]
  have hfields := swapped_swapped p.id q.id
  simp only [exchange, hroot, hfields]

section Keyed

variable [DecidableEq K]

theorem swapPanes_eq (hw : w.WellFormed) (hne : p.id ≠ q.id) (hp : w.pane p.id = some p)
    (hq : w.pane q.id = some q) : w.swapPanes p.id q.id = (.ok (), w.exchange p q) := by
  obtain ⟨root, mid, next, hroot, hmid, hnext, -, -, hwell⟩ := swapPanes_of_panes hw hne hp hq
  have hids := (hw.tree root hroot).paneIds
  have hmidEq := updatePane_eq_mapPanes hids hmid
  have hmidIds : (mid.collectPanes.map TaskPane.id).Nodup := by
    have hsame : TaskPane.id ∘ editAt p.id (fun _ => { q with id := p.id }) = TaskPane.id := by
      funext r
      rw [Function.comp_apply, editAt]
      split_ifs with hid
      · exact hid.symm
      · rfl
    rwa [hmidEq, collectPanes_mapPanes, List.map_map, hsame]
  have hnextEq := updatePane_eq_mapPanes hmidIds hnext
  rw [hmidEq, mapPanes_mapPanes, editAt_editAt hne] at hnextEq
  rw [swapPanes_eq_ok hne hp hq hroot hmid hnext hwell, exchange, hroot, hnextEq]
  rfl

theorem exchange_of_swapPanes (hw : w.WellFormed) (h : w.swapPanes first second = (.ok (), next)) :
    ∃ p q, w.pane first = some p ∧ w.pane second = some q ∧ p.id = first ∧ q.id = second ∧
      first ≠ second ∧ next = w.exchange p q := by
  by_cases hne : first = second
  · rw [swapPanes, if_pos hne] at h
    cases h
  cases hfst : w.pane first with
  | none =>
    rw [swapPanes, if_neg hne, if_pos (by simp [hfst])] at h
    cases h
  | some p =>
    cases hsnd : w.pane second with
    | none =>
      rw [swapPanes, if_neg hne, if_pos (by simp [hsnd])] at h
      cases h
    | some q =>
      obtain rfl := pane_id hfst
      obtain rfl := pane_id hsnd
      rw [swapPanes_eq hw hne hfst hsnd] at h
      cases h
      exact ⟨p, q, rfl, rfl, rfl, rfl, hne, rfl⟩

/-- On a valid workspace, a successful `swap_panes` leaves the tree, its splits and its allocations
as they were: the tasks of the two panes change places, every other pane stays, the focused,
previous and zoomed pane are those of the same tasks as before, and the same swap again gives
the workspace back. -/
theorem swapPanes_exchanges (hw : w.validate = .ok ())
    (h : w.swapPanes first second = (.ok (), next)) :
    ∃ p q, w.pane first = some p ∧ w.pane second = some q ∧
      next.root = w.root.map (mapPanes (exchanged p q)) ∧
      next.taskAt (some first) = some q.taskId ∧ next.taskAt (some second) = some p.taskId ∧
      (∀ id, id ≠ first → id ≠ second → next.pane id = w.pane id) ∧
      next.taskAt next.focused = w.taskAt w.focused ∧
      next.taskAt next.previousFocus = w.taskAt w.previousFocus ∧
      next.taskAt next.zoomed = w.taskAt w.zoomed ∧
      next.focusClock = w.focusClock ∧
      next.swapPanes first second = (.ok (), w) := by
  have hwell := validate_eq_ok.mp hw
  obtain ⟨p, q, hp, hq, rfl, rfl, hne, rfl⟩ := exchange_of_swapPanes hwell h
  have hp' : (w.exchange p q).pane p.id = some { q with id := p.id } := by
    rw [pane_exchange, hp, map_some, exchanged_left]
  have hq' : (w.exchange p q).pane q.id = some { p with id := q.id } := by
    rw [pane_exchange, hq, map_some, exchanged_right hne]
  refine ⟨p, q, hp, hq, rfl, ?_, ?_, ?_, taskAt_exchange hne hp hq _, taskAt_exchange hne hp hq _,
    taskAt_exchange hne hp hq _, rfl, ?_⟩
  · rw [taskAt, bind_some, hp']
    rfl
  · rw [taskAt, bind_some, hq']
    rfl
  · intro id hfst hsnd
    rw [pane_exchange]
    cases hr : w.pane id with
    | none => rfl
    | some r =>
      obtain rfl := pane_id hr
      rw [map_some, exchanged_other hfst hsnd]
  · have hout : Outcome w ⟨p.id, fun _ => ⟨0⟩⟩ _ _ := swapPanes_outcome hwell p.id q.id
    rw [h] at hout
    have hagain := swapPanes_eq (p := { q with id := p.id }) (q := { p with id := q.id })
      (hout.toNext hwell).wellFormed hne hp' hq'
    rw [exchange_exchange hwell hne hp hq] at hagain
    exact hagain

/-- The focused pane is swapped with the zoomed one. -/
theorem swapPanes_exchanges_sampleColumns :
    (sampleColumns.swapPanes ⟨0⟩ ⟨2⟩).2.taskAt (some ⟨0⟩) = some 2 ∧
      (sampleColumns.swapPanes ⟨0⟩ ⟨2⟩).2.taskAt (sampleColumns.swapPanes ⟨0⟩ ⟨2⟩).2.focused =
        sampleColumns.taskAt (some ⟨0⟩) ∧
      (sampleColumns.swapPanes ⟨0⟩ ⟨2⟩).2.swapPanes ⟨0⟩ ⟨2⟩ = (.ok (), sampleColumns) := by
  have hvalid : sampleColumns.validate = .ok () := by decide
  have hswap : sampleColumns.swapPanes ⟨0⟩ ⟨2⟩ =
      (.ok (), (sampleColumns.swapPanes ⟨0⟩ ⟨2⟩).2) := Prod.ext (by decide) rfl
  have hthird : sampleColumns.pane ⟨2⟩ = some (.new ⟨2⟩ 2 3) := rfl
  obtain ⟨p, q, -, hq, -, hfst, -, -, hfocus, -, -, -, hagain⟩ :=
    swapPanes_exchanges hvalid hswap
  rw [hthird] at hq
  cases hq
  exact ⟨hfst, hfocus, hagain⟩

end Keyed

end Workspace

end DevManager
