import DevManager.Kernel.Guard

/-!
# Terminals: three projections of one thing

Which shells a task has is kept in three places: the resources, the terminal facts
and the terminal strip. The strip's own validation checks neither that a shell is
unreleased nor that all shells are there; over the runs of the kernel the three
agree.

* `terminalInv_of_guarded`: `TerminalInv` holds in every state of a guarded run.
* `size_occupiedPlainShellIds`: the bound as `decide` counts it is the length of
  the strip, as `apply` counts it.
-/

namespace DevManager

open Std (ExtTreeMap ExtTreeSet LawfulEqCmp)
open List OrdMap TaskTerminalStrip

/-- A terminal that is not released. -/
def isLiveTerminal (r : ResourceFacts) : Prop :=
  r.resourceKind = .terminal ∧ r.lifecycle ≠ .released

/-- What the resources, terminal facts and terminal strip keep over runs of guarded events. -/
structure TerminalInv (s : TaskSnapshot) : Prop where
  key : ∀ (id : ResourceId) (r : ResourceFacts), s.resources[id]? = some r → r.id = id
  task : ∀ (id : ResourceId) r, s.resources[id]? = some r →
    r.ownerKind = .task ∧ r.taskId = some s.task.id
  kind : ∀ (id : ResourceId) (r : ResourceFacts), s.resources[id]? = some r →
    r.recipe.isPlainShell = true → r.resourceKind = .terminal
  facts : ∀ id, id ∈ s.terminalFacts ↔ ∃ r, s.resources[id]? = some r ∧ isLiveTerminal r
  nodup : s.terminalStrip.order.Nodup
  order : ∀ id, id ∈ s.terminalStrip.order ↔ ∃ r, s.resources[id]? = some r ∧ isOccupied r = true
  room : s.terminalStrip.order.length ≤ maxPlainShellsPerTask
  focus : ∀ id, s.terminalStrip.focused = some id → id ∈ s.terminalStrip.order
  title : ∀ (id : ResourceId) r f,
    s.resources[id]? = some r → r.recipe.isPlainShell = true → s.terminalFacts[id]? = some f →
    f.title = r.recipe.title

/-- Every stored recipe is valid. -/
def RecipesValid [Externals] (s : TaskSnapshot) : Prop :=
  ∀ (id : ResourceId) (r : ResourceFacts), s.resources[id]? = some r → r.recipe.validate = .ok ()

section Terminals

variable {s s' : TaskSnapshot}

theorem isOccupied_iff {r : ResourceFacts} :
    isOccupied r = true ↔
      r.resourceKind = .terminal ∧ r.recipe.isPlainShell = true ∧ r.lifecycle ≠ .released := by
  simp [isOccupied, isPlainShellTerminal, and_assoc]

/-! ## The strip as a set -/

variable {id : ResourceId}

theorem mem_occupiedPlainShellIds
    (hkey : ∀ (id : ResourceId) (r : ResourceFacts), s.resources[id]? = some r → r.id = id)
     : id ∈ occupiedPlainShellIds s ↔ ∃ r, s.resources[id]? = some r ∧ isOccupied r = true := by
  unfold occupiedPlainShellIds
  rw [ExtTreeSet.mem_ofList, contains_iff_mem, mem_map]
  constructor
  · rintro ⟨r, hr, rfl⟩
    obtain ⟨hmem, hoccurs⟩ := mem_filter.mp hr
    obtain ⟨⟨k, r⟩, hentry, rfl⟩ := mem_map.mp hmem
    have hget := ExtTreeMap.mem_toList_iff_getElem?_eq_some.mp hentry
    rw [hkey k r hget]
    exact ⟨r, hget, hoccurs⟩
  · rintro ⟨r, hget, hoccurs⟩
    refine ⟨r, mem_filter.mpr ⟨mem_map.mpr ⟨(id, r), ?_, rfl⟩, hoccurs⟩, hkey id r hget⟩
    exact ExtTreeMap.mem_toList_iff_getElem?_eq_some.mpr hget

/-! ## The invariant -/

theorem terminalInv_replace (h : TerminalInv s) {r r' : ResourceFacts}
    (hid : s'.task.id = s.task.id) (hres : s.resources[id]? = some r)
    (hresources : s'.resources = s.resources.insert id r')
    (hstrip : s'.terminalStrip = s.terminalStrip)
    (hmem : ∀ j : ResourceId, j ∈ s'.terminalFacts ↔ j ∈ s.terminalFacts)
    (htitle : ∀ (j : ResourceId) (x : ResourceFacts) f,
      s'.resources[j]? = some x → x.recipe.isPlainShell = true → s'.terminalFacts[j]? = some f →
      f.title = x.recipe.title)
    (hid' : r'.id = r.id) (howner : r'.ownerKind = r.ownerKind) (htask : r'.taskId = r.taskId)
    (hkind : r'.resourceKind = r.resourceKind)
    (hshell : r'.recipe.isPlainShell = r.recipe.isPlainShell)
    (hrel : r'.lifecycle = .released ↔ r.lifecycle = .released) : TerminalInv s' := by
  have hlive : isLiveTerminal r' ↔ isLiveTerminal r := by
    unfold isLiveTerminal
    rw [hkind, ne_eq, ne_eq, hrel]
  have hoccurs : isOccupied r' = true ↔ isOccupied r = true := by
    rw [isOccupied_iff, isOccupied_iff, hkind, hshell, ne_eq, ne_eq, hrel]
  refine ⟨?_, ?_, ?_, ?_, ?_, ?_, ?_, ?_, htitle⟩
  · rw [hresources]
    exact forall_insert (hid'.trans (h.key id r hres)) h.key
  · rw [hresources, hid]
    refine forall_insert ?_ h.task
    rw [howner, htask]
    exact h.task id r hres
  · rw [hresources]
    refine forall_insert ?_ h.kind
    rw [hshell, hkind]
    exact h.kind id r hres
  · intro j
    rw [hmem, h.facts, hresources, exists_insert_congr hres hlive]
  · rw [hstrip]
    exact h.nodup
  · intro j
    rw [hstrip, h.order, hresources, exists_insert_congr hres hoccurs]
  · rw [hstrip]
    exact h.room
  · rw [hstrip]
    exact h.focus

variable {j : ResourceId}

theorem joins_iff {c : Prop} {old : ResourceId → Prop} (hnew : ¬ old id) :
    (j = id ∧ c ∨ j ≠ id ∧ old j) ↔ (c ∧ j = id ∨ old j) := by
  by_cases hj : j = id
  · subst hj
    simp [hnew]
  · simp [hj]

theorem mem_terminalFacts_ite {c : Prop} [Decidable c] {f : TerminalFacts} :
    j ∈ (if c then s.terminalFacts.insert id f else s.terminalFacts) ↔
      (c ∧ j = id ∨ j ∈ s.terminalFacts) := by
  split_ifs with h
  · rw [OrdMap.mem_insert_iff]
    simp [h]
  · simp [h]

theorem mem_order_ite {c : Prop} [Decidable c] {order : List ResourceId} :
    j ∈ (if c then order ++ [id] else order) ↔ (c ∧ j = id ∨ j ∈ order) := by
  split_ifs with h
  · rw [mem_append, mem_singleton]
    simp [h, or_comm]
  · simp [h]

theorem focus_joined {strip : TaskTerminalStrip}
    (hfocus : ∀ j, strip.focused = some j → j ∈ strip.order)
    (hj : (if strip.focused.isNone then some id else strip.focused) = some j) :
    j ∈ strip.order ++ [id] := by
  rw [mem_append, mem_singleton]
  split_ifs at hj with hnone
  · cases hj
    exact .inr rfl
  · exact .inl (hfocus j hj)

variable {resource : ResourceFacts}

theorem terminalInv_registered [Externals] (h : TerminalInv s) {t : ℤ}
    (hid : s'.task.id = s.task.id) (howner : resource.ownerKind = .task)
    (htask : resource.taskId = some s.task.id) (hvalid : resource.validate = .ok ())
    (hactive : resource.lifecycle = .active) (hnew : resource.id ∉ s.resources)
    (hroom : resource.recipe.isPlainShell = true →
      s.terminalStrip.order.length < maxPlainShellsPerTask)
    (hres : s'.resources = s.resources.insert resource.id resource)
    (hfacts : s'.terminalFacts = if resource.resourceKind = .terminal then
        s.terminalFacts.insert resource.id
          (TerminalFacts.registered resource.id resource.recipe.title t)
      else s.terminalFacts) (hstrip : s'.terminalStrip = if isPlainShellTerminal resource then {
        order := s.terminalStrip.order ++ [resource.id]
        focused := if s.terminalStrip.focused.isNone then some resource.id
          else s.terminalStrip.focused }
      else s.terminalStrip) : TerminalInv s' := by
  have hnone : s.resources[resource.id]? = none := not_mem_iff.mp hnew
  have hkind : resource.recipe.isPlainShell = true → resource.resourceKind = .terminal :=
    ResourceFacts.isTerminal_of_isPlainShell hvalid
  -- what the new id has no entry for, it had no trace of before
  have hnofacts : resource.id ∉ s.terminalFacts := by
    rw [h.facts]
    rintro ⟨r, hr, -⟩
    rw [hnone] at hr
    cases hr
  have hnoorder : resource.id ∉ s.terminalStrip.order := by
    rw [h.order]
    rintro ⟨r, hr, -⟩
    rw [hnone] at hr
    cases hr
  have hlive : isLiveTerminal resource ↔ resource.resourceKind = .terminal := by
    unfold isLiveTerminal
    rw [hactive]
    simp
  have hoccurs : isOccupied resource = true ↔ isPlainShellTerminal resource = true := by
    unfold isOccupied
    rw [hactive]
    simp
  have hord : s'.terminalStrip.order = if isPlainShellTerminal resource then
      s.terminalStrip.order ++ [resource.id] else s.terminalStrip.order := by
    rw [hstrip, apply_ite order]
  refine ⟨?_, ?_, ?_, ?_, ?_, ?_, ?_, ?_, ?_⟩
  · rw [hres]
    exact forall_insert rfl h.key
  · rw [hres, hid]
    exact forall_insert ⟨howner, htask⟩ h.task
  · rw [hres]
    exact forall_insert hkind h.kind
  · intro j
    rw [hres, exists_insert_iff, hlive, ← h.facts, hfacts, joins_iff hnofacts,
      mem_terminalFacts_ite]
  · rw [hord]
    split_ifs
    · exact List.Nodup.append h.nodup (nodup_singleton _) (by simpa using hnoorder)
    · exact h.nodup
  · intro j
    rw [hres, exists_insert_iff, hoccurs, ← h.order, hord, joins_iff hnoorder, mem_order_ite]
  · rw [hord]
    split_ifs with hshell
    · simp only [isPlainShellTerminal, Bool.and_eq_true] at hshell
      have hlt : s.terminalStrip.order.length < maxPlainShellsPerTask := hroom hshell.2
      rw [length_append, length_singleton]
      omega
    · exact h.room
  · intro j hj
    rw [hord]
    rw [hstrip] at hj
    by_cases hshell : isPlainShellTerminal resource = true
    · rw [if_pos hshell] at hj ⊢
      exact focus_joined h.focus hj
    · rw [if_neg hshell] at hj ⊢
      exact h.focus j hj
  · intro j r f hr hshell hf
    rw [hres, getElem?_insert_eq] at hr
    rw [hfacts] at hf
    split_ifs at hr with hj
    · cases hr
      subst hj
      rw [if_pos (hkind hshell), getElem?_insert_eq, if_pos rfl] at hf
      cases hf
      rfl
    · refine h.title j r f hr hshell ?_
      split_ifs at hf
      · rw [getElem?_insert_eq, if_neg hj] at hf
        exact hf
      · exact hf

variable (h : TerminalInv s)

include h

theorem terminalInv_released
    {t : ℤ} (hid : s'.task.id = s.task.id) (hres : s.resources[id]? = some resource)
    (hresources : s'.resources = s.resources.insert id
      { resource with lifecycle := .released, updatedAtMs := t })
    (hfacts : s'.terminalFacts = s.terminalFacts.erase id)
    (hstrip : s'.terminalStrip = s.terminalStrip.remove id) : TerminalInv s' := by
  have hdead : ∀ r : ResourceFacts, r.lifecycle = .released → ¬ isLiveTerminal r :=
    fun r hr hlive => hlive.2 hr
  have hfree : ∀ r : ResourceFacts, r.lifecycle = .released → isOccupied r ≠ true :=
    fun r hr hoccurs => (isOccupied_iff.mp hoccurs).2.2 hr
  refine ⟨?_, ?_, ?_, ?_, ?_, ?_, ?_, ?_, ?_⟩
  · have hkey := h.key id resource hres
    rw [hresources]
    exact forall_insert hkey h.key
  · have htask := h.task id resource hres
    rw [hresources, hid]
    exact forall_insert htask h.task
  · have hkind := h.kind id resource hres
    rw [hresources]
    exact forall_insert hkind h.kind
  · intro j
    rw [hresources, exists_insert_iff, hfacts, mem_erase_iff, h.facts]
    simp [hdead]
  · rw [hstrip]
    exact h.nodup.filter _
  · intro j
    rw [hresources, exists_insert_iff, hstrip, remove, mem_filter, h.order]
    simp [hfree, and_comm]
  · rw [hstrip]
    exact le_trans (length_filter_le _ _) h.room
  · intro j hj
    rw [hstrip, remove] at hj ⊢
    dsimp only at hj ⊢
    split_ifs at hj with hfocus
    refine mem_filter.mpr ⟨h.focus j hj, ?_⟩
    rw [decide_eq_true_eq]
    rintro rfl
    exact hfocus hj
  · intro j r f hr hshell hf
    rw [hfacts, getElem?_erase_eq] at hf
    split_ifs at hf with hj
    rw [hresources, getElem?_insert_eq, if_neg hj] at hr
    exact h.title j r f hr hshell hf

theorem terminalInv_stripSet {strip}
    (hid : s'.task.id = s.task.id)
    (hguard : ExtTreeSet.ofList strip.order = occupiedPlainShellIds s)
    (hvalid : strip.validate s.task.id s.resources = .ok ())
    (hres : s'.resources = s.resources) (hfacts : s'.terminalFacts = s.terminalFacts)
    (hstrip : s'.terminalStrip = strip) : TerminalInv s' := by
  obtain ⟨hlen, hnodup, -, hfocus⟩ := validate_eq_ok.mp hvalid
  refine ⟨?_, ?_, ?_, ?_, ?_, ?_, ?_, ?_, ?_⟩
  · rw [hres]
    exact h.key
  · rw [hres, hid]
    exact h.task
  · rw [hres]
    exact h.kind
  · rw [hfacts, hres]
    exact h.facts
  · rw [hstrip]
    exact hnodup
  · intro j
    rw [hstrip, hres, ← mem_occupiedPlainShellIds h.key, ← hguard, ExtTreeSet.mem_ofList,
      contains_iff_mem]
  · rw [hstrip]
    exact hlen
  · rw [hstrip]
    exact hfocus
  · rw [hres, hfacts]
    exact h.title

theorem terminalInv_frame (hid : s'.task.id = s.task.id)
    (hres : s'.resources = s.resources) (hfacts : s'.terminalFacts = s.terminalFacts)
    (hstrip : s'.terminalStrip = s.terminalStrip) : TerminalInv s' := by
  refine ⟨?_, ?_, ?_, ?_, ?_, ?_, ?_, ?_, ?_⟩ <;> simp only [hres, hfacts, hstrip, hid]
  exacts [h.key, h.task, h.kind, h.facts, h.nodup, h.order, h.room, h.focus, h.title]

theorem terminalInv_reported {facts facts'}
    (hid : s'.task.id = s.task.id) (hfound : s.terminalFacts[id]? = some facts)
    (hfacts : s'.terminalFacts = s.terminalFacts.insert id facts')
    (htitle : facts'.title = facts.title) (hres : s'.resources = s.resources)
    (hstrip : s'.terminalStrip = s.terminalStrip) : TerminalInv s' := by
  have hmem : ∀ j : ResourceId, j ∈ s'.terminalFacts ↔ j ∈ s.terminalFacts := by
    intro j
    rw [hfacts, OrdMap.mem_insert_iff, or_iff_right_of_imp]
    rintro rfl
    exact mem_iff_exists.mpr ⟨facts, hfound⟩
  refine ⟨?_, ?_, ?_, ?_, ?_, ?_, ?_, ?_, ?_⟩
  · rw [hres]
    exact h.key
  · rw [hres, hid]
    exact h.task
  · rw [hres]
    exact h.kind
  · intro j
    rw [hmem, hres]
    exact h.facts j
  · rw [hstrip]
    exact h.nodup
  · rw [hstrip, hres]
    exact h.order
  · rw [hstrip]
    exact h.room
  · rw [hstrip]
    exact h.focus
  · intro j r f hr hshell hf
    rw [hres] at hr
    rw [hfacts] at hf
    rcases of_insert hf with ⟨rfl, rfl⟩ | ⟨-, hf⟩
    · rw [htitle]
      exact h.title id r facts hr hshell hfound
    · exact h.title j r f hr hshell hf

theorem terminalInv_releaseBegun
    {t : ℤ} (hid : s'.task.id = s.task.id) (hres : s.resources[id]? = some resource)
    (hactive : resource.lifecycle = .active) (hresources : s'.resources = s.resources.insert id
      { resource with lifecycle := .releasing, updatedAtMs := t })
    (hfacts : s'.terminalFacts = s.terminalFacts)
    (hstrip : s'.terminalStrip = s.terminalStrip) : TerminalInv s' := by
  refine terminalInv_replace h hid hres hresources hstrip (fun j => by rw [hfacts]) ?_ rfl rfl
    rfl rfl rfl ?_
  · intro j r f hr hshell hf
    rw [hfacts] at hf
    rw [hresources] at hr
    rcases of_insert hr with ⟨rfl, rfl⟩ | ⟨-, hr⟩
    · exact h.title id resource f hres hshell hf
    · exact h.title j r f hr hshell hf
  · rw [hactive]
    simp

theorem terminalInv_renamed {title facts} (hid : s'.task.id = s.task.id)
    (hres : s.resources[id]? = some resource) (hshell : resource.recipe.isPlainShell = true)
    (hfound : s.terminalFacts[id]? = some facts) (hresources : s'.resources = s.resources.insert id
      { resource with recipe := resource.recipe.withTitle (some title) })
    (hfacts : s'.terminalFacts = s.terminalFacts.insert id { facts with title := some title })
    (hstrip : s'.terminalStrip = s.terminalStrip) : TerminalInv s' := by
  refine terminalInv_replace h hid hres hresources hstrip (fun j => ?_) ?_ rfl rfl rfl rfl
    (ResourceRecipe.isPlainShell_withTitle _ _) Iff.rfl
  · rw [hfacts, OrdMap.mem_insert_iff, or_iff_right_of_imp]
    rintro rfl
    exact mem_iff_exists.mpr ⟨facts, hfound⟩
  · intro j r f hr hr' hf
    rw [hresources, getElem?_insert_eq] at hr
    rw [hfacts, getElem?_insert_eq] at hf
    split_ifs at hr hf with hj
    · cases hr
      cases hf
      exact (ResourceRecipe.title_withTitle hshell _).symm
    · exact h.title j r f hr hr' hf

omit h

variable [Externals]

theorem terminalInv_effect {p} {t : ℤ} (h : TerminalInv s) (hguard : Guard s p) :
    Ensures (effect s p t) TerminalInv := by
  intro s' heff
  obtain ⟨hid, -, -⟩ := effect_task s p t s' heff
  cases effect_terminals s p t s' heff with
  | frame hresources hfacts hstrip => exact terminalInv_frame h hid hresources hfacts hstrip
  | registered howner htask hvalid hactive hnew hroom hresources hfacts hstrip =>
    exact terminalInv_registered h hid howner htask hvalid hactive hnew hroom hresources hfacts
      hstrip
  | releaseBegun hres hactive hresources hfacts hstrip =>
    exact terminalInv_releaseBegun h hid hres hactive hresources hfacts hstrip
  | released hres _ hresources hfacts hstrip =>
    exact terminalInv_released h hid hres hresources hfacts hstrip
  | renamed hres hshell _ hfound hresources hfacts hstrip =>
    exact terminalInv_renamed h hid hres hshell hfound hresources hfacts hstrip
  | reported hfound hfacts htitle hresources hstrip =>
    exact terminalInv_reported h hid hfound hfacts htitle hresources hstrip
  | stripSet hvalid hresources hfacts hstrip =>
    exact terminalInv_stripSet h hid hguard hvalid hresources hfacts hstrip

theorem terminalInv_of_guarded (h : guarded.Reachable s) : TerminalInv s := by
  refine eventMachine_invariant h (fun s hs => ?_)
    (fun _ _ h => ⟨h.key, h.task, h.kind, h.facts, h.nodup, h.order, h.room, h.focus, h.title⟩)
    fun _ _ _ _ hinv hguard => terminalInv_effect hinv hguard
  refine ⟨?_, ?_, ?_, ?_, ?_, ?_, ?_, ?_, ?_⟩ <;>
    simp [hs.resources, hs.terminals, hs.strip, TaskTerminalStrip.default]

theorem recipesValid_effect {p} {t : ℤ} (h : RecipesValid s) :
    Ensures (effect s p t) RecipesValid := by
  intro s' heff
  unfold RecipesValid at h ⊢
  cases effect_terminals s p t s' heff with
  | frame hresources | reported _ _ _ hresources | stripSet _ hresources => rw [hresources]; exact h
  | registered _ _ hvalid _ _ _ hresources =>
    rw [hresources]
    exact forall_insert (ResourceFacts.kind_recipe_of_validate hvalid).2 h
  | releaseBegun hres _ hresources | released hres _ hresources =>
    have hrec := h _ _ hres
    rw [hresources]
    exact forall_insert hrec h
  | renamed hres hshell htitle _ hresources =>
    have hrec := ResourceRecipe.validate_withTitle hshell (h _ _ hres) htitle
    rw [hresources]
    exact forall_insert hrec h

theorem recipesValid_of_guarded (h : guarded.Reachable s) : RecipesValid s := by
  refine eventMachine_invariant h (fun s hs => ?_) (fun _ _ h => h)
    fun _ _ _ _ hinv _ => recipesValid_effect hinv
  intro id r hr
  simp [hs.resources] at hr

end Terminals

/-- In every reachable snapshot the terminal facts are those of the unreleased terminals, the strip
holds each unreleased plain shell of the task once and focuses one of them or none, titles
agree, and every recipe is valid. -/
theorem terminal_projections_agree [Externals] {s : TaskSnapshot} (hs : visited.Reachable s) :
    (∀ id : ResourceId, id ∈ s.terminalFacts ↔ ∃ r, s.resources[id]? = some r ∧
        r.resourceKind = .terminal ∧ r.lifecycle ≠ .released) ∧
      (s.terminalStrip.order.Nodup ∧
        (∀ id, id ∈ s.terminalStrip.order ↔ ∃ r, s.resources[id]? = some r ∧
          r.taskId = some s.task.id ∧ isPlainShellTerminal r = true ∧ r.lifecycle ≠ .released) ∧
        s.terminalStrip.order.length ≤ maxPlainShellsPerTask) ∧
      (∀ id, s.terminalStrip.focused = some id → id ∈ s.terminalStrip.order) ∧
      (∀ (id : ResourceId) r (f : TerminalFacts), s.resources[id]? = some r →
        isPlainShellTerminal r = true → s.terminalFacts[id]? = some f →
        f.title = r.recipe.title) ∧
      ∀ (id : ResourceId) r, s.resources[id]? = some r → r.recipe.validate = .ok () := by
  have hguard : guarded.Reachable s := guarded_of_visited hs
  have hinv : TerminalInv s := terminalInv_of_guarded hguard
  refine ⟨hinv.facts, ⟨hinv.nodup, fun id => ?_, hinv.room⟩, hinv.focus, ?_,
    recipesValid_of_guarded hguard⟩
  · rw [hinv.order]
    constructor
    · rintro ⟨r, hr, hoccurs⟩
      obtain ⟨hkind, hshell, hlife⟩ := isOccupied_iff.mp hoccurs
      exact ⟨r, hr, (hinv.task id r hr).2, by simp [isPlainShellTerminal, hkind, hshell], hlife⟩
    · rintro ⟨r, hr, -, hshell, hlife⟩
      exact ⟨r, hr, by simp [isOccupied, hshell, hlife]⟩
  · intro id r f hr hshell hf
    simp only [isPlainShellTerminal, Bool.and_eq_true] at hshell
    exact hinv.title id r f hr hshell.2 hf

def sampleShell (n : ℕ) : ResourceFacts where
  id := ⟨n⟩
  taskId := some ⟨1⟩
  ownerKind := .task
  resourceKind := .terminal
  recipe := .terminal 80 24 (some { cwd := "/", program := "sh", args := [] }) none
  lifecycle := .active
  runtimeGeneration := 1
  updatedAtMs := 0

def shellSnapshot : ℕ → TaskSnapshot
  | 0 => sampleSnapshot
  | n + 1 =>
    let shell := sampleShell (n + 1)
    (registerTerminal ((shellSnapshot n).setResource shell.id shell) shell 0).withRevision (n + 2)

section Sample

attribute [local instance] sampleExternals

theorem shellSnapshot_next {n : ℕ} (hn : n < maxPlainShellsPerTask) :
    Command.decide (some (shellSnapshot n))
        (envelopeFor (shellSnapshot n) (.openShellTerminal (sampleShell (n + 1)))) ⟨1⟩ =
      .ok [.resourceRegistered (sampleShell (n + 1))] ∧
    applyStamped (shellSnapshot n) (sampleStamp, .resourceRegistered (sampleShell (n + 1))) =
      .ok (shellSnapshot (n + 1)) := by
  have hlt : n < 8 := hn
  interval_cases n <;> exact ⟨rfl, rfl⟩

theorem reachable_shellSnapshot :
    ∀ n ≤ maxPlainShellsPerTask, kernel.Reachable (shellSnapshot n) := by
  intro n hn
  induction n with
  | zero => exact .start created_sampleSnapshot
  | succ n ih =>
    obtain ⟨hdec, happly⟩ := shellSnapshot_next hn
    exact reachable_command (ih (by omega)) _ hdec happly

theorem terminal_projections_agree_shell :
    visited.Reachable (shellSnapshot 1) ∧
      ∃ r, (shellSnapshot 1).resources[(⟨1⟩ : ResourceId)]? = some r ∧
        r.resourceKind = .terminal ∧ r.lifecycle ≠ .released :=
  have hs : visited.Reachable (shellSnapshot 1) :=
    visited_of_kernel (reachable_shellSnapshot 1 (by decide))
  ⟨hs, ((terminal_projections_agree hs).1 ⟨1⟩).mp (mem_iff_exists.mpr ⟨_, rfl⟩)⟩

end Sample

/-! ## Decided terminal commands -/

section Bound
variable {s : TaskSnapshot}

theorem size_occupiedPlainShellIds (h : TerminalInv s) :
    (occupiedPlainShellIds s).size = s.terminalStrip.order.length := by
  have hset : occupiedPlainShellIds s = ExtTreeSet.ofList s.terminalStrip.order := by
    apply ExtTreeSet.ext_mem
    intro id
    rw [mem_occupiedPlainShellIds h.key, ExtTreeSet.mem_ofList, contains_iff_mem, h.order]
  have hdist : s.terminalStrip.order.Pairwise fun a b => ¬ compare a b = .eq := by
    refine h.nodup.imp fun {a b} hab => ?_
    rw [LawfulEqCmp.compare_eq_iff_eq]
    exact hab
  rw [hset, ExtTreeSet.size_ofList hdist]

variable [Externals]

variable {resource : ResourceFacts}

theorem registered_accepted_iff (h : TerminalInv s) (howner : resource.ownerKind = .task)
    (htask : resource.taskId = some s.task.id) (hvalid : resource.validate = .ok ())
    (hactive : resource.lifecycle = .active) (hnew : resource.id ∉ s.resources) :
    Applicable s [.resourceRegistered resource] ↔ s.task.revision < u64Max ∧
      (resource.recipe.isPlainShell = true →
        (occupiedPlainShellIds s).size < maxPlainShellsPerTask) := by
  rw [applicable_singleton rfl, size_occupiedPlainShellIds h]
  refine and_congr_right fun _ => ?_
  constructor
  · intro heff
    obtain ⟨_, hmid⟩ := heff 0
    obtain ⟨-, -, -, -, -, hroom, -⟩ := applyResourceRegistered_eq_ok.mp hmid
    exact hroom
  · intro hroom t
    exact ⟨_, applyResourceRegistered_eq_ok.mpr ⟨howner, htask, hvalid, hactive, hnew, hroom, rfl⟩⟩

theorem releaseBegun_accepted_iff {id} (hres : s.resources[id]? = some resource)
    (howner : resource.ownerKind = .task ∧ resource.taskId = some s.task.id)
    (hactive : resource.lifecycle = .active) :
    Applicable s [.resourceReleaseBegun id resource.runtimeGeneration] ↔
      s.task.revision < u64Max := by
  rw [applicable_singleton rfl, and_iff_left]
  intro t
  exact ⟨_, applyResourceReleaseBegun_eq_ok.mpr ⟨resource, hres, howner, hactive, rfl, rfl⟩⟩

theorem renamed_accepted_iff {id title} (h : TerminalInv s)
    (hres : s.resources[id]? = some resource) (hshell : isPlainShellTerminal resource = true)
    (hlive : resource.lifecycle ≠ .released) (htitle : validateTerminalTitle title = .ok ()) :
    Applicable s [.terminalRenamed id title] ↔ s.task.revision < u64Max := by
  simp only [isPlainShellTerminal, Bool.and_eq_true, decide_eq_true_eq] at hshell
  obtain ⟨hkind, hshell⟩ := hshell
  obtain ⟨facts, hfacts⟩ :=
    mem_iff_exists.mp ((h.facts id).mpr ⟨resource, hres, hkind, hlive⟩)
  rw [applicable_singleton rfl, and_iff_left]
  intro t
  exact ⟨_, applyTerminalRenamed_eq_ok.mpr
    ⟨resource, hres, hshell, htitle, facts, hfacts, rfl⟩⟩

theorem stripSet_accepted_iff {strip} (hvalid : strip.validate s.task.id s.resources = .ok ()) :
    Applicable s [.taskTerminalStripSet strip] ↔ s.task.revision < u64Max := by
  rw [applicable_singleton rfl, and_iff_left]
  intro t
  exact ⟨_, applyTaskTerminalStripSet_eq_ok.mpr ⟨hvalid, rfl⟩⟩

end Bound

/-- The commands on terminals and their resources. -/
def Command.isTerminal : Command → Bool
  | openShellTerminal _ | registerResource _ | releaseResource _ | closeTerminal _
  | renameTerminal .. | setTerminalStrip _ => true
  | _ => false

/-- A decided terminal command is applicable iff there is nothing to apply, or the next revision
exists and a `RegisterResource` of a plain shell finds room for it. -/
theorem terminal_command_applicable_iff [Externals] {s : TaskSnapshot} {envelope : CommandEnvelope}
    {operationId : OperationId} {events : List Event} (hs : visited.Reachable s)
    (hcommand : envelope.command.isTerminal = true)
    (hdec : Command.decide (some s) envelope operationId = .ok events) :
    Applicable s events ↔
      (∃ id resource, envelope.command = .releaseResource id ∧
        s.resources[id]? = some resource ∧ resource.lifecycle = .releasing) ∨
      (s.task.revision < u64Max ∧
        ∀ resource, envelope.command = .registerResource resource →
          resource.recipe.isPlainShell = true →
          (occupiedPlainShellIds s).size < maxPlainShellsPerTask) := by
  have hinv : TerminalInv s := terminalInv_of_guarded (guarded_of_visited hs)
  unfold Command.decide at hdec
  cases hc : envelope.command <;> rw [hc] at hcommand <;> try cases hcommand
  all_goals
    simp only [hc] at hdec
    simp only [reduceCtorEq, false_and, exists_false, false_or, false_implies, implies_true,
      and_true, Command.registerResource.injEq, Command.releaseResource.injEq, forall_eq']
  case registerResource resource =>
    obtain ⟨-, -, howner, htask, hvalid, hactive, hnew, rfl⟩ :=
      decideRegisterResource_eq_ok.mp hdec
    exact registered_accepted_iff hinv howner htask hvalid hactive hnew
  case releaseResource id =>
    obtain ⟨-, -, resource, hres, howner, ⟨hactive, rfl⟩ | ⟨hreleasing, rfl⟩⟩ :=
      decideReleaseResource_eq_ok.mp hdec
    · rw [releaseBegun_accepted_iff hres howner hactive, or_iff_right]
      rintro ⟨_, r, rfl, hr, hreleasing⟩
      rw [hres] at hr
      cases hr
      rw [hactive] at hreleasing
      cases hreleasing
    · exact iff_of_true (applicable_nil s) (.inl ⟨id, resource, rfl, hres, hreleasing⟩)
  case openShellTerminal resource =>
    obtain ⟨-, -, hreg, ⟨howner, htask⟩, -, hnew, hroom, rfl⟩ :=
      decideOpenShellTerminal_eq_ok.mp hdec
    unfold ResourceFacts.validateForRegistration at hreg
    simp only [ok_iff] at hreg
    obtain ⟨hvalid, -, hactive⟩ := hreg
    rw [registered_accepted_iff hinv howner htask hvalid hactive hnew, and_iff_left]
    exact fun _ => hroom
  case closeTerminal id =>
    obtain ⟨-, -, resource, hshell, hactive, rfl⟩ := decideCloseTerminal_eq_ok.mp hdec
    obtain ⟨hres, howner, -, -⟩ := requireTaskPlainShell_eq_ok.mp hshell
    exact releaseBegun_accepted_iff hres howner hactive
  case renameTerminal id title =>
    obtain ⟨-, -, ⟨resource, hshell⟩, htitle, rfl⟩ := decideRenameTerminal_eq_ok.mp hdec
    obtain ⟨hres, -, hshell, hlive⟩ := requireTaskPlainShell_eq_ok.mp hshell
    exact renamed_accepted_iff hinv hres hshell hlive htitle
  case setTerminalStrip strip =>
    obtain ⟨-, -, hvalid, -, rfl⟩ := decideSetTerminalStrip_eq_ok.mp hdec
    exact stripSet_accepted_iff hvalid

section Sample

attribute [local instance] sampleExternals

theorem terminal_command_applicable_eighth_shell :
    Applicable (shellSnapshot 7) [.resourceRegistered (sampleShell 9)] :=
  have hs : visited.Reachable (shellSnapshot 7) :=
    visited_of_kernel (reachable_shellSnapshot 7 (by decide))
  have hdec : Command.decide (some (shellSnapshot 7))
      (envelopeFor (shellSnapshot 7) (.registerResource (sampleShell 9))) ⟨1⟩ =
        .ok [.resourceRegistered (sampleShell 9)] := rfl
  (terminal_command_applicable_iff hs rfl hdec).mpr (.inr ⟨by decide, fun _ _ _ => by decide⟩)

/-- `RegisterResource` of a ninth shell is decided, and then refused by `apply`. -/
theorem terminal_command_ninth_shell :
    ¬ ∀ s envelope (operationId : OperationId)
      events, kernel.Reachable s → envelope.command.isTerminal = true →
      Command.decide (some s) envelope operationId = .ok events → Applicable s events := by
  intro hclaim
  have hs : kernel.Reachable (shellSnapshot 8) := reachable_shellSnapshot 8 (by decide)
  have happly : Applicable (shellSnapshot 8) [.resourceRegistered (sampleShell 9)] :=
    hclaim (shellSnapshot 8)
      (envelopeFor (shellSnapshot 8) (.registerResource (sampleShell 9))) ⟨1⟩ _ hs rfl rfl
  have hinv : TerminalInv (shellSnapshot 8) :=
    terminalInv_of_guarded (guarded_of_visited (visited_of_kernel hs))
  rw [registered_accepted_iff hinv rfl rfl rfl rfl (by decide),
    size_occupiedPlainShellIds hinv] at happly
  exact absurd (happly.2 rfl) (by decide)

end Sample

end DevManager
