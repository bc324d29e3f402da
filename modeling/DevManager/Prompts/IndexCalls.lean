import DevManager.Prompts.IndexQueue

/-!
# The calls on the index

Writers, deletions and `drain_index` keep `Indexed`. A writer of a saved prompt does so
unless the queue refuses a prompt that a rebuild has passed.
-/

namespace DevManager.Prompts

open Std (ExtTreeMap)
open BySource

namespace PromptStore

variable {s s' : PromptStore}

/-! ## Writers and deletions -/

theorem row_history_of_collision {proof}
    (h : s.identityCollision proof = []) : s.row (.history proof.historyId) = none := by
  unfold row
  simp only [Option.map_eq_none_iff]
  cases hget : s.history[proof.historyId]? with
  | none => rfl
  | some entry =>
    have hmem : (proof.historyId, entry) ∈ s.identityCollision proof := by
      unfold identityCollision
      rw [List.mem_filter]
      exact ⟨ExtTreeMap.mem_toList_iff_getElem?_eq_some.mpr hget, by simp⟩
    rw [h] at hmem
    cases hmem

theorem Indexed.noted {state} (h : Indexed s)
    (hphase : state.phase = s.state.phase) (hsrc : state.sourceId = s.state.sourceId)
    (hdirty : state.dirty = true) (hover : state.overflow = false → s.state.overflow = false) :
    Indexed { s with state } := by
  refine ⟨⟨h.sourced, h.history⟩, fun hid hcalm => h.idle (hphase.symm.trans hid) (hover hcalm),
    fun id hpass => ?_, fun _ => hdirty, fun hclean => ?_⟩
  · have hpre : s.Passed id := by
      unfold Passed savedAhead at hpass ⊢
      simp only [hphase, hsrc] at hpass
      exact hpass
    exact h.passed id hpre
  · have hnot : state.dirty = false := hclean
    rw [hdirty] at hnot
    cases hnot

theorem Indexed.markDirty (h : Indexed s) : Indexed s.markDirty := h.noted rfl rfl rfl id

theorem reserve_eq (s : PromptStore) :
    ∃ state, s.reservePendingOrOverflow = { s with state } ∧
      state.phase = s.state.phase ∧ state.sourceId = s.state.sourceId ∧ state.dirty = true ∧
      (state.overflow = false → s.state.overflow = false) := by
  unfold reservePendingOrOverflow
  simp only
  split_ifs
  · exact ⟨_, rfl, rfl, rfl, rfl, nofun⟩
  · exact ⟨_, rfl, rfl, rfl, rfl, fun h => h⟩

theorem markPending_indexed {id} (h : Indexed s)
    (hentry : s.row (.history id) ≠ none) : Indexed (s.markPending (.history id)) := by
  have henq : Enqueues (.history id) s (s.markPending (.history id)) :=
    markPending_enqueues (.history id) s
  refine h.write henq rfl rfl rfl (fun _ _ => rfl) hentry (fun id' row heq hrow => ?_)
    (fun _ heq => ?_)
  · exact h.history id row hrow
  · cases heq

theorem insertHistory_indexed {id} (entry : PromptHistoryEntry) (h : Indexed s)
    (hnone : s.row (.history id) = none) :
    Indexed (markPending (.history id) { s.reservePendingOrOverflow with
        history := s.reservePendingOrOverflow.history.insert id entry }) := by
  obtain ⟨state, hres, hphase, hsrc, hdirty, hover⟩ := reserve_eq s
  rw [hres]
  have hresvd : Indexed { s with state } := h.noted hphase hsrc hdirty hover
  have hunindexed : s.search.get? (.history id) = none :=
    (h.fresh_of_row_none hnone).trans hnone
  have henq : Enqueues (.history id) { s with state, history := s.history.insert id entry }
      (markPending (.history id) { s with state, history := s.history.insert id entry }) :=
    markPending_enqueues _ _
  refine hresvd.write henq rfl rfl rfl (fun a ha => ?_) ?_ (fun id' row heq hrow => ?_)
    (fun _ heq => ?_)
  · cases a with
    | saved id => rfl
    | history id' =>
      have hid : id ≠ id' := fun heq => ha (by rw [heq])
      simp [row, hid]
  · simp [row]
  · have habsent : s.search.get? (.history id) = some row := hrow
    rw [hunindexed] at habsent
    cases habsent
  · cases heq

theorem applyDelivered_indexed (proof : ValidatedDeliveredInputProof) (provenanceHolds : Bool)
    (h : Indexed s) : Indexed (s.applyDelivered proof provenanceHolds).2 := by
  unfold applyDelivered
  cases validateProof proof with
  | error => exact h
  | ok _ =>
    by_cases henabled : s.policy.enabled = false
    · simp only [henabled, if_true]
      exact h
    simp only [if_neg henabled]
    match hcollision : s.identityCollision proof with
    | [] =>
      cases provenanceHolds with
      | false => exact h
      | true => exact insertHistory_indexed proof.entry h (row_history_of_collision hcollision)
    | [existing] =>
      simp only
      split_ifs
      · have hmem : existing ∈ s.identityCollision proof := by
          rw [hcollision]
          exact List.mem_singleton_self existing
        have hget : s.history[existing.1]? = some existing.2 :=
          ExtTreeMap.mem_toList_iff_getElem?_eq_some.mp (List.mem_filter.mp hmem).1
        refine markPending_indexed h ?_
        simp [row, hget]
      · exact h
    | _ :: _ :: _ => exact h

theorem writeSaved_indexed (id : PromptId) (prompt : SavedPrompt) (firings : ℕ) (h : Indexed s)
    (hpassed : s.Passed id → s.refuses (.saved id) →
      ∀ row, s.search.get? (.saved id) = some row → row = prompt.row) :
    Indexed (s.writeSaved id prompt firings) := by
  have henq : Enqueues (.saved id) { s with saved := s.saved.insert id prompt }
      (s.writeSaved id prompt firings) := enqueueSaved_many id firings _
  refine h.write henq rfl rfl rfl (fun a ha => ?_) ?_ (fun _ _ heq => ?_)
    (fun id' heq hpass hdeny row hrow => ?_)
  · cases a with
    | history id => rfl
    | saved id' =>
      have hid : id ≠ id' := fun heq => ha (by rw [heq])
      simp [row, hid]
  · simp [row]
  · cases heq
  · cases heq
    have hsame := hpassed hpass hdeny row hrow
    simp [PromptStore.row, hsame]

theorem deleteHistory_indexed (id : PromptHistoryId) (h : Indexed s) :
    Indexed (s.deleteHistory id) := by
  have hsearch : ∀ a, (s.deleteHistory id).search.get? a =
      if .history id = a then none else s.search.get? a := fun a => get?_erase _ _
  have hpend : ∀ a, (s.deleteHistory id).pending.get? a =
      if .history id = a then none else s.pending.get? a := fun a => get?_erase _ _
  have hrow : ∀ a, (s.deleteHistory id).row a = if .history id = a then none else s.row a := by
    intro a
    cases a with
    | saved id' => simp [row, deleteHistory]
    | history id' =>
      by_cases hid : id = id'
      · simp [row, deleteHistory, hid]
      · simp [row, deleteHistory, hid]
  have hfresh : ∀ a, s.Fresh a → (s.deleteHistory id).Fresh a := by
    intro a ha
    unfold Fresh at ha ⊢
    rw [hsearch, hrow, ha]
  have hqueue : ∀ a, .history id ≠ a → s.Queued a → (s.deleteHistory id).Queued a := by
    intro a hne ha
    unfold Queued at ha ⊢
    rw [hpend, if_neg hne]
    exact ha
  refine ⟨⟨fun a row ha => ?_, fun id' row hid' => ?_⟩, fun hphase hover a ha => ?_,
    fun id' hpass hidx => ?_, h.dirty, fun hclean a => hfresh a (h.clean hclean a)⟩
  · rw [hsearch] at ha
    rw [hrow]
    split_ifs at ha ⊢
    exact h.sourced a row ha
  · rw [hsearch] at hid'
    rw [hrow]
    split_ifs at hid' ⊢
    exact h.history id' row hid'
  · rw [hrow] at ha
    split_ifs at ha with hne
    · exact absurd rfl ha
    · rcases h.idle hphase hover a ha with hf | hq
      · exact .inl (hfresh a hf)
      · exact .inr (hqueue a hne hq)
  · have hne : PromptSource.history id ≠ .saved id' := nofun
    rw [hsearch, if_neg hne] at hidx
    rcases h.passed id' hpass hidx with hf | hq
    · exact .inl (hfresh _ hf)
    · exact .inr (hqueue _ hne hq)

theorem deleteOldest_indexed (p : PromptHistoryEntry → Bool) (count : ℕ) (h : Indexed s) :
    Indexed (s.deleteOldest p count) := by
  unfold deleteOldest
  generalize (s.oldest p).take count = ids
  induction ids generalizing s with
  | nil => exact h
  | cons id ids ih => exact ih (deleteHistory_indexed id h)

/-! ## Draining the queue -/

variable {corrupt : PromptSource → Bool}

variable {source : PromptSource}

theorem applyIndexWork_ok (h : Sound s) (hok : s.applyIndexWork corrupt source = .ok s') :
    ∃ search, s' = { s with search } ∧ search.get? source = s.row source ∧
      ∀ a, a ≠ source → search.get? a = s.search.get? a := by
  unfold applyIndexWork at hok
  cases hrow : s.row source with
  | none =>
    rw [hrow] at hok
    cases hok
    exact ⟨s.search, rfl, (h.fresh_of_row_none hrow).trans hrow, fun _ _ => rfl⟩
  | some row =>
    rw [hrow] at hok
    obtain ⟨-, -, hrest⟩ := bind_eq_ok.mp hok
    cases hrest
    refine ⟨_, rfl, ?_, fun a ha => ?_⟩
    · rw [get?_insert, if_pos rfl]
    · rw [get?_insert, if_neg (Ne.symm ha)]

theorem Indexed.freshen {search} (h : Indexed s)
    (hfresh : search.get? source = s.row source)
    (hother : ∀ a, a ≠ source → search.get? a = s.search.get? a) : Indexed { s with search } := by
  have hkept : ∀ a, s.Fresh a → search.get? a = s.row a := by
    intro a ha
    by_cases hsrc : a = source
    · rw [hsrc, hfresh]
    · rw [hother a hsrc, ha]
  refine ⟨⟨fun a row ha => ?_, fun id row hid => ?_⟩, fun hphase hover a ha => ?_,
    fun id hpass hidx => ?_, h.dirty, fun hclean a => hkept a (h.clean hclean a)⟩
  · have hget : search.get? a = some row := ha
    by_cases hsrc : a = source
    · rw [hsrc, hfresh] at hget
      rw [hsrc]
      exact fun hnone => by
        have hsome : s.row source = none := hnone
        rw [hsome] at hget
        cases hget
    · rw [hother a hsrc] at hget
      exact h.sourced a row hget
  · have hget : search.get? (.history id) = some row := hid
    by_cases hsrc : PromptSource.history id = source
    · rw [hsrc, hfresh] at hget
      rw [hsrc]
      exact hget
    · rw [hother _ hsrc] at hget
      exact h.history id row hget
  · rcases h.idle hphase hover a ha with hpre | hqueue
    · exact .inl (hkept a hpre)
    · exact .inr hqueue
  · by_cases hsrc : PromptSource.saved id = source
    · left
      show search.get? (.saved id) = s.row (.saved id)
      rw [hsrc, hfresh]
    · have hpre : s.search.get? (.saved id) ≠ none := by
        rw [← hother _ hsrc]
        exact hidx
      rcases h.passed id hpass hpre with hwas | hqueue
      · exact .inl (hkept _ hwas)
      · exact .inr hqueue

theorem Indexed.dequeue (h : Indexed s) (hfresh : s.Fresh source)
    (enqueueSeq : ℕ) : Indexed (s.dequeue source enqueueSeq) := by
  unfold PromptStore.dequeue
  split_ifs
  · have hkept : ∀ a, s.Fresh a ∨ s.Queued a →
        s.Fresh a ∨ (s.pending.erase source).get? a ≠ none := by
      intro a ha
      by_cases hsrc : a = source
      · exact .inl (hsrc ▸ hfresh)
      · rw [get?_erase, if_neg (Ne.symm hsrc)]
        exact ha
    exact ⟨⟨h.sourced, h.history⟩, fun hphase hover a ha => hkept a (h.idle hphase hover a ha),
      fun id hpass hidx => hkept _ (h.passed id hpass hidx), h.dirty, h.clean⟩
  · exact h

theorem dequeue_state (s : PromptStore) (source) (enqueueSeq : ℕ) :
    (s.dequeue source enqueueSeq).state = s.state := by
  unfold PromptStore.dequeue
  split_ifs <;> rfl

theorem indexed_dequeue (h : Indexed s)
    (hok : s.applyIndexWork corrupt source = .ok s') (enqueueSeq : ℕ) :
    Indexed (s'.dequeue source enqueueSeq) ∧ (s'.dequeue source enqueueSeq).state = s.state := by
  obtain ⟨search, rfl, hfresh, hother⟩ := applyIndexWork_ok h.toSound hok
  have hidx : Indexed { s with search } := h.freshen hfresh hother
  have hnow : ({ s with search } : PromptStore).Fresh source := hfresh
  exact ⟨hidx.dequeue hnow enqueueSeq, dequeue_state _ source enqueueSeq⟩

theorem indexed_of_fresh (hphase : s.state.phase = .idle) (h : ∀ source, s.Fresh source) :
    Indexed s where
  sourced := fun source row hrow hnone => by
    rw [h source, hnone] at hrow
    cases hrow
  history := fun id row hrow => by
    rw [← h (.history id)]
    exact hrow
  idle := fun _ _ source _ => Or.inl (h source)
  passed := fun id _ _ => Or.inl (h (.saved id))
  dirty := fun hnot => absurd hphase hnot
  clean := fun _ => h

theorem maybeClearDirty_indexed (h : Indexed s) : Indexed s.maybeClearDirty := by
  unfold maybeClearDirty
  split_ifs with hbusy
  · exact h
  · obtain ⟨hnil, hphase, hover⟩ := not_or.mp hbusy |>.imp id not_or.mp
    rw [not_not] at hnil hphase
    rw [Bool.not_eq_true] at hover
    refine indexed_of_fresh hphase fun source => ?_
    by_cases hrow : s.row source = none
    · exact h.fresh_of_row_none hrow
    · rcases h.idle hphase hover source hrow with hfresh | hqueue
      · exact hfresh
      · exact absurd (get?_eq_none_of_size hnil source) hqueue
  · exact h

theorem drainLoop_indexed (rows) (h : Indexed s) :
    Indexed (drainLoop corrupt rows s).2 := by
  induction rows generalizing s with
  | nil => exact h
  | cons row rows ih =>
    unfold drainLoop
    cases hwork : s.applyIndexWork corrupt row.1 with
    | error error =>
      simp only
      exact h.markDirty
    | ok s' =>
      simp only
      exact ih (indexed_dequeue h hwork row.2).1

theorem drainIndex_indexed (turns : ℕ) (cancelled : Bool) (h : Indexed s) :
    Indexed (s.drainIndex corrupt turns cancelled).2 := by
  have hloop : Indexed (drainLoop corrupt
      ((s.pending.entries.take historyIndexBatchRows).take turns) s).2 := drainLoop_indexed _ h
  unfold drainIndex
  cases cancelled with
  | true => exact h
  | false =>
    simp only [Bool.false_eq_true, if_false]
    split
    next s' heq =>
      rw [heq] at hloop
      exact hloop
    next processed s' heq =>
      rw [heq] at hloop
      exact maybeClearDirty_indexed hloop

end PromptStore

end DevManager.Prompts
