import DevManager.Lib.Calls
import DevManager.Prompts.IndexRebuild

/-!
# Runs of the index

`clean_index_correct`: over every run of calls from the migration, a state that is not
dirty has in its index one row for each history entry and each saved prompt, with what
that source holds now, provided that no call of the run is a write of a saved prompt
that a rebuild has passed and that the queue refuses (`Steady`). Such a write leaves the
old row in the index, and the rebuild that is under way then clears `dirty` because the
numbers of rows agree: `settleRebuild` never gets to its check of the sequence numbers.
-/

namespace DevManager.Prompts

open Std (ExtTreeMap)
open List Calls Std.ExtTreeMap

namespace PromptStore

variable {s : PromptStore}

/-- No saved prompt is changed that a rebuild has passed and that the queue refuses. -/
def Steady (s : PromptStore) : IndexCall → Prop
  | .writeSaved id prompt _ => s.Passed id → s.refuses (.saved id) →
      ∀ row, s.search.get? (.saved id) = some row → row = prompt.row
  | _ => True

theorem call_indexed (call : IndexCall) (h : Indexed s) (hsteady : s.Steady call) :
    Indexed (s.call call).2 := by
  cases call with
  | deliver => exact applyDelivered_indexed _ _ h
  | writeSaved => exact writeSaved_indexed _ _ _ h hsteady
  | setPolicy enabled retentionDays maxEntries revision =>
    unfold PromptStore.call setPolicy
    simp only
    split_ifs
    · exact ⟨⟨h.sourced, h.history⟩, h.idle, h.passed, h.dirty, h.clean⟩
    · exact h
    · exact h
  | retain nowMs revision first second =>
    unfold PromptStore.call applyRetention
    simp only
    split_ifs
    · exact h
    · exact h
    · exact deleteOldest_indexed _ _ (deleteOldest_indexed _ _ h)
  | clear revision rows =>
    unfold PromptStore.call applyClear
    simp only
    split_ifs
    · exact h
    · exact deleteOldest_indexed _ _ h
  | drain => exact drainIndex_indexed _ _ h
  | rebuild => exact rebuildSearch_indexed _ _ h

theorem queued_foldl (id : PromptId) (entries : List (PromptId × SavedPrompt)) :
    ∀ pending : BySource ℕ, (pending.get? (.saved id) ≠ none ∨ ∃ prompt, (id, prompt) ∈ entries) →
      (entries.foldl (fun pending e => pending.insert (.saved e.1) 1) pending).get? (.saved id) ≠
        none := by
  induction entries with
  | nil =>
    rintro pending (h | ⟨prompt, h⟩)
    · exact h
    · cases h
  | cons entry entries ih =>
    intro pending h
    refine ih _ ?_
    rw [BySource.get?_insert]
    by_cases hid : entry.1 = id
    · left
      rw [if_pos (by rw [hid])]
      exact Option.some_ne_none 1
    · have hne : PromptSource.saved entry.1 ≠ .saved id := fun heq =>
        hid (PromptSource.saved.inj heq)
      rw [if_neg hne]
      rcases h with hqueue | ⟨prompt, hmem⟩
      · exact .inl hqueue
      · rcases mem_cons.mp hmem with heq | htail
        · exact absurd (by rw [← heq]) hid
        · exact .inr ⟨prompt, htail⟩

variable (saved : ExtTreeMap PromptId SavedPrompt)

theorem migrated_indexed : Indexed (migrated saved) := by
  have hnil : (migrated saved).search = .empty := rfl
  have hsound := sound_of_empty hnil
  refine ⟨hsound, fun _ hover source hsrc => .inr ?_, fun id _ hidx => ?_,
    fun hbusy => absurd rfl hbusy, fun hclean source => ?_⟩
  · have hsmall : saved.size ≤ defaultHistoryIndexCapacity :=
      Nat.not_lt.mp (of_decide_eq_false hover)
    cases source with
    | history id => exact absurd (by simp [row, migrated]) hsrc
    | saved id =>
      have hsome : saved[id]? ≠ none := fun hnone => hsrc (by simp [row, migrated, hnone])
      obtain ⟨prompt, hprompt⟩ := Option.ne_none_iff_exists'.mp hsome
      refine queued_foldl id _ _ (.inr ⟨prompt, ?_⟩)
      rw [take_of_length_le (by rw [length_toList]; exact hsmall)]
      exact mem_toList_iff_getElem?_eq_some.mpr hprompt
  · rw [hnil, BySource.get?_empty] at hidx
    exact absurd rfl hidx
  · have hnone : saved = ∅ := by
      have hsize : saved.size = 0 := not_not.mp (of_decide_eq_false hclean)
      exact eq_empty_iff_size_eq_zero.mpr hsize
    refine hsound.fresh_of_row_none ?_
    cases source <;> simp [row, migrated, hnone]

/-- A clean index is a correct one, over every run without such a write. -/
theorem clean_index_correct (calls : List IndexCall)
    (hsteady : Calls.Along call Steady (migrated saved) calls)
    (hclean : (after call (migrated saved) calls).state.dirty = false)
    (source : PromptSource) :
    (after call (migrated saved) calls).search.get? source =
      (after call (migrated saved) calls).row source := by
  have hidx := along_invariant (P := Indexed) (fun s c => call_indexed c)
    calls (migrated_indexed saved) hsteady
  exact hidx.clean hclean source

def sampleEntry (i : ℕ) : PromptHistoryEntry where
  requestId := ⟨i⟩
  submittedEventId := ⟨i⟩
  taskId := ⟨1⟩
  agentSessionId := ⟨1⟩
  providerKind := "claude"
  body := "fix the build"
  submittedAtMs := 0
  provenance := ⟨none, none, none, none⟩

def sampleProof (i : ℕ) : ValidatedDeliveredInputProof := ⟨⟨i⟩, sampleEntry i⟩

def sampleCalls : List IndexCall :=
  [.writeSaved ⟨1⟩ ⟨"review", "read the diff", ["git"]⟩ 2,
    .deliver (sampleProof 3) true,
    .drain (fun _ => false) 50 false]

/-- A saved prompt and a delivered entry, indexed by one batch. -/
theorem sampleCalls_clean :
    Calls.Along call Steady (migrated ∅) sampleCalls ∧
      (after call (migrated ∅) sampleCalls).state.dirty = false ∧
      (after call (migrated ∅) sampleCalls).search.get? (.saved ⟨1⟩) =
        (after call (migrated ∅) sampleCalls).row (.saved ⟨1⟩) := by
  have hsteady : Calls.Along call Steady (migrated ∅) sampleCalls := by
    refine ⟨fun hpass => ?_, trivial, trivial, trivial⟩
    rcases hpass with hpend | ⟨hsaved, -⟩
    · cases hpend
    · cases hsaved
  have hclean : (after call (migrated ∅) sampleCalls).state.dirty = false := by decide +kernel
  exact ⟨hsteady, hclean, clean_index_correct ∅ sampleCalls hsteady hclean (.saved ⟨1⟩)⟩

/-! ## A stale row in a clean index

The history is filled past the capacity of the queue and cleared, which leaves the overflow.
-/

theorem validateProof_sample (i : ℕ) : validateProof (sampleProof i) = .ok () := by
  have hsame : validateProof (sampleProof i) = validateProof (sampleProof 0) := rfl
  rw [hsame]
  decide +kernel

/-- Nothing is saved or indexed, what is queued is in the history, and the rest is `state`. -/
structure Unindexed (state : PromptSearchState) (s : PromptStore) : Prop where
  policy : s.policy = .default
  revision : s.revision = 1
  saved : s.saved = ∅
  search : s.search = .empty
  queuedSaved : s.pending.saved = ∅
  queued : ∀ id, id ∈ s.pending.history → id ∈ s.history
  state : s.state = state

/-- The state of the search after `n` deliveries to an empty store. -/
def filledState (n : ℕ) : PromptSearchState where
  dirty := decide (0 < n)
  overflow := decide (defaultHistoryIndexCapacity < n)
  phase := .idle
  submittedAtMs := none
  sourceId := none
  currentSeq := 2 * n
  highWaterSeq := 0

/-- `n` entries were delivered to an empty store, and none was indexed. -/
structure Filled (n : ℕ) (s : PromptStore) : Prop extends Unindexed (filledState n) s where
  entries : ∀ id entry, s.history[id]? = some entry → ∃ i < n, id = (⟨i⟩ : PromptHistoryId) ∧
    entry = sampleEntry i
  size : s.history.size = n
  queue : s.pending.history.size = min n defaultHistoryIndexCapacity

theorem markPending_of_room {source} (hoverflow : s.state.overflow = false)
    (hroom : s.pending.size < defaultHistoryIndexCapacity) :
    s.markPending source = { s with
      pending := s.pending.insert source (s.state.currentSeq + 1)
      state := { s.state with currentSeq := s.state.currentSeq + 1, dirty := true } } := by
  have hroom' : ¬ s.bumpCurrentSeq.refuses source := by
    rintro ⟨-, hover | hfull⟩
    · have hflag : s.state.overflow = true := hover
      rw [hoverflow] at hflag
      cases hflag
    · exact Nat.not_le_of_lt hroom hfull
  unfold markPending
  rw [if_neg hroom']
  rfl

theorem markPending_of_full {source} (hqueue : s.pending.get? source = none)
    (hfull : defaultHistoryIndexCapacity ≤ s.pending.size) :
    s.markPending source = { s with
      state := { s.state with
        currentSeq := s.state.currentSeq + 1, dirty := true, overflow := true } } := by
  have hdeny : s.bumpCurrentSeq.refuses source := ⟨hqueue, .inr hfull⟩
  unfold markPending
  rw [if_pos hdeny]
  rfl

section Deliver

variable {n : ℕ} (h : Filled n s)

include h

theorem Filled.absent : (⟨n⟩ : PromptHistoryId) ∉ s.history := by
  rw [OrdMap.not_mem_iff]
  cases hget : s.history[(⟨n⟩ : PromptHistoryId)]? with
  | none => rfl
  | some entry =>
    obtain ⟨i, hi, hid, -⟩ := h.entries _ entry hget
    cases hid
    omega

theorem Filled.unqueued : (⟨n⟩ : PromptHistoryId) ∉ s.pending.history :=
  fun hmem => h.absent (h.queued _ hmem)

theorem Filled.pending_size : s.pending.size = min n defaultHistoryIndexCapacity := by
  unfold BySource.size
  rw [h.queue, h.queuedSaved]
  rfl

theorem Filled.deliver_eq : (s.call (.deliver (sampleProof n) true)).2 =
    markPending (.history ⟨n⟩) { s.reservePendingOrOverflow with
      history := s.reservePendingOrOverflow.history.insert ⟨n⟩ (sampleEntry n) } := by
  have hnew : s.identityCollision (sampleProof n) = [] := by
    unfold identityCollision
    rw [filter_eq_nil_iff]
    rintro ⟨id, entry⟩ hmem
    obtain ⟨i, hi, rfl, rfl⟩ :=
      h.entries id entry (mem_toList_iff_getElem?_eq_some.mp hmem)
    have hne : i ≠ n := by omega
    simp [sampleProof, sampleEntry, hne]
  unfold PromptStore.call applyDelivered
  simp only [validateProof_sample, h.policy, hnew]
  rfl

theorem Filled.kept (id) (hid : id ∈ s.pending.history) :
    id ∈ s.history.insert ⟨n⟩ (sampleEntry n) :=
  mem_insert.mpr (.inr (h.queued id hid))

theorem Filled.grown {s' : PromptStore} (hidle : Unindexed (filledState (n + 1)) s')
    (hhist : s'.history = s.history.insert ⟨n⟩ (sampleEntry n))
    (hqueue : s'.pending.history.size = min (n + 1) defaultHistoryIndexCapacity) :
    Filled (n + 1) s' := by
  refine ⟨hidle, ?_, ?_, hqueue⟩
  · rw [hhist]
    refine OrdMap.forall_insert ⟨n, by omega, rfl, rfl⟩ fun id entry hget => ?_
    obtain ⟨i, hi, hboth⟩ := h.entries id entry hget
    exact ⟨i, by omega, hboth⟩
  · rw [hhist, size_insert, if_neg (by simpa using h.absent), h.size]

theorem Filled.deliver_full (hfull : defaultHistoryIndexCapacity ≤ n) :
    Filled (n + 1) (s.call (.deliver (sampleProof n) true)).2 := by
  have hpend : defaultHistoryIndexCapacity ≤ s.pending.size := by
    rw [h.pending_size, min_eq_right hfull]
  have hres : s.reservePendingOrOverflow = s.bumpCurrentSeq.markOverflow := if_pos hpend
  have hnone : s.pending.get? (.history ⟨n⟩) = none := OrdMap.not_mem_iff.mp h.unqueued
  rw [h.deliver_eq, hres, markPending_of_full]
  · refine h.grown ⟨h.policy, h.revision, h.saved, h.search, h.queuedSaved, h.kept, ?_⟩ rfl ?_
    · simp [bumpCurrentSeq, markOverflow, h.state, filledState]
      omega
    · show s.pending.history.size = _
      rw [h.queue]
      omega
  · exact hnone
  · exact hpend

theorem Filled.deliver_room (hroom : n < defaultHistoryIndexCapacity) :
    Filled (n + 1) (s.call (.deliver (sampleProof n) true)).2 := by
  have hpend : s.pending.size < defaultHistoryIndexCapacity := by
    rw [h.pending_size, min_eq_left hroom.le]
    exact hroom
  have hres : s.reservePendingOrOverflow = s.bumpCurrentSeq.markDirty :=
    if_neg (Nat.not_le_of_lt hpend)
  have hcalm : s.state.overflow = false := by
    rw [h.state]
    exact decide_eq_false (by omega)
  rw [h.deliver_eq, hres, markPending_of_room]
  · refine h.grown ⟨h.policy, h.revision, h.saved, h.search, h.queuedSaved, fun id hid => ?_, ?_⟩
      rfl ?_
    · rcases mem_insert.mp hid with heq | hpre
      · exact mem_insert.mpr (.inl heq)
      · exact h.kept id hpre
    · simp [bumpCurrentSeq, markDirty, h.state, filledState]
      omega
    · show (s.pending.history.insert ⟨n⟩ _).size = _
      rw [size_insert, if_neg (by simpa using h.unqueued), h.queue]
      omega
  · exact hcalm
  · exact hpend

theorem Filled.deliver : Filled (n + 1) (s.call (.deliver (sampleProof n) true)).2 := by
  rcases Nat.lt_or_ge n defaultHistoryIndexCapacity with hroom | hfull
  · exact h.deliver_room hroom
  · exact h.deliver_full hfull

end Deliver

theorem filled (n : ℕ) :
    Filled n (after call (migrated ∅)
      ((List.range n).map fun i => .deliver (sampleProof i) true)) := by
  induction n with
  | zero =>
    refine ⟨⟨rfl, rfl, rfl, rfl, rfl, fun id hid => ?_, rfl⟩, fun id entry hget => ?_, rfl, rfl⟩
    · exact absurd hid not_mem_empty
    · simp [migrated] at hget
  | succ n ih =>
    rw [range_succ, map_append, after_append]
    exact ih.deliver

/-! ### Clearing -/

variable {state : PromptSearchState}

theorem Unindexed.deleteHistory (h : Unindexed state s)
    (id) : Unindexed state (s.deleteHistory id) := by
  refine ⟨h.policy, h.revision, h.saved, ?_, h.queuedSaved, fun a ha => ?_, h.state⟩
  · show s.search.erase (.history id) = .empty
    rw [h.search]
    rfl
  · obtain ⟨hne, hmem⟩ := mem_erase.mp ha
    exact mem_erase.mpr ⟨hne, h.queued a hmem⟩

theorem deleteHistory_many (ids : List PromptHistoryId) :
    ∀ s, Unindexed state s → ids.Nodup → (∀ id ∈ ids, id ∈ s.history) →
      Unindexed state (ids.foldl PromptStore.deleteHistory s) ∧
        (ids.foldl PromptStore.deleteHistory s).history.size = s.history.size - ids.length := by
  induction ids with
  | nil => exact fun s h _ _ => ⟨h, rfl⟩
  | cons id ids ih =>
    intro s h hnodup hmem
    obtain ⟨hnot, hrest⟩ := nodup_cons.mp hnodup
    obtain ⟨hpost, hsize⟩ := ih (s.deleteHistory id) (h.deleteHistory id) hrest fun a ha => by
      have hne : id ≠ a := fun heq => hnot (heq ▸ ha)
      have hin := hmem a (mem_cons_of_mem id ha)
      rw [OrdMap.mem_iff_exists] at hin ⊢
      obtain ⟨entry, hentry⟩ := hin
      exact ⟨entry, by simp [PromptStore.deleteHistory, hne, hentry]⟩
    refine ⟨hpost, ?_⟩
    have hone : (s.deleteHistory id).history.size = s.history.size - 1 := by
      show (s.history.erase id).size = _
      rw [size_erase, if_pos (by simpa using hmem id mem_cons_self)]
    rw [foldl_cons, hsize, hone, length_cons]
    omega

theorem Unindexed.clear (h : Unindexed state s) :
    Unindexed state (s.call (.clear 1 historyIndexBatchRows)).2 ∧
      (s.call (.clear 1 historyIndexBatchRows)).2.history.size =
        s.history.size - historyIndexBatchRows := by
  have hcall : (s.call (.clear 1 historyIndexBatchRows)).2 =
      s.deleteOldest (fun _ => true) historyIndexBatchRows := by
    unfold PromptStore.call applyClear
    simp [h.revision]
  have hperm : (s.oldest fun _ => true).Perm (s.history.toList.map Prod.fst) := by
    unfold oldest
    rw [filter_true]
    exact (perm_insertionSort _ _).map _
  have hkeys : s.history.toList.map Prod.fst = s.history.keys := map_fst_toList_eq_keys
  rw [hkeys] at hperm
  have hlen : (s.oldest fun _ => true).length = s.history.size := by
    rw [hperm.length_eq, length_keys]
  obtain ⟨hpost, hsize⟩ := deleteHistory_many ((s.oldest fun _ => true).take historyIndexBatchRows)
    s h ((hperm.nodup_iff.mpr nodup_keys).sublist (take_sublist _ _))
    fun id hid => mem_keys.mp (hperm.mem_iff.mp (mem_of_mem_take hid))
  rw [hcall]
  refine ⟨hpost, ?_⟩
  show (((s.oldest fun _ => true).take historyIndexBatchRows).foldl
    PromptStore.deleteHistory s).history.size = _
  rw [hsize, length_take, hlen]
  omega

theorem Unindexed.clear_many (n : ℕ) :
    ∀ s, Unindexed state s → s.history.size ≤ n * historyIndexBatchRows →
      Unindexed state (after call s (List.replicate n (.clear 1 historyIndexBatchRows))) ∧
        (after call s
          (List.replicate n (.clear 1 historyIndexBatchRows))).history.size = 0 := by
  induction n with
  | zero =>
    intro s h hsize
    exact ⟨h, by simpa using hsize⟩
  | succ n ih =>
    intro s h hsize
    obtain ⟨hpost, hless⟩ := h.clear
    refine ih _ hpost ?_
    rw [hless]
    rw [Nat.succ_mul] at hsize
    omega

def overflowed : PromptStore := { migrated ∅ with state := filledState 1025 }

def overflowingCalls : List IndexCall :=
  (List.range 1025).map (fun i => .deliver (sampleProof i) true) ++
    List.replicate 21 (.clear 1 historyIndexBatchRows)

theorem Unindexed.eq_overflowed (h : Unindexed (filledState 1025) s) (hsize : s.history.size = 0) :
    s = overflowed := by
  have hhist : s.history = ∅ := eq_empty_iff_size_eq_zero.mpr hsize
  have hqueue : s.pending.history = ∅ := by
    refine ext_getElem? fun id => ?_
    have hnot : id ∉ s.pending.history := fun hmem => by
      have hin := h.queued id hmem
      rw [hhist] at hin
      exact not_mem_empty hin
    rw [OrdMap.not_mem_iff.mp hnot]
    rfl
  obtain ⟨policy, revision, history, saved, search, ⟨queued, queuedSaved⟩, state⟩ := s
  obtain ⟨rfl, rfl, rfl, rfl, rfl, -, rfl⟩ := h
  cases hhist
  cases hqueue
  rfl

theorem overflowing : after call (migrated ∅) overflowingCalls = overflowed := by
  unfold overflowingCalls
  rw [after_append]
  have hfilled := filled 1025
  obtain ⟨hpost, hsize⟩ := Unindexed.clear_many 21 _ hfilled.toUnindexed
    (by rw [hfilled.size]; decide)
  exact hpost.eq_overflowed hsize

def staleCalls : List IndexCall :=
  [.writeSaved ⟨1⟩ ⟨"review", "old", []⟩ 1,
    .rebuild (fun _ => false) 2 false,
    .writeSaved ⟨1⟩ ⟨"review", "new", []⟩ 1,
    .rebuild (fun _ => false) 9 false]

/-- The index is clean at the end, and has the old body of the prompt. -/
theorem staleCalls_stale :
    ¬ ∀ saved calls,
      (after call (migrated saved) calls).state.dirty = false →
      ∀ source, (after call (migrated saved) calls).search.get? source =
        (after call (migrated saved) calls).row source := by
  intro hall
  have hfresh := hall ∅ (overflowingCalls ++ staleCalls)
  rw [after_append, overflowing] at hfresh
  have hstale := hfresh (by decide +kernel) (.saved ⟨1⟩)
  revert hstale
  decide +kernel

end PromptStore

end DevManager.Prompts
