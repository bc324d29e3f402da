import DevManager.Prompts.SearchIndex

/-!
# The queue of the index

`Indexed` is the invariant of the tables: every row of the index is of a source; while
no rebuild is under way and the queue has not overflowed, a source that is not indexed
as it is now is queued; during a rebuild the same holds of the saved prompts that the
rebuild has passed and that have a row. Writers keep it, but for a saved prompt that a
rebuild has passed and the queue refuses (`writeSaved_indexed`); deletions and `drain_index`
keep it always.
-/

namespace DevManager.Prompts

open Std (ExtTreeMap)

namespace BySource

variable {V : Type} {m : BySource V}

@[simp] theorem get?_empty (source) : (empty : BySource V).get? source = none := by
  cases source <;> simp [get?, empty]

@[simp] theorem get?_insert (source a) (v : V) :
    (m.insert source v).get? a = if source = a then some v else m.get? a := by
  cases source <;> cases a <;> simp [get?, insert]

@[simp] theorem get?_erase (source a) :
    (m.erase source).get? a = if source = a then none else m.get? a := by
  cases source <;> cases a <;> simp [get?, erase]

theorem get?_eq_none_of_size (h : m.size = 0) (source) : m.get? source = none := by
  have hnil : m.history = ∅ ∧ m.saved = ∅ := by
    unfold size at h
    have hhist : m.history.size = 0 := by omega
    have hsaved : m.saved.size = 0 := by omega
    exact ⟨ExtTreeMap.eq_empty_iff_size_eq_zero.mpr hhist,
      ExtTreeMap.eq_empty_iff_size_eq_zero.mpr hsaved⟩
  cases source <;> simp [get?, hnil.1, hnil.2]

theorem mem_entries {source} {v : V} :
    (source, v) ∈ m.entries ↔ m.get? source = some v := by
  cases source <;> simp [entries, get?]

end BySource

namespace PromptStore

variable {s s' : PromptStore} {source : PromptSource}

variable (s)

/-- The index holds what it should for the source. -/
def Fresh (source : PromptSource) : Prop := s.search.get? source = s.row source

def Queued (source : PromptSource) : Prop := s.pending.get? source ≠ none

/-- The rebuild that is under way has got past the saved prompt. -/
def Passed (id : PromptId) : Prop :=
  s.state.phase = .pending ∨ s.state.phase = .saved ∧ s.savedAhead id = false

variable {s}

/-- Every row is of a source, and of a history entry as it is. -/
structure Sound (s : PromptStore) : Prop where
  sourced : ∀ source row, s.search.get? source = some row → s.row source ≠ none
  history : ∀ id row, s.search.get? (.history id) = some row → s.row (.history id) = some row

/-- The invariant of the tables. -/
structure Indexed (s : PromptStore) : Prop extends Sound s where
  idle : s.state.phase = .idle → s.state.overflow = false → ∀ source, s.row source ≠ none →
    s.Fresh source ∨ s.Queued source
  passed : ∀ id, s.Passed id → s.search.get? (.saved id) ≠ none →
    s.Fresh (.saved id) ∨ s.Queued (.saved id)
  dirty : s.state.phase ≠ .idle → s.state.dirty = true
  clean : s.state.dirty = false → ∀ source, s.Fresh source

theorem Sound.fresh_of_row_none (h : Sound s) (hnone : s.row source = none) : s.Fresh source := by
  have hsearch : s.search.get? source = none := by
    cases hget : s.search.get? source with
    | none => rfl
    | some => exact absurd hnone (h.sourced source _ hget)
  exact hsearch.trans hnone.symm

/-! ## Writers -/

/-- What queueing a source leaves: only the queue and its counters move, nothing is taken from
the queue, and the source is queued, or was refused and the overflow is noted. -/
structure Enqueues (source : PromptSource) (s s' : PromptStore) : Prop where
  search : s'.search = s.search
  history : s'.history = s.history
  saved : s'.saved = s.saved
  phase : s'.state.phase = s.state.phase
  sourceId : s'.state.sourceId = s.state.sourceId
  dirty : s'.state.dirty = true
  kept : ∀ a, s.Queued a → s'.Queued a
  overflow : s'.state.overflow = false → s.state.overflow = false
  queued : s'.Queued source ∨ s.refuses source ∧ s'.state.overflow = true

theorem Enqueues.trans {s''} (h : Enqueues source s s') (h' : Enqueues source s' s'') :
    Enqueues source s s'' where
  search := h'.search.trans h.search
  history := h'.history.trans h.history
  saved := h'.saved.trans h.saved
  phase := h'.phase.trans h.phase
  sourceId := h'.sourceId.trans h.sourceId
  dirty := h'.dirty
  kept := fun a ha => h'.kept a (h.kept a ha)
  overflow := fun hover => h.overflow (h'.overflow hover)
  queued := by
    rcases h'.queued with hqueue | ⟨hdeny, hover⟩
    · exact .inl hqueue
    · rcases h.queued with hqueue | ⟨hrefused, -⟩
      · exact absurd hdeny.1 hqueue
      · exact .inr ⟨hrefused, hover⟩

theorem queued_insert (pending : BySource ℕ) (seq : ℕ) (a)
    (h : pending.get? a ≠ none) : (pending.insert source seq).get? a ≠ none := by
  rw [BySource.get?_insert]
  split_ifs
  · exact Option.some_ne_none seq
  · exact h

theorem markPending_enqueues (source : PromptSource) (s) :
    Enqueues source s (s.markPending source) := by
  unfold markPending
  by_cases hdeny : s.refuses source
  · have hbumped : s.bumpCurrentSeq.refuses source := hdeny
    rw [if_pos hbumped]
    exact ⟨rfl, rfl, rfl, rfl, rfl, rfl, fun _ ha => ha, nofun, .inr ⟨hdeny, rfl⟩⟩
  · have hbumped : ¬ s.bumpCurrentSeq.refuses source := hdeny
    rw [if_neg hbumped]
    refine ⟨rfl, rfl, rfl, rfl, rfl, rfl, fun a ha => queued_insert _ _ a ha, fun h => h, .inl ?_⟩
    show (s.pending.insert source _).get? source ≠ none
    rw [BySource.get?_insert, if_pos rfl]
    exact Option.some_ne_none _

theorem enqueueSaved_enqueues (id : PromptId) (s : PromptStore) :
    Enqueues (.saved id) s (s.enqueueSaved id) := by
  unfold enqueueSaved
  simp only
  split_ifs with h
  · refine ⟨rfl, rfl, rfl, rfl, rfl, rfl, fun a ha => queued_insert _ _ a ha, ?_, .inl ?_⟩
    · intro hover
      exact (Bool.or_eq_false_iff.mp hover).1
    · show (s.pending.insert (.saved id) _).get? (.saved id) ≠ none
      rw [BySource.get?_insert, if_pos rfl]
      exact Option.some_ne_none _
  · rw [not_or] at h
    obtain ⟨hroom, hnot⟩ := h
    rw [not_not] at hnot
    have hover : (s.state.overflow || (decide (defaultHistoryIndexCapacity ≤ s.pending.size) &&
          !decide (s.pending.get? (.saved id) ≠ none))) = true := by
      by_contra hnode
      rw [Bool.not_eq_true] at hnode
      refine hroom ⟨hnode, ?_⟩
      simp [hnot] at hnode
      omega
    refine ⟨rfl, rfl, rfl, rfl, rfl, rfl, fun _ ha => ha, ?_, .inr ⟨⟨hnot, ?_⟩, hover⟩⟩
    · intro hfalse
      exact (Bool.or_eq_false_iff.mp hfalse).1
    · simp [hnot] at hover
      exact hover

theorem enqueueSaved_many (id : PromptId) (n : ℕ) :
    ∀ s, Enqueues (.saved id) s
      ((List.replicate (n + 1) ()).foldl (fun s _ => s.enqueueSaved id) s) := by
  induction n with
  | zero => exact fun s => enqueueSaved_enqueues id s
  | succ n ih =>
    intro s
    have hfst := enqueueSaved_enqueues id s
    have hrest := ih (s.enqueueSaved id)
    exact hfst.trans hrest

theorem Indexed.write {s₁} (h : Indexed s) (henq : Enqueues source s₁ s')
    (hsearch : s₁.search = s.search) (hpend : s₁.pending = s.pending)
    (hstate : s₁.state = s.state)
    (hrows : ∀ a, a ≠ source → s₁.row a = s.row a) (hsome : s₁.row source ≠ none)
    (hhist : ∀ id row, source = .history id → s.search.get? source = some row →
      s₁.row source = some row)
    (hpassed : ∀ id, source = .saved id → s.Passed id → s.refuses source →
      ∀ row, s.search.get? source = some row → s₁.row source = some row) : Indexed s' := by
  have hrow : ∀ a, s'.row a = s₁.row a := by
    intro a
    unfold row
    rw [henq.history, henq.saved]
  have hget : ∀ a, s'.search.get? a = s.search.get? a := fun a => by
    rw [henq.search, hsearch]
  have hqueue : ∀ a, s.Queued a → s'.Queued a := by
    intro a ha
    refine henq.kept a ?_
    unfold Queued
    rw [hpend]
    exact ha
  have hother : ∀ a, a ≠ source → s.Fresh a → s'.Fresh a := by
    intro a ha hfresh
    unfold Fresh
    rw [hget, hrow, hrows a ha]
    exact hfresh
  have hdeny : s₁.refuses source → s.refuses source := by
    unfold refuses
    rw [hpend, hstate]
    exact id
  refine ⟨⟨?_, ?_⟩, ?_, ?_, fun _ => henq.dirty, ?_⟩
  · intro a row ha
    rw [hget] at ha
    by_cases hsrc : a = source
    · rw [hsrc, hrow]
      exact hsome
    · rw [hrow, hrows a hsrc]
      exact h.sourced a row ha
  · intro id row hid
    rw [hget] at hid
    rw [hrow]
    by_cases hsrc : PromptSource.history id = source
    · rw [hsrc] at hid ⊢
      exact hhist id row hsrc.symm hid
    · rw [hrows _ hsrc]
      exact h.history id row hid
  · intro hphase hoverflow a ha
    have hidle : s.state.phase = .idle := by
      rw [henq.phase, hstate] at hphase
      exact hphase
    have hcalm : s.state.overflow = false := by
      have hpre := henq.overflow hoverflow
      rw [hstate] at hpre
      exact hpre
    by_cases hsrc : a = source
    · rcases henq.queued with hnow | ⟨-, hover⟩
      · exact .inr (hsrc ▸ hnow)
      · rw [hoverflow] at hover
        cases hover
    · rw [hrow, hrows a hsrc] at ha
      rcases h.idle hidle hcalm a ha with hfresh | hpre
      · exact .inl (hother a hsrc hfresh)
      · exact .inr (hqueue a hpre)
  · intro id hpass hidx
    rw [hget] at hidx
    have hpre : s.Passed id := by
      unfold Passed savedAhead at hpass ⊢
      rw [henq.phase, henq.sourceId, hstate] at hpass
      exact hpass
    by_cases hsrc : PromptSource.saved id = source
    · rcases henq.queued with hnow | ⟨hrefused, -⟩
      · exact .inr (hsrc ▸ hnow)
      · obtain ⟨row, hrow'⟩ := Option.ne_none_iff_exists'.mp hidx
        rw [hsrc] at hrow' ⊢
        have hsame := hpassed id hsrc.symm hpre (hdeny hrefused) row hrow'
        left
        unfold Fresh
        rw [hget, hrow, hrow', hsame]
    · rcases h.passed id hpre hidx with hfresh | hwas
      · exact .inl (hother _ hsrc hfresh)
      · exact .inr (hqueue _ hwas)
  · intro hclean
    rw [henq.dirty] at hclean
    cases hclean

end PromptStore

end DevManager.Prompts
