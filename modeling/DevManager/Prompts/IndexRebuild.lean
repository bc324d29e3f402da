import DevManager.Prompts.IndexCalls

/-!
# Rebuilding the index

`rebuild_search` empties the index and goes over the history, the saved prompts and the
queue. A turn of its loop keeps `Indexed` while the rebuild is under way
(`rebuildTurn_indexed`); the turn that ends it finds every row of the index to be that of
its source (`Complete`). That there are as many rows as sources then makes every source
fresh, and else the rebuild begins again (`settleRebuild_indexed`).
-/

namespace DevManager.Prompts

open Std (ExtTreeMap)
open List BySource OrdMap

namespace PromptStore

variable {s s' : PromptStore} {corrupt : PromptSource → Bool}

/-- A rebuild has passed every source: each row of the index is that of its source. -/
structure Complete (s : PromptStore) : Prop where
  phase : s.state.phase = .idle
  rows : ∀ source row, s.search.get? source = some row → s.row source = some row

/-- How the loop of `rebuild_search` is left. -/
def Settling (s : PromptStore) : Prop := Indexed s ∧ s.state.phase ≠ .idle ∨ Complete s

theorem indexed_of_history (h : Sound s) (hphase : s.state.phase = .history)
    (hdirty : s.state.dirty = true) : Indexed s where
  toSound := h
  idle := fun hid => by
    rw [hphase] at hid
    cases hid
  passed := fun id hpass => by
    unfold Passed at hpass
    rw [hphase] at hpass
    rcases hpass with hpend | ⟨hsaved, -⟩
    · cases hpend
    · cases hsaved
  dirty := fun _ => hdirty
  clean := fun hclean => by
    rw [hdirty] at hclean
    cases hclean

theorem sound_of_empty (h : s.search = .empty) : Sound s where
  sourced := fun source row hrow => by
    rw [h, get?_empty] at hrow
    cases hrow
  history := fun id row hrow => by
    rw [h, get?_empty] at hrow
    cases hrow

theorem beginRebuild_indexed (h : Indexed s) :
    Indexed s.beginRebuild ∧ s.beginRebuild.state.phase ≠ .idle := by
  unfold beginRebuild
  split_ifs with hid
  · exact ⟨indexed_of_history (sound_of_empty rfl) rfl rfl, nofun⟩
  · exact ⟨h, hid⟩

/-! ## The rows that a turn gets to -/

variable {entry : PromptHistoryEntry}

theorem nextHistoryRebuildRow_some {id}
    (h : s.nextHistoryRebuildRow = some (id, entry)) : s.history[id]? = some entry := by
  have hmem : (id, entry) ∈ s.history.toList.filter s.historyAhead := by
    have hsorted := mem_of_mem_head? (Option.mem_def.mpr h)
    exact (mem_insertionSort _).mp hsorted
  exact ExtTreeMap.mem_toList_iff_getElem?_eq_some.mp (mem_filter.mp hmem).1

theorem nextSavedRebuildRow_none (h : s.nextSavedRebuildRow = none) {id}
    (hid : s.row (.saved id) ≠ none) : s.savedAhead id = false := by
  have hnil : s.saved.toList.filter (fun e => s.savedAhead e.1) = [] :=
    getLast?_eq_none_iff.mp h
  have hsome : s.saved[id]? ≠ none := by
    intro hnone
    exact hid (by simp [row, hnone])
  obtain ⟨prompt, hprompt⟩ := Option.ne_none_iff_exists'.mp hsome
  have hmem : (id, prompt) ∈ s.saved.toList :=
    ExtTreeMap.mem_toList_iff_getElem?_eq_some.mpr hprompt
  have hnot := filter_eq_nil_iff.mp hnil (id, prompt) hmem
  rw [Bool.not_eq_true] at hnot
  exact hnot

variable {prompt : SavedPrompt}

theorem nextSavedRebuildRow_some {id} (h : s.nextSavedRebuildRow = some (id, prompt)) :
    s.saved[id]? = some prompt ∧
      ∀ a, s.row (.saved a) ≠ none → s.savedAhead a = true → a.payload ≤ id.payload := by
  have hmem : (id, prompt) ∈ s.saved.toList.filter (fun e => s.savedAhead e.1) :=
    mem_of_getLast? h
  refine ⟨ExtTreeMap.mem_toList_iff_getElem?_eq_some.mp (mem_filter.mp hmem).1,
    fun a ha hahead => ?_⟩
  have hsome : s.saved[a]? ≠ none := by
    intro hnone
    exact ha (by simp [row, hnone])
  obtain ⟨other, hother⟩ := Option.ne_none_iff_exists'.mp hsome
  have hin : (a, other) ∈ s.saved.toList.filter (fun e => s.savedAhead e.1) :=
    mem_filter.mpr ⟨ExtTreeMap.mem_toList_iff_getElem?_eq_some.mpr hother, hahead⟩
  have hord : (s.saved.toList.filter (fun e => s.savedAhead e.1)).Pairwise
      fun a b => a.1.payload ≤ b.1.payload := by
    refine List.Pairwise.filter _ (List.Pairwise.imp (fun {a b} hlt => ?_)
      ExtTreeMap.ordered_keys_toList)
    exact Nat.le_of_lt (Nat.compare_eq_lt.mp hlt)
  have hlast : (s.saved.toList.filter (fun e => s.savedAhead e.1)).getLast
      (ne_nil_of_mem hin) = (id, prompt) := by
    have hget := getLast?_eq_some_getLast (ne_nil_of_mem hin)
    exact Option.some_injective _ (hget.symm.trans h)
  have hle := hord.rel_getLast_of_rel_getLast_getLast hin (Nat.le_refl _)
  rw [hlast] at hle
  exact hle

/-! ## A turn -/

theorem passed_savedTurn {id} (h : s.nextSavedRebuildRow = some (id, prompt))
    (hphase : s.state.phase = .saved) (submittedAtMs) {a} (ha : s.row (.saved a) ≠ none)
    (hne : a ≠ id) (hpass : (s.persistRebuildState .saved submittedAtMs
      (some id.payload)).Passed a) :
    s.Passed a := by
  rcases hpass with hpend | ⟨-, hbehind⟩
  · cases hpend
  · have hbehind' : ¬ a.payload < id.payload := of_decide_eq_false hbehind
    refine .inr ⟨hphase, ?_⟩
    by_contra hahead
    rw [Bool.not_eq_false] at hahead
    have hle := (nextSavedRebuildRow_some h).2 a ha hahead
    refine hne ?_
    cases a
    cases id
    simp only at hle hbehind'
    rw [show _ = _ from Nat.le_antisymm hle (Nat.le_of_not_lt hbehind')]

theorem historyTurn_indexed {id} (h : Indexed s)
    (hnext : s.nextHistoryRebuildRow = some (id, entry)) (submittedAtMs)
    (sourceId) (hphase : s.state.phase = .history) :
    Indexed ({ s with search := s.search.insert (.history id) entry.row }.persistRebuildState
      .history submittedAtMs sourceId) := by
  have hentry : s.row (.history id) = some entry.row := by
    simp [row, nextHistoryRebuildRow_some hnext]
  have hnow : (s.search.insert (.history id) entry.row).get? (.history id) =
      s.row (.history id) := by
    rw [get?_insert, if_pos rfl, hentry]
  have hfresh : Indexed { s with search := s.search.insert (.history id) entry.row } := by
    refine h.freshen hnow fun a ha => ?_
    rw [get?_insert, if_neg (Ne.symm ha)]
  have hbusy : s.state.phase ≠ .idle := by
    rw [hphase]
    decide
  exact indexed_of_history ⟨hfresh.sourced, hfresh.history⟩ rfl (h.dirty hbusy)

theorem savedTurn_indexed {id} (h : Indexed s)
    (hnext : s.nextSavedRebuildRow = some (id, prompt)) (submittedAtMs)
    (hphase : s.state.phase = .saved) :
    Indexed ({ s with search := s.search.insert (.saved id) prompt.row }.persistRebuildState
      .saved submittedAtMs (some id.payload)) := by
  have hprompt : s.row (.saved id) = some prompt.row := by
    simp [row, (nextSavedRebuildRow_some hnext).1]
  have hnow : (s.search.insert (.saved id) prompt.row).get? (.saved id) = s.row (.saved id) := by
    rw [get?_insert, if_pos rfl, hprompt]
  have hfresh : Indexed { s with search := s.search.insert (.saved id) prompt.row } := by
    refine h.freshen hnow fun a ha => ?_
    rw [get?_insert, if_neg (Ne.symm ha)]
  have hbusy : s.state.phase ≠ .idle := by
    rw [hphase]
    decide
  refine ⟨⟨hfresh.sourced, hfresh.history⟩, fun hidle => ?_, fun a hpass hidx => ?_,
    fun _ => h.dirty hbusy, fun hclean a => ?_⟩
  · cases hidle
  · by_cases hid : a = id
    · rw [hid]
      exact .inl hnow
    · obtain ⟨row, hrow⟩ := Option.ne_none_iff_exists'.mp hidx
      have hsourced : s.row (.saved a) ≠ none := hfresh.sourced _ row hrow
      exact hfresh.passed a (passed_savedTurn hnext hphase submittedAtMs hsourced hid hpass) hidx
  · exact hfresh.clean hclean a

theorem afterHistory_indexed (h : Indexed s) (hbusy : s.state.phase ≠ .idle) :
    Indexed (s.persistRebuildState .saved none none) := by
  refine ⟨⟨h.sourced, h.history⟩, fun hid => ?_, fun a hpass _ => ?_, fun _ => h.dirty hbusy,
    h.clean⟩
  · cases hid
  · rcases hpass with hpend | ⟨-, hbehind⟩
    · cases hpend
    · cases hbehind

theorem afterSaved_indexed (h : Indexed s) (hnext : s.nextSavedRebuildRow = none)
    (hphase : s.state.phase = .saved) : Indexed (s.persistRebuildState .pending none none) := by
  have hbusy : s.state.phase ≠ .idle := by
    rw [hphase]
    decide
  refine ⟨⟨h.sourced, h.history⟩, fun hid => ?_, fun a _ hidx => ?_, fun _ => h.dirty hbusy,
    h.clean⟩
  · cases hid
  · obtain ⟨row, hrow⟩ := Option.ne_none_iff_exists'.mp hidx
    have hsourced : s.row (.saved a) ≠ none := h.sourced _ row hrow
    exact h.passed a (.inr ⟨hphase, nextSavedRebuildRow_none hnext hsourced⟩) hidx

theorem afterPending_complete (h : Indexed s) (hphase : s.state.phase = .pending)
    (hnil : s.pending.entries.head? = none) : Complete (s.persistRebuildState .idle none none) := by
  refine ⟨rfl, fun source row hrow => ?_⟩
  cases source with
  | history => exact h.history _ row hrow
  | saved id =>
    have hidx : s.search.get? (.saved id) ≠ none := by
      intro hnone
      have hsome : s.search.get? (.saved id) = some row := hrow
      rw [hnone] at hsome
      cases hsome
    rcases h.passed id (.inl hphase) hidx with hfresh | hqueue
    · exact hfresh.symm.trans hrow
    · obtain ⟨seq, hseq⟩ := Option.ne_none_iff_exists'.mp hqueue
      have hmem := mem_entries.mpr hseq
      rw [head?_eq_none_iff.mp hnil] at hmem
      cases hmem

/-- What a turn leaves. -/
def RebuildTurn.Keeps : RebuildTurn → Prop
  | .indexed s | .moved s => Indexed s ∧ s.state.phase ≠ .idle
  | .finished s => Complete s
  | .failed s => Indexed s

theorem rebuildTurn_keeps (h : Indexed s) (hbusy : s.state.phase ≠ .idle) :
    (s.rebuildTurn corrupt).Keeps := by
  unfold rebuildTurn
  match hphase : s.state.phase with
  | .idle => exact absurd hphase hbusy
  | .history =>
    simp only
    match hnext : s.nextHistoryRebuildRow with
    | none => exact ⟨afterHistory_indexed h hbusy, nofun⟩
    | some (id, entry) =>
      simp only
      split_ifs
      · exact h.markDirty
      · exact ⟨historyTurn_indexed h hnext _ _ hphase, nofun⟩
  | .saved =>
    simp only
    match hnext : s.nextSavedRebuildRow with
    | none => exact ⟨afterSaved_indexed h hnext hphase, nofun⟩
    | some (id, prompt) =>
      simp only
      split_ifs
      · exact h.markDirty
      · exact ⟨savedTurn_indexed h hnext _ hphase, nofun⟩
  | .pending =>
    simp only
    match hhead : s.pending.entries.head? with
    | none => exact afterPending_complete h hphase hhead
    | some (source, enqueueSeq) =>
      simp only
      match hwork : s.applyIndexWork corrupt source with
      | .error _ => exact h.markDirty
      | .ok s' =>
        obtain ⟨hidx, hstate⟩ := indexed_dequeue h hwork enqueueSeq
        exact ⟨hidx, hstate ▸ hbusy⟩

theorem rebuildLoop_settling (turns processed : ℕ) (h : Indexed s) (hbusy : s.state.phase ≠ .idle) :
    match rebuildLoop corrupt turns processed s with
    | (none, s') => Indexed s'
    | (some _, s') => Settling s' := by
  induction turns generalizing s processed with
  | zero => exact .inl ⟨h, hbusy⟩
  | succ turns ih =>
    have hturn : (s.rebuildTurn corrupt).Keeps := rebuildTurn_keeps h hbusy
    unfold rebuildLoop
    split_ifs with hfull
    · exact .inl ⟨h, hbusy⟩
    · cases hcase : s.rebuildTurn corrupt with
      | indexed s' =>
        rw [hcase] at hturn
        exact ih (processed + 1) hturn.1 hturn.2
      | moved s' =>
        rw [hcase] at hturn
        exact ih processed hturn.1 hturn.2
      | finished s' =>
        rw [hcase] at hturn
        exact .inr hturn
      | failed s' =>
        rw [hcase] at hturn
        exact hturn

/-! ## Settling -/

theorem Complete.fresh (h : Complete s)
    (hsize : s.search.size = s.history.size + s.saved.size) (source) :
    s.Fresh source := by
  have hhist : ∀ id, id ∈ s.search.history → id ∈ s.history := by
    intro id hid
    obtain ⟨row, hrow⟩ := mem_iff_exists.mp hid
    have hsrc := h.rows (.history id) row hrow
    unfold PromptStore.row at hsrc
    obtain ⟨entry, hentry, -⟩ := Option.map_eq_some_iff.mp hsrc
    exact mem_iff_exists.mpr ⟨entry, hentry⟩
  have hsaved : ∀ id, id ∈ s.search.saved → id ∈ s.saved := by
    intro id hid
    obtain ⟨row, hrow⟩ := mem_iff_exists.mp hid
    have hsrc := h.rows (.saved id) row hrow
    unfold PromptStore.row at hsrc
    obtain ⟨prompt, hprompt, -⟩ := Option.map_eq_some_iff.mp hsrc
    exact mem_iff_exists.mpr ⟨prompt, hprompt⟩
  have hfewer := size_le_of_mem hhist
  have hless := size_le_of_mem hsaved
  unfold size at hsize
  have hrows : s.search.get? source = none → s.row source = none := by
    intro hnone
    cases source with
    | history id =>
      have hnot : id ∉ s.history := fun hmem =>
        not_mem_iff.mpr hnone (mem_of_size_le hhist (by omega) hmem)
      simp [row, not_mem_iff.mp hnot]
    | saved id =>
      have hnot : id ∉ s.saved := fun hmem =>
        not_mem_iff.mpr hnone (mem_of_size_le hsaved (by omega) hmem)
      simp [row, not_mem_iff.mp hnot]
  unfold Fresh
  cases hget : s.search.get? source with
  | none => exact (hrows hget).symm
  | some => exact (h.rows source _ hget).symm

theorem Complete.sound (h : Complete s) : Sound s where
  sourced := fun source row hrow hnone => by
    rw [h.rows source row hrow] at hnone
    cases hnone
  history := fun id row hrow => h.rows (.history id) row hrow

theorem settleRebuild_indexed (h : Settling s) : Indexed s.settleRebuild := by
  unfold settleRebuild
  rcases h with ⟨hidx, hbusy⟩ | hcomplete
  · rw [if_neg fun hid => hbusy hid.2]
    exact hidx.markDirty
  · split_ifs with hid hsize hbehind
    · exact indexed_of_fresh hcomplete.phase fun source => hcomplete.fresh hsize.1 source
    · exact indexed_of_history (sound_of_empty rfl) rfl rfl
    · have hsound := hcomplete.sound
      exact indexed_of_history ⟨hsound.sourced, hsound.history⟩ rfl rfl
    · refine absurd ⟨?_, hcomplete.phase⟩ hid
      unfold countRebuildRemaining
      simp only [hcomplete.phase]

theorem rebuildSearch_indexed (turns : ℕ) (cancelled : Bool) (h : Indexed s) :
    Indexed (s.rebuildSearch corrupt turns cancelled).2 := by
  obtain ⟨hbegun, hbusy⟩ := beginRebuild_indexed h
  have hloop := @rebuildLoop_settling _ corrupt turns 0 hbegun hbusy
  unfold rebuildSearch
  cases cancelled with
  | true => exact h
  | false =>
    simp only [Bool.false_eq_true, if_false]
    split
    next s' heq =>
      rw [heq] at hloop
      exact hloop
    next processed s' heq =>
      rw [heq] at hloop
      exact settleRebuild_indexed hloop

end PromptStore

end DevManager.Prompts
