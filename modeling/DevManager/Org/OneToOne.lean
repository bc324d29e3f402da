import DevManager.Org.Managed

/-!
# Managed links are one-to-one

While no call of a run takes a card from a link that holds it, the cards that the reducer
keeps are exactly the cards of its enrolled links, no two of them share a card, and the
stored links restore the same reducer (`links_one_to_one`). A close keeps the card of
the link that it closes, and an unlink releases a card whoever holds it
(`repeated_unlink_shares_card`).
-/

namespace DevManager.Org

open Std (ExtTreeMap ExtTreeSet)
open List Calls OrdMap

namespace TaskLinkReducer

variable {r r' : TaskLinkReducer} {k : HostTaskKey} {existing entry : ManagedTaskLink}

/-- `entry` is the enrolled link of the task `k`. -/
def Enrolled (r : TaskLinkReducer) (k : HostTaskKey) (entry : ManagedTaskLink) : Prop :=
  r.byTask[k]? = some entry ∧ entry.enrollmentState = .enrolled

/-- The two indexes agree: links stand under their tasks, the cards held are those of the enrolled
links, and no identifier is used twice. -/
structure Indexed (r : TaskLinkReducer) : Prop where
  keyed : ∀ (k : HostTaskKey) entry, r.byTask[k]? = some entry → entry.key = k
  cards : ∀ card linkId, r.byCard[card]? = some linkId ↔
    ∃ k entry, r.Enrolled k entry ∧ entry.boardCardId.value = card ∧ entry.linkId = linkId
  ids : ∀ k entry (k' : HostTaskKey) entry',
    r.byTask[k]? = some entry → r.byTask[k']? = some entry' → entry.linkId = entry'.linkId → k = k'
  positive : ∀ (k : HostTaskKey) entry, r.byTask[k]? = some entry → entry.portalRevision ≠ 0

theorem Indexed.unshared (h : r.Indexed) {k' entry'}
    (he : r.Enrolled k entry) (he' : r.Enrolled k' entry')
    (hcard : entry.boardCardId.value = entry'.boardCardId.value) : k = k' := by
  have hheld := (h.cards _ _).mpr ⟨k, entry, he, rfl, rfl⟩
  have hheld' := (h.cards _ _).mpr ⟨k', entry', he', rfl, rfl⟩
  rw [hcard, hheld'] at hheld
  exact h.ids k entry k' entry' he.1 he'.1 (Option.some.inj hheld).symm

theorem Indexed.card_none (h : r.Indexed) {card} :
    r.byCard[card]? = none ↔
      ∀ (k : HostTaskKey) entry, r.Enrolled k entry → entry.boardCardId.value ≠ card := by
  constructor
  · intro hnone k entry he hcard
    rw [(h.cards card entry.linkId).mpr ⟨k, entry, he, hcard, rfl⟩] at hnone
    cases hnone
  · intro hfree
    cases hheld : r.byCard[card]? with
    | none => rfl
    | some linkId =>
      obtain ⟨k, entry, he, hcard, -⟩ := (h.cards card linkId).mp hheld
      exact absurd hcard (hfree k entry he)

theorem indexed_new : Indexed new := by
  refine ⟨?_, ?_, ?_, ?_⟩
  · intro k entry h
    simp [new] at h
  · intro card linkId
    simp [new, Enrolled]
  · intro k entry k' entry' h
    simp [new] at h
  · intro k entry h
    simp [new] at h

/-! ## Storing a link -/

variable {cards : ExtTreeMap String ManagedLinkId}

theorem enrolled_insert {k' entry'} :
    Enrolled ⟨r.byTask.insert k entry, cards⟩ k' entry' ↔
      k = k' ∧ entry = entry' ∧ entry.enrollmentState = .enrolled ∨ k ≠ k' ∧
        r.Enrolled k' entry' := by
  unfold Enrolled
  rw [getElem?_insert_eq]
  by_cases hk : k = k'
  · rw [if_pos hk, Option.some.injEq]
    constructor
    · rintro ⟨rfl, hstate⟩
      exact .inl ⟨hk, rfl, hstate⟩
    · rintro (⟨-, rfl, hstate⟩ | ⟨hne, -⟩)
      · exact ⟨rfl, hstate⟩
      · exact absurd hk hne
  · rw [if_neg hk]
    simp [hk]

theorem Indexed.store (h : r.Indexed) (hkey : entry.key = k) (hpos : entry.portalRevision ≠ 0)
    (hid : ∀ (k' : HostTaskKey) entry', r.byTask[k']? = some entry' →
      entry'.linkId = entry.linkId → k' = k)
    (hcards : ∀ card linkId, cards[card]? = some linkId ↔
      ∃ k' entry', Enrolled ⟨r.byTask.insert k entry, cards⟩ k' entry' ∧
        entry'.boardCardId.value = card ∧ entry'.linkId = linkId) :
    Indexed ⟨r.byTask.insert k entry, cards⟩ := by
  refine ⟨?_, hcards, ?_, ?_⟩
  · exact fun k' entry' hget => forall_insert (P := fun k e => e.key = k) hkey
      h.keyed k' entry' hget
  · intro k₁ e₁ k₂ e₂ h₁ h₂ heq
    simp only [getElem?_insert_eq] at h₁ h₂
    split_ifs at h₁ h₂ with hk₁ hk₂ hk₂
    · exact hk₁.symm.trans hk₂
    · cases h₁
      exact hk₁.symm.trans (hid k₂ e₂ h₂ heq.symm).symm
    · cases h₂
      exact (hid k₁ e₁ h₁ heq).trans hk₂
    · exact h.ids k₁ e₁ k₂ e₂ h₁ h₂ heq
  · exact fun k' entry' hget => forall_insert (P := fun _ e => e.portalRevision ≠ 0)
      hpos h.positive k' entry' hget

theorem Indexed.add (h : r.Indexed) (hkey : entry.key = k) (hpos : entry.portalRevision ≠ 0)
    (hnew : r.byTask[k]? = none)
    (hid : ∀ (k' : HostTaskKey) entry', r.byTask[k']? = some entry' → entry'.linkId ≠ entry.linkId)
    (hcard : entry.enrollmentState = .enrolled → r.byCard[entry.boardCardId.value]? = none) :
    Indexed ⟨r.byTask.insert k entry,
      if entry.enrollmentState = .enrolled then r.byCard.insert entry.boardCardId.value entry.linkId
      else r.byCard⟩ := by
  have hold : ∀ k' entry', r.Enrolled k' entry' → k ≠ k' := by
    rintro k' entry' he rfl
    rw [he.1] at hnew
    cases hnew
  refine h.store hkey hpos (fun k' entry' hget heq => absurd heq (hid k' entry' hget)) ?_
  intro card linkId
  simp only [enrolled_insert]
  by_cases hstate : entry.enrollmentState = .enrolled
  · have hfree := h.card_none.mp (hcard hstate)
    rw [if_pos hstate, getElem?_insert_eq]
    split_ifs with heq
    · subst heq
      constructor
      · intro hsome
        exact ⟨k, entry, .inl ⟨rfl, rfl, hstate⟩, rfl, Option.some.inj hsome⟩
      · rintro ⟨k', entry', ⟨-, rfl, -⟩ | ⟨-, he⟩, hval, rfl⟩
        · rfl
        · exact absurd hval (hfree k' entry' he)
    · rw [h.cards]
      constructor
      · rintro ⟨k', entry', he, hval, hlink⟩
        exact ⟨k', entry', .inr ⟨hold k' entry' he, he⟩, hval, hlink⟩
      · rintro ⟨k', entry', ⟨-, rfl, -⟩ | ⟨-, he⟩, hval, hlink⟩
        · exact absurd hval heq
        · exact ⟨k', entry', he, hval, hlink⟩
  · rw [if_neg hstate, h.cards]
    constructor
    · rintro ⟨k', entry', he, hval, hlink⟩
      exact ⟨k', entry', .inr ⟨hold k' entry' he, he⟩, hval, hlink⟩
    · rintro ⟨k', entry', ⟨-, -, henrol⟩ | ⟨-, he⟩, hval, hlink⟩
      · exact absurd henrol hstate
      · exact ⟨k', entry', he, hval, hlink⟩

theorem Indexed.replace (h : r.Indexed) (entry : ManagedTaskLink)
    (hold : r.byTask[k]? = some existing)
    (hkey : entry.key = existing.key) (hid : entry.linkId = existing.linkId)
    (hcard : entry.boardCardId = existing.boardCardId) (hpos : entry.portalRevision ≠ 0)
    (hfree : ∀ (k' : HostTaskKey) entry', r.Enrolled k' entry' → k' ≠ k →
      entry'.boardCardId.value ≠ existing.boardCardId.value) :
    Indexed ⟨r.byTask.insert k entry, if entry.enrollmentState = .enrolled then
        r.byCard.insert existing.boardCardId.value existing.linkId
      else r.byCard.erase existing.boardCardId.value⟩ := by
  refine h.store (hkey.trans (h.keyed k existing hold)) hpos
    (fun k' entry' hget heq => h.ids k' entry' k existing hget hold (heq.trans hid)) ?_
  intro card linkId
  simp only [enrolled_insert]
  -- A card that is not the link's own is held by the same link as before.
  have hother : existing.boardCardId.value ≠ card → (r.byCard[card]? = some linkId ↔
      ∃ k' entry', (k = k' ∧ entry = entry' ∧ entry.enrollmentState = .enrolled ∨
        k ≠ k' ∧ r.Enrolled k' entry') ∧ entry'.boardCardId.value = card ∧
          entry'.linkId = linkId) := by
    intro hne
    rw [h.cards]
    constructor
    · rintro ⟨k', entry', he, hval, hlink⟩
      refine ⟨k', entry', .inr ⟨?_, he⟩, hval, hlink⟩
      rintro rfl
      have hsame : existing = entry' := Option.some.inj (hold.symm.trans he.1)
      exact hne (hsame ▸ hval)
    · rintro ⟨k', entry', ⟨-, rfl, -⟩ | ⟨-, he⟩, hval, hlink⟩
      · rw [hcard] at hval
        exact absurd hval hne
      · exact ⟨k', entry', he, hval, hlink⟩
  split_ifs with hstate
  · rw [getElem?_insert_eq]
    split_ifs with heq
    · subst heq
      constructor
      · intro hsome
        exact ⟨k, entry, .inl ⟨rfl, rfl, hstate⟩, by rw [hcard], hid.trans (Option.some.inj hsome)⟩
      · rintro ⟨k', entry', ⟨-, rfl, -⟩ | ⟨hne, he⟩, hval, rfl⟩
        · rw [hid]
        · exact absurd hval (hfree k' entry' he (Ne.symm hne))
    · exact hother heq
  · rw [getElem?_erase_eq]
    split_ifs with heq
    · subst heq
      constructor
      · nofun
      · rintro ⟨k', entry', ⟨-, rfl, henrol⟩ | ⟨hne, he⟩, hval, -⟩
        · exact absurd henrol hstate
        · exact absurd hval (hfree k' entry' he (Ne.symm hne))
    · exact hother heq

theorem Indexed.retouch (h : r.Indexed) (entry : ManagedTaskLink)
    (hold : r.byTask[k]? = some existing)
    (hkey : entry.key = existing.key) (hid : entry.linkId = existing.linkId)
    (hcard : entry.boardCardId = existing.boardCardId) (hpos : entry.portalRevision ≠ 0)
    (hstate : entry.enrollmentState = .enrolled ↔ existing.enrollmentState = .enrolled) :
    Indexed ⟨r.byTask.insert k entry, r.byCard⟩ := by
  refine h.store (hkey.trans (h.keyed k existing hold)) hpos
    (fun k' entry' hget heq => h.ids k' entry' k existing hget hold (heq.trans hid)) ?_
  intro card linkId
  simp only [enrolled_insert, h.cards]
  constructor
  · rintro ⟨k', entry', he, hval, hlink⟩
    by_cases hk : k = k'
    · subst hk
      have hsame : existing = entry' := Option.some.inj (hold.symm.trans he.1)
      subst hsame
      exact ⟨k, entry, .inl ⟨rfl, rfl, hstate.mpr he.2⟩, by rw [hcard, hval], hid.trans hlink⟩
    · exact ⟨k', entry', .inr ⟨hk, he⟩, hval, hlink⟩
  · rintro ⟨k', entry', ⟨rfl, rfl, henrol⟩ | ⟨-, he⟩, hval, hlink⟩
    · exact ⟨k, existing, ⟨hold, hstate.mp henrol⟩, by rw [← hcard, hval], hid.symm.trans hlink⟩
    · exact ⟨k', entry', he, hval, hlink⟩

/-! ## Restoring -/

/-- What `restore` has seen so far is what it has stored. -/
structure Seen (state : TaskLinkReducer × ExtTreeSet ManagedLinkId × ExtTreeSet HostTaskKey) :
    Prop where
  indexed : state.1.Indexed
  links : ∀ (k : HostTaskKey) entry, state.1.byTask[k]? = some entry → entry.linkId ∈ state.2.1
  tasks : ∀ k, k ∈ state.1.byTask → k ∈ state.2.2

variable {state state' : TaskLinkReducer × ExtTreeSet ManagedLinkId × ExtTreeSet HostTaskKey}
  {l : List ManagedTaskLink}

theorem restoreLink_ok (h : restoreLink state entry = .ok state') :
    entry.portalRevision ≠ 0 ∧ entry.linkId ∉ state.2.1 ∧ entry.key ∉ state.2.2 ∧
      (entry.enrollmentState = .enrolled → entry.boardCardId.value ∉ state.1.byCard) ∧
      state' = (⟨state.1.byTask.insert entry.key entry, if entry.enrollmentState = .enrolled then
            state.1.byCard.insert entry.boardCardId.value entry.linkId
          else state.1.byCard⟩,
        state.2.1.insert entry.linkId, state.2.2.insert entry.key) := by
  simp only [restoreLink, ok_iff, not_or, not_and] at h
  obtain ⟨hpos, ⟨hlinks, htasks⟩, hcard, hstate⟩ := h
  exact ⟨hpos, hlinks, htasks, hcard, hstate⟩

theorem Seen.restoreLink (h : Seen state) (hok : restoreLink state entry = .ok state') :
    Seen state' := by
  obtain ⟨hpos, hlinks, htasks, hcard, rfl⟩ := restoreLink_ok hok
  refine ⟨?_, ?_, ?_⟩
  · refine h.indexed.add rfl hpos ?_ ?_ ?_
    · exact not_mem_iff.mp fun hmem => htasks (h.tasks _ hmem)
    · exact fun k' entry' hget heq => hlinks (heq ▸ h.links k' entry' hget)
    · exact fun henrol => not_mem_iff.mp (hcard henrol)
  · refine forall_insert
      (P := fun _ (e : ManagedTaskLink) => e.linkId ∈ state.2.1.insert entry.linkId) ?_ ?_
    · exact mem_insertSet_iff.mpr (.inl rfl)
    · exact fun k' entry' hget => mem_insertSet_iff.mpr (.inr (h.links k' entry' hget))
  · intro k' hmem
    rw [OrdMap.mem_insert_iff] at hmem
    exact mem_insertSet_iff.mpr (hmem.imp_right (h.tasks k'))

theorem restore_byTask (l : List ManagedTaskLink) :
    ∀ {state}, l.foldlM restoreLink state = .ok state' →
      state'.1.byTask = insertAll state.1.byTask (l.map fun entry => (entry.key, entry)) := by
  induction l with
  | nil =>
    intro state h
    cases h
    rfl
  | cons entry l ih =>
    intro state h
    obtain ⟨next, hfst, hrest⟩ := foldlM_cons_ok.mp h
    obtain ⟨-, -, -, -, rfl⟩ := restoreLink_ok hfst
    rw [ih hrest, map_cons, insertAll_cons]

theorem seen_new : Seen (new, ∅, ∅) :=
  ⟨indexed_new, fun k entry h => by simp [new] at h, fun k h => by simp [new] at h⟩

theorem restore_indexed (h : restore l = .ok r) : r.Indexed ∧ r.byTask.size ≤ maxManagedLinks := by
  simp only [restore, ok_iff, not_lt] at h
  obtain ⟨hbound, state, hfold, rfl⟩ := h
  refine ⟨(foldlM_invariant (fun _ _ _ _ => Seen.restoreLink) seen_new hfold).indexed, ?_⟩
  have hsize := size_insertAll_le (l.map fun entry => (entry.key, entry))
    (new.byTask : ExtTreeMap HostTaskKey ManagedTaskLink)
  rw [← restore_byTask l hfold, length_map] at hsize
  have hnew : new.byTask.size = 0 := rfl
  omega

/-- Two links that `restore` takes one after the other. -/
def Distinct (entry entry' : ManagedTaskLink) : Prop :=
  entry.linkId ≠ entry'.linkId ∧ entry.key ≠ entry'.key ∧
    (entry.enrollmentState = .enrolled → entry'.enrollmentState = .enrolled →
      entry.boardCardId.value ≠ entry'.boardCardId.value)

theorem restore_takes (l : List ManagedTaskLink) :
    ∀ {state : TaskLinkReducer × ExtTreeSet ManagedLinkId × ExtTreeSet HostTaskKey},
      (∀ entry ∈ l, entry.portalRevision ≠ 0 ∧ entry.linkId ∉ state.2.1 ∧ entry.key ∉ state.2.2 ∧
        (entry.enrollmentState = .enrolled → entry.boardCardId.value ∉ state.1.byCard)) →
      l.Pairwise Distinct → ∃ state', l.foldlM restoreLink state = .ok state' := by
  induction l with
  | nil => exact fun _ _ => ⟨_, rfl⟩
  | cons entry l ih =>
    intro state hnew hpairwise
    obtain ⟨hfst, hrest⟩ := pairwise_cons.mp hpairwise
    obtain ⟨hpos, hlink, htask, hcard⟩ := hnew entry (.head _)
    have hok : restoreLink state entry = .ok (⟨state.1.byTask.insert entry.key entry,
          if entry.enrollmentState = .enrolled then
            state.1.byCard.insert entry.boardCardId.value entry.linkId
          else state.1.byCard⟩,
        state.2.1.insert entry.linkId, state.2.2.insert entry.key) := by
      simp only [restoreLink, ok_iff, not_or, not_and]
      exact ⟨hpos, ⟨hlink, htask⟩, hcard, trivial⟩
    suffices hnext : ∃ state', l.foldlM restoreLink (⟨state.1.byTask.insert entry.key entry,
          if entry.enrollmentState = .enrolled then
            state.1.byCard.insert entry.boardCardId.value entry.linkId
          else state.1.byCard⟩,
        state.2.1.insert entry.linkId, state.2.2.insert entry.key) = .ok state' by
      obtain ⟨state', hstate'⟩ := hnext
      exact ⟨state', foldlM_cons_ok.mpr ⟨_, hok, hstate'⟩⟩
    refine ih (fun next hnext => ?_) hrest
    obtain ⟨hpos', hlink', htask', hcard'⟩ := hnew next (.tail _ hnext)
    obtain ⟨hids, hkeys, hcards⟩ := hfst next hnext
    refine ⟨hpos', ?_, ?_, fun henrol => ?_⟩
    · simp only [mem_insertSet_iff, not_or]
      exact ⟨hids.symm, hlink'⟩
    · simp only [mem_insertSet_iff, not_or]
      exact ⟨hkeys.symm, htask'⟩
    · simp only
      split_ifs with hstate
      · rw [OrdMap.mem_insert_iff, not_or]
        exact ⟨(hcards hstate henrol).symm, hcard' henrol⟩
      · exact hcard' henrol

theorem Indexed.ext (h : r.Indexed) (h' : r'.Indexed) (hbyTask : r.byTask = r'.byTask) :
    r = r' := by
  obtain ⟨byTask, byCard⟩ := r
  obtain ⟨byTask', byCard'⟩ := r'
  simp only at hbyTask
  subst hbyTask
  refine congrArg (TaskLinkReducer.mk byTask) (ExtTreeMap.ext_getElem? fun card => ?_)
  refine Option.ext fun linkId => ?_
  exact (h.cards card linkId).trans (h'.cards card linkId).symm

theorem Indexed.restore_links (h : r.Indexed) (hsize : r.byTask.size ≤ maxManagedLinks) :
    restore r.links = .ok r := by
  have hget : ∀ e ∈ r.byTask.toList, r.byTask[e.1]? = some e.2 := fun e he =>
    ExtTreeMap.mem_toList_iff_getElem?_eq_some.mp he
  have hpairwise : r.links.Pairwise Distinct := by
    unfold links
    rw [pairwise_map]
    refine (distinct_toList r.byTask).imp_of_mem fun {a b} ha hb hne => ⟨?_, ?_, ?_⟩
    · exact fun heq => hne (h.ids a.1 a.2 b.1 b.2 (hget a ha) (hget b hb) heq)
    · rw [h.keyed a.1 a.2 (hget a ha), h.keyed b.1 b.2 (hget b hb)]
      exact hne
    · exact fun heach heb heq => hne (h.unshared ⟨hget a ha, heach⟩ ⟨hget b hb, heb⟩ heq)
  obtain ⟨state, hfold⟩ := @restore_takes r.links (new, ∅, ∅) (fun entry hentry => by
    obtain ⟨e, he, rfl⟩ := mem_map.mp hentry
    exact ⟨h.positive e.1 e.2 (hget e he), by simp, by simp, fun _ => by simp [new]⟩) hpairwise
  have hres : restore r.links = .ok state.1 := by
    simp only [restore, ok_iff, not_lt]
    refine ⟨?_, state, hfold, rfl⟩
    unfold links
    rw [length_map, ExtTreeMap.length_toList]
    exact hsize
  have hmap : r.links.map (fun entry => (entry.key, entry)) = r.byTask.toList := by
    unfold links
    rw [map_map]
    conv_rhs => rw [← map_id r.byTask.toList]
    exact map_congr_left fun e he => Prod.ext (h.keyed e.1 e.2 (hget e he)) rfl
  have hbyTask := restore_byTask r.links hfold
  rw [hmap] at hbyTask
  rw [hres, (restore_indexed hres).1.ext h (hbyTask.trans (insertAll_toList _))]

/-! ## A run -/

/-- No other task than `k` holds `card` by an enrolled link. -/
def HeldByNoOther (r : TaskLinkReducer) (k : HostTaskKey) (card : BoardCardId) : Prop :=
  ∀ k' entry, r.Enrolled k' entry → k' ≠ k → entry.boardCardId.value ≠ card.value

/-- No stored link has the identifier. -/
def Unused (r : TaskLinkReducer) (linkId : ManagedLinkId) : Prop :=
  ∀ (k : HostTaskKey) entry, r.byTask[k]? = some entry → entry.linkId ≠ linkId

instance (r : TaskLinkReducer) (linkId : ManagedLinkId) : Decidable (r.Unused linkId) :=
  decidable_of_iff (∀ e ∈ r.byTask.toList, e.2.linkId ≠ linkId)
    ⟨fun h k entry hget => h (k, entry) (ExtTreeMap.mem_toList_iff_getElem?_eq_some.mpr hget),
      fun h e he => h e.1 e.2 (ExtTreeMap.mem_toList_iff_getElem?_eq_some.mp he)⟩

instance (r : TaskLinkReducer) (k : HostTaskKey) (card : BoardCardId) :
    Decidable (r.HeldByNoOther k card) :=
  decidable_of_iff (∀ e ∈ r.byTask.toList, e.2.enrollmentState = .enrolled → e.1 ≠ k →
      e.2.boardCardId.value ≠ card.value)
    ⟨fun h k' entry he => h (k', entry) (ExtTreeMap.mem_toList_iff_getElem?_eq_some.mpr he.1) he.2,
      fun h e he henrol => h e.1 e.2 ⟨ExtTreeMap.mem_toList_iff_getElem?_eq_some.mp he, henrol⟩⟩

/-- The call takes no card from a link that holds it: a link that is closed is not enrolled; the
card of a link that is unlinked, or that gets a newer snapshot, is held by no other; a link
that is made has an identifier of its own and a place among those that are restored. -/
def TakesNoCard (r : TaskLinkReducer) : LinkCall → Prop
  | .link membership localTaskId boardCardId _ _ _ linkId =>
    r.Linkable membership localTaskId boardCardId →
      r.Unused linkId ∧ r.byTask.size < maxManagedLinks
  | .unlink hostId localTaskId _ =>
    ∀ existing, r.get hostId localTaskId = some existing →
      r.HeldByNoOther ⟨hostId, localTaskId⟩ existing.boardCardId
  | .close hostId localTaskId =>
    ∀ existing, r.get hostId localTaskId = some existing → existing.enrollmentState ≠ .enrolled
  | .recordTitleConflict _ _ _ _ _ _ => True
  | .applyPortalSnapshot membership snapshot =>
    (r.Creates membership snapshot → r.Unused snapshot.linkId) ∧
      ∀ existing, r.Advances membership snapshot existing →
        r.HeldByNoOther ⟨snapshot.hostId, snapshot.localTaskId⟩ existing.boardCardId

/-- The indexes agree, and the stored links are as many as `restore` takes. -/
structure Sound (r : TaskLinkReducer) : Prop where
  indexed : r.Indexed
  bounded : r.byTask.size ≤ maxManagedLinks

variable {membership : HostMembership} {localTaskId : TaskId}

theorem Sound.link (h : r.Sound)
    {boardCardId linkedBy linkedAt policyRevision linkId made}
    (hclean : r.Linkable membership localTaskId boardCardId →
      r.Unused linkId ∧ r.byTask.size < maxManagedLinks)
    (hok : r.link membership localTaskId boardCardId linkedBy linkedAt policyRevision linkId =
      .ok (made, r')) : r'.Sound := by
  obtain ⟨hlinkable, rfl, rfl⟩ := link_eq_ok.mp hok
  obtain ⟨hunused, hroom⟩ := hclean hlinkable
  obtain ⟨-, -, hfst, hfree⟩ := hlinkable
  refine ⟨?_, ?_⟩
  · exact h.indexed.add rfl one_ne_zero hfst hunused fun _ => hfree
  · have hnew : (madeLink membership localTaskId boardCardId linkedBy linkedAt policyRevision
        linkId).key ∉ r.byTask := not_mem_iff.mpr hfst
    show (r.byTask.insert _ _).size ≤ _
    rw [size_insert_new hnew]
    exact hroom

theorem Sound.unlink (h : r.Sound) {hostId} {nowMs}
    {unlinked} (hclean : ∀ existing, r.get hostId localTaskId = some existing →
      r.HeldByNoOther ⟨hostId, localTaskId⟩ existing.boardCardId)
    (hok : r.unlink hostId localTaskId nowMs = .ok (unlinked, r')) : r'.Sound := by
  simp only [TaskLinkReducer.unlink, ok_iff] at hok
  obtain ⟨existing, hold, rfl, rfl⟩ := hok
  have hpos := h.indexed.positive _ existing hold
  refine ⟨?_, ?_⟩
  · exact h.indexed.replace { existing with
      enrollmentState := .unlinked, unlinkedAt := some nowMs } hold rfl rfl rfl hpos
      (hclean existing hold)
  · show (r.byTask.insert _ _).size ≤ _
    rw [size_insert_old hold]
    exact h.bounded

theorem Sound.close (h : r.Sound) {hostId closed}
    (hclean : ∀ existing, r.get hostId localTaskId = some existing →
      existing.enrollmentState ≠ .enrolled)
    (hok : r.close hostId localTaskId = .ok (closed, r')) : r'.Sound := by
  simp only [TaskLinkReducer.close, ok_iff] at hok
  obtain ⟨existing, hold, rfl, rfl⟩ := hok
  refine ⟨?_, ?_⟩
  · exact h.indexed.retouch _ hold rfl rfl rfl (h.indexed.positive _ existing hold)
      ⟨by rintro ⟨⟩, fun henrol => absurd henrol (hclean existing hold)⟩
  · show (r.byTask.insert _ _).size ≤ _
    rw [size_insert_old hold]
    exact h.bounded

theorem Sound.recordTitleConflict (h : r.Sound) (hostId) (localTaskId : TaskId)
    (localTitle portalTitle : String) (localRevision portalRevision : ℕ) :
    (r.recordTitleConflict hostId localTaskId localTitle portalTitle localRevision
      portalRevision).2.Sound := by
  have hret : ∀ existing conflict,
      r.get hostId localTaskId = some existing →
        Sound ⟨r.byTask.insert ⟨hostId, localTaskId⟩ { existing with titleConflict := conflict },
          r.byCard⟩ := by
    intro existing conflict hold
    refine ⟨?_, ?_⟩
    · exact h.indexed.retouch _ hold rfl rfl rfl (h.indexed.positive _ existing hold) Iff.rfl
    · show (r.byTask.insert _ _).size ≤ _
      rw [size_insert_old hold]
      exact h.bounded
  unfold TaskLinkReducer.recordTitleConflict
  cases hold : r.get hostId localTaskId with
  | none => exact h
  | some existing =>
    simp only
    split_ifs
    · exact hret existing none hold
    · exact h
    · exact hret existing _ hold

theorem Sound.applyPortalSnapshot [Externals] [UuidExternals] (h : r.Sound)
     {snapshot outcome}
    (hmakes : r.Creates membership snapshot → r.Unused snapshot.linkId)
    (hadv : ∀ existing, r.Advances membership snapshot existing →
      r.HeldByNoOther ⟨snapshot.hostId, snapshot.localTaskId⟩ existing.boardCardId)
    (hok : r.applyPortalSnapshot membership snapshot = .ok (outcome, r')) : r'.Sound := by
  have hpos : validateSnapshotIdentities membership snapshot = .ok () →
      snapshot.portalRevision ≠ 0 := by
    intro hvalid
    simp only [validateSnapshotIdentities, ok_iff, not_or] at hvalid
    exact hvalid.2.2.2.1.1
  rcases applyPortalSnapshot_eq_ok.mp hok with
    ⟨hc, -, rfl⟩ | ⟨existing, ha, -, rfl⟩ | ⟨-, -, rfl, -⟩
  · refine ⟨?_, ?_⟩
    · exact h.indexed.add rfl (hpos hc.valid) hc.first (hmakes hc) fun _ => hc.free
    · have hnew : (linkFromSnapshot snapshot).key ∉ r.byTask := not_mem_iff.mpr hc.first
      show (r.byTask.insert _ _).size ≤ _
      rw [size_insert_new hnew]
      exact hc.room
  · obtain ⟨hlink, hcard, htenant, hhost, htask⟩ := ha.same
    refine ⟨?_, ?_⟩
    · have hreplaced := h.indexed.replace (updated existing (linkFromSnapshot snapshot)) ha.stored
        rfl rfl rfl (hpos ha.valid) (hadv existing ha)
      rw [ite_not]
      exact hreplaced
    · show (r.byTask.insert _ _).size ≤ _
      have hstored : r.byTask[(linkFromSnapshot snapshot).key]? = some existing := ha.stored
      rw [size_insert_old hstored]
      exact h.bounded
  · exact h

theorem Sound.call [Externals] [UuidExternals] (h : r.Sound) (c : LinkCall)
    (hclean : r.TakesNoCard c) : (r.call c).2.Sound := by
  cases c with
  | link => exact keeping_invariant h fun _ _ => h.link hclean
  | unlink => exact keeping_invariant h fun _ _ => h.unlink hclean
  | close => exact keeping_invariant h fun _ _ => h.close hclean
  | recordTitleConflict => exact h.recordTitleConflict ..
  | applyPortalSnapshot =>
    exact keeping_invariant h fun _ _ => h.applyPortalSnapshot hclean.1 hclean.2

/-- Managed links are one-to-one: the cards held are exactly those of the enrolled links, no two
enrolled links share a card, a card without an enrolled link can be linked, and the stored
links restore the reducer. -/
structure LinksOneToOne (r : TaskLinkReducer) : Prop where
  exact : ∀ card linkId, r.byCard[card]? = some linkId ↔
    ∃ k entry, r.Enrolled k entry ∧ entry.boardCardId.value = card ∧ entry.linkId = linkId
  unshared : ∀ k k' entry entry', r.Enrolled k entry →
    r.Enrolled k' entry' → entry.boardCardId = entry'.boardCardId → k = k'
  relinked : ∀ membership localTaskId boardCardId
    linkedBy linkedAt policyRevision linkId,
    membership.isEnrolled = true → membership.role.isDisabled = false →
    r.get membership.hostId localTaskId = none →
    (∀ k entry, r.Enrolled k entry → entry.boardCardId ≠ boardCardId) →
    ∃ made, r.link membership localTaskId boardCardId linkedBy linkedAt policyRevision linkId =
      .ok made
  restored : restore r.links = .ok r

theorem Sound.linksOneToOne (h : r.Sound) : r.LinksOneToOne := by
  refine ⟨h.indexed.cards, ?_, ?_, h.indexed.restore_links h.bounded⟩
  · intro k k' entry entry' he he' hcard
    exact h.indexed.unshared he he' (congrArg ExternalId.value hcard)
  · intro membership localTaskId boardCardId linkedBy linkedAt policyRevision linkId henrol hrole
      hfst hfree
    have hcard : r.byCard[boardCardId.value]? = none := by
      refine h.indexed.card_none.mpr fun k entry he hval => hfree k entry he ?_
      exact ExternalId.ext_value hval
    exact ⟨_, link_eq_ok.mpr ⟨⟨henrol, hrole, hfst, hcard⟩, rfl, rfl⟩⟩

/-- Where a run starts: `new`, or what `restore` made of any stored links. -/
def Start (r : TaskLinkReducer) : Prop := r = new ∨ ∃ l, restore l = .ok r

theorem Start.sound (h : r.Start) : r.Sound := by
  rcases h with rfl | ⟨l, hl⟩
  · exact ⟨indexed_new, by decide⟩
  · exact ⟨(restore_indexed hl).1, (restore_indexed hl).2⟩

/-- In every run whose calls take no card from a link that holds it, managed links are one-to-one
after every call. -/
theorem links_one_to_one [Externals] [UuidExternals] (r₀ : TaskLinkReducer) (calls : List LinkCall)
    (hstart : r₀.Start) (hclean : Calls.Along call TakesNoCard r₀ calls) :
    (after call r₀ calls).LinksOneToOne :=
  (along_invariant (fun _ c hr hc => hr.call c hc) calls hstart.sound hclean).linksOneToOne

/-! ## A card that two links hold -/

@[reducible] def sampleUuid : UuidExternals where
  bytes n := Vector.replicate 16 (UInt8.ofNat n)
  text n := String.ofList (List.replicate (n + 1) 'a')
  parse s := some (s.length - 1)
  canonical_text n := by
    have hletter : isWhitespace 'a' = false := by decide
    have htrim : trimChars (List.replicate (n + 1) 'a') = List.replicate (n + 1) 'a' := by
      simp [trimChars, List.rdropWhile, hletter]
    simp [Canonical.isCanonical, trim, htrim]
  parse_text n := by simp

def sampleTenant : PortalTenantId := ⟨"tenant", by decide +kernel⟩

def sampleAccount : PortalAccountId := ⟨"account", by decide +kernel⟩

def sampleCard : BoardCardId := ⟨"card", by decide +kernel⟩

def sampleMembership : HostMembership where
  hostId := ⟨1⟩
  tenantId := sampleTenant
  accountId := sampleAccount
  deviceId := none
  role := .owner
  status := .enrolled
  enrolledAtMs := some 1
  lastSeenAtMs := some 1
  revokedAtMs := none
  displayLabel := "host"
  policyRevision := 1
  policyHashHex := ""

def sampleLink (task link : ℕ) : LinkCall := .link sampleMembership ⟨task⟩ sampleCard "owner" 1
    1 ⟨link⟩

def sampleHandover : List LinkCall := [sampleLink 1 1, .unlink ⟨1⟩ ⟨1⟩ 2, sampleLink 2 2]

theorem sampleHandover_one_to_one :
    (after (@call sampleExternals sampleUuid) new sampleHandover).LinksOneToOne := by
  refine @links_one_to_one sampleExternals sampleUuid new sampleHandover (.inl rfl) ?_
  have hheld : ∀ existing ∈ ((@call sampleExternals sampleUuid new (sampleLink 1 1)).2.get ⟨1⟩ ⟨1⟩),
      (@call sampleExternals sampleUuid new (sampleLink 1 1)).2.HeldByNoOther ⟨⟨1⟩, ⟨1⟩⟩
        existing.boardCardId := by
    decide +kernel
  exact ⟨fun _ => by decide +kernel, hheld, fun _ => by decide +kernel, trivial⟩

/-- The first task is unlinked again: that releases the card of the second, and a third takes it. -/
theorem repeated_unlink_shares_card :
    ∃ calls, ¬ (after (@call sampleExternals sampleUuid) new calls).LinksOneToOne := by
  refine ⟨sampleHandover ++ [.unlink ⟨1⟩ ⟨1⟩ 3, sampleLink 3 3], fun h => ?_⟩
  have hshared : ∃ entry ∈ (after (@call sampleExternals sampleUuid) new
      (sampleHandover ++ [.unlink ⟨1⟩ ⟨1⟩ 3, sampleLink 3 3])).get ⟨1⟩ ⟨2⟩,
      ∃ entry' ∈ (after (@call sampleExternals sampleUuid) new
        (sampleHandover ++ [.unlink ⟨1⟩ ⟨1⟩ 3, sampleLink 3 3])).get ⟨1⟩ ⟨3⟩,
        entry.enrollmentState = .enrolled ∧ entry'.enrollmentState = .enrolled ∧
          entry.boardCardId = entry'.boardCardId := by
    decide +kernel
  obtain ⟨entry, he, entry', he', henrol, henrol', hcard⟩ := hshared
  have hsame := h.unshared _ _ entry entry' ⟨he, henrol⟩ ⟨he', henrol'⟩ hcard
  exact absurd hsame (by decide)

end TaskLinkReducer

end DevManager.Org
