import Mathlib.Data.List.InsertIdx
import Mathlib.Data.List.Nodup
import Mathlib.Data.List.Perm.Basic

/-!
# Lists whose elements have keys

An element is named by its key, and no two elements of a list have one key: a key is
looked up, its element is taken out, and another is put beside it.

* `find?_key_eq_some`, `find?_key_perm`: what a key names, whatever the order.
* `eraseP_key`: taking the element of a key out leaves those of the other keys.
* `eraseDups_filter`: a list of keys, each taken once.
* `Recent`: a list of keys by their latest use.
* `PlacedBeside`: an element put right before or right after the one of a key.
-/

namespace DevManager

open List

variable {α κ : Type} [DecidableEq κ] {key : α → κ} {k : κ} {a x : α} {l l' m : List α}

/-! ## Looking up -/

variable (h : (l.map key).Nodup)

include h

theorem find?_key_eq_some :
    l.find? (fun a => key a = k) = some a ↔ a ∈ l ∧ key a = k := by
  constructor
  · intro hfind
    exact ⟨mem_of_find?_eq_some hfind, by simpa using find?_some hfind⟩
  · rintro ⟨hmem, hkey⟩
    cases hfind : l.find? fun a => key a = k with
    | none => exact absurd (decide_eq_true hkey) (find?_eq_none.mp hfind a hmem)
    | some b =>
      have hb : key b = k := by simpa using find?_some hfind
      have hsame : key b = key a := hb.trans hkey.symm
      rw [inj_on_of_nodup_map h (mem_of_find?_eq_some hfind) hmem hsame]

/-- The order of a list says nothing about what its keys name. -/
theorem find?_key_perm (hperm : l'.Perm l) :
    l'.find? (fun a => key a = k) = l.find? fun a => key a = k := by
  have h' : (l'.map key).Nodup := (hperm.map key).nodup_iff.mpr h
  ext a
  rw [find?_key_eq_some h', find?_key_eq_some h, hperm.mem_iff]

/-! ## Taking one out -/

theorem eraseP_key :
    l.eraseP (fun a => key a = k) = l.filter fun a => key a ≠ k := by
  induction l with
  | nil => rfl
  | cons a l ih =>
    rw [map_cons, nodup_cons] at h
    by_cases ha : key a = k
    · have hrest : ∀ b ∈ l, key b ≠ k := by
        intro b hb hkey
        exact h.1 (mem_map.mpr ⟨b, hb, hkey.trans ha.symm⟩)
      rw [eraseP_cons_of_pos (by simpa using ha), filter_cons_of_neg (by simpa using ha)]
      exact (filter_eq_self.mpr fun b hb => by simpa using hrest b hb).symm
    · rw [eraseP_cons_of_neg (by simpa using ha), filter_cons_of_pos (by simpa using ha), ih h.2]

/-- The element of a key and those of the other keys are all there is. -/
theorem perm_cons_filter (hfind : l.find? (fun a => key a = k) = some a) :
    l.Perm (a :: l.filter fun b => key b ≠ k) := by
  rw [← eraseP_key h]
  obtain ⟨ha, before, rest, rfl, hpre⟩ := find?_eq_some_iff_append.mp hfind
  have hnot : ∀ b ∈ before, ¬ decide (key b = k) = true := by simpa using hpre
  rw [eraseP_append_right _ hnot, eraseP_cons_of_pos (p := fun b => key b = k) ha]
  exact perm_middle

omit h

/-- A list without the element of a key knows the others as before. -/
theorem find?_filter_key (k' : κ) : (l.filter fun a => key a ≠ k).find? (fun a => key a = k') =
      if k' = k then none else l.find? fun a => key a = k' := by
  rw [find?_filter]
  split_ifs with hk
  · subst hk
    simp
  · congr 1
    funext a
    by_cases ha : key a = k'
    · simp [ha, hk]
    · simp [ha]

/-- A list of keys, each once and in the order of its first place, with some left out. -/
theorem eraseDups_filter (p : κ → Bool) (ks : List κ) :
    (ks.filter p).eraseDups = ks.eraseDups.filter p := by
  induction hlen : ks.length using Nat.strongRecOn generalizing ks with
  | ind n ih =>
    cases ks with
    | nil => rfl
    | cons k ks =>
      have hlt : (ks.filter fun b => !b == k).length < n := by
        have := length_filter_le (fun b => !b == k) ks
        simp only [length_cons] at hlen
        omega
      have hrest := ih _ hlt (ks.filter fun b => !b == k) rfl
      rw [eraseDups_cons]
      cases hk : p k with
      | true =>
        rw [filter_cons_of_pos hk, filter_cons_of_pos hk, eraseDups_cons, ← hrest, filter_comm]
      | false =>
        have hsame : (ks.filter fun b => !b == k).filter p = ks.filter p := by
          rw [filter_filter]
          congr 1
          funext b
          by_cases hb : b = k
          · subst hb
            simp [hk]
          · simp [hb]
        rw [filter_cons_of_neg (by simp [hk]), filter_cons_of_neg (by simp [hk]), ← hrest, hsame]

/-- In the list with each key once, keys are ordered by their first places. -/
theorem pairwise_eraseDups (ks : List κ) :
    ks.eraseDups.Pairwise fun a b => ks.idxOf a < ks.idxOf b := by
  induction ks with
  | nil => exact .nil
  | cons k ks ih =>
    rw [eraseDups_cons, eraseDups_filter, pairwise_cons]
    refine ⟨fun b hb => ?_, (ih.filter _).imp_of_mem fun {a b} ha hb hab => ?_⟩
    · have hne : k ≠ b := by
        rintro rfl
        simpa using (mem_filter.mp hb).2
      rw [idxOf_cons_self, idxOf_cons_ne _ hne]
      exact Nat.succ_pos _
    · have hother : ∀ c ∈ ks.eraseDups.filter (fun b => !b == k), k ≠ c := by
        rintro c hc rfl
        simpa using (mem_filter.mp hc).2
      rw [idxOf_cons_ne _ (hother a ha), idxOf_cons_ne _ (hother b hb)]
      exact Nat.succ_lt_succ hab

/-! ## Keys by their latest use -/

/-- The keys are the ones used last, the latest first: `uses` is what was used, the latest first. -/
def Recent (uses keys : List κ) : Prop := keys <+: uses.eraseDups

theorem recent_nil : Recent ([] : List κ) [] := prefix_rfl

/-- A key that is used goes to the front. -/
theorem Recent.use {uses keys} (h : Recent uses keys) (k : κ) :
    Recent (k :: uses) (k :: keys.filter (· ≠ k)) := by
  have hrest : keys.filter (· ≠ k) <+: uses.eraseDups.filter fun b => !b == k := by
    have hfilter := h.filter fun b => !b == k
    rwa [show keys.filter (· ≠ k) = keys.filter fun b => !b == k from
      filter_congr fun b _ => by by_cases hb : b = k <;> simp [hb]]
  unfold Recent
  rw [eraseDups_cons, eraseDups_filter]
  exact prefix_cons_inj k |>.mpr hrest

/-- Keys dropped from the back were used before the others. -/
theorem Recent.dropped {uses kept dropped : List κ} (h : Recent uses (kept ++ dropped)) :
    Recent uses kept ∧ ∀ a ∈ kept, ∀ b ∈ dropped, uses.idxOf a < uses.idxOf b := by
  refine ⟨(prefix_append _ _).trans h, ?_⟩
  exact (pairwise_append.mp ((pairwise_eraseDups uses).sublist h.sublist)).2.2

/-! ## Putting one beside another -/

/-- `l'` is `l` with `x` right before or right after an element of key `k`. -/
def PlacedBeside (key : α → κ) (k : κ) (after : Bool) (x : α) (l l' : List α) : Prop :=
  ∃ before a rest, key a = k ∧ l = before ++ a :: rest ∧
    l' = before ++ (if after then [a, x] else [x, a]) ++ rest

theorem insertIdx_append_cons (after : Bool) (before : List α) (a x : α) (rest : List α) :
    (before ++ a :: rest).insertIdx (if after then before.length + 1 else before.length) x =
      before ++ (if after then [a, x] else [x, a]) ++ rest := by
  induction before with
  | nil => cases after <;> rfl
  | cons b before ih =>
    have hidx : (if after then (b :: before).length + 1 else (b :: before).length) =
        (if after then before.length + 1 else before.length) + 1 := by
      cases after <;> rfl
    rw [hidx, cons_append, insertIdx_succ_cons, ih]
    rfl

namespace PlacedBeside

variable {after : Bool}

omit [DecidableEq κ] in
theorem append_left (m : List α) (h : PlacedBeside key k after x l l') :
    PlacedBeside key k after x (m ++ l) (m ++ l') := by
  obtain ⟨before, a, rest, ha, rfl, rfl⟩ := h
  refine ⟨m ++ before, a, rest, ha, ?_, ?_⟩
  · rw [append_assoc]
  · simp only [append_assoc]

omit [DecidableEq κ] in
theorem append_right (m : List α) (h : PlacedBeside key k after x l l') :
    PlacedBeside key k after x (l ++ m) (l' ++ m) := by
  obtain ⟨before, a, rest, ha, rfl, rfl⟩ := h
  refine ⟨before, a, rest ++ m, ha, ?_, ?_⟩
  · rw [append_assoc, cons_append]
  · simp only [append_assoc]

omit [DecidableEq κ] in
theorem perm (h : PlacedBeside key k after x l l') : l'.Perm (x :: l) := by
  obtain ⟨before, a, rest, -, rfl, rfl⟩ := h
  rw [append_assoc]
  cases after with
  | true => exact ((List.Perm.swap x a rest).append_left before).trans perm_middle
  | false => exact perm_middle

/-- The others keep their order. -/
theorem filter_ne (h : PlacedBeside key k after x l l') :
    l'.filter (fun a => key a ≠ key x) = l.filter fun a => key a ≠ key x := by
  obtain ⟨before, a, rest, -, rfl, rfl⟩ := h
  cases after <;> simp [filter_append, filter_cons]

end PlacedBeside

end DevManager
