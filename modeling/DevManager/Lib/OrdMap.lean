import Mathlib.Data.List.Nodup
import Mathlib.Data.List.Perm.Basic
import Mathlib.Tactic

/-!
# Ordered maps

Rust's `BTreeMap` and `BTreeSet` are `Std.ExtTreeMap` and `Std.ExtTreeSet`:
finite maps iterated in key order. This module adds what the source does with
`values()` and the standard library has no lemma for:

* `valuesAny`, `valuesAll`: `m.values().any(p)` and `m.values().all(p)`.
* `forall_insert`: what every entry has, after an insertion.
* `size_insert_bounded`, `getElem?_foldl_erase`: bounded collections, and the
  removal of a list of keys.
* `size_le_of_mem`, `mem_of_size_le`: the keys of one map among those of another.
* `insertAll_toList`: a map is what its entries build.
* `rangeAfter`: `m.range((Excluded(k), Unbounded))`.
* `PairKey`: tuples as keys.
* `countValues`: `m.values().filter(p).count()`, with its behaviour under
  `insert` (`countValues_insert`, `countValues_insert_new`).
-/

namespace DevManager.OrdMap

open Std List Std.ExtTreeMap

variable {K V : Type} [Ord K] [TransOrd K] (m : ExtTreeMap K V)

/-- `m.values().any(p)`. -/
def valuesAny (p : V → Bool) : Bool := m.toList.any fun e => p e.2

/-- `m.values().all(p)`. -/
def valuesAll (p : V → Bool) : Bool := m.toList.all fun e => p e.2

/-- `m.values().filter(p).count()`. -/
def countValues (p : V → Bool) : ℕ := m.toList.countP fun e => p e.2

theorem countValues_eq_size {m : ExtTreeMap K V} {p : V → Bool} (h : ∀ e ∈ m.toList, p e.2) :
    countValues m p = m.size := by
  rw [← length_toList]
  exact countP_eq_length.mpr h

variable {k : K}

theorem mem_iff_exists {m : ExtTreeMap K V} : k ∈ m ↔ ∃ v, m[k]? = some v := by
  rw [← isSome_getElem?_iff_mem, Option.isSome_iff_exists]

theorem not_mem_iff {m : ExtTreeMap K V} : k ∉ m ↔ m[k]? = none := by
  rw [mem_iff_exists]
  cases m[k]? <;> simp

variable [LawfulEqOrd K]

/-! ## Iterating over the values -/

variable {m : ExtTreeMap K V}

@[simp] theorem valuesAny_eq_true {p : V → Bool} :
    valuesAny m p = true ↔ ∃ (k : K) (v : V), m[k]? = some v ∧ p v = true := by
  unfold valuesAny
  rw [any_eq_true]
  constructor
  · rintro ⟨⟨k, v⟩, hmem, hp⟩
    exact ⟨k, v, mem_toList_iff_getElem?_eq_some.mp hmem, hp⟩
  · rintro ⟨k, v, hget, hp⟩
    exact ⟨(k, v), mem_toList_iff_getElem?_eq_some.mpr hget, hp⟩

@[simp] theorem valuesAny_eq_false {p : V → Bool} :
    valuesAny m p = false ↔ ∀ (k : K) v, m[k]? = some v → p v = false := by
  rw [← Bool.not_eq_true, valuesAny_eq_true]
  push Not
  simp only [ne_eq, Bool.not_eq_true]

@[simp] theorem valuesAll_eq_true {p : V → Bool} :
    valuesAll m p = true ↔ ∀ (k : K) v, m[k]? = some v → p v = true := by
  unfold valuesAll
  rw [all_eq_true]
  constructor
  · intro h k v hget
    exact h (k, v) (mem_toList_iff_getElem?_eq_some.mpr hget)
  · rintro h ⟨k, v⟩ hmem
    exact h k v (mem_toList_iff_getElem?_eq_some.mp hmem)

theorem mem_map_fst_filter {m : ExtTreeMap K V} {p : K × V → Bool} :
    k ∈ (m.toList.filter p).map Prod.fst ↔ ∃ v, m[k]? = some v ∧ p (k, v) = true := by
  simp only [mem_map, mem_filter, Prod.exists, mem_toList_iff_getElem?_eq_some,
    exists_and_right, exists_eq_right]

theorem nodup_toList (m : ExtTreeMap K V) : m.toList.Nodup := by
  refine List.Pairwise.imp (fun {a b} h => ?_) (distinct_keys_toList (t := m))
  rintro rfl
  exact h (by simp)

/-! ## The keys of one map among those of another -/

/-- A map whose keys are all keys of a map that is no larger has the same keys. -/
theorem mem_of_size_le {W : Type} {m : ExtTreeMap K V} {n : ExtTreeMap K W}
    (hsub : ∀ k, k ∈ m → k ∈ n) (hsize : n.size ≤ m.size) (hk : k ∈ n) : k ∈ m := by
  have hkeys : m.keys ⊆ n.keys := fun a ha =>
    mem_keys.mpr (hsub a (mem_keys.mp ha))
  have hsubperm : m.keys.Subperm n.keys := nodup_keys.subperm hkeys
  have hperm : m.keys.Perm n.keys := by
    refine hsubperm.perm_of_length_le ?_
    rw [length_keys, length_keys]
    exact hsize
  exact mem_keys.mp (hperm.mem_iff.mpr (mem_keys.mpr hk))

theorem size_le_of_mem {W : Type} {m : ExtTreeMap K V} {n : ExtTreeMap K W}
    (hsub : ∀ k, k ∈ m → k ∈ n) : m.size ≤ n.size := by
  have hkeys : m.keys ⊆ n.keys := fun a ha =>
    mem_keys.mpr (hsub a (mem_keys.mp ha))
  have hlen := (nodup_keys.subperm hkeys).length_le
  rw [length_keys, length_keys] at hlen
  exact hlen

/-! ## Lookup -/

variable [DecidableEq K] (m : ExtTreeMap K V)

@[simp] theorem getElem?_insert_eq (k a : K) (v : V) :
    (m.insert k v)[a]? = if k = a then some v else m[a]? := by
  rw [ExtTreeMap.getElem?_insert]
  simp only [LawfulEqCmp.compare_eq_iff_eq]

@[simp] theorem getElem?_erase_eq (k a : K) :
    (m.erase k)[a]? = if k = a then none else m[a]? := by
  rw [getElem?_erase]
  simp only [LawfulEqCmp.compare_eq_iff_eq]

@[simp] theorem getElem?_modify_eq (k a : K) (f : V → V) :
    (m.modify k f)[a]? = if k = a then m[a]?.map f else m[a]? := by
  rw [ExtTreeMap.getElem?_modify]
  simp only [LawfulEqCmp.compare_eq_iff_eq]
  split_ifs with h
  · rw [h]
  · rfl

variable {v : V}

/-- To insert what is there changes nothing. -/
theorem insert_self {m : ExtTreeMap K V} (h : m[k]? = some v) : m.insert k v = m := by
  refine ext_getElem? fun a => ?_
  rw [getElem?_insert_eq]
  split_ifs with ha
  · rw [← ha, h]
  · rfl

/-- The second of two insertions at one key is the one that counts. -/
theorem insert_insert (m : ExtTreeMap K V) (k : K) (v w : V) :
    (m.insert k v).insert k w = m.insert k w := by
  refine ext_getElem? fun a => ?_
  simp only [getElem?_insert_eq]
  split_ifs <;> rfl

/-- An entry after an insertion is the new one, or an old one at another key. -/
theorem of_insert {m : ExtTreeMap K V} {a : K} {w : V} (h : (m.insert k v)[a]? = some w) :
    k = a ∧ v = w ∨ ¬ k = a ∧ m[a]? = some w := by
  rw [getElem?_insert_eq] at h
  split_ifs at h with hk
  · exact .inl ⟨hk, Option.some.inj h⟩
  · exact .inr ⟨hk, h⟩

/-- What the new entry has and every old entry had, every entry has after an insertion. -/
theorem forall_insert {P : K → V → Prop} {m : ExtTreeMap K V} (hnew : P k v)
    (hold : ∀ a w, m[a]? = some w → P a w) : ∀ a w, (m.insert k v)[a]? = some w → P a w := by
  intro a w h
  rcases of_insert h with ⟨rfl, rfl⟩ | ⟨-, h⟩
  · exact hnew
  · exact hold a w h

variable {a : K}

/-- Which keys have an entry with `P` after an insertion. -/
theorem exists_insert_iff {P : V → Prop} {m : ExtTreeMap K V} :
    (∃ w, (m.insert k v)[a]? = some w ∧ P w) ↔ a = k ∧ P v ∨ a ≠ k ∧ ∃ w, m[a]? = some w ∧ P w := by
  rw [getElem?_insert_eq]
  by_cases h : k = a
  · subst h
    simp
  · have h' : a ≠ k := fun e => h e.symm
    simp [h, h']

/-- Overwriting an entry by one that has `P` iff the old one had it changes no such key. -/
theorem exists_insert_congr {P : V → Prop} {m : ExtTreeMap K V} {v' : V}
    (h : m[k]? = some v) (hP : P v' ↔ P v) :
    (∃ w, (m.insert k v')[a]? = some w ∧ P w) ↔ ∃ w, m[a]? = some w ∧ P w := by
  rw [exists_insert_iff, hP]
  by_cases ha : a = k
  · subst ha
    simp [h]
  · simp [ha]

/-- After an insertion every old entry is still there, up to a reflexive relation that the new
entry has to the one it replaces. -/
theorem exists_insert_related {R : V → V → Prop} (hrefl : ∀ v, R v v) {m : ExtTreeMap K V} {w : V}
    (h : m[a]? = some v) (hR : k = a → R v w) :
    ∃ v', (m.insert k w)[a]? = some v' ∧ R v v' := by
  rw [getElem?_insert_eq]
  split_ifs with hk
  · exact ⟨w, rfl, hR hk⟩
  · exact ⟨v, h, hrefl v⟩

variable {m : ExtTreeMap K V}

omit [DecidableEq K] in
theorem mem_insert_iff : a ∈ m.insert k v ↔ a = k ∨ a ∈ m := by
  rw [mem_insert, LawfulEqCmp.compare_eq_iff_eq, eq_comm]

omit [DecidableEq K] in
theorem mem_insertSet_iff {m : ExtTreeSet K} : a ∈ m.insert k ↔ a = k ∨ a ∈ m := by
  rw [ExtTreeSet.mem_insert, LawfulEqCmp.compare_eq_iff_eq, eq_comm]

omit [DecidableEq K] in
theorem mem_eraseSet_iff {m : ExtTreeSet K} : a ∈ m.erase k ↔ a ≠ k ∧ a ∈ m := by
  rw [ExtTreeSet.mem_erase, ne_eq, LawfulEqCmp.compare_eq_iff_eq, eq_comm (a := k)]

omit [DecidableEq K] in
theorem mem_erase_iff : a ∈ m.erase k ↔ a ≠ k ∧ a ∈ m := by
  rw [mem_erase, ne_eq, LawfulEqCmp.compare_eq_iff_eq, eq_comm (a := k)]

/-! ## Bounded maps and sets -/

omit [LawfulEqOrd K] [DecidableEq K] in
/-- A map with room for a new key, or with the key already, stays within its bound. -/
theorem size_insert_bounded {n : ℕ} (hm : m.size ≤ n)
    (h : m.size < n ∨ k ∈ m) : (m.insert k v).size ≤ n := by
  rw [size_insert]
  split_ifs with hk
  · exact hm
  · rcases h with hlt | hk'
    · exact hlt
    · exact absurd (contains_iff_mem.mpr hk') hk

omit [LawfulEqOrd K] [DecidableEq K] in
/-- A set with room for a new element, or with the element already, stays within its bound. -/
theorem size_insertSet_bounded {m : ExtTreeSet K} {n : ℕ} (hm : m.size ≤ n)
    (h : m.size < n ∨ k ∈ m) : (m.insert k).size ≤ n := by
  rw [ExtTreeSet.size_insert]
  split_ifs with hk
  · exact hm
  · rcases h with hlt | hk'
    · exact hlt
    · exact absurd (ExtTreeSet.contains_iff_mem.mpr hk') hk

/-- `for key in keys { m.remove(&key) }`. -/
theorem getElem?_foldl_erase (keys : List K) :
    ∀ (m : ExtTreeMap K V) a,
      (keys.foldl (fun m k => m.erase k) m)[a]? = if a ∈ keys then none else m[a]? := by
  induction keys with
  | nil => intro m a; simp
  | cons k keys ih =>
    intro m a
    rw [foldl_cons, ih, getElem?_erase_eq]
    by_cases hk : k = a
    · simp [hk]
    · simp [hk, Ne.symm hk]

omit [LawfulEqOrd K] [DecidableEq K] in
theorem size_foldl_erase_le (keys : List K) :
    ∀ m : ExtTreeMap K V, (keys.foldl (fun m k => m.erase k) m).size ≤ m.size := by
  induction keys with
  | nil => intro m; exact le_rfl
  | cons k keys ih =>
    intro m
    exact (ih (m.erase k)).trans size_erase_le

omit [LawfulEqOrd K] [DecidableEq K] in
theorem size_insert_new (h : k ∉ m) : (m.insert k v).size = m.size + 1 := by
  rw [size_insert, if_neg]
  exact h

omit [LawfulEqOrd K] [DecidableEq K] in
theorem size_insert_old {w : V} (h : m[k]? = some w) (v : V) :
    (m.insert k v).size = m.size := by
  have hmem : k ∈ m := mem_iff_exists.mpr ⟨w, h⟩
  rw [size_insert, if_pos (mem_iff_contains.mp hmem)]

/-! ## Building a map from its entries -/

variable (m : ExtTreeMap K V)

/-- `for (k, v) in entries { m.insert(k, v) }`. -/
def insertAll (entries : List (K × V)) : ExtTreeMap K V :=
  entries.foldl (fun m e => m.insert e.1 e.2) m

omit [LawfulEqOrd K] [DecidableEq K] in
@[simp] theorem insertAll_nil : insertAll m [] = m := rfl

omit [LawfulEqOrd K] [DecidableEq K] in
@[simp] theorem insertAll_cons (e : K × V) (entries : List (K × V)) :
    insertAll m (e :: entries) = insertAll (m.insert e.1 e.2) entries := rfl

omit [LawfulEqOrd K] [DecidableEq K] in
theorem size_insertAll_le (entries : List (K × V)) :
    ∀ m, (insertAll m entries).size ≤ m.size + entries.length := by
  induction entries with
  | nil => exact fun m => le_rfl
  | cons e entries ih =>
    intro m
    have hrest := ih (m.insert e.1 e.2)
    have hfst := size_insert_le (t := m) (k := e.1) (v := e.2)
    rw [insertAll_cons, length_cons]
    omega

theorem getElem?_insertAll_not_mem {entries : List (K × V)}
    (h : ∀ v, (k, v) ∉ entries) : ∀ m, (insertAll m entries)[k]? = m[k]? := by
  induction entries with
  | nil => exact fun _ => rfl
  | cons e entries ih =>
    intro m
    have hne : e.1 ≠ k := by
      rintro rfl
      exact h e.2 (.head _)
    rw [insertAll_cons, ih (fun v hv => h v (mem_cons_of_mem e hv)), getElem?_insert_eq, if_neg hne]

theorem getElem?_insertAll_mem {entries : List (K × V)}
    (hdist : entries.Pairwise fun a b => a.1 ≠ b.1) (h : (k, v) ∈ entries) :
    ∀ m, (insertAll m entries)[k]? = some v := by
  induction entries with
  | nil => cases h
  | cons e entries ih =>
    intro m
    obtain ⟨hfst, hrest⟩ := pairwise_cons.mp hdist
    rw [insertAll_cons]
    rcases mem_cons.mp h with rfl | h
    · have hnot : ∀ w, (k, w) ∉ entries := fun w hw => hfst (k, w) hw rfl
      rw [getElem?_insertAll_not_mem hnot, getElem?_insert_eq, if_pos rfl]
    · exact ih hrest h _

omit [DecidableEq K] in
theorem distinct_toList : m.toList.Pairwise fun a b => a.1 ≠ b.1 := by
  refine List.Pairwise.imp (fun {a b} h heq => ?_) (distinct_keys_toList (t := m))
  exact h (by rw [heq]; exact ReflCmp.compare_self)

/-- A map is what its entries build. -/
theorem insertAll_toList : insertAll ∅ m.toList = m := by
  refine ext_getElem? fun k => ?_
  cases hk : m[k]? with
  | none =>
    have hnot : ∀ v, (k, v) ∉ m.toList := by
      intro v hv
      rw [mem_toList_iff_getElem?_eq_some, hk] at hv
      cases hv
    rw [getElem?_insertAll_not_mem hnot]
    exact getElem?_empty
  | some =>
    exact getElem?_insertAll_mem (distinct_toList m)
      (mem_toList_iff_getElem?_eq_some.mpr hk) ∅

/-! ## Counting -/

/-- The entries after an insertion: the new one, and the old ones at other keys. -/
theorem toList_insert_perm (k : K) (v : V) :
    (m.insert k v).toList.Perm ((k, v) :: m.toList.filter fun e => e.1 ≠ k) := by
  refine (perm_ext_iff_of_nodup (nodup_toList _) ?_).mpr ?_
  · refine nodup_cons.mpr ⟨?_, (nodup_toList m).filter _⟩
    simp
  · rintro ⟨a, w⟩
    rw [mem_toList_iff_getElem?_eq_some, getElem?_insert_eq, mem_cons,
      mem_filter, mem_toList_iff_getElem?_eq_some]
    by_cases h : k = a
    · subst h
      simp [eq_comm]
    · have h' : a ≠ k := fun e => h e.symm
      simp [h, h']

/-- Where no entry has a property, a new entry is all that has it. -/
theorem filter_toList_insert {m : ExtTreeMap K V} {p : K × V → Bool}
    (hold : m.toList.filter p = []) (hnew : p (k, v) = true) :
    (m.insert k v).toList.filter p = [(k, v)] := by
  have hperm := (toList_insert_perm m k v).filter p
  have hrest : (m.toList.filter fun e => e.1 ≠ k).filter p = [] := by
    rw [filter_eq_nil_iff] at hold ⊢
    exact fun e he => hold e (mem_filter.mp he).1
  rw [filter_cons_of_pos hnew, hrest] at hperm
  exact perm_singleton.mp hperm

/-- A map splits into the entry at `k`, if there is one, and the entries at other keys. -/
theorem toList_perm_split (k : K) :
    m.toList.Perm ((m[k]?.map fun v => (k, v)).toList ++ m.toList.filter fun e => e.1 ≠ k) := by
  refine (perm_ext_iff_of_nodup (nodup_toList _) ?_).mpr ?_
  · refine List.Nodup.append (by cases m[k]? <;> simp) ((nodup_toList m).filter _) ?_
    rintro ⟨a, w⟩ h1 h2
    cases hk : m[k]? <;> simp_all
  · rintro ⟨a, w⟩
    rw [mem_append, mem_filter, mem_toList_iff_getElem?_eq_some]
    by_cases h : a = k
    · subst h
      cases hk : m[a]? <;> simp [eq_comm]
    · cases hk : m[k]? <;> simp [h]

section Count

variable (p : V → Bool)

/-- Inserting `v` at `k` exchanges the contribution of the old entry at `k` for that of `v`. -/
theorem countValues_insert (m) (k : K) (v : V) :
    countValues (m.insert k v) p + (if m[k]?.any p then 1 else 0) =
      countValues m p + (if p v then 1 else 0) := by
  unfold countValues
  rw [(toList_insert_perm m k v).countP_eq, (toList_perm_split m k).countP_eq, countP_append,
    countP_cons]
  cases m[k]? with
  | none => simp
  | some w =>
    simp only [Option.map_some, Option.toList_some, Option.any_some, countP_cons, countP_nil]
    omega

theorem countValues_insert_new {m} {k : K} (h : m[k]? = none) (v : V) :
    countValues (m.insert k v) p = countValues m p + (if p v then 1 else 0) := by
  have := countValues_insert p m k v
  rw [h] at this
  simpa using this

end Count

/-! ## What is above a key -/

variable (m : ExtTreeMap K V)

/-- `m.range((start, Unbounded))`, where the start is `Excluded(k)` or `Unbounded`. -/
def rangeAfter : Option K → List (K × V)
  | some k => m.toList.filter fun e => compare k e.1 = .lt
  | none => m.toList

omit [LawfulEqOrd K] [DecidableEq K] in
theorem rangeAfter_sublist (after : Option K) :
    (rangeAfter m after).Sublist m.toList := by
  cases after with
  | none => exact .refl _
  | some => exact filter_sublist

omit [LawfulEqOrd K] [DecidableEq K] in
theorem rangeAfter_pairwise (after : Option K) :
    (rangeAfter m after).Pairwise fun a b => compare a.1 b.1 = .lt :=
  ordered_keys_toList.sublist (rangeAfter_sublist m after)

omit [LawfulEqOrd K] [DecidableEq K] in
/-- Above a key of a range there is what follows it in the range. -/
theorem rangeAfter_of_split {m after before rest}
    {k : K} {v : V} (h : rangeAfter m after = before ++ (k, v) :: rest) :
    rangeAfter m (some k) = rest := by
  have hsorted := rangeAfter_pairwise m after
  rw [h] at hsorted
  obtain ⟨-, hrest, hcross⟩ := pairwise_append.mp hsorted
  have hpre : ∀ e ∈ before, ¬ compare k e.1 = .lt := by
    intro e he hlt
    have hlt' : compare e.1 k = .lt := hcross e he (k, v) (.head _)
    rw [OrientedCmp.gt_of_lt hlt'] at hlt
    cases hlt
  have hpost : ∀ e ∈ rest, compare k e.1 = .lt := (pairwise_cons.mp hrest).1
  have hself : ¬ compare k k = .lt := by simp
  have hsplit : (rangeAfter m after).filter (fun e => compare k e.1 = .lt) = rest := by
    rw [h, filter_append, filter_eq_nil_iff.mpr (by simpa using hpre),
      nil_append, filter_cons_of_neg (by simp),
      filter_eq_self.mpr (by simpa using hpost)]
  rw [← hsplit]
  cases after with
  | none => rfl
  | some a =>
    -- the key is itself above the old bound, so that everything above it is
    have hmem : (k, v) ∈ rangeAfter m (some a) := by
      rw [h]
      exact mem_append_right _ (.head _)
    have hak : compare a k = .lt := by simpa using (mem_filter.mp hmem).2
    show m.toList.filter _ = (m.toList.filter _).filter _
    rw [filter_filter]
    refine filter_congr fun e _ => ?_
    have htrans : compare k e.1 = .lt → compare a e.1 = .lt := TransCmp.lt_trans hak
    simpa using htrans

/-! ## What two lookups find -/

section Related

variable {α : Type} {R : α → α → Prop} {o o' o'' : Option α} {x y : α}

/-- Nothing and nothing, or two entries that `R` relates. -/
def Related (R : α → α → Prop) (o o' : Option α) : Prop :=
  (o = none ∧ o' = none) ∨ ∃ x y, o = some x ∧ o' = some y ∧ R x y

theorem Related.of_left (h : Related R o o') (hx : o = some x) : ∃ y, o' = some y ∧ R x y := by
  rcases h with ⟨hnone, -⟩ | ⟨x', y, hx', hy, hR⟩
  · cases hx.symm.trans hnone
  · cases hx.symm.trans hx'
    exact ⟨y, hy, hR⟩

theorem Related.of_right (h : Related R o o') (hy : o' = some y) : ∃ x, o = some x ∧ R x y := by
  rcases h with ⟨-, hnone⟩ | ⟨x, y', hx, hy', hR⟩
  · cases hy.symm.trans hnone
  · cases hy.symm.trans hy'
    exact ⟨x, hx, hR⟩

theorem Related.trans (h : Related R o o') (h' : Related R o' o'')
    (htrans : ∀ x y z, R x y → R y z → R x z) : Related R o o'' := by
  rcases h with ⟨ho, ho'⟩ | ⟨x, y, hx, hy, hR⟩
  · rcases h' with ⟨-, ho''⟩ | ⟨y, z, hy, -⟩
    · exact .inl ⟨ho, ho''⟩
    · cases ho'.symm.trans hy
  · obtain ⟨z, hz, hR'⟩ := h'.of_left hy
    exact .inr ⟨x, z, hx, hz, htrans x y z hR hR'⟩

end Related

end DevManager.OrdMap

namespace DevManager

open Std

/-! ## Pairs as keys -/

/-- A key of two parts, in the order of pairs. -/
structure PairKey (α β : Type) where
  first : α
  second : β
deriving DecidableEq

namespace PairKey

variable {α β : Type} [Ord α] [Ord β]

instance : Ord (PairKey α β) := ⟨compareLex (compareOn PairKey.first) (compareOn PairKey.second)⟩

instance [TransOrd α] [TransOrd β] : TransOrd (PairKey α β) :=
  inferInstanceAs (TransCmp (compareLex (compareOn PairKey.first) (compareOn PairKey.second)))

instance [TransOrd α] [TransOrd β] [LawfulEqOrd α] [LawfulEqOrd β] :
    LawfulEqOrd (PairKey α β) where
  eq_of_compare := by
    rintro ⟨a, b⟩ ⟨a', b'⟩ h
    have hboth : compare a a' = .eq ∧ compare b b' = .eq := by
      simpa [compare, compareLex, compareOn, Ordering.then_eq_eq] using h
    rw [LawfulEqOrd.eq_of_compare hboth.1, LawfulEqOrd.eq_of_compare hboth.2]

end PairKey

end DevManager
