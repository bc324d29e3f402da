import DevManager.Lib.OrdMap
import DevManager.Lib.Result

/-!
# Reading a collection back from its entries

A map or a set is written as the list of its entries, and read back by a loop that refuses an
entry whose key it has already. What was written of a collection is read as that collection.

* `foldlM_fresh`: a loop that takes each element while it is fresh.
* `foldlM_insert_toList`: the entries of a map, each of them taken while its key is new.
* `foldlM_insertSet_toList`: the same for a set.
-/

namespace DevManager

open Std List

/-- A loop takes every element of a list, if it takes those that are fresh (`P`), and if of two
elements the second stays fresh when the first is taken. -/
theorem foldlM_fresh {ε σ α : Type} {f : σ → α → Except ε σ} {g : σ → α → σ} {P : σ → α → Prop}
    {R : α → α → Prop} {l : List α} (hstep : ∀ s, ∀ a ∈ l, P s a → f s a = .ok (g s a))
    (hkeep : ∀ s, ∀ a ∈ l, ∀ b ∈ l, P s b → R a b → P (g s a) b) (hdist : l.Pairwise R) :
    ∀ s, (∀ a ∈ l, P s a) → l.foldlM f s = .ok (l.foldl g s) := by
  induction l with
  | nil => exact fun s _ => rfl
  | cons a l ih =>
    intro s hfresh
    obtain ⟨hfst, hrest⟩ := pairwise_cons.mp hdist
    rw [foldlM_cons, hstep s a mem_cons_self (hfresh a mem_cons_self), ok_bind, foldl_cons]
    refine ih (fun s b hb => hstep s b (mem_cons_of_mem a hb)) ?_ hrest _ fun b hb => ?_
    · exact fun s b hb c hc => hkeep s b (mem_cons_of_mem a hb) c (mem_cons_of_mem a hc)
    · exact hkeep s a mem_cons_self b (mem_cons_of_mem a hb)
        (hfresh b (mem_cons_of_mem a hb)) (hfst b hb)

namespace OrdMap

variable {ε σ K V E : Type} [Ord K] [TransOrd K] [LawfulEqOrd K] [DecidableEq K]

/-- The entries of a map are read back as the map. `emb` is where the loop keeps the map, and `g` is
how an entry is written. -/
theorem foldlM_insert_toList {m : ExtTreeMap K V} {f : σ → E → Except ε σ}
    (emb : ExtTreeMap K V → σ) (g : K × V → E)
    (hf : ∀ k v, m[k]? = some v → ∀ m', k ∉ m' →
      f (emb m') (g (k, v)) = .ok (emb (m'.insert k v))) :
    (m.toList.map g).foldlM f (emb ∅) = .ok (emb m) := by
  suffices hall : ∀ (l : List (K × V)) m', (∀ e ∈ l, m[e.1]? = some e.2) →
      l.Pairwise (fun a b => a.1 ≠ b.1) → (∀ e ∈ l, e.1 ∉ m') →
      (l.map g).foldlM f (emb m') = .ok (emb (insertAll m' l)) by
    have hread := hall m.toList ∅ (fun e he => ExtTreeMap.mem_toList_iff_getElem?_eq_some.mp he)
      (distinct_toList m) (fun e _ => ExtTreeMap.not_mem_empty)
    rw [hread, insertAll_toList]
  intro l
  induction l with
  | nil => exact fun _ _ _ _ => rfl
  | cons e l ih =>
    intro m' hm hdist hfresh
    obtain ⟨hfst, hrest⟩ := pairwise_cons.mp hdist
    rw [map_cons, foldlM_cons,
      hf e.1 e.2 (hm e mem_cons_self) m' (hfresh e mem_cons_self), ok_bind, insertAll_cons]
    refine ih _ (fun b hb => hm b (mem_cons_of_mem e hb)) hrest fun b hb => ?_
    rw [mem_insert_iff, not_or]
    exact ⟨(hfst b hb).symm, hfresh b (mem_cons_of_mem e hb)⟩

omit [LawfulEqOrd K] [DecidableEq K] in
/-- A loop of insertions makes a map that is no larger than the list it goes through. -/
theorem size_foldlM_insert_le {m m' : ExtTreeMap K V}
    {f : ExtTreeMap K V → E → Except ε (ExtTreeMap K V)}
    {key : E → K} {value : E → V}
    (hf : ∀ m a m', f m a = .ok m' → m' = m.insert (key a) (value a)) {l : List E}
    (h : l.foldlM f m = Except.ok m') : m'.size ≤ m.size + l.length := by
  induction l generalizing m with
  | nil =>
    cases h
    exact le_rfl
  | cons a l ih =>
    obtain ⟨next, hfst, hrest⟩ := foldlM_cons_ok.mp h
    rw [hf m a next hfst] at hrest
    have hsize := ExtTreeMap.size_insert_le (t := m) (k := key a) (v := value a)
    have htail := ih hrest
    rw [length_cons]
    omega

variable {s : ExtTreeSet K}

omit [DecidableEq K] in
/-- To insert what is there changes nothing. -/
theorem insertSet_self {a : K} (h : a ∈ s) : s.insert a = s := by
  refine ExtTreeSet.ext_mem fun b => ?_
  rw [mem_insertSet_iff]
  constructor
  · rintro (rfl | hb)
    · exact h
    · exact hb
  · exact .inr

omit [LawfulEqOrd K] [DecidableEq K] in
theorem size_insertSet_new {a : K} (h : a ∉ s) : (s.insert a).size = s.size + 1 := by
  rw [ExtTreeSet.size_insert, if_neg (fun hc => h (ExtTreeSet.contains_iff_mem.mp hc))]

omit [DecidableEq K] in
theorem mem_foldl_insertSet {l : List K} {a : K} :
    ∀ {s : ExtTreeSet K}, a ∈ l.foldl ExtTreeSet.insert s ↔ a ∈ l ∨ a ∈ s := by
  induction l with
  | nil => simp
  | cons b l ih =>
    intro s
    rw [foldl_cons, ih, mem_insertSet_iff, mem_cons, or_assoc, or_left_comm]

omit [DecidableEq K] in
/-- The elements of a set are read back as the set. -/
theorem foldlM_insertSet_toList {f : ExtTreeSet K → K → Except ε (ExtTreeSet K)}
    (hf : ∀ a ∈ s, ∀ s', a ∉ s' → f s' a = .ok (s'.insert a)) :
    s.toList.foldlM f ∅ = Except.ok s := by
  have hdist : s.toList.Pairwise fun a b => a ≠ b := by
    refine List.Pairwise.imp (fun {a b} h heq => ?_) (ExtTreeSet.distinct_toList (t := s))
    exact h (heq ▸ ReflCmp.compare_self)
  have hread : s.toList.foldlM f ∅ = Except.ok (s.toList.foldl ExtTreeSet.insert ∅) := by
    refine foldlM_fresh (P := fun s a => a ∉ s) ?_ ?_ hdist ∅ fun a _ =>
      ExtTreeSet.not_mem_empty
    · exact fun s' a ha hfresh => hf a (ExtTreeSet.mem_toList.mp ha) s' hfresh
    · intro s' a _ b _ hfresh hne
      rw [mem_insertSet_iff, not_or]
      exact ⟨hne.symm, hfresh⟩
  rw [hread]
  refine congrArg Except.ok (ExtTreeSet.ext_mem fun a => ?_)
  rw [mem_foldl_insertSet, ExtTreeSet.mem_toList]
  simp

end OrdMap

end DevManager
