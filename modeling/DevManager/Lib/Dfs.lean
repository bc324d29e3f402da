import DevManager.Lib.Calls
import DevManager.Lib.OrdMap
import Mathlib.Logic.Relation

/-!
# Depth-first orders

A depth-first search over the successors `next`, restricted to the nodes that
`selected` admits, which appends a node to the order after its successors. The
recursion is bounded by `fuel`.

* `visit_spec`: what one search appends to the order: new nodes, each once, each
  reachable from the start.
* `mem_visit`: the start itself is in the order afterwards.
* `visitAll_spec`: the same for a list of starts.
* `visit_settled`: without cycles a node comes after its selected successors.
-/

namespace DevManager.Dfs

open Std (ExtTreeSet)
open List

/-- The nodes seen so far, and those whose successors are done, in order. -/
structure Visit (K : Type) [Ord K] where
  visited : ExtTreeSet K
  ordered : List K

variable {K : Type} [Ord K] [Std.TransOrd K]

/-- Nothing visited. -/
def Visit.start : Visit K := ⟨∅, []⟩

/-- The search from `k` begins. -/
def Visit.enter (s : Visit K) (k : K) : Visit K := { s with visited := s.visited.insert k }

/-- The successors of `k` are done. -/
def Visit.leave (s : Visit K) (k : K) : Visit K := { s with ordered := s.ordered ++ [k] }

variable (next : K → List K) (selected : K → Bool)

/-- A search from `k`. -/
def visit : (fuel : ℕ) → K → Visit K → Visit K
  | 0, _, s => s
  | fuel + 1, k, s =>
    if !selected k || s.visited.contains k then s
    else ((next k).foldl (fun s d => visit fuel d s) (s.enter k)).leave k

/-- A search from each of `ks` in turn. -/
def visitAll (fuel : ℕ) (ks : List K) (s : Visit K) : Visit K :=
  ks.foldl (fun s d => visit next selected fuel d s) s

/-- `b` is a successor of `a`. -/
def Edge (a b : K) : Prop := b ∈ next a

/-- What a search from nodes with `From` appends to the order. -/
structure Appends (From : K → Prop) (s s' : Visit K) (new : List K) : Prop where
  ordered : s'.ordered = s.ordered ++ new
  nodup : new.Nodup
  fresh : ∀ x ∈ new, x ∉ s.visited
  selected : ∀ x ∈ new, selected x = true
  reached : ∀ x ∈ new, ∃ k, From k ∧ Relation.ReflTransGen (Edge next) k x
  visited : ∀ x, x ∈ s'.visited ↔ x ∈ s.visited ∨ x ∈ new

variable {next selected}

theorem Appends.refl (From : K → Prop) (s : Visit K) : Appends next selected From s s [] where
  ordered := (append_nil _).symm
  nodup := nodup_nil
  fresh := by simp
  selected := by simp
  reached := by simp
  visited := by simp

variable {s : Visit K}

theorem Appends.trans {From : K → Prop} {t u xs ys}
    (h₁ : Appends next selected From s t xs) (h₂ : Appends next selected From t u ys) :
    Appends next selected From s u (xs ++ ys) where
  ordered := by rw [h₂.ordered, h₁.ordered, append_assoc]
  nodup := by
    refine List.Nodup.append h₁.nodup h₂.nodup ?_
    intro x hx hy
    exact h₂.fresh x hy ((h₁.visited x).mpr (.inr hx))
  fresh := by
    intro x hx
    rcases mem_append.mp hx with h | h
    · exact h₁.fresh x h
    · exact fun hs => h₂.fresh x h ((h₁.visited x).mpr (.inl hs))
  selected := by
    intro x hx
    rcases mem_append.mp hx with h | h
    · exact h₁.selected x h
    · exact h₂.selected x h
  reached := by
    intro x hx
    rcases mem_append.mp hx with h | h
    · exact h₁.reached x h
    · exact h₂.reached x h
  visited := by
    intro x
    rw [h₂.visited, h₁.visited, mem_append, or_assoc]

theorem Appends.imp {From From' : K → Prop} {t xs}
    (h : Appends next selected From s t xs)
    (hfrom : ∀ k, From k → ∃ k', From' k' ∧ Relation.ReflTransGen (Edge next) k' k) :
    Appends next selected From' s t xs where
  ordered := h.ordered
  nodup := h.nodup
  fresh := h.fresh
  selected := h.selected
  reached := by
    intro x hx
    obtain ⟨k, hk, hkx⟩ := h.reached x hx
    obtain ⟨k', hk', hk'k⟩ := hfrom k hk
    exact ⟨k', hk', hk'k.trans hkx⟩
  visited := h.visited

/-- A list of searches appends what its members append. -/
theorem foldl_spec {search : Visit K → K → Visit K}
    (hsearch : ∀ s k, ∃ new, Appends next selected (· = k) s (search s k) new) (ks : List K) :
    ∀ s, ∃ new, Appends next selected (· ∈ ks) s (ks.foldl search s) new := by
  induction ks with
  | nil => exact fun s => ⟨[], Appends.refl _ s⟩
  | cons k ks ih =>
    intro s
    obtain ⟨new₁, h₁⟩ := hsearch s k
    obtain ⟨new₂, h₂⟩ := ih (search s k)
    have h₁' : Appends next selected (· ∈ k :: ks) s (search s k) new₁ :=
      h₁.imp fun a ha => ⟨k, .head _, ha ▸ Relation.ReflTransGen.refl⟩
    have h₂' : Appends next selected (· ∈ k :: ks) (search s k) (ks.foldl search (search s k))
      new₂ :=
      h₂.imp fun a ha => ⟨a, mem_cons_of_mem k ha, .refl⟩
    exact ⟨new₁ ++ new₂, h₁'.trans h₂'⟩

variable [Std.LawfulEqOrd K]

theorem mem_enter {k x : K} : x ∈ (s.enter k).visited ↔ x = k ∨ x ∈ s.visited :=
  OrdMap.mem_insertSet_iff

/-- What a search from `k` appends to the order. -/
theorem visit_spec (fuel : ℕ) :
    ∀ k s, ∃ new, Appends next selected (· = k) s (visit next selected fuel k s) new := by
  induction fuel with
  | zero => exact fun k s => ⟨[], Appends.refl _ s⟩
  | succ fuel ih =>
    intro k s
    rw [visit]
    split_ifs with h
    · exact ⟨[], Appends.refl _ s⟩
    · have hsel : selected k = true := by
        cases hk : selected k
        · exact absurd (by simp [hk]) h
        · rfl
      have hnot : k ∉ s.visited := fun hk => h (by simp [hk])
      obtain ⟨new, hnew⟩ := foldl_spec (fun s d => ih d s) (next k) (s.enter k)
      have hk : k ∉ new := fun hmem =>
        hnew.fresh k hmem (mem_enter.mpr (.inl rfl))
      refine ⟨new ++ [k], ?_, ?_, ?_, ?_, ?_, ?_⟩
      · show _ ++ [k] = _
        rw [hnew.ordered, append_assoc]
        rfl
      · exact List.Nodup.append hnew.nodup (nodup_singleton k) (by simpa using hk)
      · intro x hx
        rcases mem_append.mp hx with hx | hx
        · exact fun hs => hnew.fresh x hx (mem_enter.mpr (.inr hs))
        · rw [mem_singleton.mp hx]
          exact hnot
      · intro x hx
        rcases mem_append.mp hx with hx | hx
        · exact hnew.selected x hx
        · rw [mem_singleton.mp hx]
          exact hsel
      · intro x hx
        rcases mem_append.mp hx with hx | hx
        · obtain ⟨d, hd, hdx⟩ := hnew.reached x hx
          exact ⟨k, rfl, Relation.ReflTransGen.head hd hdx⟩
        · rw [mem_singleton.mp hx]
          exact ⟨k, rfl, .refl⟩
      · intro x
        show x ∈ Visit.visited (List.foldl _ _ _) ↔ _
        rw [hnew.visited, mem_enter, mem_append, mem_singleton]
        tauto

/-- After a search from a selected node the node is visited. -/
theorem mem_visit {fuel : ℕ} {k : K} (hk : selected k = true) :
    k ∈ (visit next selected (fuel + 1) k s).visited := by
  rw [visit]
  split_ifs with h
  · simpa [hk] using h
  · have hsearch : ∀ s d, ∃ new, Appends next selected (· = d) s (visit next selected fuel d s)
      new :=
      fun s d => visit_spec fuel d s
    obtain ⟨new, hnew⟩ := foldl_spec hsearch (next k) (s.enter k)
    exact (hnew.visited k).mpr (.inl (mem_enter.mpr (.inl rfl)))

theorem visitAll_spec (fuel : ℕ) (ks : List K) (s : Visit K) :
    ∃ new, Appends next selected (· ∈ ks) s (visitAll next selected fuel ks s) new :=
  foldl_spec (fun s d => visit_spec fuel d s) ks s

/-- After a list of searches every selected start is visited. -/
theorem mem_visitAll {fuel : ℕ} {k : K} (hk : selected k = true) (ks : List K) :
    ∀ s, k ∈ ks → k ∈ (visitAll next selected (fuel + 1) ks s).visited := by
  induction ks with
  | nil => intro s h; simp at h
  | cons k' ks ih =>
    intro s hmem
    rcases mem_cons.mp hmem with rfl | hmem
    · obtain ⟨new, hnew⟩ : ∃ new,
        Appends next selected (· ∈ ks) (visit next selected (fuel + 1) k s)
          (visitAll next selected (fuel + 1) (k :: ks) s) new := visitAll_spec (fuel + 1) ks _
      exact (hnew.visited k).mpr (.inl (mem_visit hk))
    · exact ih _ hmem

/-! ## Orders without cycles -/

def unvisited (keys : List K) (s : Visit K) : ℕ := keys.countP fun k => k ∉ s.visited

variable {keys : List K}

omit [Std.LawfulEqOrd K] in
theorem unvisited_mono {t} (h : ∀ x, x ∈ s.visited → x ∈ t.visited) :
    unvisited keys t ≤ unvisited keys s := by
  refine countP_mono_left fun x _ hx => ?_
  simp only [decide_eq_true_eq] at hx ⊢
  exact fun hs => hx (h x hs)

theorem unvisited_enter {k : K} (hk : k ∈ keys)
    (hnot : k ∉ s.visited) : unvisited keys (s.enter k) < unvisited keys s := by
  induction keys with
  | nil => simp at hk
  | cons a keys ih =>
    have hmono : unvisited keys (s.enter k) ≤ unvisited keys s :=
      unvisited_mono fun x hx => mem_enter.mpr (.inr hx)
    unfold unvisited at hmono ih ⊢
    rw [countP_cons, countP_cons]
    by_cases ha : a = k
    · have h₁ : a ∈ (s.enter k).visited := mem_enter.mpr (.inl ha)
      have h₂ : a ∉ s.visited := ha ▸ hnot
      simp only [h₁, h₂, not_true_eq_false, not_false_eq_true, decide_false, decide_true,
        Bool.false_eq_true, if_false, if_true]
      omega
    · have hlt := ih ((mem_cons.mp hk).resolve_left (Ne.symm ha))
      have hiff : a ∈ (s.enter k).visited ↔ a ∈ s.visited := by
        rw [mem_enter]
        exact or_iff_right ha
      simp only [hiff]
      omega

variable (next selected) in
/-- A node of the order comes after its selected successors, and what is visited is in the order
or still open. -/
structure Settled (Open : K → Prop) (s : Visit K) : Prop where
  ordered : ∀ x ∈ s.visited, x ∈ s.ordered ∨ Open x
  sorted : ∀ before x after, s.ordered = before ++ x :: after →
    ∀ d ∈ next x, selected d = true → d ∈ before

omit [Std.LawfulEqOrd K] in
theorem Settled.leave {Open : K → Prop} {k : K}
    (h : Settled next selected (fun x => x = k ∨ Open x) s)
    (hnext : ∀ d ∈ next k, selected d = true → d ∈ s.ordered) :
    Settled next selected Open (s.leave k) where
  ordered x hx := by
    rcases h.ordered x hx with hord | rfl | hop
    · exact .inl (mem_append_left _ hord)
    · exact .inl (mem_append_right _ (.head _))
    · exact .inr hop
  sorted before x after hsplit := by
    rcases Calls.concat_eq_split hsplit with ⟨rfl, rfl, -⟩ | ⟨rest, -, hrest⟩
    · exact hnext
    · exact h.sorted before x rest hrest

theorem visit_settled (hclosed : ∀ k ∈ keys, ∀ d ∈ next k, d ∈ keys)
    (hdag : ∀ k, ¬ Relation.TransGen (Edge next) k k) (fuel : ℕ) :
    ∀ {Open : K → Prop} {k s}, k ∈ keys → unvisited keys s < fuel →
      (∀ x, Open x → Relation.TransGen (Edge next) x k) → Settled next selected Open s →
        Settled next selected Open (visit next selected fuel k s) ∧
          (selected k = true → k ∈ (visit next selected fuel k s).ordered) := by
  induction fuel with
  | zero => exact fun _ h => absurd h (Nat.not_lt_zero _)
  | succ fuel ih =>
    intro Open k s hk hbound hop hs
    rw [visit]
    split_ifs with h
    · refine ⟨hs, fun hsel => (hs.ordered k (by simpa [hsel] using h)).resolve_right
        fun hopen => ?_⟩
      exact hdag k (hop k hopen)
    · have hnot : k ∉ s.visited := fun hmem => h (by simp [hmem])
      have hlt := unvisited_enter hk hnot
      -- While the successors are visited, `k` is open as well.
      have hfold : ∀ (ds : List K) t, (∀ d ∈ ds, d ∈ next k) → unvisited keys t < fuel →
          Settled next selected (fun x => x = k ∨ Open x) t →
            Settled next selected (fun x => x = k ∨ Open x)
              (ds.foldl (fun s d => visit next selected fuel d s) t) ∧
              ∀ d ∈ ds, selected d = true →
                d ∈ (ds.foldl (fun s d => visit next selected fuel d s) t).ordered := by
        intro ds
        induction ds with
        | nil => exact fun t _ _ ht => ⟨ht, fun _ hd => absurd hd not_mem_nil⟩
        | cons d ds ihds =>
          intro t hds hfuel ht
          have hedge : Edge next k d := hds d (.head _)
          obtain ⟨hvisited, hmem⟩ := ih (hclosed k hk d hedge) hfuel (fun x hx => by
            rcases hx with rfl | hx
            · exact .single hedge
            · exact (hop x hx).tail hedge) ht
          obtain ⟨new, hnew⟩ : ∃ new, Appends next selected (· = d) t
              (visit next selected fuel d t) new := visit_spec fuel d t
          have hmono : unvisited keys (visit next selected fuel d t) ≤ unvisited keys t :=
            unvisited_mono fun x hx => (hnew.visited x).mpr (.inl hx)
          obtain ⟨hset, hall⟩ := ihds _ (fun e he => hds e (mem_cons_of_mem d he))
            (lt_of_le_of_lt hmono hfuel) hvisited
          obtain ⟨later, hlater⟩ : ∃ later, Appends next selected (· ∈ ds)
              (visit next selected fuel d t)
              (ds.foldl (fun s e => visit next selected fuel e s) (visit next selected fuel d t))
              later := foldl_spec (fun s e => visit_spec fuel e s) ds _
          refine ⟨hset, fun e he hsel => ?_⟩
          rcases mem_cons.mp he with rfl | he
          · rw [foldl_cons, hlater.ordered]
            exact mem_append_left _ (hmem hsel)
          · exact hall e he hsel
      have henter : Settled next selected (fun x => x = k ∨ Open x) (s.enter k) := by
        refine ⟨fun x hx => ?_, hs.sorted⟩
        rcases mem_enter.mp hx with rfl | hx
        · exact .inr (.inl rfl)
        · exact (hs.ordered x hx).imp_right .inr
      obtain ⟨hset, hall⟩ := hfold (next k) (s.enter k) (fun _ hd => hd) (by omega) henter
      exact ⟨hset.leave hall, fun _ => mem_append_right _ (.head _)⟩

omit [Std.LawfulEqOrd K] in
theorem settled_start {Open : K → Prop} : Settled next selected Open .start where
  ordered _ hx := absurd hx ExtTreeSet.not_mem_empty
  sorted before x after h := by
    have := congrArg List.length h
    simp [Visit.start] at this

/-- `b` is reached from `a` through selected nodes. -/
def Behind (next : K → List K) (selected : K → Bool) : K → K → Prop :=
  Relation.TransGen fun a b => Edge next a b ∧ selected b = true

omit [Std.LawfulEqOrd K] in
theorem Settled.mem_before {Open : K → Prop} (h : Settled next selected Open s) {x y}
    (hgen : Behind next selected x y) :
    ∀ {before after}, s.ordered = before ++ x :: after → y ∈ before := by
  induction hgen using Relation.TransGen.head_induction_on with
  | single hedge => exact fun hsplit => h.sorted _ _ _ hsplit _ hedge.1 hedge.2
  | head hedge _ ih =>
    intro before after hsplit
    obtain ⟨first, rest, rfl⟩ :=
      append_of_mem (h.sorted _ _ _ hsplit _ hedge.1 hedge.2)
    exact mem_append_left _ (ih (hsplit.trans (append_assoc _ _ _)))

theorem pairwise_of_splits {α : Type} {R : α → α → Prop} {l : List α}
    (h : ∀ before x after, l = before ++ x :: after → ∀ y ∈ after, R x y) : l.Pairwise R := by
  induction l with
  | nil => exact .nil
  | cons x l ih =>
    refine .cons (h [] x l rfl) (ih fun before y after hsplit => h (x :: before) y after ?_)
    rw [hsplit, cons_append]

omit [Std.LawfulEqOrd K] in
/-- No node of the order stands before one that is behind it. -/
theorem Settled.pairwise {Open : K → Prop} (h : Settled next selected Open s)
    (hnodup : s.ordered.Nodup) : s.ordered.Pairwise fun a b => ¬ Behind next selected a b := by
  refine pairwise_of_splits fun before x after hsplit y hy hgen => ?_
  have hmem := h.mem_before hgen hsplit
  rw [hsplit] at hnodup
  exact (nodup_append.mp hnodup).2.2 y hmem y (mem_cons_of_mem x hy) rfl

theorem visitAll_settled (hclosed : ∀ k ∈ keys, ∀ d ∈ next k, d ∈ keys)
    (hdag : ∀ k, ¬ Relation.TransGen (Edge next) k k) {fuel : ℕ} (hfuel : keys.length < fuel)
    {ks : List K} (hks : ∀ k ∈ ks, k ∈ keys) :
    ∀ {s}, Settled next selected (fun _ => False) s →
      Settled next selected (fun _ => False) (visitAll next selected fuel ks s) := by
  induction ks with
  | nil => exact fun hs => hs
  | cons k ks ih =>
    intro s hs
    have hlt : unvisited keys s < fuel := lt_of_le_of_lt countP_le_length hfuel
    exact ih (fun d hd => hks d (.tail _ hd))
      (visit_settled hclosed hdag fuel (hks k (.head _)) hlt (fun _ h => h.elim) hs).1

end DevManager.Dfs
