import Mathlib.Data.List.Basic
import Mathlib.Order.Basic

/-!
# Following pages

A client of a paged query asks for a first page, and for a next one as long as
the page it got names a cursor. `follow` runs that loop for a number of rounds.

* `follow_chain`: if every page that names a cursor leaves less at it, the loop ends.
* `follow_exact`: if every page takes a prefix of what is left at its cursor,
  names no cursor only when nothing is left, and takes something when it does,
  then following the pages reads exactly what was there, in at most one round
  more than there were items.
* `Chain.length_items`: if the cursor lies behind the first item a page did not take,
  an item is lost at every boundary.
* `filter_lt_of_pairwise`: in a sorted list, what is above an item is what follows
  it.
* `filter_lt_range'`: what is above a number in a row of consecutive numbers.
-/

namespace DevManager

open List

namespace Paging

variable {κ π α ε : Type}

/-- At most `rounds` pages from a cursor on: `none` if the last of them still names a cursor. -/
def follow (page : Option κ → Except ε π) (next : π → Option κ) :
    ℕ → Option κ → Except ε (Option (List π))
  | 0, _ => .ok none
  | rounds + 1, cursor => do
    let first ← page cursor
    match next first with
    | none => pure (some [first])
    | some cursor => do
      let rest ← follow page next rounds (some cursor)
      pure (rest.map fun pages => first :: pages)

variable {page : Option κ → Except ε π} {next : π → Option κ} {items : π → List α}
  {At : Option κ → List α → Prop}

/-! ## Chains of pages -/

/-- The pages that a client reads from a cursor on, each at the cursor that the one before it
names, up to one that names none. -/
inductive Chain (page : Option κ → Except ε π) (next : π → Option κ) : Option κ → List π → Prop
  | last {cursor : Option κ} {p : π} (hpage : page cursor = .ok p) (hnext : next p = none) :
      Chain page next cursor [p]
  | more {cursor : Option κ} {p : π} {cursor' : κ} {pages : List π} (hpage : page cursor = .ok p)
      (hnext : next p = some cursor') (hrest : Chain page next (some cursor') pages) :
      Chain page next cursor (p :: pages)

/-- Every page that names a cursor leaves less at it. -/
def Shrinks (page : Option κ → Except ε π) (next : π → Option κ)
    (At : Option κ → List α → Prop) : Prop :=
  ∀ cursor left p, At cursor left → page cursor = .ok p →
    next p = none ∨ ∃ cursor' rest, next p = some cursor' ∧ rest.length < left.length ∧
      At (some cursor') rest

variable {cursor : Option κ}

theorem follow_last {p : π} {rounds : ℕ} (hpage : page cursor = .ok p)
    (hnext : next p = none) : follow page next (rounds + 1) cursor = .ok (some [p]) := by
  rw [follow, hpage]
  show (match next p with | none => _ | some cursor => _) = _
  rw [hnext]
  rfl

theorem follow_more {cursor' : κ} {p : π} {rounds : ℕ}
    (hpage : page cursor = .ok p) (hnext : next p = some cursor') :
    follow page next (rounds + 1) cursor = (follow page next rounds (some cursor') >>= fun rest =>
        pure (rest.map fun pages => p :: pages)) := by
  rw [follow, hpage]
  show (match next p with | none => _ | some cursor => _) = _
  rw [hnext]

/-- Where pages shrink what is left and none of them fails, following them ends. -/
theorem follow_chain (hpage : Shrinks page next At) :
    ∀ {rounds : ℕ} {cursor : Option κ} {left : List α}, At cursor left → left.length < rounds →
      (∀ n error, follow page next n cursor ≠ .error error) →
      ∃ pages, follow page next rounds cursor = .ok (some pages) ∧
        Chain page next cursor pages := by
  intro rounds
  induction rounds with
  | zero =>
    intro cursor left _ hlt
    omega
  | succ rounds ih =>
    intro cursor left hat hlt hok
    cases hfst : page cursor with
    | error error =>
      have hfail := hok 1 error
      rw [follow, hfst] at hfail
      exact absurd rfl hfail
    | ok first =>
      rcases hpage cursor left first hat hfst with hnone | ⟨cursor', rest, hsome, hlen, hrest⟩
      · exact ⟨[first], follow_last hfst hnone, .last hfst hnone⟩
      · have hok' : ∀ n error, follow page next n (some cursor') ≠ .error error := by
          intro n error herror
          apply hok (n + 1) error
          rw [follow_more hfst hsome, herror]
          rfl
        obtain ⟨pages, hfollow, hchain⟩ := ih hrest (by omega) hok'
        refine ⟨first :: pages, ?_, .more hfst hsome hchain⟩
        rw [follow_more hfst hsome, hfollow]
        rfl

variable {pages : List π}

/-- Every page of a chain was read at a cursor that the pages before it led to. -/
theorem Chain.at_of_mem (hpage : Shrinks page next At) (h : Chain page next cursor pages) :
    ∀ {left : List α}, At cursor left →
      ∀ p ∈ pages, ∃ cursor left, At cursor left ∧ page cursor = .ok p := by
  induction h with
  | @last cursor p hp hnext =>
    intro left hat q hq
    rw [mem_singleton.mp hq]
    exact ⟨cursor, left, hat, hp⟩
  | @more cursor p cursor' pages hp hnext hrest ih =>
    intro left hat q hq
    rcases mem_cons.mp hq with rfl | hq
    · exact ⟨cursor, left, hat, hp⟩
    · rcases hpage cursor left p hat hp with hnone | ⟨cursor'', rest, hsome, -, hat'⟩
      · rw [hnext] at hnone
        cases hnone
      · rw [hnext] at hsome
        cases hsome
        exact ih hat' q hq

/-! ## Pages that lose nothing -/

/-- A page takes a prefix of what is left at its cursor: all of it, or something and a cursor at
the rest. -/
def Advances (page : Option κ → Except ε π) (next : π → Option κ) (items : π → List α)
    (At : Option κ → List α → Prop) : Prop :=
  ∀ cursor left p, At cursor left → page cursor = .ok p →
    (next p = none ∧ left = items p) ∨
      ∃ cursor' rest, next p = some cursor' ∧ left = items p ++ rest ∧ items p ≠ [] ∧
        At (some cursor') rest

theorem Advances.shrinks (hpage : Advances page next items At) : Shrinks page next At := by
  intro cursor left p hat hp
  rcases hpage cursor left p hat hp with ⟨hnone, -⟩ | ⟨cursor', rest, hsome, rfl, hne, hat'⟩
  · exact .inl hnone
  · have hpos : 0 < (items p).length := length_pos_iff.mpr hne
    have hlen : rest.length < (items p ++ rest).length := by
      rw [length_append]
      omega
    exact .inr ⟨cursor', rest, hsome, hlen, hat'⟩

theorem Chain.flatMap_items (hpage : Advances page next items At)
     (h : Chain page next cursor pages) :
    ∀ {left : List α}, At cursor left → pages.flatMap items = left := by
  induction h with
  | @last cursor p hp hnext =>
    intro left hat
    rcases hpage cursor left p hat hp with ⟨-, hleft⟩ | ⟨cursor', rest, hsome, -⟩
    · rw [flatMap_singleton, hleft]
    · rw [hnext] at hsome
      cases hsome
  | @more cursor p cursor' pages hp hnext hrest ih =>
    intro left hat
    rcases hpage cursor left p hat hp with ⟨hnone, -⟩ | ⟨cursor'', rest, hsome, hleft, -, hat'⟩
    · rw [hnext] at hnone
      cases hnone
    · rw [hnext] at hsome
      cases hsome
      rw [flatMap_cons, ih hat', hleft]

theorem follow_exact (hpage : Advances page next items At) :
    ∀ {rounds : ℕ} {cursor : Option κ} {left : List α}, At cursor left → left.length < rounds →
      (∀ n error, follow page next n cursor ≠ .error error) →
      ∃ pages, follow page next rounds cursor = .ok (some pages) ∧
        pages.flatMap items = left ∧
        ∀ p ∈ pages, ∃ cursor left, At cursor left ∧ page cursor = .ok p := by
  intro rounds cursor left hat hlt hok
  obtain ⟨pages, hfollow, hchain⟩ := follow_chain hpage.shrinks hat hlt hok
  exact ⟨pages, hfollow, hchain.flatMap_items hpage hat, hchain.at_of_mem hpage.shrinks hat⟩

/-! ## Pages that lose the item at their end -/

/-- A page takes a prefix of what is left at its cursor, and the cursor it names lies behind the
first item it did not take. -/
def Skips (page : Option κ → Except ε π) (next : π → Option κ) (items : π → List α)
    (At : Option κ → List α → Prop) : Prop :=
  ∀ cursor left p, At cursor left → page cursor = .ok p →
    (next p = none ∧ left = items p) ∨
      ∃ cursor' lost rest, next p = some cursor' ∧ left = items p ++ lost :: rest ∧
        At (some cursor') rest

theorem Skips.shrinks (hpage : Skips page next items At) : Shrinks page next At := by
  intro cursor left p hat hp
  rcases hpage cursor left p hat hp with ⟨hnone, -⟩ | ⟨cursor', lost, rest, hsome, rfl, hat'⟩
  · exact .inl hnone
  · have hlen : rest.length < (items p ++ lost :: rest).length := by
      rw [length_append, length_cons]
      omega
    exact .inr ⟨cursor', rest, hsome, hlen, hat'⟩

/-- A chain of such pages reads all but one item at the end of each page that is not the last. -/
theorem Chain.length_items (hpage : Skips page next items At) (h : Chain page next cursor pages) :
    ∀ {left : List α}, At cursor left →
      (pages.flatMap items).length + pages.length = left.length + 1 := by
  induction h with
  | @last cursor p hp hnext =>
    intro left hat
    rcases hpage cursor left p hat hp with ⟨-, hleft⟩ | ⟨cursor', lost, rest, hsome, -⟩
    · rw [flatMap_singleton, hleft]
      rfl
    · rw [hnext] at hsome
      cases hsome
  | @more cursor p cursor' pages hp hnext hrest ih =>
    intro left hat
    rcases hpage cursor left p hat hp with
      ⟨hnone, -⟩ | ⟨cursor'', lost, rest, hsome, hleft, hat'⟩
    · rw [hnext] at hnone
      cases hnone
    · rw [hnext] at hsome
      cases hsome
      have hlen := ih hat'
      rw [flatMap_cons, hleft, length_append, length_cons, length_append, length_cons]
      omega

/-- In a sorted list, what is above an item is what follows it. -/
theorem filter_lt_of_pairwise [Preorder α] [DecidableLT α] {before after} {x : α}
    (h : (before ++ x :: after).Pairwise (· < ·)) :
    (before ++ x :: after).filter (fun a => x < a) = after := by
  obtain ⟨-, hpost, hcross⟩ := pairwise_append.mp h
  have hpre : before.filter (fun a => x < a) = [] := by
    rw [filter_eq_nil_iff]
    intro a ha
    have hlt := hcross a ha x (.head _)
    simpa using lt_asymm hlt
  have hrest : after.filter (fun a => x < a) = after := by
    rw [filter_eq_self]
    intro a ha
    have hlt := (pairwise_cons.mp hpost).1 a ha
    simpa using hlt
  rw [filter_append, hpre, nil_append, filter_cons_of_neg (by simp), hrest]

theorem filter_lt_range' {first n s : ℕ} (h : first ≤ s + 1) :
    (List.range' first n).filter (fun k => s < k) = List.range' (s + 1) (first + n - 1 - s) := by
  induction n generalizing first with
  | zero =>
    have hzero : first + 0 - 1 - s = 0 := by omega
    rw [hzero]
    rfl
  | succ n ih =>
    rw [range'_succ, filter_cons]
    by_cases hlt : s < first
    · obtain rfl : first = s + 1 := by omega
      have hcount : s + 1 + (n + 1) - 1 - s = n + 1 := by omega
      rw [if_pos (decide_eq_true hlt), hcount, range'_succ, filter_eq_self.mpr]
      intro k hk
      rw [mem_range'_1] at hk
      exact decide_eq_true (by omega)
    · have hcount : first + 1 + n - 1 - s = first + (n + 1) - 1 - s := by omega
      rw [if_neg (by simpa using hlt), ih (by omega), hcount]

end Paging

end DevManager
