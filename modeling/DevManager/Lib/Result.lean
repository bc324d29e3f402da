import Mathlib.Data.List.Basic

/-!
# Fallible code

Rust's `Result<T, E>` is `Except E T`. The early returns of the source are the
two combinators below, so that a function body reads line by line against the
source, and one `simp` call turns "the function returned `Ok`" into the
conjunction of its guards.

* `failIf c e`: `if c { return Err(e) }`.
* `okOr o e`: `o.ok_or(e)?`.
* `bind_eq_ok`: a sequence returns `Ok` iff every part does; `bind_eq_error`: where it fails.
* `Ensures`: what holds of the value whenever a call returns `Ok`.
* `Avoids`: an error that a call never returns.
* `foldlM_cons_ok`, `foldlM_invariant`: the rules for `for … { step()?; }`.
* `mapM_eq_ok`: the rule for `iter().map(f).collect::<Result<_, _>>()`.
-/

namespace DevManager

open List

variable {ε ε' α β σ : Type}

/-- `if c { return Err(e) }`. -/
def failIf (c : Prop) [Decidable c] (e : ε) : Except ε Unit :=
  if c then .error e else .ok ()

/-- `o.ok_or(e)?`. -/
def okOr (o : Option α) (e : ε) : Except ε α :=
  match o with
  | some a => .ok a
  | none => .error e

/-- `r.map_err(f)?`. -/
def mapErr (r : Except ε α) (f : ε → ε') : Except ε' α :=
  match r with
  | .ok a => .ok a
  | .error e => .error (f e)

/-- `r.is_ok()`. -/
def isOk (r : Except ε α) : Bool :=
  match r with
  | .ok _ => true
  | .error _ => false

@[simp] theorem failIf_eq_ok {c : Prop} [Decidable c] {e : ε} {u : Unit} :
    failIf c e = .ok u ↔ ¬ c := by
  unfold failIf
  split_ifs with h <;> simp [h]

@[simp] theorem okOr_eq_ok {o} {e : ε} {a : α} : okOr o e = .ok a ↔ o = some a := by
  cases o <;> simp [okOr]

@[simp] theorem mapErr_eq_ok {r} {f : ε → ε'} {a : α} :
    mapErr r f = .ok a ↔ r = .ok a := by
  cases r <;> simp [mapErr]

@[simp] theorem isOk_eq_true {r : Except ε α} : isOk r = true ↔ ∃ a, r = .ok a := by
  cases r <;> simp [isOk]

@[simp] theorem pure_eq_ok {a b : α} : (pure a : Except ε α) = .ok b ↔ b = a := by
  simp [pure, Except.pure, eq_comm]

variable {x : Except ε α}

/-- A sequence returns `Ok` iff its first part does and the rest does on that value. -/
@[simp] theorem bind_eq_ok {f : α → Except ε β} {b : β} :
    (x >>= f) = .ok b ↔ ∃ a, x = .ok a ∧ f a = .ok b := by
  cases x <;> simp [bind, Except.bind]

theorem map_eq_ok {f : α → β} {b : β} :
    x.map f = .ok b ↔ ∃ a, x = .ok a ∧ b = f a := by
  cases x <;> simp [Except.map, eq_comm]

theorem failIf_eq_error {c : Prop} [Decidable c] {e e' : ε} :
    failIf c e = .error e' ↔ c ∧ e = e' := by
  unfold failIf
  split_ifs with h <;> simp [h]

theorem okOr_eq_error {o : Option α} {e e' : ε} : okOr o e = .error e' ↔ o = none ∧ e = e' := by
  cases o <;> simp [okOr]

/-- A sequence fails where its first part fails, or where the rest fails on its value. -/
theorem bind_eq_error {f : α → Except ε β} {e : ε} :
    (x >>= f) = .error e ↔ x = .error e ∨ ∃ a, x = .ok a ∧ f a = .error e := by
  cases x <;> simp [bind, Except.bind]

theorem exists_unit {p : Unit → Prop} : (∃ u, p u) ↔ p () :=
  ⟨fun ⟨(), h⟩ => h, fun h => ⟨(), h⟩⟩

/-- What it means that a body returns `Ok`: one name for the rules of its steps. -/
theorem ok_iff :
    (∀ {ε α β : Type} {x : Except ε α} {f : α → Except ε β} {b : β},
      (x >>= f) = .ok b ↔ ∃ a, x = .ok a ∧ f a = .ok b) ∧
    (∀ {ε α : Type} {a b : α}, (pure a : Except ε α) = .ok b ↔ b = a) ∧
    (∀ {ε : Type} {c : Prop} [Decidable c] {e : ε} {u : Unit}, failIf c e = .ok u ↔ ¬ c) ∧
    (∀ {ε α : Type} {o : Option α} {e : ε} {a : α}, okOr o e = .ok a ↔ o = some a) ∧
    (∀ {ε ε' α : Type} {r : Except ε α} {f : ε → ε'} {a : α}, mapErr r f = .ok a ↔ r = .ok a) ∧
    (∀ {p : Unit → Prop}, (∃ u, p u) ↔ p ()) ∧ (∀ {p : Prop}, ¬¬p ↔ p) ∧
    (∀ {α : Type} {a b : α}, ¬ a ≠ b ↔ a = b) ∧
    ∀ {α β : Type} {a c : α} {b d : β}, (a, b) = (c, d) ↔ a = c ∧ b = d :=
  ⟨bind_eq_ok, pure_eq_ok, failIf_eq_ok, okOr_eq_ok, mapErr_eq_ok, exists_unit, not_not,
    not_ne_iff, Prod.ext_iff⟩

theorem ok_bind (a : α) (f : α → Except ε β) : ((.ok a : Except ε α) >>= f) = f a := rfl

theorem failIf_pos {c : Prop} [Decidable c] {e : ε} (h : c) : failIf c e = .error e := if_pos h

theorem failIf_neg {c : Prop} [Decidable c] {e : ε} (h : ¬ c) : failIf c e = .ok () := if_neg h

theorem okOr_some (a : α) (e : ε) : okOr (some a) e = .ok a := rfl

/-! ## What a call ensures -/

/-- Every value that the call returns satisfies `P`. -/
def Ensures (x : Except ε α) (P : α → Prop) : Prop := ∀ a, x = .ok a → P a

section Ensures

variable {P Q : α → Prop}

theorem Ensures.imp {x : Except ε α} (h : Ensures x P) (hPQ : ∀ a, P a → Q a) : Ensures x Q :=
  fun a ha => hPQ a (h a ha)

end Ensures

/-! ## What a call never fails with -/

/-- The call does not fail with `e`. -/
def Avoids (x : Except ε α) (e : ε) : Prop := x ≠ .error e

section Avoids

variable {e : ε}

@[simp] theorem avoids_ok {a : α} : Avoids (.ok a) e := by
  simp [Avoids]

@[simp] theorem avoids_error {e' : ε} : Avoids (.error e' : Except ε α) e ↔ e' ≠ e := by
  simp [Avoids]

@[simp] theorem avoids_pure {a : α} : Avoids (pure a : Except ε α) e := avoids_ok

@[simp] theorem avoids_failIf {c : Prop} [Decidable c] {e' : ε} :
    Avoids (failIf c e') e ↔ (c → e' ≠ e) := by
  simp [Avoids, failIf_eq_error]

@[simp] theorem avoids_okOr {o : Option α} {e' : ε} :
    Avoids (okOr o e') e ↔ (o = none → e' ≠ e) := by
  simp [Avoids, okOr_eq_error]

/-- A sequence avoids an error if both its parts do. -/
@[simp] theorem avoids_bind {x} {f : β → Except ε α} :
    Avoids (x >>= f) e ↔ Avoids x e ∧ ∀ b, x = .ok b → Avoids (f b) e := by
  cases x <;> simp [Avoids, bind, Except.bind]

@[simp] theorem avoids_map {x} {g : β → α} : Avoids (g <$> x) e ↔ Avoids x e := by
  cases x <;> simp [Avoids, Functor.map, Except.map]

@[simp] theorem avoids_mapErr {x : Except ε' α} {f : ε' → ε} :
    Avoids (mapErr x f) e ↔ ∀ e', x = .error e' → f e' ≠ e := by
  cases x <;> simp [Avoids, mapErr]

theorem Avoids.forM {f : α → Except ε Unit} {l : List α} (h : ∀ a ∈ l, Avoids (f a) e) :
    Avoids (l.forM f) e := by
  induction l with
  | nil => exact avoids_ok
  | cons a l ih =>
    show Avoids (f a >>= fun _ => l.forM f) e
    rw [avoids_bind]
    exact ⟨h a mem_cons_self, fun _ _ => ih fun b hb => h b (mem_cons_of_mem _ hb)⟩

end Avoids

/-! ## Loops of fallible steps -/

theorem foldlM_cons_ok {f : σ → α → Except ε σ} {s r : σ} {a : α} {l} :
    (a :: l).foldlM f s = .ok r ↔ ∃ s', f s a = .ok s' ∧ l.foldlM f s' = .ok r := by
  rw [foldlM_cons, bind_eq_ok]

/-- A loop of checks passes iff every check does. -/
theorem forM_eq_ok {f : α → Except ε Unit} {l : List α} :
    l.forM f = .ok () ↔ ∀ a ∈ l, f a = .ok () := by
  induction l with
  | nil => simp [List.forM, pure, Except.pure]
  | cons a l ih =>
    rw [forall_mem_cons, ← ih]
    show (f a >>= fun _ => l.forM f) = .ok () ↔ _
    rw [bind_eq_ok, exists_unit]

/-- What every step of a loop preserves, a loop that returns `Ok` preserves. -/
theorem foldlM_invariant {f : σ → α → Except ε σ} {P : σ → Prop} :
    ∀ {l : List α} {s r : σ},
      (∀ a ∈ l, ∀ s s', P s → f s a = .ok s' → P s') → P s → l.foldlM f s = .ok r → P r := by
  intro l
  induction l with
  | nil =>
    intro s r _ hs h
    cases h
    exact hs
  | cons a l ih =>
    intro s r hstep hs h
    obtain ⟨s', h1, h2⟩ := foldlM_cons_ok.mp h
    exact ih (fun b hb => hstep b (mem_cons_of_mem _ hb))
      (hstep a mem_cons_self _ _ hs h1) h2

/-- Values that a list of calls agrees with one by one are what `mapM` returns. -/
theorem mapM_eq_ok {γ : Type} {f : α → Except ε β} {g : α → γ} {k : β → γ} {l : List α} :
    ∀ {r : List β}, l.map g = r.map k → (∀ a ∈ l, ∀ b ∈ r, g a = k b → f a = .ok b) →
      l.mapM f = .ok r := by
  induction l with
  | nil =>
    intro r hmap _
    rw [map_nil, eq_comm, map_eq_nil_iff] at hmap
    rw [hmap]
    rfl
  | cons a l ih =>
    intro r hmap hall
    cases r with
    | nil => cases hmap
    | cons b r =>
      rw [map_cons, map_cons, List.cons.injEq] at hmap
      have hfst := hall a mem_cons_self b mem_cons_self hmap.1
      have hrest := ih hmap.2 fun a' ha' b' hb' =>
        hall a' (mem_cons_of_mem _ ha') b' (mem_cons_of_mem _ hb')
      rw [mapM_cons, hfst, ok_bind, hrest]
      rfl

end DevManager
