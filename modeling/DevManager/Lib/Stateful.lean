import DevManager.Lib.Result

/-!
# Fallible code that changes its state

A method `fn f(&mut self) -> Result<T, E>` is `EStateM E σ T`: it returns a value
or an error, and leaves a state in both cases. `Wp x Q R s` says that `x`, run on
`s`, either returns a value and a state with `Q` or an error and a state with
`R`.

* `wp_bind`, `wp_get`, `wp_set`, `wp_modify`, `wp_throw`, `wp_lift`: what each
  construct of a method body needs of its start.
* `Wp.imp`: weaker postconditions; `Wp.both`: two specifications at once.
* `Wp.forM`: the rule for `for item in items { step(item)?; }`; `Wp.foldlM`: with a local that
  the rounds pass on.
* `Maintains I x`: an invariant that `x` keeps in both cases, with a rule for each construct.
* `refuseIf c e`: `if c { return Err(e) }`.
-/

namespace DevManager

variable {ε σ α β : Type}

/-- The result of a call that cannot change the state, inside one that can. -/
def liftResult (r : Except ε α) : EStateM ε σ α :=
  match r with
  | .ok a => pure a
  | .error e => throw e

/-- `if c { return Err(e) }`. -/
def refuseIf (c : Prop) [Decidable c] (e : ε) : EStateM ε σ Unit :=
  if c then throw e else pure ()

/-- What a call returned, and the state it left. -/
def runOn (x : EStateM ε σ α) (s : σ) : Except ε α × σ :=
  match x s with
  | .ok a s' => (.ok a, s')
  | .error e s' => (.error e, s')

/-- Run on `s`, `x` returns a value and a state with `Q`, or an error and a state with `R`. -/
def Wp (x : EStateM ε σ α) (Q : α → σ → Prop) (R : ε → σ → Prop) (s : σ) : Prop :=
  match x s with
  | .ok a s' => Q a s'
  | .error e s' => R e s'

section Wp

variable {Q Q' : α → σ → Prop} {R R' : ε → σ → Prop} {s : σ} {x : EStateM ε σ α}

theorem wp_iff_runOn :
    Wp x Q R s ↔ (∀ a s', runOn x s = (.ok a, s') → Q a s') ∧
      ∀ e s', runOn x s = (.error e, s') → R e s' := by
  unfold Wp runOn
  cases x s <;> simp

theorem Wp.of_ok {a : α} {s' : σ} (h : Wp x Q R s)
    (hrun : runOn x s = (.ok a, s')) : Q a s' :=
  (wp_iff_runOn.mp h).1 a s' hrun

theorem Wp.of_error {e : ε} {s' : σ} (h : Wp x Q R s)
    (hrun : runOn x s = (.error e, s')) : R e s' :=
  (wp_iff_runOn.mp h).2 e s' hrun

/-- What holds of the state in both cases holds of the state the call leaves. -/
theorem Wp.of_both {P : σ → Prop} (h : Wp x (fun _ => P) (fun _ => P) s) :
    P (runOn x s).2 := by
  unfold Wp at h
  unfold runOn
  cases hx : x s <;> rw [hx] at h <;> exact h

@[simp] theorem wp_pure {a : α} : Wp (pure a : EStateM ε σ α) Q R s ↔ Q a s := Iff.rfl

@[simp] theorem wp_throw {e : ε} : Wp (throw e : EStateM ε σ α) Q R s ↔ R e s := Iff.rfl

@[simp] theorem wp_get {Q : σ → σ → Prop} : Wp (get : EStateM ε σ σ) Q R s ↔ Q s s := Iff.rfl

@[simp] theorem wp_set {Q : PUnit → σ → Prop} {s' : σ} :
    Wp (set s' : EStateM ε σ PUnit) Q R s ↔ Q () s' := Iff.rfl

@[simp] theorem wp_modify {Q : PUnit → σ → Prop} {f : σ → σ} :
    Wp (modify f : EStateM ε σ PUnit) Q R s ↔ Q () (f s) := Iff.rfl

@[simp] theorem wp_modifyGet {f : σ → α × σ} :
    Wp (modifyGet f : EStateM ε σ α) Q R s ↔ Q (f s).1 (f s).2 := Iff.rfl

@[simp] theorem wp_bind {x} {f : β → EStateM ε σ α} :
    Wp (x >>= f) Q R s ↔ Wp x (fun b s' => Wp (f b) Q R s') R s := by
  unfold Wp
  show (match EStateM.bind x f s with | .ok a s' => Q a s' | .error e s' => R e s') ↔ _
  unfold EStateM.bind
  cases x s <;> rfl

@[simp] theorem wp_map {x} {f : β → α} :
    Wp (f <$> x) Q R s ↔ Wp x (fun b s' => Q (f b) s') R s := by
  unfold Wp
  show (match EStateM.map f x s with | .ok a s' => Q a s' | .error e s' => R e s') ↔ _
  unfold EStateM.map
  cases x s <;> rfl

@[simp] theorem wp_lift {r} :
    Wp (liftResult r : EStateM ε σ α) Q R s ↔ (∀ a, r = .ok a → Q a s) ∧ ∀ e,
      r = .error e → R e s := by
  cases r <;> simp [liftResult]

@[simp] theorem wp_refuseIf {c : Prop} [Decidable c] {e : ε} {Q : Unit → σ → Prop} :
    Wp (refuseIf c e : EStateM ε σ Unit) Q R s ↔ (c → R e s) ∧ (¬ c → Q () s) := by
  unfold refuseIf
  split_ifs with h <;> simp [h]

theorem wp_ite {c : Prop} [Decidable c] {x y} :
    Wp (if c then x else y) Q R s ↔ (c → Wp x Q R s) ∧ (¬ c → Wp y Q R s) := by
  split_ifs with h <;> simp [h]

theorem Wp.imp (h : Wp x Q R s) (hQ : ∀ a s', Q a s' → Q' a s')
    (hR : ∀ e s', R e s' → R' e s') : Wp x Q' R' s := by
  unfold Wp at h ⊢
  cases hx : x s with
  | ok a s' => rw [hx] at h; exact hQ a s' h
  | error e s' => rw [hx] at h; exact hR e s' h

/-- A call whose answer does not matter. -/
theorem Wp.of_forall (hQ : ∀ a s', Q a s') (hR : ∀ e s', R e s') :
    Wp x Q R s := by
  unfold Wp
  cases x s with
  | ok => exact hQ ..
  | error => exact hR ..

theorem Wp.both (h : Wp x Q R s) (h' : Wp x Q' R' s) :
    Wp x (fun a s' => Q a s' ∧ Q' a s') (fun e s' => R e s' ∧ R' e s') s := by
  unfold Wp at h h' ⊢
  cases hx : x s with
  | ok | error => rw [hx] at h h'; exact ⟨h, h'⟩

/-- The rule for loops: an invariant of the items that are left and the state; the first error
ends the loop. -/
theorem Wp.forM {P : List β → σ → Prop} {f : β → EStateM ε σ PUnit}
    (hstep : ∀ b l s, P (b :: l) s → Wp (f b) (fun _ s' => P l s') R s) (l : List β) :
    ∀ {s : σ}, P l s → Wp (l.forM f) (fun _ s' => P [] s') R s := by
  induction l with
  | nil => exact fun hs => hs
  | cons b l ih =>
    intro s hs
    show Wp (f b >>= fun _ => l.forM f) _ R s
    rw [wp_bind]
    exact (hstep b l s hs).imp (fun _ _ hs' => ih hs') fun _ _ h => h

/-- The rule for loops that pass a value on. -/
theorem Wp.foldlM {P : List β → α → σ → Prop} {f : α → β → EStateM ε σ α}
    (hstep : ∀ a b l s, P (b :: l) a s → Wp (f a b) (fun a' s' => P l a' s') R s) (l : List β) :
    ∀ {a : α} {s : σ}, P l a s → Wp (l.foldlM f a) (fun a' s' => P [] a' s') R s := by
  induction l with
  | nil => exact fun hs => hs
  | cons b l ih =>
    intro a s hs
    show Wp (f a b >>= fun a' => l.foldlM f a') _ R s
    rw [wp_bind]
    exact (hstep a b l s hs).imp (fun _ _ hs' => ih hs') fun _ _ h => h

theorem wp_forM_append {f : β → EStateM ε σ PUnit} {Q : PUnit → σ → Prop} (l l' : List β) :
    ∀ {s : σ}, Wp ((l ++ l').forM f) Q R s ↔ Wp (l.forM f) (fun _ s' => Wp (l'.forM f) Q R s')
      R s := by
  induction l with
  | nil => exact .rfl
  | cons b l ih =>
    intro s
    show Wp (f b >>= fun _ => (l ++ l').forM f) Q R s ↔ Wp (f b >>= fun _ => l.forM f) _ R s
    simp only [wp_bind, ih]

end Wp

/-! ## Invariants -/

/-- What holds of the state holds after `x`, whether it returns a value or an error. -/
def Maintains (I : σ → Prop) (x : EStateM ε σ α) : Prop :=
  ∀ s, I s → Wp x (fun _ => I) (fun _ => I) s

section Maintains

variable {I : σ → Prop}

theorem maintains_pure (a : α) : Maintains I (pure a : EStateM ε σ α) := fun _ h => h

theorem maintains_modify {f : σ → σ} (hf : ∀ s, I s → I (f s)) :
    Maintains I (modify f : EStateM ε σ PUnit) := hf

theorem Maintains.bind {x} {f : β → EStateM ε σ α} (h : Maintains I x)
    (hf : ∀ b, Maintains I (f b)) : Maintains I (x >>= f) := by
  intro s hs
  rw [wp_bind]
  exact (h s hs).imp (fun b s' hs' => hf b s' hs') fun _ _ hs' => hs'

theorem maintains_ite {c : Prop} [Decidable c] {x y : EStateM ε σ α} (hx : Maintains I x)
    (hy : Maintains I y) : Maintains I (if c then x else y) := by
  split_ifs
  · exact hx
  · exact hy

theorem Maintains.foldlM {f : α → β → EStateM ε σ α} {items : List β}
    (h : ∀ a, ∀ b ∈ items, Maintains I (f a b)) (a : α) : Maintains I (items.foldlM f a) := by
  induction items generalizing a with
  | nil => exact maintains_pure a
  | cons b items ih =>
    have htail : ∀ a, ∀ b ∈ items, Maintains I (f a b) :=
      fun a b hb => h a b (.tail _ hb)
    exact (h a b (.head _)).bind fun a' => ih htail a'

theorem Maintains.forM {f : β → EStateM ε σ PUnit} {items : List β}
    (h : ∀ b ∈ items, Maintains I (f b)) : Maintains I (items.forM f) := by
  induction items with
  | nil => exact maintains_pure ()
  | cons b items ih =>
    have htail : ∀ b ∈ items, Maintains I (f b) := fun b hb => h b (.tail _ hb)
    exact (h b (.head _)).bind fun _ => ih htail

end Maintains

end DevManager
