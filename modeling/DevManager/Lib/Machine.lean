import Mathlib.Logic.Relation

/-!
# Machines and what holds in all their runs

A machine is a set of initial states and a step relation. The three rules below
are all that the rest of the development uses:

* `Machine.Reachable.invariant`: what holds initially and is kept by every step
  holds in every reachable state.
* `Machine.run_invariant`: a relation to the start of a run that every step
  keeps holds along the run.
* `Machine.Reachable.simulate`: a machine whose steps are runs of another one
  reaches no other states.
-/

namespace DevManager

/-- A transition system on `σ`. -/
structure Machine (σ : Type) where
  init : σ → Prop
  step : σ → σ → Prop

namespace Machine

variable {σ : Type} {m n : Machine σ} {s t : σ}

/-- A run: finitely many steps. -/
def Run (m : Machine σ) : σ → σ → Prop := Relation.ReflTransGen m.step

/-- A state that some run from an initial state ends in. -/
def Reachable (m : Machine σ) (s : σ) : Prop := ∃ s₀, m.init s₀ ∧ m.Run s₀ s

theorem Reachable.start (h : m.init s) : m.Reachable s := ⟨s, h, .refl⟩

theorem Reachable.next (h : m.Reachable s) (hstep : m.step s t) : m.Reachable t := by
  obtain ⟨s₀, h0, hrun⟩ := h
  exact ⟨s₀, h0, hrun.tail hstep⟩

theorem Reachable.run (h : m.Reachable s) (hrun : m.Run s t) : m.Reachable t := by
  obtain ⟨s₀, h0, hrun0⟩ := h
  exact ⟨s₀, h0, hrun0.trans hrun⟩

/-- What holds initially and is kept by every step from a reachable state holds in every
reachable state. -/
theorem Reachable.invariant {P : σ → Prop} (h : m.Reachable s) (hin : ∀ s, m.init s → P s)
    (hstep : ∀ s t, m.Reachable s → P s → m.step s t → P t) : P s := by
  obtain ⟨s₀, h0, hrun⟩ := h
  induction hrun with
  | refl => exact hin s₀ h0
  | tail hrun hlast ih => exact hstep _ _ ⟨s₀, h0, hrun⟩ ih hlast

/-- What every step from a reachable state keeps of the start of the run, the run keeps. -/
theorem run_invariant {R : σ → Prop} (hs : m.Reachable s) (hrun : m.Run s t) (h0 : R s)
    (hstep : ∀ a b, m.Reachable a → R a → m.step a b → R b) : R t := by
  induction hrun with
  | refl => exact h0
  | tail hrun hlast ih => exact hstep _ _ (hs.run hrun) ih hlast

/-- If every step of `m` is a run of `n`, every state reachable in `m` is reachable in `n`. -/
theorem Reachable.simulate (h : m.Reachable s) (hin : ∀ s, m.init s → n.init s)
    (hstep : ∀ a b, n.Reachable a → m.step a b → n.Run a b) : n.Reachable s :=
  h.invariant (fun s hs => .start (hin s hs)) fun a b _ ha hab => ha.run (hstep a b ha hab)

end Machine

end DevManager
