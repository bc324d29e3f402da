import DevManager.Lib.Result
import Mathlib.Order.Lattice

/-!
# Agreeing on the smaller offer

Two parties agree on a value: an offer that is not valid is refused, and of two valid offers they
take the meet, cut off at a bound that both know. What they agree on does not depend on who offers
first, nor, among three, on which two agree first.

* `AgreesOnMeet`: the specification of such an agreement.
* `AgreesOnMeet.comm`, `AgreesOnMeet.assoc`: the order of the offers.
* `AgreesOnMeet.self_iff`: an offer agrees with itself exactly below the bound.
* `AgreesOnMeet.isGreatest`: nothing larger is below both offers and the bound.
-/

namespace DevManager

variable {α ε : Type} [SemilatticeInf α]

/-- `agree` takes the meet of two valid offers and the bound, and that is valid again. -/
structure AgreesOnMeet (valid : α → Prop) (bound : α) (agree : α → α → Except ε α) : Prop where
  agree_eq : ∀ {a b : α}, valid a → valid b → agree a b = .ok (a ⊓ b ⊓ bound)
  closed : ∀ {a b : α}, valid a → valid b → valid (a ⊓ b ⊓ bound)

namespace AgreesOnMeet

variable {valid : α → Prop} {bound a b c n : α} {agree : α → α → Except ε α}

variable (h : AgreesOnMeet valid bound agree)

include h

theorem comm (ha : valid a) (hb : valid b) :
    agree a b = agree b a := by
  rw [h.agree_eq ha hb, h.agree_eq hb ha, inf_comm a b]

/-- Of three parties the first two or the last two may agree first. -/
theorem assoc (ha : valid a) (hb : valid b) (hc : valid c) :
    (agree a b >>= fun n => agree n c) = agree b c >>= agree a := by
  have hmeet : a ⊓ b ⊓ bound ⊓ c ⊓ bound = a ⊓ (b ⊓ c ⊓ bound) ⊓ bound := by
    rw [inf_right_comm (a ⊓ b) bound c, inf_assoc a b c, inf_assoc a (b ⊓ c) bound]
  rw [h.agree_eq ha hb, h.agree_eq hb hc, ok_bind, ok_bind, h.agree_eq (h.closed ha hb) hc,
    h.agree_eq ha (h.closed hb hc), hmeet]

/-- An offer agrees with itself iff the bound does not cut it off. -/
theorem self_iff (ha : valid a) :
    agree a a = .ok a ↔ a ≤ bound := by
  rw [h.agree_eq ha ha, inf_idem, Except.ok.injEq, inf_eq_left]

/-- What was agreed on is below both offers and the bound, and nothing larger is. -/
theorem isGreatest (ha : valid a) (hb : valid b)
    (hn : agree a b = .ok n) : n ≤ a ∧ n ≤ b ∧ n ≤ bound ∧
      ∀ m, m ≤ a → m ≤ b → m ≤ bound → m ≤ n := by
  rw [h.agree_eq ha hb, Except.ok.injEq] at hn
  subst hn
  refine ⟨inf_le_left.trans inf_le_left, inf_le_left.trans inf_le_right, inf_le_right, ?_⟩
  intro m hmark hmb hmbound
  exact le_inf (le_inf hmark hmb) hmbound

/-- What was agreed on is agreed on again with itself. -/
theorem again (ha : valid a) (hb : valid b)
    (hn : agree a b = .ok n) : valid n ∧ agree n n = .ok n := by
  have hbound : n ≤ bound := (h.isGreatest ha hb hn).2.2.1
  rw [h.agree_eq ha hb, Except.ok.injEq] at hn
  subst hn
  exact ⟨h.closed ha hb, (h.self_iff (h.closed ha hb)).mpr hbound⟩

end AgreesOnMeet

end DevManager
