import Mathlib.Data.List.Basic
import Mathlib.Data.List.Induction

/-!
# An object and the calls made on it

A stateful object of the source is a state and a function that runs one call:
what the call returns, and the state it leaves, also when it returns an error.
`after` is the state after a list of calls and `trace` is the calls with what
they returned.

* `after_invariant`: what every call keeps, a list of calls keeps.
* `history_invariant`: the same for a property of the state and the trace so
  far.
* `steps`: the calls with the states they are made in.
* `Along`: a condition that every call of a list meets in the state it is made
  in, with `along_invariant` and `along_steps_invariant`, what is kept by every
  call that meets it.
* `keeping`: a call that leaves the state as it is when it fails.
-/

namespace DevManager

namespace Calls

variable {σ κ ρ : Type} (call : σ → κ → ρ × σ)

/-- The state after a list of calls. -/
def after (s : σ) (calls : List κ) : σ := calls.foldl (fun s c => (call s c).2) s

/-- The calls, each with what it returned. -/
def trace (s : σ) : List κ → List (κ × ρ)
  | [] => []
  | c :: calls => (c, (call s c).1) :: trace (call s c).2 calls

/-- The calls, each with the state it is made in. -/
def steps (s : σ) : List κ → List (σ × κ)
  | [] => []
  | c :: calls => (s, c) :: steps (call s c).2 calls

variable {call} (s : σ)

@[simp] theorem after_nil : after call s [] = s := rfl

@[simp] theorem trace_nil : trace call s [] = [] := rfl

theorem after_cons (c : κ) (calls : List κ) :
    after call s (c :: calls) = after call (call s c).2 calls := rfl

theorem after_append (xs ys : List κ) :
    after call s (xs ++ ys) = after call (after call s xs) ys := List.foldl_append

theorem trace_append (xs ys : List κ) :
    ∀ s, trace call s (xs ++ ys) = trace call s xs ++ trace call (after call s xs) ys := by
  induction xs with
  | nil => intro s; rfl
  | cons c xs ih =>
    intro s
    show (c, (call s c).1) :: trace call (call s c).2 (xs ++ ys) = _
    rw [ih]
    rfl

theorem after_concat (calls : List κ) (c : κ) :
    after call s (calls ++ [c]) = (call (after call s calls) c).2 := by
  rw [after_append, after_cons, after_nil]

theorem trace_concat (calls : List κ) (c : κ) :
    trace call s (calls ++ [c]) = trace call s calls ++ [(c, (call (after call s calls) c).1)] := by
  rw [trace_append]
  rfl

theorem steps_concat (c : κ) (calls : List κ) :
    ∀ s, steps call s (calls ++ [c]) = steps call s calls ++ [(after call s calls, c)] := by
  induction calls with
  | nil => intro s; rfl
  | cons d calls ih =>
    intro s
    show (s, d) :: steps call (call s d).2 (calls ++ [c]) = _
    rw [ih]
    rfl

/-- A place in a history with one more entry is the new entry, or a place in the history. -/
theorem concat_eq_split {α : Type} {history before after} {x y : α}
    (h : history ++ [x] = before ++ y :: after) :
    (before = history ∧ y = x ∧ after = []) ∨
      ∃ rest, after = rest ++ [x] ∧ history = before ++ y :: rest := by
  rcases List.eq_nil_or_concat' after with rfl | ⟨rest, last, rfl⟩
  · obtain ⟨hpre, hlast⟩ := List.append_inj' h rfl
    cases hlast
    exact .inl ⟨hpre.symm, rfl, rfl⟩
  · rw [← List.cons_append, ← List.append_assoc] at h
    obtain ⟨hhist, hlast⟩ := List.append_inj' h rfl
    cases hlast
    exact .inr ⟨rest, rfl, hhist⟩

/-- What every call keeps, a list of calls keeps. -/
theorem after_invariant {P : σ → Prop} {s : σ} (hs : P s)
    (hcall : ∀ s c, P s → P (call s c).2) (calls : List κ) : P (after call s calls) := by
  induction calls generalizing s with
  | nil => exact hs
  | cons c calls ih => exact ih (hcall s c hs)

/-- A property of the state and the calls that led to it, kept by one more call. -/
theorem history_invariant {P : σ → List (κ × ρ) → Prop} {s : σ} (hs : P s [])
    (hcall : ∀ s history c, P s history → P (call s c).2 (history ++ [(c, (call s c).1)]))
    (calls : List κ) : P (after call s calls) (trace call s calls) := by
  induction calls using List.reverseRecOn with
  | nil => exact hs
  | append_singleton calls c ih =>
    rw [after_concat, trace_concat]
    exact hcall _ _ c ih

/-! ## Conditions along a run -/

variable (call) in
/-- Every call of the list meets `Q` in the state it is made in. -/
def Along (Q : σ → κ → Prop) : σ → List κ → Prop
  | _, [] => True
  | s, c :: calls => Q s c ∧ Along Q (call s c).2 calls

theorem along_append {Q : σ → κ → Prop} (xs ys : List κ) :
    ∀ s, Along call Q s (xs ++ ys) ↔ Along call Q s xs ∧ Along call Q (after call s xs) ys := by
  induction xs with
  | nil => intro s; simp [Along]
  | cons c xs ih =>
    intro s
    rw [List.cons_append, Along, Along, ih, after_cons, and_assoc]

/-- A weaker condition is met along the same run. -/
theorem along_mono {Q R : σ → κ → Prop} (h : ∀ s c, Q s c → R s c) (calls : List κ) :
    ∀ {s : σ}, Along call Q s calls → Along call R s calls := by
  induction calls with
  | nil => exact fun _ => trivial
  | cons c calls ih => exact fun hq => ⟨h _ c hq.1, ih hq.2⟩

/-- What every call of the list has is met in whatever state it is made in. -/
theorem along_of_forall {Q : κ → Prop} {calls} (h : ∀ c ∈ calls, Q c) :
    ∀ s, Along call (fun _ c => Q c) s calls := by
  induction calls with
  | nil => exact fun _ => trivial
  | cons c calls ih =>
    obtain ⟨hc, hrest⟩ := List.forall_mem_cons.mp h
    exact fun s => ⟨hc, ih hrest _⟩

theorem along_and {Q R : σ → κ → Prop} {calls} :
    ∀ {s : σ}, Along call Q s calls → Along call R s calls →
      Along call (fun s c => Q s c ∧ R s c) s calls := by
  induction calls with
  | nil => exact fun _ _ => trivial
  | cons c calls ih => exact fun hq hr => ⟨⟨hq.1, hr.1⟩, ih hq.2 hr.2⟩

/-- What every call that meets `Q` keeps, a list of such calls keeps. -/
theorem along_invariant {P : σ → Prop} {Q : σ → κ → Prop} (hcall : ∀ s c,
    P s → Q s c → P (call s c).2)
    (calls : List κ) : ∀ {s : σ}, P s → Along call Q s calls → P (after call s calls) := by
  induction calls with
  | nil => intro s hs _; exact hs
  | cons c calls ih =>
    intro s hs hq
    exact ih (hcall s c hs hq.1) hq.2

/-- A property of the state and the steps that led to it, kept by every call that meets `Q`. -/
theorem along_steps_invariant {P : σ → List (σ × κ) → Prop} {Q : σ → κ → Prop} {s : σ} (hs : P s [])
    (hcall : ∀ s history c, P s history → Q s c → P (call s c).2 (history ++ [(s, c)]))
    (calls : List κ) (h : Along call Q s calls) : P (after call s calls) (steps call s calls) := by
  induction calls using List.reverseRecOn with
  | nil => exact hs
  | append_singleton calls c ih =>
    obtain ⟨hcalls, hc⟩ := (along_append calls [c] s).mp h
    rw [after_concat, steps_concat]
    exact hcall _ _ c (ih hcalls) hc.1

/-! ## Calls that may fail -/

section Keeping

variable {ε α : Type} {s : σ} {answer : Except ε (α × σ)}

/-- A call that leaves the state as it is when it fails. -/
def keeping (s : σ) (answer : Except ε (α × σ)) : Except ε α × σ :=
  match answer with
  | .ok (a, s') => (.ok a, s')
  | .error e => (.error e, s)

theorem keeping_invariant {P : σ → Prop} (hs : P s) (h : ∀ a s', answer = .ok (a, s') → P s') :
    P (keeping s answer).2 := by
  cases answer with
  | error => exact hs
  | ok answer => exact h answer.1 answer.2 rfl

theorem keeping_error {e : ε} (h : (keeping s answer).1 = .error e) : (keeping s answer).2 = s := by
  cases answer with
  | error e' => rfl
  | ok answer => cases h

end Keeping

end Calls

end DevManager
