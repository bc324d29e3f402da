import DevManager.Prompts.DiffLines

/-!
# What the phases of a diff leave alone

The calls of the phases spend a budget and write the result. What a call keeps of it is the same
when it is broken off.

* `maintains_onBudget`: what does not depend on the budget.
* `maintains_appendInlineSpans`: the comparison of two lines keeps what each of its spans keeps.
-/

namespace DevManager.Prompts

/-- A call of a phase leaves a part of what the phases write as it is, also when it fails. -/
def Keeps {α γ : Type} (part : DiffWork → γ) (call : Phase α) : Prop :=
  ∀ value, Maintains (fun work => part work = value) call

section Keeps

variable {α β γ : Type} {part : DiffWork → γ}

theorem Keeps.wp {call : Phase α} (h : Keeps part call) (work : DiffWork) :
    Wp call (fun _ work' => part work' = part work) (fun _ work' => part work' = part work) work :=
  h _ work rfl

theorem wp_onBudget {call} {Q : α → DiffWork → Prop} {R : PhaseStop → DiffWork → Prop}
    {work} :
    Wp (onBudget call) Q R work ↔ Wp call (fun a budget => Q a { work with budget })
      (fun stop budget => R stop.toPhase { work with budget }) work.budget := by
  unfold Wp onBudget
  cases call work.budget <;> rfl

theorem maintains_onBudget {I : DiffWork → Prop}
    (hI : ∀ work budget, I work → I { work with budget })
    (call : Budgeted α) : Maintains I (onBudget call) := by
  intro work h
  rw [wp_onBudget]
  exact Wp.of_forall (fun _ budget => hI work budget h) fun _ budget => hI work budget h

theorem maintains_copy {I : DiffWork → Prop}
    (hI : ∀ work budget, I work → I { work with budget })
    (text) : Maintains I (copyWithCancellation text) :=
  (maintains_onBudget hI _).bind fun _ => Maintains.foldlM
    (fun _ _ _ => (maintains_onBudget hI _).bind fun _ => maintains_pure _) _

variable (part : PromptDiff → γ)

theorem keeps_onBudget (call : Budgeted α) :
    Keeps (fun work => part work.result) (onBudget call) :=
  fun _ => maintains_onBudget (fun _ _ h => h) call

theorem keeps_reserve (call : OutputBudget → Bool × OutputBudget) :
    Keeps (fun work => part work.result) (reserve call) := by
  intro value work h
  unfold reserve
  simp only [wp_bind, wp_get, wp_set, wp_refuseIf]
  exact ⟨fun _ => h, fun _ => h⟩

theorem keeps_copy (text) :
    Keeps (fun work => part work.result) (copyWithCancellation text) :=
  fun _ => maintains_copy (fun _ _ h => h) text

theorem copyWithCancellation_spec (text) {work : DiffWork} :
    Wp (copyWithCancellation text) (fun copied work' => copied = text ∧ work'.result = work.result)
      (fun _ work' => work'.result = work.result) work := by
  have hcopied : Wp (copyWithCancellation text) (fun copied _ => copied = text)
      (fun _ _ => True) work := by
    unfold copyWithCancellation
    rw [wp_bind]
    refine Wp.of_forall (fun _ work => ?_) fun _ _ => trivial
    have hrule := Wp.foldlM (R := fun (_ : PhaseStop) (_ : DiffWork) => True)
      (f := fun bytes chunk => do
        onBudget observeCancellation
        pure (bytes ++ chunk))
      (P := fun rest bytes _ => bytes ++ rest.flatten = text)
      (fun bytes chunk rest work h => ?_) (chunks workChunkBytes text) (a := []) (s := work)
      (by rw [chunks_flatten (by decide), List.nil_append])
    · refine hrule.imp (fun copied work' h => ?_) fun _ _ h => h
      rwa [List.flatten_nil, List.append_nil] at h
    · rw [wp_bind]
      refine Wp.of_forall (fun _ work' => ?_) fun _ _ => trivial
      rw [wp_pure, List.append_assoc, ← List.flatten_cons]
      exact h
  exact (hcopied.both ((keeps_copy id text).wp work)).imp (fun _ _ h => h) fun _ _ h => h.2

variable {I : DiffWork → Prop} {pair : PairedLines}

theorem maintains_inlineLoop {old new}
    (hold : old.length ≤ maxPromptDiffGraphemeCount)
    (hnew : new.length ≤ maxPromptDiffGraphemeCount)
    (hbudget : ∀ work budget, I work → I { work with budget })
    (hlarge : ∀ work, I work → I { work with output := { work.output with approximate := true } })
    (hspan : ∀ graphemes start stop kind, stop ≤ maxPromptDiffGraphemeCount →
      Maintains I (appendInlineSpan pair graphemes start stop kind))
    (fuel : ℕ) : ∀ oldIndex newIndex approximate, Maintains I
      (inlineLoop pair old new fuel oldIndex newIndex approximate) := by
  induction fuel with
  | zero => exact fun _ _ _ => maintains_pure _
  | succ fuel ih =>
    intro oldIndex newIndex approximate work h
    unfold inlineLoop
    rw [wp_ite]
    refine ⟨fun hins => ?_, fun _ => h⟩
    rw [wp_bind]
    refine (maintains_onBudget hbudget _ work h).imp (fun same work h => ?_) fun _ _ h => h
    rw [wp_ite]
    refine ⟨fun _ => ih _ _ _ work h, fun _ => ?_⟩
    rw [wp_bind, wp_onBudget]
    refine (findGraphemeAnchor_spec hins.1 hins.2).imp (fun anchor budget hanchor => ?_)
      fun _ budget _ => hbudget work budget h
    obtain ⟨-, -, hle, hle'⟩ := anchor_getD hins.1 hins.2 hanchor
    have hrest : ∀ approximate, Maintains I (do
        appendInlineSpanPair pair old new oldIndex (anchor.getD (old.length, new.length)).1 newIndex
          (anchor.getD (old.length, new.length)).2
        inlineLoop pair old new fuel (anchor.getD (old.length, new.length)).1
          (anchor.getD (old.length, new.length)).2 approximate) := fun approximate =>
      ((hspan _ _ _ _ (hle.trans hold)).bind fun _ => hspan _ _ _ _ (hle'.trans hnew)).bind
        fun _ => ih _ _ _
    exact maintains_ite ((maintains_modify hlarge).bind fun _ => hrest _) (hrest _) _
      (hbudget work budget h)

variable [UnicodeSegmentation]

theorem maintains_appendInlineSpans
    (hbudget : ∀ work budget, I work → I { work with budget })
    (hlarge : ∀ work, I work → I { work with output := { work.output with approximate := true } })
    (hspan : ∀ graphemes start stop kind, stop ≤ maxPromptDiffGraphemeCount →
      Maintains I (appendInlineSpan pair graphemes start stop kind)) :
    Maintains I (appendInlineSpans pair) := by
  intro work h
  unfold appendInlineSpans
  rw [wp_bind, wp_onBudget]
  refine (collectGraphemes_spec _).imp (fun old budget hold => ?_)
    fun _ budget _ => hbudget work budget h
  rw [wp_bind, wp_onBudget]
  refine (collectGraphemes_spec _).imp (fun new budget' hnew => ?_)
    fun _ budget' _ => hbudget _ budget' (hbudget work budget h)
  rw [wp_bind]
  refine (maintains_inlineLoop hold.2 hnew.2 hbudget hlarge hspan _ _ _ _ _
    (hbudget _ budget' (hbudget work budget h))).imp (fun left work' h' => ?_) fun _ _ h' => h'
  exact maintains_ite (((hspan _ _ _ _ hold.2).bind fun _ => hspan _ _ _ _ hnew.2).bind
    fun _ => maintains_pure _) (maintains_pure _) work' h'

end Keeps

end DevManager.Prompts
