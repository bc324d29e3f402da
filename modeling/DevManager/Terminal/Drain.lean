import DevManager.Terminal.Service

/-!
# What draining leaves alone

Every read of a terminal first drains what its process has published. Draining
moves the sequence, the window of deltas and what was last seen of the screen; the
identity of the terminal, its input, its clients and its process stay
(`drainAttachedOutput_offScreen`).
-/

namespace DevManager.Terminal

/-- The projection but for its scrollback. -/
def ProjectionSource.forgetHistory : ProjectionSource → ProjectionSource
  | .fixture grid =>
    .fixture { grid with screen := { grid.screen with displayOffset := 0, historySize := 0 } }
  | .attached runtime =>
    .attached { runtime with
      screen := { runtime.screen with displayOffset := 0, historySize := 0 } }

@[simp] theorem ProjectionSource.forgetHistory_boundHistory [TerminalEmulator]
    (p : ProjectionSource) (n : ℕ) :
    (p.boundHistory n).forgetHistory = p.forgetHistory := by
  obtain ⟨displayOffset, historySize, heq⟩ := TerminalEmulator.viewport (max n 1) p.screen
  cases p <;> simp_all [boundHistory, TerminalScreenSnapshot.boundHistory, forgetHistory, screen]

namespace HostedTerminal

variable {t t' : HostedTerminal} {id : TerminalId}

theorem projection_cases (t : HostedTerminal) :
    (∃ grid, t.projection = .fixture grid) ∨ ∃ runtime, t.projection = .attached runtime := by
  cases t.projection with
  | fixture => exact .inl ⟨_, rfl⟩
  | attached => exact .inr ⟨_, rfl⟩

/-- All of a terminal that draining leaves alone. -/
def offScreen (t : HostedTerminal) : HostedTerminal :=
  { t with
    sequence := .zero, projection := t.projection.forgetHistory, pendingOutput := .default,
    pendingLifecycle := [], exitSummary := none, truncated := false, observedOutputBytes := 0,
    outputPressureCoalesced := false, lastRows := [], lastCursor := none, lastModes := .default,
    lastTitle := none, deltas := [] }

@[simp] theorem offScreen_enforce [TerminalEmulator] (screen : TerminalScreenSnapshot) :
    (t.enforceScrollbackBoundFromScreen screen).offScreen = t.offScreen := by
  unfold enforceScrollbackBoundFromScreen
  split_ifs
  · simp [offScreen]
  · rfl

@[simp] theorem offScreen_recordDelta (sequence) (screen) :
    (t.recordDeltaFromScreen id sequence screen).offScreen = t.offScreen := by
  unfold recordDeltaFromScreen
  simp only
  split_ifs <;> rfl

theorem bumpSequence_wp {Q : TerminalSequence → HostedTerminal → Prop}
    {R : TerminalError → HostedTerminal → Prop} :
    Wp bumpSequence Q R t ↔ (∀ next,
      t.sequence.next = .ok next → Q next { t with sequence := next }) ∧
      ∀ error, t.sequence.next = .error error → R error t := by
  simp [bumpSequence]

variable {o : HostedTerminal}

theorem settleLifecycleEvent_offScreen (event) (h : t.offScreen = o) :
    Wp (settleLifecycleEvent id event) (fun _ t' => t'.offScreen = o)
      (fun _ t' => t'.offScreen = o) t := by
  simp only [settleLifecycleEvent, wp_bind, wp_modify, bumpSequence_wp]
  exact ⟨fun next _ => h, fun error _ => h⟩

theorem drainLifecycle_offScreen (h : t.offScreen = o) :
    Wp (drainLifecycle id) (fun _ t' => t'.offScreen = o) (fun _ t' => t'.offScreen = o) t := by
  simp only [drainLifecycle, wp_bind, wp_get, wp_set]
  exact Wp.forM (P := fun _ (t' : HostedTerminal) => t'.offScreen = o)
    (fun event _ _ h' => settleLifecycleEvent_offScreen event h') _ h

variable [TerminalEmulator]

theorem recordScreen_offScreen (coalesced : Bool) (h : t.offScreen = o) :
    Wp (recordScreen id coalesced) (fun _ t' => t'.offScreen = o) (fun _ t' => t'.offScreen = o)
      t := by
  simp only [recordScreen, wp_bind, wp_get]
  cases t.projection with
  | fixture => exact h
  | attached runtime =>
    simp only [wp_bind, wp_modify, bumpSequence_wp]
    have henforced : ({ t.enforceScrollbackBoundFromScreen runtime.screen with
        outputPressureCoalesced := t.outputPressureCoalesced || coalesced }).offScreen = o :=
      (offScreen_enforce runtime.screen).trans h
    refine ⟨fun next _ => ?_, fun error _ => henforced⟩
    rw [offScreen_recordDelta]
    exact henforced

theorem ingestOutput_offScreen (drain) (h : t.offScreen = o) :
    Wp (ingestOutput id drain) (fun _ t' => t'.offScreen = o) (fun _ t' => t'.offScreen = o) t := by
  cases drain with
  | empty => exact h
  | coalesced bytes =>
    simp only [ingestOutput, wp_bind, wp_modify]
    exact recordScreen_offScreen true h
  | notifications count bytes =>
    simp only [ingestOutput, wp_bind, wp_modify]
    exact Wp.forM (P := fun _ (t' : HostedTerminal) => t'.offScreen = o)
      (fun _ _ _ h' => recordScreen_offScreen false h') _ h

theorem drainAttachedOutput_offScreen (h : t.offScreen = o) :
    Wp (drainAttachedOutput id) (fun _ t' => t'.offScreen = o) (fun _ t' => t'.offScreen = o)
      t := by
  simp only [drainAttachedOutput, takePendingOutput, wp_bind, wp_get, wp_lift, wp_set, wp_pure]
  refine (drainLifecycle_offScreen h).imp (fun _ t' ht' => ?_) fun _ _ ht' => ht'
  exact ⟨fun _ _ => ingestOutput_offScreen _ ht', fun _ _ => ht'⟩

end HostedTerminal

end DevManager.Terminal
