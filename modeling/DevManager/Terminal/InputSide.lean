import DevManager.Lib.OrdMap
import DevManager.Terminal.Drain

/-!
# The input side of a terminal

`InputSide` is what a terminal has accepted as input and what its process was handed of
it; `Fences` is what an input is checked against. A call that accepts no input and does
not restart the terminal keeps the input side; a call that fails keeps both, and
but for draining all of the terminal (`Refusal`). Only a scroll writes to the
process past the input side, when the mouse is reported.
-/

namespace DevManager.Terminal

open Std (ExtTreeMap)

/-- What the process of a projection was handed; a fixture has no process. -/
def ProjectionSource.handed : ProjectionSource → Option (List UInt8)
  | .fixture _ => none
  | .attached runtime => some runtime.written

@[simp] theorem ProjectionSource.handed_forgetHistory (p : ProjectionSource) :
    p.forgetHistory.handed = p.handed := by
  cases p <;> rfl

/-- The input that a terminal has accepted, and what its process was handed. -/
structure InputSide where
  sequence : ℕ
  ids : ExtTreeMap InputId ℕ
  bytes : List UInt8
  handed : Option (List UInt8)

/-- What an input is checked against. -/
structure Fences where
  closed : Bool
  taskId : TaskId
  agentSessionId : Option AgentSessionId
  runtimeGeneration : Option ℕ
  actionEpoch : Option ℕ
  sessionId : TerminalSessionId
  resourceId : ResourceId
  generation : TerminalGeneration
  focusEpoch : FocusEpoch
  isPlainShell : Bool
  grant : ClientId → Option ClientInputGrant

theorem TerminalSequence.next_error {s : TerminalSequence} {error}
    (h : s.next = .error error) : error = .sequenceOverflow := by
  unfold TerminalSequence.next at h
  split at h
  · cases h
  · cases h
    rfl

namespace HostedTerminal

variable {t t' : HostedTerminal} {id : TerminalId} {error : TerminalError}

variable (t)

def inputSide : InputSide :=
  ⟨t.acceptedInputSequence, t.acceptedInputIds, t.acceptedBytes, t.projection.handed⟩

def fences : Fences :=
  { t with grant := fun clientId => t.clients[clientId]?.map ClientViewState.grant }

theorem inputSide_offScreen : t.offScreen.inputSide = t.inputSide := by
  unfold inputSide offScreen
  rw [ProjectionSource.handed_forgetHistory]

variable {t}

theorem inputSide_of_offScreen (h : t'.offScreen = t.offScreen) : t'.inputSide = t.inputSide := by
  rw [← inputSide_offScreen t', h, inputSide_offScreen]

theorem fences_of_offScreen (h : t'.offScreen = t.offScreen) : t'.fences = t.fences := by
  show t'.offScreen.fences = t.offScreen.fences
  rw [h]

/-- What a call that fails with `error` leaves of a terminal: its input side and its fences, and
but for draining all of it, unless the sequences are exhausted. -/
structure Refusal (t : HostedTerminal) (error : TerminalError) (t' : HostedTerminal) : Prop where
  inputSide : t'.inputSide = t.inputSide
  fences : t'.fences = t.fences
  offScreen : error ≠ .sequenceOverflow → t'.offScreen = t.offScreen

theorem Refusal.of_offScreen (h : t'.offScreen = t.offScreen) : Refusal t error t' :=
  ⟨inputSide_of_offScreen h, fences_of_offScreen h, fun _ => h⟩

theorem Refusal.refl (t) (error) : Refusal t error t :=
  .of_offScreen rfl

theorem Refusal.after {t₁ : HostedTerminal} (h : Refusal t₁ error t')
    (hoff : t₁.offScreen = t.offScreen) : Refusal t error t' :=
  ⟨h.inputSide.trans (inputSide_of_offScreen hoff), h.fences.trans (fences_of_offScreen hoff),
    fun herror => (h.offScreen herror).trans hoff⟩

variable [TerminalEmulator]

theorem drain_offScreen (t) :
    Wp (drainAttachedOutput id) (fun _ t' => t'.offScreen = t.offScreen)
      (fun _ t' => t'.offScreen = t.offScreen) t :=
  drainAttachedOutput_offScreen rfl

/-! ## What the process does -/

omit [TerminalEmulator] in
theorem onRuntime_inputSide {f : AttachedRuntime → AttachedRuntime}
    (h : ∀ runtime, (f runtime).written = runtime.written) :
    (t.onRuntime f).inputSide = t.inputSide := by
  unfold onRuntime inputSide
  rcases projection_cases t with ⟨grid, hgrid⟩ | ⟨runtime, hrun⟩
  · simp only [hgrid]
  · simp only [hrun, ProjectionSource.handed, h]

omit [TerminalEmulator] in
theorem readerOutput_inputSide (screen) (title)
    (chunkLen : ℕ) : (t.readerOutput screen title chunkLen).inputSide = t.inputSide := by
  unfold readerOutput inputSide
  rcases projection_cases t with ⟨grid, hgrid⟩ | ⟨runtime, hrun⟩
  · simp only [hgrid]
  · simp only [hrun]
    split_ifs
    · rw [hrun]
    · rfl

omit [TerminalEmulator] in
theorem restartProcess_inputSide (fence) (screen)
    (view) : (t.restartProcess fence screen view).inputSide = t.inputSide := by
  unfold restartProcess
  split_ifs
  · rfl
  · exact onRuntime_inputSide fun _ => rfl

theorem applyFixtureReaderBytes_input (bytes) (shown) :
    Wp (applyFixtureReaderBytes id bytes shown) (fun _ t' => t'.inputSide = t.inputSide)
      (Refusal t) t := by
  simp only [applyFixtureReaderBytes, ensureOpen, wp_bind, wp_get, wp_refuseIf, wp_ite, wp_pure,
    wp_throw, wp_modify]
  refine ⟨fun _ => .refl t _, fun _ =>
    ⟨fun _ => trivial, fun _ => ⟨fun _ => .refl t _, fun _ => ?_⟩⟩⟩
  cases hproj : t.projection with
  | attached => exact .of_offScreen rfl
  | fixture grid =>
    simp only [wp_bind, wp_modify, bumpSequence_wp, wp_pure]
    have hshown : ({ t.noteObservedOutput bytes.length with
        projection := .fixture shown }).inputSide = t.inputSide := by
      unfold inputSide
      rw [hproj]
      rfl
    refine ⟨fun next _ => ?_, fun error herror => ⟨?_, ?_, fun hne => ?_⟩⟩
    · rw [← inputSide_offScreen, offScreen_recordDelta]
      show (enforceScrollbackBoundFromScreen shown.screen _).offScreen.inputSide = _
      rw [offScreen_enforce, inputSide_offScreen]
      exact hshown
    · rw [← inputSide_offScreen, offScreen_enforce, inputSide_offScreen]
      exact hshown
    · show (enforceScrollbackBoundFromScreen shown.screen _).offScreen.fences = _
      rw [offScreen_enforce]
      rfl
    · exact absurd (TerminalSequence.next_error herror) hne

/-! ## Reading -/

theorem snapshot_offScreen (t) :
    Wp (snapshot id) (fun _ t' => t'.offScreen = t.offScreen)
      (fun _ t' => t'.offScreen = t.offScreen) t := by
  simp only [snapshot, wp_bind, wp_get, wp_pure]
  exact drain_offScreen t

theorem updatesSince_input (clientId : ClientId) (g)
    (since) :
    Wp (updatesSince id clientId g since) (fun _ t' => t'.inputSide = t.inputSide) (Refusal t)
      t := by
  simp only [updatesSince, ensureOpen, wp_bind, wp_get, wp_refuseIf]
  refine ⟨fun _ => .refl t _, fun _ => (drain_offScreen t).imp (fun _ t' ht' => ?_)
    fun _ _ h' => .of_offScreen h'⟩
  -- A snapshot is the only part of the answer that may still fail.
  have hsnap : Wp (snapshot id) (fun _ t'' => t''.inputSide = t.inputSide) (Refusal t) t' :=
    (snapshot_offScreen t').imp (fun _ _ h' => inputSide_of_offScreen (h'.trans ht'))
      fun _ _ h' => .of_offScreen (h'.trans ht')
  have hsame : t'.inputSide = t.inputSide := inputSide_of_offScreen ht'
  simp only [replayDeltas, replaySnapshot, wp_ite, wp_bind, wp_get, wp_modify, wp_pure]
  exact ⟨fun _ => hsnap, fun _ => ⟨fun _ => hsnap, fun _ => ⟨fun _ => hsame, fun _ =>
    ⟨fun _ => ⟨fun _ => hsnap, fun _ => hsame⟩, fun _ => hsnap⟩⟩⟩⟩

theorem taskTerminalView_input :
    Wp (taskTerminalView id) (fun _ t' => t'.inputSide = t.inputSide) (Refusal t) t := by
  simp only [taskTerminalView, ensureOpen, leaveZero, wp_bind, wp_get, wp_refuseIf, wp_ite,
    wp_pure, wp_lift, bumpSequence_wp]
  refine ⟨fun _ => .refl t _, fun _ => (drain_offScreen t).imp (fun _ t' ht' => ?_)
    fun _ _ h' => .of_offScreen h'⟩
  have hsame : t'.inputSide = t.inputSide := inputSide_of_offScreen ht'
  exact ⟨fun _ => ⟨fun _ _ => ⟨fun _ _ => ⟨fun _ _ => hsame, fun _ _ => .of_offScreen ht'⟩,
    fun _ _ => .of_offScreen ht'⟩, fun _ _ => .of_offScreen ht'⟩, fun _ =>
    ⟨fun _ _ => ⟨fun _ _ => hsame, fun _ _ => .of_offScreen ht'⟩, fun _ _ => .of_offScreen ht'⟩⟩

/-! ## Resizes -/

omit [TerminalEmulator] in
theorem resizeProjection_handed {size} {reflow}
    {projection} (h : t.resizeProjection size reflow = .ok projection) :
    projection.handed = t.projection.handed := by
  unfold resizeProjection at h
  cases hproj : t.projection with
  | fixture grid =>
    simp only [hproj] at h
    cases h
    rfl
  | attached runtime =>
    simp only [hproj] at h
    cases hres : runtime.resize size t.attachmentFence reflow with
    | error error =>
      rw [hres] at h
      cases h
    | ok resized =>
      rw [hres] at h
      cases h
      simp only [AttachedRuntime.resize, ok_iff] at hres
      obtain ⟨_, -, _, -, rfl⟩ := hres
      rfl

omit [TerminalEmulator] in
theorem commitResize_grant (commit) (clients) (clientId : ClientId) :
    (commitResize commit clients)[clientId]?.map ClientViewState.grant =
      clients[clientId]?.map ClientViewState.grant := by
  cases commit with
  | none => rfl
  | some commit =>
    simp only [commitResize, OrdMap.getElem?_modify_eq]
    split_ifs
    · rw [Option.map_map]
      rfl
    · rfl

omit [TerminalEmulator] in
theorem applyResize_input (size) (commit)
    (reflow) :
    Wp (applyResize id size commit reflow) (fun _ t' => t'.inputSide = t.inputSide) (Refusal t)
      t := by
  simp only [applyResize, wp_bind, wp_get, wp_lift, wp_set, wp_modify, bumpSequence_wp]
  refine ⟨fun projection hres => ?_, fun _ _ => .refl t _⟩
  have hresized : ({ t with
      projection
      clients := commitResize commit t.clients
      spec := { t.spec with size } } : HostedTerminal).inputSide = t.inputSide := by
    unfold inputSide
    rw [resizeProjection_handed hres]
  refine ⟨fun next _ => ?_, fun error herror => ⟨hresized, ?_, fun hne => ?_⟩⟩
  · exact (inputSide_of_offScreen (offScreen_recordDelta _ _)).trans hresized
  · unfold fences
    simp only [commitResize_grant]
  · exact absurd (TerminalSequence.next_error herror) hne

theorem resize_input (size) (fence)
    (reflow) :
    Wp (resize id size fence reflow) (fun _ t' => t'.inputSide = t.inputSide) (Refusal t) t := by
  simp only [resize, ensureOpen, wp_bind, wp_get, wp_refuseIf, wp_lift]
  refine ⟨fun _ => .refl t _, fun _ => ⟨fun _ _ => ?_, fun _ _ => .refl t _⟩⟩
  refine (drain_offScreen t).imp (fun _ t' ht' => ?_) fun _ _ h' => .of_offScreen h'
  refine ⟨fun size _ => ⟨fun admission _ => ?_, fun _ _ => .of_offScreen ht'⟩,
    fun _ _ => .of_offScreen ht'⟩
  cases admission with
  | ignored => exact inputSide_of_offScreen ht'
  | admitted commit =>
    exact (applyResize_input size commit reflow).imp
      (fun _ _ h' => h'.trans (inputSide_of_offScreen ht')) fun _ _ h' => h'.after ht'

end HostedTerminal

end DevManager.Terminal
