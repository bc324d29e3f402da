import DevManager.Terminal.Drain

/-!
# The window of deltas

The terminal keeps its last deltas. `Window` says what every delta in it is, and
that the deltas are numbered without a gap up to the terminal's sequence unless the
terminal is truncated, when no delta is sent any more. Every method keeps it but a
scroll, which takes a sequence and records no delta.
-/

namespace DevManager.Terminal

open List

/-- Rows are only ever sent from the first one on. -/
def Whole (ops : List TerminalDeltaOp) : Prop :=
  ∀ start rows, .rowsChanged start rows ∈ ops → start = 0

namespace HostedTerminal

variable {t t' : HostedTerminal} {id : TerminalId}

/-- The deltas are numbered without a gap, and the last of them has the terminal's sequence. -/
def Linked (t : HostedTerminal) : Prop :=
  ∃ first, t.deltas.map (·.sequence.get) = List.range' first t.deltas.length ∧
    first + t.deltas.length = t.sequence.get + 1

/-- What holds of the window of a terminal. -/
structure Window (id : TerminalId) (t : HostedTerminal) : Prop where
  fenced : ∀ d ∈ t.deltas, d.terminalId = id ∧ d.generation = t.generation
  whole : ∀ d ∈ t.deltas, Whole d.ops
  positive : ∀ d ∈ t.deltas, 0 < d.sequence.get
  bounded : t.sequence.get ≤ u64Max
  linked : t.truncated = true ∨ t.Linked

theorem changedOps_ne_nil (screen) : t.changedOps screen ≠ [] := by
  unfold changedOps
  by_cases h : t.truncated <;> simp [h]

theorem changedOps_whole (screen) : Whole (t.changedOps screen) := by
  intro start rows hmem
  unfold changedOps at hmem
  simp only [mem_append] at hmem
  split_ifs at hmem <;> simp_all

theorem recordDelta_eq (sequence) (screen) :
    t.recordDeltaFromScreen id sequence screen =
      (t.seen screen).pushDelta ⟨id, t.generation, sequence, t.changedOps screen⟩ := by
  unfold recordDeltaFromScreen
  exact if_neg (changedOps_ne_nil screen)

theorem Window.congr (h : Window id t) (hdel : t'.deltas = t.deltas)
    (hgen : t'.generation = t.generation) (hseq : t'.sequence = t.sequence)
    (hcut : t.truncated = true → t'.truncated = true) : Window id t' where
  fenced := by rw [hdel, hgen]; exact h.fenced
  whole := by rw [hdel]; exact h.whole
  positive := by rw [hdel]; exact h.positive
  bounded := by rw [hseq]; exact h.bounded
  linked := by
    unfold Linked
    rw [hdel, hseq]
    exact h.linked.imp_left hcut

theorem mem_pushDelta {d delta} (h : d ∈ (t.pushDelta delta).deltas) :
    d ∈ t.deltas ∨ d = delta := by
  unfold pushDelta at h
  simp only [mem_append, mem_singleton] at h
  refine h.imp_left fun hold => ?_
  split_ifs at hold
  · exact mem_of_mem_drop hold
  · exact hold

theorem Window.push {next} (h : Window id t) (hnext : t.sequence.next = .ok next)
    {ops} (hops : Whole ops) :
    Window id ({ t with sequence := next }.pushDelta ⟨id, t.generation, next, ops⟩) := by
  obtain ⟨hbound, hget⟩ := TerminalSequence.next_eq_ok.mp hnext
  constructor
  · intro d hd
    rcases mem_pushDelta hd with hold | rfl
    · exact h.fenced d hold
    · exact ⟨rfl, rfl⟩
  · intro d hd
    rcases mem_pushDelta hd with hold | rfl
    · exact h.whole d hold
    · exact hops
  · intro d hd
    rcases mem_pushDelta hd with hold | rfl
    · exact h.positive d hold
    · show 0 < next.get
      omega
  · show next.get ≤ u64Max
    omega
  · refine h.linked.imp_right ?_
    rintro ⟨first, hmap, hlast⟩
    unfold Linked pushDelta
    simp only
    split_ifs with hfull
    · -- The oldest delta leaves, so the numbering starts one later.
      have hlen : 0 < t.deltas.length := lt_of_lt_of_le (by decide) hfull
      refine ⟨first + 1, ?_, ?_⟩
      · simp only [map_append, map_drop, hmap, length_append, length_drop,
          drop_range', map_cons, map_nil, length_singleton, one_mul]
        rw [range'_concat, hget]
        congr 2
        omega
      · simp only [length_append, length_drop, length_singleton]
        omega
    · refine ⟨first, ?_, ?_⟩
      · simp only [map_append, hmap, length_append, map_cons, map_nil, length_singleton]
        rw [range'_concat, hget]
        congr 2
        omega
      · simp only [length_append, length_singleton]
        omega

theorem Window.record {next} (h : Window id t) (hnext : t.sequence.next = .ok next) (screen) :
    Window id ({ t with sequence := next }.recordDeltaFromScreen id next screen) := by
  rw [recordDelta_eq]
  have hseen : Window id (t.seen screen) := h.congr rfl rfl rfl fun hcut => hcut
  exact hseen.push hnext (changedOps_whole screen)

variable [TerminalEmulator]

theorem Window.enforce (h : Window id t) (screen) :
    Window id (t.enforceScrollbackBoundFromScreen screen) := by
  unfold enforceScrollbackBoundFromScreen
  split_ifs
  · exact h.congr rfl rfl rfl fun _ => rfl
  · exact h

omit [TerminalEmulator] in
theorem Window.note (h : Window id t) (bytes : ℕ) : Window id (t.noteObservedOutput bytes) := by
  refine h.congr rfl rfl rfl fun hcut => ?_
  simp [noteObservedOutput, hcut]

/-! ## What keeps the window -/

omit [TerminalEmulator] in
theorem settleLifecycleEvent_window (event) (h : Window id t) :
    Wp (settleLifecycleEvent id event) (fun _ t' => Window id t') (fun _ t' => Window id t') t := by
  simp only [settleLifecycleEvent, wp_bind, wp_modify, bumpSequence_wp]
  have hexit : Window id { t with exitSummary := some event.summary } :=
    h.congr rfl rfl rfl fun hcut => hcut
  refine ⟨fun next hnext => hexit.push hnext ?_, fun _ _ => hexit⟩
  intro start rows hmem
  simp at hmem

omit [TerminalEmulator] in
theorem drainLifecycle_window (h : Window id t) :
    Wp (drainLifecycle id) (fun _ t' => Window id t') (fun _ t' => Window id t') t := by
  simp only [drainLifecycle, wp_bind, wp_get, wp_set]
  exact Wp.forM (P := fun _ t' => Window id t')
    (fun event _ _ h' => settleLifecycleEvent_window event h') _
    (h.congr rfl rfl rfl fun hcut => hcut)

theorem recordScreen_window (coalesced : Bool) (h : Window id t) :
    Wp (recordScreen id coalesced) (fun _ t' => Window id t') (fun _ t' => Window id t') t := by
  simp only [recordScreen, wp_bind, wp_get]
  cases t.projection with
  | fixture => exact h
  | attached runtime =>
    simp only [wp_bind, wp_modify, bumpSequence_wp]
    have henforced : Window id { t.enforceScrollbackBoundFromScreen runtime.screen with
        outputPressureCoalesced := t.outputPressureCoalesced || coalesced } :=
      (h.enforce runtime.screen).congr rfl rfl rfl fun hcut => hcut
    exact ⟨fun next hnext => henforced.record hnext runtime.screen, fun _ _ => henforced⟩

theorem ingestOutput_window (drain) (h : Window id t) :
    Wp (ingestOutput id drain) (fun _ t' => Window id t') (fun _ t' => Window id t') t := by
  cases drain with
  | empty => exact h
  | coalesced bytes =>
    simp only [ingestOutput, wp_bind, wp_modify]
    exact recordScreen_window true (h.note bytes)
  | notifications count bytes =>
    simp only [ingestOutput, wp_bind, wp_modify]
    exact Wp.forM (P := fun _ t' => Window id t')
      (fun _ _ _ h' => recordScreen_window false h') _ (h.note bytes)

theorem drainAttachedOutput_window (h : Window id t) :
    Wp (drainAttachedOutput id) (fun _ t' => Window id t') (fun _ t' => Window id t') t := by
  simp only [drainAttachedOutput, takePendingOutput, wp_bind, wp_get, wp_lift, wp_set, wp_pure]
  refine (drainLifecycle_window h).imp (fun _ t' ht' => ?_) fun _ _ ht' => ht'
  exact ⟨fun _ _ => ingestOutput_window _ (ht'.congr rfl rfl rfl fun hcut => hcut), fun _ _ => ht'⟩

theorem snapshot_window (h : Window id t) :
    Wp (snapshot id) (fun _ t' => Window id t') (fun _ t' => Window id t') t := by
  simp only [snapshot, wp_bind, wp_get, wp_pure]
  exact drainAttachedOutput_window h

omit [TerminalEmulator] in
theorem Window.cursor (h : Window id t) (clientId : ClientId) (generation) (sequence) :
    Window id (t.rememberClientCursor clientId generation sequence) :=
  h.congr rfl rfl rfl fun hcut => hcut

theorem updatesSince_window (clientId : ClientId) (generation)
    (since) (h : Window id t) :
    Wp (updatesSince id clientId generation since) (fun _ t' => Window id t')
      (fun _ t' => Window id t') t := by
  simp only [updatesSince, ensureOpen, wp_bind, wp_get, wp_refuseIf]
  refine ⟨fun _ => h, fun _ => (drainAttachedOutput_window h).imp (fun _ t' ht' => ?_)
    fun _ _ ht' => ht'⟩
  have hsnap := snapshot_window ht'
  simp only [replayDeltas, replaySnapshot, wp_ite, wp_bind, wp_get, wp_modify, wp_pure]
  refine ⟨fun _ => hsnap, fun _ => ⟨fun _ => hsnap, fun _ => ⟨fun _ => ht'.cursor .., ?_⟩⟩⟩
  refine fun _ => ⟨fun _ => ⟨fun _ => ?_, fun _ => ht'.cursor ..⟩, fun _ => ?_⟩
  · exact hsnap.imp (fun _ _ h' => h'.cursor ..) fun _ _ h' => h'
  · refine hsnap.imp (fun _ t'' h' => ?_) fun _ _ h' => h'
    have hcleared : Window id { t'' with outputPressureCoalesced := false } :=
      h'.congr rfl rfl rfl fun hcut => hcut
    exact hcleared.cursor ..

omit [TerminalEmulator] in
theorem write_window (envelope) (h : Window id t) :
    Window id (t.write envelope).2 := by
  unfold write
  split
  · exact h
  · split
    · exact h
    · exact h.congr rfl rfl rfl fun hcut => hcut

omit [TerminalEmulator] in
theorem writeTaskInput_window (request) (h : Window id t) :
    Wp (writeTaskInput request) (fun _ t' => Window id t') (fun _ t' => Window id t') t := by
  simp only [writeTaskInput, ensureOpen, wp_bind, wp_get, wp_refuseIf]
  refine ⟨fun _ => h, fun _ => ?_⟩
  cases t.fenceTaskInput request.context with
  | error => exact h
  | ok _ =>
    simp only [wp_ite, wp_pure, wp_modifyGet]
    exact ⟨fun _ => h, fun _ => write_window _ h⟩

omit [TerminalEmulator] in
theorem applyResize_window (size) (commit)
    (reflow) (h : Window id t) :
    Wp (applyResize id size commit reflow) (fun _ t' => Window id t') (fun _ t' => Window id t')
      t := by
  simp only [applyResize, wp_bind, wp_get, wp_lift, wp_set, wp_modify, bumpSequence_wp]
  refine ⟨fun projection _ => ?_, fun _ _ => h⟩
  have hres : Window id { t with
      projection
      clients := commitResize commit t.clients
      spec := { t.spec with size } } := h.congr rfl rfl rfl fun hcut => hcut
  exact ⟨fun next hnext => hres.record hnext _, fun _ _ => hres⟩

theorem resize_window (size) (fence)
    (reflow) (h : Window id t) :
    Wp (resize id size fence reflow) (fun _ t' => Window id t') (fun _ t' => Window id t') t := by
  simp only [resize, ensureOpen, wp_bind, wp_get, wp_refuseIf, wp_lift]
  refine ⟨fun _ => h, fun _ => ⟨fun _ _ => ?_, fun _ _ => h⟩⟩
  refine (drainAttachedOutput_window h).imp (fun _ t' ht' => ?_) fun _ _ ht' => ht'
  refine ⟨fun size _ => ⟨fun admission _ => ?_, fun _ _ => ht'⟩, fun _ _ => ht'⟩
  cases admission with
  | ignored => exact ht'
  | admitted => exact applyResize_window size _ reflow ht'

omit [TerminalEmulator] in
theorem Window.start (hdel : t.deltas = []) (hseq : t.sequence = .zero) : Window id t where
  fenced := by simp [hdel]
  whole := by simp [hdel]
  positive := by simp [hdel]
  bounded := by rw [hseq]; decide
  linked := Or.inr ⟨1, by simp [hdel], by rw [hdel, hseq]; rfl⟩

theorem replaceGeneration_window (blank) (h : Window id t) :
    Wp (replaceGeneration id blank) (fun _ t' => Window id t') (fun _ t' => Window id t') t := by
  simp only [replaceGeneration, ensureOpen, wp_bind, wp_get, wp_refuseIf]
  refine ⟨fun _ => h, fun _ => ?_⟩
  cases t.projection with
  | fixture grid =>
    simp only [rebuildFixture, wp_bind, wp_get, wp_lift, wp_set, wp_pure]
    exact ⟨fun next _ => Window.start rfl rfl, fun _ _ => h⟩
  | attached runtime =>
    simp only [rebindAttached, wp_bind, wp_get, wp_lift, wp_set, wp_pure, wp_refuseIf, wp_modify]
    refine ⟨fun attachment _ => ⟨fun _ => h, fun _ => ?_⟩, fun _ _ => h⟩
    refine (drainLifecycle_window h).imp (fun _ t' ht' => ⟨fun view _ => ?_, fun _ _ => ?_⟩)
      fun _ _ ht' => ht'
    · exact Window.start rfl rfl
    · exact ht'.congr rfl rfl rfl fun hcut => hcut

end HostedTerminal

end DevManager.Terminal
