import DevManager.Lib.Paging
import DevManager.Terminal.Opened
import DevManager.Terminal.Replica
import DevManager.Terminal.Window

/-!
# Answers to `updates_since`

A replica asks for what came after its sequence. While no scroll takes a sequence
from a terminal with deltas in its window, the answer is nothing at its own
sequence, a snapshot, or the deltas up to the terminal's sequence without a gap
(`terminal_updates_consumable`). A scroll leaves a gap
(`scroll_answers_nothing`).
-/

namespace DevManager.Terminal

open List TerminalSequence

namespace HostedTerminal

variable {t t' : HostedTerminal} {id : TerminalId}

/-! ## Every call keeps the window -/

theorem leaveZero_window (h : Window id t) :
    Wp leaveZero (fun _ t' => Window id t') (fun _ t' => Window id t') t := by
  simp only [leaveZero, wp_bind, wp_get, wp_ite, bumpSequence_wp, wp_pure]
  refine ⟨fun hzero => ⟨fun next hnext => ?_, fun _ _ => h⟩, fun _ => h⟩
  obtain ⟨hbound, hget⟩ := next_eq_ok.mp hnext
  refine { h with bounded := by show next.get ≤ u64Max; omega, linked := ?_ }
  refine h.linked.imp_right ?_
  rintro ⟨first, hmap, hlast⟩
  have hz : t.sequence.get = 0 := congrArg TerminalSequence.get hzero
  have hnil : t.deltas = [] := by
    by_contra hne
    obtain ⟨d, rest, hd⟩ := exists_cons_of_ne_nil hne
    have hpos := h.positive d (by rw [hd]; exact .head _)
    rw [hd, map_cons, length_cons, range'_succ, List.cons.injEq] at hmap
    rw [hd, length_cons] at hlast
    omega
  refine ⟨2, by simp [hnil], ?_⟩
  show 2 + t.deltas.length = next.get + 1
  rw [hnil, length_nil]
  omega

theorem onRuntime_window (f : AttachedRuntime → AttachedRuntime) (h : Window id t) :
    Window id (t.onRuntime f) := by
  unfold onRuntime
  split
  · exact h
  · exact h.congr rfl rfl rfl fun hcut => hcut

theorem readerOutput_window (screen) (title)
    (chunkLen : ℕ) (h : Window id t) : Window id (t.readerOutput screen title chunkLen) := by
  unfold readerOutput
  split
  · exact h
  · split_ifs
    · exact h
    · exact h.congr rfl rfl rfl fun hcut => hcut

theorem close_window (h : Window id t) :
    Wp close (fun _ t' => Window id t') (fun _ t' => Window id t') t := by
  simp only [close, wp_bind, wp_get, wp_ite, wp_pure]
  refine ⟨fun _ => h, fun _ => ?_⟩
  split
  · exact h.congr rfl rfl rfl fun hcut => hcut
  · simp only [wp_bind, wp_lift, wp_set]
    have hclosed : Window id { t with closed := true, clients := ∅ } :=
      h.congr rfl rfl rfl fun hcut => hcut
    exact ⟨fun _ _ => ⟨fun _ _ => hclosed, fun _ _ => h⟩, fun _ _ => h⟩

theorem bindTaskIdentity_window (agent : AgentSessionId) (runtimeGeneration actionEpoch : ℕ)
    (h : Window id t) :
    Wp (bindTaskIdentity agent runtimeGeneration actionEpoch) (fun _ t' => Window id t')
      (fun _ t' => Window id t') t := by
  simp only [bindTaskIdentity, ensureOpen, wp_bind, wp_get, wp_refuseIf, wp_ite, wp_pure, wp_set,
    wp_throw]
  exact ⟨fun _ => h, fun _ => ⟨fun _ => h, fun _ =>
    ⟨fun _ => h.congr rfl rfl rfl fun hcut => hcut, fun _ => h⟩⟩⟩

variable [TerminalEmulator]

theorem taskTerminalView_window (h : Window id t) :
    Wp (taskTerminalView id) (fun _ t' => Window id t') (fun _ t' => Window id t') t := by
  simp only [taskTerminalView, ensureOpen, wp_bind, wp_get, wp_refuseIf, wp_lift, wp_pure]
  refine ⟨fun _ => h, fun _ => (drainAttachedOutput_window h).imp (fun _ t' ht' => ?_)
    fun _ _ ht' => ht'⟩
  refine (leaveZero_window ht').imp (fun _ t'' h'' => ?_) fun _ _ h'' => h''
  exact ⟨fun _ _ => ⟨fun _ _ => h'', fun _ _ => h''⟩, fun _ _ => h''⟩

/-- The scroll leaves no gap: it fails, or the terminal has no delta in its window once it is
drained, or it is truncated. -/
def ScrollSafe (id : TerminalId) (t : HostedTerminal) : HostedCall → Prop
  | .task (.scroll deltaLines scrolled) =>
    ∀ drained projection next, runOn (drainAttachedOutput id) t = (.ok (), drained) →
      drained.scrollLines deltaLines scrolled = .ok projection →
        drained.sequence.next = .ok next → drained.truncated = true ∨ drained.deltas = []
  | _ => True

theorem scrollTaskTerminal_window (deltaLines : ℤ) (scrolled : TerminalScreenSnapshot)
    (h : Window id t) (hsafe : ScrollSafe id t (.task (.scroll deltaLines scrolled))) :
    Wp (scrollTaskTerminal id deltaLines scrolled) (fun _ t' => Window id t')
      (fun _ t' => Window id t') t := by
  simp only [scrollTaskTerminal, ensureOpen, wp_bind, wp_get, wp_refuseIf, wp_lift, wp_set,
    bumpSequence_wp, wp_pure]
  refine ⟨fun _ => h, fun _ => ?_⟩
  have hdrained : Wp (drainAttachedOutput id)
      (fun _ t' => runOn (drainAttachedOutput id) t = (.ok (), t')) (fun _ _ => True) t :=
    wp_iff_runOn.mpr ⟨fun _ _ hrun => hrun, fun _ _ _ => trivial⟩
  refine ((drainAttachedOutput_window h).both hdrained).imp (fun _ t' ht' => ?_)
    fun _ _ ht' => ht'.1
  obtain ⟨ht', hrun⟩ := ht'
  refine ⟨fun projection hscroll => ?_, fun _ _ => ht'⟩
  have hmoved : Window id { t' with projection } :=
    ht'.congr rfl rfl rfl fun hcut => hcut
  refine ⟨fun next hnext => ?_, fun _ _ => hmoved⟩
  obtain ⟨hbound, hget⟩ := next_eq_ok.mp hnext
  refine { fenced := ht'.fenced, whole := ht'.whole, positive := ht'.positive,
           bounded := by show next.get ≤ u64Max; omega, linked := ?_ }
  rcases hsafe t' projection next hrun hscroll hnext with hcut | hnil
  · exact .inl hcut
  · refine .inr ⟨next.get + 1, ?_, ?_⟩
    · show t'.deltas.map _ = List.range' _ t'.deltas.length
      simp [hnil]
    · show next.get + 1 + t'.deltas.length = next.get + 1
      simp [hnil]

theorem applyFixtureReaderBytes_window (bytes) (shown)
    (h : Window id t) :
    Wp (applyFixtureReaderBytes id bytes shown) (fun _ t' => Window id t')
      (fun _ t' => Window id t') t := by
  simp only [applyFixtureReaderBytes, ensureOpen, wp_bind, wp_get, wp_refuseIf, wp_ite, wp_pure,
    wp_throw, wp_modify]
  refine ⟨fun _ => h, fun _ => ⟨fun _ => h, fun _ => ⟨fun _ => h, fun _ => ?_⟩⟩⟩
  have hnoted := h.note bytes.length
  cases t.projection with
  | attached => exact hnoted
  | fixture grid =>
    simp only [wp_bind, wp_modify, bumpSequence_wp, wp_pure]
    have hshown : Window id { t.noteObservedOutput bytes.length with
        projection := .fixture shown } := hnoted.congr rfl rfl rfl fun hcut => hcut
    have henforced := hshown.enforce shown.screen
    exact ⟨fun next hnext => henforced.record hnext _, fun _ _ => henforced⟩

theorem taskCall_window (c : TaskCall) (h : Window id t) (hsafe : ScrollSafe id t (.task c)) :
    Wp (taskCall id c) (fun _ t' => Window id t') (fun _ t' => Window id t') t := by
  cases c with
  | view =>
    simp only [taskCall, wp_bind, wp_pure]
    exact taskTerminalView_window h
  | scroll deltaLines scrolled =>
    simp only [taskCall, wp_bind, wp_pure]
    exact scrollTaskTerminal_window deltaLines scrolled h hsafe
  | resize size reflow =>
    simp only [taskCall, ensureOpen, wp_bind, wp_get, wp_refuseIf, wp_pure]
    exact ⟨fun _ => h, fun _ => resize_window size none reflow h⟩

theorem method_window (c : HostedCall) (h : Window id t) (hsafe : ScrollSafe id t c) :
    Wp (method id c) (fun _ t' => Window id t') (fun _ t' => Window id t') t := by
  have hsame : ∀ {t' : HostedTerminal}, t'.deltas = t.deltas → t'.generation = t.generation →
      t'.sequence = t.sequence → t'.truncated = t.truncated → Window id t' :=
    fun h1 h2 h3 h4 => h.congr h1 h2 h3 fun hcut => h4.trans hcut
  cases c <;> simp only [method, wp_bind, wp_pure]
  case readerOutput screen title chunkLen => exact readerOutput_window screen title chunkLen h
  case lifecycle event => exact hsame rfl rfl rfl rfl
  case retireFence | loseView | setFaults => exact onRuntime_window _ h
  case restartProcess fence screen view =>
    simp only [wp_modify, HostedTerminal.restartProcess]
    split_ifs
    · exact h
    · exact onRuntime_window _ h
  case admitReaderBytes bytes shown =>
    exact applyFixtureReaderBytes_window bytes shown h
  case pump =>
    simp only [ensureOpen, wp_bind, wp_get, wp_refuseIf]
    exact ⟨fun _ => h, fun _ => drainAttachedOutput_window h⟩
  case snapshot =>
    simp only [ensureOpen, wp_bind, wp_get, wp_refuseIf]
    exact ⟨fun _ => h, fun _ => snapshot_window h⟩
  case updatesSince clientId generation since =>
    exact updatesSince_window clientId generation since h
  case write envelope => exact write_window envelope h
  case writeTaskInput request =>
    exact writeTaskInput_window request h
  case resize size fence reflow =>
    exact resize_window size fence reflow h
  case close =>
    exact close_window h
  case grantClient | disconnectView | retargetTask | retargetSession =>
    simp only [HostedTerminal.grantClient, HostedTerminal.disconnectView,
      HostedTerminal.retargetTask, HostedTerminal.retargetSession, ensureOpen, wp_bind, wp_get,
      wp_refuseIf, wp_modify]
    exact ⟨fun _ => h, fun _ => hsame rfl rfl rfl rfl⟩
  case bindTaskIdentity agent runtimeGeneration actionEpoch =>
    exact bindTaskIdentity_window agent runtimeGeneration actionEpoch h
  case advanceFocus =>
    simp only [HostedTerminal.advanceFocus, ensureOpen, wp_bind, wp_get, wp_refuseIf,
      wp_lift, wp_set, wp_pure]
    exact ⟨fun _ => h, fun _ => ⟨fun _ _ => hsame rfl rfl rfl rfl, fun _ _ => h⟩⟩
  case replaceGeneration blank =>
    exact replaceGeneration_window blank h
  case task c => exact taskCall_window c h hsafe

end HostedTerminal

/-! ## What a replica makes of an answer -/

namespace TerminalReplica

variable {r : TerminalReplica} {id : TerminalId} {g : TerminalGeneration} {s : TerminalSequence}

/-- The replica is of terminal `id`, at generation `g` and sequence `s`, and needs no snapshot. -/
structure At (r : TerminalReplica) (id : TerminalId) (g : TerminalGeneration)
    (s : TerminalSequence) : Prop where
  live : r.needsSnapshot = false
  terminal : r.terminalId = some id
  generation : r.generation = some g
  sequence : r.sequence = s

theorem changeRows_zero (rows : List String) :
    r.changeRows 0 rows = .ok { r with rows := rows ++ r.rows.drop rows.length } := by
  have hgrown : (growRows r.rows rows.length).drop rows.length = r.rows.drop rows.length := by
    unfold growRows
    rw [drop_append, drop_replicate]
    have hzero : rows.length - r.rows.length - (rows.length - r.rows.length) = 0 := by omega
    rw [hzero, replicate_zero, append_nil]
  simp only [changeRows, Nat.not_lt_zero, failIf, if_false, Nat.zero_add, take_zero,
    nil_append, hgrown]
  rfl

theorem applyOps_at {ops : List TerminalDeltaOp} (hops : Whole ops) (h : r.At id g s) :
    Wp (applyOps ops) (fun _ r' => r'.At id g s) (fun _ _ => False) r := by
  refine Wp.forM (P := fun ops r => Whole ops ∧ r.At id g s) (R := fun _ _ => False) ?_ ops
    ⟨hops, h⟩ |>.imp (fun _ _ h' => h'.2) fun _ _ h' => h'
  rintro op ops r ⟨hwhole, hr⟩
  have hrest : Whole ops := fun start rows hmem =>
    hwhole start rows (mem_cons_of_mem op hmem)
  cases op with
  | rowsChanged start rows =>
    have hstart : start = 0 := hwhole start rows (.head _)
    subst hstart
    simp only [applyOp, wp_bind, wp_get, wp_lift, changeRows_zero, wp_set]
    refine ⟨fun r' hr' => ?_, by rintro _ ⟨⟩⟩
    cases hr'
    exact ⟨hrest, hr.live, hr.terminal, hr.generation, hr.sequence⟩
  | scroll | exit => exact ⟨hrest, hr⟩
  | cursor | mode | title | truncated =>
    exact ⟨hrest, hr.live, hr.terminal, hr.generation, hr.sequence⟩

theorem applyDelta_at {d : TerminalDelta} (h : r.At id g s) (hid : d.terminalId = id)
    (hg : d.generation = g) (hs : s.next = .ok d.sequence) (hops : Whole d.ops) :
    (r.applyDelta d).1 = .applied ∧ (r.applyDelta d).2.At id g d.sequence := by
  have hcont : r.continues d = true := by
    simp [continues, h.terminal, h.generation, h.sequence, hid, hg, hs]
  have hrun := applyOps_at hops h
  unfold applyDelta
  rw [h.live, hcont, if_neg (by decide), if_neg (by decide)]
  cases hx : runOn (applyOps d.ops) r with
  | mk result r' =>
    cases result with
    | error => exact (hrun.of_error hx).elim
    | ok u =>
      have hr' := hrun.of_ok hx
      exact ⟨rfl, hr'.live, hr'.terminal, hr'.generation, rfl⟩

theorem applyDeltas_at (deltas : List TerminalDelta) :
    ∀ {r : TerminalReplica} {s : TerminalSequence}, r.At id g s →
      deltas.map (·.sequence.get) = List.range' (s.get + 1) deltas.length →
      s.get + deltas.length ≤ u64Max →
      (∀ d ∈ deltas, (d.terminalId = id ∧ d.generation = g) ∧ Whole d.ops) →
      (r.applyDeltas deltas).At id g ⟨s.get + deltas.length⟩ := by
  induction deltas with
  | nil => exact fun h _ _ _ => h
  | cons d deltas ih =>
    intro r s h hnums hbound hfenced
    rw [map_cons, length_cons, range'_succ, List.cons.injEq] at hnums
    rw [length_cons] at hbound
    obtain ⟨hd, hrest⟩ := hnums
    obtain ⟨hfence, hwhole⟩ := hfenced d (.head _)
    have hnext : s.next = .ok d.sequence :=
      next_eq_ok.mpr ⟨by omega, hd⟩
    obtain ⟨-, hat⟩ := applyDelta_at h hfence.1 hfence.2 hnext hwhole
    have hlast := ih hat (by rw [hd]; exact hrest) (by omega)
      fun d' hd' => hfenced d' (mem_cons_of_mem d hd')
    have hcount : d.sequence.get + deltas.length = s.get + (d :: deltas).length := by
      rw [length_cons]
      omega
    rw [hcount] at hlast
    exact hlast

end TerminalReplica

/-- The answer is nothing at the terminal's own sequence, a snapshot, or the deltas from the
replica's sequence on up to the terminal's, and it brings the replica to the terminal's
generation and sequence. -/
structure Consumable (id : TerminalId) (r : TerminalReplica) (update : ReplicaUpdate)
    (t : HostedTerminal) : Prop where
  shape :
    match update with
    | .empty => r.sequence = t.sequence
    | .deltas deltas => deltas.map (·.sequence.get) =
        List.range' (r.sequence.get + 1) (t.sequence.get - r.sequence.get)
    | .snapshot _ | .coalescedSnapshot _ _ => True
  reaches : (r.applyUpdate update).At id t.generation t.sequence

namespace HostedTerminal

variable {t t' : HostedTerminal} {id : TerminalId} {r : TerminalReplica}
  {g : TerminalGeneration} {s : TerminalSequence}

theorem snapshot_reaches [TerminalEmulator] (r : TerminalReplica) :
    Wp (snapshot id) (fun snapshot t' => (r.applySnapshot snapshot).At id t'.generation t'.sequence)
      (fun _ _ => True) t := by
  simp only [snapshot, wp_bind, wp_get, wp_pure]
  exact wp_iff_runOn.mpr ⟨fun _ _ _ => ⟨rfl, rfl, rfl, rfl⟩, fun _ _ _ => trivial⟩

theorem deltasAfter_linked (h : Window id t) (hs : s.get < t.sequence.get)
    (hcontig : t.contiguous s) :
    (t.deltasAfter s).map (·.sequence.get) = List.range' (s.get + 1) (t.sequence.get - s.get) := by
  obtain ⟨⟨oldest, holdest, hback⟩, -, hcut, -⟩ := hcontig
  obtain ⟨first, hmap, hlast⟩ := h.linked.resolve_left hcut
  have hfst : first ≤ s.get + 1 := by
    obtain ⟨rest, hrest⟩ := head?_eq_some_iff.mp holdest
    rw [hrest, map_cons, length_cons, range'_succ, List.cons.injEq] at hmap
    have hle : saturatingAdd s.get 1 ≤ s.get + 1 := min_le_left _ _
    omega
  have hfilter : (t.deltasAfter s).map (·.sequence.get) =
      (t.deltas.map (·.sequence.get)).filter (fun k => s.get < k) := by
    unfold deltasAfter
    rw [filter_map]
    rfl
  rw [hfilter, hmap, Paging.filter_lt_range' hfst]
  congr 1
  omega

theorem deltasAfter_reaches (h : Window id t) (hr : r.At id t.generation s)
    (hs : s.get < t.sequence.get) (hcontig : t.contiguous s) :
    Consumable id r (.deltas (t.deltasAfter s)) t := by
  have hlinked := deltasAfter_linked h hs hcontig
  have hlen : (t.deltasAfter s).length = t.sequence.get - s.get := by
    rw [← length_map, hlinked, length_range']
  have hbound := h.bounded
  refine ⟨by rw [hr.sequence]; exact hlinked, ?_⟩
  have hreach := TerminalReplica.applyDeltas_at (t.deltasAfter s) hr
    (by rw [hlen]; exact hlinked) (by omega) fun d hd => by
      have hmem := mem_of_mem_filter hd
      exact ⟨h.fenced d hmem, h.whole d hmem⟩
  have hlast : s.get + (t.deltasAfter s).length = t.sequence.get := by omega
  rw [hlast] at hreach
  exact hreach

theorem consumable_snapshot {snapshot reason}
    (h : (r.applySnapshot snapshot).At id t.generation t.sequence) :
    Consumable id r (.coalescedSnapshot snapshot reason) t :=
  ⟨trivial, h⟩

variable [TerminalEmulator]

theorem updatesSince_consumable (clientId : ClientId) (h : Window id t) (hr : r.At id g s) :
    Wp (updatesSince id clientId g s) (fun update t' => Consumable id r update t')
      (fun _ _ => True) t := by
  simp only [updatesSince, ensureOpen, wp_bind, wp_get, wp_refuseIf]
  refine ⟨fun _ => trivial, fun _ => (drainAttachedOutput_window h).imp (fun _ t' ht' => ?_)
    fun _ _ _ => trivial⟩
  have hsnap := @snapshot_reaches t' id _ r
  simp only [replayDeltas, replaySnapshot, wp_ite, wp_bind, wp_get, wp_modify, wp_pure]
  refine ⟨fun _ => ?_, fun hgen => ⟨fun _ => ?_, fun hs => ⟨fun hsame => ?_, fun hne => ?_⟩⟩⟩
  · exact hsnap.imp (fun _ _ h' => consumable_snapshot h') fun _ _ _ => trivial
  · exact hsnap.imp (fun _ _ h' => consumable_snapshot h') fun _ _ _ => trivial
  · refine ⟨hr.sequence.trans hsame, ?_⟩
    rw [not_not] at hgen
    show r.At id t'.generation t'.sequence
    rw [← hgen, ← hsame]
    exact hr
  · rw [not_not] at hgen
    have hpre : s.get < t'.sequence.get := by
      have hdist : s.get ≠ t'.sequence.get := fun heq => hne (eq_of_get heq)
      omega
    refine ⟨fun hcontig => ⟨fun _ => ?_, fun _ => ?_⟩, fun _ => ?_⟩
    · exact hsnap.imp (fun _ _ h' => consumable_snapshot h') fun _ _ _ => trivial
    · have hat : r.At id t'.generation s := hgen ▸ hr
      have hreach := deltasAfter_reaches ht' hat hpre hcontig
      exact ⟨hreach.shape, hreach.reaches⟩
    · exact hsnap.imp (fun _ _ h' => consumable_snapshot h') fun _ _ _ => trivial

end HostedTerminal

section Runs

variable [TerminalEmulator]

/-- Every scroll that a run makes is safe where it is made: it fails, or the terminal, once
drained, has no delta in its window or is truncated. -/
def ScrollsSafe : TerminalService → TerminalCall → Prop :=
  TerminalService.Meets HostedTerminal.ScrollSafe

theorem window_of_run {calls}
    (hcalls : Calls.Along TerminalService.call ScrollsSafe .new calls) {id}
    {t : HostedTerminal} (ht : (Calls.after TerminalService.call .new calls).terminals[id]? =
      some t) :
    t.Window id :=
  TerminalService.terminals_invariant (P := fun id t => t.Window id)
    (fun _ _ hopen => .start hopen.deltas hopen.sequence)
    (fun _ _ c h hsafe => (HostedTerminal.method_window c h hsafe).of_both) calls hcalls id t ht

/-- In every run whose scrolls are safe, every answer to a replica is consumable: applying it
never asks for a snapshot, and brings the replica to the terminal's sequence. -/
theorem terminal_updates_consumable (calls : List TerminalCall)
    (hcalls : Calls.Along TerminalService.call ScrollsSafe .new calls) (id : TerminalId)
    (clientId : ClientId) (r : TerminalReplica) (g : TerminalGeneration) (s : TerminalSequence)
    (hr : r.At id g s) (update : ReplicaUpdate) (s' : TerminalService)
    (hans : (Calls.after TerminalService.call .new calls).call
      (.on id (.updatesSince clientId g s)) = (.ok (.update update), s')) :
    ∃ t', s'.terminals[id]? = some t' ∧ Consumable id r update t' := by
  have haddr : (Calls.after TerminalService.call .new calls).addressed
      (.on id (.updatesSince clientId g s)) = some (id, .updatesSince clientId g s) := rfl
  rw [TerminalService.call_of_addressed haddr, TerminalService.onTerminal] at hans
  cases ht : (Calls.after TerminalService.call .new calls).terminals[id]? with
  | none => simp [ht] at hans
  | some t =>
    have hwindow := window_of_run hcalls ht
    simp only [ht, Prod.mk.injEq] at hans
    obtain ⟨hupd, rfl⟩ := hans
    refine ⟨(t.call id (.updatesSince clientId g s)).2, by simp, ?_⟩
    have hmethod : Wp (HostedTerminal.method id (.updatesSince clientId g s))
        (fun answer t' => ∀ update, answer = .update update → Consumable id r update t')
        (fun _ _ => True) t := by
      simp only [HostedTerminal.method, wp_bind, wp_pure, TerminalAnswer.update.injEq]
      exact (HostedTerminal.updatesSince_consumable clientId hwindow hr).imp
        (fun _ _ h' _ heq => heq ▸ h') fun _ _ h' => h'
    exact hmethod.of_ok (Prod.ext hupd rfl) update rfl

end Runs

/-! ## The gap that a scroll leaves -/

@[reducible] def sampleEmulator : TerminalEmulator where
  setOptions scrollingHistory screen :=
    { screen with historySize := min screen.historySize scrollingHistory }
  viewport _ _ := ⟨_, _, rfl⟩

attribute [local instance] sampleEmulator

def sampleScreen (text : List Char) : TerminalScreenSnapshot where
  lines := text.map fun c => [c]
  cursor := none
  displayOffset := 0
  historySize := 0
  rows := text.length
  cols := 1
  mode := .default

def sampleSpec : TerminalSpec where
  sessionId := ⟨1⟩
  size := ⟨1, 2⟩
  maxScrollbackRows := 1000
  maxScrollbackBytes := 64 * 1024
  title := none

def sampleRuntime : AttachedRuntime where
  fence := .ok ⟨⟨1⟩, .initial⟩
  screen := sampleScreen [' ', ' ']
  view := .ok ⟨none, ⟨1, 2⟩⟩
  written := []
  writeFails := false
  resizeFails := false
  scrollFails := false
  closeFails := false

def sampleRead : TerminalService :=
  Calls.after TerminalService.call .new [.attach ⟨1⟩ ⟨1⟩ sampleSpec sampleRuntime,
     .on ⟨1⟩ (.readerOutput (sampleScreen ['a', ' ']) none 1),
     .on ⟨1⟩ .snapshot]

def sampleSnapshot : TerminalSnapshot where
  terminalId := ⟨1⟩
  generation := .initial
  sequence := ⟨1⟩
  size := ⟨1, 2⟩
  cursor := none
  modes := .default
  title := none
  rows := ["a", " "]
  historyRows := 0
  truncated := false

def sampleUnread : List TerminalCall :=
  [.attach ⟨1⟩ ⟨1⟩ sampleSpec sampleRuntime, .on ⟨1⟩ .snapshot,
   .on ⟨1⟩ (.readerOutput (sampleScreen ['a', ' ']) none 1)]

def sampleDeltas : List TerminalDelta := [⟨⟨1⟩, .initial, ⟨1⟩, [.rowsChanged 0 ["a", " "]]⟩]

def sampleBlank : TerminalReplica :=
  TerminalReplica.new.applySnapshot { sampleSnapshot with sequence := .zero, rows := [" ", " "] }

theorem sampleUnread_safe : Calls.Along TerminalService.call ScrollsSafe .new sampleUnread := by
  refine ⟨?_, ?_, ?_, trivial⟩
  · intro id h t haddr
    cases haddr
  · intro id h t haddr _
    cases haddr
    trivial
  · intro id h t haddr _
    cases haddr
    trivial

theorem sampleUnread_consumable :
    ∃ t, ((Calls.after TerminalService.call .new sampleUnread).call
        (.on ⟨1⟩ (.updatesSince ⟨1⟩ .initial .zero))).2.terminals[(⟨1⟩ : TerminalId)]? = some t ∧
      Consumable ⟨1⟩ sampleBlank (.deltas sampleDeltas) t := by
  have hans : ((Calls.after TerminalService.call .new sampleUnread).call
      (.on ⟨1⟩ (.updatesSince ⟨1⟩ .initial .zero))).1 = .ok (.update (.deltas sampleDeltas)) := by
    decide +kernel
  exact terminal_updates_consumable sampleUnread sampleUnread_safe ⟨1⟩ ⟨1⟩ sampleBlank .initial
    .zero ⟨rfl, rfl, rfl, rfl⟩ (.deltas sampleDeltas) _ (Prod.ext hans rfl)

def sampleScrolled : Except TerminalError TerminalAnswer × TerminalService :=
  Calls.after TerminalService.call sampleRead
    [.forTask ⟨1⟩ none (.scroll 1 (sampleScreen [' ', 'a']))] |>.call
      (.on ⟨1⟩ (.updatesSince ⟨1⟩ .initial ⟨1⟩))

theorem sampleScrolled_answer : sampleScrolled.1 = .ok (.update (.deltas [])) ∧
    sampleScrolled.2.terminals[(⟨1⟩ : TerminalId)]?.map (·.sequence) = some ⟨2⟩ := by
  decide +kernel

/-- A client that applied a snapshot and polls after a scroll is answered with no delta at all,
one sequence behind the terminal. -/
theorem scroll_answers_nothing :
    (sampleRead.call (.on ⟨1⟩ .snapshot)).1 = .ok (.snapshot sampleSnapshot) ∧
      ∃ t, sampleScrolled = (.ok (.update (.deltas [])), sampleScrolled.2) ∧
        sampleScrolled.2.terminals[(⟨1⟩ : TerminalId)]? = some t ∧
        ¬ Consumable ⟨1⟩ (TerminalReplica.new.applySnapshot sampleSnapshot) (.deltas []) t := by
  obtain ⟨hans, hseq⟩ := sampleScrolled_answer
  obtain ⟨t, ht, hts⟩ := Option.map_eq_some_iff.mp hseq
  refine ⟨by decide +kernel, t, Prod.ext hans rfl, ht, fun h => ?_⟩
  have hreach := h.reaches.sequence
  rw [hts] at hreach
  exact absurd hreach (by decide)

end DevManager.Terminal
