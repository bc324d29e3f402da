import DevManager.Terminal.Updates

/-!
# What a replica shows

`Shown` is what a client sees of a terminal. A delta carries a replica from what the
terminal showed at one sequence to what it showed at the next (`Carries`), but for
rows below the screen: rows are overwritten from the first one on and never taken
away. `Mirrors` is the invariant of a terminal and a replica of it: what the
terminal showed at each sequence accounts for every delta in its window and for
what the replica shows.
-/

namespace DevManager.Terminal

open List ProjectionSource TerminalSequence

/-- What a client sees of a terminal. -/
structure Shown where
  rows : List String
  cursor : Option TerminalCursorSnapshot
  modes : TerminalModeSnapshot
  title : Option String

/-- How many sequences the drain of the pending output takes. -/
def PendingOutputDrain.count : PendingOutputDrain → ℕ
  | .empty => 0
  | .notifications count _ => count
  | .coalesced _ => 1

theorem PendingOutputQueue.take_take (queue : PendingOutputQueue) :
    queue.take.2.take.1 = .empty := by
  unfold take
  split_ifs <;> simp_all [default]

theorem PendingOutputQueue.eq_empty_of_count {queue : PendingOutputQueue}
    (h : queue.take.1.count = 0) : queue.take.1 = .empty := by
  unfold take at h ⊢
  split_ifs at h ⊢ <;> simp_all [PendingOutputDrain.count]

namespace HostedTerminal

variable (t : HostedTerminal)

/-- What the terminal shows now. -/
def shown : Shown :=
  ⟨rowsFromScreen t.screenSnapshot, t.screenSnapshot.cursor, t.screenSnapshot.mode, t.currentTitle⟩

/-- What the next delta is compared with. -/
def lastSeen : Shown := ⟨t.lastRows, t.lastCursor, t.lastModes, t.lastTitle⟩

theorem shown_offScreen : t.offScreen.shown = t.shown := by
  unfold shown screenSnapshot currentTitle sessionView offScreen
  cases t.projection <;> rfl

end HostedTerminal

namespace TerminalReplica

variable {r : TerminalReplica} {x y : Shown}

/-- The replica shows `x`, and may have more rows below. -/
structure Shows (r : TerminalReplica) (x : Shown) : Prop where
  rows : ∃ below, r.rows = x.rows ++ below
  cursor : r.cursor = x.cursor
  modes : r.modes = x.modes
  title : r.title = x.title

/-- The replica shows exactly `x`. -/
def Exactly (r : TerminalReplica) (x : Shown) : Prop :=
  r.rows = x.rows ∧ r.cursor = x.cursor ∧ r.modes = x.modes ∧ r.title = x.title

theorem Exactly.shows (h : r.Exactly x) : r.Shows x :=
  ⟨⟨[], by rw [h.1, append_nil]⟩, h.2.1, h.2.2.1, h.2.2.2⟩

theorem Shows.exactly (h : r.Shows x) (hrows : r.rows.length ≤ x.rows.length) : r.Exactly x := by
  obtain ⟨below, hbelow⟩ := h.rows
  rw [hbelow, length_append] at hrows
  have hnil : below = [] := eq_nil_of_length_eq_zero (by omega)
  rw [hnil, append_nil] at hbelow
  exact ⟨hbelow, h.cursor, h.modes, h.title⟩

/-- The operations carry every replica that shows `x` to one that shows `y`. -/
def Carries (ops : List TerminalDeltaOp) (x y : Shown) : Prop :=
  ∀ r, r.Shows x → Wp (applyOps ops) (fun _ r' => r'.Shows y) (fun _ _ => False) r

/-! ## The operations of a delta -/

theorem optional_op {c : Prop} [Decidable c] {op : TerminalDeltaOp} (hskip : ¬ c → x = y)
    (hop : c → ∀ r, r.Shows x → Wp (applyOp op) (fun _ r' => r'.Shows y) (fun _ _ => False) r) :
    Carries (if c then [op] else []) x y := by
  intro r hr
  split_ifs with h
  · show Wp (applyOp op >>= fun _ => pure ()) _ _ r
    simp only [wp_bind, wp_pure]
    exact hop h r hr
  · exact hskip h ▸ hr

variable {ops : List TerminalDeltaOp}

theorem Carries.append {ops' z} (h : Carries ops x y)
    (h' : Carries ops' y z) : Carries (ops ++ ops') x z := by
  intro r hr
  unfold applyOps
  rw [wp_forM_append]
  exact (h r hr).imp (fun _ r' hr' => h' r' hr') fun _ _ => id

theorem applyOp_rows (rows : List String) (hr : r.Shows x) :
    Wp (applyOp (.rowsChanged 0 rows)) (fun _ r' => r'.Shows { x with rows })
      (fun _ _ => False) r := by
  simp only [applyOp, wp_bind, wp_get, wp_lift, changeRows_zero, wp_set]
  refine ⟨fun r' hr' => ?_, by rintro _ ⟨⟩⟩
  cases hr'
  exact ⟨⟨_, rfl⟩, hr.cursor, hr.modes, hr.title⟩

theorem changedOps_carries (t : HostedTerminal) (screen) :
    Carries (t.changedOps screen) t.lastSeen (t.seen screen).lastSeen := by
  have hcut : Carries (if t.truncated then [.truncated screen.historySize] else []) t.lastSeen
      t.lastSeen :=
    optional_op (fun _ => rfl) fun _ r hr => ⟨hr.rows, hr.cursor, hr.modes, hr.title⟩
  have hrows : Carries (if rowsFromScreen screen ≠ t.lastRows ∨
        (if t.truncated then [TerminalDeltaOp.truncated screen.historySize] else []) = [] then
      [.rowsChanged 0 (rowsFromScreen screen)] else []) t.lastSeen
      { t.lastSeen with rows := rowsFromScreen screen } := by
    refine optional_op (fun hskip => ?_) fun _ r hr => applyOp_rows _ hr
    rw [not_or, not_not] at hskip
    rw [hskip.1]
    rfl
  have hcur : Carries (if screen.cursor ≠ t.lastCursor then [.cursor screen.cursor] else [])
      { t.lastSeen with rows := rowsFromScreen screen }
      { t.lastSeen with rows := rowsFromScreen screen, cursor := screen.cursor } := by
    refine optional_op (fun hskip => ?_) fun _ r hr => ⟨hr.rows, rfl, hr.modes, hr.title⟩
    rw [not_not.mp hskip]
    rfl
  have hmodes : Carries (if screen.mode ≠ t.lastModes then [.mode screen.mode] else [])
      { t.lastSeen with rows := rowsFromScreen screen, cursor := screen.cursor }
      ⟨rowsFromScreen screen, screen.cursor, screen.mode, t.lastTitle⟩ := by
    refine optional_op (fun hskip => ?_) fun _ r hr => ⟨hr.rows, hr.cursor, rfl, hr.title⟩
    rw [not_not.mp hskip]
    rfl
  have htitle : Carries (if t.currentTitle ≠ t.lastTitle then [.title t.currentTitle] else [])
      ⟨rowsFromScreen screen, screen.cursor, screen.mode, t.lastTitle⟩
        (t.seen screen).lastSeen := by
    refine optional_op (fun hskip => ?_) fun _ r hr => ⟨hr.rows, hr.cursor, hr.modes, rfl⟩
    rw [← not_not.mp hskip]
    rfl
  have hscroll : Carries (if screen.displayOffset ≠ 0 then [.scroll screen.displayOffset] else [])
      (t.seen screen).lastSeen (t.seen screen).lastSeen :=
    optional_op (fun _ => rfl) fun _ r hr => hr
  exact ((((hcut.append hrows).append hcur).append hmodes).append htitle).append hscroll

theorem exit_carries (summary : String) (x : Shown) : Carries [.exit summary] x x := fun _ hr => hr

/-! ## How many rows a replica holds -/

/-- Every list of rows that the operations send has at most `height` rows. -/
def Fits (height : ℕ) (ops : List TerminalDeltaOp) : Prop :=
  ∀ start rows, .rowsChanged start rows ∈ ops → rows.length ≤ height

theorem applyOps_fits {height : ℕ} (hwhole : Whole ops)
    (hops : Fits height ops) (hr : r.rows.length ≤ height) :
    Wp (applyOps ops) (fun _ r' => r'.rows.length ≤ height) (fun _ _ => False) r := by
  refine Wp.forM (P := fun ops r => (Whole ops ∧ Fits height ops) ∧ r.rows.length ≤ height)
    (R := fun _ _ => False) ?_ ops ⟨⟨hwhole, hops⟩, hr⟩ |>.imp (fun _ _ h' => h'.2) fun _ _ h' => h'
  rintro op ops r ⟨⟨hwhole, hops⟩, hr⟩
  have hrest : Whole ops ∧ Fits height ops :=
    ⟨fun start rows hmem => hwhole start rows (mem_cons_of_mem op hmem),
      fun start rows hmem => hops start rows (mem_cons_of_mem op hmem)⟩
  cases op with
  | rowsChanged start rows =>
    have hstart : start = 0 := hwhole start rows (.head _)
    have hlen := hops start rows (.head _)
    subst hstart
    simp only [applyOp, wp_bind, wp_get, wp_lift, changeRows_zero, wp_set]
    refine ⟨fun r' hr' => ⟨hrest, ?_⟩, by rintro _ ⟨⟩⟩
    cases hr'
    simp only [length_append, length_drop]
    omega
  | scroll | exit | cursor | mode | title | truncated => exact ⟨hrest, hr⟩

end TerminalReplica

open TerminalReplica

namespace HostedTerminal

variable {t t' : HostedTerminal} {id : TerminalId} {r : TerminalReplica}

/-! ## The invariant -/

/-- `past n` is what the terminal showed at sequence `n` of its generation. It accounts for the
window of deltas and for what the replica shows. -/
structure Tracks (id : TerminalId) (past : ℕ → Shown) (t : HostedTerminal) (r : TerminalReplica) :
    Prop where
  last : past t.sequence.get = t.lastSeen
  carried : ∀ d ∈ t.deltas, ∃ n, d.sequence.get = n + 1 ∧ n + 1 ≤ t.sequence.get ∧
    Carries d.ops (past n) (past (n + 1))
  terminal : r.needsSnapshot = false → r.terminalId = some id
  replica : r.needsSnapshot = false → r.generation = some t.generation →
    r.sequence.get ≤ t.sequence.get ∧ r.Exactly (past r.sequence.get)

/-- No output of the attached process waits to be drained, and the process is the one that the
terminal is attached to. -/
def Drained (t : HostedTerminal) : Prop :=
  ∀ runtime, t.projection = .attached runtime →
    t.pendingOutput.take.1 = .empty ∧ runtime.fence = .ok t.attachmentFence

/-- The invariant of a terminal and a replica of it. -/
structure Mirrors (id : TerminalId) (t : HostedTerminal) (r : TerminalReplica) : Prop where
  window : t.Window id
  tracks : ∃ past, Tracks id past t r
  fenced : ∀ runtime, t.projection = .attached runtime → ∃ fence, runtime.fence = .ok fence
  older : ∀ grid, t.projection = .fixture grid →
    ∀ g, r.generation = some g → g.get ≤ t.generation.get

theorem Mirrors.reproject (h : Mirrors id t r) (hdel : t'.deltas = t.deltas)
    (hgen : t'.generation = t.generation) (hseq : t'.sequence = t.sequence)
    (hcut : t.truncated = true → t'.truncated = true) (hlast : t'.lastSeen = t.lastSeen)
    (hfenced : ∀ runtime, t'.projection = .attached runtime → ∃ fence, runtime.fence = .ok fence)
    (hfixture : ∀ grid, t'.projection = .fixture grid → ∃ before, t.projection = .fixture before) :
    Mirrors id t' r where
  window := h.window.congr hdel hgen hseq hcut
  tracks := by
    obtain ⟨past, hpast⟩ := h.tracks
    refine ⟨past, ?_, ?_, hpast.terminal, ?_⟩
    · rw [hseq, hlast, hpast.last]
    · rw [hdel, hseq]
      exact hpast.carried
    · rw [hgen, hseq]
      exact hpast.replica
  fenced := hfenced
  older := by
    intro grid hgrid
    obtain ⟨before, hpre⟩ := hfixture grid hgrid
    rw [hgen]
    exact h.older before hpre

theorem Mirrors.congr (h : Mirrors id t r) (hdel : t'.deltas = t.deltas)
    (hgen : t'.generation = t.generation) (hseq : t'.sequence = t.sequence)
    (hcut : t.truncated = true → t'.truncated = true) (hlast : t'.lastSeen = t.lastSeen)
    (hproj : t'.projection.forgetHistory = t.projection.forgetHistory) :
    Mirrors id t' r := by
  refine h.reproject hdel hgen hseq hcut hlast ?_ ?_
  · intro runtime hrun
    rw [hrun] at hproj
    cases ht : t.projection with
    | fixture grid =>
      rw [ht] at hproj
      cases hproj
    | attached before =>
      rw [ht] at hproj
      simp only [forgetHistory, attached.injEq, AttachedRuntime.mk.injEq] at hproj
      obtain ⟨fence, hfence⟩ := h.fenced before ht
      exact ⟨fence, hproj.1.trans hfence⟩
  · intro grid hgrid
    rw [hgrid] at hproj
    cases ht : t.projection with
    | fixture => exact ⟨_, rfl⟩
    | attached before =>
      rw [ht] at hproj
      cases hproj

theorem Mirrors.push (h : Mirrors id t r) {next}
    (hnext : t.sequence.next = .ok next) {ops x}
    (hcarries : Carries ops t.lastSeen x) (hlast : t'.lastSeen = x)
    (hdel : ∀ d ∈ t'.deltas, d ∈ t.deltas ∨ d = ⟨id, t.generation, next, ops⟩)
    (hgen : t'.generation = t.generation) (hseq : t'.sequence = next)
    (hproj : t'.projection.forgetHistory = t.projection.forgetHistory)
    (hwindow : t'.Window id) : Mirrors id t' r := by
  have hget := (next_eq_ok.mp hnext).2
  have hsame : Mirrors id { t with projection := t'.projection } r :=
    h.congr rfl rfl rfl (fun hcut => hcut) rfl hproj
  refine ⟨hwindow, ?_, hsame.fenced, by rw [hgen]; exact hsame.older⟩
  obtain ⟨past, hpast⟩ := h.tracks
  have hpre : ∀ n, n ≤ t.sequence.get → Function.update past next.get x n = past n :=
    fun n hn => Function.update_of_ne (by omega) x past
  refine ⟨Function.update past next.get x, ?_, ?_, hpast.terminal, ?_⟩
  · rw [hseq, Function.update_self, hlast]
  · intro d hd
    rw [hseq]
    rcases hdel d hd with hold | rfl
    · obtain ⟨n, hn, hle, hc⟩ := hpast.carried d hold
      refine ⟨n, hn, by omega, ?_⟩
      rw [hpre n (by omega), hpre (n + 1) hle]
      exact hc
    · refine ⟨t.sequence.get, hget, by omega, ?_⟩
      rw [hpre _ le_rfl, hpast.last, ← hget, Function.update_self]
      exact hcarries
  · intro hlive hr
    rw [hgen] at hr
    obtain ⟨hle, hexact⟩ := hpast.replica hlive hr
    rw [hseq, hpre _ hle]
    exact ⟨by omega, hexact⟩

/-! ## Draining -/

/-- How many sequences draining takes. -/
def pendingCount (t : HostedTerminal) : ℕ :=
  t.pendingLifecycle.length + t.pendingOutput.take.1.count

theorem settleLifecycleEvent_mirrors (event : TerminalLifecycleEvent) (h : Mirrors id t r)
    (hroom : t.sequence.get + 1 ≤ u64Max) :
    Wp (settleLifecycleEvent id event)
      (fun _ t' => Mirrors id t' r ∧ t'.sequence.get = t.sequence.get + 1 ∧
        t'.lastSeen = t.lastSeen ∧ t'.pendingOutput = t.pendingOutput ∧
        t'.pendingLifecycle = t.pendingLifecycle ∧ t'.offScreen = t.offScreen)
      (fun _ _ => False) t := by
  simp only [settleLifecycleEvent, wp_bind, wp_modify, bumpSequence_wp]
  have hexit : Mirrors id { t with exitSummary := some event.summary } r :=
    h.congr rfl rfl rfl (fun hcut => hcut) rfl rfl
  refine ⟨fun next hnext => ?_, fun error herror => ?_⟩
  · refine ⟨?_, (next_eq_ok.mp hnext).2, rfl, rfl, rfl, rfl⟩
    refine hexit.push hnext (exit_carries event.summary t.lastSeen) rfl
      (fun d hd => mem_pushDelta hd) rfl rfl rfl ?_
    refine hexit.window.push hnext ?_
    intro start rows hmem
    simp at hmem
  · have hok : t.sequence.next = .ok ⟨t.sequence.get + 1⟩ :=
      next_eq_ok.mpr ⟨hroom, rfl⟩
    rw [hok] at herror
    cases herror

theorem drainLifecycle_mirrors (h : Mirrors id t r)
    (hroom : t.sequence.get + t.pendingLifecycle.length ≤ u64Max) :
    Wp (drainLifecycle id) (fun _ t' => Mirrors id t' r ∧
        t'.sequence.get = t.sequence.get + t.pendingLifecycle.length ∧
        t'.lastSeen = t.lastSeen ∧ t'.pendingOutput = t.pendingOutput ∧
        t'.pendingLifecycle = [] ∧ t'.offScreen = t.offScreen)
      (fun _ _ => False) t := by
  simp only [drainLifecycle, wp_bind, wp_get, wp_set]
  refine Wp.forM (P := fun (l : List TerminalLifecycleEvent) (t' : HostedTerminal) =>
    Mirrors id t' r ∧ t'.sequence.get + l.length = t.sequence.get + t.pendingLifecycle.length ∧
      t'.lastSeen = t.lastSeen ∧ t'.pendingOutput = t.pendingOutput ∧
      t'.pendingLifecycle = [] ∧ t'.offScreen = t.offScreen) ?_ t.pendingLifecycle
      (s := { t with pendingLifecycle := [] })
      ⟨h.congr rfl rfl rfl (fun hcut => hcut) rfl rfl, rfl, rfl, rfl, rfl, rfl⟩
      |>.imp (fun _ _ h' => h') fun _ _ h' => h'
  rintro event l t' ⟨ht', hseq, hlast, hout, hlife, hoff⟩
  rw [length_cons] at hseq
  refine (settleLifecycleEvent_mirrors event ht' (by omega)).imp (fun _ t'' h'' => ?_)
    fun _ _ h' => h'
  obtain ⟨hm, hs, hl, ho, hlc, hof⟩ := h''
  exact ⟨hm, by omega, hl.trans hlast, ho.trans hout, hlc.trans hlife, hof.trans hoff⟩

variable [TerminalEmulator]

theorem enforce_eq (screen : TerminalScreenSnapshot) :
    ∃ projection truncated, t.enforceScrollbackBoundFromScreen screen =
        { t with projection, truncated } ∧
      projection.forgetHistory = t.projection.forgetHistory ∧
      (t.truncated = true → truncated = true) := by
  unfold enforceScrollbackBoundFromScreen
  split_ifs
  · exact ⟨_, _, rfl, forgetHistory_boundHistory _ _, fun _ => rfl⟩
  · exact ⟨_, _, rfl, rfl, fun hcut => hcut⟩

omit [TerminalEmulator] in
theorem Mirrors.record (h : Mirrors id t r) {next : TerminalSequence}
    (hnext : t.sequence.next = .ok next) (screen : TerminalScreenSnapshot) :
    Mirrors id ({ t with sequence := next }.recordDeltaFromScreen id next screen) r := by
  have hwindow := h.window.record hnext screen
  rw [recordDelta_eq] at hwindow ⊢
  exact h.push hnext (changedOps_carries t screen) rfl (fun d hd => mem_pushDelta hd) rfl rfl rfl
    hwindow

variable {runtime : AttachedRuntime}

theorem recordScreen_mirrors (coalesced : Bool) (h : Mirrors id t r)
    (hroom : t.sequence.get + 1 ≤ u64Max) (hrun : t.projection = .attached runtime) :
    Wp (recordScreen id coalesced)
      (fun _ t' => Mirrors id t' r ∧ t'.sequence.get = t.sequence.get + 1 ∧
        t'.lastSeen = t'.shown ∧ t'.pendingOutput = t.pendingOutput ∧
        t'.pendingLifecycle = t.pendingLifecycle ∧ t'.offScreen = t.offScreen)
      (fun _ _ => False) t := by
  obtain ⟨projection, truncated, henforce, hproj, hcut⟩ :=
    enforce_eq (t := t) runtime.screen
  simp only [recordScreen, wp_bind, wp_get, hrun, wp_modify, bumpSequence_wp, henforce]
  have henforced : Mirrors id { t with
      projection
      truncated
      outputPressureCoalesced := t.outputPressureCoalesced || coalesced } r :=
    h.congr rfl rfl rfl hcut rfl hproj
  refine ⟨fun next hnext => ?_, fun error herror => ?_⟩
  · refine ⟨henforced.record hnext runtime.screen, ?_, ?_, ?_, ?_, ?_⟩
    · rw [recordDelta_eq]
      exact (next_eq_ok.mp hnext).2
    · rw [← shown_offScreen, offScreen_recordDelta, recordDelta_eq]
      -- What is shown is read from the projection before its scrollback was bounded.
      have hshown : ({ t with projection } : HostedTerminal).shown = t.shown := by
        rw [← shown_offScreen, ← shown_offScreen t]
        unfold offScreen
        simp only [hproj]
      rw [shown_offScreen]
      refine Eq.trans ?_ (Eq.trans hshown.symm rfl)
      have hscreen : t.screenSnapshot = runtime.screen := by
        unfold screenSnapshot
        rw [hrun]
        rfl
      have htitle : ({ t with projection } : HostedTerminal).currentTitle = t.currentTitle :=
        congrArg Shown.title hshown
      show Shown.mk (rowsFromScreen runtime.screen) runtime.screen.cursor runtime.screen.mode
        ({ t with projection } : HostedTerminal).currentTitle = t.shown
      rw [htitle, ← hscreen]
      rfl
    · rw [recordDelta_eq]
      rfl
    · rw [recordDelta_eq]
      rfl
    · rw [offScreen_recordDelta]
      unfold offScreen
      simp only [hproj]
  · have hok : t.sequence.next = .ok ⟨t.sequence.get + 1⟩ :=
      next_eq_ok.mpr ⟨hroom, rfl⟩
    rw [hok] at herror
    cases herror

omit [TerminalEmulator] in
theorem attached_of_offScreen (h : t'.offScreen = t.offScreen)
    (hrun : t.projection = .attached runtime) :
    ∃ runtime', t'.projection = .attached runtime' ∧ runtime'.fence = runtime.fence := by
  have hproj : t'.projection.forgetHistory = t.projection.forgetHistory :=
    congrArg HostedTerminal.projection h
  rw [hrun] at hproj
  cases ht' : t'.projection with
  | fixture grid =>
    rw [ht'] at hproj
    cases hproj
  | attached runtime' =>
    rw [ht'] at hproj
    simp only [forgetHistory, attached.injEq, AttachedRuntime.mk.injEq] at hproj
    exact ⟨runtime', rfl, hproj.1⟩

theorem recordScreens_mirrors (h : Mirrors id t r) {count : ℕ}
    (hroom : t.sequence.get + count ≤ u64Max) (hrun : t.projection = .attached runtime) :
    Wp ((List.replicate count ()).forM fun _ => recordScreen id false)
      (fun _ t' => Mirrors id t' r ∧ t'.sequence.get = t.sequence.get + count ∧
        (0 < count → t'.lastSeen = t'.shown) ∧ t'.pendingOutput = t.pendingOutput ∧
        t'.pendingLifecycle = t.pendingLifecycle ∧ t'.offScreen = t.offScreen)
      (fun _ _ => False) t := by
  refine Wp.forM (P := fun (l : List Unit) (t' : HostedTerminal) =>
    Mirrors id t' r ∧ t'.sequence.get + l.length = t.sequence.get + count ∧
      (l.length < count → t'.lastSeen = t'.shown) ∧ t'.pendingOutput = t.pendingOutput ∧
      t'.pendingLifecycle = t.pendingLifecycle ∧ t'.offScreen = t.offScreen) ?_
      (List.replicate count ()) (s := t) ⟨h, ?_, ?_, rfl, rfl, rfl⟩
      |>.imp (fun _ _ h' => h') fun _ _ h' => h'
  · rintro _ l t' ⟨ht', hseq, -, hout, hlife, hoff⟩
    rw [length_cons] at hseq
    obtain ⟨runtime', hruntime', -⟩ := attached_of_offScreen hoff hrun
    refine (recordScreen_mirrors false ht' (by omega) hruntime').imp (fun _ t'' h'' => ?_)
      fun _ _ h' => h'
    obtain ⟨hm, hs, hl, ho, hlc, hof⟩ := h''
    exact ⟨hm, by omega, fun _ => hl, ho.trans hout, hlc.trans hlife, hof.trans hoff⟩
  · rw [length_replicate]
  · rw [length_replicate]
    omega

omit [TerminalEmulator] in
theorem Mirrors.note (h : Mirrors id t r) (bytes : ℕ) :
    Mirrors id (t.noteObservedOutput bytes) r := by
  refine h.congr rfl rfl rfl (fun hcut => ?_) rfl rfl
  simp [noteObservedOutput, hcut]

theorem ingestOutput_mirrors (drain : PendingOutputDrain) (h : Mirrors id t r)
    (hroom : t.sequence.get + drain.count ≤ u64Max)
    (hrun : t.projection = .attached runtime) (hlast : drain.count = 0 → t.lastSeen = t.shown) :
    Wp (ingestOutput id drain)
      (fun _ t' => Mirrors id t' r ∧ t'.sequence.get = t.sequence.get + drain.count ∧
        t'.lastSeen = t'.shown ∧ t'.pendingOutput = t.pendingOutput ∧
        t'.pendingLifecycle = t.pendingLifecycle ∧ t'.offScreen = t.offScreen)
      (fun _ _ => False) t := by
  cases drain with
  | empty => exact ⟨h, rfl, hlast rfl, rfl, rfl, rfl⟩
  | coalesced bytes =>
    simp only [ingestOutput, wp_bind, wp_modify]
    exact recordScreen_mirrors true (h.note bytes) hroom hrun
  | notifications count bytes =>
    simp only [ingestOutput, wp_bind, wp_modify]
    cases count with
    | zero => exact ⟨h.note bytes, rfl, hlast rfl, rfl, rfl, rfl⟩
    | succ count =>
      refine (recordScreens_mirrors (h.note bytes) hroom hrun).imp (fun _ t' h' => ?_)
        fun _ _ h' => h'
      obtain ⟨hm, hs, hl, ho, hlc, hof⟩ := h'
      exact ⟨hm, hs, hl (Nat.succ_pos count), ho, hlc, hof⟩

theorem ingestOutput_fixture (drain : PendingOutputDrain) {grid : FixtureGrid}
    (hgrid : t.projection = .fixture grid) :
    Wp (ingestOutput id drain) (fun _ t' => t' = t ∨ ∃ bytes, t' = t.noteObservedOutput bytes)
      (fun _ _ => False) t := by
  have hnone : ∀ coalesced t', t'.projection = .fixture grid →
      Wp (recordScreen id coalesced) (fun _ t'' => t'' = t') (fun _ _ => False) t' := by
    intro coalesced t' ht'
    simp only [recordScreen, wp_bind, wp_get, ht', wp_pure]
  cases drain with
  | empty => exact .inl rfl
  | coalesced bytes =>
    simp only [ingestOutput, wp_bind, wp_modify]
    exact (hnone true (t.noteObservedOutput bytes) hgrid).imp (fun _ _ h' => .inr ⟨bytes, h'⟩)
      fun _ _ h' => h'
  | notifications count bytes =>
    simp only [ingestOutput, wp_bind, wp_modify]
    refine Wp.forM (P := fun _ t' => t' = t.noteObservedOutput bytes) ?_
      (List.replicate count ()) rfl |>.imp (fun _ _ h' => .inr ⟨bytes, h'⟩) fun _ _ h' => h'
    rintro _ _ _ rfl
    exact hnone false _ hgrid

omit [TerminalEmulator] in
theorem own_of_readable (hrun : t.projection = .attached runtime)
    {fence : AttachmentFence} (hfence : runtime.fence = .ok fence)
    (h : t.verifyReadable = .ok ()) : runtime.fence = .ok t.attachmentFence := by
  have hver : t.verifyAttachment = .ok () := by
    unfold verifyReadable at h
    cases hv : t.verifyAttachment with
    | ok _ => rfl
    | error error =>
      simp only [hv] at h
      split_ifs at h with hgone
      unfold verifyAttachment at hv
      simp only [hrun, hfence, failIf] at hv
      split_ifs at hv
      cases hv
      exact absurd hgone.1 (by decide)
  unfold verifyAttachment at hver
  simp only [hrun, hfence, failIf_eq_ok, not_or, not_not] at hver
  rw [hfence]
  exact congrArg Except.ok (by
    obtain ⟨resourceId, generation⟩ := fence
    unfold attachmentFence
    rw [← hver.1, ← hver.2])

/-- What was last seen of a terminal without pending output is what it shows. -/
def Settled (t : HostedTerminal) : Prop := t.Drained → t.lastSeen = t.shown

omit [TerminalEmulator] in
theorem Settled.of_offScreen (h : t.Settled) (hoff : t'.offScreen = t.offScreen)
    (hlast : t'.lastSeen = t.lastSeen) (hout : t'.pendingOutput = t.pendingOutput) :
    t'.Settled := by
  have hshown : t'.shown = t.shown := by rw [← shown_offScreen, hoff, shown_offScreen]
  have hfence : t'.attachmentFence = t.attachmentFence := by
    show t'.offScreen.attachmentFence = t.offScreen.attachmentFence
    rw [hoff]
  intro hdrained
  rw [hlast, hshown]
  refine h fun runtime hrun => ?_
  obtain ⟨runtime', hruntime', hsame⟩ := attached_of_offScreen hoff hrun
  obtain ⟨hnil, howned⟩ := hdrained runtime' hruntime'
  exact ⟨hout ▸ hnil, by rw [← hsame, howned, hfence]⟩

theorem drainAttachedOutput_mirrors (h : Mirrors id t r) (hsettled : t.Settled)
    (hroom : t.sequence.get + t.pendingCount ≤ u64Max) :
    Wp (drainAttachedOutput id)
      (fun _ t' => Mirrors id t' r ∧ t'.lastSeen = t'.shown ∧ t'.pendingCount = 0 ∧
        t'.sequence.get ≤ t.sequence.get + t.pendingCount ∧ t'.offScreen = t.offScreen)
      (fun _ t' => Mirrors id t' r ∧ t'.Settled ∧ t'.offScreen = t.offScreen) t := by
  simp only [drainAttachedOutput, takePendingOutput, wp_bind, wp_get, wp_lift, wp_set, wp_pure]
  unfold pendingCount at hroom ⊢
  refine (drainLifecycle_mirrors h (by omega)).imp (fun _ t₁ h₁ => ?_) fun _ _ h' => h'.elim
  obtain ⟨hm, hs, hl, ho, hlc, hof⟩ := h₁
  have hsettle₁ : t₁.Settled := hsettled.of_offScreen hof hl ho
  refine ⟨fun _ hreadable => ?_, fun _ _ => ⟨hm, hsettle₁, hof⟩⟩
  have htaken : Mirrors id { t₁ with pendingOutput := t₁.pendingOutput.take.2 } r :=
    hm.congr rfl rfl rfl (fun hcut => hcut) rfl rfl
  have hcount : t₁.pendingOutput.take.1.count = t.pendingOutput.take.1.count := by rw [ho]
  have hleft : ∀ t' : HostedTerminal, t'.pendingOutput = t₁.pendingOutput.take.2 →
      t'.pendingLifecycle = t₁.pendingLifecycle →
        t'.pendingLifecycle.length + t'.pendingOutput.take.1.count = 0 := by
    intro t' hout hlife
    rw [hlife, hlc, hout, PendingOutputQueue.take_take]
    rfl
  rcases projection_cases t₁ with ⟨grid, hgrid⟩ | ⟨runtime, hrun⟩
  · have hlast : t₁.lastSeen = t₁.shown := hsettle₁ fun runtime hrun => by
      rw [hgrid] at hrun
      cases hrun
    refine (ingestOutput_fixture t₁.pendingOutput.take.1
      (t := { t₁ with pendingOutput := t₁.pendingOutput.take.2 }) hgrid).imp (fun _ t' h' => ?_)
      fun _ _ h' => h'.elim
    have hbound : t₁.sequence.get ≤ t.sequence.get +
        (t.pendingLifecycle.length + t.pendingOutput.take.1.count) := by omega
    rcases h' with rfl | ⟨bytes, rfl⟩
    · exact ⟨htaken, hlast, hleft _ rfl rfl, hbound, hof⟩
    · exact ⟨htaken.note bytes, hlast, hleft _ rfl rfl, hbound, hof⟩
  · obtain ⟨fence, hfence⟩ := hm.fenced runtime hrun
    have howned := own_of_readable hrun hfence hreadable
    have hlast : t₁.pendingOutput.take.1.count = 0 → t₁.lastSeen = t₁.shown := fun hzero =>
      hsettle₁ fun runtime' hruntime' => by
        rw [hrun] at hruntime'
        cases hruntime'
        exact ⟨PendingOutputQueue.eq_empty_of_count hzero, howned⟩
    have hbound : t₁.sequence.get + t₁.pendingOutput.take.1.count ≤ u64Max := by omega
    refine (ingestOutput_mirrors t₁.pendingOutput.take.1 htaken hbound hrun hlast).imp
      (fun _ t' h' => ?_) fun _ _ h' => h'.elim
    obtain ⟨hm', hs', hl', ho', hlc', hof'⟩ := h'
    have hs'' : t'.sequence.get = t₁.sequence.get + t₁.pendingOutput.take.1.count := hs'
    exact ⟨hm', hl', hleft t' ho' hlc', by omega, hof'.trans hof⟩

end HostedTerminal

end DevManager.Terminal
