import DevManager.Terminal.Mirror

/-!
# What a replica shows after each call

Between two calls the invariant `Mirrors` of a terminal and a replica holds, and what
was last seen of a terminal without pending output is what it shows (`Held`). The
calls of the reader, the process and the clients keep both. Two of them do so on a
condition: deltas must not bring a replica to fewer rows (`PollFits`), and a restart
must not take over the generation that the replica holds (`RestartsAnew`).
-/

namespace DevManager.Terminal

open TerminalReplica List TerminalSequence

namespace HostedTerminal

variable {t t' : HostedTerminal} {id : TerminalId} {r : TerminalReplica}

/-- What holds of a terminal and a replica of it between two calls. -/
structure Held (id : TerminalId) (t : HostedTerminal) (r : TerminalReplica) : Prop where
  mirrors : Mirrors id t r
  settled : t.Settled

theorem Held.of_last (h : Mirrors id t r) (hlast : t.lastSeen = t.shown) : Held id t r :=
  ⟨h, fun _ => hlast⟩

/-! ## What a replica makes of an answer -/

/-- A snapshot of the terminal as it is now. -/
structure SnapshotOf (id : TerminalId) (t : HostedTerminal) (snapshot : TerminalSnapshot) :
    Prop where
  terminal : snapshot.terminalId = id
  generation : snapshot.generation = t.generation
  sequence : snapshot.sequence = t.sequence
  shown : ⟨snapshot.rows, snapshot.cursor, snapshot.modes, snapshot.title⟩ = t.shown

theorem Mirrors.snapshot (h : Mirrors id t r) (hlast : t.lastSeen = t.shown)
    {snapshot} (hsnap : SnapshotOf id t snapshot) :
    Mirrors id t (r.applySnapshot snapshot) := by
  obtain ⟨past, hpast⟩ := h.tracks
  refine ⟨h.window, ⟨past, hpast.last, hpast.carried, fun _ => ?_, fun _ _ => ⟨?_, ?_⟩⟩, h.fenced,
    fun grid _ g hg => ?_⟩
  · exact congrArg some hsnap.terminal
  · show snapshot.sequence.get ≤ _
    rw [hsnap.sequence]
  · show (r.applySnapshot snapshot).Exactly (past snapshot.sequence.get)
    rw [hsnap.sequence, hpast.last, hlast, ← hsnap.shown]
    exact ⟨rfl, rfl, rfl, rfl⟩
  · cases hg
    rw [hsnap.generation]

theorem applyDeltas_stuck (deltas : List TerminalDelta) (h : r.needsSnapshot = true) :
    r.applyDeltas deltas = r := by
  induction deltas with
  | nil => rfl
  | cons d deltas ih =>
    have hd : (r.applyDelta d).2 = r := by
      unfold applyDelta
      rw [if_pos h]
    show (r.applyDelta d).2.applyDeltas deltas = r
    rw [hd, ih]

theorem applyDeltas_not_continues {d} (deltas : List TerminalDelta)
    (hlive : r.needsSnapshot = false) (h : r.continues d = false) :
    r.applyDeltas (d :: deltas) = r.forceResync := by
  have hd : (r.applyDelta d).2 = r.forceResync := by
    unfold applyDelta
    rw [hlive, h, if_neg (by decide), if_pos (by decide)]
  show (r.applyDelta d).2.applyDeltas deltas = _
  rw [hd]
  exact applyDeltas_stuck deltas rfl

variable [TerminalEmulator]

omit [TerminalEmulator] in
theorem applyDeltas_shows {past : ℕ → Shown} {g} {height : ℕ} (deltas : List TerminalDelta) :
    ∀ {r : TerminalReplica} {s : TerminalSequence}, r.At id g s → r.Shows (past s.get) →
      r.rows.length ≤ height →
      deltas.map (·.sequence.get) = List.range' (s.get + 1) deltas.length →
      s.get + deltas.length ≤ u64Max →
      (∀ d ∈ deltas, (d.terminalId = id ∧ d.generation = g) ∧ Whole d.ops) →
      (∀ d ∈ deltas, ∃ n, d.sequence.get = n + 1 ∧ Carries d.ops (past n) (past (n + 1))) →
      (∀ d ∈ deltas, Fits height d.ops) →
      (r.applyDeltas deltas).Shows (past (s.get + deltas.length)) ∧
        (r.applyDeltas deltas).rows.length ≤ height := by
  induction deltas with
  | nil => exact fun _ hshows hrows _ _ _ _ _ => ⟨hshows, hrows⟩
  | cons d deltas ih =>
    intro r s hr hshows hrows hnums hbound hfenced hcarries hfits
    rw [map_cons, length_cons, range'_succ, List.cons.injEq] at hnums
    rw [length_cons] at hbound
    obtain ⟨hd, hrest⟩ := hnums
    obtain ⟨hfence, hwhole⟩ := hfenced d (.head _)
    have hnext : s.next = .ok d.sequence := next_eq_ok.mpr ⟨by omega, hd⟩
    obtain ⟨-, hat⟩ := applyDelta_at hr hfence.1 hfence.2 hnext hwhole
    obtain ⟨n, hn, hcarry⟩ := hcarries d (.head _)
    have hsnoc : s.get = n := by omega
    -- What the operations of this delta do to the replica, and to the number of its rows.
    have hops := (hcarry r (hsnoc ▸ hshows)).both (applyOps_fits hwhole (hfits d (.head _)) hrows)
    have hcont : r.continues d = true := by
      simp [continues, hr.terminal, hr.generation, hr.sequence, hfence.1, hfence.2, hnext]
    have happ : (r.applyDelta d).2.Shows (past (n + 1)) ∧
        (r.applyDelta d).2.rows.length ≤ height := by
      unfold applyDelta
      rw [hr.live, hcont, if_neg (by decide), if_neg (by decide)]
      cases hx : runOn (applyOps d.ops) r with
      | mk result r' =>
        cases result with
        | error => exact (hops.of_error hx).1.elim
        | ok u =>
          obtain ⟨hs', hlen⟩ := hops.of_ok hx
          exact ⟨⟨hs'.rows, hs'.cursor, hs'.modes, hs'.title⟩, hlen⟩
    have hlast := ih hat (by rw [hn]; exact happ.1) happ.2 (by rw [hd]; exact hrest)
      (by omega) (fun d' hd' => hfenced d' (mem_cons_of_mem d hd'))
      (fun d' hd' => hcarries d' (mem_cons_of_mem d hd'))
      fun d' hd' => hfits d' (mem_cons_of_mem d hd')
    have hcount : d.sequence.get + deltas.length = s.get + (d :: deltas).length := by
      rw [length_cons]
      omega
    rw [hcount] at hlast
    exact hlast

/-- The terminal has at least as many rows as the replica, and as every delta after `since`. -/
def Catches (t : HostedTerminal) (r : TerminalReplica) (since : TerminalSequence) : Prop :=
  r.rows.length ≤ t.shown.rows.length ∧ ∀ d ∈ t.deltasAfter since, Fits t.shown.rows.length d.ops

omit [TerminalEmulator] in
theorem applyDeltas_generation (deltas : List TerminalDelta) :
    ∀ r : TerminalReplica, (∀ d ∈ deltas, Whole d.ops) →
      (r.applyDeltas deltas).generation = r.generation := by
  induction deltas with
  | nil => exact fun _ _ => rfl
  | cons d deltas ih =>
    intro r hwhole
    have hd : (r.applyDelta d).2.generation = r.generation := by
      unfold applyDelta
      split_ifs
      · rfl
      · cases hx : runOn (applyOps d.ops) r with
        | mk result r' =>
          have hops : Wp (applyOps d.ops) (fun _ r' => r'.generation = r.generation)
              (fun _ r' => r'.generation = r.generation) r := by
            refine Wp.forM (P := fun _ (r' : TerminalReplica) => r'.generation = r.generation) ?_
              d.ops rfl
            intro op _ r' hr'
            cases op with
            | rowsChanged start rows =>
              simp only [applyOp, wp_bind, wp_get, wp_lift, wp_set, changeRows, ok_iff]
              refine ⟨?_, fun _ _ => hr'⟩
              rintro _ ⟨_, -, rfl⟩
              exact hr'
            | scroll | exit | cursor | mode | title | truncated => exact hr'
          cases result with
          | error e =>
            have hkept := hops.of_error hx
            exact hkept
          | ok u =>
            have hkept := hops.of_ok hx
            exact hkept
      · rfl
    show ((r.applyDelta d).2.applyDeltas deltas).generation = r.generation
    rw [ih _ fun d' hd' => hwhole d' (mem_cons_of_mem d hd'), hd]

omit [TerminalEmulator] in
theorem Mirrors.deltas (h : Mirrors id t r) (hlast : t.lastSeen = t.shown)
    {since} (hsince : since.get < t.sequence.get)
    (hcontig : t.contiguous since) (hcatches : r.At id t.generation since → t.Catches r since) :
    Mirrors id t (r.applyDeltas (t.deltasAfter since)) := by
  obtain ⟨past, hpast⟩ := h.tracks
  have hlinked := deltasAfter_linked h.window hsince hcontig
  have hlength : (t.deltasAfter since).length = t.sequence.get - since.get := by
    rw [← length_map, hlinked, length_range']
  have hmem : ∀ d ∈ t.deltasAfter since, d ∈ t.deltas := fun d => mem_of_mem_filter
  have holder : ∀ grid, t.projection = .fixture grid → ∀ g,
      (r.applyDeltas (t.deltasAfter since)).generation = some g → g.get ≤ t.generation.get := by
    intro grid hgrid g hg
    rw [applyDeltas_generation _ _ fun d hd => h.window.whole d (hmem d hd)] at hg
    exact h.older grid hgrid g hg
  -- A replica that still needs a snapshot afterwards claims nothing.
  have hstuck : (r.applyDeltas (t.deltasAfter since)).needsSnapshot = true →
      Mirrors id t (r.applyDeltas (t.deltasAfter since)) := by
    intro hneeds
    refine ⟨h.window, ⟨past, hpast.last, hpast.carried, fun hlive => ?_, fun hlive => ?_⟩, h.fenced,
      holder⟩
    · rw [hneeds] at hlive
      cases hlive
    · rw [hneeds] at hlive
      cases hlive
  cases hneeds : r.needsSnapshot with
  | true => exact hstuck (by rw [applyDeltas_stuck _ hneeds]; exact hneeds)
  | false =>
    obtain ⟨d, rest, hd⟩ : ∃ d rest, t.deltasAfter since = d :: rest :=
      exists_cons_of_length_pos (by omega)
    have hfst : d.sequence.get = since.get + 1 := by
      rw [hd, map_cons] at hlinked
      have hhead := congrArg List.head? hlinked
      rw [head?_cons, head?_range', if_neg (by omega)] at hhead
      exact Option.some.inj hhead
    have hdmem : d ∈ t.deltasAfter since := by rw [hd]; exact .head _
    obtain ⟨hdid, hdgen⟩ := h.window.fenced d (hmem d hdmem)
    cases hcont : r.continues d with
    | false =>
      refine hstuck ?_
      rw [hd, applyDeltas_not_continues rest hneeds hcont]
      rfl
    | true =>
      have hat : r.At id t.generation since := by
        unfold continues at hcont
        simp only [Bool.and_eq_true, decide_eq_true_eq] at hcont
        obtain ⟨⟨hid, hgen⟩, hseq⟩ := hcont
        refine ⟨hneeds, by rw [hid, hdid], by rw [hgen, hdgen], ?_⟩
        cases hnext : r.sequence.next with
        | error e => simp [hnext] at hseq
        | ok expected =>
          simp only [hnext, decide_eq_true_eq] at hseq
          have hget := (next_eq_ok.mp hnext).2
          rw [← hseq, hfst] at hget
          exact eq_of_get (by omega)
      obtain ⟨hrows, hfits⟩ := hcatches hat
      have hreach := (deltasAfter_reaches h.window hat hsince hcontig).reaches
      obtain ⟨-, hexact⟩ := hpast.replica hneeds hat.generation
      rw [hat.sequence] at hexact
      have hbound := h.window.bounded
      obtain ⟨hshows, hlen⟩ := applyDeltas_shows (t.deltasAfter since) hat
        hexact.shows hrows (by rw [hlength]; exact hlinked) (by omega)
        (fun d' hd' => ⟨h.window.fenced d' (hmem d' hd'), h.window.whole d' (hmem d' hd')⟩)
        (fun d' hd' => by
          obtain ⟨n, hn, -, hc⟩ := hpast.carried d' (hmem d' hd')
          exact ⟨n, hn, hc⟩) hfits
      have hend : since.get + (t.deltasAfter since).length = t.sequence.get := by omega
      rw [hend, hpast.last, hlast] at hshows
      refine ⟨h.window, ⟨past, hpast.last, hpast.carried, fun _ => hreach.terminal,
        fun _ _ => ⟨?_, ?_⟩⟩, h.fenced, holder⟩
      · exact (congrArg TerminalSequence.get hreach.sequence).le
      · have hseq : (r.applyDeltas (t.deltasAfter since)).sequence = t.sequence := hreach.sequence
        rw [hseq, hpast.last, hlast]
        exact hshows.exactly hlen

/-! ## The calls -/

omit [TerminalEmulator] in
theorem snapshot_of (t : HostedTerminal) :
    SnapshotOf id t { t with
      terminalId := id, size := t.spec.size, cursor := t.screenSnapshot.cursor,
      modes := t.screenSnapshot.mode, title := t.currentTitle,
      rows := rowsFromScreen t.screenSnapshot, historyRows := t.screenSnapshot.historySize } :=
  ⟨rfl, rfl, rfl, rfl⟩

theorem snapshot_mirrors (h : Held id t r) (hroom : t.sequence.get + t.pendingCount ≤ u64Max) :
    Wp (snapshot id)
      (fun snapshot t' => (Mirrors id t' r ∧ t'.lastSeen = t'.shown) ∧ SnapshotOf id t' snapshot)
      (fun _ t' => Held id t' r) t := by
  simp only [snapshot, wp_bind, wp_get, wp_pure]
  refine (drainAttachedOutput_mirrors h.mirrors h.settled hroom).imp (fun _ t' h' => ?_)
    fun _ _ h' => ⟨h'.1, h'.2.1⟩
  exact ⟨⟨h'.1, h'.2.1⟩, snapshot_of t'⟩

omit [TerminalEmulator] in
theorem Mirrors.cursor (h : Mirrors id t r) (clientId : ClientId) (generation : TerminalGeneration)
    (sequence) :
    Mirrors id (t.rememberClientCursor clientId generation sequence) r :=
  h.congr rfl rfl rfl (fun hcut => hcut) rfl rfl

/-- The condition on an `updates_since` whose answer is handed to the replica: if it is answered
by deltas that continue the replica, the terminal has at least as many rows as the replica and
as those deltas. -/
def PollFits (id : TerminalId) (t : HostedTerminal) (r : TerminalReplica) (g : TerminalGeneration)
    (since : TerminalSequence) : Prop :=
  ∀ drained, runOn (drainAttachedOutput id) t = (.ok (), drained) → r.At id g since →
    g = drained.generation → drained.contiguous since → drained.Catches r since

theorem updatesSince_mirrors (clientId : ClientId) (g : TerminalGeneration)
    (since) (h : Held id t r)
    (hroom : t.sequence.get + t.pendingCount ≤ u64Max) :
    Wp (updatesSince id clientId g since)
      (fun update t' => Held id t' r ∧
        (PollFits id t r g since → Held id t' (r.applyUpdate update)))
      (fun _ t' => Held id t' r) t := by
  simp only [updatesSince, ensureOpen, wp_bind, wp_get, wp_refuseIf]
  have hdrained : Wp (drainAttachedOutput id)
      (fun _ t' => runOn (drainAttachedOutput id) t = (.ok (), t')) (fun _ _ => True) t :=
    wp_iff_runOn.mpr ⟨fun _ _ hrun => hrun, fun _ _ _ => trivial⟩
  refine ⟨fun _ => h, fun _ => ?_⟩
  refine ((drainAttachedOutput_mirrors h.mirrors h.settled hroom).both hdrained).imp
    (fun _ t' h' => ?_) fun _ _ h' => ⟨h'.1.1, h'.1.2.1⟩
  obtain ⟨⟨hm, hlast, hcount, -, -⟩, hrun⟩ := h'
  have hbound := hm.window.bounded
  have hsnap := snapshot_mirrors (r := r) (Held.of_last hm hlast) (by omega)
  simp only [replayDeltas, replaySnapshot, wp_ite, wp_bind, wp_get, wp_modify, wp_pure]
  refine ⟨fun _ => ?_, fun hgen => ⟨fun _ => ?_, fun hs => ⟨fun hsame => ?_, fun hne => ?_⟩⟩⟩
  · exact hsnap.imp (fun _ _ h'' => ⟨.of_last h''.1.1 h''.1.2, fun _ =>
      .of_last (h''.1.1.snapshot h''.1.2 h''.2) h''.1.2⟩) fun _ _ h'' => h''
  · exact hsnap.imp (fun _ _ h'' => ⟨.of_last h''.1.1 h''.1.2, fun _ =>
      .of_last (h''.1.1.snapshot h''.1.2 h''.2) h''.1.2⟩) fun _ _ h'' => h''
  · have hheld : Held id (t'.rememberClientCursor clientId g since) r :=
      .of_last (hm.cursor ..) hlast
    exact ⟨hheld, fun _ => hheld⟩
  · rw [not_not] at hgen
    have hpre : since.get < t'.sequence.get := by
      have hdist : since.get ≠ t'.sequence.get := fun heq =>
        hne (eq_of_get heq)
      omega
    refine ⟨fun hcontig => ⟨fun _ => ?_, fun _ => ⟨?_, fun hpoll => ?_⟩⟩, fun _ => ?_⟩
    · exact hsnap.imp (fun _ _ h'' => ⟨.of_last (h''.1.1.cursor ..) h''.1.2, fun _ =>
        .of_last ((h''.1.1.snapshot h''.1.2 h''.2).cursor ..) h''.1.2⟩) fun _ _ h'' => h''
    · exact .of_last (hm.cursor ..) hlast
    · refine .of_last ?_ hlast
      refine Mirrors.cursor ?_ clientId g t'.sequence
      exact hm.deltas hlast hpre hcontig fun hat =>
        hpoll t' hrun (hgen ▸ hat) hgen hcontig
    · refine hsnap.imp (fun _ t'' h'' => ?_) fun _ _ h'' => h''
      have hcleared : ∀ {r' : TerminalReplica}, Mirrors id t'' r' →
          Mirrors id { t'' with outputPressureCoalesced := false } r' := fun hr' =>
        hr'.congr rfl rfl rfl (fun hcut => hcut) rfl rfl
      exact ⟨.of_last ((hcleared h''.1.1).cursor ..) h''.1.2, fun _ =>
        .of_last ((hcleared (h''.1.1.snapshot h''.1.2 h''.2)).cursor ..) h''.1.2⟩

/-! ## The process -/

omit [TerminalEmulator] in
theorem push_pending (queue : PendingOutputQueue) (chunkLen : ℕ) :
    (queue.push chunkLen).take.1 ≠ .empty := by
  unfold PendingOutputQueue.push
  cases hcoalesced : queue.coalesced with
  | true => simp [PendingOutputQueue.take]
  | false =>
    by_cases hlim : maxPendingOutputChunks < saturatingAdd queue.chunks.length 1 ∨
        maxPendingOutputBytes < saturatingAdd queue.bytes chunkLen
    · simp [PendingOutputQueue.take, hlim]
    · simp [PendingOutputQueue.take, hlim]

omit [TerminalEmulator] in
theorem readerOutput_held (screen : TerminalScreenSnapshot) (title) (chunkLen : ℕ)
    (h : Held id t r) : Held id (t.readerOutput screen title chunkLen) r := by
  unfold readerOutput
  rcases projection_cases t with ⟨grid, hgrid⟩ | ⟨runtime, hrun⟩
  · simp only [hgrid]
    exact h
  · simp only [hrun]
    split_ifs
    · exact h
    · obtain ⟨fence, hfence⟩ := h.mirrors.fenced runtime hrun
      refine ⟨h.mirrors.reproject rfl rfl rfl (fun hcut => hcut) rfl ?_ ?_, ?_⟩
      · intro after hpost
        cases hpost
        exact ⟨fence, hfence⟩
      · intro grid hgrid
        cases hgrid
      · intro hdrained
        exact absurd (hdrained _ rfl).1 (push_pending t.pendingOutput chunkLen)

omit [TerminalEmulator] in
theorem restartProcess_held (fence : AttachmentFence) (screen)
    (view) (h : Held id t r) : Held id (t.restartProcess fence screen view) r := by
  unfold restartProcess
  split_ifs with hdeny
  · exact h
  · unfold onRuntime
    rcases projection_cases t with ⟨grid, hgrid⟩ | ⟨runtime, hrun⟩
    · simp only [hgrid]
      exact h
    · simp only [hrun]
      refine ⟨h.mirrors.reproject rfl rfl rfl (fun hcut => hcut) rfl ?_ ?_, ?_⟩
      · intro after hpost
        cases hpost
        exact ⟨fence, rfl⟩
      · intro grid hgrid
        cases hgrid
      · intro hdrained
        have howned := (hdrained _ rfl).2
        simp only [Except.ok.injEq] at howned
        rw [howned] at hdeny
        exact absurd ⟨rfl, le_rfl⟩ hdeny

omit [TerminalEmulator] in
theorem setFaults_held (writeFails resizeFails scrollFails closeFails : Bool) (h : Held id t r) :
    Held id (t.setFaults writeFails resizeFails scrollFails closeFails) r := by
  unfold setFaults onRuntime
  rcases projection_cases t with ⟨grid, hgrid⟩ | ⟨runtime, hrun⟩
  · simp only [hgrid]
    exact h
  · simp only [hrun]
    have hfence := h.mirrors.fenced runtime hrun
    refine ⟨h.mirrors.reproject rfl rfl rfl (fun hcut => hcut) rfl ?_ ?_, ?_⟩
    · intro after hpost
      cases hpost
      exact hfence
    · intro grid hgrid
      cases hgrid
    · intro hdrained
      have hpre : t.Drained := by
        intro before hpre
        rw [hrun] at hpre
        cases hpre
        exact ⟨(hdrained _ rfl).1, (hdrained _ rfl).2⟩
      have hlast := h.settled hpre
      refine Eq.trans hlast ?_
      unfold shown screenSnapshot currentTitle sessionView
      rw [hrun]
      rfl

theorem applyFixtureReaderBytes_held (bytes : List UInt8) (shown)
    (h : Held id t r) (hroom : t.sequence.get + 1 ≤ u64Max) :
    Wp (applyFixtureReaderBytes id bytes shown) (fun _ t' => Held id t' r)
      (fun _ t' => Held id t' r) t := by
  simp only [applyFixtureReaderBytes, ensureOpen, wp_bind, wp_get, wp_refuseIf, wp_ite, wp_pure,
    wp_throw, wp_modify]
  refine ⟨fun _ => h, fun _ => ⟨fun _ => h, fun _ => ⟨fun _ => h, fun _ => ?_⟩⟩⟩
  rcases projection_cases t with ⟨grid, hgrid⟩ | ⟨runtime, hrun⟩
  · simp only [hgrid, wp_bind, wp_modify, bumpSequence_wp, wp_pure]
    have hshown : Mirrors id { t.noteObservedOutput bytes.length with
        projection := .fixture shown } r := by
      refine (h.mirrors.note bytes.length).reproject rfl rfl rfl (fun hcut => hcut) rfl
        ?_ fun _ _ => ⟨grid, hgrid⟩
      intro runtime hrun
      cases hrun
    obtain ⟨projection, truncated, henforce, hproj, hcut⟩ :=
      enforce_eq (t := { t.noteObservedOutput bytes.length with projection := .fixture shown })
        shown.screen
    rw [henforce]
    have henforced : Mirrors id { t.noteObservedOutput bytes.length with projection, truncated }
      r :=
      hshown.congr rfl rfl rfl hcut rfl hproj
    refine ⟨fun next hnext => .of_last (henforced.record hnext _) ?_, fun error herror => ?_⟩
    · rw [← shown_offScreen, offScreen_recordDelta, shown_offScreen, recordDelta_eq]
      rfl
    · have hok : t.sequence.next = .ok ⟨t.sequence.get + 1⟩ :=
        next_eq_ok.mpr ⟨hroom, rfl⟩
      have herror' : t.sequence.next = .error error := herror
      rw [hok] at herror'
      cases herror'
  · simp only [hrun, wp_throw]
    exact ⟨h.mirrors.note bytes.length, h.settled⟩

/-! ## Resizes and restarts -/

omit [TerminalEmulator] in
theorem applyResize_held (size : TerminalSize) (commit)
    (reflow) (h : Held id t r) (hroom : t.sequence.get + 1 ≤ u64Max) :
    Wp (applyResize id size commit reflow) (fun _ t' => Held id t' r) (fun _ t' => Held id t' r)
      t := by
  simp only [applyResize, wp_bind, wp_get, wp_lift, wp_set, wp_modify, bumpSequence_wp]
  refine ⟨fun projection hres => ?_, fun _ _ => h⟩
  have hresized : Mirrors id { t with
      projection
      clients := commitResize commit t.clients
      spec := { t.spec with size } } r := by
    unfold resizeProjection at hres
    rcases projection_cases t with ⟨grid, hgrid⟩ | ⟨runtime, hrun⟩
    · simp only [hgrid, Except.ok.injEq] at hres
      refine h.mirrors.reproject rfl rfl rfl (fun hcut => hcut) rfl ?_ fun _ _ => ⟨grid, hgrid⟩
      intro runtime hrun
      rw [← hres] at hrun
      cases hrun
    · simp only [hrun] at hres
      cases hr : runtime.resize size t.attachmentFence reflow with
      | error error =>
        rw [hr] at hres
        cases hres
      | ok resized =>
        rw [hr] at hres
        cases hres
        refine h.mirrors.reproject rfl rfl rfl (fun hcut => hcut) rfl ?_ ?_
        · intro after hpost
          cases hpost
          simp only [AttachedRuntime.resize, ok_iff] at hr
          obtain ⟨_, -, _, -, rfl⟩ := hr
          exact h.mirrors.fenced runtime hrun
        · intro grid hgrid
          cases hgrid
  refine ⟨fun next hnext => .of_last (hresized.record hnext _) ?_, fun error herror => ?_⟩
  · rw [← shown_offScreen, offScreen_recordDelta, shown_offScreen, recordDelta_eq]
    rfl
  · have hok : t.sequence.next = .ok ⟨t.sequence.get + 1⟩ :=
      next_eq_ok.mpr ⟨hroom, rfl⟩
    have herror' : t.sequence.next = .error error := herror
    rw [hok] at herror'
    cases herror'

theorem resize_held (size : TerminalSize) (fence)
    (reflow) (h : Held id t r)
    (hroom : t.sequence.get + t.pendingCount + 1 ≤ u64Max) :
    Wp (resize id size fence reflow) (fun _ t' => Held id t' r) (fun _ t' => Held id t' r) t := by
  simp only [resize, ensureOpen, wp_bind, wp_get, wp_refuseIf, wp_lift]
  refine ⟨fun _ => h, fun _ => ⟨fun _ _ => ?_, fun _ _ => h⟩⟩
  refine (drainAttachedOutput_mirrors h.mirrors h.settled (by omega)).imp (fun _ t' ht' => ?_)
    fun _ _ ht' => ⟨ht'.1, ht'.2.1⟩
  obtain ⟨hm, hlast, -, hseq, -⟩ := ht'
  have hheld : Held id t' r := .of_last hm hlast
  refine ⟨fun size _ => ⟨fun admission _ => ?_, fun _ _ => hheld⟩, fun _ _ => hheld⟩
  cases admission with
  | ignored => exact hheld
  | admitted commit => exact applyResize_held size commit reflow hheld (by omega)

omit [TerminalEmulator] in
theorem restarted_mirrors (h : Mirrors id t r)
    (hnew : r.needsSnapshot = false → r.generation ≠ some t'.generation)
    (hdel : t'.deltas = []) (hseq : t'.sequence = .zero)
    (hfenced : ∀ runtime, t'.projection = .attached runtime → ∃ fence, runtime.fence = .ok fence)
    (holder : ∀ grid, t'.projection = .fixture grid →
      ∀ g, r.generation = some g → g.get ≤ t'.generation.get) : Mirrors id t' r := by
  obtain ⟨past, hpast⟩ := h.tracks
  refine ⟨.start hdel hseq, ⟨fun _ => t'.lastSeen, rfl, ?_, hpast.terminal, ?_⟩, hfenced, holder⟩
  · rw [hdel]
    exact nofun
  · exact fun hlive hr => absurd hr (hnew hlive)

/-- The restart, if it is not refused, does not take over the generation that a live replica
holds. -/
def RestartsAnew (t : HostedTerminal) (r : TerminalReplica) : Prop :=
  ∀ runtime fence, t.projection = .attached runtime → runtime.fence = .ok fence →
    ¬ (fence.resourceId = t.resourceId ∧ fence.generation.get ≤ t.generation.get) →
    r.needsSnapshot = false → r.generation ≠ some fence.generation

omit [TerminalEmulator] in
theorem settled_of_stranger {runtime fence}
    (hrun : t.projection = .attached runtime) (hfence : runtime.fence = .ok fence)
    (h : ¬ (fence.resourceId = t.resourceId ∧ fence.generation.get ≤ t.generation.get)) :
    t.Settled := by
  intro hdrained
  have howned := (hdrained runtime hrun).2
  rw [hfence, Except.ok.injEq] at howned
  rw [howned] at h
  exact absurd ⟨rfl, le_rfl⟩ h

omit [TerminalEmulator] in
theorem rebound_shown (attachment : AttachmentFence) (runtime)
    {view} (hview : runtime.view = .ok view) (spec)
    (hspec : spec.title = t.spec.title) (resourceId) :
    ({ restarted attachment.generation (.attached runtime) (view.title <|> t.spec.title) t with
      spec
      resourceId
      exitSummary := none
      outputPressureCoalesced := false } : HostedTerminal).lastSeen =
    ({ restarted attachment.generation (.attached runtime) (view.title <|> t.spec.title) t with
      spec
      resourceId
      exitSummary := none
      outputPressureCoalesced := false } : HostedTerminal).shown := by
  have htitle : ((view.title <|> spec.title) <|> spec.title) = (view.title <|> t.spec.title) := by
    rw [orElse_self, hspec]
  simp only [lastSeen, shown, currentTitle, sessionView, restarted, screenSnapshot,
    ProjectionSource.view, hview]
  exact congrArg (Shown.mk _ _ _) htitle.symm

omit [TerminalEmulator] in
theorem rebindAttached_held {runtime} (h : Held id t r)
    (hrun : t.projection = .attached runtime) (hnew : RestartsAnew t r)
    (hroom : t.sequence.get + t.pendingCount ≤ u64Max) :
    Wp (rebindAttached id runtime) (fun _ t' => Held id t' r) (fun _ t' => Held id t' r) t := by
  simp only [rebindAttached, wp_bind, wp_get, wp_lift, wp_refuseIf, wp_modify, wp_set, wp_pure]
  refine ⟨fun attachment hattach => ⟨fun _ => h, fun hstale => ?_⟩, fun _ _ => h⟩
  have hlife : t.sequence.get + t.pendingLifecycle.length ≤ u64Max := by
    unfold pendingCount at hroom
    omega
  refine (drainLifecycle_mirrors h.mirrors hlife).imp (fun _ t₁ h₁ => ?_) fun _ _ h' => h'.elim
  obtain ⟨hm, -, -, -, -, hoff⟩ := h₁
  obtain ⟨runtime₁, hruntime₁, hfence₁⟩ := attached_of_offScreen hoff hrun
  have hsame : t₁.attachmentFence = t.attachmentFence := by
    show t₁.offScreen.attachmentFence = t.offScreen.attachmentFence
    rw [hoff]
  have htaken : Mirrors id { t₁ with pendingOutput := t₁.pendingOutput.take.2 } r :=
    hm.congr rfl rfl rfl (fun hcut => hcut) rfl rfl
  refine ⟨fun view hview => ⟨?_, fun _ => ?_⟩, fun _ _ => ⟨htaken, ?_⟩⟩
  · refine restarted_mirrors htaken (hnew runtime attachment hrun hattach hstale) rfl rfl ?_
      ?_
    · intro after hpost
      cases hpost
      exact ⟨attachment, hattach⟩
    · intro grid hgrid
      cases hgrid
  · refine rebound_shown attachment runtime hview _ ?_ _
    cases TerminalSize.new view.dimensions.cols view.dimensions.rows <;> rfl
  · refine settled_of_stranger hruntime₁ (hfence₁.trans hattach) ?_
    show ¬ (attachment.resourceId = t₁.attachmentFence.resourceId ∧
      attachment.generation.get ≤ t₁.attachmentFence.generation.get)
    rw [hsame]
    exact hstale

theorem rebuildFixture_held (blank) {grid}
    (h : Held id t r) (hgrid : t.projection = .fixture grid) :
    Wp (rebuildFixture blank) (fun _ t' => Held id t' r) (fun _ t' => Held id t' r) t := by
  simp only [rebuildFixture, wp_bind, wp_get, wp_lift, wp_set, wp_pure]
  refine ⟨fun next hnext => ⟨?_, fun _ => ?_⟩, fun _ _ => h⟩
  · have hget := TerminalGeneration.get_next hnext
    have hpre : ∀ g, r.generation = some g → g.get ≤ t.generation.get :=
      h.mirrors.older grid hgrid
    refine restarted_mirrors h.mirrors (fun _ hr => ?_) rfl rfl ?_ fun _ _ g hg => ?_
    · have hle : next.get ≤ t.generation.get := hpre next hr
      omega
    · intro runtime hrun
      cases hrun
    · have hle := hpre g hg
      show g.get ≤ next.get
      omega
  · simp only [lastSeen, shown, currentTitle, sessionView, restarted, screenSnapshot,
      ProjectionSource.view, Except.map]
    rw [orElse_self]
    cases t.spec.title <;> rfl

theorem replaceGeneration_held (blank) (h : Held id t r)
    (hnew : RestartsAnew t r) (hroom : t.sequence.get + t.pendingCount ≤ u64Max) :
    Wp (replaceGeneration id blank) (fun _ t' => Held id t' r) (fun _ t' => Held id t' r) t := by
  simp only [replaceGeneration, ensureOpen, wp_bind, wp_get, wp_refuseIf]
  refine ⟨fun _ => h, fun _ => ?_⟩
  rcases projection_cases t with ⟨grid, hgrid⟩ | ⟨runtime, hrun⟩
  · simp only [hgrid]
    exact rebuildFixture_held blank h hgrid
  · simp only [hrun]
    exact rebindAttached_held h hrun hnew hroom

end HostedTerminal

end DevManager.Terminal
