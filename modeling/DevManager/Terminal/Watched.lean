import DevManager.Terminal.Replication

/-!
# A replica shows what the host shows

One hosted terminal and a client's replica of it, which is handed some of the answers.
While the replica is only brought forward by deltas to a terminal that has at least as
many rows as the replica and as those deltas, while no restart takes over the
generation that it holds, and while sequences are not exhausted, a replica at the
terminal's generation and sequence shows what a snapshot taken now shows
(`replica_shows_host`). A terminal that loses rows leaves them on the replica
(`resize_leaves_rows`).
-/

namespace DevManager.Terminal

open TerminalReplica HostedTerminal

/-- A hosted terminal and a client's replica of it. -/
structure Watched where
  terminal : HostedTerminal
  replica : TerminalReplica

namespace Watched

section Runs

variable {id : TerminalId} {w : Watched}

/-- What the client does with an answer of the host. -/
def receive (answer : Except TerminalError TerminalAnswer) (replica : TerminalReplica) :
    TerminalReplica :=
  match answer with
  | .ok (.snapshot snapshot) => replica.applySnapshot snapshot
  | .ok (.update update) => replica.applyUpdate update
  | _ => replica

variable [TerminalEmulator]

/-- A call on the terminal; the flag says whether the answer is handed to this replica. -/
def call (id : TerminalId) (w : Watched) (c : HostedCall × Bool) :
    Except TerminalError TerminalAnswer × Watched :=
  let (answer, terminal) := w.terminal.call id c.1
  (answer, ⟨terminal, if c.2 then receive answer w.replica else w.replica⟩)

/-- The calls of a run: output, lifecycle events and restarts of the process, resizes, and the
reads of any number of clients. -/
def Listed : HostedCall → Prop
  | .readerOutput _ _ _ | .lifecycle _ | .setFaults _ _ _ _ | .restartProcess _ _ _
  | .admitReaderBytes _ _ | .pump | .snapshot | .updatesSince _ _ _ | .resize _ _ _
  | .grantClient _ _ | .disconnectView _ | .replaceGeneration _ => True
  | _ => False

/-- The condition on a call: deltas handed to the replica do not bring it to fewer rows, and a
restart does not take over its generation. -/
def Fair (id : TerminalId) (w : Watched) : HostedCall × Bool → Prop
  | (.updatesSince _ g since, true) => PollFits id w.terminal w.replica g since
  | (.replaceGeneration _, _) => RestartsAnew w.terminal w.replica
  | _ => True

/-- The next call and the drain of what is pending do not exhaust the sequences. -/
def HasRoom (w : Watched) : Prop :=
  w.terminal.sequence.get + w.terminal.pendingCount + 1 ≤ u64Max

instance (w : Watched) : Decidable w.HasRoom := inferInstanceAs (Decidable (_ ≤ _))

/-- What every call of a run meets where it is made. -/
structure Meets (id : TerminalId) (w : Watched) (c : HostedCall × Bool) : Prop where
  listed : Listed c.1
  room : w.HasRoom
  fair : Fair id w c

variable {t : HostedTerminal} {r : TerminalReplica}

omit [TerminalEmulator] in
theorem held_of_wp {α : Type} {m : TerminalM α}
    {f : α → TerminalAnswer} (hrec : ∀ a r', receive (.ok (f a)) r' = r')
    (h : Wp m (fun _ t' => Held id t' r) (fun _ t' => Held id t' r) t) (handed : Bool) :
    Wp (m >>= fun a => pure (f a))
      (fun answer t' => Held id t' (if handed then receive (.ok answer) r else r))
      (fun _ t' => Held id t' r) t := by
  rw [wp_bind]
  refine h.imp (fun a t' h' => ?_) fun _ _ h' => h'
  rw [wp_pure, hrec, ite_self]
  exact h'

omit [TerminalEmulator] in
theorem held_of_modify {f : HostedTerminal → HostedTerminal} (h : Held id (f t) r) :
    Wp (modify f : TerminalM PUnit) (fun _ t' => Held id t' r) (fun _ t' => Held id t' r) t := by
  rw [wp_modify]
  exact h

omit [TerminalEmulator] in
theorem held_of_clients (h : Held id t r)
    (clients) : Held id { t with clients } r :=
  ⟨h.mirrors.congr rfl rfl rfl (fun hcut => hcut) rfl rfl, h.settled⟩

omit [TerminalEmulator] in
theorem held_of_lifecycle (h : Held id t r)
    (event) : Held id (t.notifyLifecycle event) r :=
  ⟨h.mirrors.congr rfl rfl rfl (fun hcut => hcut) rfl rfl, h.settled⟩

theorem method_held (c) (handed : Bool) (h : Held id w.terminal w.replica)
    (hmeets : Meets id w (c, handed)) :
    Wp (method id c) (fun answer t' =>
        Held id t' (if handed then receive (.ok answer) w.replica else w.replica))
      (fun _ t' => Held id t' w.replica) w.terminal := by
  have hroom : w.terminal.sequence.get + w.terminal.pendingCount + 1 ≤ u64Max := hmeets.room
  have hdone : ∀ (a : PUnit) r, receive (.ok TerminalAnswer.done) r = r :=
    fun _ _ => rfl
  cases c with
  | readerOutput => exact held_of_wp hdone (held_of_modify (readerOutput_held _ _ _ h)) handed
  | lifecycle => exact held_of_wp hdone (held_of_modify (held_of_lifecycle h _)) handed
  | setFaults => exact held_of_wp hdone (held_of_modify (setFaults_held _ _ _ _ h)) handed
  | restartProcess => exact held_of_wp hdone (held_of_modify (restartProcess_held _ _ _ h)) handed
  | admitReaderBytes bytes shown =>
    exact held_of_wp (fun _ _ => rfl) (applyFixtureReaderBytes_held bytes shown h (by omega)) handed
  | pump =>
    simp only [method, ensureOpen, wp_bind, wp_get, wp_refuseIf, wp_pure, hdone PUnit.unit,
      ite_self]
    exact ⟨fun _ => h, fun _ =>
      (drainAttachedOutput_mirrors h.mirrors h.settled (by omega)).imp
        (fun _ _ h' => .of_last h'.1 h'.2.1) fun _ _ h' => ⟨h'.1, h'.2.1⟩⟩
  | snapshot =>
    simp only [method, ensureOpen, wp_bind, wp_get, wp_refuseIf, wp_pure]
    refine ⟨fun _ => h, fun _ => (snapshot_mirrors h (by omega)).imp (fun snapshot t' h' => ?_)
      fun _ _ h' => h'⟩
    obtain ⟨⟨hm, hlast⟩, hof⟩ := h'
    cases handed with
    | false => exact .of_last hm hlast
    | true => exact .of_last (hm.snapshot hlast hof) hlast
  | updatesSince clientId g since =>
    simp only [method, wp_bind, wp_pure]
    refine (updatesSince_mirrors clientId g since h (by omega)).imp (fun update t' h' => ?_)
      fun _ _ h' => h'
    cases handed with
    | false => exact h'.1
    | true => exact h'.2 hmeets.fair
  | resize => exact held_of_wp hdone (resize_held _ _ _ h hroom) handed
  | grantClient clientId grant =>
    refine held_of_wp hdone ?_ handed
    simp only [grantClient, ensureOpen, wp_bind, wp_get, wp_refuseIf, wp_modify]
    exact ⟨fun _ => h, fun _ => held_of_clients h _⟩
  | disconnectView clientId =>
    refine held_of_wp hdone ?_ handed
    simp only [disconnectView, ensureOpen, wp_bind, wp_get, wp_refuseIf, wp_modify]
    exact ⟨fun _ => h, fun _ => held_of_clients h _⟩
  | replaceGeneration blank =>
    exact held_of_wp (fun _ _ => rfl) (replaceGeneration_held blank h hmeets.fair (by omega)) handed
  | retireFence | loseView | write | writeTaskInput | close | bindTaskIdentity | retargetTask
  | retargetSession | advanceFocus | task => exact hmeets.listed.elim

theorem call_held (c : HostedCall × Bool) (h : Held id w.terminal w.replica)
    (hmeets : Meets id w c) : Held id (w.call id c).2.terminal (w.call id c).2.replica := by
  obtain ⟨c, handed⟩ := c
  have hmethod := method_held c handed h hmeets
  unfold call HostedTerminal.call
  cases hrun : runOn (method id c) w.terminal with
  | mk answer t' =>
    cases answer with
    | ok => exact hmethod.of_ok hrun
    | error error =>
      have hkept := hmethod.of_error hrun
      show Held id t' (if handed then w.replica else w.replica)
      rw [ite_self]
      exact hkept

omit [TerminalEmulator] in
theorem held_of_opened (h : JustOpened t) : Held id t .new := by
  refine .of_last ⟨.start h.deltas h.sequence,
    ⟨fun _ => t.lastSeen, rfl, ?_, fun hlive => ?_, fun hlive => ?_⟩, ?_, ?_⟩ ?_
  · rw [h.deltas]
    exact nofun
  · cases hlive
  · cases hlive
  · exact fun runtime hrun => ⟨_, h.fence runtime hrun⟩
  · intro grid _ g hg
    cases hg
  · unfold lastSeen shown
    rw [h.rows, h.cursor, h.modes, h.title]

/-- In every run whose calls meet the condition, a live replica at the terminal's generation and
sequence, with no notification pending, shows what a snapshot taken now shows. -/
theorem replica_shows_host {t₀ : HostedTerminal} (hopen : JustOpened t₀)
    (calls : List (HostedCall × Bool))
    (hcalls : Calls.Along (call id) (Meets id) ⟨t₀, .new⟩ calls) (t : HostedTerminal)
    (r : TerminalReplica) (hrun : Calls.after (call id) ⟨t₀, .new⟩ calls = ⟨t, r⟩)
    (hlive : r.needsSnapshot = false) (hgen : r.generation = some t.generation)
    (hseq : r.sequence = t.sequence) (hlifecycle : t.pendingLifecycle = [])
    (houtput : t.pendingOutput.take.1 = .empty) (snapshot : TerminalSnapshot) (t' : HostedTerminal)
    (hsnapshot : runOn (HostedTerminal.snapshot id) t = (.ok snapshot, t')) :
    r.rows = snapshot.rows ∧ r.cursor = snapshot.cursor ∧ r.modes = snapshot.modes ∧
      r.title = snapshot.title := by
  have hheld : Held id t r := by
    have hinv := Calls.along_invariant
      (P := fun w : Watched => Held id w.terminal w.replica) (fun _ c => call_held c) calls
      (held_of_opened hopen) hcalls
    rw [hrun] at hinv
    exact hinv
  have hcount : t.pendingCount = 0 := by
    unfold pendingCount
    rw [hlifecycle, houtput]
    rfl
  have hbound := hheld.mirrors.window.bounded
  have hans : Wp (HostedTerminal.snapshot id)
      (fun snapshot t' => Mirrors id t' r ∧ t'.lastSeen = t'.shown ∧
        t'.sequence.get ≤ t.sequence.get ∧ t'.generation = t.generation ∧
        SnapshotOf id t' snapshot) (fun _ _ => True) t := by
    simp only [HostedTerminal.snapshot, wp_bind, wp_get, wp_pure]
    refine (drainAttachedOutput_mirrors hheld.mirrors hheld.settled (by omega)).imp
      (fun _ t' h' => ?_) fun _ _ _ => trivial
    obtain ⟨hm, hlast, -, hle, hoff⟩ := h'
    refine ⟨hm, hlast, by omega, ?_, snapshot_of t'⟩
    show t'.offScreen.generation = t.offScreen.generation
    rw [hoff]
  -- With nothing pending the snapshot is of the sequence that the replica holds.
  obtain ⟨hm, hlast, hle, hsame, hof⟩ := hans.of_ok hsnapshot
  obtain ⟨past, hpast⟩ := hm.tracks
  obtain ⟨hheldSequence, hexact⟩ := hpast.replica hlive (hgen.trans (by rw [hsame]))
  have hat : r.sequence.get = t'.sequence.get := by
    rw [hseq] at hheldSequence ⊢
    omega
  rw [hat, hpast.last, hlast, ← hof.shown] at hexact
  exact hexact

end Runs

/-! ## A terminal that a client follows -/

attribute [local instance] sampleEmulator

def sampleOpened : HostedTerminal :=
  opened ⟨1⟩ sampleSpec ⟨1⟩ .initial (.attached sampleRuntime) none

theorem sampleOpened_justOpened : JustOpened sampleOpened := by
  have hopen : openAttached ⟨1⟩ sampleSpec sampleRuntime = .ok sampleOpened := rfl
  exact openAttached_justOpened hopen

def sampleFollowed : List (HostedCall × Bool) :=
  [(.snapshot, true), (.readerOutput (sampleScreen ['a', ' ']) none 1, false),
   (.updatesSince ⟨1⟩ .initial .zero, true)]

def sampleOutputDelta : TerminalDelta :=
  ⟨⟨1⟩, .initial, ⟨1⟩, [.rowsChanged 0 ["a", " "]]⟩

theorem sampleFollowed_meets :
    Calls.Along (call ⟨1⟩) (Meets ⟨1⟩) ⟨sampleOpened, .new⟩ sampleFollowed := by
  refine ⟨⟨trivial, by decide +kernel, trivial⟩, ⟨trivial, by decide +kernel, trivial⟩,
    ⟨trivial, by decide +kernel, ?_⟩, trivial⟩
  intro drained hdrained _ _ _
  obtain rfl := (congrArg Prod.snd hdrained).symm
  refine ⟨by decide +kernel, ?_⟩
  have hdel : (runOn (drainAttachedOutput ⟨1⟩) (Calls.after (call ⟨1⟩) ⟨sampleOpened, .new⟩
      (sampleFollowed.take 2)).terminal).2.deltasAfter .zero = [sampleOutputDelta] := by
    decide +kernel
  intro d hd
  rw [show d = sampleOutputDelta from List.mem_singleton.mp (hdel ▸ hd)]
  intro start rows hrows
  simp only [sampleOutputDelta, List.mem_singleton, TerminalDeltaOp.rowsChanged.injEq] at hrows
  rw [hrows.2]
  decide +kernel

def sampleFollowing : Watched := Calls.after (call ⟨1⟩) ⟨sampleOpened, .new⟩ sampleFollowed

theorem sampleFollowed_shows_host : sampleFollowing.replica.rows = sampleSnapshot.rows := by
  have hsnap : (runOn (HostedTerminal.snapshot ⟨1⟩) sampleFollowing.terminal).1 =
      .ok sampleSnapshot := by decide +kernel
  exact (replica_shows_host sampleOpened_justOpened sampleFollowed sampleFollowed_meets
    sampleFollowing.terminal sampleFollowing.replica rfl (by decide +kernel) (by decide +kernel)
    (by decide +kernel) (by decide +kernel) (by decide +kernel) sampleSnapshot
    (runOn (HostedTerminal.snapshot ⟨1⟩) sampleFollowing.terminal).2
    (Prod.ext hsnap rfl)).1

def sampleShrunk : Watched :=
  Calls.after (call ⟨1⟩) ⟨sampleOpened, .new⟩
    [(.snapshot, true), (.resize ⟨1, 1⟩ none (sampleScreen ['a']), false),
     (.updatesSince ⟨1⟩ .initial .zero, true)]

/-- A terminal that loses a row leaves it on the replica, which is live and at the terminal's
generation and sequence. -/
theorem resize_leaves_rows :
    JustOpened sampleOpened ∧ sampleShrunk.replica.needsSnapshot = false ∧
      sampleShrunk.replica.generation = some sampleShrunk.terminal.generation ∧
      sampleShrunk.replica.sequence = sampleShrunk.terminal.sequence ∧
      sampleShrunk.terminal.pendingLifecycle = [] ∧
      sampleShrunk.terminal.pendingOutput.take.1 = .empty ∧
      sampleShrunk.replica.rows = ["a", " "] ∧
      ((runOn (HostedTerminal.snapshot ⟨1⟩) sampleShrunk.terminal).1.map (·.rows)) = .ok ["a"] := by
  refine ⟨sampleOpened_justOpened, ?_, ?_, ?_, ?_, ?_, ?_, ?_⟩ <;> decide +kernel

end Watched

end DevManager.Terminal
