import DevManager.Connect.SessionAccounts

/-!
# Retried input

An accepted input that is sent again is answered from the accepted commands, but
only after it has passed the same fences as a new input. The turn epoch is one
of them, and an accepted input moves it when its sender is not the last one.

* `sender_after`: the turn epoch after a run is the one before it exactly when
  the run accepted no input of another sender.
-/

namespace DevManager.ConnectSession

open Std (ExtTreeMap)
open Calls

/-! ## The last sender and the turn epoch -/

theorem sender_call (session : ConnectSession) (c) :
    (acceptedInput (c, (session.call c).1) = none ∧
      (session.call c).2.turnEpoch = session.turnEpoch ∧
      (session.call c).2.lastClient = session.lastClient ∧
      (session.call c).2.revision = session.revision) ∨
    ∃ input resourceSequences, acceptedInput (c, (session.call c).1) = some input ∧
      session.acceptedCommands.size < maxSessionAcceptedCommands ∧
      (session.call c).2 = session.accept input resourceSequences := by
  cases accountStep_call session c with
  | kept hinput _ _ _ hrev _ _ _ _ hsender =>
    exact .inl ⟨hinput, hsender.1, hsender.2, hrev⟩
  | accepted input sequences hinput _ _ _ _ hroom _ hnext =>
    exact .inr ⟨input, sequences, hinput, hroom, hnext⟩
  | opened _ _ hentry _ _ hnext | restarted hentry hnext | answered _ hentry _ _ _ hnext =>
    rw [hentry, hnext]
    exact .inl ⟨rfl, rfl, rfl, rfl⟩

theorem saturatingNext_value {epoch : Epoch} (h : epoch.value < u64Max) :
    epoch.saturatingNext.value = epoch.value + 1 := by
  have hval : saturatingAdd epoch.value 1 = epoch.value + 1 := Nat.min_eq_left h
  unfold Epoch.saturatingNext
  rw [dif_pos (by omega)]
  exact hval

/-- The records follow the history, and the revision bounds the turn epoch. -/
structure Counted (session : ConnectSession) (history : List (SessionCall × SessionReply)) :
    Prop where
  accepted : Accepted session history
  turn : session.turnEpoch.value ≤ session.revision

variable {session : ConnectSession} {history : List (SessionCall × SessionReply)}

theorem Counted.next_turn (h : Counted session history)
    (hroom : session.acceptedCommands.size < maxSessionAcceptedCommands) :
    session.turnEpoch.saturatingNext.value = session.turnEpoch.value + 1 := by
  have hsize := h.accepted.size
  have hrev := h.accepted.revision
  have hturn := h.turn
  have hbound : maxSessionAcceptedCommands + 2 ≤ u64Max := by decide
  exact saturatingNext_value (by omega)

theorem counted_call (session : ConnectSession) (history) (c) (h : Counted session history) :
    Counted (session.call c).2 (history ++ [(c, (session.call c).1)]) := by
  have hacc := accepted_call session history c h.accepted
  refine ⟨hacc, ?_⟩
  rcases sender_call session c with ⟨_, hturn, _, hrev⟩ | ⟨input, sequences, hinput, hroom, hnext⟩
  · rw [hturn, hrev]
    exact h.turn
  · have hold := h.accepted.revision
    have hnew := hacc.revision
    rw [filterMap_concat, hinput, Option.toList_some, List.length_append,
      List.length_singleton] at hnew
    have hturn := h.turn
    have hsaturated := h.next_turn hroom
    rw [hnew, hnext]
    show (if _ then _ else _ : Epoch).value ≤ _
    split_ifs <;> omega

theorem counted_after (taskId : TaskId) (calls) :
    Counted (after call (new taskId) calls) (trace call (new taskId) calls) :=
  history_invariant (P := Counted) ⟨accepted_new taskId, le_rfl⟩ counted_call calls

theorem Counted.turn_accept (h : Counted session history)
    (hroom : session.acceptedCommands.size < maxSessionAcceptedCommands) (input)
    (resourceSequences) :
    session.turnEpoch.value ≤ (session.accept input resourceSequences).turnEpoch.value ∧
      ((session.accept input resourceSequences).turnEpoch = session.turnEpoch ↔
        session.lastClient = some input.clientId) := by
  have hnext := h.next_turn hroom
  by_cases hlast : session.lastClient = some input.clientId
  · have hkept : (session.accept input resourceSequences).turnEpoch = session.turnEpoch :=
      if_neg (not_not.mpr hlast)
    exact ⟨hkept.symm ▸ le_rfl, fun _ => hlast, fun _ => hkept⟩
  · have hmoved : (session.accept input resourceSequences).turnEpoch =
        session.turnEpoch.saturatingNext := if_pos hlast
    rw [hmoved]
    refine ⟨by omega, fun heq => ?_, fun heq => absurd heq hlast⟩
    rw [heq] at hnext
    omega

theorem sender_after (clientId : ClientId) (calls : List SessionCall) :
    ∀ {session : ConnectSession} {history : List (SessionCall × SessionReply)},
      Counted session history →
      session.turnEpoch.value ≤ (after call session calls).turnEpoch.value ∧
      (session.lastClient = some clientId →
        ((after call session calls).turnEpoch = session.turnEpoch ↔
          ∀ input ∈ (trace call session calls).filterMap acceptedInput,
            input.clientId = clientId)) := by
  induction calls with
  | nil => exact fun _ => ⟨le_rfl, fun _ => by simp⟩
  | cons c calls ih =>
    intro session history h
    obtain ⟨hle, hiff⟩ := ih (counted_call session history c h)
    rw [after_cons]
    rcases sender_call session c with ⟨hinput, hturn, hlast, _⟩ | ⟨input, sequences, hinput, hroom,
      hnext⟩
    · rw [hturn] at hle hiff
      rw [hlast] at hiff
      refine ⟨hle, fun hclient => (hiff hclient).trans ?_⟩
      rw [trace, List.filterMap_cons_none hinput]
    · obtain ⟨hmono, hsame⟩ := h.turn_accept hroom input sequences
      rw [hnext] at hle hiff ⊢
      refine ⟨hmono.trans hle, fun hclient => ?_⟩
      rw [trace, List.filterMap_cons_some hinput, List.forall_mem_cons]
      by_cases hsender : input.clientId = clientId
      · rw [hsame.mpr (hclient.trans (congrArg some hsender.symm))] at hiff
        rw [hnext]
        exact (hiff (congrArg some hsender)).trans (by simp [hsender])
      · -- another sender moves the turn epoch, and it never comes back
        refine ⟨fun heq => ?_, fun hall => absurd hall.1 hsender⟩
        have hval := congrArg Epoch.value heq
        have hstill : (session.accept input sequences).turnEpoch = session.turnEpoch := by
          have : (session.accept input sequences).turnEpoch.value = session.turnEpoch.value := by
            omega
          exact Epoch.ext this
        exact absurd (Option.some.inj ((hsame.mp hstill).symm.trans hclient)) hsender

/-! ## The other fences -/

/-- The fences that a run keeps which neither disconnects the client nor switches the focus. -/
structure Fenced (session : ConnectSession) (input : DeviceInput) : Prop where
  taskId : input.taskId = session.taskId
  focusEpoch : input.focusEpoch = session.focusEpoch
  connected : input.clientId ∈ session.connected
  accepted : session.acceptedCommands[input.commandId]? = some input.operationId

variable {input : DeviceInput}

theorem fenced_call (session) (c)
    (h : Fenced session input) (hc : c ≠ .disconnectClient input.clientId ∧ c ≠ .switchFocus) :
    Fenced (session.call c).2 input := by
  cases c with
  | connectClient clientId =>
    rcases connectClient_cases session clientId with ⟨e, hcall⟩ | ⟨_, hcall⟩
    · simpa only [call, hcall] using h
    · simp only [call, hcall]
      exact { h with connected := OrdMap.mem_insertSet_iff.mpr (.inr h.connected) }
  | disconnectClient clientId =>
    have hne : input.clientId ≠ clientId := fun heq => hc.1 (congrArg _ heq.symm)
    exact ⟨h.taskId, h.focusEpoch, OrdMap.mem_eraseSet_iff.mpr ⟨hne, h.connected⟩, h.accepted⟩
  | invalidateQueuedForClient => exact ⟨h.taskId, h.focusEpoch, h.connected, h.accepted⟩
  | restartProvider => exact ⟨h.taskId, h.focusEpoch, h.connected, h.accepted⟩
  | switchFocus => exact absurd rfl hc.2
  | openRequest requestId actionEpoch =>
    rcases openRequest_cases session requestId actionEpoch with ⟨e, hcall⟩ | ⟨_, _, hcall⟩
    · simpa only [call, hcall] using h
    · simp only [call, hcall]
      exact ⟨h.taskId, h.focusEpoch, h.connected, h.accepted⟩
  | enqueue other =>
    rcases enqueue_cases session other with ⟨e, hcall, _⟩ | ⟨_, _, hcall⟩
    · simpa only [call, hcall] using h
    · simp only [call, hcall]
      exact ⟨h.taskId, h.focusEpoch, h.connected, h.accepted⟩
  | admitInput other =>
    rcases admit_cases session other with ⟨e, hcall, _⟩ | ⟨_, _, _, hcall⟩ | ⟨_, _, _, hcall⟩ |
      ⟨_, hfresh, _, sequences, hintent, _, hcall⟩
    · simpa only [call, hcall] using h
    · simp only [call, hcall]
      exact ⟨h.taskId, h.focusEpoch, h.connected, h.accepted⟩
    · simpa only [call, hcall] using h
    · simp only [call, hcall]
      refine ⟨h.taskId, h.focusEpoch, h.connected, ?_⟩
      have hne : other.commandId ≠ input.commandId := fun heq => by
        rw [heq, h.accepted] at hfresh
        cases hfresh
      show (session.acceptedCommands.insert other.commandId other.operationId)[_]? = _
      rw [OrdMap.getElem?_insert_eq, if_neg hne]
      exact h.accepted
  | answer answer =>
    rcases answer_cases session answer with ⟨e, hcall⟩ | ⟨_, _, _, hcall⟩
    · simpa only [call, hcall] using h
    · simp only [call, hcall]
      exact ⟨h.taskId, h.focusEpoch, h.connected, h.accepted⟩

theorem fenced_after (calls) :
    ∀ {session : ConnectSession}, Fenced session input →
      .disconnectClient input.clientId ∉ calls → .switchFocus ∉ calls →
      Fenced (after call session calls) input := by
  induction calls with
  | nil => exact fun h _ _ => h
  | cons c calls ih =>
    intro session h hconn hfocus
    rw [List.mem_cons, not_or] at hconn hfocus
    exact ih (fenced_call session c h ⟨Ne.symm hconn.1, Ne.symm hfocus.1⟩) hconn.2 hfocus.2

theorem unqueued_after {commandId} (calls) :
    ∀ {session : ConnectSession},
      session.queued[commandId]? = none → commandId ∉ session.invalidated →
      (∀ input, .enqueue input ∈ calls → input.commandId ≠ commandId) →
      (after call session calls).queued[commandId]? = none ∧
        commandId ∉ (after call session calls).invalidated := by
  induction calls with
  | nil => exact fun hqueue hnot _ => ⟨hqueue, hnot⟩
  | cons c calls ih =>
    intro session hqueue hnot henq
    have hstep := queueStep_call session c
    refine ih ?_ ?_ fun input hinput => henq input (.tail _ hinput)
    · by_contra hsome
      obtain ⟨entry, hentry⟩ := Option.ne_none_iff_exists'.mp hsome
      rcases hstep.origin hentry with hold | ⟨input, rfl, _, hcmd, _⟩
      · rw [hqueue] at hold
        cases hold
      · exact henq input List.mem_cons_self hcmd
    · intro hmem
      rcases hstep.tombstone hmem with hold | ⟨entry, hentry, _⟩
      · exact hnot hold
      · rw [hqueue] at hentry
        cases hentry

/-! ## Retries -/

/-- The retry of `input` returns a duplicate receipt of the operation and changes nothing. -/
def Repeats (session : ConnectSession) (input : DeviceInput) (operationId : OperationId) : Prop :=
  session.admitInput input = (.ok ⟨input.commandId, operationId, .duplicate, false⟩, session, none)

/-- Since `accepted`, in which the input is accepted, no other sender's input was, and neither was
the one before it of another sender. -/
def SoleSender (accepted : ConnectSession) (input : DeviceInput) (between : List SessionCall) :
    Prop :=
  accepted.lastClient = some input.clientId ∧
    ∀ other ∈ (Calls.trace call (accepted.admitInput input).2.1 between).filterMap acceptedInput,
      other.clientId = input.clientId

/-- The command is not condemned by a disconnect: it is no tombstone, and it is not queued under
an older generation. -/
def NotCondemned (session : ConnectSession) (commandId : CommandId) : Prop :=
  commandId ∉ session.invalidated ∧ ∀ queued, session.queued[commandId]? = some queued →
    queued.generation = session.queueGeneration

theorem repeats_iff (h : Fenced session input) :
    session.Repeats input input.operationId ↔
      input.turnEpoch = session.turnEpoch ∧ session.NotCondemned input.commandId := by
  refine (admit_duplicate_iff h.accepted).trans ⟨fun hpass => ?_, fun hturn => ?_⟩
  · exact ⟨(validateEpochs_eq_ok.mp hpass.epochs).2.1, hpass.notInvalidated, hpass.current⟩
  · exact ⟨validateEpochs_eq_ok.mpr ⟨h.taskId, hturn.1, h.focusEpoch⟩, h.connected, hturn.2.1,
      hturn.2.2⟩

theorem turn_iff_soleSender {accepted} (h : Counted accepted history)
    (hpass : accepted.Passes input)
    (hroom : accepted.acceptedCommands.size < maxSessionAcceptedCommands) {resourceSequences}
    (hnext : (accepted.admitInput input).2.1 = accepted.accept input resourceSequences) (between) :
    input.turnEpoch = (after call (accepted.admitInput input).2.1 between).turnEpoch ↔
      SoleSender accepted input between := by
  have hturn := (validateEpochs_eq_ok.mp hpass.epochs).2.1
  have hcount := counted_call accepted history (.admitInput input) h
  obtain ⟨hle, hiff⟩ := sender_after input.clientId between hcount
  obtain ⟨hmono, hsame⟩ := h.turn_accept hroom input resourceSequences
  have hcall : (accepted.call (.admitInput input)).2 = (accepted.admitInput input).2.1 := rfl
  rw [hcall] at hle hiff
  unfold SoleSender
  rw [hnext] at hle hiff ⊢
  by_cases hlast : accepted.lastClient = some input.clientId
  · rw [hturn, eq_comm, ← hsame.mpr hlast, hiff rfl]
    exact (and_iff_right hlast).symm
  · refine ⟨fun heq => ?_, fun hsole => absurd hsole.1 hlast⟩
    rw [hturn] at heq
    have hval := congrArg Epoch.value heq
    exact absurd (hsame.mp (Epoch.ext (by omega))) hlast

/-- An accepted input whose client stays connected and whose focus is not switched is answered as a
duplicate exactly when its client was the only sender from the input before it on, and its
command is not condemned; a command that was not queued anew is not. -/
theorem retried_input (taskId : TaskId) (before between : List SessionCall) (input : DeviceInput)
    (receipt : SessionReceipt)
    (hacc : ((after call (new taskId) before).admitInput input).1 = .ok receipt)
    (hkind : receipt.kind = .acceptedDurable)
    (hconnected : .disconnectClient input.clientId ∉ between) (hfocus : .switchFocus ∉ between) :
    let accepted := after call (new taskId) before
    let session := after call (new taskId) (before ++ .admitInput input :: between)
    (session.Repeats input receipt.operationId ↔
      SoleSender accepted input between ∧ session.NotCondemned input.commandId) ∧
    ((∀ other, .enqueue other ∈ between → other.commandId ≠ input.commandId) →
      session.NotCondemned input.commandId) := by
  intro accepted session
  have hcount : Counted accepted _ := counted_after taskId before
  have hsess : session = after call (accepted.admitInput input).2.1 between := by
    show after call (new taskId) (before ++ .admitInput input :: between) = _
    rw [after_append, after_cons]
    rfl
  rcases admit_cases accepted input with ⟨e, hcall, _⟩ | ⟨_, _, _, hcall⟩ | ⟨_, _, _, hcall⟩ |
    ⟨hpass, _, hroom, sequences, hintent, _, hcall⟩
  · rw [hcall] at hacc
    cases hacc
  · rw [hcall] at hacc
    cases hacc
  · rw [hcall] at hacc
    cases hacc
    cases hkind
  rw [hcall] at hacc
  cases hacc
  obtain ⟨htask, hturn, hfocusEpoch⟩ := validateEpochs_eq_ok.mp hpass.epochs
  have hnext : (accepted.admitInput input).2.1 = accepted.accept input sequences := by
    rw [hcall]
  have hfenced : Fenced (accepted.accept input sequences) input :=
    ⟨htask, hfocusEpoch, hpass.connected, by simp [accept]⟩
  rw [hsess]
  refine ⟨?_, fun henq => ?_⟩
  · have hend : Fenced (after call (accepted.admitInput input).2.1 between) input :=
      fenced_after between (hnext ▸ hfenced) hconnected hfocus
    rw [repeats_iff hend, turn_iff_soleSender hcount hpass hroom hnext]
  · have hqueue : (accepted.accept input sequences).queued[input.commandId]? = none := by
      simp [accept]
    rw [hnext]
    obtain ⟨hnone, hnot⟩ := unqueued_after between hqueue hpass.notInvalidated henq
    refine ⟨hnot, fun queued hget => ?_⟩
    rw [hnone] at hget
    cases hget

/-- A client that sends its second input again. -/
theorem retried_input_second :
    (after call (new ⟨1⟩) [.connectClient ⟨2⟩, .admitInput (sampleInput 2 4 5 .one),
      .admitInput (sampleInput 2 6 7 ⟨2, by decide⟩)]).Repeats
        (sampleInput 2 6 7 ⟨2, by decide⟩) ⟨7⟩ :=
  (retried_input ⟨1⟩ [.connectClient ⟨2⟩, .admitInput (sampleInput 2 4 5 .one)] []
    (sampleInput 2 6 7 ⟨2, by decide⟩) ⟨⟨6⟩, ⟨7⟩, .acceptedDurable, false⟩ rfl rfl nofun
      nofun).1.mpr
      ⟨⟨rfl, by simp [trace]⟩,
        (retried_input ⟨1⟩ [.connectClient ⟨2⟩, .admitInput (sampleInput 2 4 5 .one)] []
          (sampleInput 2 6 7 ⟨2, by decide⟩) ⟨⟨6⟩, ⟨7⟩, .acceptedDurable, false⟩ rfl rfl nofun
          nofun).2 nofun⟩

/-- The first accepted input of a session moves the turn epoch, and its retry is refused. -/
theorem retried_input_stale :
    let input := sampleInput 2 4 5 .one
    let accepted := after call (new ⟨1⟩) [.connectClient ⟨2⟩]
    let session := after call (new ⟨1⟩) [.connectClient ⟨2⟩, .admitInput input]
    (accepted.admitInput input).1 =
        .ok ⟨input.commandId, input.operationId, .acceptedDurable, false⟩ ∧
      input.clientId ∈ session.connected ∧ session.focusEpoch = accepted.focusEpoch ∧
      ¬ session.Repeats input input.operationId ∧
        (session.admitInput input).1 = .error .staleTurn := by
  refine ⟨rfl, by decide, rfl, fun h => ?_, rfl⟩
  cases congrArg Prod.fst h

end DevManager.ConnectSession
