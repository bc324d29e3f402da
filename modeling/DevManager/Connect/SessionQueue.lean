import DevManager.Connect.Session

/-!
# The queue of a session

A disconnect moves the commands that the client had queued into a bounded set of
tombstones, and it moves the queue generation of the whole session. While every
disconnecting client is the only one with queued commands, and while no
tombstone has to make room for another, the queue entries are all of the current
generation and a tombstone is final.

* `size_foldl_retain`, `mem_foldl_retain`: the tombstones after a disconnect.
* `queueStep_call`: the ways in which a call changes the queue.
* `queueInv_call`: what every call keeps that meets the condition `Isolated`.
-/

namespace DevManager.ConnectSession

open Std (ExtTreeMap ExtTreeSet)
open Calls OrdMap

/-! ## Tombstones -/

theorem mem_retain_self (invalidated) (c) :
    c ∈ retainInvalidated invalidated c :=
  mem_insertSet_iff.mpr (.inl rfl)

variable {invalidated : ExtTreeSet CommandId}

theorem mem_of_mem_retain {c a}
    (h : a ∈ retainInvalidated invalidated c) : a = c ∨ a ∈ invalidated := by
  unfold retainInvalidated at h
  rcases mem_insertSet_iff.mp h with rfl | hkept
  · exact .inl rfl
  · refine .inr ?_
    split_ifs at hkept
    · split at hkept
      · exact (mem_eraseSet_iff.mp hkept).2
      · exact hkept
    · exact hkept

theorem mem_retain_of_room {c a}
    (hroom : invalidated.size < maxSessionInvalidated) (h : a ∈ invalidated) :
    a ∈ retainInvalidated invalidated c := by
  unfold retainInvalidated
  rw [if_neg (fun hfull => absurd hfull.1 (not_le.mpr hroom))]
  exact mem_insertSet_iff.mpr (.inr h)

theorem size_retain_le {c} :
    (retainInvalidated invalidated c).size ≤ invalidated.size + 1 := by
  unfold retainInvalidated
  refine ExtTreeSet.size_insert_le.trans (Nat.succ_le_succ ?_)
  split_ifs
  · split
    · exact ExtTreeSet.size_erase_le
    · exact le_rfl
  · exact le_rfl

theorem size_retain {c} (h : invalidated.size ≤ maxSessionInvalidated) :
    (retainInvalidated invalidated c).size ≤ maxSessionInvalidated := by
  unfold retainInvalidated
  split_ifs with hfull
  · have hne : invalidated ≠ ∅ := by
      rintro rfl
      simp [maxSessionInvalidated] at hfull
    split
    · rename_i oldest holdest
      refine ExtTreeSet.size_insert_le.trans ?_
      have hmem := ExtTreeSet.contains_iff_mem.mpr (ExtTreeSet.min?_mem holdest)
      rw [ExtTreeSet.size_erase, if_pos hmem]
      have : maxSessionInvalidated = 1024 := rfl
      omega
    · rename_i hnone
      exact absurd (ExtTreeSet.min?_eq_none_iff.mp hnone) hne
  · refine size_insertSet_bounded h ?_
    by_cases hmem : c ∈ invalidated
    · exact .inr hmem
    · exact .inl (not_le.mp fun hle => hfull ⟨hle, hmem⟩)

variable (commands : List CommandId)

theorem size_foldl_retain :
    ∀ invalidated : ExtTreeSet CommandId, invalidated.size ≤ maxSessionInvalidated →
      (commands.foldl retainInvalidated invalidated).size ≤ maxSessionInvalidated := by
  induction commands with
  | nil => intro invalidated h; exact h
  | cons c commands ih => intro invalidated h; exact ih _ (size_retain h)

theorem mem_of_mem_foldl_retain :
    ∀ (invalidated : ExtTreeSet CommandId) a,
      a ∈ commands.foldl retainInvalidated invalidated → a ∈ commands ∨ a ∈ invalidated := by
  induction commands with
  | nil => intro invalidated a h; exact .inr h
  | cons c commands ih =>
    intro invalidated a h
    rcases ih _ a h with hmem | hmem
    · exact .inl (.tail _ hmem)
    · rcases mem_of_mem_retain hmem with rfl | hold
      · exact .inl (.head _)
      · exact .inr hold

theorem mem_foldl_retain :
    ∀ (invalidated : ExtTreeSet CommandId),
      invalidated.size + commands.length ≤ maxSessionInvalidated →
      ∀ a, a ∈ commands ∨ a ∈ invalidated → a ∈ commands.foldl retainInvalidated invalidated := by
  induction commands with
  | nil =>
    intro invalidated _ a h
    rcases h with h | h
    · cases h
    · exact h
  | cons c commands ih =>
    intro invalidated hroom a h
    rw [List.length_cons] at hroom
    have hsize : (retainInvalidated invalidated c).size ≤ invalidated.size + 1 := size_retain_le
    refine ih _ (by omega) a ?_
    rcases h with h | h
    · rcases List.mem_cons.mp h with rfl | h
      · exact .inr (mem_retain_self _ _)
      · exact .inl h
    · exact .inr (mem_retain_of_room (by omega) h)

/-! ## What a disconnect removes -/

variable {session : ConnectSession} {clientId : ClientId}

theorem mem_condemned {c} :
    c ∈ session.condemned clientId ↔
      ∃ queued, session.queued[c]? = some queued ∧ queued.clientId = clientId := by
  simp only [condemned, mem_map_fst_filter, decide_eq_true_eq]

theorem queued_invalidateQueuedForClient (session : ConnectSession) (clientId : ClientId)
    (c : CommandId) :
    (session.invalidateQueuedForClient clientId).queued[c]? =
      (session.queued[c]?).filter fun queued => queued.clientId ≠ clientId := by
  show ((session.condemned clientId).foldl (fun queued c => queued.erase c) session.queued)[c]? = _
  rw [getElem?_foldl_erase]
  rcases hget : session.queued[c]? with _ | queued
  · simp
  · by_cases hclient : queued.clientId = clientId
    · have hmem : c ∈ session.condemned clientId := mem_condemned.mpr ⟨queued, hget, hclient⟩
      simp [hmem, hclient, Option.filter]
    · have hmem : c ∉ session.condemned clientId := fun hmem => by
        obtain ⟨other, hother, hclient'⟩ := mem_condemned.mp hmem
        rw [hget] at hother
        cases hother
        exact hclient hclient'
      simp [hmem, hclient, Option.filter]

/-! ## What one call does to the queue -/

/-- The ways in which a call changes the queue and the tombstones. -/
inductive QueueStep (session : ConnectSession) (c : SessionCall) (next : ConnectSession) : Prop
  | kept (hqueue : next.queued = session.queued)
      (hgen : next.queueGeneration = session.queueGeneration)
      (hinvalid : next.invalidated = session.invalidated)
  | erased (commandId : CommandId) (hqueue : next.queued = session.queued.erase commandId)
      (hgen : next.queueGeneration = session.queueGeneration)
      (hinvalid : next.invalidated = session.invalidated)
  | queued (input : DeviceInput) (hcall : c = .enqueue input)
      (hok : (session.enqueue input).1 = .ok ())
      (hnot : input.commandId ∉ session.invalidated)
      (hqueue : next.queued =
        session.queued.insert input.commandId ⟨input.clientId, session.queueGeneration⟩)
      (hgen : next.queueGeneration = session.queueGeneration)
      (hinvalid : next.invalidated = session.invalidated)
  | removed (clientId : ClientId)
      (hcall : c = .disconnectClient clientId ∨ c = .invalidateQueuedForClient clientId ∧
        next.queueGeneration = session.queueGeneration)
      (hqueue : ∀ commandId : CommandId, next.queued[commandId]? =
        (session.queued[commandId]?).filter fun queued => queued.clientId ≠ clientId)
      (hinvalid : next.invalidated =
        (session.condemned clientId).foldl retainInvalidated session.invalidated)

theorem queueStep_call (session : ConnectSession) (c : SessionCall) :
    QueueStep session c (session.call c).2 := by
  cases c with
  | connectClient clientId =>
    rcases connectClient_cases session clientId with ⟨e, hcall⟩ | ⟨_, hcall⟩ <;>
      exact .kept (by rw [call, hcall]) (by rw [call, hcall]) (by rw [call, hcall])
  | disconnectClient clientId =>
    exact .removed clientId (.inl rfl)
      (fun commandId => queued_invalidateQueuedForClient _ clientId commandId) rfl
  | invalidateQueuedForClient clientId =>
    exact .removed clientId (.inr ⟨rfl, rfl⟩)
      (fun commandId => queued_invalidateQueuedForClient _ clientId commandId) rfl
  | restartProvider | switchFocus => exact .kept rfl rfl rfl
  | openRequest requestId actionEpoch =>
    rcases openRequest_cases session requestId actionEpoch with ⟨e, hcall⟩ | ⟨_, _, hcall⟩ <;>
      exact .kept (by rw [call, hcall]) (by rw [call, hcall]) (by rw [call, hcall])
  | enqueue input =>
    rcases enqueue_cases session input with ⟨e, hcall, _⟩ | ⟨hnot, _, hcall⟩
    · exact .kept (by rw [call, hcall]) (by rw [call, hcall]) (by rw [call, hcall])
    · exact .queued input rfl (by rw [hcall]) hnot (by rw [call, hcall]) (by rw [call, hcall])
        (by rw [call, hcall])
  | admitInput input =>
    rcases admit_cases session input with ⟨e, hcall, _⟩ | ⟨_, _, _, hcall⟩ | ⟨_, _, _, hcall⟩ |
      ⟨_, _, _, sequences, hintent, _, hcall⟩
    · exact .kept (by rw [call, hcall]) (by rw [call, hcall]) (by rw [call, hcall])
    · exact .erased input.commandId (by rw [call, hcall]) (by rw [call, hcall])
        (by rw [call, hcall])
    · exact .kept (by rw [call, hcall]) (by rw [call, hcall]) (by rw [call, hcall])
    · exact .erased input.commandId (by rw [call, hcall]; rfl) (by rw [call, hcall]; rfl)
        (by rw [call, hcall]; rfl)
  | answer answer =>
    rcases answer_cases session answer with ⟨e, hcall⟩ | ⟨_, _, _, hcall⟩ <;>
      exact .kept (by rw [call, hcall]) (by rw [call, hcall]) (by rw [call, hcall])

variable {commandId : CommandId}

theorem QueueStep.origin {next c} (h : QueueStep session c next) {queued}
    (hget : next.queued[commandId]? = some queued) :
    session.queued[commandId]? = some queued ∨
      ∃ input, c = .enqueue input ∧ (session.enqueue input).1 = .ok () ∧
        input.commandId = commandId ∧ queued.clientId = input.clientId := by
  cases h with
  | kept hqueue _ _ =>
    rw [hqueue] at hget
    exact .inl hget
  | erased a hqueue _ _ =>
    rw [hqueue, getElem?_erase_eq] at hget
    split_ifs at hget
    exact .inl hget
  | queued input hcall hok hnot hqueue _ _ =>
    rw [hqueue] at hget
    rcases of_insert hget with ⟨heq, rfl⟩ | ⟨heq, hget⟩
    · exact .inr ⟨input, hcall, hok, heq, rfl⟩
    · exact .inl hget
  | removed clientId _ hqueue _ =>
    rw [hqueue, Option.filter_eq_some_iff] at hget
    exact .inl hget.1

theorem QueueStep.tombstone {next c}
    (h : QueueStep session c next) (hmem : commandId ∈ next.invalidated) :
    commandId ∈ session.invalidated ∨
      ∃ queued, session.queued[commandId]? = some queued ∧
        (c = .disconnectClient queued.clientId ∨
          c = .invalidateQueuedForClient queued.clientId) := by
  cases h with
  | kept _ _ hinvalid | erased _ _ _ hinvalid | queued _ _ _ _ _ _ hinvalid =>
    exact .inl (hinvalid ▸ hmem)
  | removed clientId hcall _ hinvalid =>
    rw [hinvalid] at hmem
    rcases mem_of_mem_foldl_retain _ _ _ hmem with hcondemned | hold
    · obtain ⟨queued, hget, rfl⟩ := mem_condemned.mp hcondemned
      exact .inr ⟨queued, hget, hcall.imp id fun h => h.1⟩
    · exact .inl hold

/-! ## The invariant -/

/-- Every queued command is of the current generation, and no tombstone is queued. -/
structure QueueInv (session : ConnectSession) : Prop where
  current : ∀ (c : CommandId) queued, session.queued[c]? = some queued →
    queued.generation = session.queueGeneration
  apart : ∀ c ∈ session.invalidated, session.queued[c]? = none

/-- A disconnect while no other client has a queued command, and no tombstone has to make room. -/
def Isolated (session : ConnectSession) : SessionCall → Prop
  | .disconnectClient clientId =>
    (∀ (c : CommandId) queued, session.queued[c]? = some queued →
        queued.clientId = clientId) ∧
      session.invalidated.size + (session.condemned clientId).length ≤ maxSessionInvalidated
  | .invalidateQueuedForClient clientId =>
    session.invalidated.size + (session.condemned clientId).length ≤ maxSessionInvalidated
  | _ => True

theorem Isolated.room {c} (h : session.Isolated c)
    (hcall : c = .disconnectClient clientId ∨ c = .invalidateQueuedForClient clientId) :
    session.invalidated.size + (session.condemned clientId).length ≤ maxSessionInvalidated := by
  rcases hcall with rfl | rfl
  · exact h.2
  · exact h

variable (taskId : TaskId)

theorem queueInv_new : QueueInv (new taskId) where
  current := by
    intro c queued h
    simp [new] at h
  apart := by
    intro c h
    simp [new] at h

theorem queueInv_call (session) (c) (h : QueueInv session)
    (hiso : session.Isolated c) : QueueInv (session.call c).2 := by
  have hstep := queueStep_call session c
  refine ⟨?_, ?_⟩
  · intro commandId entry hget
    cases hstep with
    | kept hqueue hgen _ =>
      rw [hqueue] at hget
      exact (h.current _ _ hget).trans hgen.symm
    | erased a hqueue hgen _ =>
      rw [hqueue, getElem?_erase_eq] at hget
      split_ifs at hget
      exact (h.current _ _ hget).trans hgen.symm
    | queued input _ _ _ hqueue hgen _ =>
      rw [hqueue] at hget
      rw [hgen]
      have hall := forall_insert
        (P := fun _ (entry : QueuedMutation) => entry.generation = session.queueGeneration)
        (k := input.commandId) (v := ⟨input.clientId, session.queueGeneration⟩) rfl h.current
      exact hall commandId entry hget
    | removed clientId hcall hqueue _ =>
      rw [hqueue, Option.filter_eq_some_iff] at hget
      rcases hcall with rfl | ⟨rfl, hgen⟩
      · -- after an isolated disconnect nothing is queued
        have := hiso.1 commandId entry hget.1
        simp [this] at hget
      · exact (h.current _ _ hget.1).trans hgen.symm
  · intro commandId hmem
    cases hstep with
    | kept hqueue _ hinvalid =>
      rw [hqueue]
      exact h.apart commandId (hinvalid ▸ hmem)
    | erased a hqueue _ hinvalid =>
      rw [hqueue, getElem?_erase_eq]
      split_ifs
      · rfl
      · exact h.apart commandId (hinvalid ▸ hmem)
    | queued input _ _ hnot hqueue _ hinvalid =>
      rw [hinvalid] at hmem
      have hne : input.commandId ≠ commandId := fun heq => hnot (heq ▸ hmem)
      rw [hqueue, getElem?_insert_eq, if_neg hne]
      exact h.apart commandId hmem
    | removed clientId _ hqueue hinvalid =>
      rw [hinvalid] at hmem
      rw [hqueue]
      rcases mem_of_mem_foldl_retain _ _ _ hmem with hcondemned | hold
      · obtain ⟨entry, hget, hclient⟩ := mem_condemned.mp hcondemned
        rw [hget]
        simp [Option.filter, hclient]
      · rw [h.apart commandId hold]
        rfl

theorem invalidated_call {c} (hmem : commandId ∈ session.invalidated) (hiso : session.Isolated c) :
    commandId ∈ (session.call c).2.invalidated := by
  cases queueStep_call session c with
  | kept _ _ hinvalid | erased _ _ _ hinvalid | queued _ _ _ _ _ _ hinvalid =>
    exact hinvalid ▸ hmem
  | removed clientId hcall _ hinvalid =>
    rw [hinvalid]
    exact mem_foldl_retain _ _ (hiso.room (hcall.imp id fun h => h.1)) _ (.inr hmem)

/-! ## Refusals -/

/-- A call on a command that is answered `QueueInvalidated`. -/
def QueueRefused (session : ConnectSession) (commandId : CommandId) : SessionCall → Prop
  | .enqueue input =>
    input.commandId = commandId ∧ (session.enqueue input).1 = .error .queueInvalidated
  | .admitInput input =>
    input.commandId = commandId ∧ (session.admitInput input).1 = .error .queueInvalidated
  | _ => False

theorem invalidated_of_refused (h : QueueInv session)
     {c} (hdeny : session.QueueRefused commandId c) :
    commandId ∈ session.invalidated := by
  cases c with
  | enqueue input =>
    obtain ⟨rfl, herror⟩ := hdeny
    rcases enqueue_cases session input with ⟨e, hcall, hwhy⟩ | ⟨_, _, hcall⟩
    · rw [hcall] at herror
      cases herror
      exact hwhy rfl
    · rw [hcall] at herror
      cases herror
  | admitInput input =>
    obtain ⟨rfl, herror⟩ := hdeny
    rcases admit_cases session input with ⟨e, hcall, hwhy, _⟩ | ⟨entry, hget, hne, _⟩ |
      ⟨_, _, _, hcall⟩ | ⟨_, _, _, _, _, _, hcall⟩
    · rw [hcall] at herror
      cases herror
      exact hwhy rfl
    · exact absurd (h.current _ _ hget) hne
    · rw [hcall] at herror
      cases herror
    · rw [hcall] at herror
      cases herror
  | connectClient _ | disconnectClient _ | invalidateQueuedForClient _ | restartProvider
  | switchFocus | openRequest _ _ | answer _ => cases hdeny

theorem admit_of_invalidated {input} (hmem : input.commandId ∈ session.invalidated) (receipt) :
    (session.admitInput input).1 ≠ .ok receipt := by
  rcases admit_cases session input with ⟨e, hcall, _⟩ | ⟨_, _, _, hcall⟩ | ⟨hpass, _⟩ |
    ⟨hpass, _⟩
  · rw [hcall]
    nofun
  · rw [hcall]
    nofun
  · exact absurd hmem hpass.notInvalidated
  · exact absurd hmem hpass.notInvalidated

/-- Another client queued the command anew. -/
def Requeued (clientId : ClientId) (commandId : CommandId) : SessionCall × SessionReply → Prop
  | (.enqueue input, .checked (.ok ())) => input.commandId = commandId ∧ input.clientId ≠ clientId
  | _ => False

theorem tombstone_origin
    (hqueue : ∀ entry, session.queued[commandId]? = some entry → entry.clientId = clientId)
    (hfresh : commandId ∉ session.invalidated) (calls)
    (halone : ∀ entry ∈ trace call session calls, ¬ Requeued clientId commandId entry)
    (hmem : commandId ∈ (Calls.after call session calls).invalidated) :
    .disconnectClient clientId ∈ calls ∨ .invalidateQueuedForClient clientId ∈ calls := by
  induction calls generalizing session with
  | nil => exact absurd hmem hfresh
  | cons c calls ih =>
    have hstep := queueStep_call session c
    by_cases hnow : commandId ∈ (session.call c).2.invalidated
    · rcases hstep.tombstone hnow with hold | ⟨entry, hget, hcall⟩
      · exact absurd hold hfresh
      · rw [hqueue entry hget] at hcall
        rcases hcall with rfl | rfl
        · exact .inl (.head _)
        · exact .inr (.head _)
    · have hnext : ∀ entry, (session.call c).2.queued[commandId]? = some entry →
          entry.clientId = clientId := by
        intro entry hget
        rcases hstep.origin hget with hold | ⟨input, rfl, hok, hcmd, hclient⟩
        · exact hqueue entry hold
        · by_contra hne
          refine halone _ List.mem_cons_self ?_
          show Requeued clientId commandId (.enqueue input, .checked (session.enqueue input).1)
          rw [hok]
          exact ⟨hcmd, fun heq => hne (hclient.trans heq)⟩
      have hrest := ih hnext hnow (fun entry hentry => halone entry (.tail _ hentry))
        hmem
      exact hrest.imp (List.mem_cons_of_mem _) (List.mem_cons_of_mem _)

variable (calls : List SessionCall)

/-- A mutation that a client queued in the run, and that no other client queued anew, is refused
at the end only if the client has disconnected or was invalidated since. -/
def RefusedForOwnClient : Prop :=
  ∀ before input mid c, calls = before ++ .enqueue input :: mid →
    let session := Calls.after call (new taskId) before
    (session.enqueue input).1 = .ok () →
    (∀ entry ∈ Calls.trace call (session.enqueue input).2 mid,
      ¬ Requeued input.clientId input.commandId entry) →
    (Calls.after call (new taskId) calls).QueueRefused input.commandId c →
    .disconnectClient input.clientId ∈ mid ∨ .invalidateQueuedForClient input.clientId ∈ mid

/-- A command that was refused as invalidated in the run is not admitted at its end. -/
def RefusedForGood : Prop :=
  ∀ before c mid commandId input, calls = before ++ c :: mid →
    (Calls.after call (new taskId) before).QueueRefused commandId c →
    input.commandId = commandId →
    ∀ receipt, ((Calls.after call (new taskId) calls).admitInput input).1 ≠ .ok receipt

/-- In a run whose disconnects are isolated, a queued mutation is refused only for its own client,
and a command that was refused so is never admitted again. -/
theorem disconnect_isolation (hisolated : Calls.Along call Isolated (new taskId) calls) :
    RefusedForOwnClient taskId calls ∧ RefusedForGood taskId calls := by
  have hinv : ∀ before after, calls = before ++ after →
      QueueInv (Calls.after call (new taskId) before) ∧
        Calls.Along call Isolated (Calls.after call (new taskId) before) after := by
    rintro before after rfl
    obtain ⟨hpre, hpost⟩ := (along_append _ _ _).mp hisolated
    exact ⟨along_invariant queueInv_call before (queueInv_new taskId) hpre, hpost⟩
  refine ⟨?_, ?_⟩
  · intro before input mid c hcalls session hok halone hdeny
    have hend := (hinv calls [] (List.append_nil _).symm).1
    have hmem := invalidated_of_refused hend hdeny
    rw [hcalls, after_append, after_cons] at hmem
    rcases enqueue_cases session input with ⟨e, hcall, _⟩ | ⟨hnot, _, hcall⟩
    · rw [hcall] at hok
      cases hok
    · refine tombstone_origin ?_ ?_ mid halone hmem
      · rw [hcall]
        intro entry hget
        rw [getElem?_insert_eq, if_pos rfl] at hget
        cases hget
        rfl
      · rw [hcall]
        exact hnot
  · rintro before c mid commandId input hcalls hdeny rfl receipt
    obtain ⟨hpre, halong⟩ := hinv before (c :: mid) hcalls
    have hmem := invalidated_of_refused hpre hdeny
    refine admit_of_invalidated ?_ receipt
    rw [hcalls, after_append]
    exact along_invariant (P := fun session => input.commandId ∈ session.invalidated)
      (fun _ _ hmem hisolated => invalidated_call hmem hisolated) (c :: mid) hmem halong

def sampleInput (client command operation : ℕ) (turnEpoch : TurnEpoch) : DeviceInput :=
  { taskId := ⟨1⟩
    clientId := ⟨client⟩
    commandId := ⟨command⟩
    operationId := ⟨operation⟩
    expectedRevision := none
    resourceId := none
    inputSequence := 1
    turnEpoch := turnEpoch
    focusEpoch := .one
    observedAtMs := 0 }

/-- Client 2 disconnects while only its own command is queued, and comes back. -/
def sampleReconnect : List SessionCall :=
  [.connectClient ⟨2⟩, .connectClient ⟨3⟩, .enqueue (sampleInput 2 4 5 .one),
    .disconnectClient ⟨2⟩, .connectClient ⟨2⟩]

theorem disconnect_isolation_reconnected :
    ((Calls.after call (new ⟨1⟩)
        (sampleReconnect ++ [.admitInput (sampleInput 2 4 5 .one)])).admitInput
          (sampleInput 2 4 5 .one)).1 ≠ .ok ⟨⟨4⟩, ⟨5⟩, .acceptedDurable, false⟩ := by
  have howned : ∀ (c : CommandId) queued,
      (Calls.after call (new ⟨1⟩) (sampleReconnect.take 3)).queued[c]? = some queued →
        queued.clientId = ⟨2⟩ := by
    intro c queued hget
    rcases of_insert hget with ⟨-, rfl⟩ | ⟨-, hnone⟩
    · rfl
    · have hempty : (∅ : ExtTreeMap CommandId QueuedMutation)[c]? = some queued := hnone
      simp at hempty
  have hisolated : Calls.Along call Isolated (new ⟨1⟩)
      (sampleReconnect ++ [.admitInput (sampleInput 2 4 5 .one)]) :=
    ⟨trivial, trivial, trivial, ⟨howned, Nat.le_of_ble_eq_true rfl⟩, trivial, trivial, trivial⟩
  exact (disconnect_isolation ⟨1⟩ _ hisolated).2 sampleReconnect
    (.admitInput (sampleInput 2 4 5 .one)) [] ⟨4⟩ (sampleInput 2 4 5 .one) rfl ⟨rfl, rfl⟩ rfl _

/-- The disconnect of client 3 refuses what client 2 has queued, and the retry of client 2 then
runs it. -/
theorem disconnect_not_isolated :
    let input := sampleInput 2 4 5 .one
    let calls := [.connectClient ⟨2⟩, .connectClient ⟨3⟩, .enqueue input, .disconnectClient ⟨3⟩]
    ¬ RefusedForOwnClient ⟨1⟩ calls ∧ ¬ RefusedForGood ⟨1⟩ (calls ++ [.admitInput input]) := by
  refine ⟨fun h => ?_, fun h => ?_⟩
  · have howned := h [.connectClient ⟨2⟩, .connectClient ⟨3⟩] (sampleInput 2 4 5 .one)
      [.disconnectClient ⟨3⟩] (.admitInput (sampleInput 2 4 5 .one)) rfl rfl
      (by simp [trace, Requeued]) ⟨rfl, rfl⟩
    revert howned
    decide
  · exact h [.connectClient ⟨2⟩, .connectClient ⟨3⟩, .enqueue (sampleInput 2 4 5 .one),
      .disconnectClient ⟨3⟩] (.admitInput (sampleInput 2 4 5 .one)) [] ⟨4⟩
      (sampleInput 2 4 5 .one) rfl ⟨rfl, rfl⟩ rfl ⟨⟨4⟩, ⟨5⟩, .acceptedDurable, false⟩ rfl

end DevManager.ConnectSession
