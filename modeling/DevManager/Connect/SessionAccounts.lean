import DevManager.Connect.SessionQueue

/-!
# Accounts of a session

What a session records is what its history of calls says: which commands were
accepted and with which operations, how far the sequences of a resource have
come, how often the revision moved, and which requests are open or answered.

* `accountStep_call`: the ways in which a call changes the records.
* `accepted_call`, `requests_call`, `bounded_call`: each record follows the
  history.
-/

namespace DevManager.ConnectSession

open Std (ExtTreeMap ExtTreeSet)
open List Calls OrdMap Std.ExtTreeMap

/-! ## Reading a history -/

/-- The input that a call accepted durably. -/
def acceptedInput : SessionCall × SessionReply → Option DeviceInput
  | (.admitInput input, .receipt (.ok receipt)) =>
    if receipt.kind = .acceptedDurable then some input else none
  | _ => none

/-- The epoch with which a call opened the request. -/
def openedEpoch (requestId : RequestId) : SessionCall × SessionReply → Option ActionEpoch
  | (.openRequest opened actionEpoch, .checked (.ok ())) =>
    if opened = requestId then some actionEpoch else none
  | _ => none

/-- The answer that a call settled. -/
def settledAnswer : SessionCall × SessionReply → Option ActionAnswer
  | (.answer answer, .answered (.ok _)) => some answer
  | _ => none

/-- The call restarts the provider. -/
def IsRestart (entry : SessionCall × SessionReply) : Prop := entry.1 = .restartProvider

theorem filterMap_concat {α β : Type} (f : α → Option β) (history : List α) (entry : α) :
    (history ++ [entry]).filterMap f = history.filterMap f ++ (f entry).toList := by
  rw [filterMap_append]
  cases h : f entry <;> simp [h]

/-! ## What one call does to the records -/

/-- The ways in which a call changes the records of commands and requests. -/
inductive AccountStep (session : ConnectSession) (entry : SessionCall × SessionReply)
    (next : ConnectSession) : Prop
  | kept (hinput : acceptedInput entry = none) (hopened : ∀ id, openedEpoch id entry = none)
      (hans : settledAnswer entry = none) (hrestart : ¬ IsRestart entry)
      (hrev : next.revision = session.revision)
      (hacc : next.acceptedCommands = session.acceptedCommands)
      (hres : next.resourceSequences = session.resourceSequences)
      (houtstanding : next.outstandingRequests = session.outstandingRequests)
      (hsettled : next.settledRequests = session.settledRequests)
      (hsender : next.turnEpoch = session.turnEpoch ∧ next.lastClient = session.lastClient)
  | accepted (input : DeviceInput) (resourceSequences : ExtTreeMap ResourceId ℕ)
      (hinput : acceptedInput entry = some input) (hopened : ∀ id, openedEpoch id entry = none)
      (hans : settledAnswer entry = none) (hrestart : ¬ IsRestart entry)
      (hfresh : session.acceptedCommands[input.commandId]? = none)
      (hroom : session.acceptedCommands.size < maxSessionAcceptedCommands)
      (hseq : session.recordSequence input = .ok resourceSequences)
      (hnext : next = session.accept input resourceSequences)
  | opened (requestId : RequestId) (actionEpoch : ActionEpoch)
      (hentry : entry = (.openRequest requestId actionEpoch, .checked (.ok ())))
      (hnot : requestId ∉ session.settledRequests)
      (hroom : session.outstandingRequests.size < maxSessionOutstanding ∨
        requestId ∈ session.outstandingRequests)
      (hnext : next = { session with
        outstandingRequests := session.outstandingRequests.insert requestId actionEpoch })
  | restarted (hentry : entry = (.restartProvider, .done))
      (hnext : next = session.restartProvider)
  | answered (answer : ActionAnswer)
      (hentry : entry = (.answer answer, .answered (.ok answer.requestId)))
      (hfresh : session.settledRequests[answer.requestId]? = none)
      (hopen : session.outstandingRequests[answer.requestId]? = some answer.actionEpoch)
      (hroom : session.settledRequests.size < maxSessionSettled)
      (hnext : next = { session with
        outstandingRequests := session.outstandingRequests.erase answer.requestId
        settledRequests := session.settledRequests.insert answer.requestId
          ⟨answer.clientId, answer.actionEpoch, answer.runtimeGeneration⟩ })

theorem accountStep_call (session) (c) :
    AccountStep session (c, (session.call c).1) (session.call c).2 := by
  cases c with
  | connectClient clientId =>
    rcases connectClient_cases session clientId with ⟨e, hcall⟩ | ⟨_, hcall⟩ <;>
      simp only [call, hcall] <;>
      exact .kept rfl (fun _ => rfl) rfl (by rintro ⟨⟩) rfl rfl rfl rfl rfl ⟨rfl, rfl⟩
  | disconnectClient | invalidateQueuedForClient =>
    exact .kept rfl (fun _ => rfl) rfl (by rintro ⟨⟩) rfl rfl rfl rfl rfl ⟨rfl, rfl⟩
  | restartProvider => exact .restarted rfl rfl
  | switchFocus => exact .kept rfl (fun _ => rfl) rfl (by rintro ⟨⟩) rfl rfl rfl rfl rfl ⟨rfl, rfl⟩
  | openRequest requestId actionEpoch =>
    rcases openRequest_cases session requestId actionEpoch with ⟨e, hcall⟩ | ⟨hnot, hroom, hcall⟩
    · simp only [call, hcall]
      exact .kept rfl (fun _ => rfl) rfl (by rintro ⟨⟩) rfl rfl rfl rfl rfl ⟨rfl, rfl⟩
    · simp only [call, hcall]
      exact .opened requestId actionEpoch rfl hnot hroom rfl
  | enqueue input =>
    rcases enqueue_cases session input with ⟨e, hcall, _⟩ | ⟨_, _, hcall⟩ <;>
      simp only [call, hcall] <;>
      exact .kept rfl (fun _ => rfl) rfl (by rintro ⟨⟩) rfl rfl rfl rfl rfl ⟨rfl, rfl⟩
  | admitInput input =>
    rcases admit_cases session input with ⟨e, hcall, _⟩ | ⟨_, _, _, hcall⟩ | ⟨_, _, _, hcall⟩ |
      ⟨_, hfresh, hroom, sequences, hintent, hseq, hcall⟩ <;> simp only [call, hcall]
    case inr.inr.inr =>
      exact .accepted input sequences rfl (fun _ => rfl) rfl (by rintro ⟨⟩) hfresh hroom hseq rfl
    all_goals exact .kept rfl (fun _ => rfl) rfl (by rintro ⟨⟩) rfl rfl rfl rfl rfl ⟨rfl, rfl⟩
  | answer answer =>
    rcases answer_cases session answer with ⟨e, hcall⟩ | ⟨hfresh, hopen, hroom, hcall⟩
    · simp only [call, hcall]
      exact .kept rfl (fun _ => rfl) rfl (by rintro ⟨⟩) rfl rfl rfl rfl rfl ⟨rfl, rfl⟩
    · simp only [call, hcall]
      exact .answered answer rfl hfresh hopen hroom rfl

/-! ## Accepted commands -/

/-- The accepted commands, the sequences of the resources and the revision are those of the
inputs that the history accepted. -/
structure Accepted (session : ConnectSession) (history : List (SessionCall × SessionReply)) :
    Prop where
  commands : ∀ c operationId,
    session.acceptedCommands[c]? = some operationId ↔
      ∃ input ∈ history.filterMap acceptedInput,
        input.commandId = c ∧ input.operationId = operationId
  once : ((history.filterMap acceptedInput).map DeviceInput.commandId).Nodup
  increasing : ∀ resourceId, (((history.filterMap acceptedInput).filter
    fun input => input.resourceId = some resourceId).map DeviceInput.inputSequence).Pairwise
      (· < ·)
  below : ∀ input ∈ history.filterMap acceptedInput, ∀ resourceId,
    input.resourceId = some resourceId →
      input.inputSequence ≤ (session.resourceSequences[resourceId]?).getD 0
  size : session.acceptedCommands.size = (history.filterMap acceptedInput).length
  revision : session.revision = (history.filterMap acceptedInput).length + 1

theorem accepted_new (taskId : TaskId) : Accepted (new taskId) [] where
  commands := by simp [new]
  once := nodup_nil
  increasing := fun _ => .nil
  below := by simp
  size := rfl
  revision := rfl

variable {session : ConnectSession} {history : List (SessionCall × SessionReply)}

theorem Accepted.of_kept {next entry} (h : Accepted session history)
    (hinput : acceptedInput entry = none) (hrev : next.revision = session.revision)
    (hacc : next.acceptedCommands = session.acceptedCommands)
    (hres : next.resourceSequences = session.resourceSequences) :
    Accepted next (history ++ [entry]) := by
  have hinputs : (history ++ [entry]).filterMap acceptedInput =
    history.filterMap acceptedInput := by
    rw [filterMap_concat, hinput, Option.toList_none, append_nil]
  refine ⟨?_, ?_, ?_, ?_, ?_, ?_⟩
  · rw [hinputs, hacc]
    exact h.commands
  · rw [hinputs]
    exact h.once
  · rw [hinputs]
    exact h.increasing
  · rw [hinputs, hres]
    exact h.below
  · rw [hinputs, hacc]
    exact h.size
  · rw [hinputs, hrev]
    exact h.revision

variable {input : DeviceInput} {resourceSequences : ExtTreeMap ResourceId ℕ}

theorem le_recordSequence (h : session.recordSequence input = .ok resourceSequences) (resourceId) :
    (session.resourceSequences[resourceId]?).getD 0 ≤ (resourceSequences[resourceId]?).getD 0 ∧
      (input.resourceId = some resourceId →
        (session.resourceSequences[resourceId]?).getD 0 < input.inputSequence ∧
          (resourceSequences[resourceId]?).getD 0 = input.inputSequence) := by
  rcases recordSequence_eq_ok h with ⟨hnone, rfl⟩ | ⟨target, htarget, _, hlast, rfl⟩
  · refine ⟨le_rfl, fun hsome => ?_⟩
    rw [hnone] at hsome
    cases hsome
  · rw [getElem?_insert_eq]
    by_cases heq : target = resourceId
    · subst heq
      rw [if_pos rfl]
      exact ⟨hlast.le, fun _ => ⟨hlast, rfl⟩⟩
    · rw [if_neg heq]
      refine ⟨le_rfl, fun hsome => ?_⟩
      rw [htarget] at hsome
      exact absurd (Option.some.inj hsome) heq

theorem Accepted.of_accepted {entry : SessionCall × SessionReply} (h : Accepted session history)
    (hinput : acceptedInput entry = some input)
    (hfresh : session.acceptedCommands[input.commandId]? = none)
    (hroom : session.acceptedCommands.size < maxSessionAcceptedCommands)
    (hsequence : session.recordSequence input = .ok resourceSequences) :
    Accepted (session.accept input resourceSequences) (history ++ [entry]) := by
  have hinputs : (history ++ [entry]).filterMap acceptedInput =
      history.filterMap acceptedInput ++ [input] := by
    rw [filterMap_concat, hinput, Option.toList_some]
  have hnew : input.commandId ∉ (history.filterMap acceptedInput).map DeviceInput.commandId := by
    intro hmem
    obtain ⟨other, hother, hcmd⟩ := mem_map.mp hmem
    have hget := (h.commands _ _).mpr ⟨other, hother, hcmd, rfl⟩
    rw [hfresh] at hget
    cases hget
  refine ⟨?_, ?_, ?_, ?_, ?_, ?_⟩
  · intro c operationId
    show (session.acceptedCommands.insert input.commandId input.operationId)[c]? = _ ↔ _
    rw [getElem?_insert_eq, hinputs]
    simp only [mem_append, mem_singleton]
    split_ifs with heq
    · constructor
      · rintro ⟨⟩
        exact ⟨input, .inr rfl, heq, rfl⟩
      · rintro ⟨other, hother | rfl, hcmd, rfl⟩
        · have hget := (h.commands _ _).mpr ⟨other, hother, hcmd, rfl⟩
          rw [← heq, hfresh] at hget
          cases hget
        · rfl
    · rw [h.commands]
      constructor
      · rintro ⟨other, hother, hrest⟩
        exact ⟨other, .inl hother, hrest⟩
      · rintro ⟨other, hother | rfl, hcmd, hop⟩
        · exact ⟨other, hother, hcmd, hop⟩
        · exact absurd hcmd heq
  · rw [hinputs, map_append]
    exact nodup_append_comm.mp (nodup_cons.mpr ⟨hnew, h.once⟩)
  · intro resourceId
    rw [hinputs, filter_append, map_append, pairwise_append]
    refine ⟨h.increasing resourceId, ?_, ?_⟩
    · by_cases hres : input.resourceId = some resourceId <;> simp [hres]
    · intro a ha b hb
      obtain ⟨other, hother, rfl⟩ := mem_map.mp ha
      obtain ⟨last, hlast, rfl⟩ := mem_map.mp hb
      obtain ⟨hother, hres⟩ := mem_filter.mp hother
      obtain ⟨hlast, htarget⟩ := mem_filter.mp hlast
      rw [mem_singleton.mp hlast] at htarget ⊢
      have hbelow := h.below other hother resourceId (of_decide_eq_true hres)
      have habove := ((le_recordSequence hsequence resourceId).2 (of_decide_eq_true htarget)).1
      exact hbelow.trans_lt habove
  · intro other hother resourceId hres
    have hseq := le_recordSequence hsequence resourceId
    rw [hinputs] at hother
    rcases mem_append.mp hother with hold | hlast
    · exact (h.below other hold resourceId hres).trans hseq.1
    · rw [mem_singleton.mp hlast] at hres ⊢
      exact (hseq.2 hres).2.ge
  · have hnot : ¬ session.acceptedCommands.contains input.commandId = true := fun hmem =>
      not_mem_iff.mpr hfresh (contains_iff_mem.mp hmem)
    show (session.acceptedCommands.insert input.commandId input.operationId).size = _
    rw [size_insert, if_neg hnot, hinputs, length_append, length_singleton, h.size]
  · -- the bound on the accepted commands keeps the revision far from its maximum
    have hsize := h.size
    have hbound : maxSessionAcceptedCommands + 2 ≤ u64Max := by decide
    show saturatingAdd session.revision 1 = _
    rw [hinputs, length_append, length_singleton, h.revision]
    exact Nat.min_eq_left (by omega)

theorem accepted_call (session) (history) (c) (h : Accepted session history) :
    Accepted (session.call c).2 (history ++ [(c, (session.call c).1)]) := by
  cases accountStep_call session c with
  | kept hinput _ _ _ hrev hacc hres _ _ _ =>
    exact h.of_kept hinput hrev hacc hres
  | accepted input sequences hinput _ _ _ hfresh hroom hseq hnext =>
    rw [hnext]
    exact h.of_accepted hinput hfresh hroom hseq
  | opened _ _ hentry _ _ hnext | restarted hentry hnext | answered _ hentry _ _ _ hnext =>
    rw [hentry, hnext]
    exact h.of_kept rfl rfl rfl rfl

/-! ## Requests -/

/-- The open requests have the epoch they were last opened with, and since a restart every settled
answer is recorded, no request was answered twice, and each with the epoch it was last opened
with. -/
structure Requests (session : ConnectSession) (history : List (SessionCall × SessionReply)) :
    Prop where
  outstanding : ∀ id epoch,
    session.outstandingRequests[id]? = some epoch →
      (history.filterMap (openedEpoch id)).getLast? = some epoch
  settled : ∀ before mid, history = before ++ mid → (∀ entry ∈ mid, ¬ IsRestart entry) →
    ∀ answer ∈ mid.filterMap settledAnswer, answer.requestId ∈ session.settledRequests
  once : ∀ before mid after, history = before ++ mid ++ after →
    (∀ entry ∈ mid, ¬ IsRestart entry) →
      ((mid.filterMap settledAnswer).map ActionAnswer.requestId).Nodup
  epoch : ∀ before answer id after,
    history = before ++ (.answer answer, .answered (.ok id)) :: after →
      (before.filterMap (openedEpoch answer.requestId)).getLast? = some answer.actionEpoch

variable (taskId : TaskId)

theorem requests_new : Requests (new taskId) [] where
  outstanding := by
    intro id epoch h
    simp [new] at h
  settled := by
    intro before mid h _ answer hans
    obtain ⟨_, rfl⟩ := append_eq_nil_iff.mp h.symm
    cases hans
  once := by
    intro before mid after h _
    obtain ⟨hmid, _⟩ := append_eq_nil_iff.mp h.symm
    obtain ⟨_, rfl⟩ := append_eq_nil_iff.mp hmid
    exact nodup_nil
  epoch := by
    intro before answer id after h
    simp at h

theorem concat_eq_append {α : Type} {history before mid : List α} {entry : α}
    (h : history ++ [entry] = before ++ mid) :
    mid = [] ∨ ∃ rest, mid = rest ++ [entry] ∧ history = before ++ rest := by
  rcases eq_nil_or_concat' mid with rfl | ⟨rest, last, rfl⟩
  · exact .inl rfl
  · rw [← append_assoc] at h
    obtain ⟨hhist, hlast⟩ := append_inj' h rfl
    cases hlast
    exact .inr ⟨rest, rfl, hhist⟩

theorem Requests.concat {next entry}
    (h : Requests session history) (houtstanding : ∀ id epoch,
      next.outstandingRequests[id]? = some epoch → openedEpoch id entry = some epoch ∨
        openedEpoch id entry = none ∧ session.outstandingRequests[id]? = some epoch)
    (hsettled : ¬ IsRestart entry → ∀ id, id ∈ next.settledRequests ↔
      id ∈ session.settledRequests ∨ id ∈ (settledAnswer entry).toList.map ActionAnswer.requestId)
    (hans : ∀ answer, settledAnswer entry = some answer →
      answer.requestId ∉ session.settledRequests ∧
        session.outstandingRequests[answer.requestId]? = some answer.actionEpoch) :
    Requests next (history ++ [entry]) := by
  refine ⟨?_, ?_, ?_, ?_⟩
  · intro id epoch hget
    rw [filterMap_concat]
    rcases houtstanding id epoch hget with hopen | ⟨hopen, hold⟩
    · rw [hopen, Option.toList_some, getLast?_concat]
    · rw [hopen, Option.toList_none, append_nil]
      exact h.outstanding id epoch hold
  · intro before mid hhist hrestart answer hmem
    rcases concat_eq_append hhist with rfl | ⟨rest, rfl, hold⟩
    · cases hmem
    · have hentry := hrestart entry (by simp)
      rw [hsettled hentry]
      rw [filterMap_concat, mem_append] at hmem
      rcases hmem with hmem | hmem
      · exact .inl (h.settled before rest hold
          (fun e he => hrestart e (mem_append_left _ he)) answer hmem)
      · exact .inr (mem_map_of_mem hmem)
  · intro before mid after hhist hrestart
    rcases concat_eq_append hhist with rfl | ⟨rest, rfl, hold⟩
    · rw [append_nil] at hhist
      rcases concat_eq_append hhist with rfl | ⟨rest, rfl, hold⟩
      · exact nodup_nil
      · have hpre : ∀ e ∈ rest, ¬ IsRestart e := fun e he =>
          hrestart e (mem_append_left _ he)
        have honce := h.once before rest [] (by rw [append_nil]; exact hold) hpre
        rw [filterMap_concat, map_append]
        rcases hentry : settledAnswer entry with _ | answer
        · simpa using honce
        · have hnew : answer.requestId ∉ (rest.filterMap settledAnswer).map
              ActionAnswer.requestId := by
            intro hmem
            obtain ⟨other, hother, heq⟩ := mem_map.mp hmem
            exact (hans answer hentry).1 (heq ▸ h.settled before rest hold hpre other hother)
          exact nodup_append_comm.mp (nodup_cons.mpr ⟨hnew, honce⟩)
    · exact h.once before mid rest hold hrestart
  · intro before answer id after hhist
    rcases concat_eq_split hhist with ⟨rfl, rfl, rfl⟩ | ⟨rest, rfl, hold⟩
    · exact h.outstanding _ _ (hans answer rfl).2
    · exact h.epoch before answer id rest hold

theorem requests_call (session) (history) (c) (h : Requests session history) :
    Requests (session.call c).2 (history ++ [(c, (session.call c).1)]) := by
  cases accountStep_call session c with
  | kept _ hopened hans _ _ _ _ houtstanding hsettled _ =>
    refine h.concat (fun id epoch hget => .inr ⟨hopened id, houtstanding ▸ hget⟩) ?_ ?_
    · intro _ id
      rw [hsettled, hans]
      simp
    · intro answer hsome
      rw [hans] at hsome
      cases hsome
  | accepted input sequences _ hopened hans _ _ _ _ hnext =>
    refine h.concat (fun id epoch hget => .inr ⟨hopened id, ?_⟩) ?_ ?_
    · rw [hnext] at hget
      exact hget
    · intro _ id
      rw [hnext, hans]
      simp [accept]
    · intro answer hsome
      rw [hans] at hsome
      cases hsome
  | opened requestId actionEpoch hentry _ _ hnext =>
    rw [hentry, hnext]
    refine h.concat ?_ (fun _ id => by simp [settledAnswer]) nofun
    intro id epoch hget
    rw [getElem?_insert_eq] at hget
    by_cases heq : requestId = id
    · rw [if_pos heq] at hget
      exact .inl ((if_pos heq).trans hget)
    · rw [if_neg heq] at hget
      exact .inr ⟨if_neg heq, hget⟩
  | restarted hentry hnext =>
    rw [hentry, hnext]
    refine h.concat ?_ (fun hrestart => absurd rfl hrestart) nofun
    intro id epoch hget
    simp [restartProvider] at hget
  | answered answer hentry hfresh hopen _ hnext =>
    rw [hentry, hnext]
    refine h.concat ?_ ?_ ?_
    · intro id epoch hget
      rw [getElem?_erase_eq] at hget
      split_ifs at hget
      exact .inr ⟨rfl, hget⟩
    · intro _ id
      rw [OrdMap.mem_insert_iff]
      simp [settledAnswer, or_comm]
    · intro other hother
      cases hother
      exact ⟨not_mem_iff.mpr hfresh, hopen⟩

/-! ## Bounds -/

/-- Every collection of the session is within its bound. -/
structure Bounded (session : ConnectSession) : Prop where
  accepted : session.acceptedCommands.size ≤ maxSessionAcceptedCommands
  queued : session.queued.size ≤ maxSessionQueued
  resources : session.resourceSequences.size ≤ maxSessionResources
  outstanding : session.outstandingRequests.size ≤ maxSessionOutstanding
  settled : session.settledRequests.size ≤ maxSessionSettled
  connected : session.connected.size ≤ maxSessionConnected
  invalidated : session.invalidated.size ≤ maxSessionInvalidated

theorem bounded_new : Bounded (new taskId) := by
  constructor <;> simp [new]

theorem bounded_invalidate (h : Bounded session) (clientId : ClientId) :
    Bounded (session.invalidateQueuedForClient clientId) :=
  { h with
    queued := (size_foldl_erase_le _ _).trans h.queued,
    invalidated := size_foldl_retain _ _ h.invalidated }

theorem bounded_recordSequence (h : Bounded session)
    (hseq : session.recordSequence input = .ok resourceSequences) :
    resourceSequences.size ≤ maxSessionResources := by
  rcases recordSequence_eq_ok hseq with ⟨_, rfl⟩ | ⟨resourceId, _, hroom, _, rfl⟩
  · exact h.resources
  · exact size_insert_bounded h.resources hroom

theorem bounded_call (session) (c) (h : Bounded session) :
    Bounded (session.call c).2 := by
  cases c with
  | connectClient clientId =>
    rcases connectClient_cases session clientId with ⟨e, hcall⟩ | ⟨hroom, hcall⟩
    · simpa only [call, hcall] using h
    · simp only [call, hcall]
      exact { h with connected := size_insertSet_bounded h.connected hroom }
  | disconnectClient clientId =>
    show Bounded (invalidateQueuedForClient _ clientId)
    refine bounded_invalidate ?_ clientId
    exact { h with connected := ExtTreeSet.size_erase_le.trans h.connected }
  | invalidateQueuedForClient => exact bounded_invalidate h _
  | restartProvider =>
    exact { h with outstanding := Nat.zero_le _, settled := Nat.zero_le _ }
  | switchFocus => exact { h with }
  | openRequest requestId actionEpoch =>
    rcases openRequest_cases session requestId actionEpoch with ⟨e, hcall⟩ | ⟨_, hroom, hcall⟩
    · simpa only [call, hcall] using h
    · simp only [call, hcall]
      exact { h with outstanding := size_insert_bounded h.outstanding hroom }
  | enqueue input =>
    rcases enqueue_cases session input with ⟨e, hcall, _⟩ | ⟨_, hroom, hcall⟩
    · simpa only [call, hcall] using h
    · simp only [call, hcall]
      exact { h with queued := size_insert_bounded h.queued hroom }
  | admitInput input =>
    rcases admit_cases session input with ⟨e, hcall, _⟩ | ⟨_, _, _, hcall⟩ | ⟨_, _, _, hcall⟩ |
      ⟨_, _, hroom, sequences, hintent, hseq, hcall⟩
    · simpa only [call, hcall] using h
    · simp only [call, hcall]
      exact { h with queued := size_erase_le.trans h.queued }
    · simpa only [call, hcall] using h
    · simp only [call, hcall]
      exact { h with
        queued := size_erase_le.trans h.queued,
        resources := bounded_recordSequence h hseq,
        accepted := size_insert_bounded h.accepted (.inl hroom) }
  | answer answer =>
    rcases answer_cases session answer with ⟨e, hcall⟩ | ⟨_, _, hroom, hcall⟩
    · simpa only [call, hcall] using h
    · simp only [call, hcall]
      exact { h with
        outstanding := size_erase_le.trans h.outstanding,
        settled := size_insert_bounded h.settled (.inl hroom) }

/-! ## Whole runs -/

/-- The records that a refused call leaves as they were. -/
structure RecordsKept (session next : ConnectSession) : Prop where
  revision : next.revision = session.revision
  turnEpoch : next.turnEpoch = session.turnEpoch
  focusEpoch : next.focusEpoch = session.focusEpoch
  runtimeGeneration : next.runtimeGeneration = session.runtimeGeneration
  acceptedCommands : next.acceptedCommands = session.acceptedCommands
  resourceSequences : next.resourceSequences = session.resourceSequences
  outstandingRequests : next.outstandingRequests = session.outstandingRequests
  settledRequests : next.settledRequests = session.settledRequests

theorem recordsKept_admitInput
    {e : SessionAdmitError} (h : (session.admitInput input).1 = .error e) :
    RecordsKept session (session.admitInput input).2.1 := by
  rcases admit_cases session input with ⟨_, hcall, _⟩ | ⟨_, _, _, hcall⟩ | ⟨_, _, _, hcall⟩ |
    ⟨_, _, _, _, _, _, hcall⟩
  · rw [hcall]
    constructor <;> rfl
  · rw [hcall]
    constructor <;> rfl
  · rw [hcall] at h
    cases h
  · rw [hcall] at h
    cases h

theorem recordsKept_answer {answer e} (h : (session.answer answer).1 = .error e) :
    RecordsKept session (session.answer answer).2 := by
  rcases answer_cases session answer with ⟨_, hcall⟩ | ⟨_, _, _, hcall⟩
  · rw [hcall]
    constructor <;> rfl
  · rw [hcall] at h
    cases h

theorem accepted_after (calls) :
    Accepted (after call (new taskId) calls) (trace call (new taskId) calls) :=
  history_invariant (P := Accepted) (accepted_new taskId) accepted_call calls

theorem acceptedCommands_after {taskId before calls}
    (h : before <+: calls) {c : CommandId} {operationId}
    (hget : (after call (new taskId) before).acceptedCommands[c]? = some operationId) :
    (after call (new taskId) calls).acceptedCommands[c]? = some operationId := by
  obtain ⟨rest, rfl⟩ := h
  obtain ⟨input, hinput, hrest⟩ := ((accepted_after taskId before).commands _ _).mp hget
  refine ((accepted_after taskId (before ++ rest)).commands _ _).mpr ⟨input, ?_, hrest⟩
  rw [trace_append, filterMap_append]
  exact mem_append_left _ hinput

/-- Every command is accepted at most once and its operation stays recorded, the sequences of a
resource increase, the revision counts the accepted inputs, a request is answered at most once
between two restarts and with the epoch it was last opened with, every collection stays within
its bound, and a refused `admit` or `answer` changes no record. -/
theorem session_accounting (calls : List SessionCall) :
    let session := after call (new taskId) calls
    let history := trace call (new taskId) calls
    let accepted := history.filterMap acceptedInput
    ((accepted.map DeviceInput.commandId).Nodup ∧
      (∀ before, before <+: calls → ∀ (c : CommandId) operationId,
        (after call (new taskId) before).acceptedCommands[c]? = some operationId →
          session.acceptedCommands[c]? = some operationId) ∧
      ∀ input ∈ accepted, session.acceptedCommands[input.commandId]? = some input.operationId) ∧
    (∀ resourceId, ((accepted.filter fun input => input.resourceId = some resourceId).map
      DeviceInput.inputSequence).Pairwise (· < ·)) ∧
    session.revision - 1 = accepted.length ∧
    ((∀ before mid after, history = before ++ mid ++ after →
        (∀ entry ∈ mid, ¬ IsRestart entry) →
          ((mid.filterMap settledAnswer).map ActionAnswer.requestId).Nodup) ∧
      ∀ before answer id after, history = before ++ (.answer answer, .answered (.ok id)) :: after →
          (before.filterMap (openedEpoch answer.requestId)).getLast? = some answer.actionEpoch) ∧
    (∀ before, before <+: calls → Bounded (after call (new taskId) before)) ∧
    (∀ input e, (session.admitInput input).1 = .error e →
      RecordsKept session (session.admitInput input).2.1) ∧
    ∀ answer e, (session.answer answer).1 = .error e →
      RecordsKept session (session.answer answer).2 := by
  intro session history accepted
  have hacc := accepted_after taskId calls
  have hreq : Requests session history :=
    history_invariant (P := Requests) (requests_new taskId) requests_call calls
  refine ⟨⟨hacc.once, fun before hpre c operationId hget =>
      acceptedCommands_after hpre hget, fun input hinput =>
        (hacc.commands _ _).mpr ⟨input, hinput, rfl, rfl⟩⟩,
    hacc.increasing, ?_, ⟨hreq.once, hreq.epoch⟩, ?_,
    fun input e => recordsKept_admitInput, fun answer e => recordsKept_answer⟩
  · have hrev : session.revision = accepted.length + 1 := hacc.revision
    rw [hrev]
    rfl
  · intro before _
    exact after_invariant (bounded_new taskId) bounded_call before

end DevManager.ConnectSession
