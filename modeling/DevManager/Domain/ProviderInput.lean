import DevManager.Domain.Externals
import DevManager.Lib.OrdMap
import DevManager.Lib.Result

/-!
# Provider input (`src/domain/provider_input.rs`)

The per-session projection of provider input (`ProviderSessionProjection`): the
current turn, the open question and approval, the winners of the answered ones
and the wait records, with its bounded inserts; and the fence check
`validate_provider_fence` that every provider event passes.

* `validateProviderFence_context`: the conjunction of checks the fence check is.
* `boundedInsertWait_total`: a wait fits whenever fewer than `MAX_PROVIDER_WAITS`
  records are pending, since a settled record is evicted for it.
* `boundedInsertWait_waits`: the inserted record is stored, pending records of
  other commands stay, and nothing else comes in.
-/

namespace DevManager

open Std (ExtTreeMap)
open OrdMap Std.ExtTreeMap Option

/-- The bounds of L20-28. -/
def maxProviderInputTextBytes : ℕ := 64 * 1024
def maxProviderQuestionWins : ℕ := 256
def maxProviderApprovalWins : ℕ := 256
def maxProviderWaits : ℕ := 64
def maxProviderImageAttachments : ℕ := 8
def maxProviderImageBytes : ℕ := 5 * 1024 * 1024
def maxProviderImagePathBytes : ℕ := 4096

/-! ## The actions and their nested ids -/

namespace ProviderInputAction

/-- `waits_for_turn`, L309-311 -/
def waitsForTurn : ProviderInputAction → Bool
  | sendNow _ wait _ => wait
  | _ => false

/-- `matches!(action, ProviderInputAction::SendNow { .. })`. -/
def isSendNow : ProviderInputAction → Bool
  | sendNow .. => true
  | _ => false

end ProviderInputAction

/-- `is_delivered`, L345-347 -/
def ProviderDeliveryVisibility.isDelivered : ProviderDeliveryVisibility → Bool
  | hold _ => false
  | delivered => true

/-- `hold_until_destination_adapter`, L339-343 -/
def ProviderDeliveryVisibility.holdUntilDestinationAdapter : ProviderDeliveryVisibility :=
  .hold .destinationAdapterNotWired

section Payload

variable [Externals]

/-- `validate_provider_text`, L970-978 -/
def validateProviderText (text : String) : Except ProviderInputIntentError Unit := do
  failIf (text = "") .emptyText
  failIf (text.utf8ByteSize > maxProviderInputTextBytes) .textTooLarge

/-- `validate_provider_image_path`, L1005-1017 -/
def validateProviderImagePath (path : String) : Except ProviderInputIntentError Unit := do
  failIf (path = "" ∨ path.utf8ByteSize > maxProviderImagePathBytes) .imageAttachmentInvalid
  failIf (path.toList.any fun c => isControl c || c == '\x00') .imageAttachmentInvalid
  failIf (¬ Externals.isAbsolute path) .imageAttachmentInvalid

/-- One image of the loop of `validate_send_now_payload` (L988-991). -/
def validateProviderImage (image : ProviderImageAttachment) :
    Except ProviderInputIntentError Unit := do
  validateProviderImagePath image.path
  failIf (image.byteLen = 0 ∨ image.byteLen > maxProviderImageBytes) .imageAttachmentInvalid

/-- `validate_send_now_payload`, L980-1003 -/
def validateSendNowPayload (text : String) (images : List ProviderImageAttachment) :
    Except ProviderInputIntentError Unit := do
  failIf (images.length > maxProviderImageAttachments) .tooManyImages
  images.forM validateProviderImage
  if text = "" then
    failIf images.isEmpty .emptyText
  else
    failIf (text.utf8ByteSize > maxProviderInputTextBytes) .textTooLarge

/-- `validate_action_nested_ids`, L1215-1264 -/
def validateActionNestedIds (action : ProviderInputAction) (questionId : Option QuestionId)
    (approvalId : Option ApprovalId) : Except ProviderInputIntentError Unit :=
  match action with
  | .sendNow text _ images => do
    validateSendNowPayload text images
    failIf (questionId.isSome ∨ approvalId.isSome) .inconsistentNestedIds
  | .steerCurrentTurn text => do
    validateProviderText text
    failIf (questionId.isSome ∨ approvalId.isSome) .inconsistentNestedIds
  | .queueFollowUp text => do
    validateProviderText text
    failIf (questionId.isSome ∨ approvalId.isSome) .inconsistentNestedIds
  | .answerQuestion nested answer => do
    validateProviderText answer
    failIf (questionId ≠ some nested ∨ approvalId.isSome) .inconsistentNestedIds
  | .resolveApproval nested _ =>
    failIf (approvalId ≠ some nested ∨ questionId.isSome) .inconsistentNestedIds
  | .terminalInput text => do
    validateProviderText text
    failIf (questionId.isSome ∨ approvalId.isSome) .inconsistentNestedIds
  | .stopTurn => failIf (questionId.isSome ∨ approvalId.isSome) .inconsistentNestedIds

theorem not_both_of_validateActionNestedIds {action questionId approvalId}
    (h : validateActionNestedIds action questionId approvalId = .ok ()) :
    ¬ (questionId.isSome = true ∧ approvalId.isSome = true) := by
  cases action <;>
    simp only [validateActionNestedIds, ok_iff, not_or] at h <;>
    tauto

end Payload

/-! ## Fences -/

/-- `identity`, L521-536 -/
def ProviderWaitFence.identity (fence : ProviderWaitFence) : ProviderFenceIdentity :=
  { fence with commandId := some fence.commandId, taskId := some fence.taskId }

/-- `context.lifecycle` is live (L726-728). -/
def ProviderFenceContext.live (context : ProviderFenceContext) : Bool :=
  context.lifecycle = .opened || (context.allowClosing && context.lifecycle = .closing)

/-- The part of `validate_provider_fence` about the live agent (L704-737). -/
def validateFenceContext (fence : ProviderFenceIdentity) (providerKind : ProviderKind) :
    Option ProviderFenceContext → Except ProviderFenceError Unit
  | none => .ok ()
  | some context => do
    failIf (fence.taskId ≠ some context.taskId) .taskMismatch
    failIf (fence.agentSessionId ≠ context.agentSessionId) .agentSessionMismatch
    failIf (providerKind ≠ context.providerKind) .providerKindMismatch
    failIf (fence.providerSessionId ≠ context.providerSessionId) .providerSessionMismatch
    failIf (context.agentTaskId ≠ context.taskId) .agentOwnershipMismatch
    failIf (fence.runtimeGeneration ≠ context.runtimeGeneration) .runtimeGenerationMismatch
    failIf (fence.actionEpoch ≠ context.actionEpoch) .actionEpochMismatch
    failIf (¬ context.live) .agentNotLive
    match context.currentTurn with
    | some currentTurn => failIf (fence.turnId ≠ currentTurn) .turnMismatch
    | none => .ok ()

section Fence

variable [Externals]

/-- The part of `validate_provider_fence` about the action (L695-703). -/
def validateFenceAction (fence : ProviderFenceIdentity) (wait : Option Bool) :
    Option ProviderInputAction → Except ProviderFenceError Unit
  | some action => do
    mapErr (validateActionNestedIds action fence.questionId fence.approvalId) fun _ =>
      .invalidNestedIds
    failIf (wait ≠ some action.waitsForTurn) .waitFlagMismatch
  | none => failIf wait.isSome .waitFlagMismatch

/-- `validate_provider_fence`, L671-742 -/
def validateProviderFence (fence : ProviderFenceIdentity) (action : Option ProviderInputAction)
    (wait : Option Bool) (context : Option ProviderFenceContext) :
    Except ProviderFenceError Unit := do
  let providerKind ← okOr fence.providerKind .missingProviderIdentity
  failIf (fence.providerSessionId.isNone ∧ providerKind ≠ .codex) .missingProviderIdentity
  failIf (fence.operationId.isSome ∧ fence.commandId.isNone) .missingOperationId
  failIf (fence.questionId.isSome ∧ fence.approvalId.isSome) .invalidNestedIds
  validateFenceAction fence wait action
  validateFenceContext fence providerKind context
  failIf (action.isSome ∧ fence.operationId.isNone) .missingOperationId

end Fence

/-- What a fence must be on its own, before it is compared with a live agent. -/
structure ProviderFenceIdentity.WellFormed (fence : ProviderFenceIdentity) : Prop where
  kind : ∃ k, fence.providerKind = some k ∧ (fence.providerSessionId = none → k = .codex)
  command : fence.operationId.isSome = true → fence.commandId.isSome = true
  nested : ¬ (fence.questionId.isSome = true ∧ fence.approvalId.isSome = true)

/-- What a fence must agree on with a live agent. -/
structure ProviderFenceIdentity.Fits (fence : ProviderFenceIdentity)
    (context : ProviderFenceContext) : Prop where
  task : fence.taskId = some context.taskId
  agent : fence.agentSessionId = context.agentSessionId
  kind : fence.providerKind = some context.providerKind
  session : fence.providerSessionId = context.providerSessionId
  owner : context.agentTaskId = context.taskId
  generation : fence.runtimeGeneration = context.runtimeGeneration
  epoch : fence.actionEpoch = context.actionEpoch
  live : context.live = true
  turn : ∀ t, context.currentTurn = some t → fence.turnId = t

section FenceLemmas

variable [Externals] {fence : ProviderFenceIdentity} {context : ProviderFenceContext}

theorem validateProviderFence_bare :
    validateProviderFence fence none none none = .ok () ↔ fence.WellFormed := by
  unfold validateProviderFence validateFenceAction validateFenceContext
  simp only [ok_iff]
  constructor
  · rintro ⟨k, hk, hs, hc, hn, -, -, -⟩
    refine ⟨⟨k, hk, fun hnone => ?_⟩, fun ho => ?_, hn⟩
    · by_contra hne
      exact hs ⟨by simp [hnone], hne⟩
    · cases h : fence.commandId with
      | none => exact absurd ⟨ho, by simp [h]⟩ hc
      | some c => rfl
  · rintro ⟨⟨k, hk, hs⟩, hc, hn⟩
    refine ⟨k, hk, ?_, ?_, hn, by simp, trivial, by simp⟩
    · rintro ⟨hnone, hne⟩
      exact hne (hs (by simpa using hnone))
    · rintro ⟨ho, hnone⟩
      have := hc ho
      simp_all

omit [Externals] in
theorem validateFenceContext_eq_ok {kind} (hkind : fence.providerKind = some kind) :
    validateFenceContext fence kind (some context) = .ok () ↔ fence.Fits context := by
  unfold validateFenceContext
  simp only [ok_iff]
  constructor
  · rintro ⟨h1, h2, h3, h4, h5, h6, h7, h8, h9⟩
    refine ⟨h1, h2, by rw [hkind, h3], h4, h5, h6, h7, h8, fun t ht => ?_⟩
    rw [ht] at h9
    simpa using h9
  · rintro ⟨h1, h2, h3, h4, h5, h6, h7, h8, h9⟩
    refine ⟨h1, h2, ?_, h4, h5, h6, h7, h8, ?_⟩
    · rw [hkind] at h3
      exact some.inj h3
    · cases ht : context.currentTurn with
      | none => rfl
      | some t => simpa using h9 t ht

theorem validateProviderFence_context :
    validateProviderFence fence none none (some context) = .ok () ↔
      fence.WellFormed ∧ fence.Fits context := by
  rw [← validateProviderFence_bare]
  unfold validateProviderFence
  simp only [ok_iff]
  constructor
  · rintro ⟨k, hk, h1, h2, h3, h4, h5, h6⟩
    exact ⟨⟨k, hk, h1, h2, h3, h4, rfl, h6⟩, (validateFenceContext_eq_ok hk).mp h5⟩
  · rintro ⟨⟨k, hk, h1, h2, h3, h4, -, h6⟩, hfits⟩
    exact ⟨k, hk, h1, h2, h3, h4, (validateFenceContext_eq_ok hk).mpr hfits, h6⟩

variable {action : ProviderInputAction}

theorem validateProviderFence_some {wait : Bool} {context} :
    validateProviderFence fence (some action) (some wait) context = .ok () ↔
      validateProviderFence fence none none context = .ok () ∧
        validateActionNestedIds action fence.questionId fence.approvalId = .ok () ∧
        wait = action.waitsForTurn ∧ fence.operationId.isSome = true := by
  unfold validateProviderFence
  simp only [ok_iff, validateFenceAction, some.injEq]
  constructor
  · rintro ⟨k, hk, h1, h2, h3, ⟨h4, h5⟩, h6, h7⟩
    refine ⟨⟨k, hk, h1, h2, h3, by simp, h6, by simp⟩, h4, h5, ?_⟩
    cases ho : fence.operationId with
    | none => exact absurd ⟨rfl, by simp [ho]⟩ h7
    | some o => rfl
  · rintro ⟨⟨k, hk, h1, h2, h3, -, h6, -⟩, h4, h5, h7⟩
    refine ⟨k, hk, h1, h2, h3, ⟨h4, h5⟩, h6, fun hnone => ?_⟩
    rw [isNone_iff_eq_none.mp hnone.2] at h7
    cases h7

theorem validateProviderFence_action {wait : Bool} :
    validateProviderFence fence (some action) (some wait) (some context) = .ok () ↔
      (fence.WellFormed ∧ fence.Fits context) ∧
        validateActionNestedIds action fence.questionId fence.approvalId = .ok () ∧
        wait = action.waitsForTurn ∧ fence.operationId.isSome = true := by
  rw [validateProviderFence_some, validateProviderFence_context]

end FenceLemmas

/-! ## The projection of one provider session -/

/-- `ProviderSessionProjection`, L745-753 -/
structure ProviderSessionProjection where
  currentTurn : Option TurnId
  openQuestion : Option QuestionId
  openApproval : Option ApprovalId
  questionWinners : ExtTreeMap QuestionId ProviderResolutionWinner
  approvalWinners : ExtTreeMap ApprovalId ProviderResolutionWinner
  waits : ExtTreeMap CommandId ProviderWaitRecord
  lastSettlement : Option ProviderInputSettlement

namespace ProviderSessionProjection

/-- `#[derive(Default)]`. -/
def default : ProviderSessionProjection where
  currentTurn := none
  openQuestion := none
  openApproval := none
  questionWinners := ∅
  approvalWinners := ∅
  waits := ∅
  lastSettlement := none

variable (session : ProviderSessionProjection)

/-- `can_begin_send_now_turn`, L876-884 -/
def canBeginSendNowTurn (turnId : TurnId) : Bool :=
  (match session.currentTurn with
    | none => true
    | some current => current = turnId) ||
  (session.openQuestion.isNone && session.openApproval.isNone &&
    OrdMap.valuesAll session.waits (fun record => !record.pending) &&
    (match session.lastSettlement with
      | some settlement => settlement.delivery.isDelivered
      | none => false))

/-- `validate_bounds`, L886-910 -/
def validateBounds [Externals] (session : ProviderSessionProjection) :
    Except ProviderInputIntentError Unit := do
  failIf (session.questionWinners.size > maxProviderQuestionWins) .questionWinnerLimit
  failIf (session.approvalWinners.size > maxProviderApprovalWins) .approvalWinnerLimit
  failIf (session.waits.size > maxProviderWaits) .waitLimit
  failIf (∃ s ∈ session.lastSettlement, s.operationId = none) .missingOperationId
  session.waits.toList.forM fun (commandId, record) => do
    failIf (record.fence.commandId ≠ commandId ∨ record.fence.operationId.isNone) .invalidFence
    mapErr (validateProviderFence record.fence.identity none none none) fun _ => .invalidFence

/-- The number of pending wait records (L948). -/
def pendingWaits : ℕ :=
  OrdMap.countValues session.waits fun record => record.pending

/-- `bounded_insert_question_winner`, L912-925 -/
def boundedInsertQuestionWinner (questionId : QuestionId)
    (winner : ProviderResolutionWinner) :
    Except ProviderInputIntentError ProviderSessionProjection := do
  failIf (¬ questionId ∈ session.questionWinners ∧
    session.questionWinners.size ≥ maxProviderQuestionWins) .questionWinnerLimit
  pure { session with
    questionWinners := session.questionWinners.insert questionId winner, openQuestion := none }

/-- `bounded_insert_approval_winner`, L927-940 -/
def boundedInsertApprovalWinner (approvalId : ApprovalId)
    (winner : ProviderResolutionWinner) :
    Except ProviderInputIntentError ProviderSessionProjection := do
  failIf (¬ approvalId ∈ session.approvalWinners ∧
    session.approvalWinners.size ≥ maxProviderApprovalWins) .approvalWinnerLimit
  pure { session with
    approvalWinners := session.approvalWinners.insert approvalId winner, openApproval := none }

/-- The first settled wait record, in key order (L953-957). -/
def reclaimable : Option CommandId :=
  (session.waits.toList.find? fun entry => !entry.2.pending).map Prod.fst

/-- `bounded_insert_wait`, L942-967 -/
def boundedInsertWait (commandId : CommandId)
    (record : ProviderWaitRecord) :
    Except ProviderInputIntentError ProviderSessionProjection := do
  let waits ← (if ¬ commandId ∈ session.waits ∧ record.pending then do
      failIf (session.pendingWaits ≥ maxProviderWaits) .waitLimit
      if session.waits.size ≥ maxProviderWaits then do
        let reclaim ← okOr session.reclaimable .waitLimit
        pure (session.waits.erase reclaim)
      else
        pure session.waits
    else
      pure session.waits)
  pure { session with waits := waits.insert commandId record }

/-! ### What the inserts do -/

variable {session session' : ProviderSessionProjection}

theorem validateBounds_eq_ok [Externals] :
    session.validateBounds = .ok () ↔
      session.questionWinners.size ≤ maxProviderQuestionWins ∧
        session.approvalWinners.size ≤ maxProviderApprovalWins ∧
        session.waits.size ≤ maxProviderWaits ∧
        (∀ s, session.lastSettlement = some s → s.operationId.isSome = true) ∧
        ∀ c (r : ProviderWaitRecord), session.waits[c]? = some r →
          r.fence.commandId = c ∧ r.fence.operationId.isSome = true ∧
            r.fence.identity.WellFormed := by
  unfold validateBounds
  simp only [ok_iff, forM_eq_ok, Prod.forall, mem_toList_iff_getElem?_eq_some,
    validateProviderFence_bare, not_lt, not_or, mem_def, not_exists, not_and,
    Bool.not_eq_true, isNone_eq_false_iff, isSome_iff_ne_none, and_assoc]

variable {winner : ProviderResolutionWinner}

theorem boundedInsertQuestionWinner_eq_ok {questionId}
     (hnew : questionId ∉ session.questionWinners) :
    session.boundedInsertQuestionWinner questionId winner = .ok session' ↔
      session.questionWinners.size < maxProviderQuestionWins ∧
        session' = { session with
          questionWinners := session.questionWinners.insert questionId winner
          openQuestion := none } := by
  unfold boundedInsertQuestionWinner
  simp only [ok_iff, hnew, not_false_iff, true_and, ge_iff_le, not_le]

theorem boundedInsertApprovalWinner_eq_ok {approvalId}
     (hnew : approvalId ∉ session.approvalWinners) :
    session.boundedInsertApprovalWinner approvalId winner = .ok session' ↔
      session.approvalWinners.size < maxProviderApprovalWins ∧
        session' = { session with
          approvalWinners := session.approvalWinners.insert approvalId winner
          openApproval := none } := by
  unfold boundedInsertApprovalWinner
  simp only [ok_iff, hnew, not_false_iff, true_and, ge_iff_le, not_le]

theorem reclaimable_spec {c} (h : session.reclaimable = some c) :
    ∃ r, session.waits[c]? = some r ∧ r.pending = false := by
  unfold reclaimable at h
  obtain ⟨⟨k, r⟩, hfind, rfl⟩ := map_eq_some_iff.mp h
  refine ⟨r, mem_toList_iff_getElem?_eq_some.mp (List.mem_of_find?_eq_some hfind), ?_⟩
  simpa using List.find?_some hfind

theorem exists_reclaimable (h : session.pendingWaits < session.waits.size) :
    ∃ c, session.reclaimable = some c := by
  unfold reclaimable
  cases hfind : session.waits.toList.find? fun entry => !entry.2.pending with
  | some e => exact ⟨e.1, rfl⟩
  | none =>
    have hall : ∀ e ∈ session.waits.toList, e.2.pending = true := by
      intro e he
      simpa using List.find?_eq_none.mp hfind e he
    have := countValues_eq_size (p := fun r : ProviderWaitRecord => r.pending) hall
    unfold pendingWaits at h
    omega

variable {commandId : CommandId} {record : ProviderWaitRecord}

theorem boundedInsertWait_total
    (h : commandId ∈ session.waits ∨ session.pendingWaits < maxProviderWaits) :
    ∃ session', session.boundedInsertWait commandId record = .ok session' := by
  unfold boundedInsertWait
  split_ifs with hnew hsize
  · have hlt : session.pendingWaits < maxProviderWaits := h.resolve_left hnew.1
    obtain ⟨c, hc⟩ := exists_reclaimable (lt_of_lt_of_le hlt hsize)
    simp only [ok_iff]
    exact ⟨_, _, ⟨not_le.mpr hlt, c, hc, rfl⟩, rfl⟩
  · have hlt : session.pendingWaits < maxProviderWaits := h.resolve_left hnew.1
    simp only [ok_iff]
    exact ⟨_, _, ⟨not_le.mpr hlt, rfl⟩, rfl⟩
  · exact ⟨_, rfl⟩

variable (h : session.boundedInsertWait commandId record = .ok session')

include h

theorem boundedInsertWait_eq_ok :
    ∃ base, session' = { session with waits := base.insert commandId record } ∧
      (base = session.waits ∧
          (record.pending = true →
            commandId ∈ session.waits ∨ session.waits.size < maxProviderWaits)
        ∨ ∃ k r, session.waits[k]? = some r ∧ r.pending = false ∧ k ≠ commandId ∧
          base = session.waits.erase k) := by
  unfold boundedInsertWait at h
  split_ifs at h with hnew hsize
  · simp only [ok_iff] at h
    obtain ⟨base, ⟨-, k, hk, rfl⟩, rfl⟩ := h
    obtain ⟨r, hr, hp⟩ := reclaimable_spec hk
    refine ⟨_, rfl, .inr ⟨k, r, hr, hp, ?_, rfl⟩⟩
    rintro rfl
    exact hnew.1 (mem_iff_exists.mpr ⟨r, hr⟩)
  · simp only [ok_iff] at h
    obtain ⟨base, ⟨-, rfl⟩, rfl⟩ := h
    exact ⟨_, rfl, .inl ⟨rfl, fun _ => .inr (not_le.mp hsize)⟩⟩
  · simp only [ok_iff] at h
    obtain ⟨base, rfl, rfl⟩ := h
    refine ⟨_, rfl, .inl ⟨rfl, fun hp => .inl ?_⟩⟩
    by_contra hc
    exact hnew ⟨hc, hp⟩

theorem boundedInsertWait_waits :
    session'.waits[commandId]? = some record ∧
      (∀ k r, k ≠ commandId → session'.waits[k]? = some r → session.waits[k]? = some r) ∧
      ∀ k r, k ≠ commandId → session.waits[k]? = some r → r.pending = true →
        session'.waits[k]? = some r := by
  obtain ⟨base, rfl, ⟨rfl, -⟩ | ⟨e, re, hread, hperm, hne, rfl⟩⟩ := boundedInsertWait_eq_ok h
  · refine ⟨by simp, fun k r hk hr => ?_, fun k r hk hr _ => ?_⟩
    · simpa [hk.symm] using hr
    · simpa [hk.symm] using hr
  · refine ⟨by simp, fun k r hk hr => ?_, fun k r hk hr hp => ?_⟩
    · simp only [getElem?_insert_eq, getElem?_erase_eq, hk.symm, if_false] at hr
      split_ifs at hr
      exact hr
    · simp only [getElem?_insert_eq, getElem?_erase_eq, hk.symm, if_false]
      rw [if_neg, hr]
      rintro rfl
      rw [hread] at hr
      cases hr
      rw [hperm] at hp
      cases hp

theorem boundedInsertWait_size
    (hp : record.pending = true) (hsize : session.waits.size ≤ maxProviderWaits) :
    session'.waits.size ≤ maxProviderWaits := by
  obtain ⟨base, rfl, ⟨rfl, hroom⟩ | ⟨e, re, hread, -, hne, rfl⟩⟩ := boundedInsertWait_eq_ok h
  · show (session.waits.insert commandId record).size ≤ maxProviderWaits
    rw [size_insert]
    split_ifs with hmem
    · exact hsize
    · have := (hroom hp).resolve_left hmem
      omega
  · show ((session.waits.erase e).insert commandId record).size ≤ maxProviderWaits
    have hmem : e ∈ session.waits := mem_iff_exists.mpr ⟨re, hread⟩
    have hpos : 0 < session.waits.size := by
      rw [← ExtTreeMap.length_toList]
      exact List.length_pos_of_mem (mem_toList_iff_getElem?_eq_some.mpr hread)
    have herase : (session.waits.erase e).size = session.waits.size - 1 := by
      rw [size_erase, if_pos (contains_iff_mem.mpr hmem)]
    have := size_insert_le (t := session.waits.erase e) (k := commandId) (v := record)
    omega

end ProviderSessionProjection

end DevManager
