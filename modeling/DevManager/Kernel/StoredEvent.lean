import DevManager.Kernel.StoredPayload

/-!
# Stored events (`src/kernel/store.rs`)

`encode_event_payload` and `decode_stored_event`: the `event_type` column says which
payload the `payload` column holds, and the decoder checks the event that the payload
makes.

* `decodeStoredEvent_of_unpack`: the decoder returns every valid event whose payload
  it unpacks.
* `decode_encode`: for a valid event, the encoder refuses exactly a workspace named
  by its path alone, and what it writes is decoded to the durable form of the event.
-/

namespace DevManager

open EventBody ProviderInputAction ProviderInputActionWire

/-- MessagePack of a wire value: `rmp_serde::to_vec` past the serializers of the program, and
`rmp_serde::from_slice` before its deserializers. -/
class RmpSerde where
  toVec : (t : PayloadType) → t.Wire → List UInt8
  fromSlice : (t : PayloadType) → List UInt8 → Except SerdeError t.Wire

/-- `StoreError`, with the errors that a row of the `events` table raises: `pack` is an
`EventDecode` and `unpack` a `CodecMismatch` with the text of a serde error. -/
inductive StoredEventError
  | codecMismatch (detail : Detail)
  | eventDecode (detail : Detail)
  | pack (error : SerdeError)
  | unpack (error : SerdeError)

/-- `….map_err(|e| StoreError::EventDecode(e.to_string()))?`. -/
def decodeErr {ε α : Type} (result : Except ε α) (detail : ε → Detail) :
    Except StoredEventError α :=
  mapErr result fun error => .eventDecode (detail error)

/-- `MAX_PROVIDER_EVENT_PAYLOAD_BYTES`, L55 -/
def maxProviderEventPayloadBytes : ℕ := 256 * 1024

/-- `event_type.starts_with("provider_input.")`. -/
def isProviderInputType (eventType : String) : Bool :=
  "provider_input.".toList.isPrefixOf eventType.toList

/-- `….map_err(|err| StoreError::CodecMismatch { detail: err.to_string() })?`. -/
def fenceErr (result : Except ProviderFenceError Unit) : Except StoredEventError Unit :=
  mapErr result fun error => .codecMismatch (.fence error)

@[simp] theorem fenceErr_eq_ok {result : Except ProviderFenceError Unit} :
    fenceErr result = .ok () ↔ result = .ok () := mapErr_eq_ok

section Codec

variable [Externals] [RmpSerde]

/-- `rmp_serde::to_vec` of a payload struct. -/
def pack (t : PayloadType) (payload : t.Struct) : Except SerdeError (List UInt8) := do
  let wire ← t.serialize payload
  pure (RmpSerde.toVec t wire)

/-- `unpack`, L2859-2863 -/
def unpack (t : PayloadType) (payload : List UInt8) : Except StoredEventError t.Struct := do
  let wire ← mapErr (RmpSerde.fromSlice t payload) .unpack
  mapErr (t.deserialize wire) .unpack

/-- `encode_event_payload`, L1863-2159 -/
def encodeEventPayload (event : Event) : Except StoredEventError (List UInt8) := do
  let bytes ← mapErr (pack event.storedPayload.1 event.storedPayload.2) .pack
  failIf (isProviderInputType event.eventType ∧ bytes.length > maxProviderEventPayloadBytes)
    (.eventDecode (.text s!"provider event payload exceeds {maxProviderEventPayloadBytes} bytes"))
  pure bytes

/-- The match of `decode_stored_event` on the type column (L2181-2499). -/
def decodeEventType (eventType : String) (payload : List UInt8) : Except StoredEventError Event :=
  match eventType with
  | "task.created" => do
    let p ← unpack .taskCreated payload
    decodeErr p.task.validateForCreate .task
    pure (.taskCreated p.task p.connectivity p.attention p.activity p.reviewReadiness)
  | "task.renamed" => do
    let p ← unpack .taskRenamed payload
    let title ← decodeErr (TaskFacts.canonicalizeTitle p.title) .task
    pure (.taskRenamed title)
  | "task.attention_set" => do
    let p ← unpack .taskAttentionSet payload
    pure (.taskAttentionSet p.attention)
  | "task.close_begun" => do
    let p ← unpack .taskCloseBegun payload
    pure (.taskCloseBegun p.actionEpoch)
  | "task.settled" => do
    let _ ← unpack .taskUnit payload
    pure .taskSettled
  | "task.reopened" => do
    let _ ← unpack .taskUnit payload
    pure .taskReopened
  | "task.archived" => do
    let _ ← unpack .taskUnit payload
    pure .taskArchived
  | "task.deleted" => do
    let _ ← unpack .taskUnit payload
    pure .taskDeleted
  | "agent_session.registered" => do
    let p ← unpack .agentSessionRegistered payload
    decodeErr p.agent.validateForRegistration .agent
    pure (.agentSessionRegistered p.agent)
  | "agent_session.provider_bound" => do
    let p ← unpack .agentProviderSessionBound payload
    pure (.agentProviderSessionBound p.agentSessionId p.resourceId p.providerSessionId
      p.runtimeGeneration)
  | "agent_session.provider_abandoned" => do
    let p ← unpack .agentProviderSessionAbandoned payload
    pure (.agentProviderSessionAbandoned p.agentSessionId p.abandonedProviderSessionId
      p.runtimeGeneration)
  | "primary_agent.set" => do
    let p ← unpack .primaryAgentSet payload
    pure (.primaryAgentSet p.agentSessionId)
  | "agent_session.unstarted_provider_rebound" => do
    let p ← unpack .unstartedPrimaryProviderRebound payload
    pure (.unstartedPrimaryProviderRebound p.agentSessionId p.providerKind)
  | "specialist.requested" => do
    let p ← unpack .specialistRequested payload
    decodeErr p.validate .text
    pure (.specialistRequested { p with })
  | "primary_agent.promoted" => do
    let p ← unpack .primaryPromoted payload
    decodeErr p.validate .text
    pure (.primaryPromoted p.previous p.promoted p.actionEpoch p.runtimeGeneration)
  | "specialist.handoff_recorded" => do
    let p ← unpack .specialistHandoffRecorded payload
    decodeErr p.validate .text
    pure (.specialistHandoffRecorded { p with })
  | "specialist.closed" => do
    let p ← unpack .specialistClosed payload
    pure (.specialistClosed p.specialistId p.actionEpoch p.runtimeGeneration)
  | "artifact.registered" => do
    let p ← unpack .artifactRegistered payload
    decodeErr p.artifact.validate .artifact
    pure (.artifactRegistered p.artifact)
  | "resource.registered" => do
    let p ← unpack .resourceRegistered payload
    decodeErr p.resource.validateForRegistration .resource
    pure (.resourceRegistered p.resource)
  | "resource.release_begun" => do
    let p ← unpack .resourceReleaseBegun payload
    pure (.resourceReleaseBegun p.resourceId p.runtimeGeneration)
  | "resource.released" => do
    let p ← unpack .resourceReleased payload
    pure (.resourceReleased p.resourceId p.runtimeGeneration)
  | "terminal.renamed" => do
    let p ← unpack .terminalRenamed payload
    decodeErr (validateTerminalTitle p.title) .resource
    pure (.terminalRenamed p.resourceId p.title)
  | "terminal.cwd_reported" => do
    let p ← unpack .terminalCwdReported payload
    failIf (¬ Externals.isAbsolute p.cwd) (.eventDecode (.text "terminal cwd must be absolute"))
    pure (.terminalCwdReported p.resourceId p.cwd)
  | "terminal.exited" => do
    let p ← unpack .terminalExited payload
    pure (.terminalExited p.resourceId p.code p.summary)
  | "terminal.activity" => do
    let p ← unpack .terminalActivity payload
    pure (.terminalActivity p.resourceId)
  | "task.terminal_strip_set" => do
    let p ← unpack .taskTerminalStripSet payload
    pure (.taskTerminalStripSet p.strip)
  | "host.close_begun" => do
    let p ← unpack .hostCloseBegun payload
    pure (.hostCloseBegun p.operationId p.actionEpoch p.inspectionId)
  | "host.cleanup_branch_completed" => do
    let p ← unpack .hostCleanupBranchCompleted payload
    pure (.hostCleanupBranchCompleted p.operationId p.actionEpoch p.branch p.outcome)
  | "operation.accepted" => do
    let fact ← unpack .operationAccepted payload
    pure (.operationAccepted fact)
  | "operation.settled" => do
    let fact ← unpack .operationSettled payload
    pure (.operationSettled fact)
  | "operation.failed" => do
    let fact ← unpack .operationFailed payload
    pure (.operationFailed fact)
  | "operation.cancelled" => do
    let fact ← unpack .operationCancelled payload
    pure (.operationCancelled fact)
  | "operation.uncertain" => do
    let fact ← unpack .operationUncertain payload
    pure (.operationUncertain fact)
  | "provider_input.accepted" => do
    let p ← unpack .providerInputAccepted payload
    pure (.providerInputAccepted { p with })
  | "provider_input.question_presented" => do
    let p ← unpack .providerQuestionPresented payload
    pure (.providerQuestionPresented { p with })
  | "provider_input.approval_presented" => do
    let p ← unpack .providerApprovalPresented payload
    pure (.providerApprovalPresented { p with })
  | "provider_input.wait_settled" => do
    let p ← unpack .providerWaitSettled payload
    pure (.providerWaitSettled p.fence)
  | "provider_input.delivered" => do
    let p ← unpack .providerInputDelivered payload
    pure (.providerInputDelivered { p with })
  | "browser.fact" => do
    let fact ← unpack .browserFact payload
    pure (.browser fact)
  | "event.purged" => do
    let _ ← unpack .taskUnit payload
    pure .purged
  | other => .error (.codecMismatch (.text s!"unknown event_type column '{other}'"))

/-- What `decode_stored_event` checks of a provider event (L2509-2627). -/
def checkProviderEvent : Event → Except StoredEventError Unit
  | .providerInputAccepted fact => do
    failIf fact.delivery.isDelivered
      (.codecMismatch (.text "provider input accepted event cannot claim delivery"))
    fenceErr (validateProviderFence { fact with
      commandId := some fact.commandId, taskId := none, providerKind := some fact.providerKind,
      operationId := some fact.operationId } (some fact.action) (some fact.wait) none)
  | .providerQuestionPresented fact =>
    fenceErr (validateProviderFence { fact with
      commandId := none, taskId := none, providerKind := some fact.providerKind,
      providerSessionId := some fact.providerSessionId, operationId := none,
      questionId := some fact.questionId, approvalId := none } none none none)
  | .providerApprovalPresented fact =>
    fenceErr (validateProviderFence { fact with
      commandId := none, taskId := none, providerKind := some fact.providerKind,
      providerSessionId := some fact.providerSessionId, operationId := none, questionId := none,
      approvalId := some fact.approvalId } none none none)
  | .providerWaitSettled fence => fenceErr (validateProviderFence fence.identity none none none)
  | .providerInputDelivered fact =>
    fenceErr (validateProviderFence { fact with
      commandId := some fact.commandId, taskId := none, providerKind := some fact.providerKind,
      operationId := some fact.operationId } none none none)
  | _ => .ok ()

/-- `decode_stored_event`, L2161-2656 -/
def decodeStoredEvent (eventType : String) (schemaVersion : ℤ) (payload : List UInt8) :
    Except StoredEventError Event := do
  failIf (schemaVersion ≠ eventSchemaVersion)
    (.codecMismatch (.text s!"schema_version column {schemaVersion} != {eventSchemaVersion}"))
  failIf (isProviderInputType eventType ∧ payload.length > maxProviderEventPayloadBytes)
    (.codecMismatch (.text s!"provider event payload exceeds {maxProviderEventPayloadBytes} bytes"))
  let event ← decodeEventType eventType payload
  failIf (event.eventType ≠ eventType) (.codecMismatch (.text
      s!"decoded type '{event.eventType}' disagrees with column '{eventType}'"))
  checkProviderEvent event
  pure event

/-! ## The decoder -/

variable {e : Event} {bytes : List UInt8}

theorem decodeEventType_of_unpack (hvalid : e.Valid)
    (h : unpack e.storedPayload.1 bytes = .ok e.storedPayload.2) :
    decodeEventType e.eventType bytes = .ok e := by
  cases e <;> simp only [Event.storedPayload] at h <;> simp only [Event.eventType] <;>
    unfold decodeEventType
  case taskCreated task connectivity attention activity reviewReadiness =>
    have htask : task.validateForCreate = .ok () := hvalid
    simp only [h, ok_bind, htask]
    rfl
  case taskRenamed title =>
    have htitle := TaskFacts.canonicalizeTitle_eq_self.mpr hvalid
    simp only [h, ok_bind, htitle]
    rfl
  case agentSessionRegistered agent =>
    have hagent : agent.validateForRegistration = .ok () := hvalid
    simp only [h, ok_bind, hagent]
    rfl
  case specialistRequested fact =>
    have hval := toEvent_specialistRequested.mpr hvalid
    simp only [ofEvent, toEvent, ok_iff] at hval
    simp only [h, ok_bind, hval.1]
    rfl
  case primaryPromoted previous promoted actionEpoch runtimeGeneration =>
    have hval : PrimaryPromotedPayload.validate
        ⟨previous, promoted, actionEpoch, runtimeGeneration⟩ = .ok () := failIf_eq_ok.mpr hvalid
    simp only [h, ok_bind, hval]
    rfl
  case specialistHandoffRecorded fact =>
    have hval := toEvent_specialistHandoffRecorded.mpr hvalid
    simp only [ofEvent, toEvent, ok_iff] at hval
    simp only [h, ok_bind, hval.1]
    rfl
  case artifactRegistered artifact =>
    have hartifact : artifact.validate = .ok () := hvalid
    simp only [h, ok_bind, hartifact]
    rfl
  case resourceRegistered resource =>
    have hres : resource.validateForRegistration = .ok () := by
      simp only [ResourceFacts.validateForRegistration, ok_iff]
      exact hvalid
    simp only [h, ok_bind, hres]
    rfl
  case terminalRenamed resourceId title =>
    have htitle : validateTerminalTitle title = .ok () := hvalid
    simp only [h, ok_bind, htitle]
    rfl
  case terminalCwdReported resourceId cwd =>
    have hcwd : Externals.isAbsolute cwd = true := hvalid
    simp only [h, ok_bind, hcwd]
    rfl
  all_goals
    simp only [h, ok_bind]
    rfl

omit [RmpSerde] in
theorem checkProviderEvent_of_valid (hvalid : e.Valid) : checkProviderEvent e = .ok () := by
  cases e with
  | providerInputAccepted fact =>
    have hcheck := toEvent_providerInputAccepted.mpr hvalid
    simp only [ofEvent, toEvent, ok_iff] at hcheck
    simp only [checkProviderEvent, ok_iff]
    exact ⟨hcheck.1, fenceErr_eq_ok.mpr hcheck.2.1⟩
  | providerQuestionPresented fact =>
    have hcheck := @toEvent_providerQuestionPresented _ fact
    simp only [ofEvent, toEvent, ok_iff] at hcheck
    exact fenceErr_eq_ok.mpr hcheck.1
  | providerApprovalPresented fact =>
    have hcheck := @toEvent_providerApprovalPresented _ fact
    simp only [ofEvent, toEvent, ok_iff] at hcheck
    exact fenceErr_eq_ok.mpr hcheck.1
  | providerWaitSettled => exact fenceErr_eq_ok.mpr (validateProviderFence_bare.mpr hvalid)
  | providerInputDelivered fact =>
    have hcheck := toEvent_providerInputDelivered.mpr hvalid
    simp only [ofEvent, toEvent, ok_iff] at hcheck
    exact fenceErr_eq_ok.mpr hcheck.1
  | _ => rfl

theorem decodeStoredEvent_of_unpack (hvalid : e.Valid)
    (hsize : isProviderInputType e.eventType = true → bytes.length ≤ maxProviderEventPayloadBytes)
    (h : unpack e.storedPayload.1 bytes = .ok e.storedPayload.2) :
    decodeStoredEvent e.eventType eventSchemaVersion bytes = .ok e := by
  simp only [decodeStoredEvent, decodeEventType_of_unpack hvalid h, ok_iff, true_and]
  refine ⟨fun hlong => ?_, e, rfl, rfl, checkProviderEvent_of_valid hvalid, rfl⟩
  exact absurd hlong.2 (not_lt.mpr (hsize hlong.1))

end Codec

/-! ## Sizes

Upper bounds for the MessagePack of the payloads that the store bounds. -/

/-- The largest header of an array, a map or a text. -/
def packedHeader : ℕ := 5

/-- An id is its 16 bytes. -/
def packedId : ℕ := 18

def packedInt : ℕ := 9

/-- A name of the wire format, alone or as the key of a variant. -/
def packedName : ℕ := 40

def packedText (text : String) : ℕ := packedHeader + text.utf8ByteSize

def packedSession : Option ProviderSessionId → ℕ
  | some session => packedText session.value
  | none => 1

def ProviderImageAttachmentWire.packedSize (image : ProviderImageAttachmentWire) : ℕ :=
  packedHeader + packedText image.path + packedText image.sha256 + packedInt

def ProviderInputActionWire.packedSize : ProviderInputActionWire → ℕ
  | .sendNow text _ images =>
    packedName + packedHeader + packedText text + 1 + packedHeader +
      (images.map ProviderImageAttachmentWire.packedSize).sum
  | .steerCurrentTurn text | .queueFollowUp text | .terminalInput text =>
    packedName + packedHeader + packedText text
  | .answerQuestion _ answer => packedName + packedHeader + packedId + packedText answer
  | .resolveApproval .. => packedName + packedHeader + packedId + 1
  | .stopTurn => packedName

/-- The size of a provider payload; the store bounds no other. -/
def PayloadType.packedSize : (t : PayloadType) → t.Wire → Option ℕ
  | .providerInputAccepted => fun wire =>
    some (packedHeader + 7 * packedId + 2 * packedInt + 3 * packedName + 1 +
      packedSession wire.providerSessionId + wire.action.packedSize)
  | .providerQuestionPresented => fun wire =>
    some (packedHeader + 3 * packedId + 2 * packedInt + packedName +
      packedSession (some wire.providerSessionId))
  | .providerApprovalPresented => fun wire =>
    some (packedHeader + 3 * packedId + 2 * packedInt + packedName +
      packedSession (some wire.providerSessionId))
  | .providerWaitSettled => fun wire =>
    some (2 * packedHeader + 7 * packedId + 2 * packedInt + packedName +
      packedSession wire.fence.providerSessionId)
  | .providerInputDelivered => fun wire =>
    some (packedHeader + 7 * packedId + 2 * packedInt + packedName +
      packedSession wire.providerSessionId)
  | _ => fun _ => none

theorem packedSession_le (session) :
    packedSession session ≤ packedHeader + maxProviderSessionIdBytes := by
  cases session with
  | none => decide
  | some session =>
    have hcheck := session.checked
    simp only [providerSessionIdOk, Bool.and_eq_true, decide_eq_true_eq] at hcheck
    have hbound : session.value.utf8ByteSize ≤ maxProviderSessionIdBytes := hcheck.1.2
    show packedHeader + session.value.utf8ByteSize ≤ packedHeader + maxProviderSessionIdBytes
    omega

section Size

variable [Externals]

theorem ProviderInputAction.packedSize_wire_le {action : ProviderInputAction}
    {questionId approvalId} (h : validateActionNestedIds action questionId approvalId = .ok ()) :
    action.wire.packedSize ≤ 100000 := by
  have htextBound : ∀ text, validateProviderText text = .ok () →
      packedText text ≤ packedHeader + maxProviderInputTextBytes := by
    intro text htext
    simp only [validateProviderText, ok_iff] at htext
    unfold packedText
    omega
  simp only [packedHeader, maxProviderInputTextBytes] at htextBound
  cases action with
  | sendNow text wait images =>
    simp only [validateActionNestedIds, validateSendNowPayload, ok_iff, forM_eq_ok] at h
    obtain ⟨⟨hcount, himages, htext⟩, -⟩ := h
    have hlen : text.utf8ByteSize ≤ maxProviderInputTextBytes := by
      split_ifs at htext with hnil
      · rw [hnil]
        decide
      · exact not_lt.mp (failIf_eq_ok.mp htext)
    have himage : ∀ size ∈ (images.map ProviderImageAttachment.wire).map
        ProviderImageAttachmentWire.packedSize, size ≤ 4184 := by
      intro size hsize
      rw [List.map_map, List.mem_map] at hsize
      obtain ⟨image, hmem, rfl⟩ := hsize
      have hcheck := himages image hmem
      simp only [validateProviderImage, validateProviderImagePath, ok_iff, not_or] at hcheck
      obtain ⟨⟨⟨-, hpath⟩, -⟩, -⟩ := hcheck
      have hdigest : (hexOfDigest image.sha256).utf8ByteSize = 64 := by
        have hdec := decodeSha256Hex_hexOfDigest image.sha256
        simp only [decodeSha256Hex, ok_iff, not_or] at hdec
        exact hdec.1.1
      simp only [Function.comp_apply, ProviderImageAttachmentWire.packedSize,
        ProviderImageAttachment.wire, packedText, packedHeader, packedInt, hdigest,
        maxProviderImagePathBytes] at hpath ⊢
      omega
    have hsum := List.sum_le_card_nsmul _ 4184 himage
    simp only [List.length_map, smul_eq_mul] at hsum
    simp only [maxProviderImageAttachments, maxProviderInputTextBytes] at hcount hlen
    simp only [wire, packedSize, packedText, packedHeader, packedName]
    omega
  | steerCurrentTurn text | queueFollowUp text | terminalInput text =>
    simp only [validateActionNestedIds, ok_iff] at h
    have hbound := htextBound text h.1
    simp only [wire, packedSize, packedHeader, packedName]
    omega
  | answerQuestion nested answer =>
    simp only [validateActionNestedIds, ok_iff] at h
    have hbound := htextBound answer h.1
    simp only [wire, packedSize, packedHeader, packedName, packedId]
    omega
  | resolveApproval nested allow =>
    simp only [wire, packedSize, packedHeader, packedName, packedId]
    omega
  | stopTurn =>
    simp only [wire, packedSize, packedName]
    omega

theorem exists_packedSize {e : Event} (hvalid : e.Valid)
    (htype : isProviderInputType e.eventType = true) {wire}
    (hwire : e.storedPayload.1.serialize e.storedPayload.2 = .ok wire) :
    ∃ size ∈ e.storedPayload.1.packedSize wire, size ≤ maxProviderEventPayloadBytes := by
  cases e with
  | providerInputAccepted fact =>
    cases hwire
    have hact := packedSize_wire_le hvalid.nested
    have hsess := packedSession_le fact.providerSessionId
    refine ⟨_, rfl, ?_⟩
    simp only [Event.storedPayload, packedHeader, packedId, packedInt, packedName,
      maxProviderEventPayloadBytes, maxProviderSessionIdBytes] at hsess ⊢
    omega
  | providerQuestionPresented fact | providerApprovalPresented fact =>
    have hsess := packedSession_le (some fact.providerSessionId)
    cases hwire
    refine ⟨_, rfl, ?_⟩
    simp only [Event.storedPayload, packedHeader, packedId, packedInt, packedName,
      maxProviderEventPayloadBytes, maxProviderSessionIdBytes] at hsess ⊢
    omega
  | providerWaitSettled fence | providerInputDelivered fence =>
    have hsess := packedSession_le fence.providerSessionId
    cases hwire
    refine ⟨_, rfl, ?_⟩
    simp only [Event.storedPayload, packedHeader, packedId, packedInt, packedName,
      maxProviderEventPayloadBytes, maxProviderSessionIdBytes] at hsess ⊢
    omega
  | _ =>
    simp only [Event.eventType] at htype
    exact absurd htype (by decide +kernel)

end Size

/-! ## Round trip -/

/-- MessagePack is faithful and compact on a wire value. -/
structure RmpSerde.Packs [RmpSerde] (t : PayloadType) (wire : t.Wire) : Prop where
  faithful : RmpSerde.fromSlice t (RmpSerde.toVec t wire) = .ok wire
  compact : ∀ size ∈ t.packedSize wire, (RmpSerde.toVec t wire).length ≤ size

section RoundTrip

variable [Externals] [RmpSerde] {e : Event} {bytes : List UInt8}

/-- MessagePack is faithful and compact on what is written of the event. -/
def Event.Packs (e : Event) : Prop :=
  ∀ wire, e.storedPayload.1.serialize e.storedPayload.2 = .ok wire →
    RmpSerde.Packs e.storedPayload.1 wire

omit [RmpSerde] in
theorem Event.valid_durable (h : e.Valid) : e.durable.Valid := by
  cases e with
  | taskCreated task connectivity attention activity reviewReadiness =>
    obtain ⟨hbody, hstate⟩ := TaskFacts.validateForCreate_eq_ok.mp h
    exact TaskFacts.validateForCreate_eq_ok.mpr
      ⟨TaskFacts.validateContent_durable hbody, hstate⟩
  | specialistRequested fact =>
    have hfact : fact.Valid := h
    exact { hfact with workspace := WorkspaceRef.validate_durable hfact.workspace }
  | _ => exact h

omit [Externals] [RmpSerde] in
theorem Event.eventType_durable (e : Event) : e.durable.eventType = e.eventType := by
  cases e <;> rfl

omit [Externals] [RmpSerde] in
theorem WorkspaceRef.storable_of_serialize {workspace : WorkspaceRef} {wire}
    (h : workspace.serialize = .ok wire) : workspace.Storable := by
  cases workspace <;> first | exact trivial | simp [WorkspaceRef.serialize] at h

omit [RmpSerde] in
theorem Event.storable_of_serialize {wire : e.storedPayload.1.Wire}
    (h : e.storedPayload.1.serialize e.storedPayload.2 = .ok wire) : e.Storable := by
  cases e with
  | taskCreated task connectivity attention activity reviewReadiness =>
    obtain ⟨written, htask, -⟩ := bind_eq_ok.mp h
    obtain ⟨workspace, hws, -⟩ := bind_eq_ok.mp htask
    exact WorkspaceRef.storable_of_serialize hws
  | specialistRequested fact =>
    obtain ⟨_, -, hrest⟩ := bind_eq_ok.mp h
    obtain ⟨workspace, hws, -⟩ := bind_eq_ok.mp hrest
    exact WorkspaceRef.storable_of_serialize hws
  | _ => trivial

theorem encodeEventPayload_eq_ok :
    encodeEventPayload e = .ok bytes ↔
      (∃ wire, e.storedPayload.1.serialize e.storedPayload.2 = .ok wire ∧
        bytes = RmpSerde.toVec e.storedPayload.1 wire) ∧
      (isProviderInputType e.eventType = true → bytes.length ≤ maxProviderEventPayloadBytes) := by
  simp only [encodeEventPayload, pack, ok_iff, not_and, not_lt, gt_iff_lt]
  constructor
  · rintro ⟨_, hwire, hsize, rfl⟩
    exact ⟨hwire, hsize⟩
  · rintro ⟨hwire, hsize⟩
    exact ⟨bytes, hwire, hsize, rfl⟩

theorem decode_encode (hvalid : e.Valid) (hcheck : e.Checked) (hpacks : e.Packs) :
    ((∃ bytes, encodeEventPayload e = .ok bytes) ↔ e.Storable) ∧
      ∀ bytes, encodeEventPayload e = .ok bytes →
        decodeStoredEvent e.eventType eventSchemaVersion bytes = .ok e.durable := by
  refine ⟨⟨?_, fun hstorable => ?_⟩, fun bytes hbytes => ?_⟩
  · rintro ⟨bytes, hbytes⟩
    obtain ⟨⟨wire, hwire, -⟩, -⟩ := encodeEventPayload_eq_ok.mp hbytes
    exact Event.storable_of_serialize hwire
  · obtain ⟨_, -, wire, hwire, -⟩ := Event.reads_durable hvalid hcheck hstorable
    refine ⟨_, encodeEventPayload_eq_ok.mpr ⟨⟨wire, hwire, rfl⟩, fun htype => ?_⟩⟩
    obtain ⟨size, hsize, hbound⟩ := exists_packedSize hvalid htype hwire
    exact ((hpacks wire hwire).compact size hsize).trans hbound
  · obtain ⟨⟨wire, hwire, rfl⟩, hsize⟩ := encodeEventPayload_eq_ok.mp hbytes
    obtain ⟨q, hq, wire', hwire', hread⟩ :=
      Event.reads_durable hvalid hcheck (Event.storable_of_serialize hwire)
    rw [hwire] at hwire'
    cases hwire'
    have hunpack : unpack e.storedPayload.1 (RmpSerde.toVec e.storedPayload.1 wire) = .ok q := by
      simp only [unpack, (hpacks wire hwire).faithful, ok_iff]
      exact ⟨wire, rfl, hread⟩
    rw [← Event.eventType_durable]
    apply decodeStoredEvent_of_unpack (Event.valid_durable hvalid)
    · rwa [Event.eventType_durable]
    · rw [hq]
      exact hunpack

end RoundTrip

end DevManager
