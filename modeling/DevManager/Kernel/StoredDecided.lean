import DevManager.Kernel.NativeBrowser
import DevManager.Kernel.Sessions
import DevManager.Kernel.StoredEvent
import DevManager.Kernel.Terminals

/-!
# Stored events are those that were appended

What the host appends to the `events` table: the events that a command is decided as, the host
facts, and the operation facts that the command bus makes with their constructors.

* `decide_sound`: what a command is decided as passes the checks of the codec.
-/

namespace DevManager

open Event

section Decided

variable [Externals] {s : TaskSnapshot} {envelope : CommandEnvelope} {operationId : OperationId}
  {events : List Event} {e : Event}

/-- The event passes what the serializers and the deserializers check. -/
def Event.Sound (e : Event) : Prop := e.Valid ∧ e.Checked

/-- The events of which nothing is checked. -/
def Event.isUnchecked : Event → Bool
  | .taskAttentionSet _ | .taskCloseBegun _ | .taskSettled | .taskReopened | .taskArchived
  | .taskDeleted | .agentProviderSessionBound .. | .agentProviderSessionAbandoned ..
  | .primaryAgentSet _ | .unstartedPrimaryProviderRebound .. | .specialistClosed ..
  | .resourceReleaseBegun .. | .resourceReleased .. | .terminalExited .. | .terminalActivity _
  | .taskTerminalStripSet _ | .providerQuestionPresented _ | .providerApprovalPresented _ => true
  | _ => false

theorem sound_of_isUnchecked (h : e.isUnchecked = true) : e.Sound := by
  cases e <;> first | exact ⟨trivial, trivial⟩ | cases h

/-! ## What a command is decided as -/

theorem sound_singleton (hvalid : e.Valid) (hcheck : e.Checked) : ∀ p ∈ [e], p.Sound := by
  intro p hp
  rw [List.mem_singleton.mp hp]
  exact ⟨hvalid, hcheck⟩

theorem createTask_sound {intent : CreateTaskIntent} {snapshot}
    (h : decideCreateTask snapshot envelope intent = .ok events) : ∀ e ∈ events, e.Sound := by
  simp only [decideCreateTask, ok_iff] at h
  obtain ⟨-, -, -, -, description, -, hvalid, rfl⟩ := h
  exact sound_singleton hvalid trivial

theorem requestSpecialist_sound {intent : RequestSpecialistIntent}
    (h : decideRequestSpecialist (some s) envelope intent = .ok events) :
      ∀ e ∈ events, e.Sound := by
  obtain ⟨-, -, purpose, hadmits, rfl⟩ := decideRequestSpecialist_ok h
  have hvalid : (intent.requested purpose).Valid := {
    purpose := Canonical.isBoundedCanonical_of_boundedCanonical hadmits.purposeOk
    agent := rfl
    requester := Ne.symm hadmits.distinct
    role := by
      show intent.specialist.role.isSpecialist = true
      simp [hadmits.role]
    generation := hadmits.generation
    permission := hadmits.permission
    registration := hadmits.valid
    workspace := hadmits.workspace }
  exact sound_singleton hvalid trivial

theorem acceptSpecialistHandoff_sound {intent : AcceptSpecialistHandoffIntent}
    (h : decideAcceptSpecialistHandoff (some s) envelope intent = .ok events) :
    ∀ e ∈ events, e.Sound := by
  obtain ⟨-, -, fact, rfl, hraw, -, -, -, -, hkind, hartifact, hdigest, body, hbody, hbound⟩ :=
    decideAcceptSpecialistHandoff_ok h
  have hvalid : fact.Valid := {
    artifact := hartifact
    kind := hkind
    digest := hdigest
    inline := ⟨body, hbody, not_lt.mp fun hlong => hbound (.inr hlong)⟩
    result := fun hstruct => absurd (hraw.symm.trans hstruct) (by decide) }
  exact sound_singleton hvalid trivial

theorem submitProviderInput_sound {intent : SubmitProviderInputIntent}
    (h : decideSubmitProviderInput (some s) envelope operationId intent = .ok events) :
    ∀ e ∈ events, e.Sound := by
  obtain ⟨-, -, hnested, agent, -, -, -, hsess, -, -, -, -, rfl⟩ :=
    decideSubmitProviderInput_eq_ok.mp h
  have hvalid : (intent.accepted envelope operationId agent).Valid := ⟨rfl, hsess, hnested, rfl⟩
  exact sound_singleton hvalid trivial

theorem browserFacts_sound {b : BrowserBook} {request accepted} (hb : b.ReceiptsBacked)
    (h : b.planAdmit request = .ok accepted) {commandId} {actionEpoch : ℕ} :
    ∀ fact ∈ (accepted.bindCommand commandId actionEpoch).facts, (browser fact).Sound :=
  fun fact hfact => ⟨trivial, (BrowserBook.planAdmit_backed hb h _ _ fact hfact).checked⟩

theorem openTaskBrowser_sound {intent : OpenTaskBrowserIntent} (hs : s.browser.ReceiptsBacked)
    (h : decideOpenTaskBrowser (some s) envelope intent = .ok events) : ∀ e ∈ events, e.Sound := by
  obtain ⟨contextId, created, opened, mid, book, hdec, rfl⟩ := decideOpen_decided h
  obtain ⟨first, hfst, rfl, hmid⟩ := planOpenRequest_ok hdec.create
  obtain ⟨second, hsnd, rfl, -⟩ := planOpenRequest_ok hdec.opening
  obtain ⟨hloop, -⟩ := BrowserBook.applyFacts_ok hmid
  have hmidBacked : mid.ReceiptsBacked :=
    hs.foldlM (BrowserBook.planAdmit_backed hs hfst _ _) hloop
  intro e he
  simp only [List.mem_append, List.mem_map, List.mem_singleton] at he
  rcases he with ⟨fact, hfact | hfact, rfl⟩ | rfl
  · exact browserFacts_sound hs hfst fact hfact
  · exact browserFacts_sound hmidBacked hsnd fact hfact
  · exact ⟨⟨hdec.valid, hdec.owner, hdec.active⟩, trivial⟩

theorem decide_sound (hs : s.browser.ReceiptsBacked)
    (h : Command.decide (some s) envelope operationId = .ok events) : ∀ e ∈ events, e.Sound := by
  unfold Command.decide at h
  cases hc : envelope.command <;> simp only [hc, reduceCtorEq] at h
  case createTask intent => exact createTask_sound h
  case requestSpecialist intent => exact requestSpecialist_sound h
  case acceptSpecialistHandoff intent => exact acceptSpecialistHandoff_sound h
  case submitProviderInput intent => exact submitProviderInput_sound h
  case openTaskBrowser intent => exact openTaskBrowser_sound hs h
  case browser request =>
    obtain ⟨-, -, -, accepted, hplan, rfl⟩ := decideBrowser_eq_ok.mp h
    intro e he
    obtain ⟨fact, hfact, rfl⟩ := List.mem_map.mp he
    exact browserFacts_sound hs hplan fact hfact
  case renameTask title =>
    obtain ⟨-, -, -, canonical, hcanonical, rfl⟩ := decideRenameTask_eq_ok.mp h
    have hsame := TaskFacts.canonicalizeTitle_canonical hcanonical
    exact sound_singleton (TaskFacts.canonicalizeTitle_eq_self.mp hsame) trivial
  case registerAgentSession agent =>
    obtain ⟨-, -, -, hvalid, -, -, -, rfl⟩ := decideRegisterAgentSession_eq_ok.mp h
    exact sound_singleton hvalid trivial
  case registerArtifact artifact =>
    obtain ⟨-, -, -, hvalid, -, rfl⟩ := decideRegisterArtifact_eq_ok.mp h
    exact sound_singleton hvalid trivial
  case registerResource resource =>
    obtain ⟨-, -, howner, -, hvalid, hactive, -, rfl⟩ := decideRegisterResource_eq_ok.mp h
    exact sound_singleton ⟨hvalid, howner, hactive⟩ trivial
  case openShellTerminal resource =>
    obtain ⟨-, -, hvalid, -, -, -, -, rfl⟩ := decideOpenShellTerminal_eq_ok.mp h
    simp only [ResourceFacts.validateForRegistration, ok_iff] at hvalid
    exact sound_singleton hvalid trivial
  case renameTerminal id title =>
    obtain ⟨-, -, -, htitle, rfl⟩ := decideRenameTerminal_eq_ok.mp h
    exact sound_singleton htitle trivial
  case promotePrimary intent =>
    obtain ⟨-, -, candidate, hcan, -, previous, -, before, hpre, hroles, rfl⟩ :=
      decidePromotePrimary_eq_ok.mp h
    refine sound_singleton (fun heq => ?_) trivial
    rw [heq, hcan, Option.some.injEq] at hpre
    rw [← hpre, hroles.1] at hroles
    exact absurd hroles.2.2.1 (by decide)
  case settleProviderWait fence =>
    obtain ⟨-, -, -, hwell, -, -, -, -, -, -, -, -, -, -, -, rfl⟩ :=
      decideSettleProviderWait_eq_ok.mp h
    exact sound_singleton hwell trivial
  all_goals
    -- nothing is checked of the other events
    have hfree : events.all isUnchecked = true := by grind [isUnchecked]
    exact fun e he => sound_of_isUnchecked (List.all_eq_true.mp hfree e he)

/-! ## Host facts and operation facts -/

/-- The facts about operations; they are host facts that only the command bus makes. -/
def Event.isOperationFact : Event → Bool
  | .operationAccepted _ | .operationSettled _ | .operationFailed _ | .operationCancelled _
  | .operationUncertain _ => true
  | _ => false

/-- A reported working directory is absolute: `decide_host_fact` records no other
(`terminal_facts.rs:69-78`). -/
def Event.CwdAbsolute : Event → Prop
  | .terminalCwdReported _ cwd => Externals.isAbsolute cwd = true
  | _ => True

theorem host_sound {s' event}
    (hfact : event.payload.isHostFact = true) (hop : event.payload.isOperationFact = false)
    (hcwd : event.payload.CwdAbsolute) (h : apply (some s) event = .ok s') :
      event.payload.Sound := by
  obtain ⟨-, -, mid, hmid, -⟩ := apply_some_eq_ok.mp h
  cases hp : event.payload <;> rw [hp] at hfact hop hcwd hmid <;>
    simp only [isHostFact, isOperationFact, Bool.false_eq_true, reduceCtorEq] at hfact hop
  case terminalCwdReported id cwd => exact ⟨hcwd, trivial⟩
  case providerInputDelivered fact =>
    obtain ⟨⟨agent, -, hwell, -⟩, -⟩ := applyProviderInputDelivered_eq_ok.mp hmid
    obtain ⟨kind, hkind, hsess⟩ := hwell.kind
    cases hkind
    exact ⟨⟨hsess, hwell.nested⟩, trivial⟩
  all_goals exact sound_of_isUnchecked rfl

/-- The operation facts that the command bus makes: each by a constructor of its fact. -/
inductive OperationFact : Event → Prop
  | accepted {commandId : CommandId} {operationId : OperationId} {acceptedAtMs : ℤ}
      {actionEpoch : Option ℕ} {resourceId : Option ResourceId} {generation : Option ℕ}
      {fact : OperationAcceptedFact}
      (hnew : OperationAcceptedFact.new commandId operationId acceptedAtMs actionEpoch resourceId
        generation = .ok fact) : OperationFact (.operationAccepted fact)
  | settled {commandId : CommandId} {operationId : OperationId} {settledAtMs : ℤ}
      {resultEventIds : List EventId} {actionEpoch : Option ℕ} {resourceId : Option ResourceId}
      {generation : Option ℕ} {source : OutcomeSource} {fact : OperationSettledFact}
      (hnew : OperationSettledFact.withSource commandId operationId settledAtMs resultEventIds
        actionEpoch resourceId generation source = .ok fact) :
          OperationFact (.operationSettled fact)
  | failed {commandId : CommandId} {operationId : OperationId} {settledAtMs : ℤ}
      {code : OperationErrorCode} {actionEpoch : Option ℕ} {resourceId : Option ResourceId}
      {generation : Option ℕ} {source : OutcomeSource} {fact : OperationFailedFact}
      (hnew : OperationFailedFact.withSource commandId operationId settledAtMs code actionEpoch
        resourceId generation source = .ok fact) : OperationFact (.operationFailed fact)
  | cancelled {commandId : CommandId} {operationId : OperationId} {settledAtMs : ℤ}
      {reason : CancellationReason} {actionEpoch : Option ℕ} {resourceId : Option ResourceId}
      {generation : Option ℕ} {fact : OperationCancelledFact}
      (hnew : OperationCancelledFact.new commandId operationId settledAtMs reason actionEpoch
        resourceId generation = .ok fact) : OperationFact (.operationCancelled fact)
  | uncertain {commandId : CommandId} {operationId : OperationId} {observedAtMs : ℤ}
      {code : OperationUncertaintyCode} {actionEpoch : Option ℕ} {resourceId : Option ResourceId}
      {generation : Option ℕ} {fact : OperationUncertainFact}
      (hnew : OperationUncertainFact.new commandId operationId observedAtMs code actionEpoch
        resourceId generation = .ok fact) : OperationFact (.operationUncertain fact)

theorem OperationFact.sound (h : OperationFact e) : e.Sound := by
  cases h with
  | accepted hnew =>
    simp only [OperationAcceptedFact.new, ok_iff] at hnew
    obtain ⟨hfence, rfl⟩ := hnew
    exact ⟨trivial, hfence⟩
  | settled hnew =>
    simp only [OperationSettledFact.withSource, ok_iff] at hnew
    obtain ⟨hfence, hsrc, rfl⟩ := hnew
    refine ⟨trivial, ?_⟩
    simp only [Event.Checked, OperationSettledFact.validate, ok_iff]
    exact ⟨hfence, hsrc⟩
  | failed hnew =>
    simp only [OperationFailedFact.withSource, ok_iff] at hnew
    obtain ⟨hfence, hsrc, rfl⟩ := hnew
    refine ⟨trivial, ?_⟩
    simp only [Event.Checked, OperationFailedFact.validate, ok_iff]
    exact ⟨hfence, hsrc⟩
  | cancelled hnew =>
    simp only [OperationCancelledFact.new, ok_iff] at hnew
    obtain ⟨hfence, rfl⟩ := hnew
    exact ⟨trivial, hfence⟩
  | uncertain hnew =>
    simp only [OperationUncertainFact.new, ok_iff] at hnew
    obtain ⟨hfence, rfl⟩ := hnew
    exact ⟨trivial, hfence⟩

/-! ## What is appended -/

/-- The host appends the event: a command is decided as it, without a snapshot or on a reachable
one; or it is a host fact that `apply` accepts on a reachable snapshot; or it is an operation
fact. -/
inductive Appended : Event → Prop
  | decided {snapshot : Option TaskSnapshot} {envelope : CommandEnvelope}
      {operationId : OperationId} {events : List Event} {e : Event}
      (hs : ∀ s ∈ snapshot, kernel.Reachable s)
      (hdec : Command.decide snapshot envelope operationId = .ok events) (he : e ∈ events) :
      Appended e
  | host {s s' : TaskSnapshot} {event : DomainEvent} (hs : kernel.Reachable s)
      (hfact : event.payload.isHostFact = true) (hop : event.payload.isOperationFact = false)
      (hcwd : event.payload.CwdAbsolute) (happly : apply (some s) event = .ok s') :
      Appended event.payload
  | operation {e : Event} (hfact : OperationFact e) : Appended e

theorem decide_none (h : Command.decide none envelope operationId = .ok events) :
    ∃ intent, decideCreateTask none envelope intent = .ok events := by
  unfold Command.decide at h
  cases hc : envelope.command <;> simp only [hc, reduceCtorEq] at h
  case createTask intent => exact ⟨intent, h⟩
  -- every other command needs the snapshot of its task first
  all_goals cases h

theorem Appended.sound (h : Appended e) : e.Sound := by
  cases h with
  | @decided snapshot envelope operationId events _ hs hdec he =>
    cases snapshot with
    | none =>
      obtain ⟨intent, hmake⟩ := decide_none hdec
      exact createTask_sound hmake e he
    | some => exact decide_sound (receiptsBacked_of_reachable (hs _ rfl)) hdec e he
  | host hs hfact hop hcwd happly => exact host_sound hfact hop hcwd happly
  | operation hfact => exact hfact.sound

/-- Of what is appended, the encoder refuses exactly a workspace named by its path alone, and what
it writes is decoded to the durable form of the event. -/
theorem appended_decoded [RmpSerde] (h : Appended e) (hpacks : e.Packs) :
    ((∃ bytes, encodeEventPayload e = .ok bytes) ↔ e.Storable) ∧
      ∀ bytes, encodeEventPayload e = .ok bytes →
        decodeStoredEvent e.eventType eventSchemaVersion bytes = .ok e.durable :=
  decode_encode h.sound.1 h.sound.2 hpacks

theorem decode_relative_cwd [RmpSerde] {id cwd}
    (hcwd : Externals.isAbsolute cwd = false) (schemaVersion : ℤ) (bytes) :
    decodeStoredEvent (terminalCwdReported id cwd).eventType schemaVersion bytes ≠
      .ok (.terminalCwdReported id cwd) := by
  intro h
  simp only [decodeStoredEvent, eventType, ok_iff] at h
  obtain ⟨-, -, _, hdec, -, -, rfl⟩ := h
  unfold decodeEventType at hdec
  simp only [ok_iff] at hdec
  obtain ⟨p, -, habs, heq⟩ := hdec
  cases heq
  rw [hcwd] at habs
  cases habs

end Decided

/-! ## Samples -/

section Sample

attribute [local instance] sampleExternals

def asked : ProviderQuestionPresentedFact := ⟨⟨1⟩, .codex, sampleSession, 1, ⟨1⟩, 0, ⟨1⟩⟩

def packedSampleId : List UInt8 :=
  [0xc4, 16, 0, 0, 0, 0, 0, 0, 0x70, 0, 0x80, 0, 0, 0, 0, 0, 0, 1]

/-- What `rmp_serde` makes of the payload of `asked`. -/
def askedBytes : List UInt8 :=
  0x97 :: packedSampleId ++ [0xa5, 0x63, 0x6f, 0x64, 0x65, 0x78] ++
    [0xa7, 0x73, 0x65, 0x73, 0x73, 0x69, 0x6f, 0x6e, 1] ++ packedSampleId ++ 0 :: packedSampleId

@[reducible] def sampleRmpSerde : RmpSerde where
  toVec _ _ := askedBytes
  fromSlice
    | .providerQuestionPresented, bytes =>
      if bytes = askedBytes then .ok ⟨⟨1⟩, .codex, sampleSession, 1, ⟨1⟩, 0, ⟨1⟩⟩
      else .error (.rmp "invalid type")
    | _, _ => .error (.rmp "invalid type")

attribute [local instance] sampleRmpSerde

theorem packs_asked : Event.Packs (.providerQuestionPresented asked) := by
  intro wire hwire
  cases hwire
  exact ⟨if_pos rfl, fun size hsize => Option.some.inj hsize ▸ by decide⟩

theorem appended_decoded_asked :
    encodeEventPayload (.providerQuestionPresented asked) = .ok askedBytes ∧
      decodeStoredEvent "provider_input.question_presented" eventSchemaVersion askedBytes =
        .ok (.providerQuestionPresented asked) := by
  have happended : Appended (.providerQuestionPresented asked) :=
    @Appended.decided _ (some boundSnapshot)
      (envelopeFor boundSnapshot (.presentProviderQuestion (sampleQuestion 1))) ⟨1⟩ _ _
      (fun s hs => Option.some.inj hs ▸ reachable_boundSnapshot) rfl List.mem_cons_self
  have hbytes : encodeEventPayload (.providerQuestionPresented asked) = .ok askedBytes := rfl
  exact ⟨hbytes, (appended_decoded happended packs_asked).2 _ hbytes⟩

variable (workspace : WorkspaceRef)

def workspaceTask : TaskFacts := { sampleTask with workspace }

def workspaceEnvelope : CommandEnvelope where
  commandId := ⟨1⟩
  clientId := ⟨1⟩
  taskId := none
  issuedAtMs := 0
  expectedTaskRevision := none
  command := .createTask {
    id := ⟨1⟩, environmentId := ⟨1⟩, title := "task", description := none, projectId := ⟨1⟩,
    workspace, assignment := .localOwner, createdAtMs := 0, connectivity := .connected,
    attention := .none, activity := .idle, reviewReadiness := .notReady }

def sampleRoot : WorkspacePathFact where
  path := "/p"
  identity := "1"
  opaqueId := "p"
  contentLength := none
  contentFingerprint := none

def sampleBinding : WorkspaceBindingFact where
  kind := .main
  projectRoot := sampleRoot
  workspaceRoot := sampleRoot
  repositoryRoot := none
  commonGitDir := none
  adminDir := none
  marker := none
  commondir := none
  gitdir := none
  head := none
  branch := none
  bindingFingerprint :=
    ⟨"sha256:0000000000000000000000000000000000000000000000000000000000000000", by decide +kernel⟩

def createdWith : Event :=
  .taskCreated (workspaceTask workspace) .connected .none .idle .notReady

theorem decide_workspace {workspace} (h : (workspaceTask workspace).validateForCreate = .ok ()) :
    Command.decide none (workspaceEnvelope workspace) ⟨1⟩ = .ok [createdWith workspace] := by
  have htitle : trim "task" = "task" := by decide +kernel
  have hvalid : mapErr (workspaceTask workspace).validateForCreate
      (fun _ => RejectionCode.invalidTransition) = .ok () := mapErr_eq_ok.mpr h
  show decideCreateTask none _ _ = _
  simp only [decideCreateTask, createDescription, ok_bind, CreateTaskIntent.task, htitle]
  exact bind_eq_ok.mpr ⟨(), rfl, bind_eq_ok.mpr ⟨(), rfl, bind_eq_ok.mpr ⟨(), rfl,
    bind_eq_ok.mpr ⟨(), failIf_eq_ok.mpr (by decide), bind_eq_ok.mpr ⟨(), hvalid, rfl⟩⟩⟩⟩⟩

/-- A relative working directory is accepted by `apply` and by no decoder; a workspace that is
named by its path alone is decided and never encoded; and what is decoded of a workspace that
the host bound is another event. -/
theorem stored_differs : (∃ s s' event, kernel.Reachable s ∧ event.payload.isHostFact = true ∧
      apply (some s) event = .ok s' ∧
      ∀ (_ : RmpSerde) bytes,
        decodeStoredEvent event.payload.eventType eventSchemaVersion bytes ≠ .ok event.payload) ∧
    (∃ envelope operationId e, Command.decide none envelope operationId = .ok [e] ∧
      ∀ (_ : RmpSerde), e.Packs → ∀ bytes, encodeEventPayload e ≠ .ok bytes) ∧
    ∃ envelope operationId e, Command.decide none envelope operationId = .ok [e] ∧
      ∀ (_ : RmpSerde), e.Packs → ∃ bytes, encodeEventPayload e = .ok bytes ∧
        decodeStoredEvent e.eventType eventSchemaVersion bytes ≠ .ok e := by
  have hext : (workspaceTask (.external "/p")).validateForCreate = .ok () := by decide +kernel
  have hbound : (workspaceTask (.hostBound sampleBinding)).validateForCreate = .ok () := by
    decide +kernel
  refine ⟨⟨shellSnapshot 1, _,
    stampEvent (shellSnapshot 1) sampleStamp (.terminalCwdReported ⟨1⟩ "p"),
    reachable_shellSnapshot 1 (by decide), rfl, rfl, fun _ bytes => ?_⟩,
    ⟨_, _, _, decide_workspace hext, fun _ hpacks bytes hbytes => ?_⟩,
    ⟨_, _, _, decide_workspace hbound, fun _ hpacks => ?_⟩⟩
  · exact decode_relative_cwd (by decide) _ bytes
  · have hvalid : (createdWith (.external "/p")).Valid := hext
    exact (decode_encode hvalid trivial hpacks).1.mp ⟨bytes, hbytes⟩
  · have hvalid : (createdWith (.hostBound sampleBinding)).Valid := hbound
    obtain ⟨henc, hdec⟩ := decode_encode hvalid trivial hpacks
    obtain ⟨bytes, hbytes⟩ := henc.mpr trivial
    refine ⟨bytes, hbytes, ?_⟩
    rw [hdec bytes hbytes]
    intro hsame
    simp [createdWith, durable, TaskFacts.durable, workspaceTask, WorkspaceRef.durable,
      WorkspaceBindingFact.durable, WorkspacePathFact.durable, sampleBinding, sampleRoot] at hsame

end Sample

end DevManager
