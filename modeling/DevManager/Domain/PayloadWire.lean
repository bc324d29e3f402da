import DevManager.Domain.EventDocument
import DevManager.Domain.WorkspaceWire

/-!
# Payload values on the wire (`src/domain`)

The program's own `Serialize` and `Deserialize` of the values that the payloads of
events hold. Most serializers are derived; the deserializers canonicalize texts and
check what they read. A value is given on the wire by a type of its own only where
its shape differs: a workspace, a recipe (whose absent fields are skipped, by
position) and the digest of an image (hexadecimal text).

Each value that passes the checks of its type is deserialized to itself, a task to
itself with its workspace in durable form:

* `TaskFacts.deserialize_wire`, `AgentSessionFacts.deserialize_self`,
  `ArtifactFacts.deserialize_self`, `ResourceFacts.deserialize_wire`,
  `ProviderInputAction.deserialize_wire`, `BrowserDurableFact.deserialize_self`.
-/

namespace DevManager

open List BrowserDurableFact Canonical

/-! ## Tasks (`task.rs`) -/

/-- `TaskFactsWire`, `task.rs:1068-1082` -/
structure TaskFactsWire where
  id : TaskId
  environmentId : EnvironmentId
  title : String
  description : Option String
  projectId : ProjectId
  workspace : WorkspaceRefWire
  assignment : TaskAssignment
  lifecycle : TaskLifecycle
  actionEpoch : ℕ
  revision : ℕ
  createdAtMs : ℤ

/-- `#[derive(Serialize)]` on `TaskFacts` (`task.rs:979`). -/
def TaskFacts.serialize (task : TaskFacts) : Except SerdeError TaskFactsWire := do
  let workspace ← task.workspace.serialize
  pure { task with workspace }

/-- `canonicalize_principal`, `task.rs:1113-1118` -/
def canonicalizePrincipal (value : String) (error : TaskValidationError) :
    Except TaskValidationError String :=
  okOr (Canonical.canonicalize value) error

/-- `external_principal`, `task.rs:929-940` -/
def TaskAssignment.mkExternalPrincipal (authority subject : String) :
    Except TaskValidationError TaskAssignment := do
  let authority ← canonicalizePrincipal authority .emptyPrincipalAuthority
  let subject ← canonicalizePrincipal subject .emptyPrincipalSubject
  pure (.externalPrincipal authority subject)

/-- `deserialize`, `task.rs:958-976` -/
def TaskAssignment.deserialize : TaskAssignment → Except SerdeError TaskAssignment
  | .localOwner => .ok .localOwner
  | .externalPrincipal authority subject => customErr (mkExternalPrincipal authority subject) .task

/-- `canonicalize_description`, `task.rs:1028-1037` -/
def TaskFacts.canonicalizeDescription :
    Option String → Except TaskValidationError (Option String)
  | some value => do
    let value ← okOr (Canonical.canonicalize value) .emptyDescription
    pure (some value)
  | none => .ok none

section Task

variable [Externals]

/-- `deserialize`, `task.rs:1063-1107` -/
def TaskFactsWire.deserialize (wire : TaskFactsWire) : Except SerdeError TaskFacts := do
  let workspace ← wire.workspace.deserialize
  let assignment ← wire.assignment.deserialize
  let title ← customErr (TaskFacts.canonicalizeTitle wire.title) .task
  let description ← customErr (TaskFacts.canonicalizeDescription wire.description) .task
  customErr workspace.validate .task
  customErr assignment.validate .task
  pure { wire with title, description, workspace, assignment }

/-- A task with its workspace in durable form. -/
def TaskFacts.durable (task : TaskFacts) : TaskFacts :=
  { task with workspace := task.workspace.durable }

omit [Externals] in
theorem TaskAssignment.deserialize_self {assignment : TaskAssignment}
    (h : assignment.validate = .ok ()) : assignment.deserialize = .ok assignment := by
  cases assignment with
  | localOwner => rfl
  | externalPrincipal authority subject =>
    simp only [TaskAssignment.validate, ok_iff, ← canonicalize_eq_self] at h
    simp only [TaskAssignment.deserialize, mkExternalPrincipal, canonicalizePrincipal,
      customErr_eq_ok, ok_iff]
    exact ⟨authority, h.1, subject, h.2, rfl⟩

theorem TaskFacts.validateContent_durable {task : TaskFacts}
    (h : task.validateContent = .ok ()) : task.durable.validateContent = .ok () := by
  simp only [TaskFacts.validateContent, TaskFacts.durable, bind_eq_ok, exists_unit] at h ⊢
  obtain ⟨htitle, hdesc, hws, hassign⟩ := h
  exact ⟨htitle, hdesc, WorkspaceRef.validate_durable hws, hassign⟩

theorem TaskFacts.deserialize_wire {task : TaskFacts} (h : task.validateContent = .ok ())
    (hstorable : task.workspace.Storable) :
    ∃ wire, task.serialize = .ok wire ∧ wire.deserialize = .ok task.durable := by
  simp only [TaskFacts.validateContent, ok_iff] at h
  obtain ⟨htitle, hdesc, hws, hassign⟩ := h
  obtain ⟨workspace, hser, hdeser⟩ :=
    WorkspaceRef.deserialize_wire hws hstorable
  have hcan : TaskFacts.canonicalizeDescription task.description = .ok task.description := by
    cases hval : task.description with
    | none => rfl
    | some value =>
      rw [hval, failIf_eq_ok, not_not, ← canonicalize_eq_self] at hdesc
      simp only [TaskFacts.canonicalizeDescription, hdesc]
      rfl
  simp only [TaskFacts.serialize, hser, ok_bind, pure_eq_ok, exists_eq_left]
  simp only [TaskFactsWire.deserialize, hdeser, TaskAssignment.deserialize_self hassign,
    TaskFacts.canonicalizeTitle_eq_self.mpr htitle, hcan, ok_bind, ok_iff, customErr_eq_ok]
  exact ⟨_, rfl, _, rfl, WorkspaceRef.validate_durable hws, hassign, rfl⟩

end Task

/-! ## Agents (`agent.rs`) -/

/-- `deserialize`, `agent.rs:267-282` -/
def AgentRole.deserialize : AgentRole → Except SerdeError AgentRole
  | .primary => .ok .primary
  | .specialist name => customErr (ofSpecialist name) .agent

/-- `Deserialize for AgentSessionFacts` (`agent.rs:374-404`). The session id on the wire is a
`ProviderSessionId` already, so that `validate_provider_session_id` returns it. -/
def AgentSessionFacts.deserialize (wire : AgentSessionFacts) :
    Except SerdeError AgentSessionFacts := do
  let role ← wire.role.deserialize
  let facts : AgentSessionFacts := { wire with role }
  customErr facts.validate .agent
  pure facts

theorem Canonical.boundedCanonical_self {value} (h : isBoundedCanonical value = true) :
    boundedCanonical value = some value := by
  simp only [isBoundedCanonical, isCanonical, Bool.and_eq_true, decide_eq_true_eq] at h
  obtain ⟨⟨hne, hself⟩, hbound⟩ := h
  rw [boundedCanonical_eq_some, ← hself]
  exact ⟨hne, hbound, rfl⟩

theorem AgentRole.deserialize_self {role : AgentRole} (h : role.validate = .ok ()) :
    role.deserialize = .ok role := by
  cases role with
  | primary => rfl
  | specialist name =>
    simp only [AgentRole.validate, failIf_eq_ok, not_not] at h
    simp only [AgentRole.deserialize, ofSpecialist, customErr_eq_ok, ok_iff]
    exact ⟨name, boundedCanonical_self h, rfl⟩

theorem AgentSessionFacts.deserialize_self {agent : AgentSessionFacts}
    (h : agent.validate = .ok ()) : agent.deserialize = .ok agent := by
  have hrole : agent.role.validate = .ok () := by
    simp only [AgentSessionFacts.validate, ok_iff] at h
    exact h.1
  simp only [AgentSessionFacts.deserialize, AgentRole.deserialize_self hrole, ok_bind, ok_iff,
    customErr_eq_ok, and_true]
  exact h

/-! ## Artifacts (`artifact.rs`) -/

/-- `content_addressed`, `artifact.rs:239-245` -/
def ArtifactContentRef.ofContentAddressed (digestHex : String) :
    Except ArtifactValidationError ArtifactContentRef := do
  let digestHex ← okOr (Canonical.canonicalize digestHex) .emptyContent
  pure (.contentAddressed digestHex)

/-- `deserialize`, `artifact.rs:269-287` -/
def ArtifactContentRef.deserialize : ArtifactContentRef → Except SerdeError ArtifactContentRef
  | .inlineUtf8 body => customErr (ofInlineUtf8 body) .artifact
  | .contentAddressed digestHex => customErr (ofContentAddressed digestHex) .artifact

/-- `deserialize`, `artifact.rs:339-368` -/
def ArtifactFacts.deserialize (wire : ArtifactFacts) : Except SerdeError ArtifactFacts := do
  let contentRef ← wire.contentRef.deserialize
  let label ← customErr (canonicalizeLabel wire.label) .artifact
  let facts : ArtifactFacts := { wire with label, contentRef }
  customErr facts.validate .artifact
  pure facts

theorem ArtifactContentRef.deserialize_self {contentRef : ArtifactContentRef}
    (h : contentRef.validate = .ok ()) : contentRef.deserialize = .ok contentRef := by
  cases contentRef with
  | inlineUtf8 body =>
    simp only [ArtifactContentRef.deserialize, ofInlineUtf8, customErr_eq_ok, bind_eq_ok,
      exists_unit, pure_eq_ok, and_true]
    exact h
  | contentAddressed digestHex =>
    simp only [ArtifactContentRef.validate, failIf_eq_ok, not_not, ← canonicalize_eq_self] at h
    simp only [ArtifactContentRef.deserialize, ofContentAddressed, customErr_eq_ok, bind_eq_ok,
      okOr_eq_ok, pure_eq_ok]
    exact ⟨digestHex, h, rfl⟩

theorem ArtifactFacts.deserialize_self {artifact : ArtifactFacts}
    (h : artifact.validate = .ok ()) : artifact.deserialize = .ok artifact := by
  have hparts := h
  simp only [ArtifactFacts.validate, ok_iff] at hparts
  obtain ⟨hlabel, hbody⟩ := hparts
  simp only [ArtifactFacts.deserialize, ArtifactContentRef.deserialize_self hbody, ok_bind,
    canonicalizeLabel, ok_iff, customErr_eq_ok]
  exact ⟨artifact.label, canonicalize_eq_self.mpr hlabel, h, rfl⟩

/-! ## Resources (`resource.rs`) -/

/-- A field that a terminal recipe has on the wire after its size. -/
inductive TerminalRecipeField
  | launch (launch : TerminalLaunch)
  | title (title : String)

/-- `ResourceRecipe` on the wire. Structs are packed by position, and an absent `launch` or
`title` is skipped (`resource.rs:109-131`), so that a terminal is its size and the fields that
are present. -/
inductive ResourceRecipeWire
  | terminal (cols rows : ℕ) (fields : List TerminalRecipeField)
  | browser (startUrl : String) (contextId : Option BrowserContextId)
  | service (command : String)

/-- `#[derive(Serialize)]` on `ResourceRecipe` (`resource.rs:107-133`). -/
def ResourceRecipe.wire : ResourceRecipe → ResourceRecipeWire
  | .terminal cols rows launch title =>
    .terminal cols rows ((launch.map .launch).toList ++ (title.map .title).toList)
  | .browser startUrl contextId => .browser startUrl contextId
  | .service command => .service command

/-- How `#[derive(Deserialize)]` reads the fields after the size: the first one as a launch, the
second one as a title. -/
def deserializeTerminalFields :
    List TerminalRecipeField → Except SerdeError (Option TerminalLaunch × Option String)
  | [] => .ok (none, none)
  | [.launch launch] => .ok (some launch, none)
  | [.launch launch, .title title] => .ok (some launch, some title)
  | .title _ :: _ => .error (.rmp "invalid type: string, expected struct TerminalLaunch")
  | .launch _ :: .launch _ :: _ => .error (.rmp "invalid type: sequence, expected a string")
  | .launch _ :: .title _ :: _ :: _ => .error (.rmp "array haddr incorrect length, expected 4")

/-- `canonical_title`, `resource.rs:155-166` -/
def ResourceRecipe.canonicalTitle : Option String → Except ResourceValidationError (Option String)
  | none => .ok none
  | some raw => do
    let trimmed := trim raw
    failIf (trimmed = "" ∨ trimmed.length > maxTerminalTitleChars) .invalidTerminalTitle
    pure (some trimmed)

/-- `service`, `resource.rs:177-181` -/
def ResourceRecipe.mkService (command : String) : Except ResourceValidationError
    ResourceRecipe := do
  let command ← okOr (Canonical.canonicalize command) .emptyRecipe
  pure (.service command)

/-- `ResourceFactsWire`, `resource.rs:381-391` -/
structure ResourceFactsWire where
  id : ResourceId
  taskId : Option TaskId
  ownerKind : OwnerKind
  resourceKind : ResourceKind
  recipe : ResourceRecipeWire
  lifecycle : ResourceLifecycle
  runtimeGeneration : ℕ
  updatedAtMs : ℤ

/-- `#[derive(Serialize)]` on `ResourceFacts` (`resource.rs:316`). -/
def ResourceFacts.wire (resource : ResourceFacts) : ResourceFactsWire :=
  { resource with recipe := resource.recipe.wire }

section Resource

variable [Externals]

/-- `canonicalize`, `resource.rs:183-221` -/
def ResourceRecipe.canonicalize : ResourceRecipe → Except ResourceValidationError ResourceRecipe
  | .terminal cols rows launch title => do
    failIf (cols = 0 ∨ rows = 0) .invalidTerminalGeometry
    (match launch with
    | some launch => launch.validate
    | none => .ok ())
    let title ← canonicalTitle title
    failIf (launch.isNone ∧ title.isSome) .invalidTerminalTitle
    pure (.terminal cols rows launch title)
  | .browser startUrl contextId => do
    let startUrl ← okOr (Canonical.canonicalize startUrl) .emptyRecipe
    pure (.browser startUrl contextId)
  | .service command => mkService command

/-- `deserialize`, `resource.rs:263-313` -/
def ResourceRecipeWire.deserialize : ResourceRecipeWire → Except SerdeError ResourceRecipe
  | .terminal cols rows fields => do
    let (launch, title) ← deserializeTerminalFields fields
    customErr (ResourceRecipe.terminal cols rows launch title).canonicalize .resource
  | .browser startUrl contextId =>
    customErr (ResourceRecipe.browser startUrl contextId).canonicalize .resource
  | .service command => customErr (ResourceRecipe.mkService command) .resource

/-- `deserialize`, `resource.rs:377-408` -/
def ResourceFactsWire.deserialize (wire : ResourceFactsWire) : Except SerdeError ResourceFacts := do
  let recipe ← wire.recipe.deserialize
  let facts : ResourceFacts := { wire with recipe }
  customErr facts.validate .resource
  pure facts

omit [Externals] in
theorem ResourceRecipe.canonicalTitle_self {title}
    (h : validateTerminalTitle title = .ok ()) :
      canonicalTitle (some title) = .ok (some title) := by
  simp only [validateTerminalTitle, failIf_eq_ok, not_or, ne_eq, not_not] at h
  obtain ⟨htrim, hne, hlen⟩ := h
  simp only [canonicalTitle, htrim, ok_iff, not_or, and_true]
  exact ⟨hne, hlen⟩

theorem ResourceRecipe.deserialize_wire {recipe : ResourceRecipe} (h : recipe.validate = .ok ()) :
    recipe.wire.deserialize = .ok recipe := by
  cases recipe with
  | terminal cols rows launch title =>
    simp only [ResourceRecipe.validate, ok_iff] at h
    obtain ⟨hsize, hlaunch, htitle⟩ := h
    have hfields : deserializeTerminalFields
        ((launch.map .launch).toList ++ (title.map .title).toList) = .ok (launch, title) := by
      cases launch with
      | some launch => cases title <;> rfl
      | none =>
        cases title with
        | none => rfl
        | some title => simp at htitle
    have hcan : canonicalTitle title = .ok title := by
      cases title with
      | none => rfl
      | some title =>
        simp only [ok_iff] at htitle
        exact canonicalTitle_self htitle.2
    have hpre : ¬ (launch.isNone = true ∧ title.isSome = true) := by
      rintro ⟨hnone, hsome⟩
      obtain ⟨title, rfl⟩ := Option.isSome_iff_exists.mp hsome
      simp only [ok_iff] at htitle
      exact htitle.1 hnone
    simp only [ResourceRecipe.wire, ResourceRecipeWire.deserialize, hfields, ok_bind,
      customErr_eq_ok, ResourceRecipe.canonicalize, ok_iff]
    exact ⟨hsize, hlaunch, title, hcan, hpre, rfl⟩
  | browser startUrl contextId =>
    simp only [ResourceRecipe.validate, failIf_eq_ok, not_not, ← canonicalize_eq_self] at h
    simp only [ResourceRecipe.wire, ResourceRecipeWire.deserialize, ResourceRecipe.canonicalize,
      customErr_eq_ok, ok_iff]
    exact ⟨startUrl, h, rfl⟩
  | service command =>
    simp only [ResourceRecipe.validate, failIf_eq_ok, not_not, ← canonicalize_eq_self] at h
    simp only [ResourceRecipe.wire, ResourceRecipeWire.deserialize, ResourceRecipe.mkService,
      customErr_eq_ok, ok_iff]
    exact ⟨command, h, rfl⟩

theorem ResourceFacts.deserialize_wire {resource : ResourceFacts} (h : resource.validate = .ok ()) :
    resource.wire.deserialize = .ok resource := by
  have hrec := ResourceRecipe.deserialize_wire (ResourceFacts.kind_recipe_of_validate h).2
  simp only [ResourceFactsWire.deserialize, ResourceFacts.wire, hrec, ok_bind, ok_iff,
    customErr_eq_ok, and_true]
  exact h

end Resource

/-! ## Provider input (`provider_input.rs`)

The digest of an image is written as hexadecimal text (`encode_sha256_hex`, which is
`hexOfDigest`). -/

/-- `hex_value`, `provider_input.rs:1073-1080` -/
def hexValue (c : Char) : Except ProviderInputIntentError ℕ :=
  if 0x30 ≤ c.toNat ∧ c.toNat ≤ 0x39 then .ok (c.toNat - 0x30)
  else if 0x61 ≤ c.toNat ∧ c.toNat ≤ 0x66 then .ok (c.toNat - 0x61 + 10)
  else if 0x41 ≤ c.toNat ∧ c.toNat ≤ 0x46 then .ok (c.toNat - 0x41 + 10)
  else .error .imageAttachmentInvalid

/-- The loop of `decode_sha256_hex` over pairs of digits (`provider_input.rs:1052-1056`). -/
def decodeHexPairs : List Char → Except ProviderInputIntentError (List UInt8)
  | hi :: lo :: rest => do
    let hi ← hexValue hi
    let lo ← hexValue lo
    let bytes ← decodeHexPairs rest
    pure (UInt8.ofNat (hi * 16 + lo) :: bytes)
  | _ => pure []

/-- `decode_sha256_hex` (`provider_input.rs:1060-1071`). What passes the first check is ASCII, so
its characters are its bytes. -/
def decodeSha256Hex (value : String) : Except ProviderInputIntentError Digest := do
  failIf (value.utf8ByteSize ≠ 64 ∨ ¬ value.toList.all isHexDigit) .imageAttachmentInvalid
  let bytes ← decodeHexPairs value.toList
  if h : bytes.toArray.size = 32 then pure ⟨bytes.toArray, h⟩ else .error .imageAttachmentInvalid

/-- `ProviderImageAttachment` on the wire (`provider_input.rs:92-99`). -/
structure ProviderImageAttachmentWire where
  path : String
  sha256 : String
  byteLen : ℕ

/-- `ProviderInputAction` on the wire (`provider_input.rs:179-209`). Empty `images` are skipped and
read as the default, as they come last. -/
inductive ProviderInputActionWire
  | sendNow (text : String) (wait : Bool) (images : List ProviderImageAttachmentWire)
  | steerCurrentTurn (text : String)
  | queueFollowUp (text : String)
  | answerQuestion (questionId : QuestionId) (answer : String)
  | resolveApproval (approvalId : ApprovalId) (allow : Bool)
  | terminalInput (text : String)
  | stopTurn

/-- `#[derive(Serialize)]` on `ProviderImageAttachment`, with `serialize_image_sha256`. -/
def ProviderImageAttachment.wire (image : ProviderImageAttachment) :
    ProviderImageAttachmentWire where
  path := image.path
  sha256 := hexOfDigest image.sha256
  byteLen := image.byteLen

/-- `#[derive(Serialize)]` on `ProviderInputAction`. -/
def ProviderInputAction.wire : ProviderInputAction → ProviderInputActionWire
  | .sendNow text wait images => .sendNow text wait (images.map ProviderImageAttachment.wire)
  | .steerCurrentTurn text => .steerCurrentTurn text
  | .queueFollowUp text => .queueFollowUp text
  | .answerQuestion questionId answer => .answerQuestion questionId answer
  | .resolveApproval approvalId allow => .resolveApproval approvalId allow
  | .terminalInput text => .terminalInput text
  | .stopTurn => .stopTurn

/-- `deserialize_provider_text`, `provider_input.rs:1124-1128` -/
def deserializeProviderText (text : String) : Except SerdeError String := do
  customErr (validateProviderText text) .providerInput
  pure text

/-- `deserialize_send_now_text`, `provider_input.rs:1164-1168` -/
def deserializeSendNowText (text : String) : Except SerdeError String := do
  failIf (text.utf8ByteSize > maxProviderInputTextBytes) (.custom (.providerInput .textTooLarge))
  pure text

section ProviderInput

variable [Externals]

/-- `try_new`, `provider_input.rs:133-151` -/
def ProviderImageAttachment.tryNew (path : String) (sha256 : Digest) (byteLen : ℕ) :
    Except ProviderInputIntentError ProviderImageAttachment := do
  validateProviderImagePath path
  failIf (byteLen = 0 ∨ byteLen > maxProviderImageBytes) .imageAttachmentInvalid
  pure { path, sha256, byteLen }

/-- `deserialize`, `provider_input.rs:111-124` -/
def ProviderImageAttachmentWire.deserialize (wire : ProviderImageAttachmentWire) :
    Except SerdeError ProviderImageAttachment := do
  let sha256 ← customErr (decodeSha256Hex wire.sha256) .providerInput
  customErr (ProviderImageAttachment.tryNew wire.path sha256 wire.byteLen) .providerInput

/-- `validate_provider_images`, `provider_input.rs:1019-1032` -/
def validateProviderImages (images : List ProviderImageAttachment) :
    Except ProviderInputIntentError Unit := do
  failIf (images.length > maxProviderImageAttachments) .tooManyImages
  images.forM validateProviderImage

/-- `deserialize_provider_images`, `provider_input.rs:1170-1176` -/
def deserializeProviderImages (images : List ProviderImageAttachmentWire) :
    Except SerdeError (List ProviderImageAttachment) := do
  let images ← images.mapM ProviderImageAttachmentWire.deserialize
  customErr (validateProviderImages images) .providerInput
  pure images

/-- `deserialize`, `provider_input.rs:211-269` -/
def ProviderInputActionWire.deserialize :
    ProviderInputActionWire → Except SerdeError ProviderInputAction
  | .sendNow text wait images => do
    let text ← deserializeSendNowText text
    let images ← deserializeProviderImages images
    customErr (validateSendNowPayload text images) .providerInput
    pure (.sendNow text wait images)
  | .steerCurrentTurn text => do
    let text ← deserializeProviderText text
    pure (.steerCurrentTurn text)
  | .queueFollowUp text => do
    let text ← deserializeProviderText text
    pure (.queueFollowUp text)
  | .answerQuestion questionId answer => do
    let answer ← deserializeProviderText answer
    pure (.answerQuestion questionId answer)
  | .resolveApproval approvalId allow => pure (.resolveApproval approvalId allow)
  | .terminalInput text => do
    let text ← deserializeProviderText text
    pure (.terminalInput text)
  | .stopTurn => pure .stopTurn

end ProviderInput

theorem utf8ByteSize_ofList {cs} (h : ∀ c ∈ cs, c.val ≤ 127) :
    (String.ofList cs).utf8ByteSize = cs.length := by
  have hone : ∀ c ∈ cs, String.utf8EncodeChar c = [c.val.toUInt8] := by
    intro c hc
    exact String.utf8EncodeChar_eq_singleton (Char.utf8Size_eq_one_iff.mpr (h c hc))
  have henc : (String.ofList cs).utf8ByteSize = cs.utf8Encode.size := rfl
  rw [henc]
  unfold List.utf8Encode
  rw [flatMap_congr hone, size_toByteArray]
  simp

theorem hexValue_hexDigit : ∀ n < 16, hexValue (hexDigit n) = .ok n := by
  decide

theorem hexDigit_ascii : ∀ n < 16, (hexDigit n).val ≤ 127 ∧ isHexDigit (hexDigit n) = true := by
  decide

theorem hexDigits_byte (b : UInt8) : hexValue (hexDigit (b.toNat / 16)) = .ok (b.toNat / 16) ∧
    hexValue (hexDigit (b.toNat % 16)) = .ok (b.toNat % 16) ∧
    UInt8.ofNat (b.toNat / 16 * 16 + b.toNat % 16) = b := by
  have hb : b.toNat < 256 := b.toNat_lt
  refine ⟨hexValue_hexDigit _ (by omega), hexValue_hexDigit _ (by omega), ?_⟩
  rw [Nat.div_add_mod', UInt8.ofNat_toNat]

theorem decodeHexPairs_hex (bytes) :
    decodeHexPairs (bytes.flatMap fun b => [hexDigit (b.toNat / 16), hexDigit (b.toNat % 16)]) =
      .ok bytes := by
  induction bytes with
  | nil => rfl
  | cons b bytes ih =>
    obtain ⟨hhigh, hloop, hbyte⟩ := hexDigits_byte b
    rw [flatMap_cons]
    simp only [cons_append, nil_append, decodeHexPairs, hhigh, hloop, ih, ok_bind, hbyte]
    rfl

variable (digest : Digest)

theorem toList_hexOfDigest : (hexOfDigest digest).toList =
    digest.toList.flatMap fun b => [hexDigit (b.toNat / 16), hexDigit (b.toNat % 16)] := by
  unfold hexOfDigest
  rw [String.toList_ofList]

theorem hexOfDigest_ascii :
    ∀ c ∈ (hexOfDigest digest).toList, c.val ≤ 127 ∧ isHexDigit c = true := by
  intro c hc
  rw [toList_hexOfDigest, mem_flatMap] at hc
  obtain ⟨b, -, hc⟩ := hc
  have hb : b.toNat < 256 := b.toNat_lt
  simp only [mem_cons, not_mem_nil, or_false] at hc
  obtain rfl | rfl := hc
  · exact hexDigit_ascii _ (by omega)
  · exact hexDigit_ascii _ (by omega)

theorem utf8ByteSize_hexOfDigest : (hexOfDigest digest).utf8ByteSize = 64 := by
  rw [← String.ofList_toList (s := hexOfDigest digest),
    utf8ByteSize_ofList fun c hc => (hexOfDigest_ascii digest c hc).1, toList_hexOfDigest,
    length_flatMap]
  simp

theorem decodeSha256Hex_hexOfDigest :
    decodeSha256Hex (hexOfDigest digest) = .ok digest := by
  have hsize := utf8ByteSize_hexOfDigest digest
  have hall : (hexOfDigest digest).toList.all isHexDigit = true := by
    rw [all_eq_true]
    exact fun c hc => (hexOfDigest_ascii digest c hc).2
  have hpairs : decodeHexPairs (hexOfDigest digest).toList = .ok digest.toList := by
    rw [toList_hexOfDigest]
    exact decodeHexPairs_hex digest.toList
  unfold decodeSha256Hex
  simp only [hsize, hall, hpairs, ok_iff, ne_eq, or_self, true_and]
  refine ⟨digest.toList, rfl, ?_⟩
  rw [dif_pos (by simp), pure_eq_ok]
  apply Vector.toArray_inj.mp
  exact Array.toArray_toList.symm

section ProviderInput

variable [Externals]

omit [Externals] in
theorem deserializeProviderText_self {text} (h : validateProviderText text = .ok ()) :
    deserializeProviderText text = .ok text := by
  simp only [deserializeProviderText, ok_iff, customErr_eq_ok, and_true]
  exact h

theorem ProviderImageAttachment.deserialize_wire {image}
    (h : validateProviderImage image = .ok ()) : image.wire.deserialize = .ok image := by
  simp only [validateProviderImage, ok_iff] at h
  simp only [ProviderImageAttachmentWire.deserialize, ProviderImageAttachment.wire,
    ProviderImageAttachment.tryNew, decodeSha256Hex_hexOfDigest, ok_iff, customErr_eq_ok]
  exact ⟨_, rfl, h.1, failIf_eq_ok.mpr h.2, rfl⟩

theorem ProviderInputAction.deserialize_wire {action questionId approvalId}
    (h : validateActionNestedIds action questionId approvalId = .ok ()) :
    action.wire.deserialize = .ok action := by
  cases action with
  | sendNow text wait images =>
    simp only [validateActionNestedIds, ok_iff] at h
    obtain ⟨hpayload, -⟩ := h
    have hparts := hpayload
    simp only [validateSendNowPayload, ok_iff, forM_eq_ok] at hparts
    obtain ⟨hcount, himages, htext⟩ := hparts
    have hlen : ¬ text.utf8ByteSize > maxProviderInputTextBytes := by
      split_ifs at htext with hnil
      · rw [hnil]
        decide
      · exact failIf_eq_ok.mp htext
    have hmap : (images.map ProviderImageAttachment.wire).mapM
        ProviderImageAttachmentWire.deserialize = .ok images := by
      refine mapM_eq_ok (map_id _) ?_
      rintro wire - image himage rfl
      exact ProviderImageAttachment.deserialize_wire (himages image himage)
    simp only [ProviderInputAction.wire, ProviderInputActionWire.deserialize,
      deserializeSendNowText, deserializeProviderImages, validateProviderImages, hmap, ok_bind,
      ok_iff, customErr_eq_ok, forM_eq_ok]
    exact ⟨text, ⟨hlen, rfl⟩, images, ⟨⟨hcount, himages⟩, rfl⟩, hpayload, rfl⟩
  | steerCurrentTurn | queueFollowUp | answerQuestion | terminalInput =>
    simp only [validateActionNestedIds, ok_iff] at h
    simp only [ProviderInputAction.wire, ProviderInputActionWire.deserialize,
      deserializeProviderText_self h.1]
    rfl
  | resolveApproval nested allow => rfl
  | stopTurn => rfl

end ProviderInput

/-! ## Browser facts (`browser.rs`) -/

section Browser

variable [Externals]

/-- `deserialize_url`, `browser.rs:443-447` -/
def deserializeUrl (value : String) : Except SerdeError String := do
  customErr (validateUrl value) .browser
  pure value

/-- `deserialize_identity`, `browser.rs:437-441` -/
def deserializeIdentity (value : String) : Except SerdeError String := do
  customErr (validateIdentity value) .browser
  pure value

/-- `#[derive(Deserialize)]` on `BrowserAction` (`browser.rs:549-606`). -/
def BrowserAction.deserialize : BrowserAction → Except SerdeError BrowserAction
  | .openTab url kind => do
    let url ← deserializeUrl url
    pure (.openTab url kind)
  | .navigate url => do
    let url ← deserializeUrl url
    pure (.navigate url)
  | .fillSecret vaultRef fieldSelector => do
    let vaultRef ← deserializeIdentity vaultRef
    let fieldSelector ← deserializeIdentity fieldSelector
    pure (.fillSecret vaultRef fieldSelector)
  | action => pure action

/-- `#[derive(Deserialize)]` on `BrowserDurableFact` (`browser.rs:449-541`). -/
def BrowserDurableFact.deserialize : BrowserDurableFact → Except SerdeError BrowserDurableFact
  | .requestAccepted fact => do
    let action ← fact.action.deserialize
    pure (.requestAccepted { fact with action })
  | .tabOpened tabId contextId taskId kind url => do
    let url ← deserializeUrl url
    pure (.tabOpened tabId contextId taskId kind url)
  | .navigationCommitted tabId contextId taskId url documentId => do
    let url ← deserializeUrl url
    let documentId ← deserializeIdentity documentId
    pure (.navigationCommitted tabId contextId taskId url documentId)
  | .recipeIdentified contextId taskId recipeId => do
    let recipeId ← deserializeIdentity recipeId
    pure (.recipeIdentified contextId taskId recipeId)
  | .recordingIdentified contextId taskId recordingId => do
    let recordingId ← deserializeIdentity recordingId
    pure (.recordingIdentified contextId taskId recordingId)
  | .downloadSettled contextId taskId allowed fileName sha256Hex artifactId => do
    let fileName ← deserializeIdentity fileName
    pure (.downloadSettled contextId taskId allowed fileName sha256Hex artifactId)
  | fact => pure fact

/-- The URLs and identities of an action are valid. -/
def BrowserAction.Checked : BrowserAction → Prop
  | .openTab url _ | .navigate url => validateUrl url = .ok ()
  | .fillSecret vaultRef fieldSelector =>
    validateIdentity vaultRef = .ok () ∧ validateIdentity fieldSelector = .ok ()
  | _ => True

/-- The URLs and identities of a fact are valid. -/
def BrowserDurableFact.Checked : BrowserDurableFact → Prop
  | .requestAccepted fact => fact.action.Checked
  | .tabOpened _ _ _ _ url => validateUrl url = .ok ()
  | .navigationCommitted _ _ _ url documentId =>
    validateUrl url = .ok () ∧ validateIdentity documentId = .ok ()
  | .recipeIdentified _ _ recipeId => validateIdentity recipeId = .ok ()
  | .recordingIdentified _ _ recordingId => validateIdentity recordingId = .ok ()
  | .downloadSettled _ _ _ fileName _ _ => validateIdentity fileName = .ok ()
  | _ => True

theorem deserializeUrl_self {value} (h : validateUrl value = .ok ()) :
    deserializeUrl value = .ok value := by
  simp only [deserializeUrl, ok_iff, customErr_eq_ok, and_true]
  exact h

omit [Externals] in
theorem deserializeIdentity_self {value} (h : validateIdentity value = .ok ()) :
    deserializeIdentity value = .ok value := by
  simp only [deserializeIdentity, ok_iff, customErr_eq_ok, and_true]
  exact h

theorem BrowserAction.deserialize_self {action : BrowserAction} (h : action.Checked) :
    action.deserialize = .ok action := by
  cases action with
  | openTab | navigate =>
    simp only [BrowserAction.deserialize, deserializeUrl_self h]
    rfl
  | fillSecret vaultRef fieldSelector =>
    simp only [BrowserAction.deserialize, deserializeIdentity_self h.1,
      deserializeIdentity_self h.2]
    rfl
  | _ => rfl

theorem BrowserDurableFact.deserialize_self {fact : BrowserDurableFact} (h : fact.Checked) :
    fact.deserialize = .ok fact := by
  cases fact with
  | requestAccepted fact =>
    simp only [deserialize, BrowserAction.deserialize_self h]
    rfl
  | tabOpened tabId contextId taskId kind url =>
    simp only [deserialize, deserializeUrl_self h]
    rfl
  | navigationCommitted tabId contextId taskId url documentId =>
    simp only [deserialize, deserializeUrl_self h.1, deserializeIdentity_self h.2]
    rfl
  | recipeIdentified | recordingIdentified | downloadSettled =>
    simp only [deserialize, deserializeIdentity_self h]
    rfl
  | _ => rfl

end Browser

end DevManager
