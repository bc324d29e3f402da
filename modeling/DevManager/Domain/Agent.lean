import DevManager.Domain.Task

/-!
# Agent sessions and artifacts (`src/domain/agent.rs`, `src/domain/artifact.rs`)

The validators of an agent registration, of a specialist's structured result and
of an artifact.

* `AgentRole.ofSpecialist_primary`: the role `PrimaryPromoted` gives to the agent
  it replaces can always be built.
-/

namespace DevManager

/-! ## `agent.rs` -/

namespace AgentRole

/-- `matches!(role, AgentRole::Primary)`. -/
def isPrimary : AgentRole → Bool
  | primary => true
  | specialist _ => false

/-- `matches!(role, AgentRole::Specialist { .. })`. -/
def isSpecialist : AgentRole → Bool
  | primary => false
  | specialist _ => true

/-- `specialist`, L247-251 -/
def ofSpecialist (name : String) : Except AgentValidationError AgentRole := do
  let name ← okOr (Canonical.boundedCanonical name) .emptySpecialistName
  pure (.specialist name)

/-- `validate`, L253-264 -/
def validate : AgentRole → Except AgentValidationError Unit
  | primary => .ok ()
  | specialist name => failIf (¬ Canonical.isBoundedCanonical name) .emptySpecialistName

@[simp] theorem isSpecialist_eq_not (role : AgentRole) : role.isSpecialist = !role.isPrimary := by
  cases role <;> rfl

theorem isPrimary_iff {role : AgentRole} : role.isPrimary = true ↔ role = .primary := by
  cases role <;> simp [isPrimary]

theorem ofSpecialist_primary : ofSpecialist "primary" = .ok (.specialist "primary") := by
  decide

end AgentRole

namespace AgentSessionFacts

/-- `validate`, L355-363 -/
def validate (agent : AgentSessionFacts) : Except AgentValidationError Unit := do
  agent.role.validate
  match agent.providerSessionId with
  | some session => failIf (¬ Canonical.isCanonical session.value) .emptyProviderSessionId
  | none => .ok ()

/-- `validate_for_registration`, L365-371 -/
def validateForRegistration (agent : AgentSessionFacts) : Except AgentValidationError Unit := do
  agent.validate
  failIf (agent.lifecycle ≠ .opened ∨ agent.revision ≠ 0) .invalidRegistrationState

theorem validateForRegistration_eq_ok {agent : AgentSessionFacts} :
    agent.validateForRegistration = .ok () ↔
      agent.validate = .ok () ∧ agent.lifecycle = .opened ∧ agent.revision = 0 := by
  unfold validateForRegistration
  simp only [ok_iff, not_or]

end AgentSessionFacts

/-! ## `artifact.rs` -/

/-- `MAX_SPECIALIST_RAW_ARTIFACT_BYTES`, `artifact.rs:11` -/
def maxSpecialistRawArtifactBytes : ℕ := 64 * 1024

/-- `byte.is_ascii_hexdigit()`. -/
def isHexDigit (c : Char) : Bool :=
  isLowerHex c || (0x41 ≤ c.toNat && c.toNat ≤ 0x46)

/-- `validate`, `artifact.rs:133-161` -/
def SpecialistResult.validate [Externals] (result : SpecialistResult) :
    Except ArtifactValidationError Unit := do
  failIf ((Canonical.boundedCanonical result.role).isNone ∨
    (Canonical.boundedCanonical result.summary).isNone) .invalidSpecialistResult
  failIf (¬ Canonical.specialistIdRefsOk result.evidence.length ∨
    ¬ Canonical.specialistIdRefsOk result.artifacts.length) .invalidSpecialistResult
  (match result.commit with
  | some commit =>
    let len := commit.utf8ByteSize
    failIf (¬ (len = 40 ∨ len = 64) ∨ ¬ commit.toList.all isHexDigit) .invalidSpecialistResult
  | none => .ok ())
  (match result.requestedFollowUp with
  | some followUp =>
    failIf (Canonical.boundedCanonical followUp).isNone .invalidSpecialistResult
  | none => .ok ())
  (match result.workspace with
  | some workspace => mapErr workspace.validate fun _ => .invalidSpecialistResult
  | none => .ok ())

namespace ArtifactContentRef

/-- `inline_utf8`, `artifact.rs:230-237` -/
def ofInlineUtf8 (body : String) : Except ArtifactValidationError ArtifactContentRef := do
  failIf (body = "") .emptyContent
  pure (.inlineUtf8 body)

/-- `validate`, `artifact.rs:254-266` -/
def validate : ArtifactContentRef → Except ArtifactValidationError Unit
  | inlineUtf8 body => failIf (body = "") .emptyContent
  | contentAddressed digestHex => failIf (¬ Canonical.isCanonical digestHex) .emptyContent

end ArtifactContentRef

namespace ArtifactFacts

/-- `canonicalize_label`, `artifact.rs:327-329` -/
def canonicalizeLabel (label : String) : Except ArtifactValidationError String :=
  okOr (Canonical.canonicalize label) .emptyLabel

/-- `validate`, `artifact.rs:331-336` -/
def validate (artifact : ArtifactFacts) : Except ArtifactValidationError Unit := do
  failIf (¬ Canonical.isCanonical artifact.label) .emptyLabel
  artifact.contentRef.validate

end ArtifactFacts

section Digest

variable [Externals]

/-- `structured_specialist_result`, `artifact.rs:195-205` -/
def structuredSpecialistResult (artifact : ArtifactFacts) :
    Except ArtifactValidationError SpecialistResult :=
  match artifact.contentRef with
  | .inlineUtf8 body => do
    failIf (body.utf8ByteSize > maxSpecialistRawArtifactBytes) .invalidSpecialistResult
    okOr (Externals.parseSpecialistResult body) .invalidSpecialistResult
  | .contentAddressed _ => .error .invalidSpecialistResult

/-- `verify_inline_content_digest`, `artifact.rs:401-414` -/
def verifyInlineContentDigest (facts : ArtifactFacts) : Except ArtifactValidationError Unit :=
  match facts.contentRef with
  | .inlineUtf8 body =>
    failIf (Externals.sha256 (asBytes body) ≠ facts.sha256) .contentDigestMismatch
  | .contentAddressed _ => .ok ()

end Digest

end DevManager
