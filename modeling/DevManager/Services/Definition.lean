import DevManager.Domain.Canonical
import DevManager.Lib.OrdMap
import DevManager.Services.Health
import Mathlib.Data.List.Sort

/-!
# Service definitions (`src/services/model.rs`)

What a service is configured with, and the checks that a definition passes
before it enters a catalog. The newtypes of the source around checked strings
(`ValidatedExecutable`, `CommandArgument`, `WorkspacePath`, `EnvReference`) are
strings here; `ServiceDefinition.validate` makes their checks.

* `ServiceDefinition.effectiveExpectedPort_eq`: when a definition states the
  port that its health check probes, that is the port its launch expects.
-/

namespace DevManager

/-! ## Identifiers -/

/-- `ServiceId`, L47 -/
structure ServiceId where
  value : String
deriving DecidableEq

namespace ServiceId

/-- `#[derive(PartialOrd, Ord)]`. -/
instance : Ord ServiceId := ⟨fun a b => compare a.value b.value⟩

instance : Std.TransOrd ServiceId := inferInstanceAs (Std.TransCmp (compareOn ServiceId.value))

instance : Std.LawfulEqOrd ServiceId where
  eq_of_compare := by
    rintro ⟨a⟩ ⟨b⟩ h
    exact congrArg ServiceId.mk (Std.LawfulEqOrd.eq_of_compare (α := String) h)

end ServiceId

/-! ## Errors -/

/-- `ValidationField`, L2345-2359 -/
inductive ValidationField
  | service | serviceId | taskId | program | argument | cwd | envReference | dependency
  | healthPath | expectedPort | startupPolicy | stopPolicy | healthPolicy
deriving DecidableEq

/-- `ValidationError`, L2362-2411 -/
inductive ValidationError
  | empty (field : ValidationField)
  | tooLong (field : ValidationField) (limit : ℕ)
  | tooMany (field : ValidationField) (limit : ℕ)
  | invalidIdentifier (field : ValidationField)
  | unsafePath (field : ValidationField)
  | rawSecret (field : ValidationField)
  | invalidPort (field : ValidationField) (port : ℕ)
  | portMismatch (expectedPort healthPort : ℕ)
  | invalidPolicy (field : ValidationField)
  | duplicateServiceId (id : ServiceId)
  | duplicateDependency (service dependency : ServiceId)
  | selfDependency (service : ServiceId)
  | unknownDependency (service dependency : ServiceId)
  | dependencyCycle (path : List ServiceId)
deriving DecidableEq

/-! ## Limits (L17-32) -/

def maxServiceCount : ℕ := 64
def maxServiceIdLength : ℕ := 64
def maxProgramLength : ℕ := 256
def maxArgumentCount : ℕ := 32
def maxArgumentLength : ℕ := 256
def maxCwdLength : ℕ := 260
def maxEnvReferenceCount : ℕ := 32
def maxEnvReferenceLength : ℕ := 64
def maxDependencyCount : ℕ := 32
def maxHealthPathLength : ℕ := 128
def maxStartupDeadlineMs : ℕ := 3600000
def maxProbeIntervalMs : ℕ := 60000
def maxStopTimeoutMs : ℕ := 120000

/-! ## Checks on texts -/

variable (value : String)

/-- `value.contains(c)`. -/
def hasChar (c : Char) : Bool := value.toList.contains c

/-- `value.contains("..")`. -/
def hasDotDot : List Char → Bool
  | '.' :: '.' :: _ => true
  | _ :: cs => hasDotDot cs
  | [] => false

/-- `value.split_once('=')`. -/
def splitOnceEq : Option (String × String) :=
  match value.toList.span (· ≠ '=') with
  | (_, []) => none
  | (name, _ :: assigned) => some (String.ofList name, String.ofList assigned)

/-- `char::is_ascii_alphanumeric`. -/
def isAsciiAlphanumeric (c : Char) : Bool :=
  ('a' ≤ c && c ≤ 'z') || ('A' ≤ c && c ≤ 'Z') || ('0' ≤ c && c ≤ '9')

/-- `char::is_ascii_alphabetic`. -/
def isAsciiAlphabetic (c : Char) : Bool := ('a' ≤ c && c ≤ 'z') || ('A' ≤ c && c ≤ 'Z')

variable (field : ValidationField)

/-- `validate_text`, L2964-2975 -/
def validateText (limit : ℕ) :
    Except ValidationError Unit := do
  failIf (value = "") (.empty field)
  failIf (value.utf8ByteSize > limit) (.tooLong field limit)
  failIf (value.toList.any fun c => isControl c || c = '\x00') (.invalidIdentifier field)

/-- `validate_identifier`, L2948-2962 -/
def validateIdentifier (limit : ℕ) :
    Except ValidationError Unit := do
  validateText value field limit
  failIf (!(value.toList.all fun c => isAsciiAlphanumeric c || c = '-' || c = '_' || c = '.') ||
    value.toList.head? = some '.') (.invalidIdentifier field)

/-- `validate_relative_path`, L2977-2994 -/
def validateRelativePath : Except ValidationError Unit :=
  let components := value.toList.splitOn '/'
  failIf (value ≠ trim value ∨ hasChar value '\\' ∨
    (value ≠ "." ∧ (components.any fun c => c.isEmpty || c = ['.'])) ∨
    value.toList.head? = some '/' ∨ value.toUTF8.toList[1]? = some 0x3a ∨
    components.contains ['.', '.']) (.unsafePath field)

/-- `normalize_secret_name`, L3055-3060 -/
def normalizeSecretName : String :=
  String.ofList ((value.toList.dropWhile (· = '-')).map fun c => if c = '-' then '_' else c.toLower)

/-- `is_secret_name`, L3032-3045 -/
def isSecretName (name : String) : Bool :=
  ["token", "api_token", "access_token", "api_key", "access_key", "secret", "client_secret",
    "password", "private_key"].contains (normalizeSecretName name)

/-- The part of an argument before its first `=`. -/
def optionName : String :=
  match splitOnceEq value with
  | some (name, _) => name
  | none => value

/-- `is_secret_option`, L3047-3053 -/
def isSecretOption : Bool :=
  ["env", "set_env", "env_var", "set_env_var"].contains (normalizeSecretName (optionName value))

/-- `is_secret_assignment`, L3022-3030 -/
def isSecretAssignment : Bool :=
  "-----BEGIN ".toList.isPrefixOf value.toList ||
    match splitOnceEq value with
    | some (name, _) => isSecretName name
    | none => false

/-- `is_secret_argument`, L3010-3020 -/
def isSecretArgument : Bool :=
  ("--".toList.isPrefixOf (optionName value).toList && isSecretName (optionName value)) ||
    isSecretAssignment value ||
    match splitOnceEq value with
    | some (name, assigned) =>
      isSecretOption name &&
        match splitOnceEq assigned with
        | some (name, _) => isSecretName name
        | none => false
    | none => false

/-- `validate_executable`, L2508-2519 -/
def validateExecutable : Except ValidationError Unit := do
  validateText value .program maxProgramLength
  failIf (hasChar value '/' ∨ hasChar value '\\' ∨ hasChar value '=' ∨
    value.toList.any isWhitespace) (.unsafePath .program)

/-- `new`, L247-255 -/
def validateArgument : Except ValidationError Unit := do
  validateText value .argument maxArgumentLength
  failIf (isSecretArgument value) (.rawSecret .argument)

/-- `new`, L205-210 -/
def validateWorkspacePath : Except ValidationError Unit := do
  validateText value .cwd maxCwdLength
  validateRelativePath value .cwd

/-- `validate_env_name`, L2522-2546 -/
def validateEnvName : Except ValidationError Unit := do
  validateText value .envReference maxEnvReferenceLength
  failIf (hasChar value '=' ∨ isSecretAssignment value) (.rawSecret .envReference)
  match value.toList with
  | [] => .error (.empty .envReference)
  | first :: characters =>
    failIf (!(first = '_' || isAsciiAlphabetic first) ||
      !(characters.all fun c => c = '_' || isAsciiAlphanumeric c))
        (.invalidIdentifier .envReference)

/-- `validate_command_arguments` (L2483-2506): an argument, with those after it. -/
def validateCommandArguments : List String → Except ValidationError Unit
  | [] => .ok ()
  | argument :: rest => do
    validateArgument argument
    let inlineSecretName := match splitOnceEq argument with
      | some (option, assigned) => isSecretOption option && isSecretName assigned
      | none => false
    let splitSecretName := (splitOnceEq argument).isNone && isSecretOption argument &&
      rest[0]?.any isSecretName && rest[1]?.isSome
    failIf ((inlineSecretName && rest[0]?.isSome) || splitSecretName) (.rawSecret .argument)
    validateCommandArguments rest

/-! ## Definitions -/

/-- `ServiceScope`, L93-98 -/
inductive ServiceScope
  | task (taskId : TaskId)
  | host
deriving DecidableEq

/-- `task_id`, L115-120 -/
def ServiceScope.taskId : ServiceScope → Option TaskId
  | task taskId => some taskId
  | host => none

/-- `CommandSpec`, L343-350 -/
structure CommandSpec where
  program : String
  args : List String
  cwd : Option String
  env : List String
deriving DecidableEq

/-- `validate_command`, L2459-2481 -/
def validateCommand (command : CommandSpec) : Except ValidationError Unit := do
  validateExecutable command.program
  failIf (command.args.length > maxArgumentCount) (.tooMany .argument maxArgumentCount)
  validateCommandArguments command.args
  command.cwd.toList.forM validateWorkspacePath
  failIf (command.env.length > maxEnvReferenceCount) (.tooMany .envReference maxEnvReferenceCount)
  command.env.forM validateEnvName

/-- `HealthSpec`, L599-610 -/
inductive HealthSpec
  | none
  | tcp (port : ℕ) (policy : HealthPolicy)
  | http (port : ℕ) (path : String) (policy : HealthPolicy)

namespace HealthSpec

/-- `policy` of a health check. -/
def policy : HealthSpec → Option HealthPolicy
  | none => .none
  | tcp _ policy | http _ _ policy => some policy

/-- `health_port`, L3003-3008 -/
def port : HealthSpec → Option ℕ
  | none => .none
  | tcp port _ | http port _ _ => some port

end HealthSpec

/-- `validate_port`, L2996-3001 -/
def validatePort (port : ℕ) (field : ValidationField) : Except ValidationError Unit :=
  failIf (port = 0) (.invalidPort field port)

/-- `validate_health_policy`, L2906-2924 -/
def validateHealthPolicy (policy : HealthPolicy) : Except ValidationError Unit :=
  failIf (policy.startupDeadlineMs = 0 ∨ policy.startupDeadlineMs > maxStartupDeadlineMs ∨
    policy.probeIntervalMs = 0 ∨ policy.probeIntervalMs > policy.startupDeadlineMs ∨
    policy.maxProbeIntervalMs < policy.probeIntervalMs ∨
    policy.maxProbeIntervalMs > maxProbeIntervalMs ∨
    ¬ (1 ≤ policy.backoffMultiplier ∧ policy.backoffMultiplier ≤ 4) ∨
    ¬ (1 ≤ policy.successThreshold ∧ policy.successThreshold ≤ 10) ∨
    ¬ (1 ≤ policy.failureThreshold ∧ policy.failureThreshold ≤ 10) ∨
    policy.staleAfterMs < policy.probeIntervalMs ∨ policy.staleAfterMs > maxProbeIntervalMs)
    (.invalidPolicy .healthPolicy)

/-- `validate_health`, L2886-2904 -/
def validateHealth : HealthSpec → Except ValidationError Unit
  | .none => .ok ()
  | .tcp port policy => do
    validatePort port .expectedPort
    validateHealthPolicy policy
  | .http port path policy => do
    validatePort port .expectedPort
    validateText path .healthPath maxHealthPathLength
    failIf (path.toList.head? ≠ some '/' ∨ hasDotDot path.toList) (.unsafePath .healthPath)
    validateHealthPolicy policy

/-- `StartupPolicy` (L687-690), the checked field. -/
structure StartupPolicy where
  restartLimit : ℕ

/-- `StopPolicy`, L738-741 -/
structure StopPolicy where
  gracefulTimeoutMs : ℕ
  killAfterMs : ℕ

/-- `validate_startup_policy`, L2926-2933 -/
def validateStartupPolicy (policy : StartupPolicy) : Except ValidationError Unit :=
  failIf (policy.restartLimit > 10) (.invalidPolicy .startupPolicy)

/-- `validate_stop_policy`, L2935-2946 -/
def validateStopPolicy (policy : StopPolicy) : Except ValidationError Unit :=
  failIf (policy.gracefulTimeoutMs = 0 ∨ policy.gracefulTimeoutMs > maxStopTimeoutMs ∨
    policy.killAfterMs < policy.gracefulTimeoutMs ∨ policy.killAfterMs > maxStopTimeoutMs)
    (.invalidPolicy .stopPolicy)

/-- `ServiceDefinition` (L789-798). The only protocol of a port is TCP. -/
structure ServiceDefinition where
  id : ServiceId
  scope : ServiceScope
  command : CommandSpec
  dependencies : List ServiceId
  health : HealthSpec
  startup : StartupPolicy
  stop : StopPolicy
  expectedPort : Option ℕ

namespace ServiceDefinition

variable (definition : ServiceDefinition)

/-- The loop over the dependencies (L869-888); `seen` are the ones before. -/
def validateDependencies : (seen dependencies : List ServiceId) → Except ValidationError Unit
  | _, [] => .ok ()
  | seen, dependency :: rest => do
    validateIdentifier dependency.value .dependency maxServiceIdLength
    failIf (dependency = definition.id) (.selfDependency definition.id)
    failIf (dependency ∈ seen) (.duplicateDependency definition.id dependency)
    validateDependencies (dependency :: seen) rest

/-- The check of the two ports (L892-902). -/
def validatePorts : Except ValidationError Unit :=
  match definition.expectedPort with
  | none => .ok ()
  | some expectedPort => do
    validatePort expectedPort .expectedPort
    match definition.health.port with
    | none => .ok ()
    | some healthPort =>
      failIf (expectedPort ≠ healthPort) (.portMismatch expectedPort healthPort)

/-- `validate`, L857-904 -/
def validate : Except ValidationError Unit := do
  validateIdentifier definition.id.value .serviceId maxServiceIdLength
  validateCommand definition.command
  failIf (definition.dependencies.length > maxDependencyCount)
    (.tooMany .dependency maxDependencyCount)
  definition.validateDependencies [] definition.dependencies
  validateHealth definition.health
  validateStartupPolicy definition.startup
  validateStopPolicy definition.stop
  definition.validatePorts

/-- `effective_expected_port`, L906-913 -/
def effectiveExpectedPort : Option ℕ := definition.expectedPort.or definition.health.port

variable {definition} in
theorem effectiveExpectedPort_eq
    (h : definition.health.port.isSome = true → definition.expectedPort.isSome = true) :
    definition.effectiveExpectedPort = definition.expectedPort := by
  unfold effectiveExpectedPort
  cases hexp : definition.expectedPort with
  | some port => rfl
  | none =>
    cases hhealth : definition.health.port with
    | none => rfl
    | some port =>
      rw [hexp, hhealth] at h
      exact absurd (h rfl) (by simp)

/-- `canonical_dependencies`, L2877-2880 -/
def canonical : ServiceDefinition :=
  { definition with
    dependencies := definition.dependencies.insertionSort fun a b => (compare a b).isLE = true }

end ServiceDefinition

/-- `LaunchIntent`, L917-923 -/
structure LaunchIntent where
  serviceId : ServiceId
  scope : ServiceScope
  command : CommandSpec
  dependencies : List ServiceId
  expectedPort : Option ℕ
deriving DecidableEq

end DevManager
