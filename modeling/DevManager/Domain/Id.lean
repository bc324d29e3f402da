import Mathlib.Tactic

/-!
# Identifiers (`src/domain/id.rs`)

Every identifier of the domain is a newtype around a UUID of version 7 made by
the macro `define_id!`. The macro's family of types is one type `Uuid7` with
the newtype's name as a parameter, so identifiers of different kinds cannot be
confused. Version and variant bits are the same in every valid identifier, so
only the payload is kept; `Ord` on the newtype is the order of the payload.
-/

namespace DevManager

/-- `u64::MAX`. Values of type `u64` are modelled in `ℕ`; `checked_add` and
`saturating_add` refer to this bound. -/
def u64Max : ℕ := 2 ^ 64 - 1

/-- `a.checked_add(b)` on `u64`. -/
def checkedAdd (a b : ℕ) : Option ℕ := if a + b ≤ u64Max then some (a + b) else none

/-- `a.saturating_add(b)` on `u64`. -/
def saturatingAdd (a b : ℕ) : ℕ := min (a + b) u64Max

theorem checkedAdd_eq_some {a b c : ℕ} : checkedAdd a b = some c ↔ a + b ≤ u64Max ∧ a + b = c := by
  unfold checkedAdd
  split_ifs with h <;> simp [h]

/-- The names `define_id!` is called with. -/
inductive IdKind
  | task | agentSession | command | client | operation | event | turn | question | approval
  | resource | artifact | environment | project | browserContext | browserTab | browserRequest
  | transfer | request | route | ticket | hostPublic | devicePublic | account | outbox
  | terminal | terminalSession | input
  | promptHistory | prompt | promptVersion | promptChain | promptChainLink

/-- A UUID of version 7 (`define_id!`, `src/domain/id.rs`): the payload bits, in UUID order. -/
structure Uuid7 (kind : IdKind) where
  payload : ℕ
deriving DecidableEq

namespace Uuid7

variable {kind : IdKind}

/-- `#[derive(PartialOrd, Ord)]` of the newtype. -/
instance : Ord (Uuid7 kind) := ⟨fun a b => compare a.payload b.payload⟩

instance : Std.TransOrd (Uuid7 kind) := inferInstanceAs (Std.TransCmp (compareOn Uuid7.payload))

instance : Std.LawfulEqOrd (Uuid7 kind) where
  eq_of_compare := by
    rintro ⟨a⟩ ⟨b⟩ h
    exact congrArg Uuid7.mk (Std.LawfulEqOrd.eq_of_compare (α := ℕ) h)

end Uuid7

abbrev TaskId := Uuid7 .task
abbrev AgentSessionId := Uuid7 .agentSession
abbrev CommandId := Uuid7 .command
abbrev ClientId := Uuid7 .client
abbrev OperationId := Uuid7 .operation
abbrev EventId := Uuid7 .event
abbrev TurnId := Uuid7 .turn
abbrev QuestionId := Uuid7 .question
abbrev ApprovalId := Uuid7 .approval
abbrev ResourceId := Uuid7 .resource
abbrev ArtifactId := Uuid7 .artifact
abbrev EnvironmentId := Uuid7 .environment
abbrev ProjectId := Uuid7 .project
abbrev BrowserContextId := Uuid7 .browserContext
abbrev BrowserTabId := Uuid7 .browserTab
abbrev BrowserRequestId := Uuid7 .browserRequest
abbrev TransferId := Uuid7 .transfer
abbrev RequestId := Uuid7 .request
abbrev RouteId := Uuid7 .route
abbrev TicketId := Uuid7 .ticket
abbrev HostPublicId := Uuid7 .hostPublic
abbrev DevicePublicId := Uuid7 .devicePublic
abbrev AccountId := Uuid7 .account
abbrev OutboxId := Uuid7 .outbox
abbrev TerminalId := Uuid7 .terminal
abbrev PromptHistoryId := Uuid7 .promptHistory
abbrev PromptId := Uuid7 .prompt
abbrev PromptVersionId := Uuid7 .promptVersion
abbrev PromptChainId := Uuid7 .promptChain
abbrev PromptChainLinkId := Uuid7 .promptChainLink

end DevManager
