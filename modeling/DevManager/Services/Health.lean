import DevManager.Domain.Id
import DevManager.Lib.Result

/-!
# Service health (`src/services/health.rs`)

The state of a service is reduced from evidence on five independent axes, and a
tracker turns probe outcomes and the passing of time into the health axis.

* `reduceService_tracked`, `reduceService_starting`: what the state of an owned
  running process can be.
* `advance_cases`, `recordProbe_cases`: the ways in which the tracker moves.
-/

namespace DevManager

/-- `ServiceState`, L7-16 -/
inductive ServiceState
  | stopped | starting | healthy | unhealthy | external | stopping | failed | unknown
deriving DecidableEq

/-- `LifecycleAxis`, L47-54 -/
inductive LifecycleAxis
  | stopped | starting | running | stopping | failed | unknown

/-- `ProcessAxis`, L57-63 -/
inductive ProcessAxis
  | absent
  | running (generation : ℕ)
  | exited (exitCode : Option ℤ)
  | crashed (generation : ℕ)
  | unknown

/-- `HealthAxis`, L66-75 -/
inductive HealthAxis
  | disabled
  | pending (nextProbeAtMs : Option ℕ)
  | healthy (lastProbeAtMs : ℕ)
  | unhealthy (lastProbeAtMs : ℕ)
  | stale (lastProbeAtMs : Option ℕ)
  | cancelled | crashed | unknown
deriving DecidableEq

/-- `PortAxis`, L78-83 -/
inductive PortAxis
  | free
  | owned (port : ℕ)
  | external (port : ℕ) (ownerPid : Option ℕ)
  | unknown
deriving DecidableEq

/-- `OwnershipAxis` (L86-93). The source keeps the text of the task's identifier, which
`TaskId::parse` reads back; here it is the identifier. -/
inductive OwnershipAxis
  | none
  | task (taskId : TaskId)
  | host | external | inconsistent | unknown

/-- `EvidenceSource`, L97-105 -/
inductive EvidenceSource
  | lifecycle | processRegistry | healthProbe | portSnapshot | admission | fakeProbe | test

/-- `EvidenceProvenance`, L108-113 -/
structure EvidenceProvenance where
  source : EvidenceSource
  observedAtMs : ℕ
  generation : Option ℕ
  epoch : Option ℕ

/-- `ServiceEvidence`, L116-126 -/
structure ServiceEvidence where
  lifecycle : LifecycleAxis
  process : ProcessAxis
  health : HealthAxis
  port : PortAxis
  ownership : OwnershipAxis
  generation : ℕ
  epoch : ℕ
  observedAtMs : ℕ
  provenance : EvidenceProvenance

namespace OwnershipAxis

/-- `matches!(ownership, Task { .. } | Host)`. -/
def owned : OwnershipAxis → Bool
  | task _ | host => true
  | _ => false

end OwnershipAxis

/-- In `reduce_service`, L137-143 -/
def ServiceEvidence.unexpectedExit (evidence : ServiceEvidence) : Bool :=
  (evidence.process matches .crashed _ | .exited _) &&
    !(evidence.lifecycle matches .stopped | .stopping)

/-- `reduce_service`, L128-204 -/
def reduceService (evidence : ServiceEvidence) : ServiceState :=
  if (evidence.port matches .external _ _) || (evidence.ownership matches .external) then .external
  else if evidence.lifecycle matches .stopping then .stopping
  else if (evidence.lifecycle matches .failed | .unknown) || evidence.unexpectedExit ||
      (evidence.ownership matches .inconsistent) then
    if (evidence.lifecycle matches .unknown) && (evidence.process matches .absent) &&
        (evidence.port matches .free) && (evidence.ownership matches .none) then .unknown
    else .failed
  else if (evidence.lifecycle matches .unknown) || (evidence.process matches .unknown) ||
      (evidence.port matches .unknown) || (evidence.ownership matches .unknown) ||
      (evidence.health matches .unknown | .stale _) then .unknown
  else if (evidence.health matches .unhealthy _) && evidence.ownership.owned then .unhealthy
  else if (evidence.lifecycle matches .stopped) && (evidence.process matches .absent | .exited _) &&
      (evidence.port matches .free) && (evidence.ownership matches .none) then .stopped
  else if evidence.lifecycle matches .starting then .starting
  else if (evidence.lifecycle matches .running) && (evidence.process matches .running _) &&
      evidence.ownership.owned then
    match evidence.health with
    | .healthy _ | .disabled => .healthy
    | .unhealthy _ => .unhealthy
    | .pending _ => .starting
    | .cancelled | .crashed => .failed
    | .unknown | .stale _ => .unknown
  else .unknown

/-! ## What the state says -/

namespace HealthAxis

/-- The axis of a tracker that was cancelled or whose process is gone. -/
def ended : HealthAxis → Bool
  | cancelled | crashed => true
  | _ => false

/-- `matches!(axis, Unhealthy { .. })`. -/
def isUnhealthy : HealthAxis → Bool
  | unhealthy _ => true
  | _ => false

end HealthAxis

section Reduce

variable {evidence : ServiceEvidence}

theorem reduceService_stopped (hstate : reduceService evidence = .stopped) :
    evidence.lifecycle = .stopped := by
  unfold reduceService at hstate
  split_ifs at hstate with _ _ _ _ _ _ hstop
  · cases hlife : evidence.lifecycle <;> simp [hlife] at hstop
    rfl
  · split at hstate <;> cases hstate

theorem reduceService_failed_cause (hstate : reduceService evidence = .failed) :
    (evidence.lifecycle = .failed ∨ evidence.lifecycle = .unknown ∨
      evidence.unexpectedExit = true ∨ evidence.ownership = .inconsistent) ∨
      evidence.health.ended = true := by
  unfold reduceService at hstate
  split_ifs at hstate with _ _ hbroken
  · refine .inl ?_
    simp only [Bool.or_eq_true, or_assoc] at hbroken
    rcases hbroken with h | h | h
    · cases hlife : evidence.lifecycle <;> simp [hlife] at h ⊢
    · exact .inr (.inr (.inl h))
    · cases howner : evidence.ownership <;> simp [howner] at h ⊢
  · refine .inr ?_
    cases hhealth : evidence.health <;> rw [hhealth] at hstate <;> first | rfl | cases hstate

theorem reduceService_tracked {generation : ℕ} (howned : evidence.ownership.owned = true)
    (hprocess : evidence.process = .running generation)
    (hlife : evidence.lifecycle = .starting ∨ evidence.lifecycle = .running ∨
      evidence.lifecycle = .stopping)
    (hhealth : evidence.health.ended = false) :
    reduceService evidence ≠ .stopped ∧ reduceService evidence ≠ .failed := by
  constructor
  · intro hstate
    have hstop := reduceService_stopped hstate
    rw [hstop] at hlife
    rcases hlife with h | h | h <;> cases h
  · intro hstate
    rcases reduceService_failed_cause hstate with (h | h | h | h) | h
    · rw [h] at hlife
      rcases hlife with h | h | h <;> cases h
    · rw [h] at hlife
      rcases hlife with h | h | h <;> cases h
    · simp [ServiceEvidence.unexpectedExit, hprocess] at h
    · rw [h] at howned
      cases howned
    · rw [h] at hhealth
      cases hhealth

theorem reduceService_failed (hstate : reduceService evidence = .failed) :
    evidence.ownership ≠ .external ∧ ∀ port pid, evidence.port ≠ .external port pid := by
  unfold reduceService at hstate
  split_ifs at hstate with hext
  all_goals
    simp only [Bool.or_eq_true, not_or] at hext
    refine ⟨fun h => hext.2 (by rw [h]), fun port pid h => hext.1 (by rw [h])⟩

theorem reduceService_starting (hlife : evidence.lifecycle = .starting)
    (hhealth : evidence.health.isUnhealthy = false)
    (hstate : reduceService evidence = .starting ∨ reduceService evidence = .healthy ∨
      reduceService evidence = .unhealthy) : reduceService evidence = .starting := by
  obtain ⟨lifecycle, process, health, port, ownership, _, _, _, _⟩ := evidence
  simp only at hlife hhealth
  subst hlife
  rcases hstate with h | h | h
  · exact h
  all_goals
    unfold reduceService at h
    split_ifs at h
    all_goals simp_all [HealthAxis.isUnhealthy]

theorem reduceService_port {other} (howned : other.ownership.owned = true)
    (howner : other.ownership = evidence.ownership) (hlife : other.lifecycle = evidence.lifecycle)
    (hprocess : other.process = evidence.process) (hhealth : other.health = evidence.health)
    (hport : other.port = .free ∨ ∃ port, other.port = .owned port)
    (hport' : evidence.port = .free ∨ ∃ port, evidence.port = .owned port) :
    reduceService other = reduceService evidence := by
  have hnone : other.ownership ≠ .none := fun h => by rw [h] at howned; cases howned
  have hnone' : evidence.ownership ≠ .none := howner ▸ hnone
  unfold reduceService ServiceEvidence.unexpectedExit
  rw [howner, hlife, hprocess, hhealth]
  cases hcase : evidence.ownership
  case none => exact absurd hcase hnone'
  all_goals
    simp only [Bool.and_false, Bool.false_eq_true, if_false]
    rcases hport with h | ⟨p, h⟩ <;> rcases hport' with h' | ⟨p', h'⟩ <;> rw [h, h']

end Reduce

/-! ## The tracker -/

/-- `HealthPolicy`, `model.rs:523-531` -/
structure HealthPolicy where
  startupDeadlineMs : ℕ
  probeIntervalMs : ℕ
  maxProbeIntervalMs : ℕ
  backoffMultiplier : ℕ
  successThreshold : ℕ
  failureThreshold : ℕ
  staleAfterMs : ℕ

/-- `default`, `model.rs:585-595` -/
def HealthPolicy.default : HealthPolicy where
  startupDeadlineMs := 30000
  probeIntervalMs := 1000
  maxProbeIntervalMs := 10000
  backoffMultiplier := 2
  successThreshold := 2
  failureThreshold := 3
  staleAfterMs := 5000

/-- `ProbeOutcome`, L207-212 -/
inductive ProbeOutcome
  | success | failure | timeout | unavailable
deriving DecidableEq

/-- `HealthError`, L437-443 -/
inductive HealthError
  | notStarted
  | notScheduled
  | notDue (dueAtMs : ℕ)
  | cancelled
  | staleGeneration (expected received : ℕ)

/-- `a.saturating_mul(b)` on `u64`. -/
def saturatingMul (a b : ℕ) : ℕ := min (a * b) u64Max

/-- `a.saturating_add(1)` on `u8`. -/
def saturatingSucc8 (a : ℕ) : ℕ := min (a + 1) 255

/-- `HealthTracker`, L251-262 -/
structure HealthTracker where
  policy : HealthPolicy
  generation : Option ℕ
  startedAtMs : Option ℕ
  lastProbeAtMs : Option ℕ
  nextProbeAtMs : Option ℕ
  currentIntervalMs : ℕ
  consecutiveSuccesses : ℕ
  consecutiveFailures : ℕ
  axis : HealthAxis
  provenance : Option EvidenceProvenance

namespace HealthTracker

/-- `new`, L267-280 -/
def new (policy : HealthPolicy) : HealthTracker where
  policy := policy
  generation := none
  startedAtMs := none
  lastProbeAtMs := none
  nextProbeAtMs := none
  currentIntervalMs := policy.probeIntervalMs
  consecutiveSuccesses := 0
  consecutiveFailures := 0
  axis := .unknown
  provenance := none

variable (tracker : HealthTracker) (nowMs generation : ℕ)

/-- `start` (L282-295), which never fails. -/
def start : HealthTracker :=
  { tracker with
    generation := some generation, startedAtMs := some nowMs, lastProbeAtMs := none,
    nextProbeAtMs := some nowMs, currentIntervalMs := tracker.policy.probeIntervalMs,
    consecutiveSuccesses := 0, consecutiveFailures := 0, provenance := none,
    axis := .pending (some nowMs) }

variable (generation : ℕ)

/-- `check_generation`, L424-433 -/
def checkGeneration : Except HealthError Unit :=
  match tracker.generation with
  | some expected =>
    if expected = generation then .ok () else .error (.staleGeneration expected generation)
  | none => .error .notStarted

/-- The outcome of a probe is counted (L340-373). -/
def count (nowMs : ℕ) (outcome : ProbeOutcome) : HealthTracker :=
  if outcome = .success then
    let successes := saturatingSucc8 tracker.consecutiveSuccesses
    let interval := tracker.policy.probeIntervalMs
    { tracker with
      consecutiveSuccesses := successes
      consecutiveFailures := 0
      currentIntervalMs := interval
      axis := if successes ≥ tracker.policy.successThreshold then .healthy nowMs
        else .pending (some (saturatingAdd nowMs interval)) }
  else
    let failures := saturatingSucc8 tracker.consecutiveFailures
    let interval := min (saturatingMul tracker.currentIntervalMs tracker.policy.backoffMultiplier)
      tracker.policy.maxProbeIntervalMs
    { tracker with
      consecutiveFailures := failures
      consecutiveSuccesses := 0
      currentIntervalMs := interval
      axis := if failures ≥ tracker.policy.failureThreshold then .unhealthy nowMs
        else .pending (some (saturatingAdd nowMs interval)) }

/-- When the next probe is due (L374-381). -/
def schedule : HealthTracker :=
  { tracker with
    nextProbeAtMs := match tracker.axis with
      | .pending nextProbeAtMs => nextProbeAtMs
      | .healthy _ =>
        tracker.lastProbeAtMs.map fun last => saturatingAdd last tracker.currentIntervalMs
      | _ => none }

/-- `record_probe`, L313-381 -/
def recordProbe (outcome : ProbeOutcome) (source : EvidenceSource) :
    Except HealthError HealthTracker := do
  tracker.checkGeneration generation
  let nextProbeAtMs ← okOr tracker.nextProbeAtMs .notScheduled
  failIf (nowMs < nextProbeAtMs) (.notDue nextProbeAtMs)
  failIf (tracker.axis.ended = true) .cancelled
  let provenance : EvidenceProvenance := ⟨source, nowMs, some generation, none⟩
  let probed := { tracker with lastProbeAtMs := some nowMs, provenance := some provenance }
  return (probed.count nowMs outcome).schedule

/-- The service was started, has not been probed, and its startup deadline has come
(L390-393). -/
def startupMissed (nowMs : ℕ) : Bool :=
  match tracker.startedAtMs, tracker.lastProbeAtMs with
  | some startedAtMs, none =>
    decide (saturatingAdd startedAtMs tracker.policy.startupDeadlineMs ≤ nowMs)
  | _, _ => false

/-- `advance`, L383-408 -/
def advance : Except HealthError HealthTracker := do
  tracker.checkGeneration generation
  if tracker.axis.ended then return tracker
  if tracker.startupMissed nowMs then
    return { tracker with axis := .unhealthy (tracker.startedAtMs.getD 0), nextProbeAtMs := none }
  match tracker.lastProbeAtMs with
  | some lastProbeAtMs =>
    if saturatingAdd lastProbeAtMs tracker.policy.staleAfterMs ≤ nowMs then
      return { tracker with axis := .stale (some lastProbeAtMs), nextProbeAtMs := some nowMs }
    else return tracker
  | none => return tracker

/-- A tracker that takes no more probes: `cancel` and `process_exit` share this
(L411-423). -/
def finish (axis : HealthAxis) (generation : ℕ) : Except HealthError HealthTracker := do
  tracker.checkGeneration generation
  return { tracker with axis, nextProbeAtMs := none }

/-- `cancel`, L410-415 -/
def cancel : Except HealthError HealthTracker :=
  tracker.finish .cancelled generation

/-- `process_exit`, L417-422 -/
def processExit : Except HealthError HealthTracker :=
  tracker.finish .crashed generation

/-! ## How the tracker moves -/

variable {tracker}

variable {generation : ℕ}

theorem checkGeneration_eq_ok :
    tracker.checkGeneration generation = .ok () ↔ tracker.generation = some generation := by
  unfold checkGeneration
  cases h : tracker.generation with
  | none => simp
  | some expected => by_cases hg : expected = generation <;> simp [hg]

/-- Time leaves the tracker alone, or makes it unhealthy at the startup deadline, or makes its
last probe stale. -/
inductive Advanced (tracker : HealthTracker) (nowMs : ℕ) (next : HealthTracker) : Prop
  | same (hnext : next = tracker)
  | missed (hended : tracker.axis.ended = false) (hmissed : tracker.startupMissed nowMs = true)
      (hnext : ∃ startedAtMs, next =
        { tracker with axis := .unhealthy startedAtMs, nextProbeAtMs := none })
  | stale (hended : tracker.axis.ended = false) (lastProbeAtMs : ℕ) (hnext : next =
        { tracker with axis := .stale (some lastProbeAtMs), nextProbeAtMs := some nowMs })

variable {next : HealthTracker}

theorem advance_cases {nowMs : ℕ} (h : tracker.advance nowMs generation = .ok next) :
    tracker.generation = some generation ∧ Advanced tracker nowMs next := by
  unfold advance at h
  simp only [ok_iff, checkGeneration_eq_ok] at h
  obtain ⟨hgen, h⟩ := h
  refine ⟨hgen, ?_⟩
  split_ifs at h with hended hmissed
  · exact .same (Except.ok.inj h).symm
  · exact .missed (by simpa using hended) hmissed ⟨_, (Except.ok.inj h).symm⟩
  · cases hlast : tracker.lastProbeAtMs with
    | none =>
      rw [hlast] at h
      exact .same (Except.ok.inj h).symm
    | some lastProbeAtMs =>
      rw [hlast] at h
      simp only at h
      split_ifs at h
      · exact .stale (by simpa using hended) lastProbeAtMs (by rw [← Except.ok.inj h, hlast])
      · exact .same (Except.ok.inj h).symm

/-- An accepted probe leaves the service healthy, unhealthy, or waiting for the next probe. -/
structure Probed (tracker next : HealthTracker) : Prop where
  generation : next.generation = tracker.generation
  ended : tracker.axis.ended = false
  axis : (∃ atMs, next.axis = .healthy atMs) ∨ (∃ atMs, next.axis = .unhealthy atMs) ∨
    ∃ atMs, next.axis = .pending atMs

theorem count_axis (nowMs : ℕ) (outcome) :
    (∃ atMs, (tracker.count nowMs outcome).axis = .healthy atMs) ∨
      (∃ atMs, (tracker.count nowMs outcome).axis = .unhealthy atMs) ∨
      ∃ atMs, (tracker.count nowMs outcome).axis = .pending atMs := by
  unfold count
  split_ifs with hout
  · by_cases h : saturatingSucc8 tracker.consecutiveSuccesses ≥ tracker.policy.successThreshold
    · exact .inl ⟨nowMs, if_pos h⟩
    · exact .inr (.inr ⟨_, if_neg h⟩)
  · by_cases h : saturatingSucc8 tracker.consecutiveFailures ≥ tracker.policy.failureThreshold
    · exact .inr (.inl ⟨nowMs, if_pos h⟩)
    · exact .inr (.inr ⟨_, if_neg h⟩)

@[simp] theorem count_generation (nowMs : ℕ) (outcome) :
    (tracker.count nowMs outcome).generation = tracker.generation := by
  unfold count
  split_ifs <;> rfl

theorem recordProbe_cases {nowMs : ℕ} {outcome source}
    (h : tracker.recordProbe nowMs generation outcome source = .ok next) :
    tracker.generation = some generation ∧ Probed tracker next := by
  unfold recordProbe at h
  simp only [ok_iff, checkGeneration_eq_ok] at h
  obtain ⟨hgen, nextProbeAtMs, _, _, hended, hnext⟩ := h
  rw [hnext]
  exact ⟨hgen, count_generation _ _, by simpa using hended, count_axis _ _⟩

theorem finish_cases {axis} (h : tracker.finish axis generation = .ok next) :
    next = { tracker with axis, nextProbeAtMs := none } := by
  unfold finish at h
  simp only [ok_iff] at h
  exact h.2

end HealthTracker

end DevManager
