import DevManager.Lib.Calls
import DevManager.Services.Definition

/-!
# Probes over whole runs (`src/services/health.rs`)

A tracker is watched together with what no field of it keeps: the probes that it accepted since the
last start, the time of the last call, and whether the startup deadline was found missed.

* `recordProbe_spec`, `advance_spec`: what an accepted probe and the passing of time write.
* `Watched.invariant`: what holds after every list of calls.
* `Watched.recoverable_iff`: when another probe can be accepted.
-/

namespace DevManager

open Calls Option

/-- The calls on a tracker (L282-423). -/
inductive TrackerCall
  | start (nowMs generation : ℕ)
  | recordProbe (nowMs generation : ℕ) (outcome : ProbeOutcome) (source : EvidenceSource)
  | advance (nowMs generation : ℕ)
  | cancel (nowMs generation : ℕ)
  | processExit (nowMs generation : ℕ)

namespace TrackerCall

def nowMs : TrackerCall → ℕ
  | start nowMs _ | recordProbe nowMs _ _ _ | advance nowMs _ | cancel nowMs _
  | processExit nowMs _ => nowMs

def generation : TrackerCall → ℕ
  | start _ generation | recordProbe _ generation _ _ | advance _ generation | cancel _ generation
  | processExit _ generation => generation

def isStart : TrackerCall → Bool
  | start _ _ => true
  | _ => false

/-- The call ends the tracker. -/
def isEnd : TrackerCall → Bool
  | cancel _ _ | processExit _ _ => true
  | _ => false

end TrackerCall

namespace HealthTracker

/-- What a call returns, with the tracker that it leaves. -/
def answer (tracker : HealthTracker) : TrackerCall → Except HealthError HealthTracker
  | .start nowMs generation => .ok (tracker.start nowMs generation)
  | .recordProbe nowMs generation outcome source =>
    tracker.recordProbe nowMs generation outcome source
  | .advance nowMs generation => tracker.advance nowMs generation
  | .cancel _ generation => tracker.cancel generation
  | .processExit _ generation => tracker.processExit generation

variable {tracker next : HealthTracker} {nowMs generation : ℕ} {outcome : ProbeOutcome}
  {source : EvidenceSource}

/-- The next probe is scheduled, and not later than now. -/
def Due (tracker : HealthTracker) (nowMs : ℕ) : Prop :=
  ∃ dueAtMs, tracker.nextProbeAtMs = some dueAtMs ∧ dueAtMs ≤ nowMs

/-- What an accepted probe writes. -/
structure Accepted (tracker : HealthTracker) (nowMs : ℕ) (outcome : ProbeOutcome)
    (next : HealthTracker) : Prop where
  policy : next.policy = tracker.policy
  generation : next.generation = tracker.generation
  startedAtMs : next.startedAtMs = tracker.startedAtMs
  lastProbeAtMs : next.lastProbeAtMs = some nowMs
  success : outcome = .success →
    next.consecutiveSuccesses = saturatingSucc8 tracker.consecutiveSuccesses ∧
      next.consecutiveFailures = 0 ∧ next.currentIntervalMs = tracker.policy.probeIntervalMs
  failure : outcome ≠ .success →
    next.consecutiveFailures = saturatingSucc8 tracker.consecutiveFailures ∧
      next.consecutiveSuccesses = 0 ∧
      next.currentIntervalMs =
        min (saturatingMul tracker.currentIntervalMs tracker.policy.backoffMultiplier)
          tracker.policy.maxProbeIntervalMs
  axis : (next.axis = .healthy nowMs ∧ tracker.policy.successThreshold ≤ next.consecutiveSuccesses ∧
        next.nextProbeAtMs = some (saturatingAdd nowMs next.currentIntervalMs)) ∨
      (next.axis = .unhealthy nowMs ∧
        tracker.policy.failureThreshold ≤ next.consecutiveFailures ∧ next.nextProbeAtMs = none) ∨
      ((∃ dueAtMs, next.axis = .pending dueAtMs) ∧
        next.nextProbeAtMs = some (saturatingAdd nowMs next.currentIntervalMs))

theorem recordProbe_eq_ok :
    (∃ next, tracker.recordProbe nowMs generation outcome source = .ok next) ↔
      tracker.generation = some generation ∧ tracker.Due nowMs ∧ tracker.axis.ended = false := by
  simp only [recordProbe, ok_iff, checkGeneration_eq_ok, not_lt, Bool.not_eq_true]
  constructor
  · rintro ⟨_, hgen, dueAtMs, hnext, hdue, hended, -⟩
    exact ⟨hgen, ⟨dueAtMs, hnext, hdue⟩, hended⟩
  · rintro ⟨hgen, ⟨dueAtMs, hnext, hdue⟩, hended⟩
    exact ⟨_, hgen, dueAtMs, hnext, hdue, hended, rfl⟩

theorem recordProbe_spec (h : tracker.recordProbe nowMs generation outcome source = .ok next) :
    tracker.Accepted nowMs outcome next := by
  simp only [recordProbe, ok_iff, checkGeneration_eq_ok] at h
  obtain ⟨-, dueAtMs, -, -, -, rfl⟩ := h
  unfold count
  split_ifs with hout
  · refine ⟨rfl, rfl, rfl, rfl, fun _ => ⟨rfl, rfl, rfl⟩, fun h => absurd hout h, ?_⟩
    by_cases hhealthy :
        tracker.policy.successThreshold ≤ saturatingSucc8 tracker.consecutiveSuccesses
    · left
      simp [schedule, hhealthy]
    · right
      right
      simp [schedule, hhealthy]
  · refine ⟨rfl, rfl, rfl, rfl, fun h => absurd h hout, fun _ => ⟨rfl, rfl, rfl⟩, ?_⟩
    by_cases hunhealthy :
        tracker.policy.failureThreshold ≤ saturatingSucc8 tracker.consecutiveFailures
    · right
      left
      simp [schedule, hunhealthy]
    · right
      right
      simp [schedule, hunhealthy]

theorem advance_eq (hgen : tracker.generation = some generation) :
    tracker.advance nowMs generation = .ok ( if tracker.axis.ended then tracker
      else if tracker.startupMissed nowMs then
        { tracker with axis := .unhealthy (tracker.startedAtMs.getD 0), nextProbeAtMs := none }
      else
        match tracker.lastProbeAtMs with
        | some lastProbeAtMs =>
          if saturatingAdd lastProbeAtMs tracker.policy.staleAfterMs ≤ nowMs then
            { tracker with axis := .stale (some lastProbeAtMs), nextProbeAtMs := some nowMs }
          else tracker
        | none => tracker) := by
  rw [advance, checkGeneration_eq_ok.mpr hgen, ok_bind]
  split_ifs
  · rfl
  · rfl
  · cases hlast : tracker.lastProbeAtMs with
    | none => rfl
    | some lastProbeAtMs =>
      dsimp only
      split_ifs <;> rfl

theorem answer_generation {c} (hstart : c.isStart = false)
    (h : tracker.answer c = .ok next) : tracker.generation = some c.generation := by
  cases c with
  | start => cases hstart
  | recordProbe => exact (recordProbe_eq_ok.mp ⟨next, h⟩).1
  | advance => exact (advance_cases h).1
  | cancel nowMs generation =>
    simp only [answer, cancel, finish, ok_iff, checkGeneration_eq_ok] at h
    exact h.1
  | processExit nowMs generation =>
    simp only [answer, processExit, finish, ok_iff, checkGeneration_eq_ok] at h
    exact h.1

end HealthTracker

/-! ## A tracker that is watched -/

/-- A tracker with the probes that it accepted since the last start, the last one first, the time of
the last call, and whether a call of `advance` since the last start came at the startup deadline
or later, before any probe was accepted. -/
structure Watched where
  tracker : HealthTracker
  accepted : List (ℕ × ProbeOutcome)
  missed : Bool
  clock : ℕ

namespace Watched

/-- A tracker that was not called. -/
def fresh (policy : HealthPolicy) : Watched := ⟨.new policy, [], false, 0⟩

variable (w : Watched)

/-- `advance` finds the startup deadline missed. -/
def Late (nowMs : ℕ) : Prop :=
  w.tracker.axis.ended = false ∧ w.tracker.startupMissed nowMs = true

instance (w : Watched) (nowMs : ℕ) : Decidable (w.Late nowMs) :=
  inferInstanceAs (Decidable (_ ∧ _))

variable (c : TrackerCall)

/-- A call that returns leaves the tracker of its answer, and one that fails writes nothing. -/
def call : Except HealthError Unit × Watched :=
  match w.tracker.answer c with
  | .error e => (.error e, { w with clock := c.nowMs })
  | .ok next => (.ok (),
    match c with
    | .start nowMs _ => ⟨next, [], false, nowMs⟩
    | .recordProbe nowMs _ outcome _ => ⟨next, (nowMs, outcome) :: w.accepted, w.missed, nowMs⟩
    | .advance nowMs _ => ⟨next, w.accepted, w.missed || decide (w.Late nowMs), nowMs⟩
    | .cancel nowMs _ | .processExit nowMs _ => ⟨next, w.accepted, w.missed, nowMs⟩)

/-- The times are times of 64 bits, and none is before the last one. -/
def InOrder : Prop := w.clock ≤ c.nowMs ∧ c.nowMs ≤ u64Max

/-- The call does not find the startup deadline missed. -/
def OnTime : Prop :=
  ∀ nowMs generation, c = .advance nowMs generation →
    w.tracker.generation = some generation → ¬ w.Late nowMs

variable {w : Watched} {policy : HealthPolicy}

/-- The last probes are all of one kind. -/
def LastAll (n : ℕ) (p : ProbeOutcome → Prop) (accepted : List (ℕ × ProbeOutcome)) : Prop :=
  n ≤ accepted.length ∧ ∀ probe ∈ accepted.take n, p probe.2

theorem LastAll.zero (p : ProbeOutcome → Prop) (accepted) :
    LastAll 0 p accepted :=
  ⟨Nat.zero_le _, fun _ h => absurd h List.not_mem_nil⟩

variable {accepted : List (ℕ × ProbeOutcome)}

theorem LastAll.mono {m n : ℕ} {p : ProbeOutcome → Prop}
    (h : LastAll n p accepted) (hm : m ≤ n) : LastAll m p accepted :=
  ⟨hm.trans h.1, fun probe hprobe => h.2 probe (List.take_subset_take_left accepted hm hprobe)⟩

theorem LastAll.succ {n nowMs : ℕ} {p : ProbeOutcome → Prop}
    {outcome} (h : LastAll n p accepted) (hout : p outcome) :
    LastAll (saturatingSucc8 n) p ((nowMs, outcome) :: accepted) := by
  have hsucc : LastAll (n + 1) p ((nowMs, outcome) :: accepted) := by
    refine ⟨Nat.succ_le_succ h.1, ?_⟩
    intro probe hprobe
    rw [List.take_succ_cons] at hprobe
    rcases List.mem_cons.mp hprobe with rfl | hprobe
    · exact hout
    · exact h.2 probe hprobe
  exact hsucc.mono (Nat.min_le_left _ _)

/-- What holds of a watched tracker at every time. -/
structure Inv (policy : HealthPolicy) (w : Watched) : Prop where
  samePolicy : w.tracker.policy = policy
  interval : policy.probeIntervalMs ≤ w.tracker.currentIntervalMs ∧
    w.tracker.currentIntervalMs ≤ policy.maxProbeIntervalMs
  successes : LastAll w.tracker.consecutiveSuccesses (· = .success) w.accepted
  failures : LastAll w.tracker.consecutiveFailures (· ≠ .success) w.accepted
  healthy : ∀ atMs, w.tracker.axis = .healthy atMs →
    policy.successThreshold ≤ w.tracker.consecutiveSuccesses
  unhealthy : ∀ atMs, w.tracker.axis = .unhealthy atMs →
    policy.failureThreshold ≤ w.tracker.consecutiveFailures ∨ w.missed = true
  probed : w.tracker.lastProbeAtMs = none ↔ w.accepted = []
  /-- A missed deadline has come, and leaves the tracker without a slot. -/
  missed : w.missed = true → w.accepted = [] ∧ w.tracker.nextProbeAtMs = none ∧
    ∃ startedAtMs, w.tracker.startedAtMs = some startedAtMs ∧
      saturatingAdd startedAtMs policy.startupDeadlineMs ≤ w.clock
  ended : w.tracker.axis.ended = true → w.tracker.nextProbeAtMs = none
  /-- A tracker without a slot was probed, ended, missed its deadline, or never started. -/
  slot : w.tracker.nextProbeAtMs = none → w.tracker.generation = none ∨
    w.tracker.axis.ended = true ∨ w.missed = true ∨ w.accepted ≠ []
  bounded : ∀ dueAtMs, w.tracker.nextProbeAtMs = some dueAtMs → dueAtMs ≤ u64Max
  unstarted : w.tracker.generation = none → w.tracker.startedAtMs = none

theorem inv_fresh (hpolicy : validateHealthPolicy policy = .ok ()) : Inv policy (fresh policy) := by
  rw [validateHealthPolicy, failIf_eq_ok] at hpolicy
  refine
    { samePolicy := rfl
      interval := ⟨le_refl _, by show policy.probeIntervalMs ≤ _; omega⟩
      successes := .zero _ _
      failures := .zero _ _
      healthy := nofun
      unhealthy := nofun
      probed := ⟨fun _ => rfl, fun _ => rfl⟩
      missed := nofun
      ended := nofun
      slot := fun _ => .inl rfl
      bounded := nofun
      unstarted := fun _ => rfl }

variable (h : Inv policy w)

include h

theorem Inv.later {clock : ℕ} (hclock : w.clock ≤ clock) :
    Inv policy { w with clock } where
  samePolicy := h.samePolicy
  interval := h.interval
  successes := h.successes
  failures := h.failures
  healthy := h.healthy
  unhealthy := h.unhealthy
  probed := h.probed
  missed := by
    intro hmissed
    obtain ⟨hacc, hnext, startedAtMs, hstart, hdue⟩ := h.missed hmissed
    exact ⟨hacc, hnext, startedAtMs, hstart, hdue.trans hclock⟩
  ended := h.ended
  slot := h.slot
  bounded := h.bounded
  unstarted := h.unstarted

theorem Inv.start (hpolicy : validateHealthPolicy policy = .ok ())
    {nowMs generation : ℕ} (hnow : nowMs ≤ u64Max) :
    Inv policy ⟨w.tracker.start nowMs generation, [], false, nowMs⟩ := by
  rw [validateHealthPolicy, failIf_eq_ok] at hpolicy
  refine
    { samePolicy := h.samePolicy
      interval := ?_
      successes := .zero _ _
      failures := .zero _ _
      healthy := nofun
      unhealthy := nofun
      probed := ⟨fun _ => rfl, fun _ => rfl⟩
      missed := nofun
      ended := nofun
      slot := nofun
      bounded := ?_
      unstarted := fun h => nomatch h }
  · show policy.probeIntervalMs ≤ w.tracker.policy.probeIntervalMs ∧
      w.tracker.policy.probeIntervalMs ≤ policy.maxProbeIntervalMs
    rw [h.samePolicy]
    omega
  · intro dueAtMs hdue
    obtain rfl : nowMs = dueAtMs := some.inj hdue
    exact hnow

theorem Inv.recordProbe (hpolicy : validateHealthPolicy policy = .ok ())
    {nowMs generation : ℕ} {outcome source next}
    (hnext : w.tracker.recordProbe nowMs generation outcome source = .ok next) :
    Inv policy ⟨next, (nowMs, outcome) :: w.accepted, w.missed, nowMs⟩ := by
  rw [validateHealthPolicy, failIf_eq_ok] at hpolicy
  obtain ⟨hgen, ⟨dueAtMs, hdue, -⟩, hended⟩ :=
    HealthTracker.recordProbe_eq_ok.mp ⟨next, hnext⟩
  have hspec := HealthTracker.recordProbe_spec hnext
  have hmissed : w.missed = false := by
    by_contra hmissed
    have hslot := (h.missed (Bool.not_eq_false _ ▸ hmissed)).2.1
    rw [hdue] at hslot
    cases hslot
  have hin : policy.probeIntervalMs ≤ next.currentIntervalMs ∧
      next.currentIntervalMs ≤ policy.maxProbeIntervalMs := by
    by_cases hout : outcome = .success
    · rw [(hspec.success hout).2.2, h.samePolicy]
      omega
    · rw [(hspec.failure hout).2.2, h.samePolicy]
      have hgrow : w.tracker.currentIntervalMs * 1 ≤
          w.tracker.currentIntervalMs * policy.backoffMultiplier :=
        Nat.mul_le_mul_left _ (by omega)
      have hin := h.interval
      have hmax : maxProbeIntervalMs < u64Max := by decide
      refine ⟨?_, Nat.min_le_right _ _⟩
      refine le_min (le_min ?_ ?_) ?_ <;> omega
  refine
    { samePolicy := hspec.policy.trans h.samePolicy
      interval := hin
      successes := ?_
      failures := ?_
      healthy := ?_
      unhealthy := ?_
      probed := ?_
      missed := fun h => absurd h (by rw [hmissed]; decide)
      ended := ?_
      slot := fun _ => .inr (.inr (.inr (List.cons_ne_nil _ _)))
      bounded := ?_
      unstarted := ?_ }
  · by_cases hout : outcome = .success
    · rw [(hspec.success hout).1]
      exact h.successes.succ hout
    · rw [(hspec.failure hout).2.1]
      exact .zero _ _
  · by_cases hout : outcome = .success
    · rw [(hspec.success hout).2.1]
      exact .zero _ _
    · rw [(hspec.failure hout).1]
      exact h.failures.succ hout
  · intro atMs haxis
    rcases hspec.axis with ⟨-, hlimit, -⟩ | ⟨hother, -⟩ | ⟨⟨_, hother⟩, -⟩
    · rwa [h.samePolicy] at hlimit
    · cases hother.symm.trans haxis
    · cases hother.symm.trans haxis
  · intro atMs haxis
    rcases hspec.axis with ⟨hother, -⟩ | ⟨-, hlimit, -⟩ | ⟨⟨_, hother⟩, -⟩
    · cases hother.symm.trans haxis
    · rw [h.samePolicy] at hlimit
      exact .inl hlimit
    · cases hother.symm.trans haxis
  · constructor
    · intro hlast
      cases hspec.lastProbeAtMs.symm.trans hlast
    · nofun
  · intro hended
    rcases hspec.axis with ⟨haxis, -⟩ | ⟨haxis, -⟩ | ⟨⟨_, haxis⟩, -⟩
    all_goals
      rw [haxis] at hended
      cases hended
  · intro dueAtMs hdue
    rcases hspec.axis with ⟨-, -, hnext⟩ | ⟨-, -, hnext⟩ | ⟨-, hnext⟩
    · rw [← some.inj (hnext.symm.trans hdue)]
      exact Nat.min_le_right _ _
    · cases hnext.symm.trans hdue
    · rw [← some.inj (hnext.symm.trans hdue)]
      exact Nat.min_le_right _ _
  · intro hnone
    cases hgen.symm.trans (hspec.generation.symm.trans hnone)

theorem Inv.advance {nowMs generation : ℕ} {next} (hclock : w.clock ≤ nowMs) (hnow : nowMs ≤ u64Max)
    (hnext : w.tracker.advance nowMs generation = .ok next) :
    Inv policy ⟨next, w.accepted, w.missed || decide (w.Late nowMs), nowMs⟩ := by
  have hgen := (HealthTracker.advance_cases hnext).1
  have hlater := h.later hclock
  rw [HealthTracker.advance_eq hgen, Except.ok.injEq] at hnext
  by_cases hended : w.tracker.axis.ended = true
  · rw [if_pos hended] at hnext
    subst hnext
    have hlate : ¬ w.Late nowMs := fun hlate => by rw [hlate.1] at hended; cases hended
    rw [decide_eq_false hlate, Bool.or_false]
    exact hlater
  rw [if_neg hended] at hnext
  by_cases hmissed : w.tracker.startupMissed nowMs = true
  · -- the deadline of a service that was not probed
    rw [if_pos hmissed] at hnext
    subst hnext
    have hlate : w.Late nowMs := ⟨Bool.eq_false_iff.mpr hended, hmissed⟩
    rw [decide_eq_true hlate, Bool.or_true]
    unfold HealthTracker.startupMissed at hmissed
    split at hmissed
    · rename_i startedAtMs hstart hlast
      rw [decide_eq_true_eq, h.samePolicy] at hmissed
      exact
        { h with
          healthy := nofun
          unhealthy := fun _ _ => .inr rfl
          missed := fun _ => ⟨h.probed.mp hlast, rfl, startedAtMs, hstart, hmissed⟩
          ended := fun _ => rfl
          slot := fun _ => .inr (.inr (.inl rfl))
          bounded := nofun }
    · cases hmissed
  rw [if_neg hmissed] at hnext
  have hlate : ¬ w.Late nowMs := fun hlate => hmissed hlate.2
  rw [decide_eq_false hlate, Bool.or_false]
  cases hlast : w.tracker.lastProbeAtMs with
  | none =>
    rw [hlast] at hnext
    subst hnext
    exact hlater
  | some lastProbeAtMs =>
    rw [hlast] at hnext
    dsimp only at hnext
    have hacc : w.accepted ≠ [] := by
      intro hnil
      cases hlast.symm.trans (h.probed.mpr hnil)
    have hontime : w.missed = false := by
      by_contra hmissed
      exact hacc (h.missed (by simpa using hmissed)).1
    by_cases hstale : saturatingAdd lastProbeAtMs w.tracker.policy.staleAfterMs ≤ nowMs
    · -- a stale probe gets a new slot
      rw [if_pos hstale] at hnext
      subst hnext
      exact
        { h with
          healthy := nofun
          unhealthy := nofun
          probed := ⟨nofun, fun h => absurd h hacc⟩
          missed := fun h => absurd h (by rw [hontime]; decide)
          ended := nofun
          slot := nofun
          bounded := fun dueAtMs hdue => by rw [← some.inj hdue]; exact hnow }
    · rw [if_neg hstale] at hnext
      subst hnext
      exact hlater

theorem Inv.finish {axis} (haxis : axis.ended = true) {nowMs generation : ℕ} {next}
    (hclock : w.clock ≤ nowMs) (hnext : w.tracker.finish axis generation = .ok next) :
    Inv policy ⟨next, w.accepted, w.missed, nowMs⟩ := by
  obtain rfl := HealthTracker.finish_cases hnext
  refine
    { h with
      healthy := ?_
      unhealthy := ?_
      missed := ?_
      ended := fun _ => rfl
      slot := fun _ => .inr (.inl haxis)
      bounded := nofun }
  · rintro atMs rfl
    cases haxis
  · rintro atMs rfl
    cases haxis
  · intro hmissed
    obtain ⟨hacc, -, startedAtMs, hstart, hdue⟩ := h.missed hmissed
    exact ⟨hacc, rfl, startedAtMs, hstart, hdue.trans hclock⟩

theorem Inv.call (hpolicy : validateHealthPolicy policy = .ok ())
    {c} (hord : w.InOrder c) : Inv policy (w.call c).2 := by
  unfold Watched.call
  cases hans : w.tracker.answer c with
  | error => exact h.later hord.1
  | ok next =>
    cases c with
    | start nowMs generation =>
      obtain rfl : w.tracker.start nowMs generation = next := Except.ok.inj hans
      exact h.start hpolicy hord.2
    | recordProbe => exact h.recordProbe hpolicy hans
    | advance => exact h.advance hord.1 hord.2 hans
    | cancel | processExit => exact h.finish rfl hord.1 hans

omit h

theorem invariant (hpolicy : validateHealthPolicy policy = .ok ()) {calls}
    (hord : Calls.Along call InOrder (fresh policy) calls) :
    Inv policy (after call (fresh policy) calls) :=
  along_invariant (fun _ _ h hc => h.call hpolicy hc) calls (inv_fresh hpolicy) hord

theorem clock_le {calls} (hord : Calls.Along call InOrder (fresh policy) calls) :
    (after call (fresh policy) calls).clock ≤ u64Max := by
  have hcall : ∀ (w : Watched) c, (w.call c).2.clock = c.nowMs := by
    intro w c
    unfold call
    cases w.tracker.answer c with
    | error e => rfl
    | ok next => cases c <;> rfl
  refine along_invariant (P := fun w => w.clock ≤ u64Max) ?_ calls (Nat.zero_le _) hord
  intro w c _ hc
  rw [hcall]
  exact hc.2

/-! ## Calls that change nothing -/

variable {c : TrackerCall}

theorem call_error {e} (h : w.tracker.answer c = .error e) :
    w.call c = (.error e, { w with clock := c.nowMs }) := by
  unfold call
  rw [h]

theorem call_otherGeneration (hstart : c.isStart = false)
    (hgen : w.tracker.generation ≠ some c.generation) :
    (w.call c).2 = { w with clock := c.nowMs } := by
  cases hans : w.tracker.answer c with
  | error e => rw [call_error hans]
  | ok => exact absurd (HealthTracker.answer_generation hstart hans) hgen

theorem call_notDue {nowMs generation : ℕ} {outcome source} (hdue : ¬ w.tracker.Due nowMs) :
    (w.call (.recordProbe nowMs generation outcome source)).2 = { w with clock := nowMs } := by
  cases hans : w.tracker.answer (.recordProbe nowMs generation outcome source) with
  | error e => rw [call_error hans, TrackerCall.nowMs]
  | ok => exact absurd (HealthTracker.recordProbe_eq_ok.mp ⟨_, hans⟩).2.1 hdue

/-! ## Trackers that take no more probes -/

/-- No probe is scheduled, and none will be before the next start. -/
def Shut (w : Watched) : Prop :=
  w.tracker.nextProbeAtMs = none ∧ (w.tracker.axis.ended = true ∨ w.tracker.lastProbeAtMs = none)

theorem Shut.call (h : w.Shut) {c} (hstart : c.isStart = false) :
    (w.call c).2.Shut ∧ (w.call c).2.accepted = w.accepted := by
  cases hans : w.tracker.answer c with
  | error e =>
    rw [call_error hans]
    exact ⟨h, rfl⟩
  | ok next =>
    have hfin : ∀ {axis : HealthAxis} {generation : ℕ}, axis.ended = true →
        w.tracker.finish axis generation = .ok next →
        next.nextProbeAtMs = none ∧ next.axis.ended = true := by
      intro axis generation haxis hnext
      rw [HealthTracker.finish_cases hnext]
      exact ⟨rfl, haxis⟩
    unfold Watched.call
    rw [hans]
    cases c with
    | start => cases hstart
    | recordProbe nowMs generation outcome source =>
      obtain ⟨-, ⟨dueAtMs, hdue, -⟩, -⟩ := HealthTracker.recordProbe_eq_ok.mp ⟨next, hans⟩
      cases h.1.symm.trans hdue
    | advance nowMs generation =>
      have hgen := (HealthTracker.advance_cases hans).1
      have hnext : w.tracker.advance nowMs generation = .ok next := hans
      rw [HealthTracker.advance_eq hgen, Except.ok.injEq] at hnext
      refine ⟨?_, rfl⟩
      by_cases hended : w.tracker.axis.ended = true
      · rw [if_pos hended] at hnext
        subst hnext
        exact h
      have hlast : w.tracker.lastProbeAtMs = none := h.2.resolve_left hended
      rw [if_neg hended, hlast] at hnext
      by_cases hmissed : w.tracker.startupMissed nowMs = true
      · rw [if_pos hmissed] at hnext
        subst hnext
        exact ⟨rfl, .inr rfl⟩
      · rw [if_neg hmissed] at hnext
        subst hnext
        exact h
    | cancel | processExit =>
      obtain ⟨hnone, hended⟩ := hfin rfl hans
      exact ⟨⟨hnone, .inl hended⟩, rfl⟩

theorem Shut.after (h : w.Shut) {later} (hlater : ∀ c ∈ later, c.isStart = false) :
    (after Watched.call w later).accepted = w.accepted := by
  refine (along_invariant (P := fun v => v.Shut ∧ v.accepted = w.accepted) ?_ later ⟨h, rfl⟩
    (along_of_forall hlater w)).2
  rintro v c ⟨hshut, hacc⟩ hstart
  obtain ⟨hshut', haccepted'⟩ := hshut.call hstart
  exact ⟨hshut', haccepted'.trans hacc⟩

theorem shut_of_end (hend : c.isEnd = true) (h : (w.call c).1 = .ok ()) :
    (w.call c).2.Shut ∧ (w.call c).2.accepted = w.accepted := by
  cases hans : w.tracker.answer c with
  | error e =>
    rw [call_error hans] at h
    cases h
  | ok next =>
    unfold call
    rw [hans]
    cases c with
    | cancel | processExit =>
      rw [HealthTracker.finish_cases hans]
      exact ⟨⟨rfl, .inl rfl⟩, rfl⟩
    | start => cases hend
    | recordProbe => cases hend
    | advance => cases hend

theorem Inv.shut (h : Inv policy w) (hmissed : w.missed = true) : w.Shut := by
  obtain ⟨hacc, hnext, -⟩ := h.missed hmissed
  exact ⟨hnext, .inr (h.probed.mpr hacc)⟩

/-! ## Trackers that take another probe -/

/-- A probe at this time is accepted, whatever its outcome. -/
def Accepts (tracker : HealthTracker) (nowMs : ℕ) : Prop :=
  ∃ generation, ∀ outcome source, ∃ next,
    tracker.recordProbe nowMs generation outcome source = .ok next

/-- At some later time another probe is accepted, as it is scheduled or after a call of
`advance`. -/
def Recoverable (w : Watched) : Prop :=
  ∃ nowMs, w.clock ≤ nowMs ∧ nowMs ≤ u64Max ∧ (Accepts w.tracker nowMs ∨
    ∃ generation next, w.tracker.advance nowMs generation = .ok next ∧ Accepts next nowMs)

theorem accepts_of_due {tracker} {nowMs generation : ℕ}
    (hgen : tracker.generation = some generation) (hdue : tracker.Due nowMs)
    (hended : tracker.axis.ended = false) : Accepts tracker nowMs :=
  ⟨generation, fun _ _ => HealthTracker.recordProbe_eq_ok.mpr ⟨hgen, hdue, hended⟩⟩

theorem not_accepts {tracker} {nowMs : ℕ} (h : tracker.nextProbeAtMs = none) :
    ¬ Accepts tracker nowMs := by
  rintro ⟨generation, hacc⟩
  obtain ⟨-, ⟨dueAtMs, hdue, -⟩, -⟩ :=
    HealthTracker.recordProbe_eq_ok.mp (hacc .success .healthProbe)
  cases h.symm.trans hdue

theorem Inv.recoverable_iff (h : Inv policy w) (hclock : w.clock ≤ u64Max)
    (hstart : w.tracker.generation ≠ none) (hended : w.tracker.axis.ended = false) :
    w.Recoverable ↔ w.missed = false := by
  obtain ⟨generation, hgen⟩ := ne_none_iff_exists'.mp hstart
  constructor
  · rintro ⟨nowMs, -, -, hrec⟩
    by_contra hmissed
    rw [Bool.not_eq_false] at hmissed
    obtain ⟨hnone, hlast⟩ := h.shut hmissed
    rcases hrec with hacc | ⟨other, next, hnext, hacc⟩
    · exact not_accepts hnone hacc
    · refine not_accepts ?_ hacc
      rw [HealthTracker.advance_eq (HealthTracker.advance_cases hnext).1, Except.ok.injEq,
        if_neg (by rw [hended]; decide), hlast.resolve_left (by rw [hended]; decide)] at hnext
      rw [← hnext]
      split_ifs
      · rfl
      · exact hnone
  · intro hmissed
    cases hnext : w.tracker.nextProbeAtMs with
    | some dueAtMs =>
      refine ⟨max w.clock dueAtMs, le_max_left _ _, max_le hclock (h.bounded dueAtMs hnext),
        Or.inl ?_⟩
      exact accepts_of_due hgen ⟨dueAtMs, hnext, le_max_right _ _⟩ hended
    | none =>
      -- the last probe is stale after a while
      have haccepted : w.accepted ≠ [] := by
        rcases h.slot hnext with hnone | hend | hmiss | haccepted
        · exact absurd hnone hstart
        · rw [hended] at hend
          cases hend
        · rw [hmissed] at hmiss
          cases hmiss
        · exact haccepted
      have hprobed : w.tracker.lastProbeAtMs ≠ none := fun hlast => haccepted (h.probed.mp hlast)
      obtain ⟨lastProbeAtMs, hlast⟩ := ne_none_iff_exists'.mp hprobed
      let staleAtMs := saturatingAdd lastProbeAtMs w.tracker.policy.staleAfterMs
      have hontime : w.tracker.startupMissed (max w.clock staleAtMs) = false := by
        unfold HealthTracker.startupMissed
        rw [hlast]
        split
        · rename_i hnone
          cases hnone
        · rfl
      refine ⟨max w.clock staleAtMs, le_max_left _ _, max_le hclock (Nat.min_le_right _ _),
        Or.inr ⟨generation, _, HealthTracker.advance_eq hgen, ?_⟩⟩
      rw [if_neg (by rw [hended]; decide), if_neg (by rw [hontime]; decide), hlast]
      dsimp only
      rw [if_pos (le_max_right _ _)]
      exact accepts_of_due hgen ⟨_, rfl, le_refl _⟩ rfl

/-! ## Whole runs -/

/-- What holds of a tracker in every run. -/
structure Sound (policy : HealthPolicy) (w : Watched) : Prop where
  interval : policy.probeIntervalMs ≤ w.tracker.currentIntervalMs ∧
    w.tracker.currentIntervalMs ≤ policy.maxProbeIntervalMs
  healthy : ∀ atMs, w.tracker.axis = .healthy atMs →
    LastAll policy.successThreshold (· = .success) w.accepted
  /-- The last probes failed, or the startup deadline came before any probe was accepted. -/
  unhealthy : ∀ atMs, w.tracker.axis = .unhealthy atMs →
    LastAll policy.failureThreshold (· ≠ .success) w.accepted ∨
      w.accepted = [] ∧ ∃ startedAtMs, w.tracker.startedAtMs = some startedAtMs ∧
        saturatingAdd startedAtMs policy.startupDeadlineMs ≤ w.clock
  otherGeneration : ∀ c, c.isStart = false → w.tracker.generation ≠ some c.generation →
    (w.call c).2 = { w with clock := c.nowMs }
  notDue : ∀ nowMs generation outcome source, ¬ w.tracker.Due nowMs →
    (w.call (.recordProbe nowMs generation outcome source)).2 = { w with clock := nowMs }
  ended : ∀ c, c.isEnd = true → (w.call c).1 = .ok () →
    ∀ later, (∀ c ∈ later, c.isStart = false) →
      (Calls.after call (w.call c).2 later).accepted = w.accepted

theorem Inv.sound (h : Inv policy w) : w.Sound policy where
  interval := h.interval
  healthy atMs haxis := h.successes.mono (h.healthy atMs haxis)
  unhealthy atMs haxis := by
    rcases h.unhealthy atMs haxis with hlimit | hmissed
    · exact .inl (h.failures.mono hlimit)
    · obtain ⟨hacc, -, hdeadline⟩ := h.missed hmissed
      exact .inr ⟨hacc, hdeadline⟩
  otherGeneration _ hstart hgen := call_otherGeneration hstart hgen
  notDue _ _ _ _ hdue := call_notDue hdue
  ended c hend hok later hlater := by
    obtain ⟨hshut, hacc⟩ := shut_of_end hend hok
    rw [hshut.after hlater, hacc]

theorem missed_of_onTime (h : w.missed = false) (hontime : w.OnTime c) :
    (w.call c).2.missed = false := by
  unfold call
  cases hans : w.tracker.answer c with
  | error => exact h
  | ok next =>
    cases c with
    | start => rfl
    | recordProbe => exact h
    | cancel => exact h
    | processExit => exact h
    | advance nowMs generation =>
      have hlate := hontime nowMs generation rfl (HealthTracker.advance_cases hans).1
      show (w.missed || decide (w.Late nowMs)) = false
      rw [h, decide_eq_false hlate, Bool.or_false]

end Watched

open Watched in
/-- In every run of calls at times that do not decrease, the axis says what the last probes were,
the interval keeps its bounds, and calls that are refused change nothing. A tracker that was
started and has not ended takes another probe if and only if no call of `advance` since the
start found the startup deadline missed; after such a call none is accepted before the next
start. -/
theorem health_tracker_runs {policy : HealthPolicy} (hpolicy : validateHealthPolicy policy = .ok ())
    {calls : List TrackerCall} (horder : Calls.Along call InOrder (fresh policy) calls) :
    let w := after call (fresh policy) calls
    w.Sound policy ∧
      (w.tracker.generation ≠ none → w.tracker.axis.ended = false →
        (w.Recoverable ↔ w.missed = false)) ∧
      (w.missed = true → ∀ later, (∀ c ∈ later, c.isStart = false) →
        (after call w later).accepted = []) ∧
      (Calls.Along call OnTime (fresh policy) calls → w.missed = false) := by
  intro w
  have hinv := invariant hpolicy horder
  refine ⟨hinv.sound, hinv.recoverable_iff (clock_le horder), ?_, ?_⟩
  · intro hmissed later hlater
    rw [(hinv.shut hmissed).after hlater]
    exact (hinv.missed hmissed).1
  · intro hontime
    exact along_invariant (P := fun w => w.missed = false)
      (fun _ _ h hc => missed_of_onTime h hc) calls rfl hontime

def threeFailures : List TrackerCall :=
  [.start 0 1, .recordProbe 0 1 .failure .healthProbe, .recordProbe 2000 1 .timeout .healthProbe,
    .recordProbe 6000 1 .failure .healthProbe]

theorem health_tracker_runs_threeFailures :
    let w := after Watched.call (Watched.fresh .default) threeFailures
    w.tracker.axis = .unhealthy 6000 ∧ w.Recoverable := by
  have hord : Calls.Along Watched.call Watched.InOrder (.fresh .default) threeFailures :=
    ⟨⟨by decide, by decide⟩, ⟨by decide, by decide⟩, ⟨by decide, by decide⟩,
      ⟨by decide, by decide⟩, trivial⟩
  obtain ⟨-, hrec, -, -⟩ := health_tracker_runs (by decide) hord
  exact ⟨by decide, (hrec (by decide) (by decide)).mpr (by decide)⟩

def missedDeadline : List TrackerCall := [.start 0 1, .advance 30000 1]

/-- It is unhealthy, and no probe is accepted before it is started again. -/
theorem missed_deadline_never_probed :
    validateHealthPolicy .default = .ok () ∧
      Calls.Along Watched.call Watched.InOrder (.fresh .default) missedDeadline ∧
      let w := after Watched.call (Watched.fresh .default) missedDeadline
      w.tracker.generation = some 1 ∧ w.tracker.axis = .unhealthy 0 ∧ ¬ w.Recoverable ∧
        ∀ later, (∀ c ∈ later, c.isStart = false) → (after Watched.call w later).accepted = [] := by
  have hpolicy : validateHealthPolicy .default = .ok () := by decide
  have hord : Calls.Along Watched.call Watched.InOrder (.fresh .default) missedDeadline :=
    ⟨⟨by decide, by decide⟩, ⟨by decide, by decide⟩, trivial⟩
  have hinv := Watched.invariant hpolicy hord
  have hmissed :
      (after Watched.call (Watched.fresh .default) missedDeadline).missed = true := by
    decide
  refine ⟨hpolicy, hord, by decide, by decide, ?_, ?_⟩
  · rw [hinv.recoverable_iff (Watched.clock_le hord) (by decide) (by decide), hmissed]
    decide
  · intro later hlater
    rw [(hinv.shut hmissed).after hlater]
    decide

end DevManager
