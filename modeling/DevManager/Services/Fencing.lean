import DevManager.Services.Ports

/-!
# Fences and generations

The fence of a service is its generation and its epoch. A stop and a launch pass
to the next numbers; an exit keeps them. A failed launch writes the numbers that
follow the admitted fence, which inside a restart are those of the stop before.

* `Move.advanced`, `call_advanced`: what a move, and a call, does to the numbers and
  the handle of a service.
-/

namespace DevManager

open Std (ExtTreeMap)
open ManagedLaunchAuthority (Pending Live liveGeneration)
open ManagedLaunchAuthority (prepareSuspended registerSuspended resume teardown)
open Calls Option

variable {A : Type} [ManagedLaunchAuthority A]

/-! ## Numbers and handles -/

/-- The numbers of a service do not decrease, and while they stay the same its handle stays, or is
taken away where `gone` says so. -/
structure ServiceRuntime.Advanced (gone : Prop) (runtime next : ServiceRuntime A) : Prop where
  generation : runtime.evidence.generation ≤ next.evidence.generation
  epoch : runtime.evidence.epoch ≤ next.evidence.epoch
  live : next.evidence.generation = runtime.evidence.generation →
    next.evidence.epoch = runtime.evidence.epoch →
      next.live = runtime.live ∨ (next.live = none ∧ gone)

namespace ServiceRuntime

variable {gone : Prop} {runtime next : ServiceRuntime A}

theorem Advanced.refl : Advanced gone runtime runtime := ⟨le_rfl, le_rfl, fun _ _ => Or.inl rfl⟩

theorem SameProcess.advanced (h : SameProcess runtime next) : Advanced gone runtime next :=
  ⟨h.generation.ge, h.epoch.ge, fun _ _ => .inl h.live⟩

theorem Advanced.trans {a b c : ServiceRuntime A} (h₁ : Advanced gone a b)
    (h₂ : Advanced gone b c) :
    Advanced gone a c := by
  refine ⟨h₁.generation.trans h₂.generation, h₁.epoch.trans h₂.epoch, fun hgen hepoch => ?_⟩
  have hsame : b.evidence.generation = a.evidence.generation :=
    le_antisymm (hgen ▸ h₂.generation) h₁.generation
  have hsame' : b.evidence.epoch = a.evidence.epoch := le_antisymm (hepoch ▸ h₂.epoch) h₁.epoch
  rcases h₂.live (hgen.trans hsame.symm) (hepoch.trans hsame'.symm) with hlive | hnone
  · rw [hlive]
    exact h₁.live hsame hsame'
  · exact .inr hnone

end ServiceRuntime

namespace ServiceSupervisor

variable {s s' : ServiceSupervisor A} {allowed : SupervisorFault → Prop}

variable (allowed)

/-- The handle of the service may go although its numbers stay. -/
def Gone (id : ServiceId) : Prop :=
  allowed (.exited id) ∨ allowed .overflow

/-- What a move does to the numbers and the handle of a service. -/
def AdvancedAt (s s' : ServiceSupervisor A) : Prop :=
  ∀ (id : ServiceId) runtime, s.runtimes[id]? = some runtime →
    ∃ next, s'.runtimes[id]? = some next ∧ runtime.Advanced (Gone allowed id) next

variable {allowed}

theorem AdvancedAt.of_eq (h : s'.runtimes = s.runtimes) : AdvancedAt allowed s s' :=
  fun _ runtime hget => ⟨runtime, h ▸ hget, .refl⟩

variable {id : ServiceId}

theorem AdvancedAt.of_insert {runtime next}
    (hget : s.runtimes[id]? = some runtime) (h : s'.runtimes = s.runtimes.insert id next)
    (hnext : runtime.Advanced (Gone allowed id) next) : AdvancedAt allowed s s' := by
  intro k other hother
  rw [h, OrdMap.getElem?_insert_eq]
  split_ifs with hk
  · subst hk
    rw [hget] at hother
    cases hother
    exact ⟨next, rfl, hnext⟩
  · exact ⟨other, hother, .refl⟩

theorem AdvancedAt.trans {t u : ServiceSupervisor A} (h₁ : AdvancedAt allowed s t)
    (h₂ : AdvancedAt allowed t u) : AdvancedAt allowed s u := by
  intro id runtime hget
  obtain ⟨middle, hmid, hfst⟩ := h₁ id runtime hget
  obtain ⟨next, hnext, hsnd⟩ := h₂ id middle hmid
  exact ⟨next, hnext, hfst.trans hsnd⟩

theorem Move.advanced (hmove : s.Move allowed s') : AdvancedAt allowed s s' := by
  cases hmove with
  | idle _ _ _ hrun _ _ _ => exact .of_eq hrun
  | projected id => exact .of_eq (project_runtimes id)
  | quiet id runtime next hget hquiet =>
    exact .of_insert hget (put_runtimes id next) hquiet.sameProcess.advanced
  | managed port id runtime hget _ _ =>
    have hsame : runtime.SameProcess (runtime.managed s.nowMs port) := ⟨rfl, rfl, rfl, rfl⟩
    exact .of_insert hget rfl hsame.advanced
  | ended id runtime next hget hended _ hexited =>
    refine .of_insert hget ((release_runtimes id _).trans (put_runtimes id next)) ?_
    rcases hended.numbers with ⟨hgen, hepoch⟩ | ⟨hgen, hepoch⟩
    · refine ⟨hgen.ge, hepoch.ge, fun _ _ => ?_⟩
      rw [hended.live]
      by_cases hlive : runtime.live.isSome = true
      · exact .inr ⟨rfl, .inl (hexited hgen hlive)⟩
      · exact .inl (not_isSome_iff_eq_none.mp hlive).symm
    · exact ⟨by omega, by omega, fun hsame => by omega⟩
  | failed id runtime generation epoch hget hlive hnext _ =>
    refine .of_insert hget ((release_runtimes id _).trans
      (put_runtimes id (runtime.failed s.nowMs generation epoch))) ?_
    exact ⟨hnext.1, hnext.2, fun _ _ => .inl rfl⟩
  | overflowed id runtime hget hallowed =>
    refine .of_insert hget (put_runtimes id _) ⟨le_rfl, le_rfl, fun _ _ => ?_⟩
    by_cases hlive : runtime.live.isSome = true
    · exact .inr ⟨rfl, .inr (hallowed hlive)⟩
    · exact .inl (not_isSome_iff_eq_none.mp hlive).symm
  | started id runtime generation epoch intent live hget _ _ _ hnext _ _ =>
    refine .of_insert hget (started_runtimes live) ?_
    obtain ⟨rfl, rfl⟩ := hnext
    exact ⟨Nat.le_succ _, Nat.le_succ _, fun hsame => absurd hsame (Nat.succ_ne_self _)⟩
  | blocked | freed => exact .of_eq rfl

theorem Moves.advanced (hmoves : s.Moves allowed s') : AdvancedAt allowed s s' := by
  induction hmoves with
  | refl => exact .of_eq rfl
  | tail _ hmove ih => exact ih.trans hmove.advanced

/-- A live handle has the generation of the evidence. -/
def LiveExact (s : ServiceSupervisor A) : Prop :=
  ∀ (id : ServiceId) runtime live, s.runtimes[id]? = some runtime →
    runtime.live = some live → liveGeneration live = runtime.evidence.generation

theorem LiveExact.of_eq (h : s.LiveExact) (hrun : s'.runtimes = s.runtimes) :
    s'.LiveExact := by
  intro id runtime live hget hlive
  rw [hrun] at hget
  exact h id runtime live hget hlive

theorem LiveExact.of_insert (h : s.LiveExact) {next}
    (hrun : s'.runtimes = s.runtimes.insert id next)
    (hnext : ∀ live, next.live = some live → liveGeneration live = next.evidence.generation) :
    s'.LiveExact := by
  intro k runtime live hget hlive
  rw [hrun] at hget
  rcases OrdMap.of_insert hget with ⟨hk, rfl⟩ | ⟨hk, hget⟩
  · exact hnext live hlive
  · exact h k runtime live hget hlive

theorem LiveExact.same (h : s.LiveExact) {runtime next}
    (hget : s.runtimes[id]? = some runtime) (hsame : runtime.SameProcess next) {live}
    (hlive : next.live = some live) : liveGeneration live = next.evidence.generation := by
  rw [hsame.generation]
  exact h id runtime live hget (hsame.live ▸ hlive)

theorem Move.liveExact (hfaithful : LaunchesFaithfully A) (h : s.LiveExact)
    (hmove : s.Move allowed s') : s'.LiveExact := by
  cases hmove with
  | idle _ _ _ hrun _ _ _ => exact h.of_eq hrun
  | projected id => exact h.of_eq (project_runtimes id)
  | quiet id runtime next hget hquiet =>
    exact h.of_insert (put_runtimes id next) fun live hlive => h.same hget hquiet.sameProcess hlive
  | managed port id runtime hget _ _ =>
    have hsame : runtime.SameProcess (runtime.managed s.nowMs port) := ⟨rfl, rfl, rfl, rfl⟩
    exact h.of_insert rfl fun live hlive => h.same hget hsame hlive
  | ended id runtime next hget hended _ _ =>
    refine h.of_insert ((release_runtimes id _).trans (put_runtimes id next)) fun live hlive => ?_
    rw [hended.live] at hlive
    cases hlive
  | failed id runtime generation epoch hget hnone _ _ =>
    refine h.of_insert ((release_runtimes id _).trans
      (put_runtimes id (runtime.failed s.nowMs generation epoch))) fun live hlive => ?_
    have hsome : runtime.live = some live := hlive
    rw [hnone] at hsome
    cases hsome
  | overflowed id runtime _ _ =>
    exact h.of_insert (put_runtimes id _) nofun
  | started id runtime generation epoch intent live _ _ _ _ _ _ hgen =>
    refine h.of_insert (started_runtimes live) fun other hlive => ?_
    cases hlive
    exact hgen hfaithful
  | blocked | freed => exact h.of_eq rfl

theorem Moves.liveExact (hfaithful : LaunchesFaithfully A) (h : s.LiveExact)
    (hmoves : s.Moves allowed s') : s'.LiveExact := by
  induction hmoves with
  | refl => exact h
  | tail _ hmove ih => exact hmove.liveExact hfaithful ih

theorem reachable_liveExact (hfaithful : LaunchesFaithfully A) (hfresh : s.Fresh)
    (calls) : (after call s calls).LiveExact := by
  have hstart : s.LiveExact := by
    intro id runtime live hget hlive
    rw [(hfresh.runtime hget).1] at hlive
    cases hlive
  exact (reachable_moves hfresh calls).liveExact hfaithful hstart

/-- The generations and the epochs are below the largest `u64`. -/
def BelowMax (s : ServiceSupervisor A) : Prop :=
  ∀ (id : ServiceId) runtime, s.runtimes[id]? = some runtime →
    runtime.evidence.generation < u64Max ∧ runtime.evidence.epoch < u64Max

theorem call_advanced (h : s.Base) (hbelow : s.BelowMax) (c)
    {runtime} (hget : s.runtimes[id]? = some runtime) :
    ∃ next : ServiceRuntime A, (s.call c).2.runtimes[id]? = some next ∧
      runtime.Advanced (s.MayExit c (id, runtime.evidence.generation)) next := by
  obtain ⟨next, hnext, hadv⟩ := (call_moves h c fun _ hfault => hfault).advanced id runtime hget
  refine ⟨next, hnext, hadv.generation, hadv.epoch, fun hgen hepoch => ?_⟩
  rcases hadv.live hgen hepoch with hlive | ⟨hnone, hgone | hover⟩
  · exact .inl hlive
  · obtain ⟨other, hother, _, hexit⟩ := hgone
    rw [hget] at hother
    cases hother
    exact .inr ⟨hnone, hexit⟩
  · obtain ⟨other, runtime', hget', _, _, hfits⟩ := hover
    have hnums := hbelow other runtime' hget'
    exact absurd ⟨hnums.1, hnums.2⟩ hfits

end ServiceSupervisor

/-! ## Launch attempts -/

/-- An authority, the launches it was asked to prepare (the label and the generation of each, the
last one first), and how many of them failed. -/
structure Recorded (A : Type) where
  authority : A
  attempts : List (String × ℕ)
  failures : ℕ

namespace Recorded

/-- A failed call of a launch is counted. -/
def count {α : Type} (result : Except SupervisorError α) (failures : ℕ) : ℕ :=
  match result with
  | .ok _ => failures
  | .error _ => failures + 1

instance : ManagedLaunchAuthority (Recorded A) where
  Pending := Pending A
  Live := Live A
  prepareSuspended record spec :=
    let (result, authority) := ManagedLaunchAuthority.prepareSuspended record.authority spec
    (result, ⟨authority, (spec.displayLabel, spec.generation) :: record.attempts,
      count result record.failures⟩)
  registerSuspended record pending :=
    let (result, authority) := ManagedLaunchAuthority.registerSuspended record.authority pending
    (result, ⟨authority, record.attempts, count result record.failures⟩)
  resume record pending :=
    let (result, authority) := ManagedLaunchAuthority.resume record.authority pending
    (result, ⟨authority, record.attempts, count result record.failures⟩)
  teardown record live fence :=
    let (result, authority) := ManagedLaunchAuthority.teardown record.authority live fence
    (result, ⟨authority, record.attempts, record.failures⟩)
  takeExit record live := ManagedLaunchAuthority.takeExit record.authority live
  liveGeneration live := liveGeneration live

variable {record : Recorded A}

theorem torn {next} (h : ServiceSupervisor.TornDown record next) :
    next.attempts = record.attempts ∧ next.failures = record.failures := by
  cases h with
  | same => exact ⟨rfl, rfl⟩
  | torn live fence =>
    unfold tearDown
    cases hdown : teardown record live fence with
    | mk result authority =>
      have hauthority : authority.attempts = record.attempts ∧
          authority.failures = record.failures := by
        have hkeep : (teardown record live fence).2.attempts =
            record.attempts ∧ (teardown record live fence).2.failures =
              record.failures := ⟨rfl, rfl⟩
        rw [hdown] at hkeep
        exact hkeep
      cases result with
      | ok | error => exact hauthority

variable {result : Except SupervisorError (Pending A)}

theorem prepared {next spec} (h : prepareSuspended record spec = (result, next)) :
    next.attempts = (spec.displayLabel, spec.generation) :: record.attempts ∧
      next.failures = count result record.failures := by
  cases h
  exact ⟨rfl, rfl⟩

theorem registered {next pending} (h : registerSuspended record pending = (result, next)) :
    next.attempts = record.attempts ∧ next.failures = count result record.failures := by
  cases h
  exact ⟨rfl, rfl⟩

theorem resumed {record next : Recorded A} {pending result}
    (h : resume record pending = (result, next)) :
    next.attempts = record.attempts ∧ next.failures = count result record.failures := by
  cases h
  exact ⟨rfl, rfl⟩

theorem faithful (h : ServiceSupervisor.LaunchesFaithfully A) :
    ServiceSupervisor.LaunchesFaithfully (Recorded A) := by
  obtain ⟨generation, hpre, hreg, hresume⟩ := h
  refine ⟨generation, fun record next spec pending hcall => ?_,
    fun record next pending registered hcall => ?_, fun record next pending live hcall => ?_⟩
  · have hres : (prepareSuspended record.authority spec).1 = .ok pending :=
      congrArg Prod.fst hcall
    exact hpre record.authority _ spec pending (Prod.ext hres rfl)
  · have hres : (registerSuspended record.authority pending).1 =
        .ok registered := congrArg Prod.fst hcall
    exact hreg record.authority _ pending registered (Prod.ext hres rfl)
  · have hres : (resume record.authority pending).1 = .ok live :=
      congrArg Prod.fst hcall
    exact hresume record.authority _ pending live (Prod.ext hres rfl)

end Recorded

namespace ServiceSupervisor

variable {s s' : ServiceSupervisor (Recorded A)} {allowed : SupervisorFault → Prop}

/-- No generation was launched twice, and none beyond the generation of its service. -/
structure AttemptsOk (s : ServiceSupervisor (Recorded A)) : Prop where
  nodup : s.authority.attempts.Nodup
  bounded : ∀ attempt ∈ s.authority.attempts, ∃ runtime,
    s.runtimes[(⟨attempt.1⟩ : ServiceId)]? = some runtime ∧ attempt.2 ≤ runtime.evidence.generation

theorem AttemptsOk.of_advanced (h : s.AttemptsOk) (hadv : AdvancedAt allowed s s')
    (htries : s'.authority.attempts = s.authority.attempts) : s'.AttemptsOk := by
  refine ⟨htries ▸ h.nodup, fun attempt hmem => ?_⟩
  rw [htries] at hmem
  obtain ⟨runtime, hget, hle⟩ := h.bounded attempt hmem
  obtain ⟨next, hnext, hmove⟩ := hadv _ runtime hget
  exact ⟨next, hnext, hle.trans hmove.generation⟩

theorem Move.attempts (hmove : s.Move allowed s') (hnone : ¬ allowed .attempted) :
    s'.authority.attempts = s.authority.attempts ∧ s'.authority.failures =
      s.authority.failures := by
  cases hmove with
  | idle _ _ _ _ _ _ hauthority => exact Recorded.torn (hauthority.resolve_right hnone)
  | projected id =>
    unfold projectRuntime
    split <;> exact ⟨rfl, rfl⟩
  | quiet | overflowed => rw [put_eq]; exact ⟨rfl, rfl⟩
  | managed | blocked | freed => exact ⟨rfl, rfl⟩
  | ended id runtime next _ _ _ _ =>
    obtain ⟨ports, hports⟩ := releasePortFor_eq (s.put id next) id runtime.evidence.generation
    rw [hports, put_eq]
    exact ⟨rfl, rfl⟩
  | failed id runtime generation epoch _ _ _ _ =>
    obtain ⟨ports, hports⟩ :=
      releasePortFor_eq (s.put id (runtime.failed s.nowMs generation epoch)) id generation
    rw [hports, put_eq]
    exact ⟨rfl, rfl⟩
  | started id runtime generation epoch intent live _ _ _ _ _ _ _ =>
    unfold ServiceSupervisor.started
    rw [put_eq]
    exact ⟨rfl, rfl⟩

theorem Moves.attempts (hmoves : s.Moves allowed s') (hnone : ¬ allowed .attempted) :
    s'.authority.attempts = s.authority.attempts ∧ s'.authority.failures =
      s.authority.failures := by
  induction hmoves with
  | refl => exact ⟨rfl, rfl⟩
  | tail _ hmove ih =>
    obtain ⟨htries, hfails⟩ := hmove.attempts hnone
    exact ⟨htries.trans ih.1, hfails.trans ih.2⟩

/-- What a call of `launch` records: nothing and an error, or an attempt that succeeded or is
counted as failed. -/
inductive LaunchRecord (id : ServiceId) (generation : ℕ) (s : ServiceSupervisor (Recorded A))
    (result : Except SupervisorError Unit × ServiceSupervisor (Recorded A)) : Prop
  | refused (error : SupervisorError) (herror : result.1 = .error error)
      (htries : result.2.authority.attempts = s.authority.attempts)
      (hfails : result.2.authority.failures = s.authority.failures)
  | launched (hok : result.1 = .ok ())
      (htries : result.2.authority.attempts = (id.value, generation) :: s.authority.attempts)
      (hfails : result.2.authority.failures = s.authority.failures)
  | failed (error : SupervisorError) (herror : result.1 = .error error)
      (htries : result.2.authority.attempts = (id.value, generation) :: s.authority.attempts)
      (hfails : result.2.authority.failures = s.authority.failures + 1)

variable {id : ServiceId}

theorem launch_record {runtime} {generation epoch : ℕ} {intent} :
    LaunchRecord id generation s (s.launch id runtime generation epoch intent) := by
  unfold launch
  split
  · exact .refused _ rfl rfl rfl
  · rename_i spec hspec
    have hlabel : (spec.displayLabel, spec.generation) = (id.value, generation) := by
      rw [launchSpec_generation hspec, launchSpec_label hspec]
    split
    · rename_i error authority hpre
      obtain ⟨htries, hfails⟩ := Recorded.prepared hpre
      exact .failed error rfl (hlabel ▸ htries) hfails
    · rename_i pending prepared hpre
      obtain ⟨htries, hfails⟩ := Recorded.prepared hpre
      rw [hlabel] at htries
      split
      · rename_i error authority hreg
        obtain ⟨hsame, hcount⟩ := Recorded.registered hreg
        exact .failed error rfl (hsame.trans htries) (hcount.trans (congrArg (· + 1) hfails))
      · rename_i registered held hreg
        obtain ⟨hsame, hcount⟩ := Recorded.registered hreg
        split
        · rename_i error authority hres
          obtain ⟨hsame', hcount'⟩ := Recorded.resumed hres
          exact .failed error rfl (hsame'.trans (hsame.trans htries))
            (hcount'.trans (congrArg (· + 1) (hcount.trans hfails)))
        · rename_i live authority hres
          obtain ⟨hsame', hcount'⟩ := Recorded.resumed hres
          have hstart : ∀ t : ServiceSupervisor (Recorded A),
              (t.started id runtime generation epoch intent.expectedPort live).authority =
                t.authority := fun t => by
            unfold ServiceSupervisor.started
            rw [put_eq]
          refine .launched rfl ?_ ?_
          · rw [hstart]
            exact hsame'.trans (hsame.trans htries)
          · rw [hstart]
            exact hcount'.trans (hcount.trans hfails)

theorem startMember_record (fence) (intent) {runtime} (hget : s.runtimes[id]? = some runtime)
    (hlive : runtime.live = none) :
    LaunchRecord id (runtime.evidence.generation + 1) s (s.startMember id fence intent) ∧
      ((s.startMember id fence intent).2.authority.attempts = s.authority.attempts ∨
        runtime.evidence.generation + 1 ≤ u64Max) := by
  unfold startMember
  rw [hget]
  simp only
  split_ifs
  · exact ⟨.refused _ rfl rfl rfl, .inl rfl⟩
  · split
    · rename_i error t hdeny
      have hmoves : s.Moves (fun _ => False) t :=
        (portRefusal_spec ⟨runtime, hget, hlive⟩ hdeny).1
      obtain ⟨htries, hfails⟩ := hmoves.attempts not_false
      exact ⟨.refused error rfl htries hfails, .inl htries⟩
    · split
      · rename_i generation epoch hgen _
        obtain ⟨hle, rfl⟩ := checkedAdd_eq_some.mp hgen
        exact ⟨launch_record, .inr hle⟩
      · exact ⟨.refused _ rfl rfl rfl, .inl rfl⟩

theorem failMember_record (id) (generation epoch : ℕ) :
    (s.failMember id generation epoch).authority.attempts = s.authority.attempts ∧
      (s.failMember id generation epoch).authority.failures = s.authority.failures := by
  unfold failMember
  split
  · obtain ⟨ports, hports⟩ := releasePortFor_eq s id generation
    rw [hports]
    exact ⟨rfl, rfl⟩
  · rename_i runtime _
    have htorn : TornDown s.authority
        (tearDown s.authority runtime.live ⟨runtime.resourceId, generation⟩).2.2 := .torn _ _ _
    cases hdown : tearDown s.authority runtime.live ⟨runtime.resourceId, generation⟩ with
    | mk result rest =>
      obtain ⟨live, authority⟩ := rest
      rw [hdown] at htorn
      obtain ⟨ports, hports⟩ := releasePortFor_eq
        (({ s with authority } : ServiceSupervisor (Recorded A)).put id
          (({ runtime with live } : ServiceRuntime (Recorded A)).failed s.nowMs generation
            epoch)) id generation
      simp only
      rw [hports, put_eq]
      exact Recorded.torn htorn

theorem failMember_generation {generation epoch : ℕ} {next}
    (hget : (s.failMember id generation epoch).runtimes[id]? = some next) :
    next.evidence.generation = generation := by
  unfold failMember at hget
  split at hget
  · rename_i hnone
    rw [release_runtimes, hnone] at hget
    cases hget
  · simp only at hget
    rw [release_runtimes, put_runtimes] at hget
    simp at hget
    rw [← hget]
    rfl

theorem failMember_same (id) (generation epoch : ℕ) :
    SameBut id s (s.failMember id generation epoch) := by
  unfold failMember
  split
  · exact .of_eq (release_runtimes _ _)
  · simp only
    exact .of_insert ((release_runtimes _ _).trans (put_runtimes _ _))

theorem AttemptsOk.launched (h : s.AttemptsOk)
    {runtime next} (hget : s.runtimes[id]? = some runtime)
    (hnext : s'.runtimes[id]? = some next)
    (hgen : runtime.evidence.generation + 1 ≤ next.evidence.generation)
    (hsame : SameBut id s s') (htries : s'.authority.attempts =
      (id.value, runtime.evidence.generation + 1) :: s.authority.attempts) : s'.AttemptsOk := by
  have hbelow : ∀ attempt ∈ s.authority.attempts, (⟨attempt.1⟩ : ServiceId) = id →
      attempt.2 ≤ runtime.evidence.generation := by
    intro attempt hmem hid
    obtain ⟨other, hother, hle⟩ := h.bounded attempt hmem
    rw [hid, hget] at hother
    cases hother
    exact hle
  constructor
  · rw [htries, List.nodup_cons]
    refine ⟨fun hmem => ?_, h.nodup⟩
    have hle := hbelow _ hmem rfl
    simp at hle
  · intro attempt hmem
    rw [htries, List.mem_cons] at hmem
    rcases hmem with rfl | hmem
    · exact ⟨next, hnext, hgen⟩
    · by_cases hid : (⟨attempt.1⟩ : ServiceId) = id
      · have hle := hbelow attempt hmem hid
        rw [hid]
        exact ⟨next, hnext, by omega⟩
      · obtain ⟨other, hother, hle⟩ := h.bounded attempt hmem
        exact ⟨other, (hsame _ hid).trans hother, hle⟩

theorem attempt_record {fence intent}
    (hid : s.IdleBehind id fence) (hintent : s.catalog.launchIntent id = .ok intent) :
    s.authority.failures ≤ (s.attempt id fence intent).2.authority.failures ∧
      ((∀ runtime : ServiceRuntime (Recorded A), s.runtimes[id]? = some runtime →
          runtime.evidence.generation ≤ fence.resourceGeneration) ∨
        (s.attempt id fence intent).2.authority.failures = s.authority.failures →
          s.AttemptsOk → (s.attempt id fence intent).2.AttemptsOk) := by
  have hmoves : s.Moves (fun _ => True) (s.attempt id fence intent).2 :=
    attempt_moves trivial hid hintent
  obtain ⟨runtime, hget, hlive, _⟩ := hid
  have hlaunch : Launched (fun _ => True) id s (s.startMember id fence intent) :=
    startMember_spec trivial ⟨runtime, hget, hlive⟩ hintent
  obtain ⟨hrec, hroom⟩ := startMember_record fence intent hget hlive
  obtain ⟨next, hnext, hadv⟩ := hmoves.advanced id runtime hget
  unfold attempt at hmoves hnext ⊢
  cases hres : s.startMember id fence intent with
  | mk outcome t =>
    rw [hres] at hlaunch hrec hroom hmoves hnext
    cases outcome with
    | ok done =>
      cases hrec with
      | refused error herror _ _ => cases herror
      | failed error herror _ _ => cases herror
      | launched _ htries hfails =>
        obtain ⟨started, hstart, hgen⟩ := hlaunch.launched rfl runtime hget
        exact ⟨hfails.ge, fun _ hok =>
          hok.launched hget hstart hgen.ge hlaunch.same htries⟩
    | error error =>
      obtain ⟨hattemptsFailed, hfailuresFailed⟩ := failMember_record (s := t) id
        (saturatingAdd fence.resourceGeneration 1) (saturatingAdd fence.actionEpoch 1)
      cases hrec with
      | launched hok _ _ => cases hok
      | refused _ _ htries hfails =>
        refine ⟨(hfailuresFailed.trans hfails).ge, fun _ hok => ?_⟩
        exact hok.of_advanced hmoves.advanced (hattemptsFailed.trans htries)
      | failed _ _ htries hfails =>
        have hcount := hfailuresFailed.trans hfails
        refine ⟨by simp only [hcount]; omega, fun hcase hok => ?_⟩
        have hbehind := (hcase.resolve_right (by simp only [hcount]; omega)) runtime hget
        have hsame : SameBut id s (t.failMember id (saturatingAdd fence.resourceGeneration 1)
            (saturatingAdd fence.actionEpoch 1)) := hlaunch.same.trans (failMember_same id _ _)
        have hle : runtime.evidence.generation + 1 ≤ u64Max := by
          refine hroom.resolve_left fun h => ?_
          have hlen := congrArg List.length (htries.symm.trans h)
          simp at hlen
        refine hok.launched hget hnext ?_ hsame (hattemptsFailed.trans htries)
        rw [failMember_generation hnext]
        exact le_min (by omega) hle

theorem executeStart_record {plan} (hnodup : (plan.ordered.map (·.serviceId)).Nodup)
    (hready : s.Ready plan.ordered) (hok : s.AttemptsOk)
    (hcase : (∀ item ∈ plan.ordered, ∀ intent, item.intent = some intent →
        ∀ runtime, s.runtimes[item.serviceId]? = some runtime →
          runtime.evidence.generation ≤ item.fence.resourceGeneration) ∨
      (s.executeStart plan).2.authority.failures = s.authority.failures) :
    (s.executeStart plan).2.AttemptsOk := by
  have heq : (s.executeStart plan).2 = (s.startMembers plan.ordered).2 := by
    unfold executeStart
    split <;> simp [*]
  rw [heq] at hcase ⊢
  rcases hcase with hknown | hfails
  · have hrun := startMembers_lift (R := fun t u => t.AttemptsOk → u.AttemptsOk)
      (fun _ h => h) (fun _ _ _ h₁ h₂ h => h₂ (h₁ h))
      (fun fence runtime => ∀ current, runtime = some current →
        current.evidence.generation ≤ fence.resourceGeneration)
      (fun t id fence intent hid hbehind hintent =>
        (attempt_record hid hintent).2 (.inl hbehind))
      plan.ordered hnodup s hready hknown
    exact hrun hok
  · have hrun := startMembers_lift (R := fun t u => t.authority.failures ≤ u.authority.failures ∧
        (u.authority.failures = t.authority.failures → t.AttemptsOk → u.AttemptsOk))
      (fun _ => ⟨le_rfl, fun _ h => h⟩)
      (fun t u v h₁ h₂ => ⟨h₁.1.trans h₂.1, fun hsame h =>
        h₂.2 (by have := h₁.1; have := h₂.1; omega)
          (h₁.2 (by have := h₁.1; have := h₂.1; omega) h)⟩)
      (fun _ _ => True)
      (fun t id fence intent hid _ hintent =>
        ⟨(attempt_record hid hintent).1, fun hsame =>
          (attempt_record hid hintent).2 (.inr hsame)⟩)
      plan.ordered hnodup s hready fun _ _ _ _ => trivial
    exact hrun.2 hfails hok

/-- Only an attempt to launch is excluded. -/
def Unattempted : SupervisorFault → Prop
  | .attempted => False
  | _ => True

theorem AttemptsOk.of_moves (h : s.AttemptsOk) (hmoves : s.Moves Unattempted s') : s'.AttemptsOk :=
  h.of_advanced hmoves.advanced (hmoves.attempts not_false).1

theorem stopAllowed_unattempted (id) : StopAllowed Unattempted s id :=
  fun _ _ _ => ⟨fun _ => trivial, fun _ => trivial⟩

theorem mutate_attempts (h : s.Base) (hok : s.AttemptsOk) (action) (id)
    (fence) (requester)
    (hrestart : action = .restart →
      (s.mutate action id fence requester).2.authority.failures = s.authority.failures) :
    (s.mutate action id fence requester).2.AttemptsOk := by
  by_cases hstop : action = .stop
  · refine hok.of_moves (mutate_moves h action id fence requester (fun hne => absurd hstop hne) ?_)
    exact fun _ member _ => stopAllowed_unattempted member
  have hcases := ServiceCatalog.admitRequest_decision s.catalog s.snapshot
    ⟨action, id, fence, s.requesterFor requester⟩
  unfold mutate at hrestart ⊢
  simp only at hrestart ⊢
  generalize s.catalog.admitRequest ⟨action, id, fence, s.requesterFor requester⟩ s.snapshot =
    decision at hcases hrestart ⊢
  cases hcases with
  | coalesced | refused => exact hok
  | start plan _ hstart =>
    obtain ⟨hnodup, hmem⟩ := hstart.members
    simp only
    split
    · exact hok
    · refine executeStart_record hnodup (h.ready rfl hmem (fun _ _ _ hid => hid)
        nofun) hok (.inl fun item hitem intent hintent runtime hget => ?_)
      obtain ⟨record, hlaunch⟩ := hmem item hitem intent hintent
      have hrec := hlaunch.record
      rw [h.synced item.serviceId, hget, map_some, some.injEq] at hrec
      rw [hlaunch.fence, ← hrec]
      exact le_rfl
  | stop _ hact => exact absurd hact hstop
  | restart stop start hact hstopped hstarted =>
    have hfails := hrestart hact
    have hstopping : s.Moves Unattempted (s.executeStop stop).2 ∧ _ :=
      restart_ready h hstopped hstarted fun member _ => stopAllowed_unattempted member
    obtain ⟨hmoves, hready⟩ := hstopping
    simp only at hfails ⊢
    cases hrev : RestartPlan.revalidate ⟨stop, start⟩ s.catalog s.snapshot with
    | error => exact hok
    | ok checked =>
      rw [hrev] at hfails
      cases hres : s.executeStop stop with
      | mk outcome t =>
        rw [hres] at hmoves hready hfails
        cases outcome with
        | error => exact hok.of_moves hmoves
        | ok outcome =>
          have hkept := (hmoves.attempts not_false).2
          exact executeStart_record hstarted.members.1 (hready outcome rfl) (hok.of_moves hmoves)
            (.inr (hfails.trans hkept.symm))

variable (s)

/-- The environment leaves the record of launches alone. -/
def KeepsRecord (c : SupervisorCall (Recorded A)) : Prop :=
  ∀ authority, c = .environment authority → authority.attempts = s.authority.attempts

/-- No launch fails in a restart. -/
def RestartLaunches (c : SupervisorCall (Recorded A)) : Prop :=
  ∀ id fence requester, c = .handle .restart id fence requester →
    (s.call c).2.authority.failures = s.authority.failures

variable {s}

theorem handle_attempts (h : s.Base) (hok : s.AttemptsOk) (action)
    (id) (fence) (requester)
    (hrestart : action = .restart →
      (s.handle action id fence requester).2.authority.failures = s.authority.failures) :
    (s.handle action id fence requester).2.AttemptsOk := by
  have hpump : s.Moves Unattempted s.pumpIo :=
    (pumpIo_moves fun _ _ _ _ _ _ => ⟨fun _ => trivial, trivial⟩).1
  have hbase := h.moves hpump
  have hpumped := hok.of_moves hpump
  have hsame := (hpump.attempts not_false).2
  unfold handle at hrestart ⊢
  cases action with
  | start => exact mutate_attempts hbase hpumped .start id fence requester nofun
  | stop => exact mutate_attempts hbase hpumped .stop id fence requester nofun
  | restart =>
    exact mutate_attempts hbase hpumped .restart id fence requester fun _ =>
      (hrestart rfl).trans hsame.symm
  | logs => exact hpumped
  | health => exact hpumped

theorem call_attempts (h : s.Base) (hok : s.AttemptsOk) (c)
    (hkeeps : s.KeepsRecord c) (hrestart : s.RestartLaunches c) : (s.call c).2.AttemptsOk := by
  by_cases hfault : s.Faults c .attempted
  · rcases hfault with ⟨action, id, fence, requester, rfl⟩ | ⟨authority, rfl⟩
    · refine handle_attempts h hok action id fence requester fun hact => ?_
      subst hact
      exact hrestart id fence requester rfl
    · have hsame : AdvancedAt Unattempted s (s.call (.environment authority)).2 := .of_eq rfl
      exact hok.of_advanced hsame (hkeeps authority rfl)
  · refine hok.of_moves (call_moves h c fun fault hoccurs => ?_)
    cases fault with
    | attempted => exact hfault hoccurs
    | _ => exact trivial

theorem reachable_attempts (hfresh : s.Fresh) (hnil : s.authority.attempts = [])
    (calls)
    (hcalls : Calls.Along call (fun t c => t.KeepsRecord c ∧ t.RestartLaunches c) s calls) :
    (after call s calls).AttemptsOk := by
  have hstart : s.AttemptsOk :=
    ⟨by rw [hnil]; exact List.nodup_nil, by rw [hnil]; exact nofun⟩
  have hinv : ∀ (t : ServiceSupervisor (Recorded A)) c,
      t.Base ∧ t.AttemptsOk → t.KeepsRecord c ∧ t.RestartLaunches c →
        (t.call c).2.Base ∧ (t.call c).2.AttemptsOk := by
    rintro t c ⟨hbase, hok⟩ ⟨hkeeps, hrestart⟩
    have hmoves : t.Moves (fun _ => True) (t.call c).2 := call_moves hbase c fun _ _ => trivial
    exact ⟨hbase.moves hmoves, call_attempts hbase hok c hkeeps hrestart⟩
  exact (along_invariant (P := fun t => t.Base ∧ t.AttemptsOk) hinv calls
    ⟨hfresh.base, hstart⟩ hcalls).2

/-- In every reachable state the snapshot is the projection of the runtimes, no call lets the
numbers of a service decrease, every new handle comes with new numbers and only an observed exit
takes one away under the same, a live handle has the generation of the evidence, and no
generation was launched twice unless a launch of a restart failed. -/
theorem supervisor_fenced (hfaithful : LaunchesFaithfully A) (s : ServiceSupervisor (Recorded A))
    (hfresh : s.Fresh) (hempty : s.authority.attempts = [])
    (calls : List (SupervisorCall (Recorded A))) :
    (∀ id : ServiceId, (after call s calls).snapshot.services[id]? =
      (after call s calls).runtimes[id]?.map (·.record (after call s calls).hostId)) ∧
    ((after call s calls).BelowMax → ∀ c id
      (runtime : ServiceRuntime (Recorded A)),
        (after call s calls).runtimes[id]? = some runtime →
        ∃ next,
          (after call s (calls ++ [c])).runtimes[id]? = some next ∧
            runtime.Advanced ((after call s calls).MayExit c
              (id, runtime.evidence.generation)) next) ∧
    (after call s calls).LiveExact ∧
    (Calls.Along call (fun t c => t.KeepsRecord c ∧ t.RestartLaunches c) s calls →
      (after call s calls).authority.attempts.Nodup) := by
  have hbase := reachable_base hfresh calls
  refine ⟨hbase.synced, fun hbelow c id runtime hget => ?_,
    reachable_liveExact (Recorded.faithful hfaithful) hfresh calls,
    fun hcalls => (reachable_attempts hfresh hempty calls hcalls).nodup⟩
  rw [after_concat]
  exact call_advanced hbase hbelow c hget

end ServiceSupervisor

/-! ## A sample run -/

structure SpareAuthority where
  resumes : List Bool

instance : ManagedLaunchAuthority SpareAuthority where
  Pending := ℕ
  Live := ℕ
  prepareSuspended authority spec := (.ok spec.generation, authority)
  registerSuspended authority pending := (.ok pending, authority)
  resume authority pending :=
    if authority.resumes.head? = some false then
      (.error (.refused .other), ⟨authority.resumes.tail⟩)
    else (.ok pending, ⟨authority.resumes.tail⟩)
  teardown authority _ _ := (.ok (), authority)
  takeExit _ _ := none
  liveGeneration live := live

theorem SpareAuthority.faithful : ServiceSupervisor.LaunchesFaithfully SpareAuthority := by
  refine ⟨id, fun _ _ _ _ hcall => ?_, fun _ _ _ _ hcall => ?_, fun authority _ _ _ hcall => ?_⟩
  · cases hcall
    rfl
  · cases hcall
    rfl
  · change (if authority.resumes.head? = some false then _ else _) = _ at hcall
    split_ifs at hcall
    · cases hcall
    · cases hcall
      rfl

def portDefinition : ServiceDefinition :=
  { sampleDefinition with health := .none, expectedPort := some 5000 }

namespace ServiceSupervisor

def recordedSupervisor (resumes : List Bool) : ServiceSupervisor (Recorded SpareAuthority) :=
  .fromCatalog ⟨(∅ : ExtTreeMap ServiceId ServiceDefinition).insert ⟨"api"⟩ portDefinition⟩ ∅ ∅
    ((∅ : ExtTreeMap ServiceId String).insert ⟨"api"⟩ "/srv") (fun _ => ⟨1⟩) ⟨⟨resumes⟩, [], 0⟩
      ⟨1⟩ 0

theorem recordedSupervisor_fresh (resumes) : (recordedSupervisor resumes).Fresh :=
  ⟨[portDefinition], _, _, _, _, _, _, _, _, rfl, rfl⟩

def recordedRequest (action : SupervisorAction) (fence : ℕ) :
    SupervisorCall (Recorded SpareAuthority) :=
  .handle action ⟨"api"⟩ ⟨fence, fence, fence⟩ (.task sampleOwner)

theorem supervisor_fenced_sample : (after call (recordedSupervisor [])
      [recordedRequest .start 1, recordedRequest .restart 2]).authority.attempts.Nodup := by
  refine (supervisor_fenced SpareAuthority.faithful (recordedSupervisor [])
    (recordedSupervisor_fresh []) rfl _).2.2.2 ⟨⟨?_, ?_⟩, ⟨?_, ?_⟩, trivial⟩
  · nofun
  · nofun
  · nofun
  · intro id fence requester h
    cases h
    decide +kernel

def retriedCalls : List (SupervisorCall (Recorded SpareAuthority)) :=
  [recordedRequest .start 1, recordedRequest .restart 2, .observePort 5000 .unknown none,
    .observePort 5000 .free none, recordedRequest .start 3]

def numbers (s : ServiceSupervisor (Recorded SpareAuthority)) : Option (Bool × ℕ × ℕ) :=
  s.runtimes[(⟨"api"⟩ : ServiceId)]?.map fun runtime =>
    (runtime.live.isSome, runtime.evidence.generation, runtime.evidence.epoch)

theorem belowMax_of_toList {s : ServiceSupervisor (Recorded SpareAuthority)}
    (h : ∀ entry ∈ s.runtimes.toList,
      entry.2.evidence.generation < u64Max ∧ entry.2.evidence.epoch < u64Max) : s.BelowMax :=
  fun _ _ hget => h _ (ExtTreeMap.mem_toList_iff_getElem?_eq_some.mpr hget)

/-- An exit takes the handle away under the same numbers, and a start after a failed restart
launches the generation of that restart again. -/
theorem exit_keeps_numbers :
    (¬ ∀ (s : ServiceSupervisor (Recorded SpareAuthority)) calls c (id : ServiceId) runtime next,
      s.Fresh → (after call s calls).BelowMax →
        (after call s calls).runtimes[id]? = some runtime →
        (after call s (calls ++ [c])).runtimes[id]? = some next →
        next.live ≠ runtime.live → next.evidence.generation ≠ runtime.evidence.generation ∨
          next.evidence.epoch ≠ runtime.evidence.epoch) ∧
    ¬ ∀ (s : ServiceSupervisor (Recorded SpareAuthority)) calls,
      s.Fresh → s.authority.attempts = [] → (after call s calls).BelowMax →
        (after call s calls).authority.attempts.Nodup := by
  constructor
  · intro hfenced
    have hpre : numbers (after call (recordedSupervisor []) [recordedRequest .start 1]) =
        some (true, 2, 2) := by decide +kernel
    have hpost : numbers (after call (recordedSupervisor [])
        [recordedRequest .start 1, .reportExit ⟨"api"⟩ 2]) = some (false, 2, 2) := by
      decide +kernel
    obtain ⟨runtime, hget, hruntime⟩ := map_eq_some_iff.mp hpre
    obtain ⟨next, hget', hnext⟩ := map_eq_some_iff.mp hpost
    simp only [Prod.mk.injEq] at hruntime hnext
    have hbelow := belowMax_of_toList (s := after call (recordedSupervisor [])
      [recordedRequest .start 1]) (by decide +kernel)
    have hlive : next.live ≠ runtime.live := fun heq => by
      rw [heq, hruntime.1] at hnext
      exact absurd hnext.1 (by decide)
    rcases hfenced _ _ (.reportExit ⟨"api"⟩ 2) _ _ _ (recordedSupervisor_fresh []) hbelow hget
      hget' hlive with hne | hne
    · exact hne (hnext.2.1.trans hruntime.2.1.symm)
    · exact hne (hnext.2.2.trans hruntime.2.2.symm)
  · intro honce
    have htries : (after call (recordedSupervisor [true, false])
        retriedCalls).authority.attempts = [("api", 4), ("api", 4), ("api", 2)] := by
      decide +kernel
    have hbelow := belowMax_of_toList (s := after call (recordedSupervisor [true, false])
      retriedCalls) (by decide +kernel)
    have hnodup := honce _ retriedCalls (recordedSupervisor_fresh _) rfl hbelow
    rw [htries] at hnodup
    exact absurd hnodup (by decide)

end ServiceSupervisor

end DevManager
