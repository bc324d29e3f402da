import DevManager.Kernel.Run
import DevManager.Kernel.Steps

/-!
# Task revisions count task mutations (`src/domain/event.rs`)

A client fences its commands on the task revision it last saw, so the revision
has to be a count: `apply` moves it by one on every event that
`is_task_mutation` classifies as a mutation and on no other, and refuses a
mutation that carries any other revision than the next one.

* `revision_of_apply`: one accepted event.
* `revision_of_foldApply`: a whole list, from any snapshot.
-/

namespace DevManager

section Revision

variable [Externals]

/-! ## Folding `apply` -/

/-- Fold `apply` over a list of events. There is no snapshot before the task is created. -/
def foldApply (snapshot : Option TaskSnapshot) (events : List DomainEvent) :
    Except ApplyError (Option TaskSnapshot) :=
  events.foldlM (fun snapshot event => do
    let snap ← apply snapshot event
    pure (some snap)) snapshot

/-- The revision that the next mutation follows: 0 before the task is created. -/
def revisionOf : Option TaskSnapshot → ℕ
  | none => 0
  | some snap => snap.task.revision

/-- The task an event has to name: the snapshot's, or the one it creates. -/
def subjectOf : Option TaskSnapshot → Event → Option TaskId
  | some snap, _ => some snap.task.id
  | none, .taskCreated task .. => some task.id
  | none, _ => none

/-- How many of the events are task mutations. -/
def mutationCount (events : List DomainEvent) : ℕ :=
  events.countP fun event => event.payload.isTaskMutation

/-! ## One event -/

theorem apply_none_eq_ok {event s} (h : apply none event = .ok s) :
    event.payload.isTaskMutation = true ∧ event.taskRevision = some 1 ∧ s.task.revision = 1 ∧
      event.taskId = subjectOf none event.payload := by
  unfold apply at h
  split at h <;> try simp [okOr] at h
  rename_i task connectivity attention activity reviewReadiness hpayload
  simp only [applyTaskCreated, ok_iff, not_or] at h
  obtain ⟨hid, ⟨hobserved, hrev⟩, -, browser, -, rfl⟩ := h
  refine ⟨?_, hobserved, hrev, ?_⟩
  · rw [hpayload]
    rfl
  · rw [hid, hpayload]
    rfl

theorem revision_of_apply {snapshot event s'} (h : apply snapshot event = .ok s') :
    s'.task.revision = revisionOf snapshot + if event.payload.isTaskMutation then 1 else 0 := by
  cases snapshot with
  | none =>
    obtain ⟨hmut, -, hrev, -⟩ := apply_none_eq_ok h
    rw [hmut, hrev]
    rfl
  | some s =>
    obtain ⟨-, -, mid, hmid, rfl⟩ := apply_some_eq_ok.mp h
    obtain ⟨-, hkept, -⟩ := effect_task s event.payload event.occurredAtMs mid hmid
    split_ifs
    · rfl
    · show mid.task.revision = s.task.revision + 0
      omega

theorem fence_of_apply {snapshot event s'}
    (h : apply snapshot event = .ok s') (hmut : event.payload.isTaskMutation = true) :
    event.taskRevision = some (revisionOf snapshot + 1) ∧
      event.taskId = subjectOf snapshot event.payload := by
  cases snapshot with
  | none =>
    obtain ⟨-, hobserved, -, hid⟩ := apply_none_eq_ok h
    exact ⟨hobserved, hid⟩
  | some s =>
    obtain ⟨hid, hnext, -⟩ := apply_some_eq_ok.mp h
    exact ⟨(hnext hmut).1, hid⟩

/-! ## A list of events -/

theorem revision_of_foldApply {events} :
    ∀ {snapshot snapshot' : Option TaskSnapshot}, foldApply snapshot events = .ok snapshot' →
      revisionOf snapshot' = revisionOf snapshot + mutationCount events := by
  induction events with
  | nil =>
    intro snapshot snapshot' h
    cases h
    rfl
  | cons event events ih =>
    intro snapshot snapshot' h
    obtain ⟨_, hone, hrest⟩ := foldlM_cons_ok.mp h
    simp only [ok_iff] at hone
    obtain ⟨s, happly, rfl⟩ := hone
    have hstep : s.task.revision = _ := revision_of_apply happly
    have htail : revisionOf snapshot' = s.task.revision + mutationCount events := ih hrest
    have hcount : mutationCount (event :: events) =
        mutationCount events + if event.payload.isTaskMutation then 1 else 0 := List.countP_cons
    omega

/-- Revision accounting. A list that `apply` accepts from no snapshot leaves a revision equal to
the number of mutations in it. An event accepted next changes the revision iff it is a
mutation, and then by one; a mutation with another revision than the next one, or for another
task, is refused. -/
theorem revision_accounting (events : List DomainEvent) (snapshot : Option TaskSnapshot)
    (h : foldApply none events = .ok snapshot) :
    revisionOf snapshot = mutationCount events ∧
      (∀ event s', apply snapshot event = .ok s' →
        (s'.task.revision ≠ revisionOf snapshot ↔ event.payload.isTaskMutation = true) ∧
          (event.payload.isTaskMutation = true → s'.task.revision = revisionOf snapshot + 1)) ∧
      ∀ event, event.payload.isTaskMutation = true →
        (event.taskRevision ≠ some (revisionOf snapshot + 1) ∨
          event.taskId ≠ subjectOf snapshot event.payload) →
        ∃ error, apply snapshot event = .error error := by
  refine ⟨?_, ?_, ?_⟩
  · have hrun : revisionOf snapshot = 0 + mutationCount events := revision_of_foldApply h
    omega
  · intro event s' happly
    have hrev := revision_of_apply happly
    by_cases hmut : event.payload.isTaskMutation = true
    · rw [if_pos hmut] at hrev
      refine ⟨⟨fun _ => hmut, fun _ => ?_⟩, fun _ => hrev⟩
      omega
    · rw [if_neg hmut] at hrev
      refine ⟨⟨fun hne => ?_, fun hpos => absurd hpos hmut⟩, fun hpos => absurd hpos hmut⟩
      omega
  · intro event hmut hwrong
    cases happly : apply snapshot event with
    | error => exact ⟨_, rfl⟩
    | ok s' =>
      obtain ⟨hnext, hid⟩ := fence_of_apply happly hmut
      rcases hwrong with hwrong | hwrong
      · exact absurd hnext hwrong
      · exact absurd hid hwrong

end Revision

section Sample

attribute [local instance] sampleExternals

def sampleEvents : List DomainEvent :=
  [ { id := ⟨1⟩, taskId := some ⟨1⟩, sequence := 1, taskRevision := some 1, occurredAtMs := 0
      payload := .taskCreated sampleTask .connected .none .idle .notReady },
    { id := ⟨2⟩, taskId := some ⟨1⟩, sequence := 2, taskRevision := some 2, occurredAtMs := 0
      payload := .taskAttentionSet .none } ]

theorem revision_accounting_sample :
    ∃ s, foldApply none sampleEvents = .ok (some s) ∧ s.task.revision = 2 := by
  have hmade : apply none (sampleEvents.get ⟨0, by decide⟩) = .ok sampleSnapshot := by
    simp only [sampleEvents, apply, applyTaskCreated]
    rfl
  have hset : apply (some sampleSnapshot) (sampleEvents.get ⟨1, by decide⟩) =
      .ok (sampleSnapshot.withRevision 2) := by
    rfl
  have hall : foldApply none sampleEvents = .ok (some (sampleSnapshot.withRevision 2)) := by
    refine foldlM_cons_ok.mpr ⟨some sampleSnapshot, ?_, foldlM_cons_ok.mpr ⟨_, ?_, rfl⟩⟩
    · exact bind_eq_ok.mpr ⟨_, hmade, rfl⟩
    · exact bind_eq_ok.mpr ⟨_, hset, rfl⟩
  exact ⟨_, hall, (revision_accounting sampleEvents _ hall).1⟩

end Sample

end DevManager
