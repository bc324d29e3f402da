import DevManager.Kernel.Run
import DevManager.Kernel.Steps

/-!
# A list of payloads applied at once (`event.rs:3398-3431`)

`apply_all` stamps each payload and folds `apply` over them. It takes the task's id from
the snapshot before the first payload, so that without a snapshot the creation of a task is
refused, although the revision of a creation is stamped.
-/

namespace DevManager

section ApplyAll

variable [Externals]

/-- The revision that a payload is stamped with (`event.rs:3405-3416`). -/
def nextTaskRevision (snapshot : Option TaskSnapshot) (payload : Event) :
    Except ApplyError (Option ℕ) :=
  if payload.isTaskMutation then
    match snapshot with
    | some snap => do
      let revision ← okOr (checkedAdd snap.task.revision 1) .invalidTransition
      pure (some revision)
    | none => .ok (some 1)
  else .ok none

/-- One pass of the loop of `apply_all` (`event.rs:3403-3428`); `eventIds` are those that
`EventId::new()` mints. -/
def applyAllStep (eventIds : ℕ → EventId) (taskId : Option TaskId) (snapshot : Option TaskSnapshot)
    (entry : Event × ℕ) : Except ApplyError (Option TaskSnapshot) := do
  let taskRevision ← nextTaskRevision snapshot entry.1
  let next ← apply snapshot {
    id := eventIds entry.2, taskId, sequence := saturatingAdd entry.2 1, taskRevision,
    occurredAtMs := 1, payload := entry.1 }
  pure (some next)

/-- `apply_all`, `event.rs:3398-3431` -/
def Event.applyAll (eventIds : ℕ → EventId) (snapshot : Option TaskSnapshot) (events : List Event) :
    Except ApplyError TaskSnapshot := do
  let taskId := snapshot.map fun snap => snap.task.id
  let snapshot ← events.zipIdx.foldlM (applyAllStep eventIds taskId) snapshot
  okOr snapshot .missingSnapshot

/-! ## The fold -/

/-- The task of a payload: that of the snapshot, or the one that it creates. -/
def stampedTask : Option TaskSnapshot → Event → Option TaskId
  | some snap, _ => some snap.task.id
  | none, .taskCreated task .. => some task.id
  | none, _ => none

/-- `apply` of a payload stamped with the id of its task and its next revision, and with what the
store adds. -/
def applyNext (stamps : ℕ → EventId × ℕ) (snapshot : Option TaskSnapshot) (entry : Event × ℕ) :
    Except ApplyError (Option TaskSnapshot) := do
  let taskRevision ← nextTaskRevision snapshot entry.1
  let next ← apply snapshot {
    id := (stamps entry.2).1, taskId := stampedTask snapshot entry.1,
    sequence := (stamps entry.2).2, taskRevision, occurredAtMs := 1, payload := entry.1 }
  pure (some next)

/-- The left fold of `apply` over the stamped payloads. -/
def applyEachNext (stamps : ℕ → EventId × ℕ) (snapshot : Option TaskSnapshot)
    (events : List Event) : Except ApplyError TaskSnapshot := do
  let snapshot ← events.zipIdx.foldlM (applyNext stamps) snapshot
  okOr snapshot .missingSnapshot

/-! ## When they agree -/

variable {s s' : TaskSnapshot} {payload : Event}

theorem apply_stamp (snapshot) (event) (id : EventId)
    (sequence : ℕ) : apply snapshot { event with id, sequence } = apply snapshot event := by
  obtain ⟨_, taskId, _, taskRevision, occurredAtMs, payload⟩ := event
  cases payload <;> rfl

theorem apply_task_id {event} (h : apply (some s) event = .ok s') :
    s'.task.id = s.task.id := by
  obtain ⟨-, -, mid, hmid, rfl⟩ := apply_some_eq_ok.mp h
  have hid := (effect_task s event.payload event.occurredAtMs mid hmid).1
  split_ifs
  · exact hid
  · exact hid

variable (eventIds : ℕ → EventId) (stamps : ℕ → EventId × ℕ)

theorem applyAllStep_eq (entry : Event × ℕ) :
    applyAllStep eventIds (some s.task.id) (some s) entry = applyNext stamps (some s) entry := by
  unfold applyAllStep applyNext
  refine congrArg _ (funext fun taskRevision => ?_)
  rw [← apply_stamp (some s) _ (stamps entry.2).1 (stamps entry.2).2]
  rfl

variable (events : List Event)

theorem applyAll_some :
    ∀ (start : ℕ) {s : TaskSnapshot} {taskId : TaskId}, s.task.id = taskId →
      (events.zipIdx start).foldlM (applyAllStep eventIds (some taskId)) (some s) =
        (events.zipIdx start).foldlM (applyNext stamps) (some s) := by
  induction events with
  | nil => exact fun _ _ _ _ => rfl
  | cons payload events ih =>
    rintro start s _ rfl
    rw [List.zipIdx_cons, List.foldlM_cons, List.foldlM_cons, applyAllStep_eq eventIds stamps]
    cases hnext : applyNext stamps (some s) (payload, start) with
    | error error => rfl
    | ok next =>
      simp only [applyNext, ok_iff] at hnext
      obtain ⟨revision, -, s', happly, rfl⟩ := hnext
      exact ih (start + 1) (apply_task_id happly)

theorem apply_none_error {event} (h : ∀ task connectivity attention activity readiness,
    event.payload ≠ .taskCreated task connectivity attention activity readiness) (next) :
    apply none event ≠ .ok next := by
  intro happly
  unfold apply at happly
  cases hp : event.payload <;> rw [hp] at happly h
  case taskCreated => exact h _ _ _ _ _ rfl
  all_goals cases happly

/-- The first payload creates a task. -/
def startsWithCreation : List Event → Bool
  | .taskCreated .. :: _ => true
  | _ => false

omit [Externals] in
theorem stampedTask_none {events} (h : startsWithCreation (payload :: events) = false) :
    stampedTask none payload = none := by
  cases payload <;> first | rfl | cases h

theorem applyAll_eq_fold (snapshot) (events)
    (h : ¬ (snapshot = none ∧ startsWithCreation events = true)) :
    Event.applyAll eventIds snapshot events = applyEachNext stamps snapshot events := by
  unfold Event.applyAll applyEachNext
  cases snapshot with
  | some s =>
    show ((events.zipIdx 0).foldlM _ _ >>= _) = _
    rw [Option.map_some, applyAll_some eventIds stamps events 0 rfl]
  | none =>
    cases events with
    | nil => rfl
    | cons payload events =>
      have hfst : startsWithCreation (payload :: events) = false := by simpa using h
      have hstep : applyAllStep eventIds none none (payload, 0) =
        applyNext stamps none (payload, 0) := by
        unfold applyAllStep applyNext
        refine congrArg _ (funext fun taskRevision => ?_)
        rw [← apply_stamp none _ (stamps 0).1 (stamps 0).2, stampedTask_none hfst]
      have hdeny : ∀ next, applyNext stamps none (payload, 0) ≠ .ok next := by
        intro next hnext
        simp only [applyNext, ok_iff] at hnext
        obtain ⟨_, -, s', happly, -⟩ := hnext
        refine apply_none_error ?_ s' happly
        rintro task connectivity attention activity readiness rfl
        cases hfst
      show ((applyAllStep eventIds none none (payload, 0) >>= fun next => _) >>= _) =
        ((applyNext stamps none (payload, 0) >>= fun next => _) >>= _)
      rw [hstep]
      cases hnext : applyNext stamps none (payload, 0) with
      | error error => rfl
      | ok next => exact absurd hnext (hdeny next)

theorem applyAll_creation (h : startsWithCreation events = true) :
    Event.applyAll eventIds none (events.take 1) = .error .taskMismatch := by
  cases events with
  | nil => cases h
  | cons payload events =>
    cases payload <;> first | rfl | cases h

theorem applyEachNext_creation (h : startsWithCreation events = true) :
    applyEachNext stamps none (events.take 1) ≠ .error .taskMismatch := by
  cases events with
  | nil => cases h
  | cons payload events =>
    cases payload
    case taskCreated task connectivity attention activity reviewReadiness =>
      have hbrowser : ∀ error, applyBrowserError error ≠ .taskMismatch := by
        intro error
        cases error <;> simp [applyBrowserError]
      show Avoids ((applyNext stamps none (.taskCreated task connectivity attention activity
        reviewReadiness, 0) >>= pure) >>= fun next => okOr next .missingSnapshot) .taskMismatch
      simp [applyNext, nextTaskRevision, stampedTask, apply, applyTaskCreated, Event.isTaskMutation,
        hbrowser]
    all_goals cases h

/-- At every prefix of the payloads `apply_all` is the fold of `apply` over the stamped events,
unless it is to create the task. -/
theorem applyAll_eq_fold_iff (snapshot : Option TaskSnapshot) (events : List Event) :
    (∀ n, Event.applyAll eventIds snapshot (events.take n) =
        applyEachNext stamps snapshot (events.take n)) ↔
      ¬ (snapshot = none ∧ startsWithCreation events = true) := by
  constructor
  · rintro hsame ⟨rfl, hmakes⟩
    have hfst := hsame 1
    rw [applyAll_creation eventIds events hmakes] at hfst
    exact applyEachNext_creation stamps events hmakes hfst.symm
  · intro h n
    refine applyAll_eq_fold eventIds stamps snapshot (events.take n) fun ⟨hnone, hmakes⟩ =>
      h ⟨hnone, ?_⟩
    cases events with
    | nil => simpa using hmakes
    | cons payload events =>
      cases n with
      | zero => cases hmakes
      | succ n =>
        rw [List.take_succ_cons] at hmakes
        cases payload <;> first | rfl | cases hmakes

end ApplyAll

section Sample

attribute [local instance] sampleExternals

/-- A task is created by the fold, and refused by `apply_all`. -/
theorem creation_is_refused :
    ∃ events, Event.applyAll (fun _ => ⟨1⟩) none events = .error .taskMismatch ∧
      ∃ s, applyEachNext (fun _ => (⟨1⟩, 1)) none events = .ok s := by
  refine ⟨[.taskCreated sampleTask .connected .none .idle .notReady], rfl, sampleSnapshot, ?_⟩
  simp only [applyEachNext, List.zipIdx_cons, List.zipIdx_nil, List.foldlM_cons, List.foldlM_nil,
    applyNext, nextTaskRevision, Event.isTaskMutation, if_true, stampedTask, apply,
    applyTaskCreated, ok_iff, Option.isSome_none, Bool.false_eq_true, if_false]
  refine ⟨some sampleSnapshot, ⟨some sampleSnapshot, ⟨some 1, rfl, sampleSnapshot, ?_, rfl⟩,
    rfl⟩, rfl⟩
  refine ⟨by decide, by decide, rfl, _, ?_, rfl⟩
  simp only [BrowserBook.openTask, BrowserBook.new, sampleTask]
  rfl

end Sample

end DevManager
