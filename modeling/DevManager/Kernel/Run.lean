import DevManager.Domain.Apply
import DevManager.Domain.CommandSpec
import DevManager.Lib.Machine

/-!
# Runs of the task kernel

The kernel decides a command against the current snapshot, stamps each returned
event with the task's id and its next revision, and folds `apply` over them. Host
facts enter `apply` directly. This module defines the runs of that loop, as
machines over `TaskSnapshot`.

* `kernel`: whole decided lists and host facts.
* `visited`: the same, and it may stop inside a decided list; its states are all
  the snapshots `apply` ever returns.
* `eventMachine allowed`: single accepted events that `allowed` admits.

Main results:

* `visited_of_kernel`: every state of `kernel` is one of `visited`.
* `eventMachine_invariant`: an invariant of runs is one that the start has and
  that every `effect` keeps.
-/

namespace DevManager

open Std (ExtTreeSet)

/-! ## Stamped events -/

/-- What the store adds to an event besides the task's id and revision. -/
structure Stamp where
  id : EventId
  sequence : ℕ
  occurredAtMs : ℤ

/-- The event as it is stored: the snapshot's task id, and its next revision when the event is a
task mutation. -/
def stampEvent (snap : TaskSnapshot) (stamp : Stamp) (payload : Event) : DomainEvent :=
  { stamp with
    taskId := some snap.task.id
    taskRevision := if payload.isTaskMutation then some (snap.task.revision + 1) else none
    payload := payload }

/-- The host facts: the events that do not come from a command. -/
def Event.isHostFact : Event → Bool
  | resourceReleased .. | taskArchived | providerInputDelivered _ | terminalCwdReported ..
  | terminalExited .. | terminalActivity _ | operationAccepted _ | operationSettled _
  | operationFailed _ | operationCancelled _ | operationUncertain _ => true
  | _ => false

section Runs

variable [Externals] (snap : TaskSnapshot)

/-- Apply one event as it is stored. -/
def applyStamped (entry : Stamp × Event) : Except ApplyError TaskSnapshot :=
  apply (some snap) (stampEvent snap entry.1 entry.2)

/-- Fold `apply` over events, each stamped against the snapshot before it. -/
def applyBatch (batch : List (Stamp × Event)) :
    Except ApplyError TaskSnapshot :=
  batch.foldlM applyStamped snap

/-- Folding `apply` over the events succeeds, whatever the store stamps them with. -/
def Applicable (events : List Event) : Prop :=
  ∀ batch, batch.map Prod.snd = events → ∃ snap', applyBatch snap batch = .ok snap'

/-! ## The machines -/

/-- A step of the kernel: a command is decided and all its events are applied, or a host fact
is. -/
inductive KernelStep (s s' : TaskSnapshot) : Prop
  | decided {envelope : CommandEnvelope} {operationId : OperationId} {batch : List (Stamp × Event)}
      (hdec : Command.decide (some s) envelope operationId = .ok (batch.map Prod.snd))
      (hbatch : applyBatch s batch = .ok s') : KernelStep s s'
  | host {event : DomainEvent} (hfact : event.payload.isHostFact = true)
      (happly : apply (some s) event = .ok s') : KernelStep s s'

/-- A step of the kernel that may stop inside a decided list. -/
inductive VisitedStep (s s' : TaskSnapshot) : Prop
  | decided {envelope : CommandEnvelope} {operationId : OperationId} {batch : List (Stamp × Event)}
      {rest : List Event}
      (hdec : Command.decide (some s) envelope operationId = .ok (batch.map Prod.snd ++ rest))
      (hbatch : applyBatch s batch = .ok s') : VisitedStep s s'
  | host {event : DomainEvent} (hfact : event.payload.isHostFact = true)
      (happly : apply (some s) event = .ok s') : VisitedStep s s'

/-- A snapshot that `TaskCreated` makes. -/
def Created (s : TaskSnapshot) : Prop := ∃ event, apply none event = .ok s

def kernel : Machine TaskSnapshot where
  init := Created
  step := KernelStep

def visited : Machine TaskSnapshot where
  init := Created
  step := VisitedStep

/-- Runs of single events that `apply` accepts and `allowed` admits. -/
def eventMachine (allowed : TaskSnapshot → Event → Prop) : Machine TaskSnapshot where
  init := Created
  step s s' := ∃ event, allowed s event.payload ∧ apply (some s) event = .ok s'

variable {s : TaskSnapshot}

theorem visited_of_kernel (h : kernel.Reachable s) : visited.Reachable s := by
  refine h.simulate (fun _ hs => hs) fun a b _ hstep => ?_
  cases hstep with
  | @decided envelope operationId batch hdec hbatch =>
    have hwhole : Command.decide (some a) envelope operationId =
        .ok (batch.map Prod.snd ++ []) := by
      rw [List.append_nil]
      exact hdec
    exact .single (.decided hwhole hbatch)
  | host hfact happly => exact .single (.host hfact happly)

/-! ## The start of a run -/

/-- The snapshot `TaskCreated` makes of its payload. -/
structure IsFresh (s : TaskSnapshot) : Prop where
  content : s.task.validateForCreate = .ok ()
  agents : s.agents = ∅
  primary : s.primaryAgentId = none
  artifacts : s.artifacts = ∅
  resources : s.resources = ∅
  sessions : s.providerSessions = ∅
  browser : BrowserBook.new.openTask s.task.id = .ok s.browser
  terminals : s.terminalFacts = ∅
  strip : s.terminalStrip = .default

theorem isFresh_of_created (h : Created s) : IsFresh s := by
  obtain ⟨event, h⟩ := h
  unfold apply at h
  split at h <;> try simp [okOr] at h
  simp only [applyTaskCreated, ok_iff] at h
  obtain ⟨-, -, hbody, browser, hbrowser, rfl⟩ := h
  exact ⟨hbody, rfl, rfl, rfl, rfl, rfl, hbrowser, rfl, rfl⟩

def sampleTask : TaskFacts where
  id := ⟨1⟩
  environmentId := ⟨1⟩
  title := "task"
  description := none
  projectId := ⟨1⟩
  workspace := .main
  assignment := .localOwner
  lifecycle := .opened
  actionEpoch := 0
  revision := 1
  createdAtMs := 0

def sampleSnapshot : TaskSnapshot where
  task := sampleTask
  connectivity := .connected
  attention := .none
  activity := .idle
  reviewReadiness := .notReady
  agents := ∅
  primaryAgentId := none
  artifacts := ∅
  resources := ∅
  providerSessions := ∅
  browser := { BrowserBook.new with openTasks := (∅ : ExtTreeSet TaskId).insert ⟨1⟩ }
  terminalFacts := ∅
  terminalStrip := .default

theorem created_sampleSnapshot : Created sampleSnapshot := by
  refine ⟨{
    id := ⟨1⟩, taskId := some ⟨1⟩, sequence := 1, taskRevision := some 1, occurredAtMs := 0,
    payload := .taskCreated sampleTask .connected .none .idle .notReady }, ?_⟩
  simp only [apply, applyTaskCreated, ok_iff, Option.isSome_none, Bool.false_eq_true, if_false]
  refine ⟨by decide, by decide, rfl, _, ?_, rfl⟩
  simp only [BrowserBook.openTask, BrowserBook.new, sampleTask]
  rfl

/-! ## One event -/

/-- The revision after an event: a task mutation moves to the next one. -/
def bumped (s : TaskSnapshot) (payload : Event) (mid : TaskSnapshot) : TaskSnapshot :=
  if payload.isTaskMutation then mid.withRevision (s.task.revision + 1) else mid

variable {s' : TaskSnapshot}

theorem applyStamped_eq_ok {stamp payload} :
    applyStamped s (stamp, payload) = .ok s' ↔
      (payload.isTaskMutation = true → s.task.revision + 1 ≤ u64Max) ∧
        ∃ mid, effect s payload stamp.occurredAtMs = .ok mid ∧ s' = bumped s payload mid := by
  unfold applyStamped
  rw [apply_some_eq_ok]
  simp only [stampEvent, true_and, bumped]
  refine and_congr_left fun _ => forall_congr' fun hmut => ?_
  simp [hmut]

theorem applyBatch_singleton {entry} :
    applyBatch s [entry] = .ok s' ↔ applyStamped s entry = .ok s' := by
  unfold applyBatch
  rw [foldlM_cons_ok]
  simp only [List.foldlM_nil, pure_eq_ok]
  constructor
  · rintro ⟨_, h, rfl⟩
    exact h
  · intro h
    exact ⟨s', h, rfl⟩

theorem applicable_nil (s) : Applicable s [] := by
  intro batch hbatch
  rw [List.map_eq_nil_iff.mp hbatch]
  exact ⟨s, rfl⟩

theorem applicable_singleton {payload} (hmut : payload.isTaskMutation = true) :
    Applicable s [payload] ↔
      s.task.revision < u64Max ∧ ∀ t, ∃ mid, effect s payload t = .ok mid := by
  constructor
  · intro h
    have hone : ∀ t, s.task.revision + 1 ≤ u64Max ∧ ∃ mid, effect s payload t = .ok mid := by
      intro t
      obtain ⟨s', hs'⟩ := h [(⟨⟨0⟩, 0, t⟩, payload)] rfl
      obtain ⟨hrev, mid, hmid, -⟩ := applyStamped_eq_ok.mp (applyBatch_singleton.mp hs')
      exact ⟨hrev hmut, mid, hmid⟩
    exact ⟨(hone 0).1, fun t => (hone t).2⟩
  · rintro ⟨hrev, heff⟩ batch hbatch
    obtain ⟨⟨stamp, p⟩, rfl, hp⟩ := List.map_eq_singleton_iff.mp hbatch
    cases hp
    obtain ⟨mid, hmid⟩ := heff stamp.occurredAtMs
    exact ⟨_, applyBatch_singleton.mpr (applyStamped_eq_ok.mpr ⟨fun _ => hrev, mid, hmid, rfl⟩)⟩

/-- The stamp that concrete runs use. -/
def sampleStamp : Stamp := ⟨⟨1⟩, 1, 0⟩

theorem reachable_command (hs : kernel.Reachable s) (command : Command)
    {p} (hdec : Command.decide (some s) (envelopeFor s command) ⟨1⟩ = .ok [p])
    (happly : applyStamped s (sampleStamp, p) = .ok s') : kernel.Reachable s' := by
  have hbatch : applyBatch s [(sampleStamp, p)] = .ok s' := applyBatch_singleton.mpr happly
  exact hs.next (.decided hdec hbatch)

theorem reachable_host (hs : kernel.Reachable s) (p : Event)
    (hfact : p.isHostFact = true) (happly : applyStamped s (sampleStamp, p) = .ok s') :
    kernel.Reachable s' := by
  have hevent : (stampEvent s sampleStamp p).payload.isHostFact = true := hfact
  exact hs.next (.host hevent happly)

theorem eventMachine_invariant {allowed : TaskSnapshot → Event → Prop} {P : TaskSnapshot → Prop}
     (h : (eventMachine allowed).Reachable s)
    (hfresh : ∀ s, IsFresh s → P s) (hrev : ∀ s n, P s → P (s.withRevision n))
    (heff : ∀ s payload t, (eventMachine allowed).Reachable s → P s → allowed s payload →
      Ensures (effect s payload t) P) : P s := by
  refine h.invariant (fun s hs => hfresh s (isFresh_of_created hs)) fun a b ha hP hstep => ?_
  obtain ⟨event, hallowed, happly⟩ := hstep
  obtain ⟨-, -, mid, hmid, rfl⟩ := apply_some_eq_ok.mp happly
  have hPmid : P mid := heff a event.payload event.occurredAtMs ha hP hallowed mid hmid
  split_ifs
  · exact hrev mid _ hPmid
  · exact hPmid

end Runs

end DevManager
