import DevManager.Lib.OrdMap
import DevManager.Terminal.Service

/-!
# Every terminal of the service

A call on the service opens a terminal, removes a closed one, or is a call on one
terminal (`addressed`). So what holds of every terminal that is just opened, and is
kept by the calls on one terminal, holds of every terminal in every run
(`TerminalService.terminals_invariant`).
-/

namespace DevManager.Terminal

open Std (ExtTreeMap)

/-- A terminal as it is published: nothing happened to it yet, and what was last seen of its
screen is its screen. -/
structure JustOpened (t : HostedTerminal) : Prop where
  sequence : t.sequence = .zero
  deltas : t.deltas = []
  inputSequence : t.acceptedInputSequence = 0
  inputIds : t.acceptedInputIds = ∅
  bytes : t.acceptedBytes = []
  output : t.pendingOutput = .default
  lifecycle : t.pendingLifecycle = []
  rows : t.lastRows = rowsFromScreen t.screenSnapshot
  cursor : t.lastCursor = t.screenSnapshot.cursor
  modes : t.lastModes = t.screenSnapshot.mode
  title : t.lastTitle = t.currentTitle
  fence : ∀ runtime, t.projection = .attached runtime → runtime.fence = .ok t.attachmentFence

theorem JustOpened.identified {t} (h : JustOpened t)
    (agent) (runtimeGeneration actionEpoch) (shell : Bool) :
    JustOpened { t with
      agentSessionId := agent
      runtimeGeneration
      actionEpoch
      isPlainShell := shell } :=
  ⟨h.sequence, h.deltas, h.inputSequence, h.inputIds, h.bytes, h.output, h.lifecycle, h.rows,
    h.cursor, h.modes, h.title, h.fence⟩

namespace HostedTerminal

variable {t : HostedTerminal}

theorem orElse_self (x y : Option String) : ((x <|> y) <|> y) = (x <|> y) := by
  cases x <;> cases y <;> rfl

variable {owner : TaskId} {spec : TerminalSpec}

variable [TerminalEmulator]

theorem openFixture_justOpened {resourceId}
    {blank} (h : openFixture owner spec resourceId blank = .ok t) :
    JustOpened t := by
  simp only [openFixture, ok_iff] at h
  obtain ⟨spec, -, rfl⟩ := h
  refine ⟨rfl, rfl, rfl, rfl, rfl, rfl, rfl, rfl, rfl, rfl, ?_, fun runtime h => by cases h⟩
  show spec.title = ((spec.title <|> spec.title) <|> spec.title)
  cases spec.title <;> rfl

variable {runtime : AttachedRuntime}

theorem openAttached_justOpened (h : openAttached owner spec runtime = .ok t) : JustOpened t := by
  simp only [openAttached, ok_iff] at h
  obtain ⟨spec, -, attachment, hfence, rfl⟩ := h
  refine ⟨rfl, rfl, rfl, rfl, rfl, rfl, rfl, rfl, rfl, rfl, ?_, ?_⟩
  · simp only [opened, currentTitle, sessionView, ProjectionSource.boundHistory,
      ProjectionSource.view]
    cases runtime.view with
    | error error => rfl
    | ok view => exact (orElse_self view.title spec.title).symm
  · intro bounded h
    cases h
    exact hfence

theorem openBound_justOpened {agent} {runtimeGeneration actionEpoch : ℕ}
    (h : openBound owner spec runtime agent runtimeGeneration actionEpoch = .ok t) :
    JustOpened t := by
  simp only [openBound, bind_eq_ok, pure_eq_ok] at h
  obtain ⟨-, -, hosted, hopen, rfl⟩ := h
  exact (openAttached_justOpened hopen).identified _ _ _ _

theorem openPlainShell_justOpened {resourceId} {resourceGeneration : ℕ}
    (h : openPlainShell owner resourceId resourceGeneration spec runtime = .ok t) :
    JustOpened t := by
  simp only [openPlainShell, bind_eq_ok, pure_eq_ok] at h
  obtain ⟨generation, -, attachment, -, -, -, hosted, hopen, rfl⟩ := h
  exact (openAttached_justOpened hopen).identified _ _ _ _

end HostedTerminal

namespace TerminalService

variable {s : TerminalService} {id : TerminalId} {t : HostedTerminal}

/-- The terminal that a call is on, and the call, when the service gets that far. -/
def addressed (s : TerminalService) : TerminalCall → Option (TerminalId × HostedCall)
  | .on id c =>
    match checkCall id c with
    | .ok () => some (id, c)
    | .error _ => none
  | .forTask taskId resourceId c =>
    match s.selectTerminal taskId resourceId with
    | .ok (some id) => some (id, .task c)
    | _ => none
  | _ => none

variable {c : TerminalCall}

theorem addressed_cases {h} (haddr : s.addressed c = some (id, h)) :
    c = .on id h ∧ checkCall id h = .ok () ∨
      ∃ taskId resourceId call, c = .forTask taskId resourceId call ∧ h = .task call ∧
        s.selectTerminal taskId resourceId = .ok (some id) := by
  cases c with
  | on id' c =>
    unfold addressed at haddr
    cases hcheck : checkCall id' c with
    | error error => simp [hcheck] at haddr
    | ok _ =>
      simp only [hcheck, Option.some.injEq, Prod.mk.injEq] at haddr
      obtain ⟨rfl, rfl⟩ := haddr
      exact .inl ⟨rfl, hcheck⟩
  | forTask taskId resourceId call =>
    unfold addressed at haddr
    cases hsel : s.selectTerminal taskId resourceId with
    | error error => simp [hsel] at haddr
    | ok selected =>
      cases selected with
      | none => simp [hsel] at haddr
      | some id' =>
        simp only [hsel, Option.some.injEq, Prod.mk.injEq] at haddr
        obtain ⟨rfl, rfl⟩ := haddr
        exact .inr ⟨taskId, resourceId, call, rfl, rfl, hsel⟩
  | createFixture | attach | attachBoundTaskRuntime | attachPlainShell | removeClosed =>
    simp [addressed] at haddr

variable [TerminalEmulator]

theorem call_of_addressed {h}
    (haddr : s.addressed c = some (id, h)) : s.call c = s.onTerminal id h := by
  rcases addressed_cases haddr with ⟨rfl, hcheck⟩ | ⟨_, _, _, rfl, rfl, hsel⟩
  · simp [call, hcheck]
  · simp [call, hsel]

theorem onTerminal_terminals (c) (id') :
    (s.onTerminal id c).2.terminals[id']? =
      if id = id' then s.terminals[id]?.map fun t => (t.call id c).2 else s.terminals[id']? := by
  unfold onTerminal
  cases ht : s.terminals[id]? with
  | none =>
    by_cases h : id = id'
    · subst h
      simp [ht]
    · simp [h]
  | some t => simp [ExtTreeMap.getElem?_insert]

omit [TerminalEmulator] in
theorem publish_terminals {hosted} {occupied : HostedTerminal → Bool} (id') :
    (s.publish id hosted occupied).2.terminals[id']? = s.terminals[id']? ∨
      ∃ t, hosted = .ok t ∧ id = id' ∧ (s.publish id hosted occupied).2.terminals[id']? = some t ∧
        (s.publish id hosted occupied).1 = .ok (.opened id) ∧ s.terminals[id']? = none := by
  unfold publish
  cases hosted with
  | error => exact .inl rfl
  | ok t =>
    simp only
    split_ifs with hused hslot
    · exact .inl rfl
    · exact .inl rfl
    · by_cases h : id = id'
      · subst h
        refine .inr ⟨t, rfl, rfl, by simp, rfl, ?_⟩
        exact OrdMap.not_mem_iff.mp hused
      · exact .inl (by simp [ExtTreeMap.getElem?_insert, h])

theorem call_on_of_not_addressed {m} (haddr : s.addressed (.on id m) = none) :
    ∃ error, s.call (.on id m) = (.error error, s) := by
  unfold addressed at haddr
  cases hcheck : checkCall id m with
  | ok _ => simp [hcheck] at haddr
  | error error => exact ⟨error, by simp only [call, hcheck]⟩

theorem call_forTask_of_not_addressed {taskId resourceId m}
    (haddr : s.addressed (.forTask taskId resourceId m) = none) :
    (s.call (.forTask taskId resourceId m)).2 = s ∧
      ∀ ack, (s.call (.forTask taskId resourceId m)).1 ≠ .ok (.ack ack) := by
  unfold addressed at haddr
  simp only [call]
  cases hsel : s.selectTerminal taskId resourceId with
  | error error => exact ⟨rfl, by rintro _ ⟨⟩⟩
  | ok selected =>
    cases selected with
    | some id' => simp [hsel] at haddr
    | none => cases m <;> exact ⟨rfl, by rintro _ ⟨⟩⟩

theorem call_terminals_of_not_addressed (haddr : s.addressed c = none)
    (hpost : (s.call c).2.terminals[id]? = some t) :
    s.terminals[id]? = some t ∨
      JustOpened t ∧ (s.call c).1 = .ok (.opened id) ∧ s.terminals[id]? = none := by
  have hpub : ∀ {new : TerminalId} {hosted : Except TerminalError HostedTerminal}
      {occupied : HostedTerminal → Bool}, (∀ t, hosted = .ok t → JustOpened t) →
        (s.publish new hosted occupied).2.terminals[id]? = some t →
          s.terminals[id]? = some t ∨ JustOpened t ∧
            (s.publish new hosted occupied).1 = .ok (.opened id) ∧ s.terminals[id]? = none := by
    intro new hosted occupied hopen hget
    rcases @publish_terminals s new hosted occupied id with
      hsame | ⟨t', hok, rfl, hnew, hans, hnone⟩
    · exact .inl (hsame ▸ hget)
    · rw [hnew, Option.some.injEq] at hget
      exact .inr ⟨hget ▸ hopen t' hok, hans, hnone⟩
  cases c with
  | createFixture new owner spec resourceId blank =>
    exact hpub (fun _ => HostedTerminal.openFixture_justOpened) hpost
  | attach new owner spec runtime =>
    exact hpub (fun _ => HostedTerminal.openAttached_justOpened) hpost
  | attachBoundTaskRuntime new owner spec runtime agent runtimeGeneration actionEpoch =>
    exact hpub (fun _ => HostedTerminal.openBound_justOpened) hpost
  | attachPlainShell new owner resourceId resourceGeneration spec runtime =>
    exact hpub (fun _ => HostedTerminal.openPlainShell_justOpened) hpost
  | removeClosed resourceId =>
    simp only [call, removeClosed] at hpost
    split at hpost
    · exact .inl hpost
    · rw [ExtTreeMap.getElem?_erase] at hpost
      split_ifs at hpost
      exact .inl hpost
  | on id' c =>
    obtain ⟨error, hcall⟩ := call_on_of_not_addressed haddr
    rw [hcall] at hpost
    exact .inl hpost
  | forTask taskId resourceId c =>
    rw [(call_forTask_of_not_addressed haddr).1] at hpost
    exact .inl hpost

/-- A condition on the calls on one terminal, as a condition on the calls on the service. -/
def Meets (Q : TerminalId → HostedTerminal → HostedCall → Prop) (s : TerminalService)
    (c : TerminalCall) : Prop :=
  ∀ id h t, s.addressed c = some (id, h) → s.terminals[id]? = some t → Q id t h

theorem terminals_invariant {P : TerminalId → HostedTerminal → Prop}
    {Q : TerminalId → HostedTerminal → HostedCall → Prop} (hopen : ∀ id t, JustOpened t → P id t)
    (hcall : ∀ id t c, P id t → Q id t c → P id (t.call id c).2) (calls)
    (hcalls : Calls.Along call (Meets Q) new calls) :
    ∀ id t, (Calls.after call new calls).terminals[id]? = some t → P id t := by
  refine Calls.along_invariant
    (P := fun s => ∀ id t, s.terminals[id]? = some t → P id t) ?_ calls ?_ hcalls
  · intro s c hs hmeets id t hpost
    cases haddr : s.addressed c with
    | none =>
      rcases call_terminals_of_not_addressed haddr hpost with hpre | ⟨hopened, -⟩
      · exact hs id t hpre
      · exact hopen id t hopened
    | some at_ =>
      obtain ⟨id', h⟩ := at_
      rw [call_of_addressed haddr, onTerminal_terminals] at hpost
      split_ifs at hpost with hid
      · subst hid
        obtain ⟨t', ht', rfl⟩ := Option.map_eq_some_iff.mp hpost
        exact hcall id' t' h (hs id' t' ht') (hmeets id' h t' haddr ht')
      · exact hs id t hpost
  · intro id t ht
    simp [new] at ht

end TerminalService

end DevManager.Terminal
