import DevManager.Terminal.Input
import DevManager.Terminal.Updates

/-!
# Input is delivered exactly once and in order

In every run within one generation of a terminal the bytes that its process was handed
are the accepted inputs in the order of their acknowledgements, which are numbered
from one; no input is accepted twice, and one that is sent again is answered with its
first number. A call that is refused changes nothing, but that one which fails past
its fences may have drained the output (`input_delivered_exactly_once`,
`failed_resize_drains`).
-/

namespace DevManager.Terminal

open HostedTerminal List Calls Option

namespace TerminalService

section Runs

variable {s : TerminalService} {id : TerminalId} {t t' : HostedTerminal}

/-- The calls of a run: not a scroll, which writes to the process when the mouse is reported, and
no removal of a closed terminal. -/
def Routed : TerminalCall → Prop
  | .removeClosed _ | .forTask _ _ (.scroll _ _) => False
  | _ => True

/-- The input that a call accepted for the terminal. -/
def acceptedInput (id : TerminalId) :
    TerminalCall × Except TerminalError TerminalAnswer → Option (InputEnvelope × ℕ)
  | (.on id' c, answer) =>
    match answer with
    | .ok answer => if id' = id then acceptedBy c answer else none
    | .error _ => none
  | _ => none

/-- The call restarted the terminal. -/
def Restart (id : TerminalId) (entry : TerminalCall × Except TerminalError TerminalAnswer) : Prop :=
  ∃ blank answer, entry = (.on id (.replaceGeneration blank), .ok answer)

/-- The call started a generation of the terminal: it opened or restarted it. -/
def StartsGeneration (id : TerminalId)
    (entry : TerminalCall × Except TerminalError TerminalAnswer) : Prop :=
  entry.2 = .ok (.opened id) ∨ Restart id entry

variable [TerminalEmulator]

theorem call_ok_or_error (c) (hscroll : ¬ IsScroll c) :
    (∃ answer, (t.call id c).1 = .ok answer ∧ Continues c t answer (t.call id c).2) ∨
      ∃ error, (t.call id c).1 = .error error ∧ Refusal t error (t.call id c).2 := by
  have hmethod := @method_input t id _ c hscroll
  unfold HostedTerminal.call
  cases hrun : runOn (method id c) t with
  | mk answer t' =>
    cases answer with
    | ok => exact .inl ⟨_, rfl, hmethod.of_ok hrun⟩
    | error => exact .inr ⟨_, rfl, hmethod.of_error hrun⟩

variable {c : TerminalCall}

omit [TerminalEmulator] in
theorem not_isScroll_of_routed {h} (hrouted : Routed c)
    (haddr : s.addressed c = some (id, h)) : ¬ IsScroll h := by
  rcases addressed_cases haddr with ⟨rfl, hcheck⟩ | ⟨_, _, call, rfl, rfl, -⟩
  · cases h with
    | task call => simp [checkCall] at hcheck
    | _ => exact fun hscroll => hscroll
  · cases call with
    | scroll => exact hrouted.elim
    | view | resize => exact fun hscroll => hscroll

theorem call_of_not_addressed (hrouted : Routed c) (haddr : s.addressed c = none) :
    acceptedInput id (c, (s.call c).1) = none ∧
      (s.terminals[id]? = some t → (s.call c).2.terminals[id]? = some t) := by
  have hpub : ∀ {new : TerminalId} {hosted : Except TerminalError HostedTerminal}
      {occupied : HostedTerminal → Bool}, s.terminals[id]? = some t →
        (s.publish new hosted occupied).2.terminals[id]? = some t := by
    intro new hosted occupied ht
    rcases @publish_terminals s new hosted occupied id with
      hsame | ⟨_, _, _, _, _, hnone⟩
    · rw [hsame, ht]
    · rw [ht] at hnone
      cases hnone
  cases c with
  | createFixture | attach | attachBoundTaskRuntime | attachPlainShell => exact ⟨rfl, hpub⟩
  | removeClosed => exact hrouted.elim
  | on id' c =>
    obtain ⟨error, hcall⟩ := call_on_of_not_addressed haddr
    rw [hcall]
    exact ⟨rfl, fun ht => ht⟩
  | forTask taskId resourceId call =>
    rw [(call_forTask_of_not_addressed haddr).1]
    exact ⟨rfl, fun ht => ht⟩

omit [TerminalEmulator] in
theorem acceptedInput_of_addressed {id' h}
    (haddr : s.addressed c = some (id', h))
    (answer) :
    acceptedInput id (c, answer) =
      match answer with
      | .ok answer => if id' = id then acceptedBy h answer else none
      | .error _ => none := by
  rcases addressed_cases haddr with ⟨rfl, -⟩ | ⟨_, _, call, rfl, rfl, -⟩
  · rfl
  · cases answer with
    | error error => rfl
    | ok answer => simp only [acceptedInput, acceptedBy, ite_self]

/-! ## A run within one generation -/

theorem call_delivered {t₁ inputs} (hrouted : Routed c) (hwithin : ¬ Restart id (c, (s.call c).1))
    (ht : s.terminals[id]? = some t) (h : Delivered t₁ t inputs) :
    ∃ t', (s.call c).2.terminals[id]? = some t' ∧
      Delivered t₁ t' (inputs ++ (acceptedInput id (c, (s.call c).1)).toList) := by
  cases haddr : s.addressed c with
  | none =>
    obtain ⟨hnone, hkept⟩ := @call_of_not_addressed s id t _ c hrouted haddr
    rw [hnone, toList_none, append_nil]
    exact ⟨t, hkept ht, h⟩
  | some at_ =>
    obtain ⟨id', m⟩ := at_
    rw [acceptedInput_of_addressed haddr]
    rw [call_of_addressed haddr] at hwithin ⊢
    rw [onTerminal_terminals]
    by_cases hid : id' = id
    · subst hid
      rw [if_pos rfl, ht, map_some]
      have hans : (s.onTerminal id' m).1 = (t.call id' m).1 := by
        unfold onTerminal
        rw [ht]
      rw [hans] at hwithin ⊢
      refine ⟨_, rfl, ?_⟩
      rcases @call_ok_or_error id' t _ m (not_isScroll_of_routed hrouted haddr)
        with ⟨answer, hok, hcont⟩ | ⟨error, herror, hdeny⟩
      · rw [hok] at hwithin ⊢
        simp only [if_true]
        refine h.call hcont fun blank hm => ?_
        rcases addressed_cases haddr with ⟨rfl, -⟩ | ⟨_, _, _, -, hcall, -⟩
        · exact hwithin ⟨blank, answer, by rw [hm]⟩
        · rw [hm] at hcall
          cases hcall
      · rw [herror]
        simp only [toList_none, append_nil]
        exact h.congr hdeny.inputSide
    · rw [if_neg hid]
      refine ⟨t, ht, ?_⟩
      cases (s.onTerminal id' m).1 with
      | error error =>
        simp only [toList_none, append_nil]
        exact h
      | ok answer =>
        simp only [if_neg hid, toList_none, append_nil]
        exact h

theorem run_delivered {t₁} (calls) :
    ∀ {s : TerminalService} {t : HostedTerminal} {inputs : List (InputEnvelope × ℕ)},
      (∀ c ∈ calls, Routed c) → (∀ entry ∈ trace call s calls, ¬ Restart id entry) →
      s.terminals[id]? = some t → Delivered t₁ t inputs →
      ∃ t', (after call s calls).terminals[id]? = some t' ∧
        Delivered t₁ t' (inputs ++ (trace call s calls).filterMap (acceptedInput id)) := by
  induction calls with
  | nil =>
    intro s t inputs _ _ ht h
    refine ⟨t, ht, ?_⟩
    rw [trace_nil, filterMap_nil, append_nil]
    exact h
  | cons c calls ih =>
    intro s t inputs hrouted hwithin ht h
    obtain ⟨t', ht', h'⟩ := call_delivered (hrouted c (.head _))
      (hwithin (c, (s.call c).1) (.head _)) ht h
    obtain ⟨t'', ht'', h''⟩ := ih (fun c' hc' => hrouted c' (mem_cons_of_mem c hc'))
      (fun entry hentry => hwithin entry (.tail _ hentry)) ht' h'
    refine ⟨t'', ht'', ?_⟩
    have hsplit : (trace call s (c :: calls)).filterMap (acceptedInput id) =
        (acceptedInput id (c, (s.call c).1)).toList ++
          (trace call (s.call c).2 calls).filterMap (acceptedInput id) := by
      rw [trace, filterMap_cons]
      cases acceptedInput id (c, (s.call c).1) <;> rfl
    rw [hsplit, ← append_assoc]
    exact h''

/-! ## What a call answers -/

/-- The two calls that bring input. -/
def IsWrite : HostedCall → Prop
  | .write _ | .writeTaskInput _ => True
  | _ => False

/-- An answer of a terminal: no terminal is opened by it, and only input is acknowledged. -/
structure Answers (c : HostedCall) (answer : TerminalAnswer) : Prop where
  opened : ∀ id, answer ≠ .opened id
  acked : ∀ ack, answer = .ack ack → IsWrite c

theorem method_answers (c) :
    Wp (method id c) (fun answer _ => Answers c answer) (fun _ _ => True) t := by
  have hany : ∀ {α : Type} {m : TerminalM α} {f : α → TerminalM TerminalAnswer}
      {t : HostedTerminal},
      (∀ a t, Wp (f a) (fun answer _ => Answers c answer) (fun _ _ => True) t) →
        Wp (m >>= f) (fun answer _ => Answers c answer) (fun _ _ => True) t := fun hf =>
    wp_bind.mpr (wp_iff_runOn.mpr ⟨fun a t _ => hf a t, fun _ _ _ => trivial⟩)
  have hother : ∀ {answer : TerminalAnswer} (t : HostedTerminal), (∀ id, answer ≠ .opened id) →
      (∀ ack, answer ≠ .ack ack) →
        Wp (pure answer : TerminalM TerminalAnswer) (fun answer _ => Answers c answer)
          (fun _ _ => True) t := fun t hopen hacked =>
    ⟨hopen, fun ack hack => absurd hack (hacked ack)⟩
  have hack : ∀ ack t, IsWrite c →
      Wp (pure (.ack ack) : TerminalM TerminalAnswer) (fun answer _ => Answers c answer)
        (fun _ _ => True) t := fun ack t hc => ⟨nofun, fun _ _ => hc⟩
  cases c with
  | write | writeTaskInput => exact hany fun ack t => hack ack t trivial
  | pump | snapshot =>
    exact hany fun _ t => hany fun _ t => hother t nofun nofun
  | task call =>
    cases call with
    | view | scroll =>
      exact hany fun _ t => hother t nofun nofun
    | resize =>
      exact hany fun _ t => hany fun _ t => hother t nofun nofun
  | _ => exact hany fun _ t => hother t nofun nofun

theorem call_answers {c answer}
    (h : (t.call id c).1 = .ok answer) : Answers c answer :=
  (@method_answers id t _ c).of_ok (Prod.ext h rfl)

theorem onTerminal_answers {c answer} (h : (s.onTerminal id c).1 = .ok answer) :
    ∃ t, s.terminals[id]? = some t ∧ (t.call id c).1 = .ok answer := by
  unfold onTerminal at h
  cases ht : s.terminals[id]? with
  | none => simp [ht] at h
  | some t =>
    simp only [ht] at h
    exact ⟨t, rfl, h⟩

omit [TerminalEmulator] in
theorem publish_answer {new hosted} {occupied : HostedTerminal → Bool} {answer}
    (h : (s.publish new hosted occupied).1 = .ok answer) :
    ∃ t, hosted = .ok t ∧ answer = .opened new ∧
      (s.publish new hosted occupied).2.terminals[new]? = some t := by
  unfold publish at h ⊢
  cases hosted with
  | error error => cases h
  | ok t =>
    simp only at h ⊢
    split_ifs at h ⊢
    cases h
    exact ⟨t, rfl, rfl, by simp⟩

theorem starts_input (h : StartsGeneration id (c, (s.call c).1)) :
    ∃ t, (s.call c).2.terminals[id]? = some t ∧ InputStart t := by
  have hopen : ∀ {t : HostedTerminal}, JustOpened t → InputStart t := fun ht =>
    ⟨ht.inputSequence, ht.inputIds, ht.bytes⟩
  have hpub : ∀ {new : TerminalId} {hosted : Except TerminalError HostedTerminal}
      {occupied : HostedTerminal → Bool}, (∀ t, hosted = .ok t → JustOpened t) →
        (s.publish new hosted occupied).1 = .ok (.opened id) →
          ∃ t, (s.publish new hosted occupied).2.terminals[id]? = some t ∧ InputStart t := by
    intro new hosted occupied hjust hans
    obtain ⟨t, ht, hnew, hget⟩ := publish_answer hans
    cases hnew
    exact ⟨t, hget, hopen (hjust t ht)⟩
  have honce : ∀ {id' : TerminalId} {m : HostedCall},
    (s.onTerminal id' m).1 ≠ .ok (.opened id) := by
    intro id' m hans
    obtain ⟨t, -, hcall⟩ := onTerminal_answers hans
    exact (call_answers hcall).opened id rfl
  rcases h with hans | ⟨blank, answer, hentry⟩
  · cases c with
    | createFixture => exact hpub (fun _ => openFixture_justOpened) hans
    | attach => exact hpub (fun _ => openAttached_justOpened) hans
    | attachBoundTaskRuntime => exact hpub (fun _ => openBound_justOpened) hans
    | attachPlainShell => exact hpub (fun _ => openPlainShell_justOpened) hans
    | removeClosed resourceId =>
      simp only [call, removeClosed] at hans
      split at hans <;> cases hans
    | on id' m =>
      simp only [call] at hans
      cases hcheck : checkCall id' m with
      | error error => simp [hcheck] at hans
      | ok _ =>
        simp only [hcheck] at hans
        exact absurd hans honce
    | forTask taskId resourceId m =>
      simp only [TerminalService.call] at hans
      cases hsel : s.selectTerminal taskId resourceId with
      | error error => simp [hsel] at hans
      | ok selected =>
        cases selected with
        | none => cases m <;> simp [hsel] at hans
        | some id' =>
          simp only [hsel] at hans
          exact absurd hans honce
  · simp only [Prod.mk.injEq] at hentry
    obtain ⟨rfl, hans⟩ := hentry
    have haddr : s.addressed (.on id (.replaceGeneration blank)) =
        some (id, .replaceGeneration blank) := rfl
    rw [call_of_addressed haddr] at hans ⊢
    obtain ⟨t, ht, hcall⟩ := onTerminal_answers hans
    refine ⟨(t.call id (.replaceGeneration blank)).2,
      by rw [onTerminal_terminals, if_pos rfl, ht]; rfl,
      ?_⟩
    rcases @call_ok_or_error id t _ (.replaceGeneration blank) (fun h => h) with
      ⟨answer', hok, hcont⟩ | ⟨error, herror, -⟩
    · unfold Continues at hcont
      cases answer' <;> exact hcont
    · rw [herror] at hcall
      cases hcall

/-! ## Input that is sent again -/

/-- Input with the identifier of `envelope`, sent again under the fences of the terminal, by
either entry point, is answered with the sequence `k` and changes nothing. -/
structure Resubmitted (s : TerminalService) (id : TerminalId) (t : HostedTerminal)
    (envelope : InputEnvelope) (k : ℕ) : Prop where
  write : ∀ again, again.inputId = envelope.inputId → again.terminalId = id →
    t.Matches again → again.Admissible →
    s.call (.on id (.write again)) = (.ok (.ack (.duplicate k)), s)
  writeTaskInput : ∀ request, request.inputId = envelope.inputId →
    request.terminalId = id → request.validate = .ok () → t.closed = false →
    t.fenceTaskInput request.context = .ok () →
    s.call (.on id (.writeTaskInput request)) = (.ok (.ack (.duplicate k)), s)

omit [TerminalEmulator] in
theorem matches_of_fenceTaskInput {request : TerminalInputRequest} (hopen : t.closed = false)
    (h : t.fenceTaskInput request.context = .ok ()) : t.Matches request.envelope := by
  simp only [fenceTaskInput, ok_iff, not_or] at h
  obtain ⟨htask, -, -, -, hgen, hsess, hfocus, -⟩ := h
  exact ⟨hopen, htask.symm, hsess.symm, hgen.1.symm, hfocus.symm⟩

omit [TerminalEmulator] in
theorem admissible_of_validate {request : TerminalInputRequest} (h : request.validate = .ok ()) :
    request.envelope.Admissible := by
  simp only [TerminalInputRequest.validate, bind_eq_ok, failIf_eq_ok, not_or, not_lt] at h
  obtain ⟨_, -, hnil, hlen⟩ := h
  exact ⟨hnil, hlen⟩

theorem onTerminal_same {c answer} (ht : s.terminals[id]? = some t)
    (h : t.call id c = (.ok answer, t)) : s.onTerminal id c = (.ok answer, s) := by
  unfold onTerminal
  simp only [ht, h]
  rw [OrdMap.insert_self ht]

theorem resubmitted {envelope : InputEnvelope} {k : ℕ} (ht : s.terminals[id]? = some t)
    (hid : t.acceptedInputIds[envelope.inputId]? = some k) : Resubmitted s id t envelope k := by
  constructor
  · intro again hsame hterminal hmatches hadmits
    have hwrite := write_again hmatches hadmits (hsame ▸ hid)
    have hcheck : checkCall id (.write again) = .ok () := by
      simp [checkCall, failIf, hterminal]
    simp only [call, hcheck]
    refine onTerminal_same ht ?_
    show ((.ok (.ack (t.write again).1), (t.write again).2) :
      Except TerminalError TerminalAnswer × HostedTerminal) = _
    rw [hwrite]
  · intro request hsame hterminal hvalid hopen hfences
    have hwrite := @write_again t request.envelope k
      (matches_of_fenceTaskInput hopen hfences) (admissible_of_validate hvalid)
      (show t.acceptedInputIds[request.inputId]? = some k from hsame ▸ hid)
    have hcheck : checkCall id (.writeTaskInput request) = .ok () := by
      simp [checkCall, failIf, hterminal, hvalid, ok_bind]
    simp only [call, hcheck]
    refine onTerminal_same ht ?_
    have hknown : ¬ (t.acceptedInputIds[request.inputId]? = none ∧
        request.context.inputSequence ≠ saturatingAdd t.acceptedInputSequence 1) := by
      rw [hsame, hid]
      exact fun hstale => by cases hstale.1
    have hmethod : Wp (method id (.writeTaskInput request))
        (fun answer t' => answer = .ack (.duplicate k) ∧ t' = t) (fun _ _ => False) t := by
      simp only [method, HostedTerminal.writeTaskInput, ensureOpen, wp_bind, wp_get, wp_refuseIf,
        wp_pure]
      refine ⟨fun hclosed => ?_, fun _ => ?_⟩
      · rw [hopen] at hclosed
        cases hclosed
      · rw [hfences]
        simp only [wp_ite, wp_modifyGet, hwrite]
        exact ⟨fun hstale => absurd hstale hknown, fun _ => ⟨trivial, trivial⟩⟩
    unfold HostedTerminal.call
    cases hrun : runOn (method id (.writeTaskInput request)) t with
    | mk answer t' =>
      cases answer with
      | error => exact (hmethod.of_error hrun).elim
      | ok answer =>
        obtain ⟨rfl, rfl⟩ := hmethod.of_ok hrun
        rfl

/-! ## Calls that are refused -/

/-- The calls that check all that may fail before they change anything. -/
def ChecksFirst : TerminalCall → Prop
  | .on _ (.write _) | .on _ (.writeTaskInput _) | .on _ (.grantClient _ _)
  | .on _ (.disconnectView _) | .on _ (.bindTaskIdentity _ _ _) | .on _ (.retargetTask _)
  | .on _ (.retargetSession _) | .on _ .advanceFocus => True
  | _ => False

/-- What a call that is refused leaves: input that is not accepted, and the calls that check
first, leave the service as it was; any other call leaves of every terminal its input side and
its fences and, but for draining, all of it (unless the sequences are exhausted). -/
structure RefusalKeeps (s : TerminalService) (c : TerminalCall) : Prop where
  acked : ∀ ack, (s.call c).1 = .ok (.ack ack) → (∀ k, ack ≠ .accepted k) → (s.call c).2 = s
  checked : ∀ error, (s.call c).1 = .error error → ChecksFirst c → (s.call c).2 = s
  drained : ∀ error, (s.call c).1 = .error error → Routed c → ∀ id : TerminalId,
    Option.Rel (fun t t' => Refusal t error t') s.terminals[id]? (s.call c).2.terminals[id]?

omit [TerminalEmulator] in
theorem rel_refl (error) (o) :
    Option.Rel (fun t t' => Refusal t error t') o o := by
  cases o with
  | none => exact .none
  | some => exact .some (.refl _ error)

theorem onTerminal_unchanged {m}
    (h : ∀ t, s.terminals[id]? = some t → (t.call id m).2 = t) : (s.onTerminal id m).2 = s := by
  unfold onTerminal
  cases ht : s.terminals[id]? with
  | none => rfl
  | some t =>
    simp only [h t ht]
    rw [OrdMap.insert_self ht]

theorem checksFirst_error {m error}
    (hm : ChecksFirst (.on id m)) (h : (t.call id m).1 = .error error) : (t.call id m).2 = t := by
  have hsame : Wp (method id m) (fun _ _ => True) (fun _ t' => t' = t) t := by
    cases m with
    | write | writeTaskInput =>
      exact (write_refused trivial).imp (fun _ _ _ => trivial) fun _ _ h' => h'
    | grantClient | disconnectView | bindTaskIdentity | retargetTask | retargetSession
    | advanceFocus => exact (plain_input trivial).imp (fun _ _ _ => trivial) fun _ _ h' => h'
    | _ => exact hm.elim
  exact hsame.of_error (Prod.ext h rfl)

theorem write_unchanged {m} (hm : IsWrite m) {ack}
    (hack : ∀ k, ack ≠ .accepted k) (h : (t.call id m).1 = .ok (.ack ack)) :
    (t.call id m).2 = t := by
  have hnone : acceptedBy m (.ack ack) = none := by
    cases ack with
    | accepted k => exact absurd rfl (hack k)
    | duplicate | rejected => cases m <;> rfl
  cases m with
  | write | writeTaskInput => exact (write_refused trivial).of_ok (Prod.ext h rfl) hnone
  | _ => exact hm.elim

theorem refused_of_not_addressed (haddr : s.addressed c = none) :
    (∀ ack, (s.call c).1 ≠ .ok (.ack ack)) ∧
      ∀ error, (s.call c).1 = .error error → (s.call c).2 = s := by
  have hpub : ∀ {new : TerminalId} {hosted : Except TerminalError HostedTerminal}
      {occupied : HostedTerminal → Bool},
      (∀ ack, (s.publish new hosted occupied).1 ≠ .ok (.ack ack)) ∧
        ∀ error, (s.publish new hosted occupied).1 = .error error →
          (s.publish new hosted occupied).2 = s := by
    intro new hosted occupied
    refine ⟨fun ack hans => ?_, fun error hans => ?_⟩
    · obtain ⟨_, -, hopen, -⟩ := publish_answer hans
      cases hopen
    · unfold publish at hans ⊢
      cases hosted with
      | error error => rfl
      | ok t =>
        simp only at hans ⊢
        split_ifs at hans ⊢ <;> rfl
  cases c with
  | createFixture | attach | attachBoundTaskRuntime | attachPlainShell => exact hpub
  | removeClosed resourceId =>
    simp only [call, removeClosed]
    split <;> exact ⟨by rintro _ ⟨⟩, by rintro _ ⟨⟩⟩
  | on id' m =>
    obtain ⟨error, hcall⟩ := call_on_of_not_addressed haddr
    rw [hcall]
    exact ⟨by rintro _ ⟨⟩, fun _ _ => rfl⟩
  | forTask taskId resourceId m =>
    obtain ⟨hsame, hack⟩ := call_forTask_of_not_addressed haddr
    exact ⟨hack, fun _ _ => hsame⟩

theorem refusalKeeps (s) (c) : RefusalKeeps s c := by
  cases haddr : s.addressed c with
  | none =>
    obtain ⟨hack, herror⟩ := refused_of_not_addressed haddr
    refine ⟨fun ack hans _ => absurd hans (hack ack), fun error hans _ =>
      herror error hans, fun error hans _ id => ?_⟩
    rw [herror error hans]
    exact rel_refl error _
  | some at_ =>
    obtain ⟨id', m⟩ := at_
    have hcall := call_of_addressed haddr
    refine ⟨fun ack hans hack => ?_, fun error hans hcheck => ?_, fun error hans hrouted id => ?_⟩
    · rw [hcall] at hans ⊢
      obtain ⟨t, ht, hm⟩ := onTerminal_answers hans
      refine onTerminal_unchanged fun t' ht' => ?_
      rw [ht, some.injEq] at ht'
      subst ht'
      exact write_unchanged ((call_answers hm).acked ack rfl) hack hm
    · rw [hcall] at hans ⊢
      rcases addressed_cases haddr with ⟨rfl, -⟩ | ⟨_, _, _, rfl, -, -⟩
      · refine onTerminal_unchanged fun t ht => ?_
        have hfailed : (t.call id' m).1 = .error error := by
          unfold onTerminal at hans
          rw [ht] at hans
          exact hans
        exact checksFirst_error hcheck hfailed
      · exact hcheck.elim
    · rw [hcall] at hans ⊢
      rw [onTerminal_terminals]
      split_ifs with hid
      · subst hid
        unfold onTerminal at hans
        cases ht : s.terminals[id']? with
        | none => exact .none
        | some t =>
          rw [ht] at hans
          rcases @call_ok_or_error id' t _ m
            (not_isScroll_of_routed hrouted haddr) with ⟨answer, hok, -⟩ | ⟨_, herr, hdeny⟩
          · rw [hok] at hans
            cases hans
          · rw [herr] at hans
            cases hans
            exact .some hdeny
      · exact rel_refl error _

/-- In every run from the start of a generation of a terminal in which it is not restarted again:
its process was handed exactly what it accepted, which is the accepted inputs in the order of
their acknowledgements; these are numbered from one, and none is accepted twice; what was
accepted and is sent again is answered with its first number. And in every state a refused
call keeps what `RefusalKeeps` says. -/
theorem input_delivered_exactly_once (s₀ : TerminalService) (id : TerminalId) (c : TerminalCall)
    (calls : List TerminalCall) (hstart : StartsGeneration id (c, (s₀.call c).1))
    (hrouted : ∀ c ∈ calls, Routed c)
    (hwithin : ∀ entry ∈ trace call (s₀.call c).2 calls, ¬ Restart id entry) :
    (∃ t₁ t, (s₀.call c).2.terminals[id]? = some t₁ ∧
      (after call (s₀.call c).2 calls).terminals[id]? = some t ∧
      Delivered t₁ t ((trace call (s₀.call c).2 calls).filterMap (acceptedInput id)) ∧
      ∀ envelope k, (envelope, k) ∈
          (trace call (s₀.call c).2 calls).filterMap (acceptedInput id) →
        Resubmitted (after call (s₀.call c).2 calls) id t envelope k) ∧
    ∀ s c, RefusalKeeps s c := by
  obtain ⟨t₁, ht₁, hinput⟩ := starts_input hstart
  obtain ⟨t, ht, hdel⟩ := run_delivered calls hrouted hwithin ht₁ (.start hinput)
  rw [nil_append] at hdel
  refine ⟨⟨t₁, t, ht₁, ht, hdel, fun envelope k hmem => ?_⟩, refusalKeeps⟩
  exact resubmitted ht ((hdel.ids envelope.inputId k).mpr ⟨envelope, hmem, rfl⟩)

end Runs

attribute [local instance] sampleEmulator

def sampleEnvelope : InputEnvelope where
  clientId := ⟨1⟩
  inputId := ⟨1⟩
  taskId := ⟨1⟩
  sessionId := ⟨1⟩
  terminalId := ⟨1⟩
  terminalGeneration := .initial
  focusEpoch := .initial
  bytes := ['a'.toUInt8]

def sampleTyping : List TerminalCall :=
  [.on ⟨1⟩ (.grantClient ⟨1⟩ .readWrite), .on ⟨1⟩ (.write sampleEnvelope),
   .on ⟨1⟩ (.write sampleEnvelope)]

theorem sampleTyping_delivered :
    ∃ t, (after call (new.call (.attach ⟨1⟩ ⟨1⟩ sampleSpec sampleRuntime)).2
      sampleTyping).terminals[(⟨1⟩ : TerminalId)]? = some t ∧
      t.acceptedBytes = ['a'.toUInt8] := by
  have hacc : (trace call (new.call (.attach ⟨1⟩ ⟨1⟩ sampleSpec sampleRuntime)).2
      sampleTyping).filterMap (acceptedInput ⟨1⟩) = [(sampleEnvelope, 1)] := by
    decide +kernel
  obtain ⟨⟨t₁, t, -, ht, hdel, -⟩, -⟩ := input_delivered_exactly_once new ⟨1⟩
    (.attach ⟨1⟩ ⟨1⟩ sampleSpec sampleRuntime) sampleTyping (.inl (by decide +kernel))
    (by simp [sampleTyping, Routed])
    (by
      rintro entry hentry ⟨blank, answer, rfl⟩
      simp [sampleTyping, trace] at hentry)
  refine ⟨t, ht, ?_⟩
  rw [hdel.bytes, hacc]
  rfl

def sampleBuffering : List TerminalCall :=
  [.attach ⟨1⟩ ⟨1⟩ sampleSpec sampleRuntime,
   .on ⟨1⟩ (.readerOutput (sampleScreen ['a', ' ']) none 1)]

theorem sampleBuffering_drains :
    let s := after call new sampleBuffering
    let resized := s.call (.on ⟨1⟩ (.resize ⟨0, 0⟩ none (sampleScreen [])))
    resized.1 = .error .invalidSize ∧
      s.terminals[(⟨1⟩ : TerminalId)]?.map (·.sequence) = some .zero ∧
      resized.2.terminals[(⟨1⟩ : TerminalId)]?.map (·.sequence) = some ⟨1⟩ := by
  decide +kernel

/-- A resize to a size that is refused has drained the output by then. -/
theorem failed_resize_drains :
    ¬ ∀ calls c error, (∀ c' ∈ calls, Routed c') → Routed c →
      ((after call new calls).call c).1 = .error error →
        ((after call new calls).call c).2 = after call new calls := by
  intro h
  obtain ⟨herror, hpre, hpost⟩ := sampleBuffering_drains
  have hkept := h sampleBuffering (.on ⟨1⟩ (.resize ⟨0, 0⟩ none (sampleScreen []))) .invalidSize
    (by simp [sampleBuffering, Routed]) trivial herror
  rw [hkept, hpre] at hpost
  exact absurd hpost (by decide)

end TerminalService

end DevManager.Terminal
