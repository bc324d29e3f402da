import DevManager.Terminal.InputSide
import DevManager.Terminal.Opened

/-!
# The input of one generation

A call accepts an input and types it, or restarts the terminal, or keeps the input side
(`method_input`). So from the start of a generation what a terminal has accepted is the
accepted inputs one after the other, numbered from one, each once, and its process
was handed exactly that (`Delivered`).
-/

namespace DevManager.Terminal

open List

/-- An input of a size that the terminal takes. -/
def InputEnvelope.Admissible (envelope : InputEnvelope) : Prop :=
  envelope.bytes ≠ [] ∧ envelope.bytes.length ≤ maxInputBytes

namespace HostedTerminal

variable {t t' : HostedTerminal} {id : TerminalId}

/-- The start of a generation: nothing was accepted yet. -/
structure InputStart (t : HostedTerminal) : Prop where
  sequence : t.acceptedInputSequence = 0
  ids : t.acceptedInputIds = ∅
  bytes : t.acceptedBytes = []

/-! ## One write -/

/-- The fences that an envelope names are the terminal's. -/
structure Matches (t : HostedTerminal) (envelope : InputEnvelope) : Prop where
  opened : t.closed = false
  task : envelope.taskId = t.taskId
  session : envelope.sessionId = t.sessionId
  generation : envelope.terminalGeneration = t.generation
  focus : envelope.focusEpoch = t.focusEpoch

/-- What a terminal that accepts `envelope` as its `sequence`-th input becomes. -/
structure Typed (t : HostedTerminal) (envelope : InputEnvelope) (sequence : ℕ)
    (t' : HostedTerminal) : Prop where
  admissible : envelope.Admissible
  fresh : t.acceptedInputIds[envelope.inputId]? = none
  next : sequence = t.acceptedInputSequence + 1
  inputSide : t'.inputSide =
    ⟨sequence, t.acceptedInputIds.insert envelope.inputId sequence,
      t.acceptedBytes ++ envelope.bytes,
      t.projection.handed.map (· ++ envelope.bytes)⟩

variable {envelope : InputEnvelope}

theorem admitInput_ok {sequence : ℕ} (h : t.admitInput envelope = .ok sequence) :
    envelope.Admissible ∧ t.acceptedInputIds[envelope.inputId]? = none ∧
      sequence = t.acceptedInputSequence + 1 := by
  simp only [admitInput, bind_eq_ok, failIf_eq_ok, not_not, not_lt] at h
  obtain ⟨_, -, _, -, _, -, _, -, _, -, _, hnil, _, hlen, h⟩ := h
  cases hid : t.acceptedInputIds[envelope.inputId]? with
  | some sequence => simp [hid] at h
  | none =>
    simp only [hid, bind_eq_ok, okOr_eq_ok] at h
    obtain ⟨_, -, _, -, _, -, _, -, h⟩ := h
    exact ⟨⟨hnil, hlen⟩, rfl, (checkedAdd_eq_some.mp h).2.symm⟩

theorem admitInput_error {ack}
    (h : t.admitInput envelope = .error ack) (sequence : ℕ) : ack ≠ .accepted sequence := by
  rintro rfl
  unfold admitInput at h
  cases hid : t.acceptedInputIds[envelope.inputId]? with
  | some first => simp [hid, bind_eq_error, failIf_eq_error] at h
  | none => simp [hid, bind_eq_error, failIf_eq_error, okOr_eq_error] at h

theorem forwardInput_handed {bytes projection} (h : t.forwardInput bytes = .ok projection) :
    projection.handed = t.projection.handed.map (· ++ bytes) := by
  unfold forwardInput at h
  rcases projection_cases t with ⟨grid, hgrid⟩ | ⟨runtime, hrun⟩
  · simp only [hgrid] at h
    cases h
    rw [hgrid]
    rfl
  · simp only [hrun] at h
    cases hver : t.verifyAttachment with
    | error error => simp [hver] at h
    | ok _ =>
      simp only [hver] at h
      cases hwrite : runtime.writeBytes bytes t.attachmentFence with
      | error error => simp [hwrite] at h
      | ok after =>
        simp only [hwrite] at h
        cases h
        simp only [AttachedRuntime.writeBytes, ok_iff] at hwrite
        obtain ⟨_, -, _, -, rfl⟩ := hwrite
        rw [hrun]
        rfl

theorem write_cases (envelope) (t) :
    (∃ sequence, (t.write envelope).1 = .accepted sequence ∧
      Typed t envelope sequence (t.write envelope).2) ∨
    (t.write envelope).2 = t ∧ ∀ sequence, (t.write envelope).1 ≠ .accepted sequence := by
  unfold write
  cases hadmitted : t.admitInput envelope with
  | error ack =>
    exact .inr ⟨rfl, fun sequence => admitInput_error hadmitted sequence⟩
  | ok sequence =>
    simp only
    cases hfwd : t.forwardInput envelope.bytes with
    | error => exact .inr ⟨rfl, nofun⟩
    | ok projection =>
      obtain ⟨hadmits, hfresh, hnext⟩ := admitInput_ok hadmitted
      refine .inl ⟨sequence, rfl, hadmits, hfresh, hnext, ?_⟩
      simp only [inputSide, forwardInput_handed hfwd]

theorem write_again {envelope} {sequence : ℕ} (hmatches : t.Matches envelope)
    (hadmits : envelope.Admissible) (hid : t.acceptedInputIds[envelope.inputId]? = some sequence) :
    t.write envelope = (.duplicate sequence, t) := by
  have hadmitted : t.admitInput envelope = .error (.duplicate sequence) := by
    obtain ⟨hopen, htask, hsess, hgen, hfocus⟩ := hmatches
    have hlen : ¬ maxInputBytes < envelope.bytes.length := not_lt.mpr hadmits.2
    simp [admitInput, bind_eq_error, failIf_eq_error, hopen, htask, hsess, hgen,
      hfocus, hadmits.1, hlen, hid]
  unfold write
  rw [hadmitted]

/-! ## One call -/

/-- The input that a call accepts. -/
def acceptedBy : HostedCall → TerminalAnswer → Option (InputEnvelope × ℕ)
  | .write envelope, .ack (.accepted sequence) => some (envelope, sequence)
  | .writeTaskInput request, .ack (.accepted sequence) => some (request.envelope, sequence)
  | _, _ => none

/-- What a call leaves of the input: one more input that it accepted, the start of a generation
that it restarted, or what was there. -/
def Continues (c : HostedCall) (t : HostedTerminal) (answer : TerminalAnswer)
    (t' : HostedTerminal) : Prop :=
  match acceptedBy c answer, c with
  | some (envelope, sequence), _ => Typed t envelope sequence t'
  | none, .replaceGeneration _ => InputStart t'
  | none, _ => t'.inputSide = t.inputSide

theorem write_continues (envelope) :
    Continues (.write envelope) t (.ack (t.write envelope).1) (t.write envelope).2 := by
  rcases write_cases envelope t with ⟨sequence, hack, htyped⟩ | ⟨hsame, hack⟩
  · rw [hack]
    exact htyped
  · unfold Continues
    cases hw : (t.write envelope).1 with
    | accepted sequence => exact absurd hw (hack sequence)
    | duplicate | rejected => exact congrArg inputSide hsame

theorem writeTaskInput_continues (request) :
    Wp (writeTaskInput request)
      (fun ack t' => Continues (.writeTaskInput request) t (.ack ack) t') (Refusal t) t := by
  simp only [writeTaskInput, ensureOpen, wp_bind, wp_get, wp_refuseIf]
  refine ⟨fun _ => .refl t _, fun _ => ?_⟩
  cases hfences : t.fenceTaskInput request.context with
  | error reason =>
    simp only [wp_pure]
    exact rfl
  | ok _ =>
    simp only [wp_ite, wp_pure, wp_modifyGet]
    refine ⟨fun _ => rfl, fun _ => ?_⟩
    have hwrite := write_continues (t := t) request.envelope
    unfold Continues at hwrite ⊢
    cases hw : (t.write request.envelope).1 with
    | accepted | duplicate | rejected =>
      rw [hw] at hwrite
      exact hwrite

variable [TerminalEmulator]

theorem replaceGeneration_input (blank) :
    Wp (replaceGeneration id blank) (fun _ t' => InputStart t') (Refusal t) t := by
  simp only [replaceGeneration, ensureOpen, wp_bind, wp_get, wp_refuseIf]
  refine ⟨fun _ => .refl t _, fun _ => ?_⟩
  rcases projection_cases t with ⟨grid, hgrid⟩ | ⟨runtime, hrun⟩
  · simp only [hgrid, rebuildFixture, wp_bind, wp_get, wp_lift, wp_set, wp_pure]
    exact ⟨fun _ _ => ⟨rfl, rfl, rfl⟩, fun _ _ => .refl t _⟩
  · simp only [hrun, rebindAttached, wp_bind, wp_get, wp_lift, wp_refuseIf, wp_modify, wp_set,
      wp_pure]
    refine ⟨fun attachment _ => ⟨fun _ => .refl t _, fun _ => ?_⟩, fun _ _ => .refl t _⟩
    refine (drainLifecycle_offScreen (t := t) rfl).imp (fun _ t' ht' => ?_)
      fun _ _ h' => .of_offScreen h'
    exact ⟨fun _ _ => ⟨rfl, rfl, rfl⟩, fun _ _ => .of_offScreen ht'⟩

omit [TerminalEmulator] in
theorem close_input : Wp close (fun _ t' => t'.inputSide = t.inputSide) (Refusal t) t := by
  simp only [close, wp_bind, wp_get, wp_ite, wp_pure]
  refine ⟨fun _ => trivial, fun _ => ?_⟩
  rcases projection_cases t with ⟨grid, hgrid⟩ | ⟨runtime, hrun⟩
  · simp only [hgrid, wp_set]
    unfold inputSide
    rw [hgrid]
  · simp only [hrun, wp_bind, wp_lift, wp_set]
    refine ⟨fun _ _ => ⟨fun _ _ => ?_, fun _ _ => .refl t _⟩, fun _ _ => .refl t _⟩
    unfold inputSide
    rw [hrun]

theorem plain_input {c} (hc : match c with
      | .grantClient _ _ | .disconnectView _ | .bindTaskIdentity _ _ _ | .retargetTask _
      | .retargetSession _ | .advanceFocus => True
      | _ => False) :
    Wp (method id c) (fun _ t' => t'.inputSide = t.inputSide) (fun _ t' => t' = t) t := by
  cases c with
  | grantClient | disconnectView | retargetTask | retargetSession =>
    simp only [method, grantClient, disconnectView, retargetTask, retargetSession, ensureOpen,
      wp_bind, wp_get, wp_refuseIf, wp_modify, wp_pure]
    exact ⟨fun _ => trivial, fun _ => rfl⟩
  | advanceFocus =>
    simp only [method, advanceFocus, ensureOpen, wp_bind, wp_get, wp_refuseIf, wp_lift, wp_set,
      wp_pure]
    exact ⟨fun _ => trivial, fun _ => ⟨fun _ _ => rfl, fun _ _ => trivial⟩⟩
  | bindTaskIdentity =>
    simp only [method, bindTaskIdentity, ensureOpen, wp_bind, wp_get, wp_refuseIf, wp_ite, wp_pure,
      wp_set, wp_throw]
    exact ⟨fun _ => trivial, fun _ => ⟨fun _ => trivial, fun _ => ⟨fun _ => rfl, fun _ => trivial⟩⟩⟩
  | _ => exact hc.elim

/-- A scroll of a task's terminal, which may write to the process. -/
def IsScroll : HostedCall → Prop
  | .task (.scroll _ _) => True
  | _ => False

theorem method_input (c) (hscroll : ¬ IsScroll c) :
    Wp (method id c) (fun answer t' => Continues c t answer t') (Refusal t) t := by
  have hkeeps : ∀ {α : Type} {m : TerminalM α} {f : α → TerminalAnswer},
      Wp m (fun _ t' => t'.inputSide = t.inputSide) (Refusal t) t →
        Wp (m >>= fun a => pure (f a)) (fun _ t' => t'.inputSide = t.inputSide) (Refusal t) t :=
    fun h => wp_bind.mpr h
  have hplain : ∀ {m : TerminalM TerminalAnswer},
      Wp m (fun _ t' => t'.inputSide = t.inputSide) (fun _ t' => t' = t) t →
        Wp m (fun _ t' => t'.inputSide = t.inputSide) (Refusal t) t := fun h =>
    h.imp (fun _ _ h' => h') fun _ _ h' => h' ▸ .refl t _
  cases c with
  | write => exact write_continues _
  | writeTaskInput request =>
    simp only [method, wp_bind, wp_pure]
    exact writeTaskInput_continues request
  | replaceGeneration blank =>
    simp only [method, wp_bind, wp_pure]
    exact (replaceGeneration_input blank).imp (fun _ _ h' => h') fun _ _ h' => h'
  | readerOutput => exact readerOutput_inputSide ..
  | lifecycle => exact rfl
  | retireFence | loseView | setFaults => exact onRuntime_inputSide fun _ => rfl
  | restartProcess => exact restartProcess_inputSide ..
  | admitReaderBytes => exact hkeeps (applyFixtureReaderBytes_input ..)
  | pump =>
    simp only [method, ensureOpen, wp_bind, wp_get, wp_refuseIf, wp_pure]
    exact ⟨fun _ => .refl t _, fun _ => (drain_offScreen t).imp
      (fun _ _ h' => inputSide_of_offScreen h') fun _ _ h' => .of_offScreen h'⟩
  | snapshot =>
    simp only [method, ensureOpen, wp_bind, wp_get, wp_refuseIf, wp_pure]
    exact ⟨fun _ => .refl t _, fun _ => (snapshot_offScreen t).imp
      (fun _ _ h' => inputSide_of_offScreen h') fun _ _ h' => .of_offScreen h'⟩
  | updatesSince => exact hkeeps (updatesSince_input ..)
  | resize => exact hkeeps (resize_input ..)
  | close => exact hkeeps close_input
  | grantClient | disconnectView | bindTaskIdentity | retargetTask | retargetSession
  | advanceFocus => exact hplain (plain_input trivial)
  | task call =>
    cases call with
    | view => exact hkeeps taskTerminalView_input
    | scroll => exact absurd trivial hscroll
    | resize size reflow =>
      simp only [method, taskCall, ensureOpen, wp_bind, wp_get, wp_refuseIf, wp_pure]
      exact ⟨fun _ => .refl t _, fun _ => resize_input size none reflow⟩

theorem write_refused {c} (hc : match c with
      | .write _ | .writeTaskInput _ => True
      | _ => False) :
    Wp (method id c) (fun answer t' => acceptedBy c answer = none → t' = t) (fun _ t' => t' = t)
      t := by
  have hwrite : ∀ envelope, (∀ sequence, (t.write envelope).1 ≠ .accepted sequence) →
      (t.write envelope).2 = t := fun envelope hack =>
    (write_cases envelope t).elim (fun ⟨sequence, h, _⟩ => absurd h (hack sequence)) And.left
  cases c with
  | write envelope =>
    intro hnone
    refine hwrite envelope fun sequence hack => ?_
    have hsome : acceptedBy (.write envelope) (.ack (t.write envelope).1) =
        some (envelope, sequence) := by rw [hack]; rfl
    cases hsome.symm.trans hnone
  | writeTaskInput request =>
    simp only [method, writeTaskInput, ensureOpen, wp_bind, wp_get, wp_refuseIf, wp_pure]
    refine ⟨fun _ => trivial, fun _ => ?_⟩
    cases hfences : t.fenceTaskInput request.context with
    | error reason => exact fun _ => rfl
    | ok _ =>
      simp only [wp_ite, wp_pure, wp_modifyGet]
      refine ⟨fun _ _ => trivial, fun _ hnone => hwrite request.envelope fun sequence hack => ?_⟩
      have hsome : acceptedBy (.writeTaskInput request) (.ack (t.write request.envelope).1) =
          some (request.envelope, sequence) := by rw [hack]; rfl
      cases hsome.symm.trans hnone
  | _ => exact hc.elim

/-! ## A generation -/

/-- What a terminal was at the start of the generation, what it is, and the inputs that it
accepted in between with their acknowledged sequences. -/
structure Delivered (t₁ t : HostedTerminal) (inputs : List (InputEnvelope × ℕ)) : Prop where
  bytes : t.acceptedBytes = (inputs.map fun input => input.1.bytes).flatten
  handed : t.projection.handed = t₁.projection.handed.map (· ++ t.acceptedBytes)
  sequence : t.acceptedInputSequence = inputs.length
  numbers : inputs.map (·.2) = List.range' 1 inputs.length
  once : (inputs.map fun input => input.1.inputId).Nodup
  ids : ∀ inputId sequence, t.acceptedInputIds[inputId]? = some sequence ↔
    ∃ envelope, (envelope, sequence) ∈ inputs ∧ envelope.inputId = inputId
  admissible : ∀ input ∈ inputs, input.1.Admissible

omit [TerminalEmulator] in
theorem Delivered.start (h : InputStart t) : Delivered t t [] := by
  refine ⟨h.bytes, ?_, h.sequence, rfl, nodup_nil, ?_, ?_⟩
  · rw [h.bytes]
    simp
  · intro inputId sequence
    rw [h.ids]
    simp
  · exact nofun

variable {t₁ : HostedTerminal} {inputs : List (InputEnvelope × ℕ)}

omit [TerminalEmulator] in
theorem Delivered.congr (h : Delivered t₁ t inputs) (hsame : t'.inputSide = t.inputSide) :
    Delivered t₁ t' inputs := by
  simp only [inputSide, InputSide.mk.injEq] at hsame
  obtain ⟨hseq, hids, hbytes, hhanded⟩ := hsame
  refine ⟨?_, ?_, ?_, h.numbers, h.once, ?_, h.admissible⟩
  · rw [hbytes, h.bytes]
  · rw [hhanded, hbytes, h.handed]
  · rw [hseq, h.sequence]
  · rw [hids]
    exact h.ids

omit [TerminalEmulator] in
theorem Delivered.typed (h : Delivered t₁ t inputs) {sequence : ℕ}
    (htyped : Typed t envelope sequence t') : Delivered t₁ t'
    (inputs ++ [(envelope, sequence)]) := by
  obtain ⟨hadmits, hfresh, hnext, hside⟩ := htyped
  simp only [inputSide, InputSide.mk.injEq] at hside
  obtain ⟨hseq, hids, hbytes, hhanded⟩ := hside
  rw [h.sequence] at hnext
  refine ⟨?_, ?_, ?_, ?_, ?_, ?_, ?_⟩
  · rw [hbytes, h.bytes]
    simp
  · rw [hhanded, hbytes, h.handed]
    cases t₁.projection.handed with
    | none => rfl
    | some bytes => simp
  · rw [hseq, hnext, length_append, length_singleton]
  · rw [map_append, h.numbers, length_append, length_singleton, range'_concat, hnext]
    simp [Nat.add_comm]
  · rw [map_append, map_singleton, ← concat_eq_append]
    refine h.once.concat fun hmem => ?_
    obtain ⟨input, hinput, hid⟩ := mem_map.mp hmem
    have hknown := (h.ids envelope.inputId input.2).mpr ⟨input.1, hinput, hid⟩
    rw [hfresh] at hknown
    cases hknown
  · intro inputId k
    rw [hids, OrdMap.getElem?_insert_eq]
    simp only [mem_append, mem_singleton, Prod.mk.injEq]
    split_ifs with hid
    · constructor
      · intro hk
        exact ⟨envelope, .inr ⟨rfl, (Option.some.inj hk).symm⟩, hid⟩
      · rintro ⟨e, hold | ⟨-, rfl⟩, he⟩
        · have hknown := (h.ids envelope.inputId k).mpr ⟨e, hold, he.trans hid.symm⟩
          rw [hfresh] at hknown
          cases hknown
        · rfl
    · rw [h.ids]
      constructor
      · rintro ⟨e, hold, he⟩
        exact ⟨e, .inl hold, he⟩
      · rintro ⟨e, hold | ⟨rfl, -⟩, he⟩
        · exact ⟨e, hold, he⟩
        · exact absurd he hid
  · intro input hinput
    rcases mem_append.mp hinput with hold | hnew
    · exact h.admissible input hold
    · rw [mem_singleton.mp hnew]
      exact hadmits

omit [TerminalEmulator] in
theorem Delivered.call {c answer} (h : Delivered t₁ t inputs) (hcont : Continues c t answer t')
    (hwithin : ∀ blank, c ≠ .replaceGeneration blank) :
    Delivered t₁ t' (inputs ++ (acceptedBy c answer).toList) := by
  unfold Continues at hcont
  cases hacc : acceptedBy c answer with
  | some input =>
    rw [hacc] at hcont
    exact h.typed hcont
  | none =>
    rw [hacc] at hcont
    rw [Option.toList_none, append_nil]
    cases c with
    | replaceGeneration blank => exact absurd rfl (hwithin blank)
    | _ => exact h.congr hcont

end HostedTerminal

end DevManager.Terminal
