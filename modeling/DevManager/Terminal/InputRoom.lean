import DevManager.Terminal.Delivery

/-!
# How much input one generation takes

The identifiers and the bytes of the input that a terminal accepted are kept until it is
restarted, and both are bounded. So what a fresh input is answered depends on all the
input of the generation (`fresh_input_answered`): it is accepted while there are fewer than
`maxTrackedInputIds` inputs and the bytes stay within `maxAcceptedInputHistoryBytes`;
after that every input is refused until a restart (`full_terminal_refuses`).
-/

namespace DevManager.Terminal

open Std (ExtTreeMap)
open List Calls Option

/-- Room for `envelope` after the inputs that a generation has accepted. -/
def Room (inputs : List InputEnvelope) (envelope : InputEnvelope) : Prop :=
  inputs.length < maxTrackedInputIds ∧
    (inputs.map fun input => input.bytes.length).sum + envelope.bytes.length ≤
      maxAcceptedInputHistoryBytes

instance (inputs : List InputEnvelope) (envelope : InputEnvelope) :
    Decidable (Room inputs envelope) :=
  inferInstanceAs (Decidable (_ ∧ _))

namespace HostedTerminal

variable {t t' : HostedTerminal} {id : TerminalId}

/-! ## What a terminal remembers of its input -/

/-- A terminal remembers as many inputs and bytes as `inputs` has. -/
structure Remembers (t : HostedTerminal) (inputs : List InputEnvelope) : Prop where
  sequence : t.acceptedInputSequence = inputs.length
  ids : t.acceptedInputIds.size = inputs.length
  bytes : t.acceptedBytes.length = (inputs.map fun input => input.bytes.length).sum

theorem Remembers.start (h : InputStart t) : Remembers t [] :=
  ⟨h.sequence, by rw [h.ids]; rfl, by rw [h.bytes]; rfl⟩

/-- What a terminal has accepted, apart from what its process was handed. -/
def accepted (t : HostedTerminal) : ℕ × ExtTreeMap InputId ℕ × List UInt8 :=
  (t.acceptedInputSequence, t.acceptedInputIds, t.acceptedBytes)

theorem accepted_of_inputSide (h : t'.inputSide = t.inputSide) : t'.accepted = t.accepted := by
  simp only [inputSide, InputSide.mk.injEq] at h
  obtain ⟨hseq, hids, hbytes, -⟩ := h
  unfold accepted
  rw [hseq, hids, hbytes]

variable {inputs : List InputEnvelope}

theorem Remembers.congr (h : Remembers t inputs) (hsame : t'.accepted = t.accepted) :
    Remembers t' inputs := by
  simp only [accepted, Prod.mk.injEq] at hsame
  obtain ⟨hseq, hids, hbytes⟩ := hsame
  refine ⟨?_, ?_, ?_⟩
  · rw [hseq, h.sequence]
  · rw [hids, h.ids]
  · rw [hbytes, h.bytes]

theorem Remembers.typed (h : Remembers t inputs) {envelope} {sequence : ℕ}
    (htyped : Typed t envelope sequence t') : Remembers t' (inputs ++ [envelope]) := by
  obtain ⟨-, hfresh, hnext, hside⟩ := htyped
  simp only [inputSide, InputSide.mk.injEq] at hside
  obtain ⟨hseq, hids, hbytes, -⟩ := hside
  refine ⟨?_, ?_, ?_⟩
  · rw [hseq, hnext, h.sequence, length_append, length_singleton]
  · rw [hids, OrdMap.size_insert_new (OrdMap.not_mem_iff.mpr hfresh), h.ids, length_append,
      length_singleton]
  · rw [hbytes, length_append, h.bytes]
    simp

/-! ## One call -/

variable [TerminalEmulator]

theorem scroll_accepted (deltaLines : ℤ) (scrolled) :
    Wp (method id (.task (.scroll deltaLines scrolled)))
      (fun answer t' => answer = .done ∧ t'.accepted = t.accepted)
      (fun _ t' => t'.accepted = t.accepted) t := by
  simp only [method, taskCall, scrollTaskTerminal, ensureOpen, wp_bind, wp_get, wp_refuseIf,
    wp_lift, wp_set, wp_pure, bumpSequence_wp]
  refine ⟨fun _ => trivial, fun _ => (drain_offScreen t).imp (fun _ t' ht' => ?_)
    fun _ t' ht' => ?_⟩
  · have hsame : t'.accepted = t.accepted := accepted_of_inputSide (inputSide_of_offScreen ht')
    exact ⟨fun _ _ => ⟨fun _ _ => ⟨trivial, hsame⟩, fun _ _ => hsame⟩, fun _ _ => hsame⟩
  · exact accepted_of_inputSide (inputSide_of_offScreen ht')

/-- The call started a new generation. -/
def restarts : HostedCall → Bool
  | .replaceGeneration _ => true
  | _ => false

theorem Remembers.method (h : Remembers t inputs) (c) :
    Wp (HostedTerminal.method id c) (fun answer t' => Remembers t' (if restarts c then [] else
        inputs ++ ((acceptedBy c answer).map (·.1)).toList))
      (fun _ t' => Remembers t' inputs) t := by
  by_cases hscroll : IsScroll c
  · cases c with
    | task call =>
      cases call with
      | scroll deltaLines scrolled =>
        refine (scroll_accepted deltaLines scrolled).imp (fun answer t' hans => ?_)
          fun _ t' hsame => h.congr hsame
        simpa [restarts, acceptedBy] using h.congr hans.2
      | view | resize => exact hscroll.elim
    | _ => exact hscroll.elim
  · refine (method_input c hscroll).imp (fun answer t' hcont => ?_) fun _ t' hdeny =>
      h.congr (accepted_of_inputSide hdeny.inputSide)
    unfold Continues at hcont
    cases hacc : acceptedBy c answer with
    | some input =>
      rw [hacc] at hcont
      have hkeeps : restarts c = false := by
        cases c with
        | replaceGeneration blank => cases hacc
        | _ => rfl
      rw [hkeeps]
      exact h.typed hcont
    | none =>
      rw [hacc] at hcont
      simp only [map_none, toList_none, append_nil]
      cases c with
      | replaceGeneration => exact .start hcont
      | _ => exact h.congr (accepted_of_inputSide hcont)

/-! ## A fresh input -/

/-- The runtime takes bytes; a fixture has none. -/
def takesInput (t : HostedTerminal) : Bool :=
  match t.projection with
  | .fixture _ => true
  | .attached runtime => !runtime.writeFails

/-- An input that nothing but the bounds of the history speaks against: the terminal is open, its
attachment and the fences match, the identifier is new, the client may write, and the runtime
takes the bytes. -/
structure Fresh (t : HostedTerminal) (envelope : InputEnvelope) : Prop where
  fences : t.Matches envelope
  admissible : envelope.Admissible
  unseen : t.acceptedInputIds[envelope.inputId]? = none
  granted : t.clients[envelope.clientId]?.map (·.grant) = some .readWrite
  attached : t.verifyAttachment = .ok ()
  takes : t.takesInput = true

variable {envelope : InputEnvelope}

instance (t : HostedTerminal) (envelope : InputEnvelope) : Decidable (t.Matches envelope) :=
  decidable_of_iff (t.closed = false ∧ envelope.taskId = t.taskId ∧
      envelope.sessionId = t.sessionId ∧ envelope.terminalGeneration = t.generation ∧
      envelope.focusEpoch = t.focusEpoch)
    ⟨fun ⟨a, b, c, d, e⟩ => ⟨a, b, c, d, e⟩, fun ⟨a, b, c, d, e⟩ => ⟨a, b, c, d, e⟩⟩

instance (envelope : InputEnvelope) : Decidable envelope.Admissible :=
  inferInstanceAs (Decidable (_ ∧ _))

instance (t : HostedTerminal) (envelope : InputEnvelope) : Decidable (t.Fresh envelope) :=
  decidable_of_iff (t.Matches envelope ∧ envelope.Admissible ∧
      t.acceptedInputIds[envelope.inputId]? = none ∧
      t.clients[envelope.clientId]?.map (·.grant) = some .readWrite ∧
      isOk t.verifyAttachment = true ∧ t.takesInput = true)
    ⟨fun ⟨a, b, c, d, e, f⟩ => ⟨a, b, c, d, (isOk_eq_true.mp e).choose_spec, f⟩,
      fun ⟨a, b, c, d, e, f⟩ => ⟨a, b, c, d, isOk_eq_true.mpr ⟨(), e⟩, f⟩⟩

omit [TerminalEmulator] in
theorem Fresh.forwards (h : Fresh t envelope) (bytes) :
    ∃ projection, t.forwardInput bytes = .ok projection := by
  have hattach := h.attached
  unfold forwardInput
  rcases projection_cases t with ⟨grid, hgrid⟩ | ⟨runtime, hrun⟩
  · rw [hgrid]
    exact ⟨_, rfl⟩
  · have hwrites : runtime.writeFails = false := by
      have htakes := h.takes
      unfold takesInput at htakes
      rw [hrun] at htakes
      simpa using htakes
    have hmatches : runtime.matchesAttachment t.attachmentFence = .ok () := by
      unfold verifyAttachment at hattach
      rw [hrun] at hattach
      cases hfence : runtime.fence with
      | error error => simp [hfence] at hattach
      | ok current =>
        simp only [hfence, failIf_eq_ok, not_or, not_not] at hattach
        obtain ⟨hres, hgen⟩ := hattach
        simp [AttachedRuntime.matchesAttachment, hfence, attachmentFence, hres, hgen,
          failIf, ok_bind]
    rw [hrun]
    simp only [hattach, AttachedRuntime.writeBytes, hmatches, hwrites, ok_bind]
    exact ⟨_, rfl⟩

omit [TerminalEmulator] in
theorem Fresh.admission (h : Fresh t envelope) (hremembers : Remembers t inputs) :
    t.admitInput envelope =
      if Room inputs envelope then .ok (inputs.length + 1) else .error
        (.rejected .boundExceeded) := by
  obtain ⟨⟨hopen, htask, hsess, hgen, hfocus⟩, ⟨hnil, hlen⟩, hunseen, hgranted, -⟩ := h
  have hsize : ¬ maxInputBytes < envelope.bytes.length := not_lt.mpr hlen
  have hguard : t.admitInput envelope = (do
      failIf (maxTrackedInputIds ≤ inputs.length) (.rejected .boundExceeded)
      let total ← okOr (checkedAdd (inputs.map fun input => input.bytes.length).sum
        envelope.bytes.length) (.rejected .boundExceeded)
      failIf (maxAcceptedInputHistoryBytes < total) (.rejected .boundExceeded)
      okOr (checkedAdd inputs.length 1) (.rejected .boundExceeded)) := by
    simp [admitInput, failIf, hopen, htask, hsess, hgen, hfocus, hnil, hsize, hunseen,
      hgranted, hremembers.ids, hremembers.bytes, hremembers.sequence, ok_bind]
  rw [hguard]
  by_cases hids : inputs.length < maxTrackedInputIds
  · rw [failIf_neg (not_le.mpr hids), ok_bind]
    by_cases hbytes : (inputs.map fun input => input.bytes.length).sum + envelope.bytes.length ≤
        maxAcceptedInputHistoryBytes
    · have htotal : checkedAdd (inputs.map fun input => input.bytes.length).sum
          envelope.bytes.length = some _ := checkedAdd_eq_some.mpr ⟨hbytes.trans (by decide), rfl⟩
      have hnext : checkedAdd inputs.length 1 = some _ :=
        checkedAdd_eq_some.mpr ⟨(Nat.succ_le_of_lt hids).trans (by decide), rfl⟩
      rw [if_pos ⟨hids, hbytes⟩, htotal, okOr_some, ok_bind, failIf_neg (not_lt.mpr hbytes),
        ok_bind, hnext, okOr_some]
    · rw [if_neg fun hroom => hbytes hroom.2]
      cases hcheck : checkedAdd (inputs.map fun input => input.bytes.length).sum
          envelope.bytes.length with
      | none => rfl
      | some total =>
        have htotal := (checkedAdd_eq_some.mp hcheck).2
        rw [okOr_some, ok_bind, failIf_pos (by omega)]
        rfl
  · rw [if_neg fun hroom => hids hroom.1, failIf_pos (not_lt.mp hids)]
    rfl

omit [TerminalEmulator] in
theorem Fresh.write (h : Fresh t envelope) (hremembers : Remembers t inputs) :
    (t.write envelope).1 =
        (if Room inputs envelope then .accepted (inputs.length + 1) else .rejected .boundExceeded) ∧
      (¬ Room inputs envelope → (t.write envelope).2 = t) := by
  unfold HostedTerminal.write
  rw [h.admission hremembers]
  by_cases hroom : Room inputs envelope
  · obtain ⟨projection, hfwd⟩ := h.forwards envelope.bytes
    rw [if_pos hroom, if_pos hroom]
    simp only [hfwd]
    exact ⟨trivial, fun hfull => absurd hroom hfull⟩
  · rw [if_neg hroom, if_neg hroom]
    exact ⟨rfl, fun _ => rfl⟩

omit [TerminalEmulator] in
theorem Fresh.after_write {next} (h : Fresh t next)
    (hother : next.inputId ≠ envelope.inputId) : Fresh (t.write envelope).2 next := by
  unfold HostedTerminal.write
  cases t.admitInput envelope with
  | error => exact h
  | ok sequence =>
    simp only
    cases hfwd : t.forwardInput envelope.bytes with
    | error => exact h
    | ok projection =>
      obtain ⟨⟨hopen, htask, hsess, hgen, hfocus⟩, hadmits, hunseen, hgranted, hattach, htakes⟩ := h
      have hrun : ({ t with projection } : HostedTerminal).verifyAttachment = .ok () ∧
          ({ t with projection } : HostedTerminal).takesInput = true := by
        unfold forwardInput at hfwd
        unfold verifyAttachment takesInput at *
        rcases projection_cases t with ⟨grid, hgrid⟩ | ⟨runtime, hrun⟩
        · simp only [hgrid] at hfwd
          cases hfwd
          exact ⟨rfl, rfl⟩
        · simp only [hrun] at hfwd hattach htakes
          rw [hattach] at hfwd
          cases hwritten : runtime.writeBytes envelope.bytes t.attachmentFence with
          | error error => simp [hwritten] at hfwd
          | ok after =>
            simp only [hwritten] at hfwd
            cases hfwd
            simp only [AttachedRuntime.writeBytes, ok_iff] at hwritten
            obtain ⟨_, -, _, -, rfl⟩ := hwritten
            exact ⟨hattach, htakes⟩
      refine ⟨⟨hopen, htask, hsess, hgen, hfocus⟩, hadmits, ?_, hgranted, hrun.1, hrun.2⟩
      show (t.acceptedInputIds.insert envelope.inputId sequence)[next.inputId]? = none
      rw [OrdMap.getElem?_insert_eq, if_neg hother.symm]
      exact hunseen

theorem writeTaskInput_eq_write {request} (hopen : t.closed = false)
    (hfences : t.fenceTaskInput request.context = .ok ())
    (hnext : request.context.inputSequence = saturatingAdd t.acceptedInputSequence 1) :
    t.call id (.writeTaskInput request) =
      (.ok (.ack (t.write request.envelope).1), (t.write request.envelope).2) := by
  have hmethod : Wp (HostedTerminal.method id (.writeTaskInput request))
      (fun answer t' => answer = .ack (t.write request.envelope).1 ∧
        t' = (t.write request.envelope).2) (fun _ _ => False) t := by
    simp only [HostedTerminal.method, writeTaskInput, ensureOpen, wp_bind, wp_get, wp_refuseIf,
      wp_pure]
    refine ⟨fun hclosed => by simp [hopen] at hclosed, fun _ => ?_⟩
    rw [hfences]
    simp only [wp_ite, wp_modifyGet]
    exact ⟨fun hstale => absurd hnext hstale.2, fun _ => ⟨trivial, trivial⟩⟩
  unfold HostedTerminal.call
  cases hrun : runOn (HostedTerminal.method id (.writeTaskInput request)) t with
  | mk answer t' =>
    cases answer with
    | error => exact (hmethod.of_error hrun).elim
    | ok answer =>
      obtain ⟨rfl, rfl⟩ := hmethod.of_ok hrun
      rfl

end HostedTerminal

namespace TerminalService

open HostedTerminal

section Answers

variable {s : TerminalService} {id : TerminalId} {t : HostedTerminal}

/-! ## A run -/

/-- The call opened the terminal or restarted it. -/
def begins (id : TerminalId) (entry : TerminalCall × Except TerminalError TerminalAnswer) : Bool :=
  (match entry.2 with
    | .ok (.opened id') => decide (id' = id)
    | _ => false) ||
  match entry with
  | (.on id' c, .ok _) => decide (id' = id) && restarts c
  | _ => false

theorem begins_iff {entry} :
    begins id entry = true ↔ StartsGeneration id entry := by
  obtain ⟨c, answer⟩ := entry
  have hopen : (match answer with
      | .ok (.opened id') => decide (id' = id)
      | _ => false) = true ↔ answer = .ok (.opened id) := by
    cases answer with
    | error error => simp
    | ok answer => cases answer <;> simp
  have hrestart : (match (c, answer) with
      | (.on id' c, .ok _) => decide (id' = id) && restarts c
      | _ => false) = true ↔ Restart id (c, answer) := by
    unfold Restart
    cases answer with
    | error error => cases c <;> simp
    | ok answer =>
      cases c with
      | on id' m => cases m <;> simp [restarts]
      | _ => simp
  unfold begins StartsGeneration
  rw [Bool.or_eq_true]
  exact or_congr hopen hrestart

/-- The inputs of the present generation of a terminal, after one more call. -/
def addInput (id : TerminalId) (inputs : List InputEnvelope)
    (entry : TerminalCall × Except TerminalError TerminalAnswer) : List InputEnvelope :=
  if begins id entry then [] else inputs ++ ((acceptedInput id entry).map (·.1)).toList

/-- The inputs that a terminal accepted in its present generation, in the order of their
acknowledgements. -/
def generationInputs (id : TerminalId)
    (trace : List (TerminalCall × Except TerminalError TerminalAnswer)) : List InputEnvelope :=
  trace.foldl (addInput id) []

variable [TerminalEmulator]

theorem acceptedInput_of_not_addressed {c} (haddr : s.addressed c = none) :
    acceptedInput id (c, (s.call c).1) = none := by
  cases c with
  | on id' m =>
    obtain ⟨error, hcall⟩ := call_on_of_not_addressed haddr
    rw [hcall]
    rfl
  | _ => rfl

theorem remembers_call {inputs} (c) (h : ∀ t, s.terminals[id]? = some t → Remembers t inputs) :
    ∀ t, (s.call c).2.terminals[id]? = some t →
      Remembers t (addInput id inputs (c, (s.call c).1)) := by
  intro t' ht'
  unfold addInput
  by_cases hbegins : begins id (c, (s.call c).1) = true
  · obtain ⟨t, ht, hstart⟩ := starts_input (begins_iff.mp hbegins)
    rw [ht, some.injEq] at ht'
    rw [if_pos hbegins, ← ht']
    exact .start hstart
  rw [if_neg hbegins]
  have hnot : ¬ StartsGeneration id (c, (s.call c).1) := fun hstarts =>
    hbegins (begins_iff.mpr hstarts)
  cases haddr : s.addressed c with
  | none =>
    rw [acceptedInput_of_not_addressed haddr, map_none, toList_none, append_nil]
    rcases call_terminals_of_not_addressed haddr ht' with hpre | ⟨-, hopen, -⟩
    · exact h t' hpre
    · exact absurd (.inl hopen) hnot
  | some at_ =>
    obtain ⟨id', m⟩ := at_
    rw [acceptedInput_of_addressed haddr]
    rw [call_of_addressed haddr] at ht' hnot ⊢
    rw [onTerminal_terminals] at ht'
    by_cases hid : id' = id
    · subst hid
      rw [if_pos rfl] at ht'
      obtain ⟨t, ht, rfl⟩ := map_eq_some_iff.mp ht'
      have hans : (s.onTerminal id' m).1 = (t.call id' m).1 := by
        unfold onTerminal
        rw [ht]
      rw [hans] at hnot ⊢
      have hmethod := @Remembers.method t id' inputs _ (h t ht) m
      unfold HostedTerminal.call at hnot ⊢
      cases hrun : runOn (method id' m) t with
      | mk answer t' =>
        rw [hrun] at hnot
        cases answer with
        | error error =>
          simp only [map_none, toList_none, append_nil]
          exact hmethod.of_error hrun
        | ok answer =>
          have hkept : restarts m = false := by
            cases hres : restarts m with
            | false => rfl
            | true =>
              refine absurd (.inr ?_) hnot
              rcases addressed_cases haddr with ⟨rfl, -⟩ | ⟨_, _, _, -, rfl, -⟩
              · cases m with
                | replaceGeneration => exact ⟨_, answer, rfl⟩
                | _ => cases hres
              · cases hres
          have hremembers := hmethod.of_ok hrun
          rw [hkept] at hremembers
          simp only [if_true]
          exact hremembers
    · rw [if_neg hid] at ht'
      cases (s.onTerminal id' m).1 with
      | error error => simpa using h t' ht'
      | ok answer => simpa [hid] using h t' ht'

theorem remembers_run (calls) (id) :
    ∀ t, (after call new calls).terminals[id]? = some t →
      Remembers t (generationInputs id (trace call new calls)) := by
  refine @Calls.history_invariant _ _ _ call
    (fun (s : TerminalService) history => ∀ t, s.terminals[id]? = some t →
      Remembers t (generationInputs id history)) _ ?_ ?_ calls
  · intro t ht
    simp [new] at ht
  · intro s history c h
    unfold generationInputs
    rw [foldl_concat]
    exact remembers_call c h

/-! ## What a fresh input is answered -/

/-- The answer to a fresh input after `inputs`: it is the next one, or the bounds refuse it and
nothing changes. -/
structure Answered (s : TerminalService) (inputs : List InputEnvelope) (envelope : InputEnvelope)
    (c : TerminalCall) : Prop where
  answer : (s.call c).1 = .ok (.ack
    (if Room inputs envelope then .accepted (inputs.length + 1) else .rejected .boundExceeded))
  full : ¬ Room inputs envelope → (s.call c).2 = s

theorem answered_of_call {inputs envelope c m} (ht : s.terminals[id]? = some t)
    (haddr : s.addressed c = some (id, m))
    (hcall : t.call id m = (.ok (.ack (t.write envelope).1), (t.write envelope).2))
    (hfresh : t.Fresh envelope) (hremembers : Remembers t inputs) :
    Answered s inputs envelope c := by
  obtain ⟨hans, hfull⟩ := hfresh.write hremembers
  constructor
  · rw [call_of_addressed haddr]
    unfold onTerminal
    rw [ht]
    simp only [hcall, hans]
  · intro hroom
    rw [call_of_addressed haddr]
    refine onTerminal_unchanged fun t' ht' => ?_
    rw [ht, some.injEq] at ht'
    rw [← ht', hcall]
    exact hfull hroom

/-- In every run: a fresh input to a terminal, by either entry point, is accepted as the next one
of its generation if fewer than `maxTrackedInputIds` inputs were accepted in the generation and
their bytes with its own stay within `maxAcceptedInputHistoryBytes`; otherwise it is refused
with `boundExceeded`, and nothing changes. -/
theorem fresh_input_answered (calls : List TerminalCall) (id : TerminalId) (t : HostedTerminal)
    (ht : (after call new calls).terminals[id]? = some t) :
    (∀ envelope, envelope.terminalId = id → t.Fresh envelope →
      Answered (after call new calls) (generationInputs id (trace call new calls))
        envelope (.on id (.write envelope))) ∧
    ∀ request, request.terminalId = id → request.validate = .ok () →
      t.fenceTaskInput request.context = .ok () →
      request.context.inputSequence = saturatingAdd t.acceptedInputSequence 1 →
      t.Fresh request.envelope →
      Answered (after call new calls) (generationInputs id (trace call new calls))
        request.envelope (.on id (.writeTaskInput request)) := by
  have hremembers := remembers_run calls id t ht
  constructor
  · intro envelope hterminal hfresh
    refine answered_of_call ht (m := .write envelope) ?_ rfl hfresh hremembers
    simp [addressed, checkCall, failIf, hterminal]
  · intro request hterminal hvalid hfences hnext hfresh
    refine answered_of_call ht (m := .writeTaskInput request) ?_ ?_ hfresh hremembers
    · simp [addressed, checkCall, failIf, hterminal, hvalid, ok_bind]
    · exact writeTaskInput_eq_write hfresh.fences.opened hfences hnext

end Answers

attribute [local instance] sampleEmulator

def sampleGranted : List TerminalCall :=
  [.attach ⟨1⟩ ⟨1⟩ sampleSpec sampleRuntime, .on ⟨1⟩ (.grantClient ⟨1⟩ .readWrite)]

def sampleNext : InputEnvelope := { sampleEnvelope with inputId := ⟨2⟩ }

theorem sampleGranted_fresh :
    ∃ t ∈ (after call new sampleGranted).terminals[(⟨1⟩ : TerminalId)]?,
      t.Fresh sampleEnvelope ∧ t.Fresh sampleNext := by
  decide +kernel

theorem sampleGranted_inputs : generationInputs ⟨1⟩ (trace call new sampleGranted) = [] := by
  decide +kernel

def sampleTyped : List TerminalCall := sampleGranted ++ [.on ⟨1⟩ (.write sampleEnvelope)]

theorem sampleTyped_fresh :
    ∃ t ∈ (after call new sampleTyped).terminals[(⟨1⟩ : TerminalId)]?, t.Fresh sampleNext := by
  decide +kernel

theorem sampleTyped_inputs :
    generationInputs ⟨1⟩ (trace call new sampleTyped) = [sampleEnvelope] := by
  decide +kernel

/-- The second input of a generation. -/
theorem sampleTyped_answered :
    ((after call new sampleTyped).call (.on ⟨1⟩ (.write sampleNext))).1 =
      .ok (.ack (.accepted 2)) := by
  obtain ⟨t, ht, hfresh⟩ := sampleTyped_fresh
  have hans := ((fresh_input_answered sampleTyped ⟨1⟩ t ht).1 sampleNext rfl hfresh).answer
  rw [sampleTyped_inputs] at hans
  exact hans

def samplePaste : InputEnvelope := { sampleEnvelope with bytes := List.replicate maxInputBytes 0 }

theorem samplePaste_length : samplePaste.bytes.length = maxInputBytes := length_replicate

/-- A terminal that has taken one input of the largest size refuses the next byte. -/
theorem full_terminal_refuses :
    ∃ calls t, (after call new calls).terminals[(⟨1⟩ : TerminalId)]? = some t ∧
      t.Fresh sampleNext ∧
      ((after call new calls).call (.on ⟨1⟩ (.write sampleNext))).1 =
        .ok (.ack (.rejected .boundExceeded)) := by
  obtain ⟨t, ht, hfresh, hnext⟩ := sampleGranted_fresh
  have hremembers := remembers_run sampleGranted ⟨1⟩ t ht
  rw [sampleGranted_inputs] at hremembers
  have hpaste : t.Fresh samplePaste := by
    refine ⟨⟨hfresh.fences.opened, hfresh.fences.task, hfresh.fences.session,
      hfresh.fences.generation, hfresh.fences.focus⟩, ⟨?_, samplePaste_length.le⟩, hfresh.unseen,
      hfresh.granted, hfresh.attached, hfresh.takes⟩
    exact ne_nil_of_length_pos (by rw [samplePaste_length]; decide)
  have hroom : Room [] samplePaste := ⟨by decide, by rw [samplePaste_length]; decide⟩
  have hacc := (hpaste.write hremembers).1
  rw [if_pos hroom] at hacc
  -- The paste is typed, so the terminal remembers it and has no room for another byte.
  have htyped : Remembers (t.write samplePaste).2 [samplePaste] := by
    rcases write_cases samplePaste t with ⟨sequence, -, htyped⟩ | ⟨-, hnone⟩
    · exact hremembers.typed htyped
    · exact absurd hacc (hnone _)
  have hfull : ¬ Room [samplePaste] sampleNext := by
    intro hroom
    have hbytes := hroom.2
    rw [map_singleton, sum_singleton, samplePaste_length] at hbytes
    exact absurd hbytes (by decide)
  have hpost : (after call new (sampleGranted ++ [.on ⟨1⟩ (.write samplePaste)])).terminals[
      (⟨1⟩ : TerminalId)]? = some (t.write samplePaste).2 := by
    rw [after_concat, call_of_addressed (h := .write samplePaste) rfl,
      onTerminal_terminals, if_pos rfl, ht]
    rfl
  have hfresh' : Fresh (t.write samplePaste).2 sampleNext := hnext.after_write (by decide)
  refine ⟨_, _, hpost, hfresh', ?_⟩
  have hanswered : Answered _ [samplePaste] sampleNext (.on ⟨1⟩ (.write sampleNext)) :=
    answered_of_call hpost (m := .write sampleNext) rfl rfl hfresh' htyped
  rw [hanswered.answer, if_neg hfull]

end TerminalService

end DevManager.Terminal
