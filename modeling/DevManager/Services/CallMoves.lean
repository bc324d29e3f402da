import DevManager.Services.Moves
import DevManager.Services.Admitted
import DevManager.Lib.Calls

/-!
# Calls are sequences of moves

* `startMembers_moves`, `stopMembers_spec`: the execution of a plan.
* `mutate_moves`, `closeTask_moves`: a request, admitted or not.
* `call_moves`: every call, with the faults that it may contain.
* `run_invariant`: what all moves without the excluded faults keep holds in every
  state of a run without them.
-/

namespace DevManager

open Std (ExtTreeMap)
open ManagedLaunchAuthority (Live)
open List ServiceCatalog

variable {A : Type} [ManagedLaunchAuthority A]

namespace ServiceSupervisor

variable {s s' : ServiceSupervisor A} {allowed : SupervisorFault → Prop}

theorem Move.moves (h : s.Move allowed s') : s.Moves allowed s' := Relation.ReflTransGen.single h

theorem Moves.refl : s.Moves allowed s := Relation.ReflTransGen.refl

variable {t u : ServiceSupervisor A}

theorem Moves.trans (h₁ : s.Moves allowed t) (h₂ : t.Moves allowed u) :
    s.Moves allowed u := Relation.ReflTransGen.trans h₁ h₂

theorem moves_foldl {β : Type} {f : ServiceSupervisor A → β → ServiceSupervisor A}
    {P : ServiceSupervisor A → Prop} (hP : ∀ t u, P t → t.Moves allowed u → P u)
    (hf : ∀ t b, P t → t.Moves allowed (f t b)) (bs : List β) :
    ∀ s, P s → s.Moves allowed (bs.foldl f s) := by
  induction bs with
  | nil => exact fun s _ => .refl
  | cons b bs ih =>
    intro s hs
    have hfst := hf s b hs
    exact hfst.trans (ih (f s b) (hP s _ hs hfst))

@[simp] theorem put_runtimes (id) (runtime : ServiceRuntime A) :
    (s.put id runtime).runtimes = s.runtimes.insert id runtime := by
  rw [put_eq]

@[simp] theorem put_catalog (id) (runtime : ServiceRuntime A) :
    (s.put id runtime).catalog = s.catalog := by
  rw [put_eq]

@[simp] theorem put_ports (id) (runtime : ServiceRuntime A) :
    (s.put id runtime).ports = s.ports := by
  rw [put_eq]

variable {id : ServiceId} {runtime : ServiceRuntime A} {generation : ℕ}

@[simp] theorem started_runtimes {epoch : ℕ} {expectedPort : Option ℕ} (live : Live A) :
    (s.started id runtime generation epoch expectedPort live).runtimes = s.runtimes.insert id
      (runtime.launched s.nowMs generation epoch s.nextOperationId expectedPort live) :=
  put_runtimes id _

variable (id)

@[simp] theorem release_runtimes (generation : ℕ) :
    (s.releasePortFor id generation).runtimes = s.runtimes := by
  obtain ⟨ports, hports⟩ := releasePortFor_eq s id generation
  rw [hports]

@[simp] theorem release_catalog (generation : ℕ) :
    (s.releasePortFor id generation).catalog = s.catalog := by
  obtain ⟨ports, hports⟩ := releasePortFor_eq s id generation
  rw [hports]

@[simp] theorem project_runtimes :
    (s.projectRuntime id).runtimes = s.runtimes := by
  unfold projectRuntime
  split <;> rfl

@[simp] theorem project_catalog : (s.projectRuntime id).catalog = s.catalog := by
  unfold projectRuntime
  split <;> rfl

variable {id}

theorem Move.catalog (h : s.Move allowed s') : s'.catalog = s.catalog := by
  cases h with
  | idle _ hcatalog _ _ _ _ _ => exact hcatalog
  | started id runtime generation epoch intent live _ _ _ _ _ _ _ => exact put_catalog _ _
  | managed port id runtime _ _ _ => rfl
  | blocked port portClaim _ => rfl
  | freed port _ _ => rfl
  | _ => simp

theorem Moves.catalog (h : s.Moves allowed s') : s'.catalog = s.catalog := by
  induction h with
  | refl => rfl
  | tail _ hmove ih => exact hmove.catalog.trans ih

/-- The runtimes of all services but one are untouched. -/
def SameBut (id : ServiceId) (s s' : ServiceSupervisor A) : Prop :=
  ∀ k : ServiceId, k ≠ id → s'.runtimes[k]? = s.runtimes[k]?

theorem SameBut.of_eq (h : s'.runtimes = s.runtimes) : SameBut id s s' :=
  fun k _ => by rw [h]

theorem SameBut.of_insert (h : s'.runtimes = s.runtimes.insert id runtime) : SameBut id s s' := by
  intro k hk
  rw [h, OrdMap.getElem?_insert_eq, if_neg (Ne.symm hk)]

theorem SameBut.trans (h₁ : SameBut id s t)
    (h₂ : SameBut id t u) : SameBut id s u := fun k hk => (h₂ k hk).trans (h₁ k hk)

/-! ## Time and probes -/

theorem tick_spec (id : ServiceId) (hmissed : ∀ runtime : ServiceRuntime A,
      s.runtimes[id]? = some runtime → runtime.MissesDeadline s.nowMs → allowed .deadline) :
    s.Moves allowed (s.tick id) ∧ SameBut id s (s.tick id) ∧ (s.tick id).nowMs = s.nowMs := by
  unfold tick
  cases hget : s.runtimes[id]? with
  | none => exact ⟨.refl, .of_eq rfl, rfl⟩
  | some runtime =>
    refine ⟨(Move.quiet id runtime _ hget (.ticked s.nowMs (hmissed runtime hget))).moves,
      .of_insert (put_runtimes _ _), ?_⟩
    show (s.put id _).nowMs = s.nowMs
    rw [put_eq]

theorem ticks_moves (ids : List ServiceId) (hnodup : ids.Nodup) :
    ∀ s : ServiceSupervisor A, (∀ id ∈ ids, ∀ runtime : ServiceRuntime A,
      s.runtimes[id]? = some runtime → runtime.MissesDeadline s.nowMs → allowed .deadline) →
      s.Moves allowed (ids.foldl (fun s id => s.tick id) s) := by
  induction ids with
  | nil => exact fun s _ => .refl
  | cons id ids ih =>
    intro s hmissed
    obtain ⟨hid, hnodup'⟩ := nodup_cons.mp hnodup
    obtain ⟨hmoves, hsame, hnow⟩ := tick_spec id (hmissed id (.head _))
    refine hmoves.trans (ih hnodup' (s.tick id) ?_)
    intro k hk runtime hget hmisses
    have hne : k ≠ id := fun h => hid (h ▸ hk)
    rw [hsame k hne] at hget
    exact hmissed k (mem_cons_of_mem id hk) runtime hget (hnow ▸ hmisses)

theorem advanceClock_moves (nowMs : ℕ) (hmissed : ∀ (id : ServiceId) (runtime : ServiceRuntime A),
      s.runtimes[id]? = some runtime → runtime.MissesDeadline (max s.nowMs nowMs) →
        allowed .deadline) : s.Moves allowed (s.advanceClock nowMs) := by
  have hid : s.Move allowed { s with nowMs := max s.nowMs nowMs } := .idle _ rfl rfl rfl rfl rfl
    (.inl (.same _))
  refine hid.moves.trans (ticks_moves s.runtimes.keys ?_ _ fun id _ => hmissed id)
  have hdist := ExtTreeMap.distinct_keys (t := s.runtimes)
  refine List.Pairwise.imp (fun {a b} h => ?_) hdist
  rintro rfl
  exact h (by simp)

theorem applyProbe_moves (id) (generation : ℕ) (outcome) :
    s.Moves allowed (s.applyProbe id generation outcome).2 := by
  have hid : s.Move allowed s.countProbe := .idle _ rfl rfl rfl rfl rfl (Or.inl (.same _))
  refine hid.moves.trans ?_
  unfold applyProbe
  simp only
  split
  · exact Moves.refl
  · rename_i runtime hget
    split_ifs with hgen
    · exact Moves.refl
    · split
      · exact (Move.projected id).moves
      · rename_i tracker hhealth
        split
        · exact Moves.refl
        · rename_i next hrec
          obtain ⟨hmatch, hprobed⟩ := HealthTracker.recordProbe_cases hrec
          have hcur : tracker.generation = some runtime.evidence.generation := by
            rw [hmatch, not_not.mp hgen]
          exact (Move.quiet id runtime _ hget (.probed _ tracker next hhealth hcur hprobed)).moves

/-! ## Ports -/

theorem isLive_eq_false
    (hget : s.runtimes[id]? = some runtime) (h : s.isLive id = false) : runtime.live = none := by
  unfold isLive at h
  rw [hget] at h
  simpa using h

theorem markIdle_moves {mark : ServiceSupervisor A → ServiceId → ServiceSupervisor A}
    (hmark : ∀ (t : ServiceSupervisor A) (id : ServiceId), t.isLive id = false →
      t.Moves allowed (mark t id)) (port : ℕ) : s.Moves allowed (s.markIdle mark port) := by
  refine moves_foldl (P := fun _ => True) (fun _ _ _ _ => trivial) ?_ _ s trivial
  intro t id _
  split_ifs with hlive
  · exact Moves.refl
  · exact hmark t id (by simpa using hlive)

theorem markExternal_moves (id) (port : ℕ) (ownerPid)
    (hlive : s.isLive id = false) : s.Moves allowed (s.markExternal id port ownerPid) := by
  unfold markExternal
  split
  · exact Moves.refl
  · rename_i runtime hget
    exact (Move.quiet id runtime _ hget (.external _ _ _ (isLive_eq_false hget hlive))).moves

theorem markPortIndeterminate_moves (id) (hlive : s.isLive id = false) :
    s.Moves allowed (s.markPortIndeterminate id) := by
  unfold markPortIndeterminate
  split
  · exact Moves.refl
  · rename_i runtime hget
    exact (Move.quiet id runtime _ hget (.indeterminate _ (isLive_eq_false hget hlive))).moves

theorem clearExternal_moves (id) : s.Moves allowed (s.clearExternal id) := by
  unfold clearExternal
  split
  · exact Moves.refl
  · rename_i runtime hget
    split_ifs with hskip
    · exact Moves.refl
    · have hlive : runtime.live = none := by
        cases h : runtime.live with
        | none => rfl
        | some live => exact absurd (by simp [h]) hskip
      exact (Move.quiet id runtime _ hget (.cleared _ hlive)).moves

theorem expects_of_mem {port : ℕ} (hvalid : s.catalog.Valid)
    (h : id ∈ s.serviceIdsForPort port) : s.Expects id port := by
  unfold serviceIdsForPort at h
  obtain ⟨definition, hmem, rfl⟩ := mem_map.mp h
  obtain ⟨hval, hport⟩ := mem_filter.mp hmem
  obtain ⟨⟨key, value⟩, hentry, rfl⟩ := mem_map.mp hval
  have hget := ExtTreeMap.mem_toList_iff_getElem?_eq_some.mp hentry
  refine ⟨value, ?_, ?_⟩
  · rw [hvalid.keyed key value hget]
    exact hget
  · have hexp : value.expectedPort = some port := by simpa using hport
    rw [ServiceDefinition.effectiveExpectedPort, hexp]
    rfl

theorem observeManaged_moves (hbase : s.Base) (port : ℕ) :
    s.Moves allowed (s.observeManaged port) := by
  unfold observeManaged
  split
  · exact (Move.blocked port .indeterminate (Or.inr rfl)).moves.trans
      (markIdle_moves (fun t id => markPortIndeterminate_moves id) port)
  · rename_i id hfind
    split
    · exact Moves.refl
    · rename_i runtime hget
      have hlive : s.isLive id = true := find?_some (p := fun id => s.isLive id) hfind
      have hlive' : runtime.live.isSome = true := by
        unfold isLive at hlive
        rw [hget] at hlive
        simpa using hlive
      exact (Move.managed port id runtime hget hlive'
        (expects_of_mem hbase.valid (mem_of_find?_eq_some hfind))).moves

theorem observePort_moves (hbase : s.Base) (port : ℕ) (authority) (ownerPid)
    (hfree : authority = .free → s.FreesLive port → allowed .freed) :
    s.Moves allowed (s.observePort port authority ownerPid) := by
  unfold observePort
  cases authority with
  | provenExternal =>
    simp only
    split_ifs with hlive
    · exact Moves.refl
    · exact (Move.blocked port (.external ownerPid)
        (Or.inl ⟨ownerPid, rfl, by simpa using hlive⟩)).moves.trans
        (markIdle_moves (fun t id => markExternal_moves id port ownerPid) port)
  | free =>
    have hclear : s.Blocked port → s.Moves allowed ((s.serviceIdsForPort port).foldl
        (fun s id => s.clearExternal id) { s with ports := s.ports.erase port }) := fun hblocked =>
      (Move.freed port hblocked (hfree rfl)).moves.trans
        (moves_foldl (P := fun _ => True) (fun _ _ _ _ => trivial)
          (fun t id _ => clearExternal_moves id) _ _ trivial)
    simp only
    split
    · rename_i pid hclaim
      exact hclear (Or.inl ⟨pid, hclaim⟩)
    · rename_i hclaim
      exact hclear (Or.inr hclaim)
    · exact Moves.refl
  | managed => exact observeManaged_moves hbase port
  | unknown | probeError =>
    exact (Move.blocked port .indeterminate (Or.inr rfl)).moves.trans
      (markIdle_moves (fun t id => markPortIndeterminate_moves id) port)

/-! ## Exits -/

theorem authority_moves (authority : A) (h : TornDown s.authority authority ∨ allowed .attempted) :
    s.Moves allowed { s with authority } := by
  have hid : s.Move allowed { s with authority } := .idle _ rfl rfl rfl rfl rfl h
  exact hid.moves

theorem teardown_moves {live live' : Option (Live A)} {fence} {authority : A} {result}
    (h : tearDown s.authority live fence = (result, live', authority)) :
    s.Moves allowed { s with authority } := by
  refine authority_moves authority (.inl ?_)
  have htorn : TornDown s.authority (tearDown s.authority live fence).2.2 := .torn _ live fence
  rw [h] at htorn
  exact htorn

/-- The exit of the service is allowed, and may leave its reservation behind only where that fault
is allowed too. -/
def ExitAllowed (allowed : SupervisorFault → Prop) (s : ServiceSupervisor A) (id : ServiceId)
    (generation : ℕ) : Prop :=
  ∀ runtime, s.runtimes[id]? = some runtime → runtime.live.isSome = true →
    runtime.evidence.generation = generation →
      (s.HealthOnly id → allowed .unreleased) ∧ allowed (.exited id)

theorem reportExit_moves (id) (generation : ℕ) (hallowed : ExitAllowed allowed s id generation) :
    s.Moves allowed (s.reportExit id generation).2 := by
  unfold reportExit
  split
  · exact Moves.refl
  · rename_i runtime hget
    split_ifs with hgen hlive
    · exact Moves.refl
    · rw [not_not] at hgen
      subst hgen
      simp only
      split
      · rename_i hdown
        exact teardown_moves hdown
      · rename_i authority hdown
        have hget' : ({ s with authority } : ServiceSupervisor A).runtimes[id]? =
            some runtime := hget
        exact (teardown_moves hdown).trans
          (Move.ended id runtime _ hget' .exited (fun h => (hallowed runtime hget h rfl).1)
            fun _ h => (hallowed runtime hget h rfl).2).moves
    · rw [not_not] at hgen
      subst hgen
      exact (Move.ended id runtime _ hget .exited (fun h => (hallowed runtime hget h rfl).1)
        fun _ h => (hallowed runtime hget h rfl).2).moves

/-- The services that have a handle had it before, and their runtimes are as before. -/
def LiveKept (s s' : ServiceSupervisor A) : Prop :=
  ∀ (id : ServiceId) (runtime : ServiceRuntime A), s'.runtimes[id]? = some runtime →
    runtime.live.isSome = true → s.runtimes[id]? = some runtime

theorem LiveKept.trans (h₁ : LiveKept s t) (h₂ : LiveKept t u) :
    LiveKept s u := fun id runtime hget hlive => h₁ id runtime (h₂ id runtime hget hlive) hlive

variable {next : ServiceRuntime A}

theorem LiveKept.of_insert
    (h : s'.runtimes = s.runtimes.insert id next) (hid : next.live = none) : LiveKept s s' := by
  intro k runtime hget hlive
  rw [h] at hget
  rcases OrdMap.of_insert hget with ⟨-, rfl⟩ | ⟨-, hget⟩
  · rw [hid] at hlive
    cases hlive
  · exact hget

theorem reportExit_live (id) (generation : ℕ) :
    LiveKept s (s.reportExit id generation).2 := by
  unfold reportExit
  split
  · exact fun _ _ hget _ => hget
  · rename_i runtime hget
    split_ifs
    · exact fun _ _ hget _ => hget
    · simp only
      split
      · exact fun _ _ hget _ => hget
      · exact .of_insert ((release_runtimes id _).trans (put_runtimes id runtime.exited)) rfl
    · exact .of_insert ((release_runtimes id _).trans (put_runtimes id runtime.exited)) rfl

theorem ExitAllowed.of_live (h : ExitAllowed allowed s id generation)
    (hlive : LiveKept s s') (hcatalog : s'.catalog = s.catalog) :
    ExitAllowed allowed s' id generation := by
  intro runtime hget hhandle hgen
  unfold HealthOnly
  rw [hcatalog]
  exact h runtime (hlive id runtime hget hhandle) hhandle hgen

theorem exits_moves (exits : List (ServiceId × ℕ)) :
    ∀ s : ServiceSupervisor A, (∀ exit ∈ exits, ExitAllowed allowed s exit.1 exit.2) →
      s.Moves allowed (exits.foldl (fun s exit => (s.reportExit exit.1 exit.2).2) s) ∧
        LiveKept s (exits.foldl (fun s exit => (s.reportExit exit.1 exit.2).2) s) := by
  induction exits with
  | nil => exact fun s _ => ⟨Moves.refl, fun _ _ hget _ => hget⟩
  | cons exit exits ih =>
    intro s hallowed
    have hmoves : s.Moves allowed (s.reportExit exit.1 exit.2).2 :=
      reportExit_moves exit.1 exit.2 (hallowed exit (.head _))
    have hlive : LiveKept s (s.reportExit exit.1 exit.2).2 := reportExit_live exit.1 exit.2
    obtain ⟨hrest, hres⟩ := ih (s.reportExit exit.1 exit.2).2 fun other hother =>
      (hallowed other (mem_cons_of_mem exit hother)).of_live hlive hmoves.catalog
    exact ⟨hmoves.trans hrest, hlive.trans hres⟩

theorem pumpIo_moves (hallowed : ∀ exit ∈ s.observedExits, ExitAllowed allowed s exit.1 exit.2) :
    s.Moves allowed s.pumpIo ∧ LiveKept s s.pumpIo := exits_moves s.observedExits s hallowed

/-! ## Launching -/

/-- The service has a runtime without a live handle. -/
def Idle (s : ServiceSupervisor A) (id : ServiceId) : Prop :=
  ∃ runtime, s.runtimes[id]? = some runtime ∧ runtime.live = none

theorem Idle.isLive (h : s.Idle id) : s.isLive id = false := by
  obtain ⟨runtime, hget, hlive⟩ := h
  unfold ServiceSupervisor.isLive
  rw [hget]
  simp [hlive]

/-- The handle and the numbers of the service are those of the state before. -/
def Kept (id : ServiceId) (s s' : ServiceSupervisor A) : Prop :=
  ∀ runtime, s.runtimes[id]? = some runtime →
    ∃ next, s'.runtimes[id]? = some next ∧ runtime.SameProcess next

theorem Kept.of_eq (h : s'.runtimes = s.runtimes) : Kept id s s' :=
  fun runtime hget => ⟨runtime, h ▸ hget, .refl⟩

theorem Kept.of_insert
    (hget : s.runtimes[id]? = some runtime) (h : s'.runtimes = s.runtimes.insert id next)
    (hsame : runtime.SameProcess next) : Kept id s s' := by
  intro other hother
  rw [hget] at hother
  cases hother
  exact ⟨next, by rw [h]; simp, hsame⟩

theorem Kept.idle (h : Kept id s s') (hid : s.Idle id) : s'.Idle id := by
  obtain ⟨runtime, hget, hlive⟩ := hid
  obtain ⟨next, hnext, hsame⟩ := h runtime hget
  exact ⟨next, hnext, hsame.live.trans hlive⟩

theorem markExternal_spec (port : ℕ) (ownerPid) (h : s.Idle id) :
    s.Moves allowed (s.markExternal id port ownerPid) ∧
      SameBut id s (s.markExternal id port ownerPid) ∧
      Kept id s (s.markExternal id port ownerPid) := by
  refine ⟨markExternal_moves id port ownerPid h.isLive, ?_⟩
  obtain ⟨runtime, hget, hlive⟩ := h
  have hput : s.markExternal id port ownerPid =
    s.put id (runtime.external s.nowMs port ownerPid) := by
    unfold markExternal
    rw [hget]
  rw [hput]
  exact ⟨.of_insert (put_runtimes _ _), .of_insert hget (put_runtimes _ _) ⟨rfl, rfl, rfl, rfl⟩⟩

theorem markPortIndeterminate_spec (h : s.Idle id) :
    s.Moves allowed (s.markPortIndeterminate id) ∧ SameBut id s (s.markPortIndeterminate id) ∧
      Kept id s (s.markPortIndeterminate id) := by
  refine ⟨markPortIndeterminate_moves id h.isLive, ?_⟩
  obtain ⟨runtime, hget, hlive⟩ := h
  have hput : s.markPortIndeterminate id = s.put id (runtime.indeterminate s.nowMs) := by
    unfold markPortIndeterminate
    rw [hget]
  rw [hput]
  exact ⟨.of_insert (put_runtimes _ _), .of_insert hget (put_runtimes _ _) ⟨rfl, rfl, rfl, rfl⟩⟩

theorem portRefusal_spec {admitted current : ℕ} {expectedPort : Option ℕ} {error} (h : s.Idle id)
    (hdeny : s.portRefusal id admitted current expectedPort = some (error, s')) :
    s.Moves allowed s' ∧ SameBut id s s' ∧ Kept id s s' := by
  unfold portRefusal at hdeny
  split at hdeny
  · cases hdeny
  · rename_i port
    split at hdeny
    · cases hdeny
      exact markExternal_spec port none h
    · cases hdeny
      exact markPortIndeterminate_spec h
    · split_ifs at hdeny
      cases hdeny
      exact ⟨(Move.projected id).moves, .of_eq (project_runtimes id), .of_eq (project_runtimes id)⟩
    · cases hdeny

theorem portRefusal_eq_none {admitted current port : ℕ}
    (hnone : s.portRefusal id admitted current (some port) = none) :
    s.ports[port]? = none ∨ ∃ claimed, s.ports[port]? = some (.reserved id claimed) := by
  unfold portRefusal at hnone
  simp only at hnone
  split at hnone
  · cases hnone
  · cases hnone
  · rename_i owner claimed hclaim
    split_ifs at hnone with hbusy
    rw [not_or, not_not] at hbusy
    exact .inr ⟨claimed, hbusy.1 ▸ hclaim⟩
  · rename_i hclaim
    exact .inl hclaim

/-- What an attempt to launch leaves: moves of that service only, and its handle and numbers as
they were if it failed. -/
structure Launched (allowed : SupervisorFault → Prop) (id : ServiceId) (s : ServiceSupervisor A)
    (result : Except SupervisorError Unit × ServiceSupervisor A) : Prop where
  moves : s.Moves allowed result.2
  same : SameBut id s result.2
  kept : ∀ error, result.1 = .error error → Kept id s result.2
  launched : result.1 = .ok () → ∀ runtime, s.runtimes[id]? = some runtime →
    ∃ next, result.2.runtimes[id]? = some next ∧
      next.evidence.generation = runtime.evidence.generation + 1

theorem Launched.refused {error : SupervisorError} (authority : A) (htried : allowed .attempted) :
    Launched allowed id s (.error error, { s with authority }) where
  moves := authority_moves authority (Or.inr htried)
  same := .of_eq rfl
  kept := fun _ _ => .of_eq rfl
  launched := nofun

variable {intent : LaunchIntent}

theorem launchSpec_generation {spec : ManagedLaunchSpec}
    (h : runtime.launchSpec id generation intent = .ok spec) : spec.generation = generation := by
  unfold ServiceRuntime.launchSpec at h
  simp only [ok_iff] at h
  obtain ⟨cwd, _, rfl⟩ := h
  rfl

theorem launchSpec_label {spec : ManagedLaunchSpec}
    (h : runtime.launchSpec id generation intent = .ok spec) : spec.displayLabel = id.value := by
  unfold ServiceRuntime.launchSpec at h
  simp only [ok_iff] at h
  obtain ⟨cwd, _, rfl⟩ := h
  rfl

theorem launch_spec (htried : allowed .attempted) {epoch : ℕ}
    (hget : s.runtimes[id]? = some runtime)
    (hlive : runtime.live = none) (hintent : s.catalog.launchIntent id = .ok intent)
    (hport : ∀ port, intent.expectedPort = some port →
      s.ports[port]? = none ∨ ∃ claimed, s.ports[port]? = some (.reserved id claimed))
    (hnext : runtime.evidence.generation + 1 = generation ∧ runtime.evidence.epoch + 1 = epoch)
    (hnums : generation ≤ u64Max ∧ epoch ≤ u64Max) :
    Launched allowed id s (s.launch id runtime generation epoch intent) := by
  unfold launch
  split
  · exact Launched.refused s.authority htried
  · rename_i spec hspec
    split
    · exact Launched.refused _ htried
    · rename_i pending prepared hpre
      split
      · exact Launched.refused _ htried
      · rename_i registered held hreg
        split
        · exact Launched.refused _ htried
        · rename_i live authority hres
          have hgen : LaunchesFaithfully A →
              ManagedLaunchAuthority.liveGeneration live = generation := by
            rintro ⟨number, hprepared, hregistered, hresume⟩
            rw [hresume _ _ _ _ hres, hregistered _ _ _ _ hreg, hprepared _ _ _ _ hpre]
            exact launchSpec_generation hspec
          have hmove : ({ s with authority } : ServiceSupervisor A).Move allowed
              (({ s with authority } : ServiceSupervisor A).started id runtime generation
                epoch intent.expectedPort live) :=
            .started id runtime generation epoch intent live hget hlive hintent hport hnext hnums
              hgen
          refine ⟨(authority_moves authority (.inr htried)).trans hmove.moves,
            .of_insert (put_runtimes _ _), fun error h => ?_, fun _ before hbefore => ?_⟩
          · cases h
          · rw [hget] at hbefore
            cases hbefore
            refine ⟨runtime.launched s.nowMs generation epoch s.nextOperationId
              intent.expectedPort live,
              ?_, hnext.1.symm⟩
            exact (congrArg (·[id]?) (started_runtimes live)).trans (by simp)

theorem startMember_spec (htried : allowed .attempted) {fence : ServiceFence} (hid : s.Idle id)
    (hintent : s.catalog.launchIntent id = .ok intent) :
    Launched allowed id s (s.startMember id fence intent) := by
  obtain ⟨runtime, hget, hlive⟩ := hid
  unfold startMember
  rw [hget]
  simp only
  split_ifs with hfence
  · exact Launched.refused s.authority htried
  · split
    · rename_i error s' hsome
      obtain ⟨hmoves, hsame, hkept⟩ := portRefusal_spec ⟨runtime, hget, hlive⟩ hsome
      exact ⟨hmoves, hsame, fun _ _ => hkept, nofun⟩
    · rename_i hnone
      split
      · rename_i generation epoch hgen hepoch
        obtain ⟨hle, hgen⟩ := checkedAdd_eq_some.mp hgen
        obtain ⟨hle', hepoch⟩ := checkedAdd_eq_some.mp hepoch
        refine launch_spec htried hget hlive hintent (fun port hport => ?_) ⟨hgen, hepoch⟩
          ⟨hgen ▸ hle, hepoch ▸ hle'⟩
        rw [hport] at hnone
        exact portRefusal_eq_none hnone
      · exact Launched.refused s.authority htried

theorem tearDown_none (authority : A) (fence) :
    (tearDown authority none fence).2.1 = none := by
  unfold tearDown
  split <;> rfl

theorem failMember_moves {epoch : ℕ} (h : s.Idle id)
    (hnext : ∀ runtime, s.runtimes[id]? = some runtime →
      runtime.evidence.generation ≤ generation ∧ runtime.evidence.epoch ≤ epoch)
    (hnums : generation ≤ u64Max ∧ epoch ≤ u64Max) :
    s.Moves allowed (s.failMember id generation epoch) := by
  obtain ⟨runtime, hget, hlive⟩ := h
  unfold failMember
  rw [hget]
  simp only
  cases hdown : tearDown s.authority runtime.live ⟨runtime.resourceId, generation⟩ with
  | mk result rest =>
    obtain ⟨live, authority⟩ := rest
    have hnone : live = none := by
      have htorn := tearDown_none s.authority ⟨runtime.resourceId, generation⟩
      rw [hlive] at hdown
      rw [hdown] at htorn
      exact htorn
    subst hnone
    have hget' : ({ s with authority } : ServiceSupervisor A).runtimes[id]? = some runtime := hget
    have hsame : ({ runtime with live := none } : ServiceRuntime A) = runtime := by
      rw [← hlive]
    simp only [hsame]
    exact (teardown_moves hdown).trans
      (Move.failed id runtime generation epoch hget' hlive (hnext runtime hget) hnums).moves

/-- The service has no handle, and its numbers are those of the fence or the next ones. -/
def IdleBehind (s : ServiceSupervisor A) (id : ServiceId) (fence : ServiceFence) : Prop :=
  ∃ runtime, s.runtimes[id]? = some runtime ∧ runtime.live = none ∧
    runtime.evidence.generation ≤ saturatingAdd fence.resourceGeneration 1 ∧
      runtime.evidence.epoch ≤ saturatingAdd fence.actionEpoch 1

theorem IdleBehind.idle {fence : ServiceFence} (h : s.IdleBehind id fence) : s.Idle id := by
  obtain ⟨runtime, hget, hlive, _⟩ := h
  exact ⟨runtime, hget, hlive⟩

theorem IdleBehind.of_eq {fence : ServiceFence} (h : s.IdleBehind id fence)
    (hget : s'.runtimes[id]? = s.runtimes[id]?) : s'.IdleBehind id fence := by
  unfold IdleBehind
  rw [hget]
  exact h

/-- A member that is to be launched has no handle, its intent is that of the catalog, and no more
than a stop lies between its fence and its numbers. -/
def Ready (s : ServiceSupervisor A) (items : List StartPlanItem) : Prop :=
  ∀ item ∈ items, ∀ intent, item.intent = some intent →
    s.catalog.launchIntent item.serviceId = .ok intent ∧ s.IdleBehind item.serviceId item.fence

theorem saturatingAdd_le (a b : ℕ) : saturatingAdd a b ≤ u64Max := by
  unfold saturatingAdd
  exact min_le_right _ _

/-- One turn of the loop of `execute_start`: the failure of a launch is recorded. -/
def attempt (s : ServiceSupervisor A) (id : ServiceId) (fence : ServiceFence)
    (intent : LaunchIntent) : Except SupervisorError Unit × ServiceSupervisor A :=
  match s.startMember id fence intent with
  | (.error error, s) => (.error error, s.failMember id
      (saturatingAdd fence.resourceGeneration 1) (saturatingAdd fence.actionEpoch 1))
  | (.ok (), s) => (.ok (), s)

theorem startMembers_cons (item) (rest)
    (hintent : item.intent = some intent) :
    (s.startMembers (item :: rest)).2 = match s.attempt item.serviceId item.fence intent with
      | (.error _, s) => s
      | (.ok (), s) => (s.startMembers rest).2 := by
  rw [startMembers, hintent]
  unfold attempt
  simp only
  cases hres : s.startMember item.serviceId item.fence intent with
  | mk outcome t =>
    cases outcome with
    | error error => rfl
    | ok done =>
      simp only
      cases t.startMembers rest with
      | mk outcome u => cases outcome <;> rfl

theorem startMembers_lift {R : ServiceSupervisor A → ServiceSupervisor A → Prop}
    (hrefl : ∀ s, R s s) (htrans : ∀ s t u, R s t → R t u → R s u)
    (K : ServiceFence → Option (ServiceRuntime A) → Prop)
    (hstep : ∀ s id fence
      intent, s.IdleBehind id fence → K fence s.runtimes[id]? →
        s.catalog.launchIntent id = .ok intent → R s (s.attempt id fence intent).2)
    (items) (hnodup : (items.map (·.serviceId)).Nodup) :
    ∀ s, s.Ready items →
      (∀ item ∈ items, ∀ intent, item.intent = some intent →
        K item.fence s.runtimes[item.serviceId]?) → R s (s.startMembers items).2 := by
  induction items with
  | nil => exact fun s _ _ => hrefl s
  | cons item rest ih =>
    intro s hready hknown
    rw [map_cons, nodup_cons] at hnodup
    obtain ⟨hid, hnodup'⟩ := hnodup
    have hrest : s.Ready rest := fun other hother => hready other (mem_cons_of_mem item hother)
    have hknown' : ∀ other ∈ rest, ∀ intent, other.intent = some intent →
        K other.fence s.runtimes[other.serviceId]? := fun other hother =>
      hknown other (mem_cons_of_mem item hother)
    cases hintent : item.intent with
    | none =>
      rw [startMembers, hintent]
      exact ih hnodup' s hrest hknown'
    | some intent =>
      obtain ⟨hcatalog, hidle⟩ := hready item mem_cons_self intent hintent
      have hfst := hstep s item.serviceId item.fence intent hidle
        (hknown item mem_cons_self intent hintent) hcatalog
      have hlaunch : Launched (fun _ => True) item.serviceId s
          (s.startMember item.serviceId item.fence intent) :=
        startMember_spec trivial hidle.idle hcatalog
      rw [startMembers_cons item rest hintent]
      unfold attempt at hfst ⊢
      cases hres : s.startMember item.serviceId item.fence intent with
      | mk outcome t =>
        rw [hres] at hlaunch hfst
        cases outcome with
        | error => exact hfst
        | ok done =>
          have hother : ∀ other ∈ rest, t.runtimes[other.serviceId]? =
            s.runtimes[other.serviceId]? :=
            fun other hmem => hlaunch.same _ fun h => hid (h ▸ mem_map_of_mem hmem)
          refine htrans _ _ _ hfst (ih hnodup' t (fun other hmem intent' hin' => ?_)
            fun other hmem intent' hin' => ?_)
          · obtain ⟨hcatalog', hid'⟩ := hrest other hmem intent' hin'
            exact ⟨by rw [hlaunch.moves.catalog]; exact hcatalog', hid'.of_eq (hother other hmem)⟩
          · rw [hother other hmem]
            exact hknown' other hmem intent' hin'

theorem attempt_moves (htried : allowed .attempted) {fence : ServiceFence}
    (hid : s.IdleBehind id fence) (hintent : s.catalog.launchIntent id = .ok intent) :
    s.Moves allowed (s.attempt id fence intent).2 := by
  have hlaunch : Launched allowed id s (s.startMember id fence intent) :=
    startMember_spec htried hid.idle hintent
  unfold attempt
  cases hres : s.startMember id fence intent with
  | mk outcome t =>
    rw [hres] at hlaunch
    cases outcome with
    | ok => exact hlaunch.moves
    | error error =>
      have hkept := hlaunch.kept error rfl
      refine hlaunch.moves.trans (failMember_moves (hkept.idle hid.idle) (fun next hnext => ?_)
        ⟨saturatingAdd_le _ _, saturatingAdd_le _ _⟩)
      obtain ⟨runtime, hget, _, hbehind⟩ := hid
      obtain ⟨same, hsame, hprocess⟩ := hkept runtime hget
      rw [hnext] at hsame
      cases hsame
      rw [hprocess.generation, hprocess.epoch]
      exact hbehind

theorem startMembers_moves (htried : allowed .attempted) (items)
    (hnodup : (items.map (·.serviceId)).Nodup) (s : ServiceSupervisor A) (hready : s.Ready items) :
    s.Moves allowed (s.startMembers items).2 :=
  startMembers_lift (fun _ => Moves.refl) (fun _ _ _ => Moves.trans) (fun _ _ => True)
    (fun _ _ _ _ hid _ hintent => attempt_moves htried hid hintent) items hnodup s hready
    fun _ _ _ _ => trivial

end ServiceSupervisor

/-! ## Stopping -/

/-- The generation and the epoch that follow the current ones fit in a `u64`. -/
def ServiceRuntime.Fits (runtime : ServiceRuntime A) : Prop :=
  runtime.evidence.generation + 1 ≤ u64Max ∧ runtime.evidence.epoch + 1 ≤ u64Max

namespace ServiceSupervisor

variable {s s' : ServiceSupervisor A} {allowed : SupervisorFault → Prop}

theorem release_put_comm (id) (generation : ℕ) (next) :
    (s.releasePortFor id generation).put id next = (s.put id next).releasePortFor id
      generation := by
  rw [put_eq, put_eq]
  unfold releasePortFor
  simp only
  split
  · rfl
  · split_ifs <;> rfl

/-- What the attempt to stop a service leaves: moves of that service only, and no handle if it
succeeded. -/
structure Halted (allowed : SupervisorFault → Prop) (id : ServiceId) (fence : ServiceFence)
    (s : ServiceSupervisor A) (result : Except SupervisorError Unit × ServiceSupervisor A) :
      Prop where
  moves : s.Moves allowed result.2
  same : SameBut id s result.2
  idle : result.1 = .ok () → result.2.IdleBehind id fence

variable {id : ServiceId}

theorem Halted.refused {fence : ServiceFence} {error} :
    Halted allowed id fence s (.error error, s) where
  moves := Moves.refl
  same := .of_eq rfl
  idle := nofun

/-- The stop of the service may leave its reservation behind only where a fault is allowed: its
numbers are exhausted, or its port is given by its health check only. -/
def StopAllowed (allowed : SupervisorFault → Prop) (s : ServiceSupervisor A) (id : ServiceId) :
    Prop :=
  ∀ runtime, s.runtimes[id]? = some runtime → runtime.live.isSome = true →
    (¬ runtime.Fits → allowed .overflow) ∧ (s.HealthOnly id → allowed .unreleased)

theorem StopAllowed.of_live (h : StopAllowed allowed s id) (hlive : LiveKept s s')
    (hcatalog : s'.catalog = s.catalog) : StopAllowed allowed s' id := by
  intro runtime hget hhandle
  unfold HealthOnly
  rw [hcatalog]
  exact h runtime (hlive id runtime hget hhandle) hhandle

theorem stopMember_spec (id) (fence)
    (hallowed : StopAllowed allowed s id) : Halted allowed id fence s (s.stopMember id fence) := by
  unfold stopMember
  split
  · exact Halted.refused
  · rename_i runtime hget
    simp only
    split_ifs with hfence
    · exact Halted.refused
    · rw [not_or, not_not, not_not] at hfence
      obtain ⟨hgen, hepoch⟩ := hfence
      unfold tearDown
      cases hdown : ManagedLaunchAuthority.teardown s.authority runtime.live
        ⟨runtime.resourceId, fence.resourceGeneration⟩ with
      | mk outcome authority =>
        have hget' : ({ s with authority } : ServiceSupervisor A).runtimes[id]? =
            some runtime := hget
        have hstart : s.Moves allowed { s with authority } := by
          refine authority_moves authority (Or.inl ?_)
          have htorn : TornDown s.authority (tearDown s.authority runtime.live
              ⟨runtime.resourceId, fence.resourceGeneration⟩).2.2 := .torn _ _ _
          unfold tearDown at htorn
          rw [hdown] at htorn
          cases outcome <;> exact htorn
        cases outcome with
        | error error =>
          refine ⟨hstart.trans (Move.quiet id runtime runtime hget' .same).moves,
            .of_insert (put_runtimes _ _), nofun⟩
        | ok done =>
          simp only
          split
          · rename_i generation epoch hnext hne'
            obtain ⟨hle, rfl⟩ := checkedAdd_eq_some.mp hnext
            obtain ⟨hle', rfl⟩ := checkedAdd_eq_some.mp hne'
            rw [release_put_comm, ← hgen, ← hepoch]
            rw [← hgen] at hle
            rw [← hepoch] at hle'
            have hmove : Move allowed _ _ := Move.ended id runtime
              (runtime.stopped s.nowMs (runtime.evidence.generation + 1)
                (runtime.evidence.epoch + 1))
              hget' (.stopped _ ⟨hle, hle'⟩) (fun h => (hallowed runtime hget h).2)
              fun hsame => absurd hsame (Nat.succ_ne_self _)
            have hrun : ((({ s with authority } : ServiceSupervisor A).put id
                (runtime.stopped s.nowMs (runtime.evidence.generation + 1)
                  (runtime.evidence.epoch + 1))).releasePortFor id
                  runtime.evidence.generation).runtimes =
                s.runtimes.insert id (runtime.stopped s.nowMs (runtime.evidence.generation + 1)
                  (runtime.evidence.epoch + 1)) := by
              rw [release_runtimes, put_runtimes]
            refine ⟨hstart.trans hmove.moves, .of_insert hrun, fun _ => ?_⟩
            refine ⟨runtime.stopped s.nowMs (runtime.evidence.generation + 1)
              (runtime.evidence.epoch + 1), ?_, rfl, ?_⟩
            · exact (congrArg (·[id]?) hrun).trans (by simp)
            · rw [← hgen, ← hepoch]
              exact ⟨le_min le_rfl hle, le_min le_rfl hle'⟩
          · rename_i hoverflow
            have hnot : ¬ runtime.Fits := by
              rintro ⟨h₁, h₂⟩
              rw [hgen] at h₁
              rw [hepoch] at h₂
              exact hoverflow _ _ (checkedAdd_eq_some.mpr ⟨h₁, rfl⟩)
                (checkedAdd_eq_some.mpr ⟨h₂, rfl⟩)
            have hover : runtime.live.isSome = true → allowed .overflow :=
              fun h => (hallowed runtime hget h).1 hnot
            exact ⟨hstart.trans (Move.overflowed id runtime hget' hover).moves,
              .of_insert (put_runtimes _ _), nofun⟩

theorem stopMembers_spec (skip : ServiceSupervisor A → ServiceId → Bool)
    (items) (hnodup : (items.map (·.serviceId)).Nodup) :
    ∀ s, (∀ item ∈ items, StopAllowed allowed s item.serviceId) →
      s.Moves allowed (stopMembers skip s items).2 ∧
        (∀ k, k ∉ items.map (·.serviceId) →
          (stopMembers skip s items).2.runtimes[k]? = s.runtimes[k]?) ∧
        ∀ stopped, (stopMembers skip s items).1 = .ok stopped → (∀ t id, skip t id = false) →
          ∀ item ∈ items, (stopMembers skip s items).2.IdleBehind item.serviceId item.fence := by
  induction items with
  | nil =>
    intro s _
    exact ⟨Moves.refl, fun _ _ => rfl, nofun⟩
  | cons item rest ih =>
    intro s hallowed
    rw [map_cons, nodup_cons] at hnodup
    obtain ⟨hid, hnotMem'⟩ := hnodup
    have hallowed' : ∀ other ∈ rest, StopAllowed allowed s other.serviceId := fun other hother =>
      hallowed other (mem_cons_of_mem item hother)
    have hnotMem : ∀ k, k ∉ (item :: rest).map (·.serviceId) →
        k ≠ item.serviceId ∧ k ∉ rest.map (·.serviceId) := fun k hk => by
      rw [map_cons, mem_cons, not_or] at hk
      exact hk
    unfold stopMembers
    split_ifs with hskip
    · obtain ⟨hmoves, hsame, _⟩ := ih hnotMem' s hallowed'
      refine ⟨hmoves, fun k hk => hsame k (hnotMem k hk).2, fun _ _ hnever => ?_⟩
      rw [hnever] at hskip
      cases hskip
    · have hhalted : Halted allowed item.serviceId item.fence s
          (s.stopMember item.serviceId item.fence) :=
        stopMember_spec item.serviceId item.fence (hallowed item (.head _))
      cases hres : s.stopMember item.serviceId item.fence with
      | mk outcome t =>
        rw [hres] at hhalted
        cases outcome with
        | error error =>
          exact ⟨hhalted.moves, fun k hk => hhalted.same k (hnotMem k hk).1, nofun⟩
        | ok done =>
          have hallowed'' : ∀ other ∈ rest, StopAllowed allowed t other.serviceId := by
            intro other hother runtime hget
            have hne : other.serviceId ≠ item.serviceId := fun h =>
              hid (h ▸ mem_map_of_mem hother)
            rw [hhalted.same _ hne] at hget
            unfold HealthOnly
            rw [hhalted.moves.catalog]
            exact hallowed' other hother runtime hget
          obtain ⟨hmoves, hsame, hidle⟩ := ih hnotMem' t hallowed''
          have hboth : s.Moves allowed (stopMembers skip t rest).2 := hhalted.moves.trans hmoves
          have hsame' : ∀ k, k ∉ (item :: rest).map (·.serviceId) →
              (stopMembers skip t rest).2.runtimes[k]? = s.runtimes[k]? := fun k hk =>
            (hsame k (hnotMem k hk).2).trans (hhalted.same k (hnotMem k hk).1)
          simp only
          cases hrest : stopMembers skip t rest with
          | mk outcome u =>
            rw [hrest] at hboth hsame hsame' hidle
            cases outcome with
            | error => exact ⟨hboth, hsame', nofun⟩
            | ok stopped =>
              refine ⟨hboth, hsame', fun _ _ hnever other hother => ?_⟩
              rcases mem_cons.mp hother with rfl | hother
              · exact (hhalted.idle rfl).of_eq (hsame _ hid)
              · exact hidle stopped rfl hnever other hother

/-! ## Requests -/

theorem Base.idle (h : s.Base) {record : RuntimeRecord}
    (hrec : s.snapshot.services[id]? = some record)
    (hstate : record.state = .stopped ∨ record.state = .failed) :
    s.IdleBehind id (.capture id record) := by
  rw [h.synced id, Option.map_eq_some_iff] at hrec
  obtain ⟨runtime, hget, rfl⟩ := hrec
  have hok := h.ok id runtime hget
  refine ⟨runtime, hget, ?_, le_min (Nat.le_succ _) hok.numbers.1,
    le_min (Nat.le_succ _) hok.numbers.2⟩
  by_contra hlive
  obtain ⟨howned, hlife⟩ := hok.live (Option.isSome_iff_ne_none.mpr hlive)
  obtain ⟨hstop, hfailed⟩ := hok.at_work howned
  exact hstate.elim hstop hfailed

theorem executeStart_moves (htried : allowed .attempted) (plan : StartPlan)
    (hnodup : (plan.ordered.map (·.serviceId)).Nodup) (hready : s.Ready plan.ordered) :
    s.Moves allowed (s.executeStart plan).2 := by
  have hmoves : s.Moves allowed (s.startMembers plan.ordered).2 :=
    startMembers_moves htried plan.ordered hnodup s hready
  unfold executeStart
  cases hres : s.startMembers plan.ordered with
  | mk outcome t =>
    rw [hres] at hmoves
    cases outcome with
    | error => exact hmoves
    | ok => exact hmoves

theorem executeStop_eq (plan : StopPlan) :
    (s.executeStop plan).2 = (stopMembers (fun _ _ => false) s plan.ordered).2 ∧
      ∀ outcome, (s.executeStop plan).1 = .ok outcome →
        ∃ stopped, (stopMembers (fun _ _ => false) s plan.ordered).1 = .ok stopped := by
  unfold executeStop
  cases hres : stopMembers (fun _ _ => false) s plan.ordered with
  | mk result t =>
    cases result with
    | error => exact ⟨rfl, nofun⟩
    | ok stopped => exact ⟨rfl, fun _ _ => ⟨stopped, rfl⟩⟩

theorem executeTaskClose_eq (plan) : (s.executeTaskClose plan).2 =
      (stopMembers (fun s id => s.state id = .stopped) s plan.ordered).2 := by
  unfold executeTaskClose
  cases hres : stopMembers (fun s id => s.state id = .stopped) s plan.ordered with
  | mk result t =>
    cases result with
    | error error => rfl
    | ok stopped => rfl

variable {root : ServiceId}

theorem Base.ready (h : s.Base) {t : ServiceSupervisor A} {forceRoot : Bool}
    {items} (hcatalog : t.catalog = s.catalog)
    (hmem : ∀ item ∈ items, ∀ intent, item.intent = some intent →
      ∃ record, ServiceCatalog.Launchable s.catalog s.snapshot root forceRoot item intent record)
    (hkept : ∀ id record, s.snapshot.services[id]? = some record →
      s.IdleBehind id (.capture id record) → t.IdleBehind id (.capture id record))
    (hroot : ∀ record, forceRoot = true → s.snapshot.services[root]? = some record →
      record.state = .healthy → t.IdleBehind root (.capture root record)) : t.Ready items := by
  intro item hitem intent hintent
  obtain ⟨record, hlaunch⟩ := hmem item hitem intent hintent
  refine ⟨by rw [hcatalog]; exact hlaunch.intent, ?_⟩
  rw [hlaunch.fence]
  rcases hlaunch.state with hstop | ⟨hfailed, _⟩ | ⟨hforce, hid, hhealthy⟩
  · exact hkept _ record hlaunch.record (h.idle hlaunch.record (.inl hstop))
  · exact hkept _ record hlaunch.record (h.idle hlaunch.record (.inr hfailed))
  · have hrec := hlaunch.record
    rw [hid] at hrec ⊢
    exact hroot record hforce hrec hhealthy

variable {requester : AdmissionRequester} {stop : StopPlan}

theorem stop_allowed
    (hstop : ServiceCatalog.StopDecision s.catalog root requester s.snapshot (.stop stop))
    (hallowed : ∀ id ∈ s.catalog.stopClosure root, StopAllowed allowed s id) :
    ∀ item ∈ stop.ordered, StopAllowed allowed s item.serviceId :=
  fun item hitem => hallowed item.serviceId (hstop.mem_closure item hitem)

theorem restart_ready (h : s.Base) {start : StartPlan}
    (hstop : ServiceCatalog.StopDecision s.catalog root requester s.snapshot (.stop stop))
    (hstart : ServiceCatalog.StartDecision s.catalog root requester s.snapshot true (.start start))
    (hallowed : ∀ id ∈ s.catalog.stopClosure root, StopAllowed allowed s id) :
    s.Moves allowed (s.executeStop stop).2 ∧ ∀ outcome, (s.executeStop stop).1 = .ok outcome →
      (s.executeStop stop).2.Ready start.ordered := by
  obtain ⟨hnodup, hstopped, hcomplete⟩ := hstop.members
  obtain ⟨_, hmembers⟩ := hstart.members
  obtain ⟨hstate, hres⟩ := executeStop_eq (s := s) stop
  obtain ⟨hmoves, hsame, hidle⟩ := stopMembers_spec (fun _ _ => false) stop.ordered hnodup s
    (stop_allowed hstop hallowed)
  rw [hstate]
  refine ⟨hmoves, fun outcome hout => ?_⟩
  obtain ⟨stopped, hok⟩ := hres outcome hout
  have hall := hidle stopped hok fun _ _ => rfl
  have hmember : ∀ id record,
      s.snapshot.services[id]? = some record → id ∈ stop.ordered.map (·.serviceId) →
      (stopMembers (fun _ _ => false) s stop.ordered).2.IdleBehind id (.capture id record) := by
    intro id record hrec hid
    obtain ⟨item, hitem, rfl⟩ := mem_map.mp hid
    obtain ⟨record', hstoppable⟩ := hstopped item hitem
    have hbehind := hall item hitem
    rw [hstoppable.fence] at hbehind
    rw [hstoppable.record] at hrec
    cases hrec
    exact hbehind
  refine h.ready hmoves.catalog hmembers (fun id record hrec hid => ?_)
    fun record _ hrec hhealthy => ?_
  · by_cases hmem : id ∈ stop.ordered.map (·.serviceId)
    · exact hmember id record hrec hmem
    · exact hid.of_eq (hsame id hmem)
  · have hser : root ∈ s.catalog.services := by
      rw [h.synced root, Option.map_eq_some_iff] at hrec
      obtain ⟨runtime, hget, _⟩ := hrec
      exact (h.keys root).mp (OrdMap.mem_iff_exists.mpr ⟨runtime, hget⟩)
    exact hmember root record hrec
      (hcomplete record hser hrec (by simp [hhealthy]) (by simp [hhealthy]))

theorem restart_moves (h : s.Base) {start : StartPlan}
    (hstop : ServiceCatalog.StopDecision s.catalog root requester s.snapshot (.stop stop))
    (hstart : ServiceCatalog.StartDecision s.catalog root requester s.snapshot true (.start start))
    (htried : allowed .attempted)
    (hallowed : ∀ id ∈ s.catalog.stopClosure root, StopAllowed allowed s id) :
    s.Moves allowed (s.executeStop stop).2 ∧ ∀ outcome, (s.executeStop stop).1 = .ok outcome →
      s.Moves allowed ((s.executeStop stop).2.executeStart start).2 := by
  obtain ⟨hmoves, hready⟩ := restart_ready h hstop hstart hallowed
  refine ⟨hmoves, fun outcome hout => hmoves.trans ?_⟩
  exact executeStart_moves htried start hstart.members.1 (hready outcome hout)

theorem mutate_moves (h : s.Base) (action) (id) (fence)
    (requester) (htried : action ≠ .stop → allowed .attempted)
    (hallowed : action ≠ .start → ∀ member ∈ s.catalog.stopClosure id,
      StopAllowed allowed s member) :
    s.Moves allowed (s.mutate action id fence requester).2 := by
  have hcases := admitRequest_decision s.catalog s.snapshot
    ⟨action, id, fence, s.requesterFor requester⟩
  unfold mutate
  simp only
  generalize s.catalog.admitRequest ⟨action, id, fence, s.requesterFor requester⟩ s.snapshot =
    decision at hcases
  cases hcases with
  | coalesced | refused => exact Moves.refl
  | start plan hact hstart =>
    obtain ⟨hnodup, hmem⟩ := hstart.members
    simp only
    split
    · exact Moves.refl
    · exact executeStart_moves (htried (by simp [show action = .start from hact])) plan hnodup
        (h.ready rfl hmem (fun _ _ _ hid => hid) nofun)
  | stop plan hact hstop =>
    simp only
    split
    · exact Moves.refl
    · rw [(executeStop_eq plan).1]
      exact (stopMembers_spec _ plan.ordered hstop.members.1 s
        (stop_allowed hstop (hallowed (by simp [show action = .stop from hact])))).1
  | restart stop start hact hstop hstart =>
    obtain rfl : action = .restart := hact
    obtain ⟨hstopped, hstarted⟩ := restart_moves h hstop hstart (htried (by simp))
      (hallowed (by simp))
    simp only
    split
    · exact Moves.refl
    · cases hres : s.executeStop stop with
      | mk outcome t =>
        rw [hres] at hstopped hstarted
        cases outcome with
        | error => exact hstopped
        | ok => exact hstarted _ rfl

/-- The call asks for the end of the service, be it refused: a stop or a restart of it or of one
that it depends on, or a close of its task. -/
def MayStop (s : ServiceSupervisor A) : SupervisorCall A → ServiceId → Prop
  | .handle .stop root _ _, id | .handle .restart root _ _, id => id ∈ s.catalog.stopClosure root
  | .closeTask taskId _, id => ∃ definition,
      s.catalog.services[id]? = some definition ∧ definition.scope.taskId = some taskId
  | _, _ => False

/-- The call reports the exit of the service with the generation. -/
def MayExit (s : ServiceSupervisor A) : SupervisorCall A → ServiceId × ℕ → Prop
  | .handle _ _ _ _, exit | .pumpIo, exit => exit ∈ s.observedExits
  | .reportExit id generation, exit => exit = (id, generation)
  | _, _ => False

theorem handle_moves (h : s.Base) (action) (id)
    (fence) (requester) (htried : allowed .attempted)
    (hexits : ∀ exit ∈ s.observedExits, ExitAllowed allowed s exit.1 exit.2)
    (hstop : ∀ member, s.MayStop (.handle action id fence requester) member →
      StopAllowed allowed s member) :
    s.Moves allowed (s.handle action id fence requester).2 := by
  obtain ⟨hpump, hlive⟩ := pumpIo_moves hexits
  have hmut : ∀ kind,
      (kind ≠ .start → ∀ member ∈ s.catalog.stopClosure id, StopAllowed allowed s member) →
      s.Moves allowed (s.pumpIo.mutate kind id fence requester).2 := by
    intro kind hallowed
    refine hpump.trans (mutate_moves (h.moves hpump) kind id fence requester (fun _ => htried) ?_)
    intro hkind member hmem
    rw [hpump.catalog] at hmem
    exact (hallowed hkind member hmem).of_live hlive hpump.catalog
  unfold handle
  cases action with
  | start => exact hmut .start fun hne => absurd rfl hne
  | stop => exact hmut .stop fun _ => hstop
  | restart => exact hmut .restart fun _ => hstop
  | logs => exact hpump
  | health => exact hpump

theorem closeTask_moves (h : s.Base) (taskId : TaskId) (epoch : ℕ)
    (hstop : ∀ member, s.MayStop (.closeTask taskId epoch) member → StopAllowed allowed s member) :
    s.Moves allowed (s.closeTask taskId epoch).2 := by
  unfold closeTask
  simp only
  have hmark : s.Move allowed
      { s with snapshot := (s.snapshot.markTaskClosing taskId).setTaskEpoch taskId epoch } :=
    .idle _ rfl rfl rfl rfl rfl (.inl (.same _))
  refine hmark.moves.trans ?_
  split
  · exact Moves.refl
  · rename_i plan hplan
    obtain ⟨hnodup, hmem⟩ := admitTaskClose_members hplan
    split
    · exact Moves.refl
    · rw [executeTaskClose_eq]
      refine (stopMembers_spec _ plan.ordered hnodup _ fun item hitem => ?_).1
      exact hstop item.serviceId (admitTaskClose_scope h.valid hplan item hitem)

/-! ## Calls -/

/-- The faults that a call may contain in a state. -/
def Faults (s : ServiceSupervisor A) (c : SupervisorCall A) : SupervisorFault → Prop
  | .deadline => ∃ nowMs, c = .advanceClock nowMs ∧
      ∃ (id : ServiceId) (runtime : ServiceRuntime A), s.runtimes[id]? = some runtime ∧
        runtime.MissesDeadline (max s.nowMs nowMs)
  | .freed => ∃ port ownerPid, c = .observePort port .free ownerPid ∧ s.FreesLive port
  | .overflow => ∃ (id : ServiceId) (runtime : ServiceRuntime A), s.runtimes[id]? = some runtime ∧
      runtime.live.isSome = true ∧ s.MayStop c id ∧ ¬ runtime.Fits
  | .unreleased => ∃ (id : ServiceId) (runtime : ServiceRuntime A), s.runtimes[id]? = some runtime ∧
      runtime.live.isSome = true ∧ s.HealthOnly id ∧
        (s.MayStop c id ∨ s.MayExit c (id, runtime.evidence.generation))
  | .attempted => (∃ action id fence requester, c = .handle action id fence requester) ∨
      ∃ authority, c = .environment authority
  | .exited id => ∃ runtime, s.runtimes[id]? = some runtime ∧
      runtime.live.isSome = true ∧ s.MayExit c (id, runtime.evidence.generation)

theorem stopAllowed_of_faults {c}
    (hfault : ∀ fault, s.Faults c fault → allowed fault) (h : s.MayStop c id) :
    StopAllowed allowed s id := fun runtime hget hlive =>
  ⟨fun hfits => hfault .overflow ⟨id, runtime, hget, hlive, h, hfits⟩,
    fun hhealth => hfault .unreleased ⟨id, runtime, hget, hlive, hhealth, Or.inl h⟩⟩

theorem exitAllowed_of_faults {c}
    (hfault : ∀ fault, s.Faults c fault → allowed fault) {generation : ℕ}
    (h : s.MayExit c (id, generation)) : ExitAllowed allowed s id generation :=
  fun runtime hget hlive hgen =>
    ⟨fun hhealth => hfault .unreleased ⟨id, runtime, hget, hlive, hhealth, .inr (hgen ▸ h)⟩,
      hfault (.exited id) ⟨runtime, hget, hlive, hgen ▸ h⟩⟩

theorem call_moves (h : s.Base) (c)
    (hfault : ∀ fault, s.Faults c fault → allowed fault) : s.Moves allowed (s.call c).2 := by
  cases c with
  | handle action id fence requester =>
    exact handle_moves h action id fence requester
      (hfault .attempted (.inl ⟨action, id, fence, requester, rfl⟩))
      (fun exit hexit => exitAllowed_of_faults hfault hexit)
      fun member hmem => stopAllowed_of_faults hfault hmem
  | closeTask taskId epoch =>
    exact closeTask_moves h taskId epoch fun member hmem => stopAllowed_of_faults hfault hmem
  | advanceClock nowMs =>
    exact advanceClock_moves nowMs fun id runtime hget hmisses =>
      hfault .deadline ⟨nowMs, rfl, id, runtime, hget, hmisses⟩
  | applyProbe => exact applyProbe_moves ..
  | reportExit => exact reportExit_moves _ _ (exitAllowed_of_faults hfault rfl)
  | observePort port authority ownerPid =>
    refine observePort_moves h port authority ownerPid fun hfree hfrees => ?_
    subst hfree
    exact hfault .freed ⟨port, ownerPid, rfl, hfrees⟩
  | pumpIo => exact (pumpIo_moves fun exit hexit => exitAllowed_of_faults hfault hexit).1
  | environment => exact authority_moves _ (.inr (hfault .attempted (.inr ⟨_, rfl⟩)))

/-! ## Runs -/

/-- A supervisor before its first call. -/
def Fresh (s : ServiceSupervisor A) : Prop :=
  ∃ definitions catalog overlays owners workspaceRoots resourceIds authority hostId nowMs,
    ServiceCatalog.new definitions = .ok catalog ∧
      s = fromCatalog catalog overlays owners workspaceRoots resourceIds authority hostId nowMs

theorem Fresh.runtime (h : s.Fresh) {runtime} (hget : s.runtimes[id]? = some runtime) :
    runtime.live = none ∧ runtime.operation = none ∧
      ∃ nowMs, runtime.evidence = stoppedEvidence nowMs 1 1 := by
  obtain ⟨_, catalog, overlays, owners, roots, ids, authority, hostId, nowMs, _, rfl⟩ := h
  change (catalog.services.map _)[id]? = some runtime at hget
  rw [ExtTreeMap.getElem?_map, Option.map_eq_some_iff] at hget
  obtain ⟨definition, _, rfl⟩ := hget
  exact ⟨rfl, rfl, nowMs, rfl⟩

theorem Fresh.base (h : s.Fresh) : s.Base where
  valid := by
    obtain ⟨_, catalog, _, _, _, _, _, _, _, hnew, rfl⟩ := h
    exact new_valid hnew
  keys := by
    obtain ⟨_, catalog, _, _, _, _, _, _, _, _, rfl⟩ := h
    intro id
    show id ∈ catalog.services.map _ ↔ id ∈ catalog.services
    exact ExtTreeMap.mem_map
  synced := by
    obtain ⟨_, catalog, _, _, _, _, _, _, _, _, rfl⟩ := h
    intro id
    show (catalog.services.map _)[id]? = (catalog.services.map _)[id]?.map _
    rw [ExtTreeMap.getElem?_map, ExtTreeMap.getElem?_map, Option.map_map]
    rfl
  ok := by
    intro id runtime hget
    obtain ⟨hlive, _, nowMs, hevid⟩ := h.runtime hget
    refine ServiceRuntime.Ok.of_not_owned ?_ ?_ ?_ hlive
    · rw [hevid]
      exact ⟨by simp [stoppedEvidence, u64Max], by simp [stoppedEvidence, u64Max]⟩
    · rw [hevid]
      exact OwnershipAxis.noConfusion
    · rw [hevid]
      rfl

theorem run_invariant {P : ServiceSupervisor A → Prop}
    (hmove : ∀ t u, t.Base → P t → t.Move allowed u → P u)
    (hfresh : s.Fresh) (hs : P s) (calls)
    (halong : Calls.Along call (fun t c => ∀ fault, t.Faults c fault → allowed fault) s calls) :
    (Calls.after call s calls).Base ∧ P (Calls.after call s calls) := by
  have hmoves : ∀ t u, t.Base ∧ P t → t.Moves allowed u → u.Base ∧ P u := by
    intro t u ht hmoves
    induction hmoves with
    | refl => exact ht
    | tail _ hlast ih => exact ⟨ih.1.move hlast, hmove _ _ ih.1 ih.2 hlast⟩
  exact Calls.along_invariant (P := fun t => t.Base ∧ P t)
    (fun t c ht hfault => hmoves t _ ht (call_moves ht.1 c hfault)) calls ⟨hfresh.base, hs⟩ halong

theorem reachable_moves (hfresh : s.Fresh) (calls) :
    s.Moves (fun _ => True) (Calls.after call s calls) := by
  have hinv : ∀ t c,
      t.Base ∧ s.Moves (fun _ => True) t → (t.call c).2.Base ∧
        s.Moves (fun _ => True) (t.call c).2 := by
    intro t c ⟨hbase, hmoves⟩
    have hcall : t.Moves (fun _ => True) (t.call c).2 := call_moves hbase c fun _ _ => trivial
    exact ⟨hbase.moves hcall, hmoves.trans hcall⟩
  exact (Calls.after_invariant ⟨hfresh.base, Moves.refl⟩ hinv calls).2

theorem reachable_base (hfresh : s.Fresh) (calls) :
    (Calls.after call s calls).Base := hfresh.base.moves (reachable_moves hfresh calls)

theorem reachable_catalog (hfresh : s.Fresh) (calls) :
    (Calls.after call s calls).catalog = s.catalog := (reachable_moves hfresh calls).catalog

end ServiceSupervisor

end DevManager
