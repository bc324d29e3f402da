import DevManager.Services.Failure

/-!
# Reservations of ports

A launch reserves the port that its intent expects, which may come from the
health check. The end of the process releases the port that the definition
states, and the claims on a port are also set and given up by what port scans
find.
-/

namespace DevManager

open Std (ExtTreeMap)
open ManagedLaunchAuthority (Live)
open OrdMap

variable {A : Type} [ManagedLaunchAuthority A]

namespace ServiceSupervisor

variable {s s' : ServiceSupervisor A}

/-- The service has a live handle with the generation. -/
def LiveAt (s : ServiceSupervisor A) (id : ServiceId) (generation : ℕ) : Prop :=
  ∃ runtime : ServiceRuntime A, s.runtimes[id]? = some runtime ∧ runtime.live.isSome = true ∧
    runtime.evidence.generation = generation

/-- Every reservation is that of a live service that expects the port, and no two live services
expect the same port. -/
structure PortsExact (s : ServiceSupervisor A) : Prop where
  reserved : ∀ port id generation,
    s.ports[port]? = some (.reserved id generation) → s.LiveAt id generation ∧ s.Expects id port
  distinct : ∀ port id other generation generation',
    s.LiveAt id generation → s.LiveAt other generation' → s.Expects id port →
      s.Expects other port → id = other

/-- The port that a live service expects is claimed: reserved by the service, or blocked. -/
structure PortsHeld (s : ServiceSupervisor A) : Prop extends s.PortsExact where
  held : ∀ port id generation, s.LiveAt id generation →
    s.Expects id port → s.ports[port]? = some (.reserved id generation) ∨ s.Blocked port

theorem PortsHeld.congr (h : s.PortsHeld) (hcatalog : s'.catalog = s.catalog)
    (hports : s'.ports = s.ports)
    (hlive : ∀ id generation, s'.LiveAt id generation ↔ s.LiveAt id generation) : s'.PortsHeld := by
  refine ⟨⟨?_, ?_⟩, ?_⟩
  · intro port id generation hclaim
    rw [hports] at hclaim
    unfold Expects
    rw [hcatalog, hlive]
    exact h.reserved port id generation hclaim
  · intro port id other generation generation'
    unfold Expects
    rw [hcatalog, hlive, hlive]
    exact h.distinct port id other generation generation'
  · intro port id generation
    unfold Expects Blocked
    rw [hcatalog, hlive, hports]
    exact h.held port id generation

theorem liveAt_of_eq (hrun : s'.runtimes = s.runtimes) (id : ServiceId) (generation : ℕ) :
    s'.LiveAt id generation ↔ s.LiveAt id generation := by
  unfold LiveAt
  rw [hrun]

variable {id : ServiceId} {next : ServiceRuntime A}

theorem liveAt_insert
    (hrun : s'.runtimes = s.runtimes.insert id next) (k : ServiceId) (generation : ℕ) :
    s'.LiveAt k generation ↔ if id = k then next.live.isSome = true ∧
      next.evidence.generation = generation else s.LiveAt k generation := by
  unfold LiveAt
  rw [hrun, getElem?_insert_eq]
  split_ifs with hk
  · simp
  · rfl

variable {generation : ℕ} {runtime : ServiceRuntime A}

theorem LiveAt.get (h : s.LiveAt id generation) (hget : s.runtimes[id]? = some runtime) :
    runtime.live.isSome = true ∧ runtime.evidence.generation = generation := by
  obtain ⟨other, hother, hlive, hgen⟩ := h
  rw [hget] at hother
  cases hother
  exact ⟨hlive, hgen⟩

theorem liveAt_same (hget : s.runtimes[id]? = some runtime) (hsame : runtime.SameProcess next)
    (hrun : s'.runtimes = s.runtimes.insert id next) (k : ServiceId) (generation : ℕ) :
    s'.LiveAt k generation ↔ s.LiveAt k generation := by
  rw [liveAt_insert hrun]
  split_ifs with hk
  · subst hk
    rw [hsame.live, hsame.generation]
    exact ⟨fun h => ⟨runtime, hget, h⟩, fun h => h.get hget⟩
  · rfl

theorem PortsHeld.not_reserved (h : s.PortsHeld)
    (hget : s.runtimes[id]? = some runtime) (hlive : runtime.live = none) (port generation : ℕ) :
    s.ports[port]? ≠ some (.reserved id generation) := by
  intro hclaim
  have hsome := ((h.reserved port id generation hclaim).1.get hget).1
  rw [hlive] at hsome
  cases hsome

theorem PortsHeld.idle (h : s.PortsHeld)
    (hget : s.runtimes[id]? = some runtime) (hlive : runtime.live = none)
    (hnext : next.live = none) :
    (s.put id next).PortsHeld := by
  refine h.congr (put_catalog _ _) (put_ports _ _) fun k generation => ?_
  rw [liveAt_insert (put_runtimes id next)]
  split_ifs with hk
  · subst hk
    rw [hnext]
    refine ⟨fun hsome => absurd hsome.1 (by simp), fun hsome => ?_⟩
    have hhandle := (hsome.get hget).1
    rw [hlive] at hhandle
    cases hhandle
  · rfl

theorem release_ports (s : ServiceSupervisor A) (id) (generation port : ℕ) :
    (s.releasePortFor id generation).ports[port]? =
      if (s.catalog.services[id]?.bind (·.expectedPort)) = some port ∧
        s.ports[port]? = some (.reserved id generation) then none else s.ports[port]? := by
  unfold releasePortFor
  split
  · rename_i hnone
    rw [hnone, if_neg (by simp)]
  · rename_i expected hsome
    rw [hsome]
    split_ifs with hclaim hboth hboth
    · show (s.ports.erase expected)[port]? = none
      rw [getElem?_erase_eq, if_pos (Option.some.inj hboth.1)]
    · show (s.ports.erase expected)[port]? = s.ports[port]?
      rw [getElem?_erase_eq, if_neg]
      rintro rfl
      exact hboth ⟨rfl, hclaim⟩
    · rw [← Option.some.inj hboth.1] at hboth
      exact absurd hboth.2 hclaim
    · rfl

theorem release_ports_of_not_reserved
    (h : ∀ port : ℕ, s.ports[port]? ≠ some (PortClaim.reserved id generation)) (port : ℕ) :
    (s.releasePortFor id generation).ports[port]? = s.ports[port]? := by
  rw [release_ports, if_neg]
  exact fun hboth => h port hboth.2

variable {port : ℕ}

theorem release_claim {portClaim}
    (h : (s.releasePortFor id generation).ports[port]? = some portClaim) :
    s.ports[port]? = some portClaim ∧ (portClaim = .reserved id generation →
      s.catalog.services[id]?.bind (·.expectedPort) ≠ some port) := by
  rw [release_ports] at h
  split_ifs at h with hboth
  exact ⟨h, fun heq hexp => hboth ⟨hexp, heq ▸ h⟩⟩

theorem expectedPort_of_expects (hexp : s.Expects id port)
    (hhealth : ¬ s.HealthOnly id) : s.catalog.services[id]?.bind (·.expectedPort) = some port := by
  obtain ⟨definition, hdef, hport⟩ := hexp
  rw [hdef, Option.bind_some]
  rw [ServiceDefinition.effectiveExpectedPort_eq] at hport
  · exact hport
  · intro hsome
    by_contra hnone
    exact hhealth ⟨definition, hdef, by simpa using hnone, hsome⟩

theorem liveAt_ended (hnext : next.live = none)
    (k) (generation g : ℕ) : ((s.put id next).releasePortFor id g).LiveAt k generation ↔
      k ≠ id ∧ s.LiveAt k generation := by
  have hrun : ((s.put id next).releasePortFor id g).runtimes = s.runtimes.insert id next := by
    rw [release_runtimes, put_runtimes]
  rw [liveAt_insert hrun, hnext]
  split_ifs with hk
  · simp [hk]
  · simp [Ne.symm hk]

variable (h : s.PortsHeld)

include h

variable (hget : s.runtimes[id]? = some runtime)

include hget

theorem PortsHeld.ended (hnext : next.live = none)
    (hhealth : runtime.live.isSome = true → ¬ s.HealthOnly id) :
    ((s.put id next).releasePortFor id runtime.evidence.generation).PortsHeld := by
  have hcatalog : ((s.put id next).releasePortFor id runtime.evidence.generation).catalog =
      s.catalog := by
    rw [release_catalog, put_catalog]
  refine ⟨⟨?_, ?_⟩, ?_⟩
  · intro port k generation hclaim
    obtain ⟨hpre, hother⟩ := release_claim hclaim
    rw [put_ports] at hpre
    obtain ⟨hlive, hexp⟩ := h.reserved port k generation hpre
    rw [liveAt_ended hnext]
    unfold Expects
    rw [hcatalog]
    refine ⟨⟨fun hk => ?_, hlive⟩, hexp⟩
    subst hk
    obtain ⟨hhandle, hgen⟩ := hlive.get hget
    rw [put_catalog] at hother
    exact hother (by rw [hgen]) (expectedPort_of_expects hexp (hhealth hhandle))
  · intro port k other generation generation' hk hother
    rw [liveAt_ended hnext] at hk hother
    unfold Expects
    rw [hcatalog]
    exact h.distinct port k other generation generation' hk.2 hother.2
  · intro port k generation hk hexp
    rw [liveAt_ended hnext] at hk
    unfold Expects at hexp
    rw [hcatalog] at hexp
    have hclaim : ((s.put id next).releasePortFor id runtime.evidence.generation).ports[port]? =
        s.ports[port]? := by
      rw [release_ports, put_ports, if_neg]
      rintro ⟨_, hres⟩
      rcases h.held port k generation hk.2 hexp with howned | ⟨_, hblocked⟩ | hblocked
      · rw [howned] at hres
        cases hres
        exact hk.1 rfl
      · rw [hblocked] at hres
        cases hres
      · rw [hblocked] at hres
        cases hres
    unfold Blocked
    rw [hclaim]
    exact h.held port k generation hk.2 hexp

theorem PortsHeld.failed (hlive : runtime.live = none) (hnext : next.live = none)
    (generation : ℕ) : ((s.put id next).releasePortFor id generation).PortsHeld := by
  have hid := h.idle hget hlive hnext
  have hrel : ((s.put id next).releasePortFor id generation).ports = (s.put id next).ports := by
    refine ExtTreeMap.ext_getElem? fun port => release_ports_of_not_reserved (fun port => ?_) port
    rw [put_ports]
    exact h.not_reserved hget hlive port generation
  exact hid.congr (release_catalog _ _) hrel (liveAt_of_eq (release_runtimes _ _))

theorem PortsHeld.managed (hlive : runtime.live.isSome = true)
    (hexp : s.Expects id port) :
    ({ s with runtimes := s.runtimes.insert id (runtime.managed s.nowMs port) }.claim port
      (.reserved id runtime.evidence.generation)).PortsHeld := by
  have hkept : ∀ k generation,
      ({ s with runtimes := s.runtimes.insert id (runtime.managed s.nowMs port) }.claim port
        (.reserved id runtime.evidence.generation)).LiveAt k generation ↔
          s.LiveAt k generation := by
    have hsame : runtime.SameProcess (runtime.managed s.nowMs port) := ⟨rfl, rfl, rfl, rfl⟩
    exact liveAt_same hget hsame rfl
  have hself : s.LiveAt id runtime.evidence.generation := ⟨runtime, hget, hlive, rfl⟩
  refine ⟨⟨?_, ?_⟩, ?_⟩
  · intro p k generation hclaim
    rw [hkept]
    change (s.ports.insert port _)[p]? = some _ at hclaim
    rcases of_insert hclaim with ⟨rfl, ⟨⟩⟩ | ⟨-, hclaim⟩
    · exact ⟨hself, hexp⟩
    · exact h.reserved p k generation hclaim
  · intro p k other generation generation' hk hother
    rw [hkept] at hk hother
    exact h.distinct p k other generation generation' hk hother
  · intro p k generation hk hexp'
    rw [hkept] at hk
    unfold Blocked
    show (s.ports.insert port _)[p]? = _ ∨ (∃ ownerPid, (s.ports.insert port _)[p]? = _) ∨
      (s.ports.insert port _)[p]? = _
    rw [getElem?_insert_eq]
    split_ifs with hp
    · subst hp
      have hsame := h.distinct port k id generation runtime.evidence.generation hk hself hexp'
        hexp
      subst hsame
      rw [(hk.get hget).2]
      exact .inl rfl
    · exact h.held p k generation hk hexp'

omit hget

theorem PortsHeld.started {epoch : ℕ} {intent live}
    (hget : s.runtimes[id]? = some runtime) (hlive : runtime.live = none)
    (hintent : s.catalog.launchIntent id = .ok intent)
    (hport : ∀ port, intent.expectedPort = some port →
      s.ports[port]? = none ∨ ∃ claimed, s.ports[port]? = some (.reserved id claimed)) :
    (s.started id runtime generation epoch intent.expectedPort live).PortsHeld := by
  have hexp : ∀ port, s.Expects id port ↔ intent.expectedPort = some port := by
    intro port
    unfold ServiceCatalog.launchIntent at hintent
    simp only [ok_iff] at hintent
    obtain ⟨definition, hdef, rfl⟩ := hintent
    unfold Expects
    rw [hdef]
    simp
  have hfree : ∀ port, intent.expectedPort = some port → s.ports[port]? = none := by
    intro port hsome
    rcases hport port hsome with hnone | ⟨claimed, hclaim⟩
    · exact hnone
    · exact absurd hclaim (h.not_reserved hget hlive port claimed)
  have hcatalog : (s.started id runtime generation epoch intent.expectedPort live).catalog =
      s.catalog := put_catalog _ _
  have hkept : ∀ k g, (s.started id runtime generation epoch intent.expectedPort live).LiveAt k g ↔
      if id = k then generation = g else s.LiveAt k g := by
    intro k g
    rw [liveAt_insert (started_runtimes live)]
    split_ifs
    · simp [ServiceRuntime.launched]
    · rfl
  have hports : ∀ port,
      (s.started id runtime generation epoch intent.expectedPort live).ports[port]? =
        if intent.expectedPort = some port then some (.reserved id generation)
        else s.ports[port]? := by
    intro port
    unfold ServiceSupervisor.started
    rw [put_ports]
    cases hin : intent.expectedPort with
    | none => simp
    | some expected =>
      simp only [Option.some.injEq]
      rw [getElem?_insert_eq]
  refine ⟨⟨?_, ?_⟩, ?_⟩
  · intro port k g hclaim
    rw [hports] at hclaim
    unfold Expects
    rw [hcatalog, hkept]
    split_ifs at hclaim with hp
    · cases hclaim
      rw [if_pos rfl]
      exact ⟨rfl, (hexp port).mpr hp⟩
    · obtain ⟨hk, hexpects⟩ := h.reserved port k g hclaim
      have hne : id ≠ k := fun heq => h.not_reserved hget hlive port g (heq ▸ hclaim)
      rw [if_neg hne]
      exact ⟨hk, hexpects⟩
  · intro port k other g g' hk hother hexpects hexpects'
    rw [hkept] at hk hother
    unfold Expects at hexpects hexpects'
    rw [hcatalog] at hexpects hexpects'
    -- a live service that expects a free port is the launched one
    have halone : ∀ j n, s.Expects id port → s.Expects j port →
        ¬ s.LiveAt j n := by
      intro j n hidExpects hjExpects hj
      have hnone := hfree port ((hexp port).mp hidExpects)
      rcases h.held port j n hj hjExpects with hclaim | ⟨_, hclaim⟩ | hclaim
      all_goals
        rw [hnone] at hclaim
        cases hclaim
    split_ifs at hk hother with hk' hother' hother'
    · exact hk'.symm.trans hother'
    · exact absurd hother (halone other g' (hk' ▸ hexpects) hexpects')
    · exact absurd hk (halone k g (hother' ▸ hexpects') hexpects)
    · exact h.distinct port k other g g' hk hother hexpects hexpects'
  · intro port k g hk hexpects
    rw [hkept] at hk
    unfold Expects at hexpects
    rw [hcatalog] at hexpects
    unfold Blocked
    rw [hports]
    split_ifs at hk with hk'
    · subst hk'
      rw [if_pos ((hexp port).mp hexpects), hk]
      exact .inl rfl
    · have hclaim := h.held port k g hk hexpects
      rw [if_neg]
      · exact hclaim
      · intro hp
        rw [show s.ports[port]? = none from hfree port hp] at hclaim
        rcases hclaim with hclaim | ⟨_, hclaim⟩ | hclaim
        · cases hclaim
        · rw [hfree port hp] at hclaim
          cases hclaim
        · rw [hfree port hp] at hclaim
          cases hclaim

theorem PortsHeld.blocked {portClaim}
    (hclaim : (∃ ownerPid, portClaim = .external ownerPid) ∨ portClaim = .indeterminate) :
    (s.claim port portClaim).PortsHeld := by
  refine ⟨⟨?_, fun p => h.distinct p⟩, ?_⟩
  · intro p k generation hget
    change (s.ports.insert port portClaim)[p]? = some _ at hget
    rcases of_insert hget with ⟨-, rfl⟩ | ⟨-, hget⟩
    · rcases hclaim with ⟨_, hext⟩ | hindeterminate
      · cases hext
      · cases hindeterminate
    · exact h.reserved p k generation hget
  · intro p k generation hk hexp
    unfold Blocked
    show (s.ports.insert port portClaim)[p]? = _ ∨
      (∃ ownerPid, (s.ports.insert port portClaim)[p]? = _) ∨
        (s.ports.insert port portClaim)[p]? = _
    rw [getElem?_insert_eq]
    split_ifs
    · rcases hclaim with ⟨ownerPid, rfl⟩ | rfl
      · exact .inr (.inl ⟨ownerPid, rfl⟩)
      · exact .inr (.inr rfl)
    · exact h.held p k generation hk hexp

theorem PortsHeld.freed (hblocked : s.Blocked port)
    (hfree : ¬ s.FreesLive port) : ({ s with ports := s.ports.erase port }).PortsHeld := by
  refine ⟨⟨?_, fun p => h.distinct p⟩, ?_⟩
  · intro p k generation hget
    change (s.ports.erase port)[p]? = some _ at hget
    rw [getElem?_erase_eq] at hget
    split_ifs at hget
    exact h.reserved p k generation hget
  · intro p k generation hk hexp
    have hne : port ≠ p := by
      rintro rfl
      obtain ⟨runtime, hget, hlive, _⟩ := hk
      exact hfree ⟨hblocked, k, runtime, hget, hlive, hexp⟩
    unfold Blocked
    show (s.ports.erase port)[p]? = _ ∨ (∃ ownerPid, (s.ports.erase port)[p]? = _) ∨
      (s.ports.erase port)[p]? = _
    rw [getElem?_erase_eq, if_neg hne]
    exact h.held p k generation hk hexp

omit h

/-- The faults that leave a reservation behind, or give up the claim on a port of a live service. -/
def PortFault : SupervisorFault → Prop
  | .freed | .overflow | .unreleased => True
  | .deadline | .attempted | .exited _ => False

theorem PortsHeld.move (h : s.PortsHeld) (hmove : s.Move (fun fault => ¬ PortFault fault) s') :
    s'.PortsHeld := by
  cases hmove with
  | idle _ hcatalog _ hrun _ hports _ => exact h.congr hcatalog hports (liveAt_of_eq hrun)
  | projected id =>
    have hports : (s.projectRuntime id).ports = s.ports := by
      unfold projectRuntime
      split <;> rfl
    exact h.congr (project_catalog id) hports (liveAt_of_eq (project_runtimes id))
  | quiet id runtime next hget hquiet =>
    exact h.congr (put_catalog _ _) (put_ports _ _)
      (liveAt_same hget hquiet.sameProcess (put_runtimes id next))
  | managed port id runtime hget hlive hexp => exact h.managed hget hlive hexp
  | ended id runtime next hget hended hallowed _ =>
    exact h.ended hget hended.live fun hlive hhealth => hallowed hlive hhealth trivial
  | failed id runtime generation epoch hget hlive _ _ =>
    have hnext : (runtime.failed s.nowMs generation epoch).live = none := hlive
    exact h.failed hget hlive hnext generation
  | overflowed id runtime hget hallowed =>
    have hlive : runtime.live = none := by
      by_contra hsome
      exact hallowed (Option.isSome_iff_ne_none.mpr hsome) trivial
    exact h.idle hget hlive rfl
  | started id runtime generation epoch intent live hget hlive hintent hport _ _ _ =>
    exact h.started hget hlive hintent hport
  | blocked port portClaim hclaim =>
    exact h.blocked (hclaim.imp_left fun ⟨ownerPid, hext, _⟩ => ⟨ownerPid, hext⟩)
  | freed port hblocked hallowed => exact h.freed hblocked fun hfree => hallowed hfree trivial

/-- Port reservations are exact after every run in which no reservation is left behind and no claim
on a port of a live service is given up. -/
theorem exact_of_released (s : ServiceSupervisor A) (hfresh : s.Fresh)
    (calls : List (SupervisorCall A))
    (hreleased : Calls.Along call (fun t c => ¬ t.Faults c .freed ∧ ¬ t.Faults c .overflow ∧
      ¬ t.Faults c .unreleased) s calls) : (Calls.after call s calls).PortsExact := by
  have hnone : ∀ id generation, ¬ s.LiveAt id generation := by
    rintro id generation ⟨runtime, hget, hlive, _⟩
    rw [(hfresh.runtime hget).1] at hlive
    cases hlive
  have hports : s.ports = ∅ := by
    obtain ⟨_, _, _, _, _, _, _, _, _, _, rfl⟩ := hfresh
    rfl
  have hstart : s.PortsHeld := by
    refine ⟨⟨fun port id generation hclaim => ?_, fun _ id _ generation _ hlive => ?_⟩,
      fun _ id generation hlive => absurd hlive (hnone id generation)⟩
    · rw [hports] at hclaim
      simp at hclaim
    · exact absurd hlive (hnone id generation)
  have halong : Calls.Along call
      (fun t c => ∀ fault, t.Faults c fault → ¬ PortFault fault) s calls := by
    refine Calls.along_mono (fun t c hnot fault hfault hport => ?_) calls hreleased
    cases fault with
    | freed => exact hnot.1 hfault
    | overflow => exact hnot.2.1 hfault
    | unreleased => exact hnot.2.2 hfault
    | deadline => exact hport
    | attempted => exact hport
    | exited => exact hport
  exact (run_invariant (fun t u _ ht hmove => ht.move hmove) hfresh hstart calls
    halong).2.toPortsExact

def startStopCalls : List (SupervisorCall ReadyAuthority) :=
  [sampleRequest .start 1, sampleRequest .stop 2]

/-- A stopped service whose port is given by its health check only keeps the port reserved. -/
theorem stopped_still_reserved :
    sampleSupervisor.Fresh ∧ ¬ (Calls.after call sampleSupervisor startStopCalls).PortsExact := by
  refine ⟨sampleSupervisor_fresh, fun hexact => ?_⟩
  have hclaim : (Calls.after call sampleSupervisor startStopCalls).ports[5000]? =
      some (.reserved ⟨"api"⟩ 2) := by decide +kernel
  have hout : (Calls.after call sampleSupervisor startStopCalls).outline ⟨"api"⟩ =
      some (false, .stopped, ⟨3, 3, 3⟩) := by decide +kernel
  obtain ⟨runtime, hget, hlive, _⟩ := exists_of_outline hout
  have hhandle := ((hexact.reserved 5000 ⟨"api"⟩ 2 hclaim).1.get hget).1
  rw [hlive] at hhandle
  cases hhandle

/-- A reservation is exact while the service that holds it runs. -/
theorem exact_of_released_sample : (Calls.after call sampleSupervisor
      [sampleRequest .start 1, .applyProbe ⟨"api"⟩ 2 .success]).PortsExact := by
  refine exact_of_released sampleSupervisor sampleSupervisor_fresh _ ⟨⟨?_, ?_, ?_⟩, ⟨?_, ?_, ?_⟩,
    trivial⟩
  · rintro ⟨_, _, h, _⟩
    cases h
  · rintro ⟨_, _, _, _, h, _⟩
    exact h
  · rintro ⟨id, runtime, hget, hlive, _⟩
    rw [(sampleSupervisor_fresh.runtime hget).1] at hlive
    cases hlive
  · rintro ⟨_, _, h, _⟩
    cases h
  · rintro ⟨_, _, _, _, h, _⟩
    exact h
  · rintro ⟨_, _, _, _, _, h | h⟩
    · exact h
    · exact h

end ServiceSupervisor

end DevManager
