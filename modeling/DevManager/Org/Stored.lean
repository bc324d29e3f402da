import DevManager.Lib.Restore
import DevManager.Org.Persistence

/-!
# What the parts of an organization store

Each part of the projection keeps an invariant, under which what it stores is what restores
it: the hashes, the telemetry that waits (`OutboxSound`), the local actions
(`LocalActionRegistry.Sound`) and the evidence (`EvidenceIntake.Sound`), of which the stored
identifiers have no bound while the host runs, and one when it restarts.
-/

namespace DevManager.Org

open Std (ExtTreeMap ExtTreeSet)
open List OrdMap OrganizationStateDocument UuidExternals Std.ExtTreeMap

/-! ## Hashes -/

theorem decodePairs_hex (bytes) :
    decodePairs (bytes.flatMap fun b => [hexDigit (b.toNat / 16), hexDigit (b.toNat % 16)]) =
      some bytes := by
  induction bytes with
  | nil => rfl
  | cons b bytes ih =>
    obtain ⟨hhigh, hloop, hbyte⟩ := hexDigits_byte b
    rw [flatMap_cons]
    simp only [cons_append, nil_append, decodePairs, fromStrRadix16, hhigh, hloop, ih, hbyte]
    rfl

theorem decodeHash32_hexOfDigest (digest : Digest) :
    decodeHash32 (hexOfDigest digest) = .ok digest := by
  have hpairs : decodePairs (hexOfDigest digest).toList = some digest.toList := by
    rw [toList_hexOfDigest]
    exact decodePairs_hex digest.toList
  simp only [decodeHash32, utf8ByteSize_hexOfDigest, hpairs, ok_iff, true_and]
  refine ⟨_, rfl, ?_⟩
  rw [dif_pos (by simp), pure_eq_ok]
  apply Vector.toArray_inj.mp
  exact Array.toArray_toList.symm

/-! ## The telemetry that waits -/

/-- The intents that wait are valid, and stand under their identifiers. -/
def OutboxSound (outbox : ExtTreeMap String PersistedOutboxIntent) : Prop :=
  ∀ id intent, outbox[id]? = some intent →
    intent.observationIdHex = id ∧ validateOutboxIntent intent = .ok ()

theorem outboxSound_empty : OutboxSound ∅ := by
  intro id intent h
  simp at h

variable {outbox : ExtTreeMap String PersistedOutboxIntent}

theorem OutboxSound.insert (h : OutboxSound outbox)
    {id intent} (hid : intent.observationIdHex = id)
    (hvalid : validateOutboxIntent intent = .ok ()) : OutboxSound (outbox.insert id intent) :=
  forall_insert (P := fun id (i : PersistedOutboxIntent) => i.observationIdHex = id ∧
      validateOutboxIntent i = .ok ())
    ⟨hid, hvalid⟩ h

theorem OutboxSound.restore (h : OutboxSound outbox) :
    (outbox.toList.map Prod.snd).foldlM restoreIntent ∅ = .ok outbox := by
  refine foldlM_insert_toList id Prod.snd fun id intent hget outbox' hfresh => ?_
  obtain ⟨hid, hvalid⟩ := h id intent hget
  simp only [restoreIntent, ok_iff, hid, hvalid, hfresh, not_false_eq_true, true_and, id_eq]

theorem OutboxSound.check (h : OutboxSound outbox) :
    ∃ ids, (outbox.toList.map Prod.snd).foldlM checkIntent ∅ = .ok ids := by
  have hget : ∀ e ∈ outbox.toList, outbox[e.1]? = some e.2 := fun e he =>
    mem_toList_iff_getElem?_eq_some.mp he
  refine ⟨_, foldlM_fresh
    (P := fun ids (intent : PersistedOutboxIntent) => intent.observationIdHex ∉ ids)
    (R := fun a b => a.observationIdHex ≠ b.observationIdHex)
    (g := fun ids intent => ids.insert intent.observationIdHex) ?_ ?_ ?_ ∅ fun _ _ =>
      ExtTreeSet.not_mem_empty⟩
  · intro ids intent hintent hfresh
    obtain ⟨e, he, rfl⟩ := mem_map.mp hintent
    simp only [checkIntent, ok_iff, (h e.1 e.2 (hget e he)).2, hfresh, not_false_eq_true, true_and]
  · intro ids a _ b _ hfresh hne
    rw [mem_insertSet_iff, not_or]
    exact ⟨hne.symm, hfresh⟩
  · rw [pairwise_map]
    refine (distinct_toList outbox).imp_of_mem fun {a b} ha hb hne => ?_
    rw [(h a.1 a.2 (hget a ha)).1, (h b.1 b.2 (hget b hb)).1]
    exact hne

/-! ## Local actions -/

namespace LocalActionRegistry

variable {r r' : LocalActionRegistry}

/-- An entry that `bind_server_catalog` takes. -/
def Bindable (entry : LocalActionCatalogEntry) : Prop :=
  entry.version ≠ 0 ∧ replayPolicy entry.kind entry.version = .ok entry.replayPolicy ∧
    ¬ (entry.risk = .production ∧ entry.replayPolicy ≠ .neverAssumeRetrySafe)

theorem bindEntry_eq_ok {catalog catalog' entry} :
    bindEntry catalog entry = .ok catalog' ↔
      Bindable entry ∧ entry.key ∉ catalog ∧ catalog' = catalog.insert entry.key entry := by
  simp only [bindEntry, ok_iff, Bindable]
  constructor
  · rintro ⟨hver, policy, hpolicy, rfl, hrisk, hfresh, hcatalog⟩
    exact ⟨⟨hver, hpolicy, hrisk⟩, hfresh, hcatalog⟩
  · rintro ⟨⟨hver, hpolicy, hrisk⟩, hfresh, hcatalog⟩
    exact ⟨hver, _, hpolicy, rfl, hrisk, hfresh, hcatalog⟩

/-- The catalog is one that the portal can bind, and every state is that of a request that was
seen, of which there are no more than the bound. -/
structure Sound [UuidExternals] (r : LocalActionRegistry) : Prop where
  catalog : ∀ k entry, r.catalog[k]? = some entry → entry.key = k ∧ Bindable entry
  catalogBounded : r.catalog.size ≤ maxLocalActionCatalog
  states : ∀ key state, r.states[key]? = some state →
    UuidExternals.text state.requestId.payload = key ∧ key ∈ r.seen
  seen : ∀ id ∈ r.seen, trim id ≠ ""
  statesBounded : r.states.size ≤ r.seen.size
  bounded : r.seen.size ≤ maxLocalActionSeen

variable [UuidExternals]

theorem sound_new : Sound new := by
  refine ⟨?_, by decide, ?_, ?_, by decide, by decide⟩
  · intro k entry h
    simp [new] at h
  · intro key state h
    simp [new] at h
  · intro id h
    simp [new] at h

theorem Sound.bindServerCatalog (h : r.Sound) {entries : List LocalActionCatalogEntry}
    (hok : r.bindServerCatalog entries = .ok r') : r'.Sound := by
  simp only [LocalActionRegistry.bindServerCatalog, ok_iff, not_lt] at hok
  obtain ⟨hbound, catalog, hfold, rfl⟩ := hok
  refine ⟨?_, ?_, h.states, h.seen, h.statesBounded, h.bounded⟩
  · refine foldlM_invariant (P := fun catalog : ExtTreeMap CatalogKey LocalActionCatalogEntry =>
      ∀ k entry, catalog[k]? = some entry → entry.key = k ∧ Bindable entry) ?_ ?_ hfold
    · intro entry _ catalog catalog' hcatalog hentry
      obtain ⟨hbind, -, rfl⟩ := bindEntry_eq_ok.mp hentry
      exact forall_insert (P := fun k (e : LocalActionCatalogEntry) => e.key = k ∧ Bindable e)
        ⟨rfl, hbind⟩ hcatalog
    · intro k entry hget
      simp at hget
  · have hsize := size_foldlM_insert_le (f := bindEntry) (fun catalog entry catalog' hentry =>
      (bindEntry_eq_ok.mp hentry).2.2) hfold
    show catalog.size ≤ _
    simp only [size_empty] at hsize
    omega

variable {state : LocalActionAdmissionState}

theorem Sound.setState (h : r.Sound) {key state'}
    (hold : r.states[key]? = some state) (hid : state'.requestId = state.requestId) :
    Sound { r with states := r.states.insert key state' } := by
  obtain ⟨htext, hseen⟩ := h.states key state hold
  refine ⟨h.catalog, h.catalogBounded, ?_, h.seen, ?_, h.bounded⟩
  · exact forall_insert (P := fun key (s : LocalActionAdmissionState) =>
      text s.requestId.payload = key ∧ key ∈ r.seen) ⟨hid ▸ htext, hseen⟩ h.states
  · show (r.states.insert key state').size ≤ _
    rw [size_insert_old hold]
    exact h.statesBounded

theorem Sound.admitWithState (h : r.Sound) {membership}
    {request} {localHostId} {localProject}
    {localFingerprint} {ownerApproved : Bool} {nowMs}
    (hok : r.admitWithState membership request localHostId localProject localFingerprint
      ownerApproved nowMs = .ok (state, r')) : r'.Sound := by
  simp only [LocalActionRegistry.admitWithState, ok_iff, not_le] at hok
  obtain ⟨-, policy, -, -, -, hnew, hroom, -, rfl⟩ := hok
  have hseenSize : (r.seen.insert (text request.requestId.payload)).size =
      r.seen.size + 1 := size_insertSet_new hnew
  refine ⟨h.catalog, h.catalogBounded, ?_, ?_, ?_, ?_⟩
  · refine forall_insert (P := fun key (s : LocalActionAdmissionState) =>
      text s.requestId.payload = key ∧ key ∈ r.seen.insert (text request.requestId.payload)) ?_ ?_
    · exact ⟨rfl, mem_insertSet_iff.mpr (.inl rfl)⟩
    · intro key s hget
      obtain ⟨htext, hseen⟩ := h.states key s hget
      exact ⟨htext, mem_insertSet_iff.mpr (.inr hseen)⟩
  · intro id hid
    rcases mem_insertSet_iff.mp hid with rfl | hid
    · exact trim_text _
    · exact h.seen id hid
  · have hstates := size_insert_le (t := r.states)
      (k := text request.requestId.payload) (v := admitted request.requestId policy)
    have hbound := h.statesBounded
    simp only [hseenSize]
    omega
  · simp only [hseenSize]
    exact hroom

theorem Sound.markUncertain (h : r.Sound) {requestId : LocalActionId}
    (hok : r.markUncertain requestId = .ok (state, r')) : r'.Sound := by
  simp only [LocalActionRegistry.markUncertain, ok_iff] at hok
  obtain ⟨old, hold, hok⟩ := hok
  split_ifs at hok
  · cases hok
    exact h.setState hold rfl
  · cases hok
    exact h

theorem Sound.reconcileRemoteState (h : r.Sound) {requestId admission outcome answer}
    (hok : r.reconcileRemoteState requestId admission outcome = .ok (answer, r')) : r'.Sound := by
  simp only [LocalActionRegistry.reconcileRemoteState, ok_iff] at hok
  obtain ⟨old, hold, -, hok⟩ := hok
  split_ifs at hok
  · cases hok
    exact h
  · cases hok
    exact h.setState hold rfl

theorem Sound.restore (h : r.Sound) :
    LocalActionRegistry.restore r.persistCatalog r.persistStates r.persistSeen = .ok r := by
  have hcatalog : r.persistCatalog.foldlM bindEntry ∅ = .ok r.catalog := by
    refine foldlM_insert_toList id Prod.snd fun k entry hget catalog hfresh => ?_
    obtain ⟨rfl, hbind⟩ := h.catalog k entry hget
    exact bindEntry_eq_ok.mpr ⟨hbind, hfresh, rfl⟩
  have hseen : r.persistSeen.foldlM restoreSeen ∅ = Except.ok r.seen := by
    refine foldlM_insertSet_toList fun id hid seen hfresh => ?_
    simp only [restoreSeen, ok_iff, h.seen id hid, hfresh, not_false_eq_true, true_and]
  have hstates : r.persistStates.foldlM restoreState (r.seen, ∅) = .ok (r.seen, r.states) := by
    refine foldlM_insert_toList (fun states => (r.seen, states)) Prod.snd
      fun key state hget states hfresh => ?_
    obtain ⟨rfl, hmem⟩ := h.states key state hget
    simp only [restoreState, ok_iff, hfresh, not_false_eq_true, true_and, insertSet_self hmem]
  have hbounds := h.bounded
  have hstatesBound := h.statesBounded
  have hlen : r.persistCatalog.length = r.catalog.size ∧ r.persistStates.length = r.states.size ∧
      r.persistSeen.length = r.seen.size := by
    simp [persistCatalog, persistStates, persistSeen, length_toList, ExtTreeSet.length_toList]
  simp only [LocalActionRegistry.restore, LocalActionRegistry.bindServerCatalog, ok_iff, not_lt,
    not_or, hlen]
  exact ⟨_, ⟨h.catalogBounded, _, hcatalog, rfl⟩, ⟨by omega, hbounds⟩, _, hseen, _, hstates,
    hbounds, rfl⟩

end LocalActionRegistry

/-! ## Evidence -/

namespace EvidenceIntake

variable [UuidExternals] {e e' : EvidenceIntake}

/-- The identifiers are those of bundles, and the signers are named and no more than the bound. -/
structure Sound (e : EvidenceIntake) : Prop where
  imported : ∀ id ∈ e.imported, UuidExternals.parse id ≠ none
  signers : ∀ signer ∈ e.trustedSigners, trim signer ≠ ""
  signersBounded : e.trustedSigners.size ≤ maxEvidenceLabels

theorem sound_new : Sound new := by
  refine ⟨?_, ?_, by decide⟩
  · intro id h
    simp [new] at h
  · intro signer h
    simp [new] at h

theorem Sound.trustSigner (h : e.Sound) {signer : String} (hok : e.trustSigner signer = .ok e') :
    e'.Sound := by
  simp only [EvidenceIntake.trustSigner, ok_iff, not_and_or, not_le] at hok
  obtain ⟨hnamed, hroom, rfl⟩ := hok
  refine ⟨h.imported, ?_, size_insertSet_bounded h.signersBounded hroom⟩
  intro other hother
  rcases mem_insertSet_iff.mp hother with rfl | hother
  · exact hnamed
  · exact h.signers other hother

theorem Sound.ingestForTenant [Externals] (h : e.Sound) {tenantId bundle draftId metadata}
    (hok : e.ingestForTenant tenantId bundle draftId = .ok (metadata, e')) : e'.Sound := by
  simp only [EvidenceIntake.ingestForTenant, ok_iff] at hok
  obtain ⟨_, -, -, -, -, rfl⟩ := hok
  refine ⟨?_, h.signers, h.signersBounded⟩
  intro id hid
  rcases mem_insertSet_iff.mp hid with rfl | hid
  · rw [parse_text]
    exact Option.some_ne_none _
  · exact h.imported id hid

theorem Sound.restore (h : e.Sound) (tenantId) (e2eRawAuthorized : Bool) :
    EvidenceIntake.restore e.imported.toList e.trustedSigners.toList tenantId e2eRawAuthorized =
        .ok e' ↔
      e.imported.size ≤ maxEvidenceLabels * 8 ∧
        e' = ⟨e.imported, e.trustedSigners, tenantId, e2eRawAuthorized⟩ := by
  have himported : e.imported.toList.foldlM restoreImported ∅ = Except.ok e.imported := by
    refine foldlM_insertSet_toList fun id hid imported hfresh => ?_
    simp only [restoreImported, ok_iff, h.imported id hid, hfresh, not_false_eq_true, true_and]
  have hsigners : e.trustedSigners.toList.foldlM restoreSigner ∅ = Except.ok e.trustedSigners := by
    refine foldlM_insertSet_toList fun signer hsig signers hfresh => ?_
    simp only [restoreSigner, ok_iff, h.signers signer hsig, hfresh, not_false_eq_true, true_and]
  have hbound := h.signersBounded
  simp only [EvidenceIntake.restore, himported, hsigners, ok_bind, ok_iff, ExtTreeSet.length_toList,
    not_or, not_lt, hbound, and_true]

end EvidenceIntake

/-! ## Prompts -/

/-- A version that a snapshot may bring. -/
def OrgPromptVersion.Acceptable [Externals] (version : OrgPromptVersion) : Prop :=
  ¬ (organizationPromptBodyLimitBytes < version.body.utf8ByteSize ∨
    organizationPromptBodyLimitBytes < version.title.utf8ByteSize ∨
    organizationPromptPageItemLimit < version.tags.length) ∧
    version.contentHashHex = hashBody version.body

namespace OrganizationPromptSnapshot

/-- What is checked of a snapshot whatever the host has of the prompts. -/
structure Acceptable [Externals] (snapshot : OrganizationPromptSnapshot) : Prop where
  revision : snapshot.revision ≠ 0
  bounded : ¬ (organizationPromptPageItemLimit < snapshot.prompts.length ∨
    organizationPromptPageItemLimit < snapshot.versions.length ∨
    organizationPromptPageItemLimit < snapshot.chains.length)
  versions : ∀ version ∈ snapshot.versions, version.Acceptable
  distinct : snapshot.versions.Pairwise fun a b => a.versionId ≠ b.versionId
  prompts : ∀ prompt ∈ snapshot.prompts, prompt.tenantId = snapshot.tenantId
  chains : ∀ chain ∈ snapshot.chains, chain.tenantId = snapshot.tenantId ∧
    chain.links.length ≤ organizationPromptPageItemLimit ∧
    ∀ entry ∈ chain.links.zipIdx, entry.1.position = entry.2

/-- The snapshot brings every version that it speaks of. -/
structure SelfContained (snapshot : OrganizationPromptSnapshot) : Prop where
  prompts : ∀ prompt ∈ snapshot.prompts, ∃ version ∈ snapshot.versions,
    version.versionId = prompt.currentVersionId ∧ version.promptId = prompt.promptId
  chains : ∀ chain ∈ snapshot.chains, ∀ link ∈ chain.links, ∃ version ∈ snapshot.versions,
    version.versionId = link.versionId

/-- The versions of a snapshot by their identifiers. -/
def byId (snapshot : OrganizationPromptSnapshot) : ExtTreeMap OrgPromptVersionId OrgPromptVersion :=
  OrdMap.insertAll ∅ (snapshot.versions.map fun version => (version.versionId, version))

end OrganizationPromptSnapshot

namespace OrganizationPromptProjection

variable [Externals] {p p' : OrganizationPromptProjection} {snapshot : OrganizationPromptSnapshot}

variable {version : OrgPromptVersion}

theorem checkVersion_eq_ok {earlier versions : ExtTreeMap OrgPromptVersionId OrgPromptVersion} :
    p.checkVersion earlier version = .ok versions ↔
      version.Acceptable ∧ (∀ existing ∈ p.versions[version.versionId]?, existing = version) ∧
        version.versionId ∉ earlier ∧ versions = earlier.insert version.versionId version := by
  simp only [checkVersion, ok_iff, OrgPromptVersion.Acceptable, not_exists, not_and, and_assoc]

theorem checkVersions_eq_ok {l : List OrgPromptVersion} :
    ∀ {earlier versions : ExtTreeMap OrgPromptVersionId OrgPromptVersion},
      l.foldlM p.checkVersion earlier = .ok versions ↔
        (∀ version ∈ l, version.Acceptable ∧
          (∀ existing ∈ p.versions[version.versionId]?, existing = version) ∧
            version.versionId ∉ earlier) ∧
          l.Pairwise (fun a b => a.versionId ≠ b.versionId) ∧
          versions = insertAll earlier (l.map fun version => (version.versionId, version)) := by
  induction l with
  | nil =>
    intro earlier versions
    simp [pure, Except.pure, eq_comm]
  | cons version l ih =>
    intro earlier versions
    simp only [foldlM_cons_ok, checkVersion_eq_ok, ih, forall_mem_cons, pairwise_cons,
      map_cons, insertAll_cons]
    constructor
    · rintro ⟨_, ⟨haccept, hsame, hnew, rfl⟩, hrest, hdist, rfl⟩
      refine ⟨⟨⟨haccept, hsame, hnew⟩, fun v hv => ?_⟩, ⟨fun v hv heq => ?_, hdist⟩, rfl⟩
      · obtain ⟨hv1, hv2, hv3⟩ := hrest v hv
        exact ⟨hv1, hv2, fun h => hv3 (mem_insert_iff.mpr (.inr h))⟩
      · exact (hrest v hv).2.2 (mem_insert_iff.mpr (.inl heq.symm))
    · rintro ⟨⟨⟨haccept, hsame, hnew⟩, hrest⟩, ⟨hfst, hdist⟩, rfl⟩
      refine ⟨_, ⟨haccept, hsame, hnew, rfl⟩, fun v hv => ?_, hdist, rfl⟩
      obtain ⟨hv1, hv2, hv3⟩ := hrest v hv
      refine ⟨hv1, hv2, fun h => ?_⟩
      rcases mem_insert_iff.mp h with heq | h
      · exact hfst v hv heq.symm
      · exact hv3 h

variable {membership : HostMembership}

theorem applyAuthoritativeSnapshot_acceptable
    {nowMs entitlementExpiresAtMs outcome}
    (hpre : ∀ previous ∈ p.acceptedSnapshot, previous.Acceptable)
    (h : p.applyAuthoritativeSnapshot membership snapshot nowMs entitlementExpiresAtMs =
      .ok (outcome, p')) :
    snapshot.Acceptable ∧ (p' = p ∨ p'.acceptedSnapshot = some snapshot) := by
  simp only [applyAuthoritativeSnapshot, ok_iff] at h
  obtain ⟨-, -, hrev, hbound, -, h⟩ := h
  by_cases hrepeated : p.snapshotRevision = snapshot.revision ∧ p.snapshotRevision ≠ 0
  · rw [if_pos hrepeated] at h
    by_cases hsame : p.acceptedSnapshot = some snapshot
    · rw [if_pos hsame] at h
      exact ⟨hpre snapshot hsame, .inl (Prod.mk.inj (Except.ok.inj h)).2.symm⟩
    · rw [if_neg hsame] at h
      cases h
  · rw [if_neg hrepeated] at h
    simp only [ok_iff, validatePromptSnapshot] at h
    obtain ⟨⟨versions, hver, hprompt, hchains⟩, -, rfl⟩ := h
    obtain ⟨hall, hdist, -⟩ := checkVersions_eq_ok.mp hver
    refine ⟨⟨hrev, hbound, fun v hv => (hall v hv).1, hdist, ?_, ?_⟩, .inr rfl⟩
    · intro prompt hprompts
      have hcheck := forM_eq_ok.mp hprompt prompt hprompts
      simp only [checkPrompt, ok_iff] at hcheck
      exact hcheck.1
    · intro chain hchain
      have hcheck := forM_eq_ok.mp hchains chain hchain
      simp only [checkChain, ok_iff, not_lt] at hcheck
      obtain ⟨htenant, hlen, hlinks⟩ := hcheck
      refine ⟨htenant, hlen, fun entry hentry => ?_⟩
      have hlink := forM_eq_ok.mp hlinks entry hentry
      simp only [checkChainLink, ok_iff] at hlink
      exact hlink.1

omit [Externals] in
theorem getElem?_byId (hdist : snapshot.versions.Pairwise fun a b => a.versionId ≠ b.versionId)
    {id : OrgPromptVersionId} :
    snapshot.byId[id]? = some version ↔ version ∈ snapshot.versions ∧ version.versionId = id := by
  have hmem : ∀ v, (id, v) ∈ snapshot.versions.map (fun version => (version.versionId, version)) ↔
      v ∈ snapshot.versions ∧ v.versionId = id := by
    intro v
    simp only [mem_map, Prod.mk.injEq]
    constructor
    · rintro ⟨v, hv, rfl, rfl⟩
      exact ⟨hv, rfl⟩
    · rintro ⟨hv, rfl⟩
      exact ⟨v, hv, rfl, rfl⟩
  have hkeys : (snapshot.versions.map fun version => (version.versionId, version)).Pairwise
      fun a b => a.1 ≠ b.1 := pairwise_map.mpr hdist
  constructor
  · intro h
    by_cases hany : ∃ v ∈ snapshot.versions, v.versionId = id
    · obtain ⟨v, hv, hid⟩ := hany
      have hget := getElem?_insertAll_mem hkeys ((hmem v).mpr ⟨hv, hid⟩) ∅
      have heq : some version = some v := h.symm.trans hget
      cases heq
      exact ⟨hv, hid⟩
    · have hnone : snapshot.byId[id]? = none := by
        unfold OrganizationPromptSnapshot.byId
        rw [getElem?_insertAll_not_mem fun v hv => hany ⟨v, (hmem v).mp hv⟩]
        exact getElem?_empty
      rw [hnone] at h
      cases h
  · intro h
    exact getElem?_insertAll_mem hkeys ((hmem version).mpr h) ∅

variable (haccept : snapshot.Acceptable)

include haccept

theorem checkPrompt_new {prompt : OrgPrompt} (hprompt : prompt ∈ snapshot.prompts) :
    new.checkPrompt snapshot snapshot.byId prompt = .ok () ↔
      ∃ version ∈ snapshot.versions, version.versionId = prompt.currentVersionId ∧
        version.promptId = prompt.promptId := by
  have hnew : ∀ id, new.versions[id]? = none := fun id =>
    getElem?_empty
  simp only [checkPrompt, ok_iff, hnew, haccept.prompts prompt hprompt, Option.or_none,
    getElem?_byId haccept.distinct, true_and, and_assoc]

theorem checkChain_new {chain : OrgPromptChain} (hchain : chain ∈ snapshot.chains) :
    new.checkChain snapshot snapshot.byId chain = .ok () ↔
      ∀ link ∈ chain.links, ∃ version ∈ snapshot.versions, version.versionId = link.versionId := by
  obtain ⟨htenant, hlen, hpos⟩ := haccept.chains chain hchain
  have hnever : ∀ id, id ∉ new.versions := fun id => not_mem_empty
  simp only [checkChain, ok_iff, not_lt, htenant, hlen, true_and, forM_eq_ok, checkChainLink,
    hnever, not_false_eq_true, and_true, mem_iff_exists, getElem?_byId haccept.distinct]
  constructor
  · intro h link hlink
    obtain ⟨i, hi, rfl⟩ := mem_iff_getElem.mp hlink
    have hentry : (chain.links[i], i) ∈ chain.links.zipIdx :=
      mem_zipIdx_iff_getElem?.mpr (getElem?_eq_getElem hi)
    exact (h _ hentry).2
  · intro h entry hentry
    exact ⟨hpos entry hentry, h entry.1 (fst_mem_of_mem_zipIdx hentry)⟩

theorem validatePromptSnapshot_new :
    new.validatePromptSnapshot snapshot = .ok () ↔ snapshot.SelfContained := by
  have hver : snapshot.versions.foldlM new.checkVersion ∅ = .ok snapshot.byId := by
    refine checkVersions_eq_ok.mpr ⟨fun v hv => ⟨haccept.versions v hv, ?_, ?_⟩,
      haccept.distinct, rfl⟩
    · intro existing hexisting
      have hnone : new.versions[v.versionId]? = none := getElem?_empty
      rw [hnone] at hexisting
      cases hexisting
    · exact not_mem_empty
  simp only [validatePromptSnapshot, hver, ok_bind, ok_iff, forM_eq_ok]
  constructor
  · rintro ⟨hprompt, hchains⟩
    exact ⟨fun prompt hprompts => (checkPrompt_new haccept hprompts).mp (hprompt prompt hprompts),
      fun chain hchain => (checkChain_new haccept hchain).mp (hchains chain hchain)⟩
  · rintro ⟨hprompt, hchains⟩
    exact ⟨fun prompt hprompts => (checkPrompt_new haccept hprompts).mpr (hprompt prompt hprompts),
      fun chain hchain => (checkChain_new haccept hchain).mpr (hchains chain hchain)⟩

theorem new_takes_iff (nowMs entitlementExpiresAtMs : Int64) :
    (∃ answer, new.applyAuthoritativeSnapshot membership snapshot nowMs entitlementExpiresAtMs =
        .ok answer) ↔
      membership.isEnrolled = true ∧ membership.role.canReadPublished = true ∧
        membership.tenantId = snapshot.tenantId ∧ snapshot.SelfContained := by
  have hfresh : ¬ snapshot.revision < new.snapshotRevision := Nat.not_lt_zero _
  have hunseen : ¬ (new.snapshotRevision = snapshot.revision ∧ new.snapshotRevision ≠ 0) :=
    fun h => h.2 rfl
  have hbound := haccept.bounded
  simp only [not_or] at hbound
  simp only [applyAuthoritativeSnapshot, ok_iff, not_or, Bool.not_eq_false, haccept.revision,
    hfresh, if_neg hunseen, validatePromptSnapshot_new haccept, not_false_eq_true, true_and]
  constructor
  · rintro ⟨_, ⟨henrol, hrole⟩, htenant, -, hself, -⟩
    exact ⟨henrol, hrole, htenant, hself⟩
  · rintro ⟨henrol, hrole, htenant, hself⟩
    exact ⟨_, ⟨henrol, hrole⟩, htenant, hbound, hself, rfl⟩

end OrganizationPromptProjection

end DevManager.Org
