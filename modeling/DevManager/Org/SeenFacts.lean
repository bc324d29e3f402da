import DevManager.Org.Calls
import DevManager.Org.OneToOne

/-!
# Facts that are answered as duplicates

A fact about a task is answered as a duplicate when one with its host, task and revision and
with its hash was taken before. While no live fact that was taken before the host left comes
again after that, and facts with one identity agree on the time of their unlinking, every
live fact that is answered is reflected in the links, and facts with one key describe one
link (`answered_facts_reflected`). The seen facts outlive the links
(`rejoined_host_misses_link`), and the hash leaves out the time of the unlinking.
-/

namespace DevManager.Org

open List Calls Option

/-! ## What the identity of a fact says -/

theorem toLeBytes32_inj {a b : UInt32} (h : toLeBytes32 a = toLeBytes32 b) : a = b := by
  have ha : a.toNat < 2 ^ 32 := a.toNat_lt
  have hb : b.toNat < 2 ^ 32 := b.toNat_lt
  exact UInt32.toNat_inj.mp (leBytes_inj 4 (by omega) (by omega) h)

theorem toLeBytesSigned_inj {a b : Int64} (h : toLeBytesSigned a = toLeBytesSigned b) : a = b := by
  have ha : a.toUInt64.toNat < 2 ^ 64 := a.toUInt64.toNat_lt
  have hb : b.toUInt64.toNat < 2 ^ 64 := b.toUInt64.toNat_lt
  have hword := UInt64.toNat_inj.mp (leBytes_inj 8 (by omega) (by omega) h)
  cases a
  cases b
  exact congrArg Int64.ofUInt64 hword

theorem EnrollmentState.tag_inj {a b : EnrollmentState} (h : a.tag = b.tag) : a = b := by
  cases a <;> cases b <;> first | rfl | cases h

theorem lenPrefixed_append {a b x y : List UInt8} (ha : a.length < 2 ^ 64) (hb : b.length < 2 ^ 64)
    (h : lenPrefixed a ++ x = lenPrefixed b ++ y) : a = b ∧ x = y := by
  simp only [lenPrefixed, append_assoc] at h
  obtain ⟨hlen, hrest⟩ := append_inj h (by simp [toLeBytes])
  have heq : a.length = b.length := leBytes_inj 8 (by omega) (by omega) hlen
  exact append_inj hrest heq

namespace ManagedTaskSnapshot

/-- The texts that the hash takes are no longer than a `String` can be. -/
structure Fits [UuidExternals] (snapshot : ManagedTaskSnapshot) : Prop where
  card : (asBytes snapshot.boardCardId.value).length < 2 ^ 64
  linkedBy : (asBytes snapshot.linkedBy).length < 2 ^ 64
  link : (asBytes (UuidExternals.text snapshot.linkId.payload)).length < 2 ^ 64
  tenant : (asBytes snapshot.tenantId.value).length < 2 ^ 64

theorem link_eq_of_identity [UuidExternals] {s t : ManagedTaskSnapshot} (hs : s.Fits) (ht : t.Fits)
    (hkey : t.seenKey = s.seenKey) (hbytes : t.identityBytes = s.identityBytes)
    (hunlinked : t.unlinkedAt = s.unlinkedAt) : linkFromSnapshot t = linkFromSnapshot s := by
  simp only [seenKey, PairKey.mk.injEq] at hkey
  obtain ⟨⟨hhost, htask⟩, hrev⟩ := hkey
  simp only [identityBytes, append_assoc, hhost, htask, hrev] at hbytes
  have hrest := append_cancel_left (append_cancel_left (append_cancel_left hbytes))
  obtain ⟨hcard, hrest⟩ := lenPrefixed_append ht.card hs.card hrest
  obtain ⟨htag, hrest⟩ := append_inj hrest rfl
  have hrest := append_cancel_left hrest
  obtain ⟨hpolicy, hrest⟩ := append_inj hrest (by simp [toLeBytes32])
  obtain ⟨hlinkedBy, hrest⟩ := lenPrefixed_append ht.linkedBy hs.linkedBy hrest
  obtain ⟨hlinkedAt, hrest⟩ := append_inj hrest (by simp [toLeBytesSigned, toLeBytes])
  obtain ⟨hlink, hrest⟩ := lenPrefixed_append ht.link hs.link hrest
  have hlast : lenPrefixed (asBytes t.tenantId.value) ++ [] =
      lenPrefixed (asBytes s.tenantId.value) ++ [] := by
    rw [hrest]
  have htenant := (lenPrefixed_append ht.tenant hs.tenant hlast).1
  have hid : t.linkId.payload = s.linkId.payload := by
    have htext := congrArg UuidExternals.parse (utf8_inj hlink)
    rw [UuidExternals.parse_text, UuidExternals.parse_text] at htext
    exact some.inj htext
  simp only [linkFromSnapshot, ManagedTaskLink.mk.injEq, and_true, true_and]
  exact ⟨hhost, htask, ExternalId.ext_value (utf8_inj hcard),
    EnrollmentState.tag_inj (List.cons.inj htag).1, hrev, toLeBytes32_inj hpolicy,
    utf8_inj hlinkedBy, toLeBytesSigned_inj hlinkedAt, hunlinked, OrgId.mk.injEq _ _ ▸ hid,
    ExternalId.ext_value (utf8_inj htenant)⟩

end ManagedTaskSnapshot

/-! ## Links that go on -/

namespace TaskLinkReducer

variable {r r' : TaskLinkReducer}

/-- The same link, no older. -/
structure Continues (link link' : ManagedTaskLink) : Prop where
  id : link'.linkId = link.linkId
  card : link'.boardCardId = link.boardCardId
  newer : link.portalRevision ≤ link'.portalRevision

theorem Continues.refl (link) : Continues link link := ⟨rfl, rfl, le_rfl⟩

/-- Every link of `r` goes on in `r'`. -/
def Extends (r r' : TaskLinkReducer) : Prop :=
  ∀ (k : HostTaskKey) link, r.byTask[k]? = some link →
    ∃ link', r'.byTask[k]? = some link' ∧ Continues link link'

theorem Extends.refl (r) : Extends r r :=
  fun _ link h => ⟨link, h, Continues.refl link⟩

theorem extends_insert {k : HostTaskKey} {link cards}
    (h : ∀ existing, r.byTask[k]? = some existing → Continues existing link) :
    Extends r ⟨r.byTask.insert k link, cards⟩ := by
  intro k' existing hstored
  refine OrdMap.exists_insert_related Continues.refl hstored fun hk => h existing ?_
  rw [hk]
  exact hstored

section

variable [Externals] [UuidExternals]

theorem applyPortalSnapshot_extends {membership : HostMembership} {snapshot}
    {outcome} (h : r.applyPortalSnapshot membership snapshot = .ok (outcome, r')) :
    Extends r r' := by
  rcases applyPortalSnapshot_eq_ok.mp h with
    ⟨hmakes, -, rfl⟩ | ⟨existing, hadv, -, rfl⟩ | ⟨-, -, rfl, -⟩
  · refine extends_insert fun existing hstored => ?_
    have hfst : r.byTask[(linkFromSnapshot snapshot).key]? = none := hmakes.first
    rw [hfst] at hstored
    cases hstored
  · refine extends_insert fun existing' hstored => ?_
    have hold : r.byTask[(linkFromSnapshot snapshot).key]? = some existing := hadv.stored
    obtain rfl : existing = existing' := some.inj (hold.symm.trans hstored)
    exact ⟨rfl, rfl, hadv.newer.le⟩
  · exact Extends.refl _

theorem call_extends (r) (c : LinkCall) : Extends r (r.call c).2 := by
  cases c with
  | link =>
    refine keeping_invariant (Extends.refl r) fun made r' hok => ?_
    obtain ⟨hlinkable, rfl, rfl⟩ := link_eq_ok.mp hok
    refine extends_insert fun existing hstored => ?_
    have hfst := hlinkable.2.2.1
    unfold get at hfst
    exact absurd (hstored.symm.trans hfst) (by simp)
  | unlink =>
    refine keeping_invariant (Extends.refl r) fun unlinked r' hok => ?_
    simp only [unlink, ok_iff] at hok
    obtain ⟨existing, hold, rfl, rfl⟩ := hok
    refine extends_insert fun existing' hstored => ?_
    obtain rfl : existing = existing' := some.inj (hold.symm.trans hstored)
    exact ⟨rfl, rfl, le_rfl⟩
  | close =>
    refine keeping_invariant (Extends.refl r) fun closed r' hok => ?_
    simp only [close, ok_iff] at hok
    obtain ⟨existing, hold, rfl, rfl⟩ := hok
    refine extends_insert fun existing' hstored => ?_
    obtain rfl : existing = existing' := some.inj (hold.symm.trans hstored)
    exact ⟨rfl, rfl, le_rfl⟩
  | recordTitleConflict hostId localTaskId localTitle portalTitle localRevision portalRevision =>
    show Extends r (r.recordTitleConflict hostId localTaskId localTitle portalTitle localRevision
      portalRevision).2
    unfold recordTitleConflict
    cases hold : r.get hostId localTaskId with
    | none => exact Extends.refl r
    | some existing =>
      have hret : ∀ conflict, Extends r ⟨r.byTask.insert ⟨hostId, localTaskId⟩
          { existing with titleConflict := conflict }, r.byCard⟩ := by
        refine fun conflict => extends_insert fun existing' hstored => ?_
        obtain rfl : existing = existing' := some.inj (hold.symm.trans hstored)
        exact ⟨rfl, rfl, le_rfl⟩
      simp only
      split_ifs
      · exact hret none
      · exact Extends.refl r
      · exact hret _
  | applyPortalSnapshot =>
    exact keeping_invariant (Extends.refl r) fun _ _ hok => applyPortalSnapshot_extends hok

end

/-- The task of the fact has its link, no older than the fact. -/
def Reflects (r : TaskLinkReducer) (snapshot : ManagedTaskSnapshot) : Prop :=
  ∃ link, r.get snapshot.hostId snapshot.localTaskId = some link ∧ link.linkId = snapshot.linkId ∧
    link.boardCardId = snapshot.boardCardId ∧ snapshot.portalRevision ≤ link.portalRevision

variable {snapshot : ManagedTaskSnapshot}

theorem Reflects.extends (h : r.Reflects snapshot)
    (hext : Extends r r') : r'.Reflects snapshot := by
  obtain ⟨link, hlink, hid, hcard, hrev⟩ := h
  obtain ⟨link', hlink', hcont⟩ := hext _ link hlink
  exact ⟨link', hlink', hcont.id.trans hid, hcont.card.trans hcard, hrev.trans hcont.newer⟩

theorem Reflects.congr {s t : ManagedTaskSnapshot} (ht : r.Reflects t)
    (hsame : linkFromSnapshot t = linkFromSnapshot s) : r.Reflects s := by
  simp only [linkFromSnapshot, ManagedTaskLink.mk.injEq] at hsame
  obtain ⟨hhost, htask, hcard, -, -, hrev, -, -, -, -, hid, -⟩ := hsame
  obtain ⟨link, hlink, hlinkId, hlinkCard, hnewer⟩ := ht
  rw [hhost, htask] at hlink
  exact ⟨link, hlink, hlinkId.trans hid, hlinkCard.trans hcard, hrev ▸ hnewer⟩

theorem applyPortalSnapshot_reflects [Externals] [UuidExternals] {membership : HostMembership}
     {outcome} (h : r.applyPortalSnapshot membership snapshot = .ok (outcome, r'))
    (hlive : Live snapshot.enrollmentState) : r'.Reflects snapshot := by
  have hins : ∀ (link : ManagedTaskLink) cards,
      get ⟨r.byTask.insert (linkFromSnapshot snapshot).key link, cards⟩ snapshot.hostId
        snapshot.localTaskId = some link := by
    intro link cards
    unfold get
    rw [OrdMap.getElem?_insert_eq]
    exact if_pos rfl
  rcases applyPortalSnapshot_eq_ok.mp h with
    ⟨-, -, rfl⟩ | ⟨existing, hadv, -, rfl⟩ |
      ⟨-, -, rfl, ⟨-, hgone⟩ | ⟨existing, hstored, hsame, hequal, -⟩⟩
  · exact ⟨_, hins _ _, rfl, rfl, le_rfl⟩
  · exact ⟨_, hins _ _, hadv.same.1, hadv.same.2.1, le_rfl⟩
  · exact absurd hlive hgone
  · exact ⟨existing, hstored, hsame.1, hsame.2.1, hequal.le⟩

end TaskLinkReducer

namespace OrganizationProjection

variable [Externals] [UuidExternals] {p p' : OrganizationProjection} {c : OrgCall}
    {reply : OrgReply}

/-- The fact about a task that a call brings. -/
def OrgCall.snapshot : OrgCall → Option ManagedTaskSnapshot
  | .applyAuthoritativeFact (.managedTask snapshot) _ => some snapshot
  | _ => none

/-- The call runs `unenroll_offline`: the owner leaves, or a fact says that the host has left. -/
def Leaves (p : OrganizationProjection) : OrgCall → Prop
  | .unenrollOffline _ => p.membership ≠ none
  | .applyAuthoritativeFact (.membership fact) nowMs =>
    isOk (p.reconcileMembershipFact fact nowMs) = true ∧
      p.membershipRevision ≠ some fact.revision ∧ fact.status = .unenrolled ∧
      ¬ fact.Expires nowMs ∧ p.membership ≠ none
  | _ => False

instance (p : OrganizationProjection) (c : OrgCall) : Decidable (p.Leaves c) := by
  cases c with
  | unenrollOffline => exact inferInstanceAs (Decidable (_ ≠ none))
  | applyAuthoritativeFact fact nowMs =>
    cases fact with
    | membership => exact inferInstanceAs (Decidable (_ ∧ _))
    | managedTask => exact inferInstanceAs (Decidable False)
  | _ => exact inferInstanceAs (Decidable False)

omit [Externals] [UuidExternals] in
theorem afterFact_seenFacts (fact) (nowMs : Int64) :
    (p.afterFact fact nowMs).seenFacts = p.seenFacts := by
  unfold afterFact
  split_ifs
  · rfl
  · cases fact.status with
    | revoked => rfl
    | unenrolled =>
      show (p.unenroll nowMs).seenFacts = _
      unfold unenroll
      cases p.mode <;> rfl
    | pendingLocalConfirm =>
      show p.suspend.seenFacts = _
      unfold suspend
      cases p.mode <;> rfl
    | enrolled =>
      show p.acknowledge.seenFacts = _
      unfold acknowledge
      cases p.mode <;> rfl

omit [Externals] [UuidExternals] in
theorem afterFact_links (fact) (nowMs : Int64)
    (h : ¬ (fact.status = .unenrolled ∧ ¬ fact.Expires nowMs ∧ p.membership ≠ none)) :
    (p.afterFact fact nowMs).links = p.links := by
  unfold afterFact
  split_ifs with hexp
  · rfl
  · cases hstatus : fact.status with
    | revoked => rfl
    | unenrolled =>
      have hmem : p.membership = none := by
        by_contra hsome
        exact h ⟨hstatus, hexp, hsome⟩
      show (p.unenroll nowMs).links = _
      unfold unenroll
      unfold membership at hmem
      cases hmode : p.mode with
      | hostEnrolled membership => simp [hmode] at hmem
      | anonymousLocal => rfl
      | connectSignedIn => rfl
    | pendingLocalConfirm =>
      show p.suspend.links = _
      unfold suspend
      cases p.mode <;> rfl
    | enrolled =>
      show p.acknowledge.links = _
      unfold acknowledge
      cases p.mode <;> rfl

theorem attempt_keeps (hnone : c.snapshot = none) (h : p.attempt c = .ok (reply, p')) :
    p'.seenFacts = p.seenFacts ∧ (¬ p.Leaves c → p.links.Extends p'.links) := by
  by_cases henrol : c.Enrolling
  swap
  · have hframe := attempt_frame henrol h
    refine ⟨hframe.seen, fun _ => ?_⟩
    rcases hframe.links with hlinks | ⟨change, -, -, hlinks⟩
    · rw [hlinks]
      exact TaskLinkReducer.Extends.refl _
    · rw [hlinks]
      exact TaskLinkReducer.call_extends _ _
  have hsame : p'.links = p.links → p.links.Extends p'.links := by
    intro hlinks
    rw [hlinks]
    exact TaskLinkReducer.Extends.refl _
  cases c with
  | signIn account =>
    cases h
    unfold signIn
    split_ifs <;> exact ⟨rfl, fun _ => TaskLinkReducer.Extends.refl _⟩
  | confirmEnrollment =>
    obtain ⟨-, _, h⟩ := done_eq_ok.mp h
    simp only [confirmEnrollment, bind_eq_ok, pure_eq_ok, Prod.mk.injEq] at h
    obtain ⟨_, -, _, -, -, rfl⟩ := h
    exact ⟨rfl, fun _ => hsame rfl⟩
  | unenrollOffline nowMs =>
    obtain ⟨p'', hleft, hp⟩ := map_eq_ok.mp h
    cases hp
    obtain ⟨membership, hmode, rfl⟩ := unenrollOffline_eq_ok.mp hleft
    refine ⟨rfl, fun hstays => absurd ?_ hstays⟩
    simp [Leaves, OrganizationProjection.membership, hmode]
  | applyAuthoritativeFact fact nowMs =>
    obtain ⟨outcome, -, h⟩ := replied_eq_ok.mp h
    simp only [applyAuthoritativeFact, bind_eq_ok, exists_unit] at h
    cases fact with
    | managedTask => cases hnone
    | membership fact =>
      rcases (reconcileMembershipFact_eq_ok.mp h.2).2.2 with
        ⟨-, -, -, rfl⟩ | ⟨hrev, -, -, rfl⟩
      · exact ⟨rfl, fun _ => hsame rfl⟩
      · refine ⟨afterFact_seenFacts fact nowMs, fun hstays => hsame (afterFact_links fact nowMs ?_)⟩
        exact fun hleft => hstays ⟨isOk_eq_true.mpr ⟨_, h.2⟩, hrev, hleft⟩
  | _ => exact absurd henrol id

end OrganizationProjection

/-! ## A run -/

/-- A projection, the facts about tasks that it has answered, and those of them that it answered
before the host last left. -/
structure FactHistory where
  org : OrganizationProjection
  accepted : List ManagedTaskSnapshot
  left : List ManagedTaskSnapshot

namespace FactHistory

open OrganizationProjection TaskLinkReducer

/-- Nothing has happened. -/
def start : FactHistory := ⟨standalone, [], []⟩

section Run

variable [Externals] [UuidExternals]

/-- One call on the projection, with what it adds to the history. -/
def call (h : FactHistory) (c : OrgCall) : Except OrgError OrgReply × FactHistory :=
  let answer := h.org.call c
  (answer.1,
    { org := answer.2
      accepted := if isOk answer.1 = true then c.snapshot.toList ++ h.accepted else h.accepted
      left := if h.org.Leaves c then h.accepted else h.left })

/-- The facts have one key and one hash. -/
def SameIdentity (t s : ManagedTaskSnapshot) : Prop :=
  t.seenKey = s.seenKey ∧ t.identityHash = s.identityHash

instance (t s : ManagedTaskSnapshot) : Decidable (SameIdentity t s) :=
  inferInstanceAs (Decidable (_ ∧ _))

/-- A live fact that was answered before the host last left does not come again, and a fact has the
time of unlinking of the facts with its identity. -/
structure Clean (h : FactHistory) (c : OrgCall) : Prop where
  fresh : ∀ s ∈ c.snapshot, Live s.enrollmentState → ∀ t ∈ h.left, ¬ SameIdentity t s
  agrees : ∀ s ∈ c.snapshot, ∀ t ∈ h.accepted, SameIdentity t s → t.unlinkedAt = s.unlinkedAt

/-- The texts of a fact fit, and its hash is that of no other fact that was answered. -/
structure Distinct (h : FactHistory) (c : OrgCall) : Prop where
  fits : ∀ s ∈ c.snapshot, s.Fits
  unshared : ∀ s ∈ c.snapshot, ∀ t ∈ h.accepted, t.identityHash = s.identityHash →
    t.identityBytes = s.identityBytes

/-- The facts that were answered are those that are seen, one link for each key, and the live ones
are reflected unless the host has left since. -/
structure Recorded (h : FactHistory) : Prop where
  seen : ∀ s ∈ h.accepted, h.org.seenFacts[s.seenKey]? = some s.identityHash
  origin : ∀ k hash, h.org.seenFacts[k]? = some hash →
    ∃ s ∈ h.accepted, s.seenKey = k ∧ s.identityHash = hash
  fits : ∀ s ∈ h.accepted, s.Fits
  before : ∀ s ∈ h.left, s ∈ h.accepted
  agree : ∀ s ∈ h.accepted, ∀ t ∈ h.accepted, t.seenKey = s.seenKey →
    linkFromSnapshot t = linkFromSnapshot s
  reflected : ∀ s ∈ h.accepted, Live s.enrollmentState →
    (∃ t ∈ h.left, SameIdentity t s) ∨ h.org.links.Reflects s

theorem recorded_start : Recorded start := by
  refine ⟨?_, ?_, ?_, ?_, ?_, ?_⟩
  · simp [start]
  · intro k hash hk
    simp [start, standalone] at hk
  all_goals simp [start]

variable {h : FactHistory} {s : ManagedTaskSnapshot}

theorem same_link {t : ManagedTaskSnapshot} {nowMs} (hr : Recorded h)
    (hclean : Clean h (.applyAuthoritativeFact (.managedTask s) nowMs))
    (hdist : Distinct h (.applyAuthoritativeFact (.managedTask s) nowMs))
    (ht : t ∈ h.accepted) (hsame : SameIdentity t s) : linkFromSnapshot t = linkFromSnapshot s :=
  ManagedTaskSnapshot.link_eq_of_identity (hdist.fits s rfl) (hr.fits t ht) hsame.1
    (hdist.unshared s rfl t ht hsame.2) (hclean.agrees s rfl t ht hsame)

theorem Recorded.answered {nowMs : Int64} {outcome p'} (hr : Recorded h)
    (hclean : Clean h (.applyAuthoritativeFact (.managedTask s) nowMs))
    (hdist : Distinct h (.applyAuthoritativeFact (.managedTask s) nowMs))
    (hok : h.org.applyManagedTask s = .ok (outcome, p')) :
    Recorded ⟨p', s :: h.accepted, h.left⟩ ∧ (Live s.enrollmentState → p'.links.Reflects s) := by
  have hfits : ∀ t ∈ s :: h.accepted, t.Fits :=
    forall_mem_cons.mpr ⟨hdist.fits s rfl, hr.fits⟩
  have hpre : ∀ t ∈ h.left, t ∈ s :: h.accepted := fun t ht =>
    mem_cons_of_mem s (hr.before t ht)
  rcases applyManagedTask_eq_ok.mp hok with
    ⟨hseen, -, rfl⟩ | ⟨hunseen, -, membership, links, -, hlinks, rfl⟩
  · obtain ⟨t, ht, hident⟩ := hr.origin _ _ hseen
    have hlink := same_link hr hclean hdist ht hident
    have hreflects : Live s.enrollmentState → h.org.links.Reflects s := by
      intro hlive
      have hstate : t.enrollmentState = s.enrollmentState :=
        congrArg ManagedTaskLink.enrollmentState hlink
      rcases hr.reflected t ht (hstate ▸ hlive) with ⟨t', ht', hsame⟩ | hreflected
      · exact absurd ⟨hsame.1.trans hident.1, hsame.2.trans hident.2⟩
          (hclean.fresh s rfl hlive t' ht')
      · exact hreflected.congr hlink
    have hagree : ∀ t ∈ h.accepted, t.seenKey = s.seenKey →
        linkFromSnapshot t = linkFromSnapshot s := by
      intro t ht hkey
      have hhash := hr.seen t ht
      rw [hkey, hseen] at hhash
      exact same_link hr hclean hdist ht ⟨hkey, (some.inj hhash).symm⟩
    refine ⟨⟨forall_mem_cons.mpr ⟨hseen, hr.seen⟩, ?_, hfits, hpre, ?_, ?_⟩, hreflects⟩
    · intro k hash hk
      obtain ⟨t', ht', hsame⟩ := hr.origin k hash hk
      exact ⟨t', mem_cons_of_mem s ht', hsame⟩
    · refine forall_mem_cons.mpr ⟨forall_mem_cons.mpr ⟨fun _ => rfl, hagree⟩, ?_⟩
      exact fun a ha => forall_mem_cons.mpr
        ⟨fun hkey => (hagree a ha hkey.symm).symm, hr.agree a ha⟩
    · exact forall_mem_cons.mpr ⟨fun hlive => .inr (hreflects hlive), hr.reflected⟩
  · have hother : ∀ t ∈ h.accepted, s.seenKey ≠ t.seenKey := by
      intro t ht hkey
      have hseen := hr.seen t ht
      rw [← hkey, hunseen] at hseen
      cases hseen
    have hreflects : Live s.enrollmentState → links.Reflects s :=
      applyPortalSnapshot_reflects hlinks
    refine ⟨⟨forall_mem_cons.mpr ⟨?_, ?_⟩, ?_, hfits, hpre, ?_, ?_⟩, hreflects⟩
    · exact (OrdMap.getElem?_insert_eq ..).trans (if_pos rfl)
    · intro t ht
      exact (OrdMap.getElem?_insert_eq ..).trans ((if_neg (hother t ht)).trans (hr.seen t ht))
    · refine OrdMap.forall_insert (P := fun k hash =>
        ∃ t ∈ s :: h.accepted, t.seenKey = k ∧ t.identityHash = hash) ?_ ?_
      · exact ⟨s, .head _, rfl, rfl⟩
      · intro k hash hk
        obtain ⟨t, ht, hsame⟩ := hr.origin k hash hk
        exact ⟨t, mem_cons_of_mem s ht, hsame⟩
    · refine forall_mem_cons.mpr ⟨forall_mem_cons.mpr ⟨fun _ => rfl, ?_⟩, ?_⟩
      · exact fun t ht hkey => absurd hkey.symm (hother t ht)
      · exact fun a ha => forall_mem_cons.mpr
          ⟨fun hkey => absurd hkey (hother a ha), hr.agree a ha⟩
    · refine forall_mem_cons.mpr ⟨fun hlive => .inr (hreflects hlive), ?_⟩
      exact fun t ht hlive => (hr.reflected t ht hlive).imp_right fun hreflected =>
        hreflected.extends (applyPortalSnapshot_extends hlinks)

theorem Recorded.kept {c : OrgCall} (hr : Recorded h) (hnone : c.snapshot = none) :
    Recorded (h.call c).2 := by
  have hacc : (h.call c).2.accepted = h.accepted := by
    show (if isOk (h.org.call c).1 = true then c.snapshot.toList ++ h.accepted else h.accepted) = _
    rw [hnone]
    split_ifs <;> rfl
  have horg : (h.org.call c).2.seenFacts = h.org.seenFacts ∧
      (¬ h.org.Leaves c → h.org.links.Extends (h.org.call c).2.links) :=
    keeping_invariant ⟨rfl, fun _ => Extends.refl _⟩ fun _ _ hok => attempt_keeps hnone hok
  obtain ⟨hseenFacts, hext⟩ := horg
  refine ⟨?_, ?_, ?_, ?_, ?_, ?_⟩
  · intro s hs
    rw [hacc] at hs
    exact (congrArg (fun m => m[s.seenKey]?) hseenFacts).trans (hr.seen s hs)
  · intro k hash hk
    rw [hacc]
    exact hr.origin k hash ((congrArg (fun m => m[k]?) hseenFacts).symm.trans hk)
  · rw [hacc]
    exact hr.fits
  · rw [hacc]
    show ∀ s ∈ (if h.org.Leaves c then h.accepted else h.left), s ∈ h.accepted
    split_ifs
    · exact fun s hs => hs
    · exact hr.before
  · rw [hacc]
    exact hr.agree
  · rw [hacc]
    intro s hs hlive
    show (∃ t ∈ (if h.org.Leaves c then h.accepted else h.left), SameIdentity t s) ∨ _
    split_ifs with hleaves
    · exact .inl ⟨s, hs, rfl, rfl⟩
    · exact (hr.reflected s hs hlive).imp_right fun hreflected =>
        hreflected.extends (hext hleaves)

theorem call_fact {h : FactHistory} {s nowMs} :
    (∃ outcome p', h.org.applyManagedTask s = .ok (outcome, p') ∧
      h.call (.applyAuthoritativeFact (.managedTask s) nowMs) =
        (.ok (.outcome outcome), ⟨p', s :: h.accepted, h.left⟩)) ∨
    ∃ error, h.call (.applyAuthoritativeFact (.managedTask s) nowMs) = (.error error, h) := by
  have htry : h.org.attempt (.applyAuthoritativeFact (.managedTask s) nowMs) =
      replied (failIf (h.org.mode = .anonymousLocal) .standaloneMode >>=
        fun _ => h.org.applyManagedTask s) := rfl
  have hleft : ¬ h.org.Leaves (.applyAuthoritativeFact (.managedTask s) nowMs) := id
  simp only [call, OrganizationProjection.call, htry, if_neg hleft]
  cases hans : failIf (h.org.mode = .anonymousLocal) OrgError.standaloneMode >>=
      fun _ => h.org.applyManagedTask s with
  | error => exact .inr ⟨_, rfl⟩
  | ok answer =>
    simp only [ok_iff] at hans
    exact .inl ⟨answer.1, answer.2, hans.2, rfl⟩

omit [Externals] [UuidExternals] in
theorem eq_of_snapshot {c : OrgCall} (hs : c.snapshot = some s) :
    ∃ nowMs, c = .applyAuthoritativeFact (.managedTask s) nowMs := by
  cases c with
  | applyAuthoritativeFact fact nowMs =>
    cases fact with
    | membership => cases hs
    | managedTask =>
      cases hs
      exact ⟨nowMs, rfl⟩
  | _ => cases hs

theorem Recorded.call {h : FactHistory} {c} (hr : Recorded h) (hclean : Clean h c)
    (hdist : Distinct h c) : Recorded (h.call c).2 := by
  cases hsnap : c.snapshot with
  | none => exact hr.kept hsnap
  | some s =>
    obtain ⟨nowMs, rfl⟩ := eq_of_snapshot hsnap
    rcases @call_fact _ _ h s nowMs with ⟨outcome, p', hok, hcall⟩ | ⟨error, hcall⟩
    · rw [hcall]
      exact (hr.answered hclean hdist hok).1
    · rw [hcall]
      exact hr

/-- What is promised of a call: a live fact that is answered is reflected, two facts that were
answered with one host, task and revision describe one link, and an error changes nothing. -/
structure Answered (h : FactHistory) (c : OrgCall) : Prop where
  reflected : ∀ s ∈ c.snapshot, isOk (h.call c).1 = true → Live s.enrollmentState →
    (h.call c).2.org.links.Reflects s
  agree : ∀ s ∈ (h.call c).2.accepted, ∀ t ∈ (h.call c).2.accepted, t.seenKey = s.seenKey →
    linkFromSnapshot t = linkFromSnapshot s
  unchanged : ∀ error, (h.call c).1 = .error error → (h.call c).2.org = h.org

/-- In every run in which no live fact that was answered before the host left comes again, and
facts with one identity have one time of unlinking, every answer keeps what it promises. -/
theorem answered_facts_reflected (calls : List OrgCall) (c : OrgCall)
    (hdistinct : Calls.Along call Distinct start (calls ++ [c]))
    (hclean : Calls.Along call Clean start (calls ++ [c])) :
    Answered (after call start calls) c := by
  obtain ⟨hdistinct, hdist', -⟩ := (along_append calls [c] start).mp hdistinct
  obtain ⟨hclean, hclean', -⟩ := (along_append calls [c] start).mp hclean
  have hr : Recorded (after call start calls) :=
    along_invariant (fun _ _ hr hc => hr.call hc.1 hc.2) calls recorded_start
      (along_and hclean hdistinct)
  refine ⟨?_, (hr.call hclean' hdist').agree, fun error h => keeping_error h⟩
  intro s hs hok hlive
  obtain ⟨nowMs, rfl⟩ := eq_of_snapshot hs
  rcases @call_fact _ _ (after call start calls) s nowMs with
    ⟨outcome, p', htaken, hcall⟩ | ⟨error, hcall⟩
  · rw [hcall]
    exact (hr.answered hclean' hdist' htaken).2 hlive
  · rw [hcall] at hok
    cases hok

end Run

/-! ## A host that leaves and joins again -/

section Samples

attribute [local instance] sampleExternals sampleUuid

def sampleOwner : ExternalAccount := ⟨sampleTenant, sampleAccount, none⟩

def samplePolicy : OrganizationPolicyDocument where
  revision := 1
  tenantId := sampleTenant
  allowedMetadataFields := []
  retentionMs := 86400000
  idleIntervalMs := 900000
  promptMaintainerAccounts := []
  contentHashHex := ""

def sampleFact : ManagedTaskSnapshot where
  hostId := ⟨1⟩
  localTaskId := ⟨1⟩
  boardCardId := sampleCard
  enrollmentState := .enrolled
  portalRevision := 1
  metadataPolicyVersion := 1
  linkedBy := "owner"
  linkedAt := 1
  unlinkedAt := none
  linkId := ⟨1⟩
  tenantId := sampleTenant
  portalTitle := none

def sampleJoin : List OrgCall :=
  [.signIn sampleOwner, .confirmEnrollment sampleMembership samplePolicy 1,
    .applyAuthoritativeFact (.managedTask sampleFact) 1]

def sampleRepeat : OrgCall := .applyAuthoritativeFact (.managedTask sampleFact) 1

theorem sampleJoin_answered : Answered (after call start sampleJoin) sampleRepeat := by
  refine answered_facts_reflected sampleJoin sampleRepeat ?_ ?_
  · have hfits : sampleFact.Fits :=
      ⟨by decide +kernel, by decide +kernel, by decide +kernel, by decide +kernel⟩
    refine ⟨⟨?_, ?_⟩, ⟨?_, ?_⟩, ⟨?_, ?_⟩, ⟨?_, ?_⟩, trivial⟩
    all_goals first
      | decide +kernel
      | exact fun s hs => (by cases hs <;> exact hfits)
  · refine ⟨⟨?_, ?_⟩, ⟨?_, ?_⟩, ⟨?_, ?_⟩, ⟨?_, ?_⟩, trivial⟩
    all_goals decide +kernel

/-- The host leaves, joins again and is sent the fact again: it answers that it has it. -/
theorem rejoined_host_misses_link : ∃ calls c, ¬ Answered (after call start calls) c := by
  refine ⟨sampleJoin ++ [.unenrollOffline 2, .confirmEnrollment sampleMembership samplePolicy 3],
    .applyAuthoritativeFact (.managedTask sampleFact) 3, fun h => ?_⟩
  obtain ⟨link, hlink, -⟩ := h.reflected sampleFact rfl (by decide +kernel) (.inr rfl)
  have hnone : ((after call start (sampleJoin ++ [.unenrollOffline 2,
      .confirmEnrollment sampleMembership samplePolicy 3])).call
        (.applyAuthoritativeFact (.managedTask sampleFact) 3)).2.org.links.get sampleFact.hostId
          sampleFact.localTaskId = none := by
    decide +kernel
  rw [hnone] at hlink
  cases hlink

end Samples

end FactHistory

end DevManager.Org
