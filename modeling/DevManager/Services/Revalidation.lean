import DevManager.Services.Admitted

/-!
# Revalidation of admitted plans (`src/services/model.rs`)

A plan is revalidated before it is executed: the snapshot may have changed since it
was admitted. For a start and for closing a task, revalidation accepts exactly the
snapshots under which the plan would be admitted again. A stop looks only at the
members of the plan again, and not at the services that were at rest.
-/

namespace DevManager

open Std (ExtTreeMap ExtTreeSet)
open List ServicePlanItem TaskClosePlan

/-! ## Records and requesters -/

namespace AdmissionSnapshot

variable (snapshot : AdmissionSnapshot)

/-- The task of the requester is closing. -/
def closedTo : AdmissionRequester → Bool
  | .task taskId => snapshot.closingTasks.contains taskId
  | .host _ => false

variable {snapshot}

theorem closing_of_matches {requester : AdmissionRequester} {scope}
    (h : requesterMatchesScope requester scope = true) :
    snapshot.closing scope = snapshot.closedTo requester := by
  rcases expectedOwnership_of_matches h with ⟨taskId, rfl, rfl, _⟩ | ⟨hostId, rfl, rfl, _⟩
  · rfl
  · rfl

theorem closingOwner_of_expected {requester : AdmissionRequester} {scope}
    {ownership} (h : requesterMatchesScope requester scope = true)
    (howner : expectedOwnership scope requester = some ownership) :
    snapshot.closingOwner ownership = snapshot.closedTo requester := by
  rcases expectedOwnership_of_matches h with ⟨taskId, _, rfl, heq⟩ | ⟨hostId, _, rfl, heq⟩
  all_goals
    rw [heq] at howner
    cases howner
    rfl

end AdmissionSnapshot

namespace RuntimeRecord

/-- The record but for its operation. -/
structure Agrees (runtime next : RuntimeRecord) : Prop where
  fence : next.fence = runtime.fence
  ownership : next.ownership = runtime.ownership
  state : next.state = runtime.state

variable {runtime next : RuntimeRecord}

theorem Agrees.eq (h : runtime.Agrees next)
    (hop : next.operation = runtime.operation) : next = runtime := by
  cases runtime
  cases next
  obtain ⟨hfence, howned, hstate⟩ := h
  simp only at hfence howned hstate hop
  rw [hfence, howned, hstate, hop]

theorem agrees_of_capture {id : ServiceId}
    (h : ServiceFence.capture id runtime = .capture id next) (hstate : next.state = runtime.state) :
    runtime.Agrees next := by
  unfold ServiceFence.capture at h
  obtain ⟨state, ⟨generation, connection, action⟩, ownership, operation⟩ := runtime
  obtain ⟨state', ⟨generation', connection', action'⟩, ownership', operation'⟩ := next
  simp only [ServiceFence.mk.injEq, true_and] at h
  obtain ⟨rfl, rfl, rfl, rfl⟩ := h
  exact ⟨rfl, rfl, hstate⟩

theorem Agrees.capture (h : runtime.Agrees next) (id : ServiceId) :
    ServiceFence.capture id next = .capture id runtime := by
  unfold ServiceFence.capture
  rw [h.fence, h.ownership]

end RuntimeRecord

theorem ServicePlanItem.revalidate_eq_ok {item : ServicePlanItem} {snapshot}
    {rejectClosing allowStartCancellation : Bool} :
    item.revalidate snapshot rejectClosing allowStartCancellation = .ok () ↔
      (rejectClosing = true → snapshot.closing item.scope = false ∧
        snapshot.closingOwner item.fence.ownership = false) ∧
      ∃ runtime, snapshot.services[item.serviceId]? = some runtime ∧
        item.fence = .capture item.serviceId runtime ∧ runtime.state = item.expectedState ∧
          item.checkOperation runtime allowStartCancellation = .ok () := by
  have hfence : ∀ runtime, ¬ (item.fence.serviceId ≠ item.serviceId ∨
      runtime.fence.resourceGeneration ≠ item.fence.resourceGeneration ∨
      runtime.fence.connectionEpoch ≠ item.fence.connectionEpoch ∨
      runtime.fence.actionEpoch ≠ item.fence.actionEpoch ∨
      runtime.ownership ≠ item.fence.ownership ∨ runtime.state ≠ item.expectedState) ↔
        item.fence = .capture item.serviceId runtime ∧ runtime.state = item.expectedState := by
    intro runtime
    obtain ⟨id, ⟨fenceId, generation, connection, action, ownership⟩, state, scope⟩ := item
    simp only [ServiceFence.capture, ServiceFence.mk.injEq]
    constructor
    · intro h
      simp only [not_or, not_not] at h
      obtain ⟨h₁, h₂, h₃, h₄, h₅, h₆⟩ := h
      exact ⟨⟨h₁, h₂.symm, h₃.symm, h₄.symm, h₅.symm⟩, h₆⟩
    · rintro ⟨⟨h₁, h₂, h₃, h₄, h₅⟩, h₆⟩
      simp [h₁, h₂, h₃, h₄, h₅, h₆]
  unfold revalidate
  simp only [ok_iff, hfence]
  cases rejectClosing <;> simp [and_assoc]

namespace ServiceCatalog

variable {catalog : ServiceCatalog} {root : ServiceId} {requester : AdmissionRequester}
  {snapshot next : AdmissionSnapshot} {forceRoot : Bool}

open RuntimeRecord (agrees_of_capture checkIdle_eq_ok resting_eq_true)

open AdmissionSnapshot (closing_of_matches closingOwner_of_expected works_eq)

/-! ## Starts -/

variable {serviceId : ServiceId}

variable {ids : List ServiceId}

theorem startItems_started :
    ∀ {items : List StartPlanItem},
      catalog.startItems root requester snapshot forceRoot ids = .ok items →
      (∀ runtime, snapshot.services[root]? = some runtime → forceRoot = false →
        runtime.state ≠ .healthy) →
      items.map (·.serviceId) = ids ∧ ∀ item ∈ items, ∃ runtime definition,
        snapshot.services[item.serviceId]? = some runtime ∧
          Started catalog root requester item runtime definition := by
  induction ids with
  | nil =>
    intro items h _
    cases h
    simp
  | cons serviceId rest ih =>
    intro items h hroot
    unfold startItems at h
    simp only [ok_iff] at h
    obtain ⟨item, hitem, items', hitems, rfl⟩ := h
    obtain ⟨hids, hmem⟩ := ih hitems hroot
    obtain ⟨runtime, hrun, hcase⟩ := startItem_started hitem
    rcases hcase with ⟨_, rfl, hforce, hhealthy⟩ | ⟨member, definition, rfl, hid, hstart, -⟩
    · exact absurd hhealthy (hroot runtime hrun hforce)
    · rw [Option.toList_some, singleton_append, map_cons, hid, hids]
      refine ⟨rfl, fun other hother => ?_⟩
      rcases mem_cons.mp hother with rfl | hother
      · exact ⟨runtime, definition, hid ▸ hrun, hstart⟩
      · exact hmem other hother

theorem startItems_congr (h : ∀ id ∈ ids, next.services[id]? = snapshot.services[id]?) :
    catalog.startItems root requester next forceRoot ids =
      catalog.startItems root requester snapshot forceRoot ids := by
  induction ids with
  | nil => rfl
  | cons serviceId rest ih =>
    have hfst : catalog.startItem root requester next forceRoot serviceId =
        catalog.startItem root requester snapshot forceRoot serviceId := by
      unfold startItem
      rw [h serviceId mem_cons_self]
    unfold startItems
    rw [hfst, ih fun id hid => h id (mem_cons_of_mem serviceId hid)]

theorem mem_dependencyPlan (h : catalog.dependencyPlan root = .ok ids) : root ∈ ids := by
  have hvisited : root ∈
      (visitGraph catalog.services (catalog.services.size + 1) root .start).visited :=
    Dfs.mem_visit rfl
  rcases ((dependencyPlan_appends h).visited root).mp hvisited with h | h
  · exact absurd h (by simp [Dfs.Visit.start])
  · exact h

/-- What a start plan was admitted on. -/
structure StartAdmission (catalog : ServiceCatalog) (root : ServiceId)
    (requester : AdmissionRequester) (snapshot : AdmissionSnapshot) (forceRoot : Bool)
    (runtime : RuntimeRecord) (plan : StartPlan) (ids : List ServiceId) : Prop where
  sameRoot : plan.root = root
  sameRequester : plan.requester = requester
  idle : runtime.operation = none
  state : forceRoot = false → runtime.state ≠ .healthy
  order : catalog.dependencyPlan root = .ok ids
  items : catalog.startItems root requester snapshot forceRoot ids = .ok plan.ordered

variable {definition : ServiceDefinition} {runtime : RuntimeRecord} {plan : StartPlan}

theorem admitStart_admission
    (h : catalog.admitStart root definition runtime requester snapshot forceRoot = .start plan) :
    ∃ ids, StartAdmission catalog root requester snapshot forceRoot runtime plan ids := by
  unfold admitStart at h
  by_cases hunknown : runtime.state = .unknown
  · rw [if_pos hunknown] at h
    cases h
  rw [if_neg hunknown] at h
  split at h
  · cases h
  · cases hid : runtime.operation with
    | some operation =>
      rw [hid] at h
      simp only at h
      split_ifs at h
    | none =>
      rw [hid] at h
      simp only at h
      by_cases hrun :
          !forceRoot ∧ (runtime.state = .healthy ∨ runtime.state = .unhealthy)
      · rw [if_pos hrun] at h
        cases h
      rw [if_neg hrun] at h
      by_cases hstop : runtime.state = .unknown ∨ runtime.state = .stopping
      · rw [if_pos hstop] at h
        cases h
      rw [if_neg hstop] at h
      cases hplan : catalog.dependencyPlan root with
      | error error =>
        rw [hplan] at h
        cases h
      | ok ids =>
        rw [hplan] at h
        simp only at h
        cases hitems : catalog.startItems root requester snapshot forceRoot ids with
        | error rejection =>
          rw [hitems] at h
          cases h
        | ok ordered =>
          rw [hitems] at h
          cases h
          refine ⟨ids, rfl, rfl, hid, fun hforce hhealthy => hrun ?_, hplan, hitems⟩
          simp [hforce, hhealthy]

theorem StartAdmission.started
    (h : StartAdmission catalog root requester snapshot forceRoot runtime plan ids)
    (hroot : snapshot.services[root]? = some runtime) :
    plan.ordered.map (·.serviceId) = ids ∧ ∀ item ∈ plan.ordered, ∃ runtime definition,
      snapshot.services[item.serviceId]? = some runtime ∧
        Started catalog root requester item runtime definition := by
  refine startItems_started h.items fun record hrec hforce => ?_
  rw [hroot] at hrec
  cases hrec
  exact h.state hforce

theorem Started.validateItem {item} {runtime}
    {definition} (hroot : plan.root = root) (hreq : plan.requester = requester)
    (h : Started catalog root requester item runtime definition) :
    plan.validateItem catalog item = .ok () := by
  have hlaunch : ∃ intent, catalog.launchIntent item.serviceId = .ok intent := by
    unfold launchIntent
    simp only [ok_iff]
    exact ⟨_, definition, h.defined, rfl⟩
  obtain ⟨expected, hexp⟩ := hlaunch
  unfold StartPlan.validateItem
  simp only [ok_iff]
  refine ⟨definition, h.defined, ?_, expected, hexp, ?_⟩
  · rw [h.fence, h.scope, hreq, h.requested]
    simp [ServiceFence.capture]
  · rw [h.state, hroot]
    rcases h.intent with ⟨hnone, hne, hhealthy⟩ | ⟨intent, hintent, hsome, hcase⟩
    · exact .inr ⟨hnone, by simp [hne, hhealthy]⟩
    · rw [hexp] at hintent
      cases hintent
      exact .inl ⟨hsome, hcase.imp_right Or.inl⟩

/-- The records of the dependency plan are the same, the task of the requester is not closing. -/
def StartKept (catalog : ServiceCatalog) (root : ServiceId) (requester : AdmissionRequester)
    (snapshot next : AdmissionSnapshot) : Prop :=
  next.closedTo requester = false ∧ ∀ ids, catalog.dependencyPlan root = .ok ids →
    ∀ id ∈ ids, next.services[id]? = snapshot.services[id]?

theorem start_revalidate_iff (hdef : catalog.services[root]? = some definition)
    (hreq : requesterMatchesScope requester definition.scope = true)
    (hroot : snapshot.services[root]? = some runtime)
    (h : catalog.admitStart root definition runtime requester snapshot forceRoot = .start plan) :
    plan.revalidate catalog next = .ok () ↔ StartKept catalog root requester snapshot next := by
  obtain ⟨ids, hadmits⟩ := admitStart_admission h
  obtain ⟨hids, hmembers⟩ := hadmits.started hroot
  have hval : plan.validate catalog = .ok () := by
    unfold StartPlan.validate
    simp only [ok_iff, hadmits.sameRoot, hadmits.sameRequester]
    refine ⟨definition, hdef, by simp [hreq], ids, hadmits.order, hids, ?_⟩
    refine forM_eq_ok.mpr fun item hitem => ?_
    obtain ⟨record, other, _, hstart⟩ := hmembers item hitem
    exact hstart.validateItem hadmits.sameRoot hadmits.sameRequester
  have hitem : ∀ item ∈ plan.ordered, item.revalidate next = .ok () ↔
      next.closedTo requester = false ∧
        next.services[item.serviceId]? = snapshot.services[item.serviceId]? := by
    intro item hmem
    obtain ⟨record, other, hrec, hstart⟩ := hmembers item hmem
    have hscope : next.closing item.scope = next.closedTo requester := by
      rw [hstart.scope]
      exact closing_of_matches hstart.requested
    have howner : next.closedTo requester = false →
      next.closingOwner item.fence.ownership = false := by
      intro hopen
      have hownership : item.fence.ownership = record.ownership := by rw [hstart.fence]; rfl
      rw [hownership]
      rcases hstart.owner with hnone | howned
      · rw [hnone]
        rfl
      · exact (closingOwner_of_expected hstart.requested howned).trans hopen
    unfold StartPlanItem.revalidate
    rw [revalidate_eq_ok]
    simp only [checkOperation, Bool.false_eq_true, false_and, if_false,
      checkIdle_eq_ok, true_implies, hscope]
    constructor
    · rintro ⟨⟨hopen, _⟩, current, hcur, hfence, hstate, hidle⟩
      have hagrees : record.Agrees current :=
        agrees_of_capture (hstart.fence.symm.trans hfence)
          (hstate.trans hstart.state)
      rw [hcur, hrec, hagrees.eq (hidle.trans hstart.idle.symm)]
      exact ⟨hopen, rfl⟩
    · rintro ⟨hopen, hsame⟩
      refine ⟨⟨hopen, howner hopen⟩, record, hsame.trans hrec, hstart.fence,
        hstart.state.symm, hstart.idle⟩
  unfold StartPlan.revalidate
  simp only [ok_iff, hval, true_and, forM_eq_ok]
  constructor
  · intro hall
    have hmem : ∀ id ∈ ids, next.closedTo requester = false ∧
        next.services[id]? = snapshot.services[id]? := by
      intro id hid
      rw [← hids] at hid
      obtain ⟨item, hmem, rfl⟩ := mem_map.mp hid
      exact (hitem item hmem).mp (hall item hmem)
    refine ⟨(hmem root (mem_dependencyPlan hadmits.order)).1, fun ids' hplan id hid => ?_⟩
    rw [hadmits.order] at hplan
    cases hplan
    exact (hmem id hid).2
  · rintro ⟨hopen, hsame⟩ item hmem
    refine (hitem item hmem).mpr ⟨hopen, hsame ids hadmits.order item.serviceId ?_⟩
    rw [← hids]
    exact mem_map_of_mem hmem

theorem start_readmit_iff (hroot : snapshot.services[root]? = some runtime)
    (h : catalog.admitStart root definition runtime requester snapshot forceRoot = .start plan) :
    (next.closedTo requester = false ∧ ∃ current,
      next.services[root]? = some current ∧
        catalog.admitStart root definition current requester next forceRoot = .start plan) ↔
      StartKept catalog root requester snapshot next := by
  obtain ⟨ids, hadmits⟩ := admitStart_admission h
  obtain ⟨hids, hmembers⟩ := hadmits.started hroot
  constructor
  · rintro ⟨hopen, current, hcur, hagain⟩
    obtain ⟨ids', hadmits'⟩ := admitStart_admission hagain
    have hplans := hadmits'.order.symm.trans hadmits.order
    cases hplans
    obtain ⟨_, hmem'⟩ := hadmits'.started hcur
    refine ⟨hopen, fun ids' hplan id hid => ?_⟩
    rw [hadmits.order] at hplan
    cases hplan
    rw [← hids] at hid
    obtain ⟨item, hmem, rfl⟩ := mem_map.mp hid
    obtain ⟨record, _, hrec, hstart⟩ := hmembers item hmem
    obtain ⟨record', _, hrecord', hstart'⟩ := hmem' item hmem
    have hagrees : record.Agrees record' :=
      agrees_of_capture (hstart.fence.symm.trans hstart'.fence)
        (hstart'.state.symm.trans hstart.state)
    rw [hrec, hrecord', hagrees.eq (hstart'.idle.trans hstart.idle.symm)]
  · rintro ⟨hopen, hsame⟩
    have hkept := hsame ids hadmits.order
    refine ⟨hopen, runtime, (hkept root (mem_dependencyPlan hadmits.order)).trans hroot, ?_⟩
    rw [← h]
    unfold admitStart
    rw [hadmits.order]
    simp only [startItems_congr hkept]

/-! ## Stops -/

theorem Stopping.of_agrees {item} {runtime current}
    {definition} (h : Stopping catalog requester item runtime definition)
    (hagrees : runtime.Agrees current) : Stopping catalog requester item current definition where
  defined := h.defined
  fence := h.fence.trans (hagrees.capture item.serviceId).symm
  state := h.state.trans hagrees.state.symm
  scope := h.scope
  requested := h.requested
  owner := by
    have howner := h.owner
    rw [validateOwnership_eq_ok] at howner ⊢
    rw [hagrees.ownership, hagrees.state]
    exact howner
  works := by
    have hworks := h.works
    unfold RuntimeRecord.resting at hworks ⊢
    rw [hagrees.state]
    exact hworks
  still := by
    rw [hagrees.state]
    exact h.still

theorem expectedOrder_eq (selected : ExtTreeSet ServiceId) :
    StopPlan.expectedOrder catalog snapshot selected =
      (catalog.reverseSelectedOrder selected).filter snapshot.works := by
  unfold StopPlan.expectedOrder
  congr 1
  funext serviceId
  unfold AdmissionSnapshot.works
  congr 1
  funext runtime
  simp [RuntimeRecord.resting]

variable {id : ServiceId}

theorem mem_stopOrder (hroot : root ∈ catalog.services) :
    id ∈ catalog.reverseSelectedOrder (catalog.stopClosure root) ↔
      id ∈ catalog.stopClosure root := by
  obtain ⟨_, hsel, hcomplete⟩ := reverseSelectedOrder_spec catalog (catalog.stopClosure root)
  refine ⟨hsel id, fun hmem => hcomplete id hmem ?_⟩
  rcases mem_stopClosure.mp hmem with rfl | ⟨hser, _⟩
  · exact hroot
  · exact hser

theorem mem_stopClosure_self : root ∈ catalog.stopClosure root := mem_stopClosure.mpr (Or.inl rfl)

theorem checkCancellable_of_resting {runtime : RuntimeRecord} (hres : runtime.resting = true) :
    runtime.checkCancellable id = .ok () ↔ runtime.operation = none := by
  unfold RuntimeRecord.checkCancellable
  cases hop : runtime.operation with
  | none => simp
  | some operation =>
    rcases resting_eq_true.mp hres with hstate | hstate
    · simp [ActiveOperation.cancellable, hstate, failIf]
    · simp [ActiveOperation.cancellable, hstate, failIf]

/-- What the revalidation of a stop plan looks at. -/
structure StopHeld (catalog : ServiceCatalog) (root : ServiceId) (requester : AdmissionRequester)
    (next : AdmissionSnapshot) (plan : StopPlan) : Prop where
  known : ∀ id ∈ catalog.stopClosure root, ∃ current, next.services[id]? = some current
  order : plan.ordered.map (·.serviceId) =
    (catalog.reverseSelectedOrder (catalog.stopClosure root)).filter next.works
  members : ∀ item ∈ plan.ordered, next.closedTo requester = false ∧ ∃ current,
    next.services[item.serviceId]? = some current ∧
      item.fence = .capture item.serviceId current ∧ current.state = item.expectedState ∧
        current.checkCancellable item.serviceId = .ok ()

/-- The services of the stop closure are at rest as they were, or have the same records but for an
operation that can be cancelled; and the task of the requester is not closing while one works. -/
def StopKept (catalog : ServiceCatalog) (root : ServiceId) (requester : AdmissionRequester)
    (snapshot next : AdmissionSnapshot) : Prop :=
  ∀ id ∈ catalog.stopClosure root, ∃ runtime current,
    snapshot.services[id]? = some runtime ∧ next.services[id]? = some current ∧
      current.resting = runtime.resting ∧
        (runtime.resting = false → runtime.Agrees current ∧
          current.checkCancellable id = .ok () ∧ next.closedTo requester = false)

/-- The services of the stop closure that are at rest have no operation; and a root at rest has
failed, belongs to the requester, and its task is not closing. -/
def RestReady (catalog : ServiceCatalog) (root : ServiceId) (requester : AdmissionRequester)
    (next : AdmissionSnapshot) : Prop :=
  (∀ id ∈ catalog.stopClosure root, ∀ current, next.services[id]? = some current →
    current.resting = true → current.operation = none) ∧
  ∀ definition current,
    catalog.services[root]? = some definition → next.services[root]? = some current →
      current.resting = true → current.state = .failed ∧
        expectedOwnership definition.scope requester = some current.ownership ∧
          next.closedTo requester = false

variable {definition : ServiceDefinition} {runtime : RuntimeRecord} {plan : StopPlan}

theorem StopAdmission.members
    (h : StopAdmission catalog root requester snapshot definition runtime plan) :
    ∀ item ∈ plan.ordered, ∃ runtime definition, snapshot.services[item.serviceId]? = some runtime ∧
        Stopping catalog requester item runtime definition :=
  (stopItems_eq_ok.mp h.items).2.2

theorem stop_revalidate_held (hdef : catalog.services[root]? = some definition)
    (hreq : requesterMatchesScope requester definition.scope = true)
    (h : StopAdmission catalog root requester snapshot definition runtime plan) :
    plan.revalidate catalog next = .ok () ↔ StopHeld catalog root requester next plan := by
  have hitem : ∀ item ∈ plan.ordered, plan.validateItem catalog item = .ok () ∧
      (item.revalidate next true true = .ok () ↔ next.closedTo requester = false ∧
        ∃ current, next.services[item.serviceId]? = some current ∧
          item.fence = .capture item.serviceId current ∧ current.state = item.expectedState ∧
            current.checkCancellable item.serviceId = .ok ()) := by
    intro item hmem
    obtain ⟨record, other, hrec, hstop⟩ := h.members item hmem
    have howner := (validateOwnership_eq_ok.mp hstop.owner).2.2
    have hscope : next.closing item.scope = next.closedTo requester := by
      rw [hstop.scope]
      exact closing_of_matches hstop.requested
    have hclose : next.closingOwner item.fence.ownership = next.closedTo requester := by
      have howned : item.fence.ownership = record.ownership := by rw [hstop.fence]; rfl
      rw [howned]
      exact closingOwner_of_expected hstop.requested howner
    have hop : ∀ current, current.state = item.expectedState →
        (item.checkOperation current true = .ok () ↔
          current.checkCancellable item.serviceId = .ok ()) := by
      intro current hstate
      unfold checkOperation
      by_cases hstart : item.expectedState = .starting
      · rw [if_pos ⟨rfl, hstart⟩]
      · rw [if_neg (by simp [hstart]), checkIdle_eq_ok]
        unfold RuntimeRecord.checkCancellable
        cases current.operation with
        | none => simp
        | some operation => simp [ActiveOperation.cancellable, hstate, hstart, failIf]
    constructor
    · unfold StopPlan.validateItem
      simp only [ok_iff, h.sameRequester]
      refine ⟨other, hstop.defined, ?_⟩
      rw [hstop.fence, hstop.scope, hstop.requested]
      simp [ServiceFence.capture]
    · rw [revalidate_eq_ok, hscope, hclose]
      simp only [true_implies, and_self]
      refine and_congr_right fun _ => exists_congr fun current => ?_
      refine and_congr_right fun _ => and_congr_right fun _ => and_congr_right fun hstate => ?_
      exact hop current hstate
  unfold StopPlan.revalidate StopPlan.validate
  simp only [ok_iff, forM_eq_ok, h.sameRoot, h.sameRequester, expectedOrder_eq,
    ExtTreeSet.mem_toList, Bool.not_eq_false]
  constructor
  · rintro ⟨⟨_, _, _, hknown, hord, _⟩, hmembers⟩
    refine ⟨fun id hid => OrdMap.mem_iff_exists.mp (hknown id hid), hord, fun item hmem => ?_⟩
    exact (hitem item hmem).2.mp (hmembers item hmem)
  · intro hheld
    refine ⟨⟨definition, hdef, hreq, fun id hid => ?_, hheld.order, fun item hmem =>
      (hitem item hmem).1⟩, fun item hmem => (hitem item hmem).2.mpr (hheld.members item hmem)⟩
    exact OrdMap.mem_iff_exists.mpr (hheld.known id hid)

theorem stopHeld_iff_kept (hroot : root ∈ catalog.services)
    (h : StopAdmission catalog root requester snapshot definition runtime plan) :
    StopHeld catalog root requester next plan ↔ StopKept catalog root requester snapshot next := by
  obtain ⟨hchecks, hids, hmembers⟩ := stopItems_eq_ok.mp h.items
  have hknown : ∀ id ∈ catalog.stopClosure root, ∃ runtime,
      snapshot.services[id]? = some runtime := by
    intro id hid
    obtain ⟨runtime, hrun, _⟩ := hchecks id ((mem_stopOrder hroot).mpr hid)
    exact ⟨runtime, hrun⟩
  constructor
  · intro hheld id hid
    obtain ⟨runtime, hrun⟩ := hknown id hid
    obtain ⟨current, hcur⟩ := hheld.known id hid
    have hord := (mem_stopOrder hroot).mpr hid
    have hworks : next.works id = snapshot.works id := by
      rw [Bool.eq_iff_iff]
      have hnext : id ∈ (catalog.reverseSelectedOrder (catalog.stopClosure root)).filter
        next.works ↔ _ := mem_filter
      have hsnap : id ∈
          (catalog.reverseSelectedOrder (catalog.stopClosure root)).filter snapshot.works ↔ _ :=
        mem_filter
      rw [← hheld.order] at hnext
      rw [← hids] at hsnap
      tauto
    rw [works_eq hcur, works_eq hrun] at hworks
    refine ⟨runtime, current, hrun, hcur, by simpa using hworks, fun hres => ?_⟩
    have hmem : id ∈ plan.ordered.map (·.serviceId) := by
      rw [hids]
      exact mem_filter.mpr ⟨hord, by simp [works_eq hrun, hres]⟩
    obtain ⟨item, hitem, rfl⟩ := mem_map.mp hmem
    obtain ⟨record, _, hrec, hstop⟩ := hmembers item hitem
    obtain ⟨hopen, record', hrecord', hfence, hstate, hcheck⟩ := hheld.members item hitem
    rw [hrun] at hrec
    rw [hcur] at hrecord'
    cases hrec
    cases hrecord'
    exact ⟨agrees_of_capture (hstop.fence.symm.trans hfence)
      (hstate.trans hstop.state), hcheck, hopen⟩
  · intro hkept
    refine ⟨fun id hid => ?_, ?_, fun item hitem => ?_⟩
    · obtain ⟨_, current, _, hcur, _⟩ := hkept id hid
      exact ⟨current, hcur⟩
    · rw [hids]
      refine filter_congr fun id hid => ?_
      obtain ⟨runtime, current, hrun, hcur, hres, _⟩ :=
        hkept id ((mem_stopOrder hroot).mp hid)
      rw [works_eq hcur, works_eq hrun, hres]
    · have hid : item.serviceId ∈ catalog.stopClosure root := by
        have hmem : item.serviceId ∈ plan.ordered.map (·.serviceId) := mem_map_of_mem hitem
        rw [hids] at hmem
        exact (mem_stopOrder hroot).mp (mem_filter.mp hmem).1
      obtain ⟨runtime, current, hrun, hcur, _, hworks⟩ := hkept _ hid
      obtain ⟨record, _, hrec, hstop⟩ := hmembers item hitem
      rw [hrun] at hrec
      cases hrec
      obtain ⟨hagrees, hcheck, hopen⟩ := hworks hstop.works
      exact ⟨hopen, current, hcur, hstop.fence.trans (hagrees.capture _).symm,
        hagrees.state.trans hstop.state.symm, hcheck⟩

theorem stop_readmit_iff (hdefinition : catalog.services[root]? = some definition)
    (h : StopAdmission catalog root requester snapshot definition runtime plan) :
    (next.closedTo requester = false ∧ ∃ current,
      next.services[root]? = some current ∧
        StopAdmission catalog root requester next definition current plan) ↔
      StopHeld catalog root requester next plan ∧ RestReady catalog root requester next := by
  have hroot : root ∈ catalog.services := OrdMap.mem_iff_exists.mpr ⟨definition, hdefinition⟩
  constructor
  · rintro ⟨hopen, current, hcur, hagain⟩
    obtain ⟨hchecks, hids, hmembers⟩ := stopItems_eq_ok.mp hagain.items
    refine ⟨⟨fun id hid => ?_, hids, fun item hitem => ⟨hopen, ?_⟩⟩, fun id hid record hrec => ?_,
      fun definition' record hdef' hrec hres => ?_⟩
    · obtain ⟨record, hrec, _⟩ := hchecks id ((mem_stopOrder hroot).mpr hid)
      exact ⟨record, hrec⟩
    · obtain ⟨record, _, hrec, hstop⟩ := hmembers item hitem
      have hmem : item.serviceId ∈ plan.ordered.map (·.serviceId) := mem_map_of_mem hitem
      rw [hids] at hmem
      obtain ⟨record', hrecord', hcheck⟩ := hchecks _ (mem_filter.mp hmem).1
      rw [hrec] at hrecord'
      cases hrecord'
      exact ⟨record, hrec, hstop.fence, hstop.state.symm, hcheck⟩
    · intro hres
      obtain ⟨record', hrecord', hcheck⟩ := hchecks id ((mem_stopOrder hroot).mpr hid)
      rw [hrec] at hrecord'
      cases hrecord'
      exact (checkCancellable_of_resting hres).mp hcheck
    · rw [hcur] at hrec
      cases hrec
      rw [hdefinition] at hdef'
      cases hdef'
      refine ⟨(resting_eq_true.mp hres).resolve_left hagain.still.2.1, ?_, hopen⟩
      exact (validateOwnership_eq_ok.mp hagain.owner).2.2
  · rintro ⟨hheld, hidle, hrest⟩
    obtain ⟨current, hcur⟩ := hheld.known root mem_stopClosure_self
    -- the member of the plan that stands for a service that works
    have hmember : ∀ id ∈ catalog.stopClosure root, ∀ record,
        next.services[id]? = some record → record.resting = false →
        next.closedTo requester = false ∧ record.checkCancellable id = .ok () ∧
          ∃ item ∈ plan.ordered, ∃ definition, item.serviceId = id ∧
            Stopping catalog requester item record definition := by
      intro id hid record hrec hres
      have hmem : id ∈ plan.ordered.map (·.serviceId) := by
        rw [hheld.order]
        exact mem_filter.mpr ⟨(mem_stopOrder hroot).mpr hid, by simp [works_eq hrec, hres]⟩
      obtain ⟨item, hitem, rfl⟩ := mem_map.mp hmem
      obtain ⟨hopen, record', hrecord', hfence, hstate, hcheck⟩ := hheld.members item hitem
      rw [hrec] at hrecord'
      cases hrecord'
      obtain ⟨before, other, _, hstop⟩ := h.members item hitem
      have hagrees : before.Agrees record :=
        agrees_of_capture (hstop.fence.symm.trans hfence) (hstate.trans hstop.state)
      exact ⟨hopen, hcheck, item, hitem, other, rfl, hstop.of_agrees hagrees⟩
    have hitems : catalog.stopItems requester next
        (catalog.reverseSelectedOrder (catalog.stopClosure root)) = .ok plan.ordered := by
      refine stopItems_eq_ok.mpr ⟨fun id hid => ?_, hheld.order, fun item hitem => ?_⟩
      · have hclosure := (mem_stopOrder hroot).mp hid
        obtain ⟨record, hrec⟩ := hheld.known id hclosure
        refine ⟨record, hrec, ?_⟩
        by_cases hres : record.resting = true
        · exact (checkCancellable_of_resting hres).mpr (hidle id hclosure record hrec hres)
        · exact (hmember id hclosure record hrec (by simpa using hres)).2.1
      · obtain ⟨_, record, hrec, hfence, hstate, _⟩ := hheld.members item hitem
        obtain ⟨before, other, _, hstop⟩ := h.members item hitem
        have hagrees : before.Agrees record :=
          agrees_of_capture (hstop.fence.symm.trans hfence)
            (hstate.trans hstop.state)
        exact ⟨record, other, hrec, hstop.of_agrees hagrees⟩
    by_cases hres : current.resting = true
    · obtain ⟨hfailed, howner, hopen⟩ := hrest definition current hdefinition hcur hres
      have hexternal : current.ownership ≠ .external := by
        intro hext
        rw [hext] at howner
        unfold expectedOwnership at howner
        split at howner
        · split_ifs at howner
          cases howner
        · cases howner
        · cases howner
      refine ⟨hopen, current, hcur, h.sameRoot, h.sameRequester,
        validateOwnership_eq_ok.mpr ⟨hexternal, by simp [hfailed], howner⟩, ?_,
        by simp [hfailed], hitems⟩
      exact (checkCancellable_of_resting hres).mpr
        (hidle root mem_stopClosure_self current hcur hres)
    · obtain ⟨hopen, hcheck, item, _, other, hid, hstop⟩ :=
        hmember root mem_stopClosure_self current hcur (by simpa using hres)
      have hsame : other = definition := by
        have hdef := hstop.defined
        rw [hid, hdefinition] at hdef
        exact (Option.some.inj hdef).symm
      have howner := hstop.owner
      rw [hid, hsame] at howner
      refine ⟨hopen, current, hcur, h.sameRoot, h.sameRequester, howner, hcheck,
        ⟨hstop.still.1, fun hstopped => hres ?_, hstop.still.2⟩, hitems⟩
      exact resting_eq_true.mpr (.inl hstopped)

/-! ## Restarts and requests -/

theorem admitRestart_eq_restart {restart} :
    catalog.admitRestart root definition runtime requester snapshot = .restart restart ↔
      catalog.admitStop root definition runtime requester snapshot = .stop restart.stop ∧
        catalog.admitStart root definition runtime requester snapshot true =
          .start restart.start := by
  constructor
  · intro h
    unfold admitRestart at h
    split at h
    · cases h
    · extract_lets go at h
      have hgone : go = .restart restart := by
        split at h
        · split_ifs at h
          exact h
        · exact h
      unfold go at hgone
      split at hgone
      · rename_i stop hstop
        split at hgone
        · rename_i start hstart
          cases hgone
          exact ⟨hstop, hstart⟩
        · cases hgone
      · cases hgone
      · have hstop := admitStop_decision catalog root definition runtime requester snapshot
        rw [hgone] at hstop
        cases hstop
  · rintro ⟨hstop, hstart⟩
    obtain ⟨ids, hadmits⟩ := admitStart_admission hstart
    have howner : validateOwnership root definition runtime .restart requester false = .ok () :=
      validateOwnership_eq_ok.mpr (validateOwnership_eq_ok.mp (admitStop_eq_stop.mp hstop).owner)
    unfold admitRestart
    simp only [howner, hadmits.idle, hstop, hstart]

/-- What `admit` decides by the action of the request (L1181-1188). -/
def admitAction (catalog : ServiceCatalog) (action : ServiceAction) (root : ServiceId)
    (definition : ServiceDefinition) (runtime : RuntimeRecord) (requester : AdmissionRequester)
    (snapshot : AdmissionSnapshot) : AdmissionDecision :=
  match action with
  | .start => catalog.admitStart root definition runtime requester snapshot false
  | .stop => catalog.admitStop root definition runtime requester snapshot
  | .restart => catalog.admitRestart root definition runtime requester snapshot

variable {request : AdmissionRequest} {decision : AdmissionDecision}

theorem admitRequest_eq (hplan : ∀ rejection, decision ≠ .refused rejection) :
    catalog.admitRequest request snapshot = decision ↔
      ∃ definition runtime, catalog.services[request.serviceId]? = some definition ∧
        requesterMatchesScope request.requester definition.scope = true ∧
        snapshot.services[request.serviceId]? = some runtime ∧ runtime.fence = request.fence ∧
        snapshot.closedTo request.requester = false ∧
        catalog.admitAction request.action request.serviceId definition runtime request.requester
          snapshot = decision := by
  have hdeny : ∀ rejection, .refused rejection = decision ↔ False :=
    fun rejection => iff_false_intro fun h => hplan rejection h.symm
  unfold admitRequest
  cases hdef : catalog.services[request.serviceId]? with
  | none => simp [hdeny]
  | some definition =>
    by_cases hreq : requesterMatchesScope request.requester definition.scope = true
    · have hclose : snapshot.closing definition.scope = snapshot.closedTo request.requester :=
        closing_of_matches hreq
      cases hrun : snapshot.services[request.serviceId]? with
      | none => simp [hdeny, hreq]
      | some runtime =>
        by_cases hfence : runtime.fence = request.fence
        · by_cases hopen : snapshot.closedTo request.requester = false
          · simp only [hreq, hfence, hclose, hopen, Bool.true_eq_false, Bool.false_eq_true,
              ne_eq, not_true_eq_false, if_false, Option.some.injEq]
            unfold admitAction
            constructor
            · intro h
              exact ⟨definition, runtime, rfl, hreq, rfl, hfence, trivial, h⟩
            · rintro ⟨_, _, rfl, _, rfl, _, _, h⟩
              exact h
          · simp [hdeny, hreq, hfence, hclose, hopen]
        · simp [hdeny, hreq, hfence]
    · simp [hdeny, hreq]

/-- The request is admitted with the decision when it is made again with the fence that the root has
in the snapshot. -/
def Readmits (catalog : ServiceCatalog) (request : AdmissionRequest) (next : AdmissionSnapshot)
    (decision : AdmissionDecision) : Prop :=
  ∃ current, next.services[request.serviceId]? = some current ∧
    catalog.admitRequest { request with fence := current.fence } next = decision

theorem readmits_iff (hplan : ∀ rejection, decision ≠ .refused rejection)
    (hdef : catalog.services[request.serviceId]? = some definition)
    (hreq : requesterMatchesScope request.requester definition.scope = true) :
    Readmits catalog request next decision ↔ next.closedTo request.requester = false ∧
      ∃ current, next.services[request.serviceId]? = some current ∧
        catalog.admitAction request.action request.serviceId definition current request.requester
          next = decision := by
  unfold Readmits
  simp only [admitRequest_eq hplan]
  constructor
  · rintro ⟨current, hcur, _, record, hdef', _, hrec, _, hopen, hdec⟩
    rw [hdef] at hdef'
    rw [hcur] at hrec
    cases hdef'
    cases hrec
    exact ⟨hopen, current, hcur, hdec⟩
  · rintro ⟨hopen, current, hcur, hdec⟩
    exact ⟨current, hcur, definition, current, hdef, hreq, hcur, rfl, hopen, hdec⟩

theorem action_of_start {plan} (h : catalog.admitRequest request snapshot = .start plan) :
    request.action = .start := by
  have hdec := admitRequest_decision catalog snapshot request
  rw [h] at hdec
  cases hdec
  assumption

theorem action_of_stop {plan} (h : catalog.admitRequest request snapshot = .stop plan) :
    request.action = .stop := by
  have hdec := admitRequest_decision catalog snapshot request
  rw [h] at hdec
  cases hdec
  assumption

theorem action_of_restart {plan} (h : catalog.admitRequest request snapshot = .restart plan) :
    request.action = .restart := by
  have hdec := admitRequest_decision catalog snapshot request
  rw [h] at hdec
  cases hdec
  assumption

variable (next)

theorem start_exact {start} (h : catalog.admitRequest request snapshot = .start start) :
    start.revalidate catalog snapshot = .ok () ∧
      (start.revalidate catalog next = .ok () ↔ Readmits catalog request next (.start start)) := by
  obtain ⟨definition, runtime, hdef, hreq, hrun, _, hopen, hdec⟩ :=
    (admitRequest_eq fun _ => AdmissionDecision.noConfusion).mp h
  have hact := action_of_start h
  rw [hact] at hdec
  have hkept : _ ↔ StartKept catalog request.serviceId request.requester snapshot next :=
    start_readmit_iff hrun hdec
  constructor
  · rw [start_revalidate_iff hdef hreq hrun hdec]
    exact ⟨hopen, fun _ _ _ _ => rfl⟩
  · rw [start_revalidate_iff hdef hreq hrun hdec, ← hkept,
      readmits_iff (fun _ => AdmissionDecision.noConfusion) hdef hreq, hact]
    exact .rfl

theorem stop_exact {stop} (h : catalog.admitRequest request snapshot = .stop stop) :
    stop.revalidate catalog snapshot = .ok () ∧
      (stop.revalidate catalog next = .ok () ↔
        StopKept catalog request.serviceId request.requester snapshot next) ∧
      (Readmits catalog request next (.stop stop) ↔
        StopKept catalog request.serviceId request.requester snapshot next ∧
          RestReady catalog request.serviceId request.requester next) := by
  obtain ⟨definition, runtime, hdef, hreq, hrun, _, hopen, hdec⟩ :=
    (admitRequest_eq fun _ => AdmissionDecision.noConfusion).mp h
  have hact := action_of_stop h
  rw [hact] at hdec
  have hadmits := admitStop_eq_stop.mp hdec
  have hroot : request.serviceId ∈ catalog.services :=
    OrdMap.mem_iff_exists.mpr ⟨definition, hdef⟩
  have hagain : StopHeld catalog request.serviceId request.requester snapshot stop :=
    ((stop_readmit_iff hdef hadmits).mp ⟨hopen, runtime, hrun, hadmits⟩).1
  refine ⟨(stop_revalidate_held hdef hreq hadmits).mpr hagain, ?_, ?_⟩
  · rw [stop_revalidate_held hdef hreq hadmits]
    exact stopHeld_iff_kept hroot hadmits
  · rw [← stopHeld_iff_kept hroot hadmits, ← stop_readmit_iff hdef hadmits,
      readmits_iff (fun _ => AdmissionDecision.noConfusion) hdef hreq, hact]
    refine and_congr_right fun _ => exists_congr fun current => and_congr_right fun _ => ?_
    exact admitStop_eq_stop

theorem restart_exact {restart} (h : catalog.admitRequest request snapshot = .restart restart) :
    restart.revalidate catalog snapshot = .ok () ∧
      (restart.revalidate catalog next = .ok () ↔
        StopKept catalog request.serviceId request.requester snapshot next ∧
          StartKept catalog request.serviceId request.requester snapshot next) ∧
      (Readmits catalog request next (.restart restart) ↔
        (StopKept catalog request.serviceId request.requester snapshot next ∧
          RestReady catalog request.serviceId request.requester next) ∧
            StartKept catalog request.serviceId request.requester snapshot next) := by
  obtain ⟨definition, runtime, hdef, hreq, hrun, _, hopen, hdec⟩ :=
    (admitRequest_eq fun _ => AdmissionDecision.noConfusion).mp h
  have hact := action_of_restart h
  rw [hact] at hdec
  obtain ⟨hstop, hstart⟩ := admitRestart_eq_restart.mp hdec
  have hadmits := admitStop_eq_stop.mp hstop
  have hroot : request.serviceId ∈ catalog.services :=
    OrdMap.mem_iff_exists.mpr ⟨definition, hdef⟩
  have hrev : ∀ s, restart.revalidate catalog s = .ok () ↔
      StopKept catalog request.serviceId request.requester snapshot s ∧
        StartKept catalog request.serviceId request.requester snapshot s := by
    intro s
    unfold RestartPlan.revalidate
    rw [bind_eq_ok, exists_unit, stop_revalidate_held hdef hreq hadmits,
      stopHeld_iff_kept hroot hadmits, start_revalidate_iff hdef hreq hrun hstart]
  refine ⟨(hrev snapshot).mpr ⟨?_, hopen, fun _ _ _ _ => rfl⟩, hrev next, ?_⟩
  · exact (stopHeld_iff_kept hroot hadmits).mp
      ((stop_readmit_iff hdef hadmits).mp ⟨hopen, runtime, hrun, hadmits⟩).1
  · have hkept : _ ↔ StartKept catalog request.serviceId request.requester snapshot next :=
      start_readmit_iff hrun hstart
    rw [← stopHeld_iff_kept hroot hadmits, ← stop_readmit_iff hdef hadmits, ← hkept,
      readmits_iff (fun _ => AdmissionDecision.noConfusion) hdef hreq, hact]
    constructor
    · rintro ⟨hopen', current, hcur, hagain⟩
      obtain ⟨hstop', hstart'⟩ := admitRestart_eq_restart.mp hagain
      exact ⟨⟨hopen', current, hcur, admitStop_eq_stop.mp hstop'⟩, hopen', current, hcur, hstart'⟩
    · rintro ⟨⟨hopen', current, hcur, hstop'⟩, _, current', hcurrent', hstart'⟩
      rw [hcur] at hcurrent'
      cases hcurrent'
      exact ⟨hopen', current, hcur,
        admitRestart_eq_restart.mpr ⟨admitStop_eq_stop.mpr hstop', hstart'⟩⟩

variable {next}

/-! ## Closing a task -/

variable {taskId : TaskId} {epoch : ℕ} {close : TaskClosePlan}

/-- The order in which the services of a task are closed. -/
def closeOrder (catalog : ServiceCatalog) (taskId : TaskId) : List ServiceId :=
  catalog.reverseSelectedOrder ((catalog.taskDefinitions taskId).foldl (fun selected definition =>
    selected.insert definition.id) (∅ : ExtTreeSet ServiceId))

theorem mem_taskDefinitions (hvalid : catalog.Valid) :
    definition ∈ catalog.taskDefinitions taskId ↔
      catalog.services[definition.id]? = some definition ∧ definition.scope = .task taskId := by
  have hscope : definition.scope.taskId = some taskId ↔ definition.scope = .task taskId := by
    cases definition.scope <;> simp [ServiceScope.taskId]
  unfold taskDefinitions
  rw [mem_filter, mem_map, decide_eq_true_eq, hscope]
  refine and_congr_left fun _ => ?_
  constructor
  · rintro ⟨⟨id, other⟩, hentry, rfl⟩
    have hget := ExtTreeMap.mem_toList_iff_getElem?_eq_some.mp hentry
    rw [hvalid.keyed id other hget]
    exact hget
  · intro hget
    exact ⟨(definition.id, definition), ExtTreeMap.mem_toList_iff_getElem?_eq_some.mpr hget, rfl⟩

theorem mem_closeOrder (hvalid : catalog.Valid) :
    id ∈ catalog.closeOrder taskId ↔
      ∃ definition ∈ catalog.taskDefinitions taskId, definition.id = id := by
  have hsel : ∀ k, k ∈ (catalog.taskDefinitions taskId).foldl
      (fun selected definition => selected.insert definition.id) (∅ : ExtTreeSet ServiceId) ↔
        ∃ definition ∈ catalog.taskDefinitions taskId, definition.id = k := by
    intro k
    rw [mem_foldl_insert_map (fun definition : ServiceDefinition => definition.id)]
    simp
  obtain ⟨_, hmem, hcomplete⟩ := reverseSelectedOrder_spec catalog
    ((catalog.taskDefinitions taskId).foldl (fun selected definition =>
      selected.insert definition.id) (∅ : ExtTreeSet ServiceId))
  refine ⟨fun hid => (hsel id).mp (hmem id hid), fun hid => ?_⟩
  refine hcomplete id ((hsel id).mpr hid) ?_
  obtain ⟨definition, hdef, rfl⟩ := hid
  exact OrdMap.mem_iff_exists.mpr ⟨definition, ((mem_taskDefinitions hvalid).mp hdef).1⟩

/-- The record with which a service is admitted to be closed with its task. -/
structure Closable (taskId : TaskId) (runtime : RuntimeRecord) : Prop where
  idle : runtime.operation = none
  still : runtime.state ≠ .external ∧ runtime.state ≠ .starting ∧ runtime.state ≠ .stopping
  owner : runtime.ownership = .task taskId ∧ runtime.state ≠ .stopped ∨
    runtime.ownership = .none ∧ runtime.state = .stopped

theorem closeMember_eq_ok :
    closeMember taskId snapshot definition = .ok () ↔ ∃ runtime,
      snapshot.services[definition.id]? = some runtime ∧ Closable taskId runtime := by
  unfold closeMember
  simp only [ok_iff, checkIdle_eq_ok]
  refine exists_congr fun runtime => and_congr_right fun _ => ?_
  constructor
  · rintro ⟨hext, hid, hstart, hstop, howned, hfree⟩
    refine ⟨hid, ⟨fun h => hext (.inl h), hstart, hstop⟩, ?_⟩
    by_cases hstopped : runtime.state = .stopped
    · exact .inr ⟨by_contra fun h => hfree ⟨hstopped, h⟩, hstopped⟩
    · exact .inl ⟨by_contra fun h => howned ⟨hstopped, h⟩, hstopped⟩
  · rintro ⟨hid, ⟨hext, hstart, hstop⟩, ⟨howner, hstate⟩ | ⟨howner, hstate⟩⟩
    · simp [hid, hext, hstart, hstop, howner, hstate]
    · simp [hid, howner, hstate]

/-- The records of the services of the task are the same, the task is closing with the epoch, and
what it owns are its services. -/
structure CloseKept (catalog : ServiceCatalog) (taskId : TaskId) (epoch : ℕ)
    (snapshot next : AdmissionSnapshot) : Prop where
  closing : next.closingTasks.contains taskId = true
  epoch : next.taskEpochs[taskId]? = some epoch
  resources : catalog.validateTaskCloseSnapshotResources taskId next = .ok ()
  members : ∀ definition ∈ catalog.taskDefinitions taskId,
    next.services[definition.id]? = snapshot.services[definition.id]?

theorem admitTaskClose_eq_ok :
    catalog.admitTaskClose taskId epoch snapshot = .ok close ↔
      CloseKept catalog taskId epoch snapshot snapshot ∧
      (∀ definition ∈ catalog.taskDefinitions taskId, ∃ runtime,
        snapshot.services[definition.id]? = some runtime ∧ Closable taskId runtime) ∧
      close = ⟨taskId, epoch, (catalog.closeOrder taskId).filterMap
        (catalog.closeItem snapshot)⟩ := by
  unfold admitTaskClose
  simp only [ok_iff, forM_eq_ok, closeMember_eq_ok, Bool.not_eq_false]
  constructor
  · rintro ⟨hclosing, current, hepoch, rfl, hres, hmem, hclose⟩
    exact ⟨⟨hclosing, hepoch, hres, fun _ _ => rfl⟩, hmem, hclose⟩
  · rintro ⟨hkept, hmem, hclose⟩
    exact ⟨hkept.closing, epoch, hkept.epoch, rfl, hkept.resources, hmem, hclose⟩

/-- The member that stands for a service in a plan to close its task. -/
def memberOf (definition : ServiceDefinition) (runtime : RuntimeRecord) : ServicePlanItem :=
  ⟨definition.id, .capture definition.id runtime, runtime.state, definition.scope⟩

theorem closeItem_eq (hvalid : catalog.Valid) (hdef : definition ∈ catalog.taskDefinitions taskId)
    (hrun : snapshot.services[definition.id]? = some runtime) :
    catalog.closeItem snapshot definition.id = some (memberOf definition runtime) := by
  have hget := ((mem_taskDefinitions hvalid).mp hdef).1
  unfold closeItem
  simp [hget, hrun, memberOf]

theorem closeItems_eq (hvalid : catalog.Valid)
    (hknown : ∀ definition ∈ catalog.taskDefinitions taskId, ∃ runtime,
      snapshot.services[definition.id]? = some runtime ∧ Closable taskId runtime) :
    ((catalog.closeOrder taskId).filterMap (catalog.closeItem snapshot)).map (·.serviceId) =
        catalog.closeOrder taskId ∧
      ∀ item, item ∈ (catalog.closeOrder taskId).filterMap (catalog.closeItem snapshot) ↔
        ∃ definition ∈ catalog.taskDefinitions taskId, ∃ runtime,
          snapshot.services[definition.id]? = some runtime ∧ Closable taskId runtime ∧
            item = memberOf definition runtime := by
  have hitem : ∀ id ∈ catalog.closeOrder taskId, ∃ definition ∈ catalog.taskDefinitions taskId,
      ∃ runtime, definition.id = id ∧
        snapshot.services[definition.id]? = some runtime ∧ Closable taskId runtime ∧
          catalog.closeItem snapshot id = some (memberOf definition runtime) := by
    intro id hid
    obtain ⟨definition, hdef, rfl⟩ := (mem_closeOrder hvalid).mp hid
    obtain ⟨runtime, hrun, hclose⟩ := hknown definition hdef
    exact ⟨definition, hdef, runtime, rfl, hrun, hclose, closeItem_eq hvalid hdef hrun⟩
  constructor
  · have hids : ∀ ids : List ServiceId, (∀ id ∈ ids, id ∈ catalog.closeOrder taskId) →
        (ids.filterMap (catalog.closeItem snapshot)).map (·.serviceId) = ids := by
      intro ids
      induction ids with
      | nil => intro _; rfl
      | cons id rest ih =>
        intro hmem
        obtain ⟨definition, _, runtime, hid, _, _, hsome⟩ := hitem id (hmem id (.head _))
        rw [filterMap_cons_some hsome, map_cons,
          ih fun other hother => hmem other (mem_cons_of_mem id hother)]
        rw [show (memberOf definition runtime).serviceId = id from hid]
    exact hids _ fun _ hid => hid
  · intro item
    rw [mem_filterMap]
    constructor
    · rintro ⟨id, hid, hsome⟩
      obtain ⟨definition, hdef, runtime, _, hrun, hclose, heq⟩ := hitem id hid
      rw [heq] at hsome
      exact ⟨definition, hdef, runtime, hrun, hclose, (Option.some.inj hsome).symm⟩
    · rintro ⟨definition, hdef, runtime, hrun, _, rfl⟩
      exact ⟨definition.id, (mem_closeOrder hvalid).mpr ⟨definition, hdef, rfl⟩,
        closeItem_eq hvalid hdef hrun⟩

theorem revalidateItem_member (hdef : definition.scope = .task taskId)
    (hclose : Closable taskId runtime) (epoch : ℕ) (ordered) :
    revalidateItem ⟨taskId, epoch, ordered⟩ next (memberOf definition runtime) =
      .ok () ↔ next.services[definition.id]? = some runtime := by
  have howner : ¬ ((memberOf definition runtime).fence.ownership ≠ .task taskId ∧
      ¬ ((memberOf definition runtime).expectedState = .stopped ∧
        (memberOf definition runtime).fence.ownership = .none)) := by
    show ¬ (runtime.ownership ≠ .task taskId ∧ ¬ (runtime.state = .stopped ∧
      runtime.ownership = .none))
    rcases hclose.owner with ⟨howned, _⟩ | ⟨hfree, hstop⟩
    · exact fun h => h.1 howned
    · exact fun h => h.2 ⟨hstop, hfree⟩
  have hscope : ¬ (memberOf definition runtime).scope ≠ .task taskId := not_not.mpr hdef
  unfold revalidateItem
  simp only [ok_iff, howner, hscope, not_false_iff, true_and, revalidate_eq_ok, checkOperation,
    Bool.false_eq_true, false_and, if_false, checkIdle_eq_ok, false_implies]
  constructor
  · rintro ⟨current, hcur, hfence, hstate, hid⟩
    have hagrees : runtime.Agrees current := agrees_of_capture hfence hstate
    rw [← hagrees.eq (hid.trans hclose.idle.symm)]
    exact hcur
  · intro hcur
    exact ⟨runtime, hcur, rfl, rfl, hclose.idle⟩

theorem close_exact (next) (hvalid : catalog.Valid)
    (h : catalog.admitTaskClose taskId epoch snapshot = .ok close) :
    close.revalidate catalog snapshot = .ok () ∧
      (close.revalidate catalog next = .ok () ↔
        catalog.admitTaskClose taskId epoch next = .ok close) := by
  obtain ⟨hkept, hknown, hclose⟩ := admitTaskClose_eq_ok.mp h
  obtain ⟨hids, hmem⟩ := closeItems_eq hvalid hknown
  have hval : close.validate catalog = .ok () := by
    unfold validate
    simp only [ok_iff, forM_eq_ok, hclose]
    refine ⟨hids, fun item hitem => ?_⟩
    obtain ⟨definition, hdef, runtime, _, _, rfl⟩ := (hmem item).mp hitem
    obtain ⟨hget, hscope⟩ := (mem_taskDefinitions hvalid).mp hdef
    unfold validateItem
    simp only [ok_iff]
    refine ⟨definition, hget, ?_⟩
    simp [memberOf, ServiceFence.capture, hscope, ServiceScope.taskId]
  have hrev : ∀ s, close.revalidate catalog s = .ok () ↔
      CloseKept catalog taskId epoch snapshot s := by
    intro s
    have hall : (∀ item ∈ close.ordered, close.revalidateItem s item = .ok ()) ↔
        ∀ definition ∈ catalog.taskDefinitions taskId,
          s.services[definition.id]? = snapshot.services[definition.id]? := by
      rw [hclose]
      constructor
      · intro hitems definition hdef
        obtain ⟨runtime, hrun, hclosable⟩ := hknown definition hdef
        have hitem := hitems _ ((hmem _).mpr
          ⟨definition, hdef, runtime, hrun, hclosable, rfl⟩)
        rw [hrun]
        exact (revalidateItem_member ((mem_taskDefinitions hvalid).mp hdef).2 hclosable _
          _).mp hitem
      · intro hsame item hitem
        obtain ⟨definition, hdef, runtime, hrun, hclosable, rfl⟩ := (hmem item).mp hitem
        refine (revalidateItem_member ((mem_taskDefinitions hvalid).mp hdef).2 hclosable _ _).mpr ?_
        exact (hsame definition hdef).trans hrun
    unfold TaskClosePlan.revalidate
    simp only [ok_iff, hval, true_and, forM_eq_ok, hall, Bool.not_eq_false]
    simp only [hclose]
    constructor
    · rintro ⟨hclosed, hepoch, hres, hsame⟩
      exact ⟨hclosed, hepoch, hres, hsame⟩
    · rintro ⟨hclosed, hepoch, hres, hsame⟩
      exact ⟨hclosed, hepoch, hres, hsame⟩
  refine ⟨(hrev snapshot).mpr hkept, ?_⟩
  rw [hrev next, admitTaskClose_eq_ok]
  constructor
  · intro hnext
    have hrecords : ∀ definition ∈ catalog.taskDefinitions taskId, ∃ runtime,
        next.services[definition.id]? = some runtime ∧ Closable taskId runtime := by
      intro definition hdef
      obtain ⟨runtime, hrun, hclosable⟩ := hknown definition hdef
      exact ⟨runtime, (hnext.members definition hdef).trans hrun, hclosable⟩
    refine ⟨⟨hnext.closing, hnext.epoch, hnext.resources, fun _ _ => rfl⟩, hrecords, ?_⟩
    rw [hclose]
    congr 1
    refine filterMap_congr fun id hid => ?_
    obtain ⟨definition, hdef, rfl⟩ := (mem_closeOrder hvalid).mp hid
    unfold closeItem
    rw [hnext.members definition hdef]
  · rintro ⟨hnext, hrecords, hsame⟩
    refine ⟨hnext.closing, hnext.epoch, hnext.resources, fun definition hdef => ?_⟩
    obtain ⟨_, hmem'⟩ := closeItems_eq hvalid hrecords
    obtain ⟨runtime, hrun, hclosable⟩ := hknown definition hdef
    have hitem := (hmem _).mpr ⟨definition, hdef, runtime, hrun, hclosable, rfl⟩
    have hord : (catalog.closeOrder taskId).filterMap (catalog.closeItem snapshot) =
        (catalog.closeOrder taskId).filterMap (catalog.closeItem next) :=
      congrArg ordered (hclose.symm.trans hsame)
    rw [hord] at hitem
    obtain ⟨other, hother, record, hrec, hclose', heq⟩ := (hmem' _).mp hitem
    have hid : other.id = definition.id := (congrArg serviceId heq).symm
    rw [hid] at hrec
    have hfence : ServiceFence.capture definition.id runtime = .capture definition.id record := by
      have hcapture := congrArg fence heq
      rw [show (memberOf other record).fence = .capture other.id record from rfl, hid] at hcapture
      exact hcapture
    have hstate : record.state = runtime.state :=
      (congrArg expectedState heq).symm
    have hagrees : runtime.Agrees record := agrees_of_capture hfence hstate
    rw [hrec, hrun, hagrees.eq (hclose'.idle.trans hclosable.idle.symm)]

/-! ## When revalidation is admission -/

/-- An admitted plan passes its revalidation on the snapshot it was admitted on. For a start and for
closing a task revalidation accepts exactly the snapshots that admit the same plan again; for a
stop and a restart it does iff a snapshot that keeps the members of the plan leaves the services
at rest ready. -/
theorem revalidation_exact {definitions : List ServiceDefinition}
    (hnew : ServiceCatalog.new definitions = .ok catalog) (snapshot next : AdmissionSnapshot) :
    (∀ request start,
      catalog.admitRequest request snapshot = .start start →
        start.revalidate catalog snapshot = .ok () ∧
          (start.revalidate catalog next = .ok () ↔ Readmits catalog request next (.start start))) ∧
    (∀ request stop,
      catalog.admitRequest request snapshot = .stop stop →
        stop.revalidate catalog snapshot = .ok () ∧
          ((stop.revalidate catalog next = .ok () ↔ Readmits catalog request next (.stop stop)) ↔
            (StopKept catalog request.serviceId request.requester snapshot next →
              RestReady catalog request.serviceId request.requester next))) ∧
    (∀ request restart,
      catalog.admitRequest request snapshot = .restart restart →
        restart.revalidate catalog snapshot = .ok () ∧
          ((restart.revalidate catalog next = .ok () ↔
              Readmits catalog request next (.restart restart)) ↔
            (StopKept catalog request.serviceId request.requester snapshot next →
              StartKept catalog request.serviceId request.requester snapshot next →
                RestReady catalog request.serviceId request.requester next))) ∧
    ∀ taskId epoch close,
      catalog.admitTaskClose taskId epoch snapshot = .ok close →
        close.revalidate catalog snapshot = .ok () ∧
          (close.revalidate catalog next = .ok () ↔
            catalog.admitTaskClose taskId epoch next = .ok close) := by
  refine ⟨fun request start h => start_exact next h, fun request stop h => ?_,
    fun request restart h => ?_, fun taskId epoch close h => close_exact next (new_valid hnew) h⟩
  · obtain ⟨hsame, hkept, hagain⟩ := stop_exact next h
    refine ⟨hsame, ?_⟩
    rw [hkept, hagain]
    tauto
  · obtain ⟨hsame, hkept, hagain⟩ := restart_exact next h
    refine ⟨hsame, ?_⟩
    rw [hkept, hagain]
    tauto

def hostDefinition (name : String) (dependencies : List ServiceId) : ServiceDefinition where
  id := ⟨name⟩
  scope := .host
  command := ⟨name ++ "-server", [], none, []⟩
  dependencies := dependencies
  health := .none
  startup := ⟨0⟩
  stop := ⟨1000, 2000⟩
  expectedPort := none

def pairDefinitions : List ServiceDefinition :=
  [hostDefinition "db" [], hostDefinition "api" [⟨"db"⟩]]

def pairCatalog : ServiceCatalog :=
  ⟨((∅ : ExtTreeMap ServiceId ServiceDefinition).insert ⟨"db"⟩ (hostDefinition "db" [])).insert
    ⟨"api"⟩ (hostDefinition "api" [⟨"db"⟩])⟩

def pairSnapshot (operation : Option ActiveOperation) : AdmissionSnapshot where
  services := ((∅ : ExtTreeMap ServiceId RuntimeRecord).insert ⟨"db"⟩
    ⟨.healthy, ⟨2, 2, 2⟩, .host ⟨1⟩, none⟩).insert ⟨"api"⟩ ⟨.stopped, ⟨1, 1, 1⟩, .none, operation⟩
  taskEpochs := ∅
  closingTasks := ∅

def pairRequest : AdmissionRequest := ⟨.stop, ⟨"db"⟩, ⟨2, 2, 2⟩, .host ⟨1⟩⟩

def pairPlan : StopPlan where
  root := ⟨"db"⟩
  requester := .host ⟨1⟩
  ordered := [⟨⟨"db"⟩, ⟨⟨"db"⟩, 2, 2, 2, .host ⟨1⟩⟩, .healthy, .host⟩]

/-- A stop of a dependency passes its revalidation while its dependent is about to start, and is not
admitted again. -/
theorem stop_not_readmitted :
    ServiceCatalog.new pairDefinitions = .ok pairCatalog ∧
      pairCatalog.admitRequest pairRequest (pairSnapshot none) = .stop pairPlan ∧
      pairPlan.revalidate pairCatalog (pairSnapshot (some ⟨9, .start⟩)) = .ok () ∧
      ¬ Readmits pairCatalog pairRequest (pairSnapshot (some ⟨9, .start⟩)) (.stop pairPlan) := by
  refine ⟨rfl, by decide +kernel, by decide +kernel, ?_⟩
  rintro ⟨current, hcur, hagain⟩
  have hrec : (pairSnapshot (some ⟨9, .start⟩)).services[(⟨"db"⟩ : ServiceId)]? =
      some ⟨.healthy, ⟨2, 2, 2⟩, .host ⟨1⟩, none⟩ := by decide +kernel
  have hdeny : pairCatalog.admitRequest pairRequest (pairSnapshot (some ⟨9, .start⟩)) =
      .refused (.operationInProgress ⟨"api"⟩ .start) := by decide +kernel
  have hsame := hrec.symm.trans hcur
  cases hsame
  exact AdmissionDecision.noConfusion (hdeny.symm.trans hagain)

theorem revalidation_exact_sample : pairPlan.revalidate pairCatalog (pairSnapshot none) = .ok () :=
  ((revalidation_exact (rfl : ServiceCatalog.new pairDefinitions = .ok pairCatalog)
    (pairSnapshot none) (pairSnapshot none)).2.1 pairRequest pairPlan (by decide +kernel)).1

end ServiceCatalog

end DevManager
