import DevManager.Services.Catalog

/-!
# Admission of service actions (`src/services/model.rs`)

Admission decides on a snapshot of what is known about each service: its state,
its fence, its owner and its active operation. An admitted action is a plan whose
members carry the fences they were captured with; a plan is revalidated before it
is executed.

* `startItems_spec`, `stopItems_spec`, `closeItems_spec`: the members of an
  admitted plan, and the record with which each of them was admitted.
* `admitStop_of_rest`: the owner's stop of a service whose dependents are at rest
  is admitted.
-/

namespace DevManager

open Std (ExtTreeMap ExtTreeSet)
open List

/-! ## Fences, owners and operations -/

/-- `AdmissionFence`, L1833-1837 -/
structure AdmissionFence where
  resourceGeneration : ℕ
  connectionEpoch : ℕ
  actionEpoch : ℕ
deriving DecidableEq

/-- `HostId`, L1863 -/
structure HostId where
  value : ℕ
deriving DecidableEq

/-- `AdmissionRequester`, L1893-1896 -/
inductive AdmissionRequester
  | task (taskId : TaskId)
  | host (hostId : HostId)
deriving DecidableEq

/-- `ServiceAction`, L1938-1942 -/
inductive ServiceAction
  | start | stop | restart
deriving DecidableEq

/-- `RuntimeOwnership`, L1946-1951 -/
inductive RuntimeOwnership
  | none
  | task (taskId : TaskId)
  | host (hostId : HostId)
  | external
deriving DecidableEq

/-- `ActiveOperation`, L1954-1957 -/
structure ActiveOperation where
  id : ℕ
  action : ServiceAction
deriving DecidableEq

/-- `RuntimeRecord`, L1960-1965 -/
structure RuntimeRecord where
  state : ServiceState
  fence : AdmissionFence
  ownership : RuntimeOwnership
  operation : Option ActiveOperation
deriving DecidableEq

/-- `ServiceFence`, L1973-1979 -/
structure ServiceFence where
  serviceId : ServiceId
  resourceGeneration : ℕ
  connectionEpoch : ℕ
  actionEpoch : ℕ
  ownership : RuntimeOwnership
deriving DecidableEq

/-- `capture`, L1983-1991 -/
def ServiceFence.capture (serviceId : ServiceId) (runtime : RuntimeRecord) : ServiceFence where
  serviceId := serviceId
  resourceGeneration := runtime.fence.resourceGeneration
  connectionEpoch := runtime.fence.connectionEpoch
  actionEpoch := runtime.fence.actionEpoch
  ownership := runtime.ownership

/-- `AdmissionSnapshot`, L2015-2019 -/
structure AdmissionSnapshot where
  services : ExtTreeMap ServiceId RuntimeRecord
  taskEpochs : ExtTreeMap TaskId ℕ
  closingTasks : ExtTreeSet TaskId

namespace AdmissionSnapshot

variable (snapshot : AdmissionSnapshot)

/-- `set_service`, L2023-2025 -/
def setService (id : ServiceId) (runtime : RuntimeRecord) : AdmissionSnapshot :=
  { snapshot with services := snapshot.services.insert id runtime }

/-- `set_task_epoch`, L2031-2033 -/
def setTaskEpoch (taskId : TaskId) (epoch : ℕ) : AdmissionSnapshot :=
  { snapshot with taskEpochs := snapshot.taskEpochs.insert taskId epoch }

/-- `mark_task_closing`, L2035-2037 -/
def markTaskClosing (taskId : TaskId) : AdmissionSnapshot :=
  { snapshot with closingTasks := snapshot.closingTasks.insert taskId }

/-- `scope.task_id().is_some_and(|task_id| closing_tasks.contains(task_id))`. -/
def closing (scope : ServiceScope) : Bool :=
  match scope.taskId with
  | some taskId => snapshot.closingTasks.contains taskId
  | none => false

end AdmissionSnapshot

/-! ## Plans and decisions -/

/-- `AdmissionRejection`, L2056-2120 -/
inductive AdmissionRejection
  | unknownService (service : ServiceId)
  | staleFence (service : ServiceId) (expected received : AdmissionFence)
  | taskClosing (service : ServiceId)
  | requesterMismatch (service : ServiceId)
  | taskCloseNotAdmitted (taskId : TaskId)
  | taskEpochStale (taskId : TaskId) (expected : Option ℕ) (received : ℕ)
  | taskOwnedResourceNotInCatalog (service : ServiceId) (taskId : TaskId)
  | taskOwnedResourceOutsideScope (service : ServiceId) (taskId : TaskId)
  | ownershipMismatch (service : ServiceId) (expected received : RuntimeOwnership)
  | externalNotControllable (service : ServiceId)
  | dependencyExternal (service dependency : ServiceId)
  | dependencyNotReady (service dependency : ServiceId) (state : ServiceState)
  | evidenceUnknown (service : ServiceId)
  | operationInProgress (service : ServiceId) (action : ServiceAction)
  | alreadyRunning (service : ServiceId)
  | alreadyStopped (service : ServiceId)
  | planStale (service : ServiceId)
deriving DecidableEq

/-- `ServicePlanItem`, L2159-2164 -/
structure ServicePlanItem where
  serviceId : ServiceId
  fence : ServiceFence
  expectedState : ServiceState
  scope : ServiceScope
deriving DecidableEq

/-- `StartPlanItem`, L2150-2156 -/
structure StartPlanItem where
  serviceId : ServiceId
  intent : Option LaunchIntent
  fence : ServiceFence
  expectedState : ServiceState
  scope : ServiceScope
deriving DecidableEq

/-- `StartPlan`, L2123-2127 -/
structure StartPlan where
  root : ServiceId
  requester : AdmissionRequester
  ordered : List StartPlanItem
deriving DecidableEq

/-- `StopPlan`, L2130-2134 -/
structure StopPlan where
  root : ServiceId
  requester : AdmissionRequester
  ordered : List ServicePlanItem
deriving DecidableEq

/-- `RestartPlan`, L2137-2140 -/
structure RestartPlan where
  stop : StopPlan
  start : StartPlan
deriving DecidableEq

/-- `TaskClosePlan`, L2143-2147 -/
structure TaskClosePlan where
  taskId : TaskId
  epoch : ℕ
  ordered : List ServicePlanItem

/-- `AdmissionDecision`, L2042-2052 -/
inductive AdmissionDecision
  | start (plan : StartPlan)
  | stop (plan : StopPlan)
  | restart (plan : RestartPlan)
  | coalesced (service : ServiceId) (operationId : ℕ) (action : ServiceAction)
  | refused (rejection : AdmissionRejection)
deriving DecidableEq

/-- `AdmissionRequest`, L1899-1904 -/
structure AdmissionRequest where
  action : ServiceAction
  serviceId : ServiceId
  fence : AdmissionFence
  requester : AdmissionRequester

/-! ## Owners -/

/-- `requester_matches_scope`, L3113-3121 -/
def requesterMatchesScope : AdmissionRequester → ServiceScope → Bool
  | .task requester, .task taskId => requester = taskId
  | .host _, .host => true
  | _, _ => false

/-- The ownership that a requester of the scope has (L3087-3101). -/
def expectedOwnership : ServiceScope → AdmissionRequester → Option RuntimeOwnership
  | .task taskId, .task requester => if taskId = requester then some (.task taskId) else none
  | .host, .host hostId => some (.host hostId)
  | _, _ => none

/-- `validate_ownership`, L3063-3111 -/
def validateOwnership (serviceId : ServiceId) (definition : ServiceDefinition)
    (runtime : RuntimeRecord) (action : ServiceAction) (requester : AdmissionRequester)
    (allowInitialClaim : Bool) : Except AdmissionRejection Unit :=
  if runtime.ownership = .external ∨ runtime.state = .external then
    .error (.externalNotControllable serviceId)
  else if allowInitialClaim ∧ action = .start ∧ runtime.state = .stopped ∧
      runtime.ownership = .none then .ok ()
  else
    match expectedOwnership definition.scope requester with
    | none => .error (.requesterMismatch serviceId)
    | some expected =>
      if runtime.ownership = expected then .ok ()
      else .error (.ownershipMismatch serviceId expected runtime.ownership)

/-- The operation of a service that is starting may be cancelled by a stop
(L1588-1600, L1633-1642). -/
def ActiveOperation.cancellable (operation : ActiveOperation) (state : ServiceState) : Bool :=
  operation.action = .start && state = .starting

namespace RuntimeRecord

variable (runtime : RuntimeRecord) (serviceId : ServiceId)

/-- No operation is active. -/
def checkIdle : Except AdmissionRejection Unit :=
  match runtime.operation with
  | some operation => .error (.operationInProgress serviceId operation.action)
  | none => .ok ()

/-- No operation is active, except a start that may be cancelled. -/
def checkCancellable : Except AdmissionRejection Unit :=
  match runtime.operation with
  | some operation =>
    failIf (operation.cancellable runtime.state = false)
      (.operationInProgress serviceId operation.action)
  | none => .ok ()

end RuntimeRecord

namespace ServiceCatalog

variable (catalog : ServiceCatalog)

/-! ## Start -/

variable (root : ServiceId) (requester : AdmissionRequester)

/-- One turn of the loop of `admit_start` (L1368-1541). -/
def startItem (snapshot : AdmissionSnapshot)
    (forceRoot : Bool) (serviceId : ServiceId) :
    Except AdmissionRejection (Option StartPlanItem) := do
  let runtime ← okOr snapshot.services[serviceId]? (.evidenceUnknown serviceId)
  runtime.checkIdle serviceId
  let definition ← okOr catalog.services[serviceId]? (.unknownService serviceId)
  failIf (requesterMatchesScope requester definition.scope = false) (.requesterMismatch serviceId)
  let item (intent : Option LaunchIntent) : StartPlanItem := {
    serviceId, intent, fence := .capture serviceId runtime, expectedState := runtime.state,
    scope := definition.scope }
  let owned (allowInitialClaim : Bool) :=
    validateOwnership serviceId definition runtime .start requester allowInitialClaim
  let intent := mapErr (catalog.launchIntent serviceId) fun _ => .evidenceUnknown serviceId
  match runtime.state with
  | .healthy =>
    if serviceId ≠ root then do
      owned false
      return some (item none)
    else if forceRoot then do
      owned false
      return some (item (some (← intent)))
    else return none
  | .stopped => do
    owned true
    return some (item (some (← intent)))
  | .failed =>
    if serviceId = root then do
      owned false
      return some (item (some (← intent)))
    else .error (.dependencyNotReady root serviceId .failed)
  | .external =>
    if serviceId = root then .error (.externalNotControllable serviceId)
    else .error (.dependencyExternal root serviceId)
  | .starting => .error (.operationInProgress serviceId .start)
  | .stopping => .error (.operationInProgress serviceId .stop)
  | .unhealthy | .unknown =>
    if serviceId = root then .error (.evidenceUnknown serviceId)
    else .error (.dependencyNotReady root serviceId runtime.state)

/-- The loop of `admit_start` over the dependency plan. -/
def startItems (root : ServiceId) (requester : AdmissionRequester) (snapshot : AdmissionSnapshot)
    (forceRoot : Bool) : List ServiceId → Except AdmissionRejection (List StartPlanItem)
  | [] => .ok []
  | serviceId :: rest => do
    let item ← catalog.startItem root requester snapshot forceRoot serviceId
    let items ← startItems root requester snapshot forceRoot rest
    return item.toList ++ items

variable (definition : ServiceDefinition) (runtime : RuntimeRecord) (requester : AdmissionRequester)

variable (snapshot : AdmissionSnapshot)

/-- `admit_start` (L1299-1549), on the definition and the record that `admit` found. -/
def admitStart (forceRoot : Bool) :
    AdmissionDecision :=
  if runtime.state = .unknown then .refused (.evidenceUnknown root)
  else
    match validateOwnership root definition runtime .start requester true with
    | .error rejection => .refused rejection
    | .ok () =>
      match runtime.operation with
      | some operation =>
        if operation.cancellable runtime.state then .coalesced root operation.id .start
        else .refused (.operationInProgress root operation.action)
      | none =>
        if !forceRoot ∧ (runtime.state = .healthy ∨ runtime.state = .unhealthy) then
          .refused (.alreadyRunning root)
        else if runtime.state = .unknown ∨ runtime.state = .stopping then
          .refused (.evidenceUnknown root)
        else
          match catalog.dependencyPlan root with
          | .error _ => .refused (.evidenceUnknown root)
          | .ok dependencyPlan =>
            match catalog.startItems root requester snapshot forceRoot dependencyPlan with
            | .error rejection => .refused rejection
            | .ok ordered => .start ⟨root, requester, ordered⟩

/-! ## Stop -/

/-- One turn of the loop of `admit_stop` (L1624-1673). -/
def stopItem (serviceId : ServiceId) : Except AdmissionRejection (Option ServicePlanItem) := do
  let dependent ← okOr snapshot.services[serviceId]? (.evidenceUnknown serviceId)
  dependent.checkCancellable serviceId
  if dependent.state = .stopped ∨ dependent.state = .failed then return none
  else do
    failIf (dependent.state = .stopping) (.operationInProgress serviceId .stop)
    failIf (dependent.state = .unknown) (.evidenceUnknown serviceId)
    let definition ← okOr catalog.services[serviceId]? (.unknownService serviceId)
    validateOwnership serviceId definition dependent .stop requester false
    failIf (requesterMatchesScope requester definition.scope = false) (.requesterMismatch serviceId)
    return some {
      serviceId, fence := .capture serviceId dependent, expectedState := dependent.state,
      scope := definition.scope }

/-- The loop of `admit_stop` over the stop order. -/
def stopItems (requester : AdmissionRequester) (snapshot : AdmissionSnapshot) :
    List ServiceId → Except AdmissionRejection (List ServicePlanItem)
  | [] => .ok []
  | serviceId :: rest => do
    let item ← catalog.stopItem requester snapshot serviceId
    let items ← stopItems requester snapshot rest
    return item.toList ++ items

/-- `admit_stop` (L1551-1680), on the definition and the record that `admit` found. -/
def admitStop : AdmissionDecision :=
  match validateOwnership root definition runtime .stop requester false with
  | .error rejection => .refused rejection
  | .ok () =>
    let go : AdmissionDecision :=
      if runtime.state = .stopping then .refused (.operationInProgress root .stop)
      else if runtime.state = .stopped then .refused (.alreadyStopped root)
      else if runtime.state = .unknown then .refused (.evidenceUnknown root)
      else
        match catalog.stopItems requester snapshot
          (catalog.reverseSelectedOrder (catalog.stopClosure root)) with
        | .error rejection => .refused rejection
        | .ok ordered => .stop ⟨root, requester, ordered⟩
    match runtime.operation with
    | some operation =>
      if operation.action = .stop ∧ runtime.state = .stopping then
        .coalesced root operation.id .stop
      else if operation.cancellable runtime.state then go
      else .refused (.operationInProgress root operation.action)
    | none => go

/-! ## Restart -/

/-- `admit_restart`, L1682-1740 -/
def admitRestart : AdmissionDecision :=
  match validateOwnership root definition runtime .restart requester false with
  | .error rejection => .refused rejection
  | .ok () =>
    let go : AdmissionDecision :=
      match catalog.admitStop root definition runtime requester snapshot with
      | .stop stop =>
        match catalog.admitStart root definition runtime requester snapshot true with
        | .start start => .restart ⟨stop, start⟩
        | _ => .refused (.dependencyNotReady root root .unknown)
      | .coalesced _ _ _ => .refused (.operationInProgress root .stop)
      | decision => decision
    match runtime.operation with
    | some operation =>
      if operation.action = .restart then .coalesced root operation.id .restart else go
    | none => go

/-- `admit`, L1144-1189 -/
def admitRequest (request : AdmissionRequest) (snapshot : AdmissionSnapshot) : AdmissionDecision :=
  match catalog.services[request.serviceId]? with
  | none => .refused (.unknownService request.serviceId)
  | some definition =>
    if requesterMatchesScope request.requester definition.scope = false then
      .refused (.requesterMismatch request.serviceId)
    else
      match snapshot.services[request.serviceId]? with
      | none => .refused (.evidenceUnknown request.serviceId)
      | some runtime =>
        if runtime.fence ≠ request.fence then
          .refused (.staleFence request.serviceId runtime.fence request.fence)
        else if snapshot.closing definition.scope then .refused (.taskClosing request.serviceId)
        else
          match request.action with
          | .start =>
            catalog.admitStart request.serviceId definition runtime request.requester snapshot false
          | .stop =>
            catalog.admitStop request.serviceId definition runtime request.requester snapshot
          | .restart =>
            catalog.admitRestart request.serviceId definition runtime request.requester snapshot

/-! ## Closing a task -/

variable (taskId : TaskId) (snapshot : AdmissionSnapshot)

/-- `validate_task_close_snapshot_resources`, L3297-3320 -/
def validateTaskCloseSnapshotResources :
    Except AdmissionRejection Unit :=
  snapshot.services.toList.forM fun (serviceId, runtime) =>
    if runtime.ownership ≠ .task taskId then .ok ()
    else
      match catalog.services[serviceId]? with
      | none => .error (.taskOwnedResourceNotInCatalog serviceId taskId)
      | some definition =>
        failIf (definition.scope.taskId ≠ some taskId)
          (.taskOwnedResourceOutsideScope serviceId taskId)

/-- What `admit_task_close` checks of one service of the task (L1221-1270). -/
def closeMember (definition : ServiceDefinition) :
    Except AdmissionRejection Unit := do
  let runtime ← okOr snapshot.services[definition.id]? (.evidenceUnknown definition.id)
  failIf (runtime.state = .external ∨ runtime.ownership = .external)
    (.externalNotControllable definition.id)
  runtime.checkIdle definition.id
  failIf (runtime.state = .starting) (.operationInProgress definition.id .start)
  failIf (runtime.state = .stopping) (.operationInProgress definition.id .stop)
  failIf (runtime.state ≠ .stopped ∧ runtime.ownership ≠ .task taskId)
    (.ownershipMismatch definition.id (.task taskId) runtime.ownership)
  failIf (runtime.state = .stopped ∧ runtime.ownership ≠ .none)
    (.ownershipMismatch definition.id (.task taskId) runtime.ownership)

/-- The services of a task, in key order. -/
def taskDefinitions : List ServiceDefinition :=
  (catalog.services.toList.map Prod.snd).filter fun definition =>
    definition.scope.taskId = some taskId

/-- The member of a close plan (L1274-1290). -/
def closeItem (serviceId : ServiceId) : Option ServicePlanItem := do
  let definition ← catalog.services[serviceId]?
  let runtime ← snapshot.services[serviceId]?
  return {
    serviceId, fence := .capture serviceId runtime, expectedState := runtime.state,
    scope := definition.scope }

/-- `admit_task_close`, L1191-1297 -/
def admitTaskClose (epoch : ℕ) (snapshot : AdmissionSnapshot) :
    Except AdmissionRejection TaskClosePlan := do
  failIf (snapshot.closingTasks.contains taskId = false) (.taskCloseNotAdmitted taskId)
  let currentEpoch ← okOr snapshot.taskEpochs[taskId]? (.taskEpochStale taskId none epoch)
  failIf (currentEpoch ≠ epoch) (.taskEpochStale taskId (some currentEpoch) epoch)
  catalog.validateTaskCloseSnapshotResources taskId snapshot
  (catalog.taskDefinitions taskId).forM (closeMember taskId snapshot)
  let selected := (catalog.taskDefinitions taskId).foldl (fun selected definition =>
    selected.insert definition.id) (∅ : ExtTreeSet ServiceId)
  return {
    taskId, epoch,
    ordered := (catalog.reverseSelectedOrder selected).filterMap (catalog.closeItem snapshot) }

end ServiceCatalog

/-! ## Who is admitted -/

theorem expectedOwnership_ne_none {scope} {requester}
    {ownership} (h : expectedOwnership scope requester = some ownership) :
    ownership ≠ .none := by
  unfold expectedOwnership at h
  split at h
  · split_ifs at h
    cases h
    exact RuntimeOwnership.noConfusion
  · cases h
    exact RuntimeOwnership.noConfusion
  · cases h

theorem validateOwnership_eq_ok {serviceId definition runtime action requester} :
    validateOwnership serviceId definition runtime action requester false = .ok () ↔
      runtime.ownership ≠ .external ∧ runtime.state ≠ .external ∧
        expectedOwnership definition.scope requester = some runtime.ownership := by
  unfold validateOwnership
  by_cases hext : runtime.ownership = .external ∨ runtime.state = .external
  · rw [if_pos hext]
    simp only [reduceCtorEq, false_iff]
    rintro ⟨h₁, h₂, _⟩
    exact hext.elim h₁ h₂
  · rw [if_neg hext, if_neg (by simp)]
    rw [not_or] at hext
    cases hexp : expectedOwnership definition.scope requester with
    | none => simp
    | some expected =>
      by_cases howner : runtime.ownership = expected
      · have hiff : some expected = some runtime.ownership := by rw [howner]
        simp only [if_pos howner, true_iff]
        exact ⟨hext.1, hext.2, hiff⟩
      · simp only [if_neg howner, reduceCtorEq, false_iff, Option.some.injEq]
        exact fun h => howner h.2.2.symm

theorem expectedOwnership_of_matches {scope requester}
    (h : requesterMatchesScope requester scope = true) :
    (∃ taskId, scope = .task taskId ∧ requester = .task taskId ∧
        expectedOwnership scope requester = some (.task taskId)) ∨
      ∃ hostId, scope = .host ∧ requester = .host hostId ∧
        expectedOwnership scope requester = some (.host hostId) := by
  cases scope with
  | task taskId =>
    cases requester with
    | task other =>
      have hsame : other = taskId := by simpa [requesterMatchesScope] using h
      subst hsame
      exact .inl ⟨other, rfl, rfl, if_pos rfl⟩
    | host hostId => cases h
  | host =>
    cases requester with
    | task other => cases h
    | host => exact .inr ⟨_, rfl, rfl, rfl⟩

namespace RuntimeRecord

/-- The service is at rest. -/
def resting (runtime : RuntimeRecord) : Bool := runtime.state = .stopped || runtime.state = .failed

theorem resting_eq_true {runtime : RuntimeRecord} :
    runtime.resting = true ↔ runtime.state = .stopped ∨ runtime.state = .failed := by
  simp [resting]

theorem checkIdle_eq_ok {runtime : RuntimeRecord} {id} :
    runtime.checkIdle id = .ok () ↔ runtime.operation = none := by
  unfold checkIdle
  cases runtime.operation <;> simp

end RuntimeRecord

namespace AdmissionSnapshot

/-- The service is known not to be at rest. -/
def works (snapshot : AdmissionSnapshot) (serviceId : ServiceId) : Bool :=
  snapshot.services[serviceId]?.any fun runtime => !runtime.resting

theorem works_eq {snapshot : AdmissionSnapshot} {serviceId runtime}
    (h : snapshot.services[serviceId]? = some runtime) :
    snapshot.works serviceId = !runtime.resting := by
  unfold works
  rw [h, Option.any_some]

end AdmissionSnapshot

namespace ServiceCatalog

variable {catalog : ServiceCatalog} {snapshot : AdmissionSnapshot} {requester : AdmissionRequester}

/-- The record with which a member of a start plan that is to be launched was admitted. -/
structure Launchable (catalog : ServiceCatalog) (snapshot : AdmissionSnapshot) (root : ServiceId)
    (forceRoot : Bool) (item : StartPlanItem) (intent : LaunchIntent) (runtime : RuntimeRecord) :
    Prop where
  record : snapshot.services[item.serviceId]? = some runtime
  fence : item.fence = .capture item.serviceId runtime
  intent : catalog.launchIntent item.serviceId = .ok intent
  state : runtime.state = .stopped ∨ (runtime.state = .failed ∧ runtime.ownership ≠ .none) ∨
    (forceRoot = true ∧ item.serviceId = root ∧ runtime.state = .healthy)

variable {root : ServiceId}

/-- The record and the definition with which a member of a start plan was admitted. -/
structure Started (catalog : ServiceCatalog) (root : ServiceId) (requester : AdmissionRequester)
    (item : StartPlanItem) (runtime : RuntimeRecord) (definition : ServiceDefinition) : Prop where
  defined : catalog.services[item.serviceId]? = some definition
  idle : runtime.operation = none
  fence : item.fence = .capture item.serviceId runtime
  state : item.expectedState = runtime.state
  scope : item.scope = definition.scope
  requested : requesterMatchesScope requester definition.scope = true
  owner : runtime.ownership = .none ∨
    expectedOwnership definition.scope requester = some runtime.ownership
  intent : (item.intent = none ∧ item.serviceId ≠ root ∧ runtime.state = .healthy) ∨
    ∃ intent, catalog.launchIntent item.serviceId = .ok intent ∧ item.intent = some intent ∧
      (item.serviceId = root ∨ runtime.state = .stopped)

variable {serviceId : ServiceId} {forceRoot : Bool}

theorem owner_of_validateOwnership {definition : ServiceDefinition}
    {runtime} {action} {allowInitialClaim : Bool}
    (h : validateOwnership serviceId definition runtime action requester
      allowInitialClaim = .ok ()) :
    runtime.ownership = .none ∨
      expectedOwnership definition.scope requester = some runtime.ownership := by
  unfold validateOwnership at h
  split_ifs at h with hext hclaim
  · exact .inl hclaim.2.2.2
  · cases hexp : expectedOwnership definition.scope requester with
    | none => rw [hexp] at h; cases h
    | some expected =>
      rw [hexp] at h
      by_cases howner : runtime.ownership = expected
      · exact .inr (by rw [howner])
      · simp [howner] at h

theorem startItem_started {item : Option StartPlanItem}
    (h : catalog.startItem root requester snapshot forceRoot serviceId = .ok item) :
    ∃ runtime, snapshot.services[serviceId]? = some runtime ∧
      ((item = none ∧ serviceId = root ∧ forceRoot = false ∧ runtime.state = .healthy) ∨
        ∃ member definition, item = some member ∧ member.serviceId = serviceId ∧
          Started catalog root requester member runtime definition ∧
          ∀ intent, member.intent = some intent →
            Launchable catalog snapshot root forceRoot member intent runtime) := by
  unfold startItem at h
  simp only [ok_iff, Bool.not_eq_false, RuntimeRecord.checkIdle_eq_ok] at h
  obtain ⟨runtime, hrun, hid, definition, hdef, hreq, h⟩ := h
  refine ⟨runtime, hrun, ?_⟩
  have hlaunched : ∀ intent, (runtime.ownership = .none ∨
      expectedOwnership definition.scope requester = some runtime.ownership) →
      catalog.launchIntent serviceId = .ok intent → (serviceId = root ∨ runtime.state = .stopped) →
      (runtime.state = .stopped ∨ (runtime.state = .failed ∧ runtime.ownership ≠ .none) ∨
        (forceRoot = true ∧ serviceId = root ∧ runtime.state = .healthy)) →
      ∃ member defined, some ⟨serviceId, some intent, .capture serviceId runtime, runtime.state,
          definition.scope⟩ = some member ∧ member.serviceId = serviceId ∧
        Started catalog root requester member runtime defined ∧
        ∀ intent, member.intent = some intent →
          Launchable catalog snapshot root forceRoot member intent runtime :=
    fun intent howner hintent hroot hlaunch => ⟨_, definition, rfl, rfl,
      ⟨hdef, hid, rfl, rfl, rfl, hreq, howner, .inr ⟨intent, hintent, rfl, hroot⟩⟩, by
        rintro _ ⟨⟩
        exact ⟨hrun, rfl, hintent, hlaunch⟩⟩
  cases hstate : runtime.state <;> rw [hstate] at h hlaunched <;> simp only at h
  case stopped =>
    simp only [ok_iff] at h
    obtain ⟨howner, intent, hintent, rfl⟩ := h
    exact .inr (hlaunched intent (owner_of_validateOwnership howner) hintent (.inr rfl) (.inl rfl))
  case healthy =>
    split_ifs at h with hrow hforce
    · simp only [ok_iff] at h
      obtain ⟨howner, rfl⟩ := h
      refine .inr ⟨_, definition, rfl, rfl, ⟨hdef, hid, rfl, hstate.symm, rfl, hreq,
        owner_of_validateOwnership howner, .inl ⟨rfl, hrow, hstate⟩⟩, by rintro _ ⟨⟩⟩
    · simp only [ok_iff] at h
      obtain ⟨howner, intent, hintent, rfl⟩ := h
      exact .inr (hlaunched intent (owner_of_validateOwnership howner) hintent
        (.inl (not_not.mp hrow)) (.inr (.inr ⟨hforce, not_not.mp hrow, rfl⟩)))
    · exact .inl ⟨pure_eq_ok.mp h, not_not.mp hrow, by simpa using hforce, rfl⟩
  case failed =>
    split_ifs at h with hrow
    simp only [ok_iff] at h
    obtain ⟨howner, intent, hintent, rfl⟩ := h
    have howned := (validateOwnership_eq_ok.mp howner).2.2
    exact .inr (hlaunched intent (owner_of_validateOwnership howner) hintent (.inl hrow)
      (.inr (.inl ⟨rfl, expectedOwnership_ne_none howned⟩)))
  all_goals
    first
      | cases h
      | (split_ifs at h)

variable {ids : List ServiceId}

theorem startItems_spec :
    ∀ {items : List StartPlanItem},
      catalog.startItems root requester snapshot forceRoot ids = .ok items →
      (items.map (·.serviceId)).Sublist ids ∧
        ∀ item ∈ items, ∀ intent, item.intent = some intent →
          ∃ runtime, Launchable catalog snapshot root forceRoot item intent runtime := by
  induction ids with
  | nil =>
    intro items h
    cases h
    simp
  | cons serviceId rest ih =>
    intro items h
    unfold startItems at h
    simp only [ok_iff] at h
    obtain ⟨item, hitem, items', hitems, rfl⟩ := h
    obtain ⟨hsub, hmem⟩ := ih hitems
    obtain ⟨runtime, -, ⟨rfl, -⟩ | ⟨member, -, rfl, hid, -, hlaunch⟩⟩ := startItem_started hitem
    · exact ⟨hsub.cons serviceId, hmem⟩
    · rw [Option.toList_some, singleton_append, map_cons, hid]
      refine ⟨hsub.cons_cons serviceId, fun other hother => ?_⟩
      rcases mem_cons.mp hother with rfl | hother
      · exact fun intent h => ⟨runtime, hlaunch intent h⟩
      · exact hmem other hother

/-- The record with which a member of a stop plan was admitted. -/
structure Stoppable (snapshot : AdmissionSnapshot) (item : ServicePlanItem)
    (runtime : RuntimeRecord) : Prop where
  record : snapshot.services[item.serviceId]? = some runtime
  fence : item.fence = .capture item.serviceId runtime
  state : runtime.state ≠ .stopped ∧ runtime.state ≠ .failed

/-- The record and the definition with which a member of a stop plan was admitted. -/
structure Stopping (catalog : ServiceCatalog) (requester : AdmissionRequester)
    (item : ServicePlanItem) (runtime : RuntimeRecord) (definition : ServiceDefinition) : Prop where
  defined : catalog.services[item.serviceId]? = some definition
  fence : item.fence = .capture item.serviceId runtime
  state : item.expectedState = runtime.state
  scope : item.scope = definition.scope
  requested : requesterMatchesScope requester definition.scope = true
  owner : validateOwnership item.serviceId definition runtime .stop requester false = .ok ()
  works : runtime.resting = false
  still : runtime.state ≠ .stopping ∧ runtime.state ≠ .unknown

theorem stopItem_eq_ok {item : Option ServicePlanItem} :
    catalog.stopItem requester snapshot serviceId = .ok item ↔
      ∃ runtime, snapshot.services[serviceId]? = some runtime ∧
        runtime.checkCancellable serviceId = .ok () ∧
        ((runtime.resting = true ∧ item = none) ∨ ∃ member definition, item = some member ∧
          member.serviceId = serviceId ∧ Stopping catalog requester member runtime definition) := by
  unfold stopItem
  simp only [ok_iff]
  refine exists_congr fun runtime => and_congr_right fun _ => and_congr_right fun _ => ?_
  by_cases hrest : runtime.state = .stopped ∨ runtime.state = .failed
  · rw [if_pos hrest, pure_eq_ok]
    have hres : runtime.resting = true := RuntimeRecord.resting_eq_true.mpr hrest
    constructor
    · exact fun h => .inl ⟨hres, h⟩
    · rintro (⟨_, h⟩ | ⟨member, definition, _, _, hstop⟩)
      · exact h
      · rw [hstop.works] at hres
        cases hres
  · rw [if_neg hrest]
    have hws : runtime.resting = false := by
      rw [← Bool.not_eq_true, RuntimeRecord.resting_eq_true]
      exact hrest
    simp only [ok_iff, hws, Bool.false_eq_true, false_and, false_or, Bool.not_eq_false]
    constructor
    · rintro ⟨hstop, hunknown, definition, hdef, howner, hreq, rfl⟩
      exact ⟨_, definition, rfl, rfl, hdef, rfl, rfl, rfl, hreq, howner, hws, hstop, hunknown⟩
    · rintro ⟨member, definition, rfl, rfl, h⟩
      refine ⟨h.still.1, h.still.2, definition, h.defined, h.owner, h.requested, ?_⟩
      rw [← h.fence, ← h.state, ← h.scope]

theorem stopItems_eq_ok :
    ∀ {items : List ServicePlanItem}, catalog.stopItems requester snapshot ids = .ok items ↔
      (∀ id ∈ ids, ∃ runtime, snapshot.services[id]? = some runtime ∧
        runtime.checkCancellable id = .ok ()) ∧
      items.map (·.serviceId) = ids.filter snapshot.works ∧
      ∀ item ∈ items, ∃ runtime definition, snapshot.services[item.serviceId]? = some runtime ∧
        Stopping catalog requester item runtime definition := by
  induction ids with
  | nil =>
    intro items
    rw [stopItems, Except.ok.injEq]
    constructor
    · rintro rfl
      simp
    · rintro ⟨_, hids, _⟩
      exact (map_eq_nil_iff.mp hids).symm
  | cons serviceId rest ih =>
    intro items
    unfold stopItems
    simp only [ok_iff, stopItem_eq_ok]
    constructor
    · rintro ⟨item, ⟨runtime, hrun, hcheck, hcase⟩, items', hitems, rfl⟩
      obtain ⟨hchecks, hids, hmemId⟩ := ih.mp hitems
      have hall : ∀ id ∈ serviceId :: rest, ∃ runtime,
          snapshot.services[id]? = some runtime ∧ runtime.checkCancellable id = .ok () := by
        intro id hid
        rcases mem_cons.mp hid with rfl | hid
        · exact ⟨runtime, hrun, hcheck⟩
        · exact hchecks id hid
      have hws := AdmissionSnapshot.works_eq hrun
      rcases hcase with ⟨hres, rfl⟩ | ⟨member, definition, rfl, hid, hstop⟩
      · refine ⟨hall, ?_, hmemId⟩
        rw [filter_cons_of_neg (by simp [hws, hres])]
        exact hids
      · refine ⟨hall, ?_, fun other hother => ?_⟩
        · rw [filter_cons_of_pos (by simp [hws, hstop.works]), Option.toList_some,
            singleton_append, map_cons, hid, hids]
        · rcases mem_cons.mp hother with rfl | hother
          · exact ⟨runtime, definition, hid ▸ hrun, hstop⟩
          · exact hmemId other hother
    · rintro ⟨hchecks, hids, hmemId⟩
      obtain ⟨runtime, hrun, hcheck⟩ := hchecks serviceId (.head _)
      have hrest : ∀ id ∈ rest, ∃ runtime, snapshot.services[id]? = some runtime ∧
          runtime.checkCancellable id = .ok () := fun id hid =>
        hchecks id (mem_cons_of_mem serviceId hid)
      have hws := AdmissionSnapshot.works_eq hrun
      by_cases hres : runtime.resting = true
      · rw [filter_cons_of_neg (by simp [hws, hres])] at hids
        exact ⟨none, ⟨runtime, hrun, hcheck, .inl ⟨hres, rfl⟩⟩, items,
          ih.mpr ⟨hrest, hids, hmemId⟩, rfl⟩
      · rw [filter_cons_of_pos (by simp [hws, hres])] at hids
        obtain ⟨member, items', rfl, hid, hid'⟩ := map_eq_cons_iff.mp hids
        obtain ⟨record, definition, hrec, hstop⟩ := hmemId member (.head _)
        rw [hid, hrun] at hrec
        cases hrec
        refine ⟨some member, ⟨runtime, hrun, hcheck, .inr ⟨member, definition, rfl, hid,
          hstop⟩⟩, items', ih.mpr ⟨hrest, hid', fun other hother => ?_⟩, rfl⟩
        exact hmemId other (mem_cons_of_mem member hother)

theorem stopItems_spec {items : List ServicePlanItem}
    (h : catalog.stopItems requester snapshot ids = .ok items) :
    (items.map (·.serviceId)).Sublist ids ∧
      (∀ item ∈ items, ∃ runtime, Stoppable snapshot item runtime) ∧
      ∀ id ∈ ids, ∀ runtime, snapshot.services[id]? = some runtime →
        runtime.state ≠ .stopped → runtime.state ≠ .failed → id ∈ items.map (·.serviceId) := by
  obtain ⟨-, hids, hmem⟩ := stopItems_eq_ok.mp h
  rw [hids]
  refine ⟨filter_sublist, fun item hitem => ?_, fun id hid runtime hrun h₁ h₂ => ?_⟩
  · obtain ⟨runtime, definition, hrun, hstop⟩ := hmem item hitem
    refine ⟨runtime, hrun, hstop.fence, ?_⟩
    simpa [RuntimeRecord.resting] using hstop.works
  · rw [mem_filter, AdmissionSnapshot.works_eq hrun]
    exact ⟨hid, by simp [RuntimeRecord.resting, h₁, h₂]⟩

theorem stopItems_of_each
    (h : ∀ id ∈ ids, ∃ item, catalog.stopItem requester snapshot id = .ok item) :
    ∃ items, catalog.stopItems requester snapshot ids = .ok items := by
  induction ids with
  | nil => exact ⟨[], rfl⟩
  | cons serviceId rest ih =>
    obtain ⟨item, hitem⟩ := h serviceId (.head _)
    obtain ⟨items, hitems⟩ := ih fun id hid => h id (.tail _ hid)
    refine ⟨item.toList ++ items, ?_⟩
    unfold stopItems
    rw [hitem, hitems]
    rfl

/-- What a stop plan was admitted on. -/
structure StopAdmission (catalog : ServiceCatalog) (root : ServiceId)
    (requester : AdmissionRequester) (snapshot : AdmissionSnapshot) (definition : ServiceDefinition)
    (runtime : RuntimeRecord) (plan : StopPlan) : Prop where
  sameRoot : plan.root = root
  sameRequester : plan.requester = requester
  owner : validateOwnership root definition runtime .stop requester false = .ok ()
  cancellable : runtime.checkCancellable root = .ok ()
  still : runtime.state ≠ .stopping ∧ runtime.state ≠ .stopped ∧ runtime.state ≠ .unknown
  items : catalog.stopItems requester snapshot
    (catalog.reverseSelectedOrder (catalog.stopClosure root)) = .ok plan.ordered

theorem admitStop_eq_stop {definition runtime plan} :
    catalog.admitStop root definition runtime requester snapshot = .stop plan ↔
      StopAdmission catalog root requester snapshot definition runtime plan := by
  unfold admitStop
  cases howner : validateOwnership root definition runtime .stop requester false with
  | error rejection =>
    constructor
    · rintro ⟨⟩
    · intro h
      have hok := h.owner
      rw [howner] at hok
      cases hok
  | ok done =>
    dsimp -zeta only
    extract_lets go
    have hgone : go = .stop plan ↔
        (runtime.state ≠ .stopping ∧ runtime.state ≠ .stopped ∧ runtime.state ≠ .unknown) ∧
          plan.root = root ∧ plan.requester = requester ∧
            catalog.stopItems requester snapshot
              (catalog.reverseSelectedOrder (catalog.stopClosure root)) = .ok plan.ordered := by
      obtain ⟨planRoot, planRequester, ordered⟩ := plan
      unfold go
      by_cases hstep : runtime.state = .stopping
      · simp [hstep]
      by_cases hstopped : runtime.state = .stopped
      · simp [hstopped]
      by_cases hunknown : runtime.state = .unknown
      · simp [hunknown]
      rw [if_neg hstep, if_neg hstopped, if_neg hunknown]
      cases hitems : catalog.stopItems requester snapshot
        (catalog.reverseSelectedOrder (catalog.stopClosure root)) with
      | error rejection => simp
      | ok items => simp [hstep, hstopped, hunknown, eq_comm]
    have hadmits : ((runtime.state ≠ .stopping ∧ runtime.state ≠ .stopped ∧
        runtime.state ≠ .unknown) ∧ plan.root = root ∧ plan.requester = requester ∧
          catalog.stopItems requester snapshot
            (catalog.reverseSelectedOrder (catalog.stopClosure root)) = .ok plan.ordered) ∧
        runtime.checkCancellable root = .ok () ↔
          StopAdmission catalog root requester snapshot definition runtime plan :=
      ⟨fun h => ⟨h.1.2.1, h.1.2.2.1, howner, h.2, h.1.1, h.1.2.2.2⟩,
        fun h => ⟨⟨h.still, h.sameRoot, h.sameRequester, h.items⟩, h.cancellable⟩⟩
    rw [← hadmits]
    unfold RuntimeRecord.checkCancellable
    cases hop : runtime.operation with
    | none =>
      simp only [and_true]
      exact hgone
    | some operation =>
      simp only [failIf_eq_ok, Bool.not_eq_false]
      by_cases hstop : operation.action = .stop ∧ runtime.state = .stopping
      · rw [if_pos hstop]
        simp [hstop.2]
      · rw [if_neg hstop]
        split_ifs with hcan
        · exact hgone.trans (by simp [hcan])
        · simp [hcan]

theorem admitStop_of_rest {definition runtime} (hdef : catalog.services[root]? = some definition)
    (hrec : snapshot.services[root]? = some runtime)
    (hreq : requesterMatchesScope requester definition.scope = true)
    (howner : expectedOwnership definition.scope requester = some runtime.ownership)
    (hstate : runtime.state = .starting ∨ runtime.state = .healthy ∨ runtime.state = .unhealthy)
    (hop : ∀ operation, runtime.operation = some operation →
      operation.cancellable runtime.state = true)
    (hrest : ∀ id, id ≠ root → id ∈ catalog.services → catalog.Reaches id root →
      ∃ dependent, snapshot.services[id]? = some dependent ∧
        (dependent.state = .stopped ∨ dependent.state = .failed) ∧ dependent.operation = none) :
    ∃ plan, catalog.admitStop root definition runtime requester snapshot = .stop plan ∧
      root ∈ plan.ordered.map (·.serviceId) := by
  have hext : runtime.ownership ≠ .external := by
    rcases expectedOwnership_of_matches hreq with ⟨taskId, _, _, h⟩ | ⟨hostId, _, _, h⟩
    all_goals
      rw [howner] at h
      rw [Option.some.inj h]
      exact RuntimeOwnership.noConfusion
  obtain ⟨hws, hstop, hunknown, hlive⟩ : runtime.resting = false ∧ runtime.state ≠ .stopping ∧
      runtime.state ≠ .unknown ∧ runtime.state ≠ .external := by
    rcases hstate with h | h | h <;> simp [RuntimeRecord.resting, h]
  have hvalid : validateOwnership root definition runtime .stop requester false = .ok () :=
    validateOwnership_eq_ok.mpr ⟨hext, hlive, howner⟩
  have hcheck : runtime.checkCancellable root = .ok () := by
    unfold RuntimeRecord.checkCancellable
    cases h : runtime.operation with
    | none => rfl
    | some operation => simp [hop operation h]
  have hmember : Stopping catalog requester
      ⟨root, .capture root runtime, runtime.state, definition.scope⟩ runtime definition :=
    ⟨hdef, rfl, rfl, rfl, hreq, hvalid, hws, hstop, hunknown⟩
  have hord := reverseSelectedOrder_spec catalog (catalog.stopClosure root)
  have heach : ∀ id ∈ catalog.reverseSelectedOrder (catalog.stopClosure root),
      ∃ item, catalog.stopItem requester snapshot id = .ok item := by
    intro id hid
    by_cases h : id = root
    · subst h
      exact ⟨_, stopItem_eq_ok.mpr ⟨runtime, hrec, hcheck, .inr ⟨_, definition, rfl, rfl, hmember⟩⟩⟩
    · have hclosure := hord.2.1 id hid
      obtain ⟨dependent, hdep, hat, hidle⟩ :=
        hrest id h ((mem_stopClosure.mp hclosure).resolve_left h).1
        (reaches_of_mem_stopClosure hclosure)
      exact ⟨none, stopItem_eq_ok.mpr ⟨dependent, hdep,
        by rw [RuntimeRecord.checkCancellable, hidle],
        .inl ⟨RuntimeRecord.resting_eq_true.mpr hat, rfl⟩⟩⟩
  obtain ⟨items, hitems⟩ := stopItems_of_each heach
  refine ⟨⟨root, requester, items⟩, admitStop_eq_stop.mpr ⟨rfl, rfl, hvalid, hcheck,
    ⟨hstop, fun h => ?_, hunknown⟩, hitems⟩, ?_⟩
  · rw [RuntimeRecord.resting_eq_true.mpr (.inl h)] at hws
    cases hws
  · rw [(stopItems_eq_ok.mp hitems).2.1, mem_filter, AdmissionSnapshot.works_eq hrec, hws]
    exact ⟨hord.2.2 root (mem_stopClosure.mpr (.inl rfl))
      (OrdMap.mem_iff_exists.mpr ⟨definition, hdef⟩), rfl⟩

theorem closeItems_spec :
    ((ids.filterMap (catalog.closeItem snapshot)).map (·.serviceId)).Sublist ids ∧
      ∀ item ∈ ids.filterMap (catalog.closeItem snapshot), ∃ runtime,
        snapshot.services[item.serviceId]? = some runtime ∧
          item.fence = .capture item.serviceId runtime := by
  have hitem : ∀ id item, catalog.closeItem snapshot id = some item →
      item.serviceId = id ∧ ∃ runtime,
        snapshot.services[id]? = some runtime ∧ item.fence = .capture id runtime := by
    intro id item h
    unfold closeItem at h
    simp only [Option.bind_eq_bind, Option.bind_eq_some_iff, Option.pure_def] at h
    obtain ⟨definition, _, runtime, hrun, hitem⟩ := h
    cases hitem
    exact ⟨rfl, runtime, hrun, rfl⟩
  constructor
  · induction ids with
    | nil => exact List.Sublist.refl _
    | cons id ids ih =>
      cases h : catalog.closeItem snapshot id with
      | none =>
        rw [filterMap_cons_none h]
        exact ih.cons id
      | some item =>
        rw [filterMap_cons_some h, map_cons, (hitem id item h).1]
        exact ih.cons_cons id
  · intro item hmem
    obtain ⟨id, _, h⟩ := mem_filterMap.mp hmem
    obtain ⟨hid, hrun⟩ := hitem id item h
    rw [hid]
    exact hrun

end ServiceCatalog

/-! ## Revalidation -/

/-- The ownership that a member was captured with is that of a closing task. -/
def AdmissionSnapshot.closingOwner (snapshot : AdmissionSnapshot) : RuntimeOwnership → Bool
  | .task taskId => snapshot.closingTasks.contains taskId
  | _ => false

/-- The active operation of a member (L3396-3410). -/
def ServicePlanItem.checkOperation (item : ServicePlanItem) (runtime : RuntimeRecord)
    (allowStartCancellation : Bool) : Except AdmissionRejection Unit :=
  if allowStartCancellation ∧ item.expectedState = .starting then
    runtime.checkCancellable item.serviceId
  else runtime.checkIdle item.serviceId

/-- `revalidate_service_item_inner`, L3358-3412 -/
def ServicePlanItem.revalidate (item : ServicePlanItem) (snapshot : AdmissionSnapshot)
    (rejectClosing allowStartCancellation : Bool) : Except AdmissionRejection Unit := do
  failIf (rejectClosing ∧ snapshot.closing item.scope) (.taskClosing item.serviceId)
  failIf (rejectClosing ∧ snapshot.closingOwner item.fence.ownership) (.taskClosing item.serviceId)
  let runtime ← okOr snapshot.services[item.serviceId]? (.evidenceUnknown item.serviceId)
  failIf (item.fence.serviceId ≠ item.serviceId ∨
    runtime.fence.resourceGeneration ≠ item.fence.resourceGeneration ∨
    runtime.fence.connectionEpoch ≠ item.fence.connectionEpoch ∨
    runtime.fence.actionEpoch ≠ item.fence.actionEpoch ∨
    runtime.ownership ≠ item.fence.ownership ∨ runtime.state ≠ item.expectedState)
    (.planStale item.serviceId)
  item.checkOperation runtime allowStartCancellation

/-- `revalidate_start_item`, L3322-3335 -/
def StartPlanItem.revalidate (item : StartPlanItem) (snapshot : AdmissionSnapshot) :
    Except AdmissionRejection Unit :=
  ServicePlanItem.revalidate ⟨item.serviceId, item.fence, item.expectedState, item.scope⟩ snapshot
    true false

namespace StartPlan

variable (plan : StartPlan) (catalog : ServiceCatalog)

/-- What `validate_start_plan` checks of one member (L3158-3188). -/
def validateItem (item : StartPlanItem) :
    Except AdmissionRejection Unit := do
  let definition ← okOr catalog.services[item.serviceId]? (.planStale item.serviceId)
  failIf (item.fence.serviceId ≠ item.serviceId ∨ item.scope ≠ definition.scope ∨
    requesterMatchesScope plan.requester definition.scope = false) (.planStale item.serviceId)
  let expectedIntent ← mapErr (catalog.launchIntent item.serviceId)
    fun _ => .planStale item.serviceId
  let requiresIntent := item.serviceId = plan.root ∨ item.expectedState = .stopped ∨
    item.expectedState = .failed
  failIf (¬ (item.intent = some expectedIntent ∧ requiresIntent ∨
    item.intent = none ∧ ¬ requiresIntent)) (.planStale item.serviceId)

/-- `validate_start_plan`, L3123-3190 -/
def validate : Except AdmissionRejection Unit := do
  let definition ← okOr catalog.services[plan.root]? (.planStale plan.root)
  failIf (requesterMatchesScope plan.requester definition.scope = false) (.planStale plan.root)
  let expectedOrder ← mapErr (catalog.dependencyPlan plan.root) fun _ => .planStale plan.root
  failIf (plan.ordered.map (·.serviceId) ≠ expectedOrder) (.planStale plan.root)
  plan.ordered.forM (plan.validateItem catalog)

/-- `revalidate`, L2222-2232 -/
def revalidate (snapshot : AdmissionSnapshot) :
    Except AdmissionRejection Unit := do
  plan.validate catalog
  plan.ordered.forM (·.revalidate snapshot)

end StartPlan

namespace StopPlan

variable (plan : StopPlan) (catalog : ServiceCatalog)

/-- What `validate_stop_plan` checks of one member (L3234-3249). -/
def validateItem (item : ServicePlanItem) :
    Except AdmissionRejection Unit := do
  let definition ← okOr catalog.services[item.serviceId]? (.planStale item.serviceId)
  failIf (item.fence.serviceId ≠ item.serviceId ∨ item.scope ≠ definition.scope ∨
    requesterMatchesScope plan.requester definition.scope = false) (.planStale item.serviceId)

variable (snapshot : AdmissionSnapshot)

/-- The members that `validate_stop_plan` expects (L3215-3223). -/
def expectedOrder (selected : ExtTreeSet ServiceId) : List ServiceId :=
  (catalog.reverseSelectedOrder selected).filter fun serviceId =>
    snapshot.services[serviceId]?.any fun runtime =>
      runtime.state ≠ .stopped && runtime.state ≠ .failed

/-- `validate_stop_plan`, L3192-3251 -/
def validate :
    Except AdmissionRejection Unit := do
  let definition ← okOr catalog.services[plan.root]? (.planStale plan.root)
  failIf (requesterMatchesScope plan.requester definition.scope = false) (.planStale plan.root)
  let selected := catalog.stopClosure plan.root
  selected.toList.forM fun serviceId =>
    failIf (serviceId ∉ snapshot.services) (.evidenceUnknown serviceId)
  failIf (plan.ordered.map (·.serviceId) ≠ expectedOrder catalog snapshot selected)
    (.planStale plan.root)
  plan.ordered.forM (plan.validateItem catalog)

/-- `revalidate`, L2246-2256 -/
def revalidate :
    Except AdmissionRejection Unit := do
  plan.validate catalog snapshot
  plan.ordered.forM (·.revalidate snapshot true true)

end StopPlan

/-- `revalidate`, L2270-2277 -/
def RestartPlan.revalidate (plan : RestartPlan) (catalog : ServiceCatalog)
    (snapshot : AdmissionSnapshot) : Except AdmissionRejection Unit := do
  plan.stop.revalidate catalog snapshot
  plan.start.revalidate catalog snapshot

namespace TaskClosePlan

variable (plan : TaskClosePlan) (catalog : ServiceCatalog)

/-- What `validate_close_plan` checks of one member (L3279-3293). -/
def validateItem (item : ServicePlanItem) :
    Except AdmissionRejection Unit := do
  let definition ← okOr catalog.services[item.serviceId]? (.planStale item.serviceId)
  failIf (item.fence.serviceId ≠ item.serviceId ∨ item.scope ≠ definition.scope ∨
    definition.scope.taskId ≠ some plan.taskId) (.planStale item.serviceId)

/-- `validate_close_plan`, L3253-3295 -/
def validate : Except AdmissionRejection Unit := do
  let selected := (catalog.taskDefinitions plan.taskId).foldl (fun selected definition =>
    selected.insert definition.id) (∅ : ExtTreeSet ServiceId)
  let expectedOrder := catalog.reverseSelectedOrder selected
  let service := (plan.ordered.head?.map (·.serviceId)).or expectedOrder.head?
  failIf (plan.ordered.map (·.serviceId) ≠ expectedOrder) (.planStale (service.getD ⟨"plan"⟩))
  plan.ordered.forM (plan.validateItem catalog)

/-- What `revalidate` checks of one member (L2314-2339). -/
def revalidateItem (snapshot : AdmissionSnapshot) (item : ServicePlanItem) :
    Except AdmissionRejection Unit := do
  failIf (item.scope ≠ .task plan.taskId) (.planStale item.serviceId)
  failIf (item.fence.ownership ≠ .task plan.taskId ∧
    ¬ (item.expectedState = .stopped ∧ item.fence.ownership = .none)) (.planStale item.serviceId)
  item.revalidate snapshot false false

/-- `revalidate`, L2295-2342 -/
def revalidate (snapshot : AdmissionSnapshot) :
    Except AdmissionRejection Unit := do
  plan.validate catalog
  failIf (snapshot.closingTasks.contains plan.taskId = false) (.taskCloseNotAdmitted plan.taskId)
  failIf (snapshot.taskEpochs[plan.taskId]? ≠ some plan.epoch)
    (.taskEpochStale plan.taskId snapshot.taskEpochs[plan.taskId]? plan.epoch)
  catalog.validateTaskCloseSnapshotResources plan.taskId snapshot
  plan.ordered.forM (plan.revalidateItem snapshot)

end TaskClosePlan

end DevManager
