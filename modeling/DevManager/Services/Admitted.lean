import DevManager.Services.Admission

/-!
# Which plans are admitted

* `admitRequest_decision`: the decisions on a request.
* `StartDecision.members`, `StopDecision.members`, `admitTaskClose_members`: the
  members of an admitted plan.
-/

namespace DevManager

open Std (ExtTreeMap)

namespace ServiceCatalog

/-- What `admit_start` decides: a plan is a start plan over the dependency plan. -/
inductive StartDecision (catalog : ServiceCatalog) (root : ServiceId)
    (requester : AdmissionRequester) (snapshot : AdmissionSnapshot) (forceRoot : Bool) :
    AdmissionDecision → Prop
  | refused (rejection : AdmissionRejection) :
    StartDecision catalog root requester snapshot forceRoot (.refused rejection)
  | coalesced (operationId : ℕ) :
    StartDecision catalog root requester snapshot forceRoot (.coalesced root operationId .start)
  | plan (ids : List ServiceId) (ordered : List StartPlanItem)
    (hplan : catalog.dependencyPlan root = .ok ids)
    (hitems : catalog.startItems root requester snapshot forceRoot ids = .ok ordered) :
    StartDecision catalog root requester snapshot forceRoot (.start ⟨root, requester, ordered⟩)

/-- What `admit_stop` decides: a plan is a stop plan over the stop order. -/
inductive StopDecision (catalog : ServiceCatalog) (root : ServiceId)
    (requester : AdmissionRequester) (snapshot : AdmissionSnapshot) : AdmissionDecision → Prop
  | refused (rejection : AdmissionRejection) :
    StopDecision catalog root requester snapshot (.refused rejection)
  | coalesced (operationId : ℕ) :
    StopDecision catalog root requester snapshot (.coalesced root operationId .stop)
  | plan (ordered : List ServicePlanItem)
    (hitems : catalog.stopItems requester snapshot
      (catalog.reverseSelectedOrder (catalog.stopClosure root)) = .ok ordered) :
    StopDecision catalog root requester snapshot (.stop ⟨root, requester, ordered⟩)

/-- What `admit_restart` decides: a plan is a stop plan and a start plan of a forced root. -/
inductive RestartDecision (catalog : ServiceCatalog) (root : ServiceId)
    (requester : AdmissionRequester) (snapshot : AdmissionSnapshot) : AdmissionDecision → Prop
  | refused (rejection : AdmissionRejection) :
    RestartDecision catalog root requester snapshot (.refused rejection)
  | coalesced (operationId : ℕ) :
    RestartDecision catalog root requester snapshot (.coalesced root operationId .restart)
  | plan (stop : StopPlan) (start : StartPlan)
    (hstop : StopDecision catalog root requester snapshot (.stop stop))
    (hstart : StartDecision catalog root requester snapshot true (.start start)) :
    RestartDecision catalog root requester snapshot (.restart ⟨stop, start⟩)

variable (catalog : ServiceCatalog) (root : ServiceId) (definition : ServiceDefinition)
  (runtime : RuntimeRecord) (requester : AdmissionRequester) (snapshot : AdmissionSnapshot)

theorem admitStart_decision (forceRoot : Bool) :
    StartDecision catalog root requester snapshot forceRoot
      (catalog.admitStart root definition runtime requester snapshot forceRoot) := by
  unfold admitStart
  by_cases hunknown : runtime.state = .unknown
  · rw [if_pos hunknown]
    exact .refused _
  · rw [if_neg hunknown]
    split
    · exact .refused _
    · split
      · split
        · exact .coalesced _
        · exact .refused _
      · split
        · exact .refused _
        · split
          · exact .refused _
          · split
            · exact .refused _
            · rename_i ids hplan
              split
              · exact .refused _
              · rename_i ordered hitems
                exact .plan ids ordered hplan hitems

theorem StopDecision.of_operation {decision}
    (h : StopDecision catalog root requester snapshot decision) :
    StopDecision catalog root requester snapshot (match runtime.operation with
        | some operation =>
          if operation.action = .stop ∧ runtime.state = .stopping then
            .coalesced root operation.id .stop
          else if operation.cancellable runtime.state then decision
          else .refused (.operationInProgress root operation.action)
        | none => decision) := by
  split
  · split
    · exact .coalesced _
    · split
      · exact h
      · exact .refused _
  · exact h

theorem admitStop_decision :
    StopDecision catalog root requester snapshot
      (catalog.admitStop root definition runtime requester snapshot) := by
  unfold admitStop
  split
  · exact .refused _
  · refine StopDecision.of_operation catalog root runtime requester snapshot ?_
    split
    · exact .refused _
    · split
      · exact .refused _
      · split
        · exact .refused _
        · split
          · exact .refused _
          · rename_i ordered hitems
            exact .plan ordered hitems

theorem admitRestart_decision :
    RestartDecision catalog root requester snapshot
      (catalog.admitRestart root definition runtime requester snapshot) := by
  have hstop := admitStop_decision catalog root definition runtime requester snapshot
  have hstart := admitStart_decision catalog root definition runtime requester snapshot true
  have hop : ∀ decision, RestartDecision catalog root requester snapshot decision →
      RestartDecision catalog root requester snapshot (match runtime.operation with
          | some operation =>
            if operation.action = .restart then .coalesced root operation.id .restart else decision
          | none => decision) := by
    intro decision h
    split
    · split
      · exact .coalesced _
      · exact h
    · exact h
  unfold admitRestart
  split
  · exact .refused _
  · refine hop _ ?_
    split
    · rename_i stop hstopEq
      split
      · rename_i start hstartEq
        exact .plan stop start (hstopEq ▸ hstop) (hstartEq ▸ hstart)
      · exact .refused _
    · exact .refused _
    · rename_i hnotStop hnotCoalesced
      cases hdec : catalog.admitStop root definition runtime requester snapshot with
      | refused rejection => exact .refused rejection
      | stop plan => exact absurd hdec (hnotStop plan)
      | coalesced service operationId action =>
        exact absurd hdec (hnotCoalesced service operationId action)
      | start | restart =>
        rw [hdec] at hstop
        cases hstop

/-! ## Requests -/

/-- What `admit` decides on a request: a plan is one for the action of the request. -/
inductive RequestDecision (catalog : ServiceCatalog) (request : AdmissionRequest)
    (snapshot : AdmissionSnapshot) : AdmissionDecision → Prop
  | refused (rejection : AdmissionRejection) :
    RequestDecision catalog request snapshot (.refused rejection)
  | coalesced (service : ServiceId) (operationId : ℕ) (action : ServiceAction) :
    RequestDecision catalog request snapshot (.coalesced service operationId action)
  | start (plan : StartPlan) (haction : request.action = .start)
    (h : StartDecision catalog request.serviceId request.requester snapshot false (.start plan)) :
    RequestDecision catalog request snapshot (.start plan)
  | stop (plan : StopPlan) (haction : request.action = .stop)
    (h : StopDecision catalog request.serviceId request.requester snapshot (.stop plan)) :
    RequestDecision catalog request snapshot (.stop plan)
  | restart (stop : StopPlan) (start : StartPlan) (haction : request.action = .restart)
    (hstop : StopDecision catalog request.serviceId request.requester snapshot (.stop stop))
    (hstart : StartDecision catalog request.serviceId request.requester snapshot true
      (.start start)) :
    RequestDecision catalog request snapshot (.restart ⟨stop, start⟩)

section Request

variable {catalog snapshot} {request : AdmissionRequest} {decision : AdmissionDecision}

theorem StartDecision.ofRequest (haction : request.action = .start)
    (h : StartDecision catalog request.serviceId request.requester snapshot false decision) :
    RequestDecision catalog request snapshot decision := by
  cases h with
  | refused => exact .refused _
  | coalesced => exact .coalesced _ _ _
  | plan ids ordered hplan hitems => exact .start _ haction (.plan ids ordered hplan hitems)

theorem StopDecision.ofRequest (haction : request.action = .stop)
    (h : StopDecision catalog request.serviceId request.requester snapshot decision) :
    RequestDecision catalog request snapshot decision := by
  cases h with
  | refused => exact .refused _
  | coalesced => exact .coalesced _ _ _
  | plan ordered hitems => exact .stop _ haction (.plan ordered hitems)

theorem RestartDecision.ofRequest (haction : request.action = .restart)
    (h : RestartDecision catalog request.serviceId request.requester snapshot decision) :
    RequestDecision catalog request snapshot decision := by
  cases h with
  | refused => exact .refused _
  | coalesced => exact .coalesced _ _ _
  | plan stop start hstop hstart => exact .restart stop start haction hstop hstart

end Request

omit root requester in
theorem admitRequest_decision (request) :
    RequestDecision catalog request snapshot (catalog.admitRequest request snapshot) := by
  unfold admitRequest
  split
  · exact .refused _
  split
  · exact .refused _
  split
  · exact .refused _
  split
  · exact .refused _
  split
  · exact .refused _
  split
  · exact (admitStart_decision _ _ _ _ _ _ _).ofRequest ‹_›
  · exact (admitStop_decision _ _ _ _ _ _).ofRequest ‹_›
  · exact (admitRestart_decision _ _ _ _ _ _).ofRequest ‹_›

/-! ## The members of an admitted plan -/

variable {catalog root requester snapshot}

theorem StartDecision.members {forceRoot : Bool} {plan}
    (h : StartDecision catalog root requester snapshot forceRoot (.start plan)) :
    (plan.ordered.map (·.serviceId)).Nodup ∧
      ∀ item ∈ plan.ordered, ∀ intent, item.intent = some intent →
        ∃ runtime, Launchable catalog snapshot root forceRoot item intent runtime := by
  cases h with
  | plan ids ordered hplan hitems =>
    obtain ⟨hsub, hmem⟩ := startItems_spec hitems
    exact ⟨(dependencyPlan_spec hplan).1.sublist hsub, hmem⟩

theorem StopDecision.members {plan}
    (h : StopDecision catalog root requester snapshot (.stop plan)) :
    (plan.ordered.map (·.serviceId)).Nodup ∧
      (∀ item ∈ plan.ordered, ∃ runtime, Stoppable snapshot item runtime) ∧
      ∀ runtime, root ∈ catalog.services → snapshot.services[root]? = some runtime →
        runtime.state ≠ .stopped → runtime.state ≠ .failed →
          root ∈ plan.ordered.map (·.serviceId) := by
  cases h with
  | plan ordered hitems =>
    obtain ⟨hsub, hmem, hcomplete⟩ := stopItems_spec hitems
    obtain ⟨hnodup, _, hord⟩ := reverseSelectedOrder_spec catalog (catalog.stopClosure root)
    refine ⟨hnodup.sublist hsub, hmem, fun runtime hser => ?_⟩
    exact hcomplete root (hord root (mem_stopClosure.mpr (.inl rfl)) hser) runtime

theorem StopDecision.mem_closure {plan}
    (h : StopDecision catalog root requester snapshot (.stop plan)) :
    ∀ item ∈ plan.ordered, item.serviceId ∈ catalog.stopClosure root := by
  cases h with
  | plan ordered hitems =>
    intro item hitem
    have hmem := (stopItems_spec hitems).1.subset (List.mem_map_of_mem hitem)
    exact (reverseSelectedOrder_spec catalog (catalog.stopClosure root)).2.1 _ hmem

theorem admitTaskClose_members {taskId} {epoch : ℕ} {plan}
    (h : catalog.admitTaskClose taskId epoch snapshot = .ok plan) :
    (plan.ordered.map (·.serviceId)).Nodup ∧
      ∀ item ∈ plan.ordered, ∃ runtime,
        snapshot.services[item.serviceId]? = some runtime ∧
          item.fence = .capture item.serviceId runtime := by
  unfold admitTaskClose at h
  simp only [ok_iff] at h
  obtain ⟨_, _, _, _, _, _, rfl⟩ := h
  exact ⟨(reverseSelectedOrder_spec catalog _).1.sublist closeItems_spec.1, closeItems_spec.2⟩

theorem admitTaskClose_scope (hvalid : catalog.Valid) {taskId} {epoch : ℕ}
    {plan} (h : catalog.admitTaskClose taskId epoch snapshot = .ok plan) :
    ∀ item ∈ plan.ordered, ∃ definition,
      catalog.services[item.serviceId]? = some definition ∧ definition.scope.taskId =
        some taskId := by
  unfold admitTaskClose at h
  simp only [ok_iff] at h
  obtain ⟨_, _, _, _, _, _, rfl⟩ := h
  intro item hitem
  have hmem := closeItems_spec.1.subset (List.mem_map_of_mem hitem)
  have hsel := (reverseSelectedOrder_spec catalog _).2.1 _ hmem
  obtain ⟨definition, hdef, hid⟩ :=
    ((mem_foldl_insert_map (fun definition : ServiceDefinition => definition.id) _).mp
      hsel).resolve_left (by simp)
  obtain ⟨hval, hscope⟩ := List.mem_filter.mp hdef
  obtain ⟨⟨key, value⟩, hentry, rfl⟩ := List.mem_map.mp hval
  have hget := ExtTreeMap.mem_toList_iff_getElem?_eq_some.mp hentry
  rw [hvalid.keyed key value hget] at hid
  exact ⟨value, hid ▸ hget, by simpa using hscope⟩

end ServiceCatalog

end DevManager
