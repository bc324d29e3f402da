import DevManager.Lib.Dfs
import DevManager.Services.Definition

/-!
# The service catalog (`src/services/model.rs`)

A catalog holds validated definitions whose dependencies are all in the catalog.
The recursive walks over the dependencies are bounded by the number of services.

* `new_valid`: what holds of a catalog made by `new`.
* `dependencyPlan_spec`: a dependency plan names each service once, and only
  services that the target depends on.
* `reverseSelectedOrder_spec`: the stop order names each selected service once.
-/

namespace DevManager

open Std (ExtTreeMap ExtTreeSet)

/-- `ServiceCatalog`, L999-1001 -/
structure ServiceCatalog where
  services : ExtTreeMap ServiceId ServiceDefinition

/-- `PlanningError`, L1785-1788 -/
inductive PlanningError
  | unknownService (service : ServiceId)
  | cycle (path : List ServiceId)

/-! ## Walks over the dependencies -/

variable (services : ExtTreeMap ServiceId ServiceDefinition)

/-- `services[id].dependencies.clone()`, sorted (L3440-3441). -/
def sortedDependencies (id : ServiceId) :
    List ServiceId :=
  match services[id]? with
  | some definition => definition.canonical.dependencies
  | none => []

/-- `visit_graph_checked` (L3425-3448): the visited services and the stack. -/
def visitGraphChecked (services : ExtTreeMap ServiceId ServiceDefinition) :
    (fuel : ℕ) → ServiceId → ExtTreeSet ServiceId × List ServiceId →
      Except ValidationError (ExtTreeSet ServiceId × List ServiceId)
  | 0, _, walk => .ok walk
  | fuel + 1, id, (visited, stack) =>
    if visited.contains id then .ok (visited, stack)
    else
      match stack.findIdx? (· = id) with
      | some position => .error (.dependencyCycle (stack.drop position ++ [id]))
      | none => do
        let (visited, stack) ← (sortedDependencies services id).foldlM
          (fun walk dependency => visitGraphChecked services fuel dependency walk)
          (visited, stack ++ [id])
        return (visited.insert id, stack.dropLast)

/-- `validate_graph`, L3414-3423 -/
def validateGraph (services : ExtTreeMap ServiceId ServiceDefinition) :
    Except ValidationError Unit := do
  let _ ← services.keys.foldlM
    (fun walk id => visitGraphChecked services (services.size + 1) id walk) (∅, [])
  return ()

/-- `visit_graph` (L3450-3467), which never fails. -/
def visitGraph (fuel : ℕ) (id : ServiceId)
    (walk : Dfs.Visit ServiceId) : Dfs.Visit ServiceId :=
  Dfs.visit (sortedDependencies services) (fun _ => true) fuel id walk

/-- `visit_graph_selected`, L3469-3486 -/
def visitGraphSelected
    (selected : ExtTreeSet ServiceId) (fuel : ℕ) (id : ServiceId) (walk : Dfs.Visit ServiceId) :
    Dfs.Visit ServiceId :=
  Dfs.visit (sortedDependencies services) (fun id => selected.contains id) fuel id walk

namespace ServiceCatalog

variable (services : ExtTreeMap ServiceId ServiceDefinition)

/-- The loop over the definitions (L1079-1088). -/
def insertDefinition (definition : ServiceDefinition) :
    Except ValidationError (ExtTreeMap ServiceId ServiceDefinition) := do
  definition.canonical.validate
  failIf (definition.id ∈ services) (.duplicateServiceId definition.id)
  return services.insert definition.id definition.canonical

/-- The check that a definition's dependencies are known (L1089-1098). -/
def checkDependencies (definition : ServiceDefinition) : Except ValidationError Unit :=
  definition.dependencies.forM fun dependency =>
    failIf (dependency ∉ services) (.unknownDependency definition.id dependency)

/-- `new`, L1071-1102 -/
def new (definitions : List ServiceDefinition) : Except ValidationError ServiceCatalog := do
  failIf (definitions.length > maxServiceCount) (.tooMany .service maxServiceCount)
  let services ← definitions.foldlM insertDefinition ∅
  (services.toList.map Prod.snd).forM (checkDependencies services)
  validateGraph services
  return ⟨services⟩

variable (catalog : ServiceCatalog)

/-- `launch_intent`, L1117-1131 -/
def launchIntent (id : ServiceId) : Except PlanningError LaunchIntent := do
  let definition ← okOr catalog.services[id]? (.unknownService id)
  return { definition with
    serviceId := definition.id, expectedPort := definition.effectiveExpectedPort }

/-- `dependency_plan` (L1133-1142), with a bound on the depth of the walk. -/
def dependencyPlanWith (fuel : ℕ) (target : ServiceId) : Except PlanningError (List ServiceId) := do
  failIf (target ∉ catalog.services) (.unknownService target)
  return (visitGraph catalog.services fuel target .start).ordered

/-- `dependency_plan`, L1133-1142 -/
def dependencyPlan (target : ServiceId) : Except PlanningError (List ServiceId) :=
  catalog.dependencyPlanWith (catalog.services.size + 1) target

/-- The plan of `candidate` contains `root` (L1749-1753). -/
def plansOver (root candidate : ServiceId) : Bool :=
  match catalog.dependencyPlan candidate with
  | .ok ordered => ordered.contains root
  | .error _ => false

/-- `stop_closure`, L1742-1758 -/
def stopClosure (root : ServiceId) : ExtTreeSet ServiceId :=
  (catalog.services.keys.filter fun candidate =>
    candidate ≠ root && catalog.plansOver root candidate).foldl (fun selected id =>
      selected.insert id) ((∅ : ExtTreeSet ServiceId).insert root)

/-- `reverse_selected_order`, L1760-1769 -/
def reverseSelectedOrder (selected : ExtTreeSet ServiceId) : List ServiceId :=
  ((catalog.services.keys.filter fun id => selected.contains id).foldl (fun walk id =>
    visitGraphSelected catalog.services selected (catalog.services.size + 1) id walk)
    Dfs.Visit.start).ordered.reverse

/-! ## Catalogs made by `new` -/

/-- What `new` ensures. -/
structure Valid : Prop where
  keyed : ∀ id (definition : ServiceDefinition),
    catalog.services[id]? = some definition → definition.id = id
  checked : ∀ (id : ServiceId) definition, catalog.services[id]? = some definition →
    definition.validate = .ok ()
  closed : ∀ (id : ServiceId) definition, catalog.services[id]? = some definition →
    ∀ dependency ∈ definition.dependencies, dependency ∈ catalog.services

/-- `definition` depends on `dependency` directly. -/
def DependsOn (service dependency : ServiceId) : Prop :=
  ∃ definition : ServiceDefinition, catalog.services[service]? = some definition ∧
    dependency ∈ definition.dependencies

variable {catalog}

variable {services : ExtTreeMap ServiceId ServiceDefinition} {id dependency : ServiceId}

theorem mem_sortedDependencies :
    dependency ∈ sortedDependencies services id ↔
      ∃ definition : ServiceDefinition, services[id]? = some definition ∧
        dependency ∈ definition.dependencies := by
  unfold sortedDependencies
  cases services[id]? with
  | none => simp
  | some definition => simp [ServiceDefinition.canonical]

theorem edge_iff_dependsOn {service} :
    Dfs.Edge (sortedDependencies catalog.services) service dependency ↔
      catalog.DependsOn service dependency := mem_sortedDependencies

/-- Every definition in the map is checked and stands under its identifier. -/
def Checked (services : ExtTreeMap ServiceId ServiceDefinition) : Prop :=
  ∀ id (definition : ServiceDefinition), services[id]? = some definition →
    definition.id = id ∧ definition.validate = .ok ()

theorem insertDefinition_checked {services' definition} (hser : Checked services)
    (h : insertDefinition services definition = .ok services') : Checked services' := by
  unfold insertDefinition at h
  simp only [ok_iff] at h
  obtain ⟨hval, _, rfl⟩ := h
  exact OrdMap.forall_insert (P := fun id (d : ServiceDefinition) =>
    d.id = id ∧ d.validate = .ok ())
    ⟨rfl, hval⟩ hser

theorem new_valid {definitions}
    (h : ServiceCatalog.new definitions = .ok catalog) : catalog.Valid := by
  unfold new at h
  simp only [ok_iff] at h
  obtain ⟨_, services, hfold, hdeps, _, rfl⟩ := h
  have hcheck : Checked services :=
    foldlM_invariant (fun definition _ s s' hs hstep => insertDefinition_checked hs hstep)
      (fun id definition hget => by simp at hget) hfold
  refine ⟨fun id definition hget => (hcheck id definition hget).1,
    fun id definition hget => (hcheck id definition hget).2, ?_⟩
  intro id definition hget dependency hmem
  have hval : definition ∈ services.toList.map Prod.snd :=
    List.mem_map.mpr ⟨(id, definition), ExtTreeMap.mem_toList_iff_getElem?_eq_some.mpr hget, rfl⟩
  have hdef := forM_eq_ok.mp hdeps definition hval
  simpa using forM_eq_ok.mp hdef dependency hmem

/-! ## Dependency plans -/

/-- `service` depends on `dependency`, directly or through other services, or is it. -/
def Reaches (catalog : ServiceCatalog) : ServiceId → ServiceId → Prop :=
  Relation.ReflTransGen catalog.DependsOn

theorem reaches_of_edges {service}
    (h : Relation.ReflTransGen (Dfs.Edge (sortedDependencies catalog.services)) service
      dependency) :
    catalog.Reaches service dependency :=
  Relation.ReflTransGen.mono (fun _ _ hedge => edge_iff_dependsOn.mp hedge) _ _ h

theorem dependencyPlan_eq_ok {target ordered} :
    catalog.dependencyPlan target = .ok ordered ↔ target ∈ catalog.services ∧
      ordered = (visitGraph catalog.services (catalog.services.size + 1)
        target .start).ordered := by
  unfold dependencyPlan dependencyPlanWith
  simp only [ok_iff]

theorem dependencyPlan_appends {target ordered}
    (h : catalog.dependencyPlan target = .ok ordered) :
    Dfs.Appends (sortedDependencies catalog.services) (fun _ => true) (· = target) .start
      (visitGraph catalog.services (catalog.services.size + 1) target .start) ordered := by
  obtain ⟨new, hnew⟩ : ∃ new, Dfs.Appends (sortedDependencies catalog.services) (fun _ => true)
      (· = target) .start (visitGraph catalog.services (catalog.services.size + 1) target .start)
      new := Dfs.visit_spec _ _ _
  obtain rfl := (dependencyPlan_eq_ok.mp h).2.trans hnew.ordered
  exact hnew

theorem dependencyPlan_spec {target ordered} (h : catalog.dependencyPlan target = .ok ordered) :
    ordered.Nodup ∧ ∀ id ∈ ordered, catalog.Reaches target id := by
  have hnew := dependencyPlan_appends h
  refine ⟨hnew.nodup, fun id hid => ?_⟩
  obtain ⟨start, rfl, hreach⟩ := hnew.reached id hid
  exact reaches_of_edges hreach

/-! ## Stop orders -/

theorem mem_foldl_insert_map {β : Type} (f : β → ServiceId) {bs : List β} {id} :
    ∀ selected : ExtTreeSet ServiceId,
      id ∈ bs.foldl (fun selected b => selected.insert (f b)) selected ↔
        id ∈ selected ∨ ∃ b ∈ bs, f b = id := by
  induction bs with
  | nil => intro selected; simp
  | cons head bs ih =>
    intro selected
    rw [List.foldl_cons, ih, OrdMap.mem_insertSet_iff, List.exists_mem_cons_iff]
    tauto

theorem mem_foldl_insert {ids : List ServiceId} (selected : ExtTreeSet ServiceId) :
    id ∈ ids.foldl (fun selected id => selected.insert id) selected ↔ id ∈ selected ∨ id ∈ ids := by
  have h := @mem_foldl_insert_map ServiceId (fun id => id) ids id selected
  simpa using h

theorem mem_stopClosure {root : ServiceId} :
    id ∈ catalog.stopClosure root ↔
      id = root ∨ (id ∈ catalog.services ∧ id ≠ root ∧ catalog.plansOver root id = true) := by
  unfold stopClosure
  rw [mem_foldl_insert, OrdMap.mem_insertSet_iff]
  simp only [ExtTreeSet.not_mem_empty, or_false, List.mem_filter, ExtTreeMap.mem_keys,
    Bool.and_eq_true, decide_eq_true_eq]

theorem reaches_of_mem_stopClosure {root} (h : id ∈ catalog.stopClosure root) :
    catalog.Reaches id root := by
  rcases mem_stopClosure.mp h with rfl | ⟨_, _, hplan⟩
  · exact .refl
  · unfold plansOver at hplan
    cases hord : catalog.dependencyPlan id with
    | error e => rw [hord] at hplan; cases hplan
    | ok ordered =>
      rw [hord] at hplan
      exact (dependencyPlan_spec hord).2 root (by simpa using hplan)

theorem reverseSelectedOrder_spec (catalog : ServiceCatalog) (selected) :
    (catalog.reverseSelectedOrder selected).Nodup ∧
      (∀ id ∈ catalog.reverseSelectedOrder selected, id ∈ selected) ∧
      ∀ id ∈ selected, id ∈ catalog.services → id ∈ catalog.reverseSelectedOrder selected := by
  have hwalk : ∃ new, Dfs.Appends (sortedDependencies catalog.services)
      (fun id => selected.contains id)
      (· ∈ catalog.services.keys.filter fun id => selected.contains id) .start
      ((catalog.services.keys.filter fun id => selected.contains id).foldl (fun walk id =>
        visitGraphSelected catalog.services selected (catalog.services.size + 1) id walk)
        Dfs.Visit.start) new := Dfs.visitAll_spec _ _ _
  obtain ⟨new, hnew⟩ := hwalk
  have hord : catalog.reverseSelectedOrder selected = new.reverse :=
    congrArg List.reverse hnew.ordered
  rw [hord]
  refine ⟨List.nodup_reverse.mpr hnew.nodup, ?_, ?_⟩
  · intro id hid
    exact ExtTreeSet.contains_iff_mem.mp (hnew.selected id (List.mem_reverse.mp hid))
  · intro id hid hser
    have hhas : selected.contains id = true := ExtTreeSet.contains_iff_mem.mpr hid
    have hstart : id ∈ catalog.services.keys.filter fun id => selected.contains id :=
      List.mem_filter.mpr ⟨ExtTreeMap.mem_keys.mpr hser, hhas⟩
    rcases (hnew.visited id).mp (Dfs.mem_visitAll hhas _ _ hstart) with h | h
    · exact absurd h (by simp [Dfs.Visit.start])
    · exact List.mem_reverse.mpr h

end ServiceCatalog

end DevManager
