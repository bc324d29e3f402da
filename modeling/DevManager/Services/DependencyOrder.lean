import DevManager.Services.Revalidation

/-!
# Cycles and the order of a plan (`src/services/model.rs`)

`validate_graph` walks the dependencies with a stack of the services it came through; a service
that is met again while it is on the stack closes a cycle. Without cycles both plans are sorted.

* `new_dependencyCycle`: of definitions that pass the other checks, `new` takes those without a
  cycle, and refuses the others with a cycle that is there.
* `dependencyPlan_topological`: a dependency plan is the services that the target depends on, each
  after what it depends on.
* `admitted_start_order`, `admitted_stop_order`: an admitted plan starts a service after what it
  depends on, and stops it before.
-/

namespace DevManager

open Std (ExtTreeMap ExtTreeSet)
open Relation (TransGen ReflTransGen)
open List OrdMap Std.ExtTreeMap

/-! ## The search for a cycle -/

section Search

variable (services : ExtTreeMap ServiceId ServiceDefinition)

/-- `b` is a dependency of `a`. -/
def DependencyEdge : ServiceId → ServiceId → Prop := Dfs.Edge (sortedDependencies services)

/-- A path along dependencies that ends where it begins. -/
def DependencyCycle (path : List ServiceId) : Prop :=
  ∃ id rest, path = id :: rest ∧ rest.getLast? = some id ∧ path.IsChain (DependencyEdge services)

/-- The visited services have no cycle, and what they depend on is visited. -/
structure Acyclic (visited : ExtTreeSet ServiceId) : Prop where
  closed : ∀ v ∈ visited, ∀ d, DependencyEdge services v d → d ∈ visited
  acyclic : ∀ v ∈ visited, ¬ TransGen (DependencyEdge services) v v

/-- What a search from `ids` answers: the stack as it was and `ids` visited, or a cycle. -/
def Searched (visited : ExtTreeSet ServiceId) (stack ids : List ServiceId) :
    Except ValidationError (ExtTreeSet ServiceId × List ServiceId) → Prop
  | .ok (visited', stack') => stack' = stack ∧ Acyclic services visited' ∧
      (∀ v ∈ visited, v ∈ visited') ∧ ∀ id ∈ ids, id ∈ visited'
  | .error e => ∃ path, e = .dependencyCycle path ∧ DependencyCycle services path

variable {services} {id : ServiceId} {visited : ExtTreeSet ServiceId} {stack : List ServiceId}

theorem DependencyCycle.transGen {path : List ServiceId} (h : DependencyCycle services path) :
    ∃ id, TransGen (DependencyEdge services) id id := by
  obtain ⟨id, rest, rfl, hlast, hchain⟩ := h
  cases rest with
  | nil => simp at hlast
  | cons next rest =>
    obtain ⟨hedge, hrest⟩ := isChain_cons_cons.mp hchain
    have hend : (next :: rest).getLast (cons_ne_nil _ _) = id := by
      rwa [getLast?_eq_some_getLast (cons_ne_nil _ _), Option.some.injEq] at hlast
    exact ⟨id, .head' hedge (relationReflTransGen_of_exists_isChain_cons rest hrest hend)⟩

theorem searched_foldlM {ids : List ServiceId}
    {search : ExtTreeSet ServiceId × List ServiceId → ServiceId →
      Except ValidationError (ExtTreeSet ServiceId × List ServiceId)}
    (hsearch : ∀ id ∈ ids, ∀ visited, Acyclic services visited →
      Searched services visited stack [id] (search (visited, stack) id)) :
    ∀ {visited}, Acyclic services visited →
      Searched services visited stack ids (ids.foldlM search (visited, stack)) := by
  induction ids with
  | nil => exact fun hdag => ⟨rfl, hdag, fun _ hv => hv, fun _ hid => absurd hid not_mem_nil⟩
  | cons id ids ih =>
    intro visited hdag
    have hone := hsearch id (.head _) visited hdag
    rw [foldlM_cons]
    cases hfirst : search (visited, stack) id with
    | error e =>
      rw [hfirst] at hone
      exact hone
    | ok walk =>
      obtain ⟨between, stack'⟩ := walk
      rw [hfirst] at hone
      obtain ⟨rfl, hbetween, hsub, hmem⟩ := hone
      have hrest := ih (fun id hid => hsearch id (mem_cons_of_mem _ hid)) hbetween
      rw [ok_bind]
      cases hlater : ids.foldlM search (between, stack') with
      | error e =>
        rw [hlater] at hrest
        exact hrest
      | ok walk =>
        obtain ⟨last, stack''⟩ := walk
        rw [hlater] at hrest
        obtain ⟨hstep, hlast, hle, hall⟩ := hrest
        refine ⟨hstep, hlast, fun v hv => hle v (hsub v hv), fun id' hid => ?_⟩
        rcases mem_cons.mp hid with rfl | hid
        · exact hle _ (hmem _ (.head _))
        · exact hall id' hid

/-- A service whose dependencies are visited is on no cycle. -/
theorem Acyclic.insert (h : Acyclic services visited)
    (hdeps : ∀ d, DependencyEdge services id d → d ∈ visited) :
    Acyclic services (visited.insert id) := by
  have hclosed : ∀ v d, TransGen (DependencyEdge services) v d → v ∈ visited → d ∈ visited := by
    intro v d hvd
    induction hvd with
    | single hedge => exact fun hv => h.closed v hv _ hedge
    | tail _ hedge ih => exact fun hv => h.closed _ (ih hv) _ hedge
  refine ⟨fun v hv d hedge => ?_, fun v hv hcycle => ?_⟩
  · rcases mem_insertSet_iff.mp hv with rfl | hv
    · exact mem_insertSet_iff.mpr (.inr (hdeps d hedge))
    · exact mem_insertSet_iff.mpr (.inr (h.closed v hv d hedge))
  · by_cases hmem : v ∈ visited
    · exact h.acyclic v hmem hcycle
    · obtain rfl := (mem_insertSet_iff.mp hv).resolve_right hmem
      obtain ⟨d, hedge, hback⟩ := TransGen.head'_iff.mp hcycle
      rcases Relation.reflTransGen_iff_eq_or_transGen.mp hback with rfl | hback
      · exact hmem (hdeps _ hedge)
      · exact hmem (hclosed d v hback (hdeps d hedge))

/-- The depth of the search is bounded by the services that are not on the stack. -/
theorem visitGraphChecked_spec
    (hclosed : ∀ id ∈ services, ∀ d, DependencyEdge services id d → d ∈ services) (fuel : ℕ) :
    ∀ {id visited stack}, services.size < fuel + stack.length → Acyclic services visited →
      (stack ++ [id]).IsChain (DependencyEdge services) → stack.Nodup →
      (∀ x ∈ stack, x ∈ services) → id ∈ services →
        Searched services visited stack [id]
          (visitGraphChecked services fuel id (visited, stack)) := by
  induction fuel with
  | zero =>
    intro id visited stack hfuel _ _ hnodup hstack _
    have hle : stack.length ≤ services.keys.length :=
      (subperm_of_subset hnodup fun x hx => mem_keys.mpr (hstack x hx)).length_le
    rw [length_keys] at hle
    omega
  | succ fuel ih =>
    intro id visited stack hfuel hdag hchain hnodup hstack hid
    rw [visitGraphChecked]
    split_ifs with hvisited
    · exact ⟨rfl, hdag, fun _ hv => hv, fun _ hmem =>
        mem_singleton.mp hmem ▸ ExtTreeSet.contains_iff_mem.mp hvisited⟩
    split
    · rename_i position hposition
      obtain ⟨hlt, hat, -⟩ := findIdx?_eq_some_iff_getElem.mp hposition
      have hdrop : stack.drop position = id :: stack.drop (position + 1) := by
        rw [drop_eq_getElem_cons hlt, of_decide_eq_true hat]
      refine ⟨_, rfl, id, stack.drop (position + 1) ++ [id], by rw [hdrop]; rfl, by simp, ?_⟩
      rw [← drop_append_of_le_length hlt.le]
      exact hchain.drop position
    · rename_i hnone
      have hnot : id ∉ stack := fun hmem => by
        simpa using findIdx?_eq_none_iff.mp hnone id hmem
      have hfold : Searched services visited (stack ++ [id]) (sortedDependencies services id)
          ((sortedDependencies services id).foldlM
            (fun walk d => visitGraphChecked services fuel d walk) (visited, stack ++ [id])) :=
        searched_foldlM (fun d hd visited hdag => ih (by simp; omega) hdag
          (isChain_append.mpr ⟨hchain, .singleton _, by
            simpa [DependencyEdge, Dfs.Edge] using hd⟩)
          (nodup_append.mpr ⟨hnodup, nodup_singleton _, by
            rintro x hx y hy rfl
            exact hnot (mem_singleton.mp hy ▸ hx)⟩)
          (by simpa [or_imp, forall_and] using ⟨hstack, hid⟩) (hclosed id hid d hd)) hdag
      cases hrun : (sortedDependencies services id).foldlM
          (fun walk d => visitGraphChecked services fuel d walk) (visited, stack ++ [id]) with
      | error e =>
        rw [hrun] at hfold
        exact hfold
      | ok walk =>
        obtain ⟨visited', stack'⟩ := walk
        rw [hrun] at hfold
        obtain ⟨rfl, hdag', hsub, hall⟩ := hfold
        refine ⟨dropLast_concat, hdag'.insert hall, fun v hv => ?_, fun v hv => ?_⟩
        · exact mem_insertSet_iff.mpr (.inr (hsub v hv))
        · exact mem_insertSet_iff.mpr (.inl (mem_singleton.mp hv))

theorem validateGraph_spec
    (hclosed : ∀ id ∈ services, ∀ d, DependencyEdge services id d → d ∈ services) :
    (validateGraph services = .ok () ↔ ∀ id, ¬ TransGen (DependencyEdge services) id id) ∧
      ∀ e, validateGraph services = .error e →
        ∃ path, e = .dependencyCycle path ∧ DependencyCycle services path := by
  have hfold : Searched services ∅ [] services.keys (services.keys.foldlM
      (fun walk id => visitGraphChecked services (services.size + 1) id walk) (∅, [])) :=
    searched_foldlM (fun id hid visited hdag => visitGraphChecked_spec hclosed _
      (Nat.lt_succ_self _) hdag (.singleton _) .nil (fun _ hx => absurd hx not_mem_nil)
      (mem_keys.mp hid))
      ⟨fun v hv => absurd hv ExtTreeSet.not_mem_empty,
        fun v hv => absurd hv ExtTreeSet.not_mem_empty⟩
  unfold validateGraph
  cases hrun : services.keys.foldlM
      (fun walk id => visitGraphChecked services (services.size + 1) id walk) (∅, []) with
  | error e =>
    rw [hrun] at hfold
    obtain ⟨path, rfl, hpath⟩ := hfold
    refine ⟨⟨by rintro ⟨⟩, fun hdag => ?_⟩, ?_⟩
    · obtain ⟨id, hcycle⟩ := hpath.transGen
      exact absurd hcycle (hdag id)
    · rintro _ ⟨⟩
      exact ⟨path, rfl, hpath⟩
  | ok walk =>
    obtain ⟨visited, stack⟩ := walk
    rw [hrun] at hfold
    obtain ⟨-, hdag, -, hall⟩ := hfold
    refine ⟨⟨fun _ id hcycle => ?_, fun _ => rfl⟩, by rintro _ ⟨⟩⟩
    obtain ⟨d, hedge, -⟩ := TransGen.head'_iff.mp hcycle
    obtain ⟨definition, hget, -⟩ := ServiceCatalog.mem_sortedDependencies.mp hedge
    exact hdag.acyclic id (hall id (mem_keys.mpr (mem_iff_exists.mpr
      ⟨definition, hget⟩))) hcycle

end Search

namespace ServiceCatalog

variable {definitions : List ServiceDefinition} {catalog : ServiceCatalog}

theorem acyclic_of_new (h : new definitions = .ok catalog) :
    ∀ id, ¬ TransGen (DependencyEdge catalog.services) id id := by
  have hclosed := (new_valid h).closed
  unfold new at h
  simp only [ok_iff] at h
  obtain ⟨-, services, -, -, hgraph, rfl⟩ := h
  refine (validateGraph_spec fun id hid d hedge => ?_).1.mp hgraph
  obtain ⟨definition, hget, hmem⟩ := mem_sortedDependencies.mp hedge
  exact hclosed id definition hget d hmem

/-- Of definitions that pass the other checks, those without a cycle are taken, and the others are
refused with a cycle. -/
theorem new_dependencyCycle {services} (hlength : definitions.length ≤ maxServiceCount)
    (hservices : definitions.foldlM insertDefinition ∅ = .ok services)
    (hknown : (services.toList.map Prod.snd).forM (checkDependencies services) = .ok ()) :
    (new definitions = .ok ⟨services⟩ ↔ ∀ id, ¬ TransGen (DependencyEdge services) id id) ∧
      ∀ e, new definitions = .error e →
        ∃ path, e = .dependencyCycle path ∧ DependencyCycle services path := by
  have hnew : new definitions = (validateGraph services).map fun _ => ⟨services⟩ := by
    unfold new
    rw [failIf_neg (not_lt.mpr hlength), ok_bind, hservices, ok_bind, hknown, ok_bind]
    cases validateGraph services <;> rfl
  have hclosed : ∀ id ∈ services, ∀ d, DependencyEdge services id d → d ∈ services := by
    intro id _ d hedge
    obtain ⟨definition, hget, hmem⟩ := mem_sortedDependencies.mp hedge
    have hval : definition ∈ services.toList.map Prod.snd :=
      mem_map.mpr ⟨(id, definition), mem_toList_iff_getElem?_eq_some.mpr hget, rfl⟩
    simpa using forM_eq_ok.mp (forM_eq_ok.mp hknown definition hval) d hmem
  obtain ⟨hok, herror⟩ := validateGraph_spec hclosed
  rw [hnew, ← hok]
  cases hrun : validateGraph services with
  | ok done => exact ⟨⟨fun _ => rfl, fun _ => rfl⟩, by rintro _ ⟨⟩⟩
  | error e =>
    refine ⟨⟨by rintro ⟨⟩, by rintro ⟨⟩⟩, ?_⟩
    rintro _ ⟨⟩
    exact herror e hrun

def mutualDefinitions : List ServiceDefinition :=
  [hostDefinition "db" [⟨"api"⟩], hostDefinition "api" [⟨"db"⟩]]

def mutualServices : ExtTreeMap ServiceId ServiceDefinition :=
  ((∅ : ExtTreeMap ServiceId ServiceDefinition).insert ⟨"db"⟩
    (hostDefinition "db" [⟨"api"⟩])).insert ⟨"api"⟩ (hostDefinition "api" [⟨"db"⟩])

theorem new_dependencyCycle_mutual :
    ∃ path, ValidationError.dependencyCycle [⟨"api"⟩, ⟨"db"⟩, ⟨"api"⟩] = .dependencyCycle path ∧
      DependencyCycle mutualServices path :=
  (new_dependencyCycle (by decide) (rfl : mutualDefinitions.foldlM insertDefinition ∅ =
    .ok mutualServices) rfl).2 _ rfl

/-! ## The order of a plan -/

section Order

variable (hnew : new definitions = .ok catalog)

include hnew

theorem closed_of_new : ∀ id ∈ catalog.services.keys,
    ∀ d ∈ sortedDependencies catalog.services id, d ∈ catalog.services.keys := by
  intro id _ d hd
  obtain ⟨definition, hget, hmem⟩ := mem_sortedDependencies.mp hd
  exact mem_keys.mpr ((new_valid hnew).closed id definition hget d hmem)

omit hnew in
theorem mem_services_of_transGen {id dependency : ServiceId}
    (h : TransGen catalog.DependsOn id dependency) : id ∈ catalog.services := by
  obtain ⟨_, ⟨definition, hget, -⟩, -⟩ := TransGen.head'_iff.mp h
  exact mem_iff_exists.mpr ⟨definition, hget⟩

/-- A dependency plan is all that the target depends on, each after what it depends on. -/
theorem dependencyPlan_sorted {target} (htarget : target ∈ catalog.services) :
    ∃ ordered, catalog.dependencyPlan target = .ok ordered ∧
      (∀ id, catalog.Reaches target id → id ∈ ordered) ∧
      ordered.Pairwise fun earlier later => ¬ TransGen catalog.DependsOn earlier later := by
  have hlen : Dfs.unvisited catalog.services.keys (Dfs.Visit.start : Dfs.Visit ServiceId) <
      catalog.services.size + 1 := by
    rw [← length_keys]
    exact Nat.lt_succ_of_le countP_le_length
  obtain ⟨hsettled, hmem⟩ : Dfs.Settled (sortedDependencies catalog.services) (fun _ => true)
      (fun _ => False) (visitGraph catalog.services (catalog.services.size + 1) target .start) ∧
        (true = true → target ∈ (visitGraph catalog.services (catalog.services.size + 1) target
          .start).ordered) :=
    Dfs.visit_settled (closed_of_new hnew) (acyclic_of_new hnew) _
      (mem_keys.mpr htarget) hlen (fun _ h => h.elim) Dfs.settled_start
  have hplan := dependencyPlan_eq_ok.mpr ⟨htarget, rfl⟩
  have hedge : (fun a b => Dfs.Edge (sortedDependencies catalog.services) a b ∧ true = true) =
      catalog.DependsOn := by
    funext a b
    rw [and_iff_left rfl, edge_iff_dependsOn]
  refine ⟨_, hplan, fun id hreach => ?_, ?_⟩
  · rcases Relation.reflTransGen_iff_eq_or_transGen.mp hreach with rfl | hreach
    · exact hmem rfl
    · obtain ⟨before, after, hsplit⟩ := append_of_mem (hmem rfl)
      have hgen : Dfs.Behind (sortedDependencies catalog.services) (fun _ => true)
        target id := by
        rw [Dfs.Behind, hedge]
        exact hreach
      refine hsplit ▸ mem_append_left _ (hsettled.mem_before hgen hsplit)
  · have hpair := hsettled.pairwise (dependencyPlan_spec hplan).1
    rw [Dfs.Behind, hedge] at hpair
    exact hpair

/-- A plan of the dependencies is all that the target depends on, itself included, each once and
after what it depends on. -/
theorem dependencyPlan_topological {target : ServiceId} (htarget : target ∈ catalog.services) :
    ∃ ordered, catalog.dependencyPlan target = .ok ordered ∧ ordered.Nodup ∧
      (∀ id, id ∈ ordered ↔ catalog.Reaches target id) ∧
      ordered.Pairwise fun earlier later => ¬ TransGen catalog.DependsOn earlier later := by
  obtain ⟨ordered, hplan, hall, hpair⟩ := dependencyPlan_sorted hnew htarget
  obtain ⟨hnodup, hreach⟩ := dependencyPlan_spec hplan
  exact ⟨ordered, hplan, hnodup, fun id => ⟨hreach id, hall id⟩, hpair⟩

omit hnew in
theorem dependencyPlan_topological_pair :
    ∃ ordered, pairCatalog.dependencyPlan ⟨"api"⟩ = .ok ordered ∧ ⟨"db"⟩ ∈ ordered := by
  obtain ⟨ordered, hplan, -, hall, -⟩ := dependencyPlan_topological
    (rfl : ServiceCatalog.new pairDefinitions = .ok pairCatalog)
    (by decide : (⟨"api"⟩ : ServiceId) ∈ pairCatalog.services)
  exact ⟨ordered, hplan, (hall _).mpr (.single ⟨hostDefinition "api" [⟨"db"⟩], rfl, by decide⟩)⟩

theorem reaches_iff_mem_stopClosure {root id} :
    id ∈ catalog.stopClosure root ↔ catalog.Reaches id root := by
  refine ⟨reaches_of_mem_stopClosure, fun hreach => mem_stopClosure.mpr ?_⟩
  rcases Relation.reflTransGen_iff_eq_or_transGen.mp hreach with rfl | htrans
  · exact .inl rfl
  · by_cases hid : id = root
    · exact .inl hid
    · obtain ⟨ordered, hplan, hall, -⟩ :=
        dependencyPlan_sorted hnew (mem_services_of_transGen htrans)
      refine .inr ⟨mem_services_of_transGen htrans, hid, ?_⟩
      rw [plansOver, hplan]
      simpa using hall root hreach

/-- What lies between two members of the closure is in the closure. -/
theorem behind_of_transGen {root a b} (hreach : catalog.Reaches b root)
    (hab : TransGen catalog.DependsOn a b) :
    Dfs.Behind (sortedDependencies catalog.services)
      (fun id => (catalog.stopClosure root).contains id) a b := by
  have hstep : ∀ {x y}, catalog.DependsOn x y → catalog.Reaches y b →
      Dfs.Edge (sortedDependencies catalog.services) x y ∧
        (catalog.stopClosure root).contains y = true := fun hedge hy =>
    ⟨edge_iff_dependsOn.mpr hedge, ExtTreeSet.contains_iff_mem.mpr
      ((reaches_iff_mem_stopClosure hnew).mpr (hy.trans hreach))⟩
  induction hab using TransGen.head_induction_on with
  | single hedge => exact .single (hstep hedge .refl)
  | head hedge hrest ih => exact .head (hstep hedge hrest.to_reflTransGen) ih

/-- The stop order has no service before one that depends on it. -/
theorem stopOrder_sorted {root} :
    (catalog.reverseSelectedOrder (catalog.stopClosure root)).Pairwise fun earlier later =>
      ¬ TransGen catalog.DependsOn later earlier := by
  have hsettled : Dfs.Settled (sortedDependencies catalog.services)
      (fun id => (catalog.stopClosure root).contains id) (fun _ => False)
      (Dfs.visitAll (sortedDependencies catalog.services)
        (fun id => (catalog.stopClosure root).contains id) (catalog.services.size + 1)
        (catalog.services.keys.filter fun id => (catalog.stopClosure root).contains id)
        .start) := by
    refine Dfs.visitAll_settled (closed_of_new hnew) (acyclic_of_new hnew) ?_
      (fun _ h => (mem_filter.mp h).1) Dfs.settled_start
    rw [length_keys]
    exact Nat.lt_succ_self _
  obtain ⟨hnodup, hsel, -⟩ := reverseSelectedOrder_spec catalog (catalog.stopClosure root)
  have hpair := hsettled.pairwise (nodup_reverse.mp hnodup)
  refine pairwise_reverse.mpr (hpair.imp_of_mem fun {a b} _ hb hgen hab =>
    hgen ?_)
  exact behind_of_transGen hnew ((reaches_iff_mem_stopClosure hnew).mp
    (hsel b (mem_reverse.mpr hb))) hab

/-- An admitted start or restart starts all that the root depends on, the root included, each
service once and after what it depends on. -/
theorem admitted_start_order {root fence requester snapshot} {plan : StartPlan}
    (hplan : catalog.admitRequest ⟨.start, root, fence, requester⟩ snapshot = .start plan ∨
      ∃ stop, catalog.admitRequest ⟨.restart, root, fence, requester⟩ snapshot =
        .restart ⟨stop, plan⟩) :
    (plan.ordered.map (·.serviceId)).Nodup ∧
      (∀ id, id ∈ plan.ordered.map (·.serviceId) ↔ catalog.Reaches root id) ∧
      (plan.ordered.map (·.serviceId)).Pairwise fun earlier later =>
        ¬ TransGen catalog.DependsOn earlier later := by
  obtain ⟨definition, runtime, forceRoot, hdef, hrun, hstart⟩ : ∃ definition runtime forceRoot,
      catalog.services[root]? = some definition ∧ snapshot.services[root]? = some runtime ∧
        catalog.admitStart root definition runtime requester snapshot forceRoot = .start plan := by
    rcases hplan with hplan | ⟨stop, hplan⟩
    · obtain ⟨definition, runtime, hdef, -, hrun, -, -, hact⟩ :=
        (admitRequest_eq fun _ => by rintro ⟨⟩).mp hplan
      exact ⟨definition, runtime, false, hdef, hrun, hact⟩
    · obtain ⟨definition, runtime, hdef, -, hrun, -, -, hact⟩ :=
        (admitRequest_eq fun _ => by rintro ⟨⟩).mp hplan
      exact ⟨definition, runtime, true, hdef, hrun, (admitRestart_eq_restart.mp hact).2⟩
  obtain ⟨ids, hadmits⟩ := admitStart_admission hstart
  obtain ⟨hids, -⟩ := hadmits.started hrun
  obtain ⟨hnodup, hreach⟩ := dependencyPlan_spec hadmits.order
  obtain ⟨ordered, horder, hall, hpair⟩ :=
    dependencyPlan_sorted hnew (mem_iff_exists.mpr ⟨definition, hdef⟩)
  obtain rfl : ids = ordered := Except.ok.inj (hadmits.order.symm.trans horder)
  rw [hids]
  exact ⟨hnodup, fun id => ⟨hreach id, hall id⟩, hpair⟩

def pairStart : StartPlan where
  root := ⟨"api"⟩
  requester := .host ⟨1⟩
  ordered := [⟨⟨"db"⟩, none, ⟨⟨"db"⟩, 2, 2, 2, .host ⟨1⟩⟩, .healthy, .host⟩,
    ⟨⟨"api"⟩, (pairCatalog.launchIntent ⟨"api"⟩).toOption, ⟨⟨"api"⟩, 1, 1, 1, .none⟩, .stopped,
      .host⟩]

omit hnew in
theorem admitted_start_order_pair : pairCatalog.Reaches ⟨"api"⟩ ⟨"db"⟩ :=
  ((admitted_start_order (rfl : ServiceCatalog.new pairDefinitions = .ok pairCatalog)
    (.inl (by decide +kernel : pairCatalog.admitRequest
      ⟨.start, ⟨"api"⟩, ⟨1, 1, 1⟩, .host ⟨1⟩⟩ (pairSnapshot none) = .start pairStart))).2.1 _).mp
    (.head _)

/-- The members of an admitted stop or restart are the services at work that depend on the root,
each before what it depends on. -/
theorem admitted_stop_order {root fence requester snapshot} {plan : StopPlan}
    (hplan : catalog.admitRequest ⟨.stop, root, fence, requester⟩ snapshot = .stop plan ∨
      ∃ start, catalog.admitRequest ⟨.restart, root, fence, requester⟩ snapshot =
        .restart ⟨plan, start⟩) :
    (plan.ordered.map (·.serviceId)).Nodup ∧
      (∀ id, id ∈ plan.ordered.map (·.serviceId) ↔
        catalog.Reaches id root ∧ snapshot.works id = true) ∧
      (plan.ordered.map (·.serviceId)).Pairwise fun earlier later =>
        ¬ TransGen catalog.DependsOn later earlier := by
  obtain ⟨definition, runtime, hdef, hstop⟩ : ∃ definition runtime,
      catalog.services[root]? = some definition ∧
        catalog.admitStop root definition runtime requester snapshot = .stop plan := by
    rcases hplan with hplan | ⟨start, hplan⟩
    · obtain ⟨definition, runtime, hdef, -, -, -, -, hact⟩ :=
        (admitRequest_eq fun _ => by rintro ⟨⟩).mp hplan
      exact ⟨definition, runtime, hdef, hact⟩
    · obtain ⟨definition, runtime, hdef, -, -, -, -, hact⟩ :=
        (admitRequest_eq fun _ => by rintro ⟨⟩).mp hplan
      exact ⟨definition, runtime, hdef, (admitRestart_eq_restart.mp hact).1⟩
  have hroot : root ∈ catalog.services := mem_iff_exists.mpr ⟨definition, hdef⟩
  obtain ⟨-, hids, -⟩ := stopItems_eq_ok.mp (admitStop_eq_stop.mp hstop).items
  rw [hids]
  refine ⟨(reverseSelectedOrder_spec catalog _).1.filter _, fun id => ?_,
    (stopOrder_sorted hnew).filter _⟩
  rw [mem_filter, mem_stopOrder hroot, reaches_iff_mem_stopClosure hnew]

def workingSnapshot : AdmissionSnapshot :=
  { pairSnapshot none with
    services := (pairSnapshot none).services.insert ⟨"api"⟩
      ⟨.healthy, ⟨1, 1, 1⟩, .host ⟨1⟩, none⟩ }

def workingPlan : StopPlan :=
  { pairPlan with
    ordered := ⟨⟨"api"⟩, ⟨⟨"api"⟩, 1, 1, 1, .host ⟨1⟩⟩, .healthy, .host⟩ :: pairPlan.ordered }

omit hnew in
theorem admitted_stop_order_pair : pairCatalog.Reaches ⟨"api"⟩ ⟨"db"⟩ ∧
    ¬ TransGen pairCatalog.DependsOn ⟨"db"⟩ ⟨"api"⟩ := by
  obtain ⟨-, hmem, hpair⟩ := admitted_stop_order
    (rfl : ServiceCatalog.new pairDefinitions = .ok pairCatalog)
    (.inl (by decide +kernel : pairCatalog.admitRequest pairRequest workingSnapshot =
      .stop workingPlan))
  exact ⟨((hmem _).mp mem_cons_self).1, (pairwise_cons.mp hpair).1 _ (.head _)⟩

end Order

end ServiceCatalog

end DevManager
