import DevManager.Lib.Calls
import DevManager.Lib.OrdMap
import Mathlib.Data.List.Destutter

/-!
# The queue of browser operations (`src/browser/operation_queue.rs`)

The operations on a tab run one at a time. A value that may start is returned to the caller, the
others wait behind the active operation until it is completed or they are cancelled.

* `accounted_run`: what was enqueued on a tab started, was returned by a cancellation or waits, in
  the order of the enqueueing, and nothing waits without an active operation.
-/

namespace DevManager.Browser

open Std (ExtTreeMap LawfulEqOrd TransCmp TransOrd)
open List

/-- A project and one of its AI tabs (`browser/model.rs:86-89`). -/
abbrev BrowserWorkspaceKey := PairKey String String

instance : TransOrd BrowserWorkspaceKey := inferInstance

/-- A workspace and one of its browser tabs (L5-8). -/
abbrev BrowserOperationTarget := PairKey BrowserWorkspaceKey String

instance : TransOrd BrowserOperationTarget := inferInstance

structure QueuedOperation (T : Type) where
  operationId : String
  value : T

structure BrowserQueueCancellation (T : Type) where
  activeOperationId : Option String
  queued : List T

structure BrowserOperationQueue (T : Type) where
  active : ExtTreeMap BrowserOperationTarget String
  queued : ExtTreeMap BrowserOperationTarget (List (QueuedOperation T))

variable {T : Type}

namespace BrowserOperationQueue

variable (q : BrowserOperationQueue T) (target : BrowserOperationTarget)

/-- What waits on a target, the front first. -/
def waiting : List (QueuedOperation T) := q.queued[target]?.getD []

/-- `enqueue`, L59-80 -/
def enqueue (operationId : String) (value : T) : Option T × BrowserOperationQueue T :=
  if target ∈ q.active then
    (none, { q with queued := q.queued.insert target (q.waiting target ++ [⟨operationId, value⟩]) })
  else (some value, { q with active := q.active.insert target operationId })

/-- `complete`, L85-103 -/
def complete (operationId : String) : Option T × BrowserOperationQueue T :=
  if q.active[target]? ≠ some operationId then (none, q)
  else
    match q.waiting target with
    | [] => (none, ⟨q.active.erase target, q.queued.erase target⟩)
    | next :: rest =>
      (some next.value, ⟨(q.active.erase target).insert target next.operationId,
        if rest.isEmpty then q.queued.erase target else q.queued.insert target rest⟩)

/-- `cancel_tab`, L105-119 -/
def cancelTab : BrowserQueueCancellation T × BrowserOperationQueue T :=
  (⟨q.active[target]?, (q.waiting target).map (·.value)⟩,
    ⟨q.active.erase target, q.queued.erase target⟩)

/-- `cancel_queued`, L121-128 -/
def cancelQueued : List T × BrowserOperationQueue T :=
  ((q.waiting target).map (·.value), { q with queued := q.queued.erase target })

/-- The targets that are kept, in an order (L130-168). -/
def targetsWhere (keep : BrowserOperationTarget → Bool)
    (cmp : BrowserOperationTarget → BrowserOperationTarget → Ordering) :
    List BrowserOperationTarget :=
  (((q.active.keys ++ q.queued.keys).filter keep).mergeSort fun left right =>
    (cmp left right).isLE).destutter (· ≠ ·)

/-- `cancel_tab` on one target after another (L191-197, L204-210). -/
def cancelAll : List BrowserOperationTarget → BrowserOperationQueue T →
    List (BrowserOperationTarget × BrowserQueueCancellation T) × BrowserOperationQueue T
  | [], q => ([], q)
  | target :: targets, q =>
    let (cancellation, q) := q.cancelTab target
    let (cancellations, q) := cancelAll targets q
    ((target, cancellation) :: cancellations, q)

/-- `cancel_workspace`, L186-197 -/
def cancelWorkspace (workspaceKey : BrowserWorkspaceKey) :
    List (BrowserOperationTarget × BrowserQueueCancellation T) × BrowserOperationQueue T :=
  cancelAll (q.targetsWhere (·.first = workspaceKey) (compareOn (·.second))) q

/-- `cancel_project`, L199-210 -/
def cancelProject (projectId : String) :
    List (BrowserOperationTarget × BrowserQueueCancellation T) × BrowserOperationQueue T :=
  cancelAll (q.targetsWhere (·.first.first = projectId)
    (compareLex (compareOn (·.first.second)) (compareOn (·.second)))) q

end BrowserOperationQueue

inductive QueueCall (T : Type)
  | enqueue (target : BrowserOperationTarget) (operationId : String) (value : T)
  | complete (target : BrowserOperationTarget) (operationId : String)
  | cancelTab (target : BrowserOperationTarget)
  | cancelQueued (target : BrowserOperationTarget)
  | cancelWorkspace (workspaceKey : BrowserWorkspaceKey)
  | cancelProject (projectId : String)

inductive QueueReply (T : Type)
  | start (value : Option T)
  | cancellation (cancelled : BrowserQueueCancellation T)
  | queued (values : List T)
  | cancellations (cancelled : List (BrowserOperationTarget × BrowserQueueCancellation T))

namespace BrowserOperationQueue

def call (q : BrowserOperationQueue T) : QueueCall T → QueueReply T × BrowserOperationQueue T
  | .enqueue target operationId value => (q.enqueue target operationId value).map .start id
  | .complete target operationId => (q.complete target operationId).map .start id
  | .cancelTab target => (q.cancelTab target).map .cancellation id
  | .cancelQueued target => (q.cancelQueued target).map .queued id
  | .cancelWorkspace workspaceKey => (q.cancelWorkspace workspaceKey).map .cancellations id
  | .cancelProject projectId => (q.cancelProject projectId).map .cancellations id

/-! ## What goes in and out -/

/-- The value that a call adds on `target`. -/
def added (target : BrowserOperationTarget) : QueueCall T × QueueReply T → List T
  | (.enqueue at_ _ value, _) => if at_ = target then [value] else []
  | _ => []

/-- The values on `target` that a call hands out, to start or as cancelled. -/
def taken (target : BrowserOperationTarget) : QueueCall T × QueueReply T → List T
  | (.enqueue at_ _ _, .start value) | (.complete at_ _, .start value) =>
    if at_ = target then value.toList else []
  | (.cancelTab at_, .cancellation ⟨_, values⟩) | (.cancelQueued at_, .queued values) =>
    if at_ = target then values else []
  | (_, .cancellations cancelled) =>
    cancelled.flatMap fun c => if c.1 = target then c.2.queued else []
  | _ => []

/-- What was handed out and what waits is what was enqueued, in order. -/
structure Accounted (q : BrowserOperationQueue T) (history : List (QueueCall T × QueueReply T)) :
    Prop where
  conserved : ∀ target, history.flatMap (taken target) ++ (q.waiting target).map (·.value) =
    history.flatMap (added target)
  busy : ∀ target, q.waiting target ≠ [] → target ∈ q.active

/-- What a call does on one target: the values that it adds there and hands out. -/
inductive TabStep (q q' : BrowserOperationQueue T) (target : BrowserOperationTarget) :
    List T → List T → Prop
  | kept (hactive : q'.active[target]? = q.active[target]?)
      (hwaiting : q'.waiting target = q.waiting target) : TabStep q q' target [] []
  | started (value : T) (hidle : target ∉ q.active) (hactive : target ∈ q'.active)
      (hwaiting : q'.waiting target = q.waiting target) : TabStep q q' target [value] [value]
  | waits (operation : QueuedOperation T) (hactive : target ∈ q'.active)
      (hwaiting : q'.waiting target = q.waiting target ++ [operation]) :
      TabStep q q' target [operation.value] []
  | next (operation : QueuedOperation T) (hactive : target ∈ q'.active)
      (hwaiting : q.waiting target = operation :: q'.waiting target) :
      TabStep q q' target [] [operation.value]
  | cleared (hwaiting : q'.waiting target = []) :
      TabStep q q' target [] ((q.waiting target).map (·.value))

variable {q q' : BrowserOperationQueue T} {target at_ : BrowserOperationTarget}

theorem enqueue_tabStep (operationId : String) (value : T) :
    TabStep q (q.enqueue at_ operationId value).2 target (if at_ = target then [value] else [])
      (if at_ = target then (q.enqueue at_ operationId value).1.toList else []) := by
  unfold enqueue
  split_ifs with hactive hat hat
  · subst hat
    exact .waits ⟨operationId, value⟩ hactive (by simp [waiting])
  · exact .kept rfl (by simp [waiting, hat])
  · subst hat
    exact .started value hactive ExtTreeMap.mem_insert_self rfl
  · exact .kept (by simp [hat]) rfl

theorem complete_tabStep (operationId : String) :
    TabStep q (q.complete at_ operationId).2 target []
      (if at_ = target then (q.complete at_ operationId).1.toList else []) := by
  unfold complete
  split_ifs with hactive hat hat
  · exact .kept rfl rfl
  · exact .kept rfl rfl
  · subst hat
    cases hwait : q.waiting at_ with
    | nil =>
      have hcleared : TabStep q ⟨q.active.erase at_, q.queued.erase at_⟩ at_ [] _ :=
        .cleared (by simp [waiting])
      rwa [hwait] at hcleared
    | cons next rest =>
      refine .next next ExtTreeMap.mem_insert_self (hwait.trans ?_)
      cases rest <;> simp [waiting]
  · cases hwait : q.waiting at_ with
    | nil => exact .kept (by simp [hat]) (by simp [waiting, hat])
    | cons next rest =>
      refine .kept (by simp [hat]) ?_
      cases rest <;> simp [waiting, hat]

theorem cancelTab_tabStep :
    TabStep q (q.cancelTab at_).2 target []
      (if at_ = target then (q.cancelTab at_).1.queued else []) := by
  split_ifs with hat
  · subst hat
    exact .cleared (by simp [waiting, cancelTab])
  · exact .kept (by simp [cancelTab, hat]) (by simp [waiting, cancelTab, hat])

theorem cancelAll_spec (targets) :
    ∀ q : BrowserOperationQueue T, (cancelAll targets q).1.map Prod.fst = targets ∧
      ((cancelAll targets q).1.flatMap fun c => if c.1 = target then c.2.queued else []) =
        (if target ∈ targets then (q.waiting target).map (·.value) else []) ∧
      (cancelAll targets q).2.active[target]? =
        (if target ∈ targets then none else q.active[target]?) ∧
      (cancelAll targets q).2.queued[target]? =
        if target ∈ targets then none else q.queued[target]? := by
  induction targets with
  | nil => exact fun q => ⟨rfl, rfl, rfl, rfl⟩
  | cons first targets ih =>
    intro q
    obtain ⟨hfirst, htaken, hactive, hqueue⟩ := ih (q.cancelTab first).2
    by_cases hat : first = target
    · subst hat
      simp_all [cancelAll, cancelTab, waiting]
    · simp_all [cancelAll, cancelTab, waiting, Ne.symm hat]

theorem cancelAll_tabStep (targets) :
    TabStep q (cancelAll targets q).2 target []
      ((cancelAll targets q).1.flatMap fun c => if c.1 = target then c.2.queued else []) := by
  obtain ⟨-, htaken, hactive, hqueue⟩ := @cancelAll_spec _ target targets q
  rw [htaken]
  split_ifs at hactive hqueue ⊢
  · exact .cleared (by simp [waiting, hqueue])
  · exact .kept hactive (by simp [waiting, hqueue])

theorem call_tabStep (c : QueueCall T) :
    TabStep q (q.call c).2 target (added target (c, (q.call c).1))
      (taken target (c, (q.call c).1)) := by
  cases c with
  | enqueue at_ operationId value => exact enqueue_tabStep operationId value
  | complete at_ operationId => exact complete_tabStep operationId
  | cancelTab at_ => exact cancelTab_tabStep
  | cancelQueued at_ =>
    show TabStep q (q.cancelQueued at_).2 target [] (if at_ = target then _ else [])
    split_ifs with hat
    · subst hat
      exact .cleared (by simp [waiting, cancelQueued])
    · exact .kept rfl (by simp [waiting, cancelQueued, hat])
  | cancelWorkspace workspaceKey => exact cancelAll_tabStep _
  | cancelProject projectId => exact cancelAll_tabStep _

theorem TabStep.accounted {new out : List T} (h : TabStep q q' target new out)
    (hbusy : q.waiting target ≠ [] → target ∈ q.active) :
    out ++ (q'.waiting target).map (·.value) = (q.waiting target).map (·.value) ++ new ∧
      (q'.waiting target ≠ [] → target ∈ q'.active) := by
  cases h with
  | kept hactive hwaiting =>
    refine ⟨by simp [hwaiting], fun hne => OrdMap.mem_iff_exists.mpr ?_⟩
    rw [hactive]
    exact OrdMap.mem_iff_exists.mp (hbusy (hwaiting ▸ hne))
  | started value hidle hactive hwaiting =>
    have hnone : q.waiting target = [] := not_not.mp fun hne => hidle (hbusy hne)
    exact ⟨by simp [hwaiting, hnone], fun _ => hactive⟩
  | waits operation hactive hwaiting => exact ⟨by simp [hwaiting], fun _ => hactive⟩
  | next operation hactive hwaiting => exact ⟨by simp [hwaiting], fun _ => hactive⟩
  | cleared hwaiting => exact ⟨by simp [hwaiting], fun hne => absurd hwaiting hne⟩

/-- Over any run, what was enqueued on a target was handed out in that order, or still waits, and
nothing waits without an active operation. -/
theorem accounted_run (calls : List (QueueCall T)) :
    Accounted (Calls.after call ⟨∅, ∅⟩ calls) (Calls.trace call ⟨∅, ∅⟩ calls) := by
  refine Calls.history_invariant (P := Accounted) ⟨fun target => ?_, fun target hne => ?_⟩
    (fun q history c h => ⟨fun target => ?_, fun target => ?_⟩) calls
  · simp [waiting]
  · simp [waiting] at hne
  · have hhas := ((call_tabStep c).accounted (h.busy target)).1
    rw [flatMap_append, flatMap_append, ← h.conserved target, append_assoc,
      append_assoc, flatMap_singleton, flatMap_singleton, hhas]
  · exact ((call_tabStep c).accounted (h.busy target)).2

/-! ## Cancellations of many tabs -/

/-- What a cancellation of the targets with `keep` answers and leaves. -/
structure Cancels (keep : BrowserOperationTarget → Bool) (q : BrowserOperationQueue T)
    (done : List (BrowserOperationTarget × BrowserQueueCancellation T) × BrowserOperationQueue T) :
    Prop where
  once : (done.1.map Prod.fst).Nodup
  affected : ∀ target, target ∈ done.1.map Prod.fst ↔
    keep target = true ∧ (target ∈ q.active ∨ target ∈ q.queued)
  cleared : ∀ target, keep target = true →
    done.2.active[target]? = none ∧ done.2.queued[target]? = none
  others : ∀ target, keep target = false →
    done.2.active[target]? = q.active[target]? ∧ done.2.queued[target]? = q.queued[target]?

theorem targetsWhere_spec {keep : BrowserOperationTarget → Bool}
    {cmp : BrowserOperationTarget → BrowserOperationTarget → Ordering} [TransCmp cmp]
    (hcmp : ∀ a b, keep a = true → keep b = true → cmp a b = .eq → a = b) :
    (q.targetsWhere keep cmp).Nodup ∧ ∀ target, target ∈ q.targetsWhere keep cmp ↔
      keep target = true ∧ (target ∈ q.active ∨ target ∈ q.queued) := by
  have : Std.Antisymm fun a b => (keep a = true ∧ keep b = true) ∧ (cmp a b).isLE = true :=
    ⟨fun a b hab hbase =>
      hcmp a b hab.1.1 hab.1.2 (Std.OrientedCmp.isLE_antisymm hab.2 hbase.2)⟩
  have hsorted := @List.pairwise_mergeSort _ (fun a b => (cmp a b).isLE)
    (fun a b c => TransCmp.isLE_trans)
    (fun a b => by
      rw [@Std.OrientedCmp.eq_swap _ cmp _ b]
      cases cmp a b <;> rfl)
    ((q.active.keys ++ q.queued.keys).filter keep)
  have hpair := hsorted.imp_of_mem (S := fun a b =>
    (keep a = true ∧ keep b = true) ∧ (cmp a b).isLE = true) fun ha hb hab =>
      ⟨⟨(mem_filter.mp (mem_mergeSort.mp ha)).2, (mem_filter.mp (mem_mergeSort.mp hb)).2⟩, hab⟩
  rw [targetsWhere, hpair.destutter_eq_dedup]
  refine ⟨nodup_dedup _, fun target => ?_⟩
  rw [mem_dedup, mem_mergeSort, mem_filter, mem_append, ExtTreeMap.mem_keys,
    ExtTreeMap.mem_keys, and_comm]

theorem cancelAll_cancels {keep : BrowserOperationTarget → Bool}
    {cmp : BrowserOperationTarget → BrowserOperationTarget → Ordering} [TransCmp cmp]
    (hcmp : ∀ a b, keep a = true → keep b = true → cmp a b = .eq → a = b) :
    Cancels keep q (cancelAll (q.targetsWhere keep cmp) q) := by
  obtain ⟨hnodup, hmem⟩ := targetsWhere_spec (q := q) hcmp
  have hspec := fun target => @cancelAll_spec _ target (q.targetsWhere keep cmp) q
  have hfirst := (hspec ⟨⟨"", ""⟩, ""⟩).1
  refine ⟨by rwa [hfirst], fun target => by rw [hfirst, hmem], fun target hkeep => ?_,
    fun target hkeep => ?_⟩
  · obtain ⟨-, -, hactive, hqueue⟩ := hspec target
    rw [hactive, hqueue]
    split_ifs with hin
    · exact ⟨rfl, rfl⟩
    · rw [hmem, not_and, not_or] at hin
      exact ⟨OrdMap.not_mem_iff.mp (hin hkeep).1, OrdMap.not_mem_iff.mp (hin hkeep).2⟩
  · obtain ⟨-, -, hactive, hqueue⟩ := hspec target
    have hout : target ∉ q.targetsWhere keep cmp := fun hin => by
      simpa [hkeep] using ((hmem target).mp hin).1
    rw [hactive, hqueue, if_neg hout, if_neg hout]
    exact ⟨rfl, rfl⟩

/-- A workspace or a project is cancelled as a whole: each of its tabs with work once, and no
other. -/
theorem cancellations_exact (q : BrowserOperationQueue T) :
    (∀ key : BrowserWorkspaceKey, Cancels (·.first = key) q (q.cancelWorkspace key)) ∧
      ∀ projectId, Cancels (·.first.first = projectId) q (q.cancelProject projectId) := by
  refine ⟨fun key => cancelAll_cancels ?_, fun projectId => cancelAll_cancels ?_⟩
  · rintro ⟨first, tab⟩ ⟨first', tab'⟩ ha hb hab
    obtain rfl := of_decide_eq_true ha
    obtain rfl := of_decide_eq_true hb
    obtain rfl : tab = tab' := LawfulEqOrd.eq_of_compare hab
    rfl
  · rintro ⟨⟨project, ai⟩, tab⟩ ⟨⟨project', ai'⟩, tab'⟩ ha hb hab
    obtain rfl : project = projectId := of_decide_eq_true ha
    obtain rfl : project' = project := of_decide_eq_true hb
    obtain ⟨hai, htabs⟩ := Ordering.then_eq_eq.mp hab
    obtain rfl : ai = ai' := LawfulEqOrd.eq_of_compare hai
    obtain rfl : tab = tab' := LawfulEqOrd.eq_of_compare htabs
    rfl

end BrowserOperationQueue

end DevManager.Browser
