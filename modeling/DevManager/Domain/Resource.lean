import DevManager.Domain.Agent
import DevManager.Lib.OrdMap

/-!
# Resources, terminals and the terminal strip

`src/domain/{resource,terminal_facts,agent_resource}.rs`: what a resource recipe
must look like, which terminal is a plain shell, the bounded strip of a task's
plain shells, and the join of an agent with the terminal it runs in.

* `ResourceFacts.kind_recipe_of_validate`: a valid resource has a recipe of its
  kind, and the recipe is valid.
* `ResourceRecipe.validate_withTitle`: a plain shell's recipe stays valid when it
  is renamed to a valid title.
* `TaskTerminalStrip.validate_eq_ok`: a strip is valid iff it is short, has no
  duplicates, holds plain shells of the task only, and its focus is one of them.
-/

namespace DevManager

open Std (ExtTreeMap ExtTreeSet)

/-- `MAX_TERMINAL_TITLE_CHARS`, `resource.rs:77` -/
def maxTerminalTitleChars : ℕ := 64

/-- `validate_terminal_title`, `resource.rs:82-88` -/
def validateTerminalTitle (title : String) : Except ResourceValidationError Unit :=
  failIf (trim title ≠ title ∨ title = "" ∨ title.length > maxTerminalTitleChars)
    .invalidTerminalTitle

/-- `validate`, `resource.rs:99-104` -/
def TerminalLaunch.validate [Externals] (launch : TerminalLaunch) :
    Except ResourceValidationError Unit :=
  failIf (¬ Externals.isAbsolute launch.cwd ∨ launch.program = "") .invalidTerminalLaunch

namespace ResourceRecipe

/-- `is_plain_shell`, `resource.rs:145-153` -/
def isPlainShell : ResourceRecipe → Bool
  | terminal _ _ launch _ => launch.isSome
  | browser _ _ => false
  | service _ => false

/-- `validate`, `resource.rs:223-260` -/
def validate [Externals] : ResourceRecipe → Except ResourceValidationError Unit
  | terminal cols rows launch title => do
    failIf (cols = 0 ∨ rows = 0) .invalidTerminalGeometry
    (match launch with
    | some launch => launch.validate
    | none => .ok ())
    (match title with
    | some title => do
      failIf launch.isNone .invalidTerminalTitle
      validateTerminalTitle title
    | none => .ok ())
  | browser startUrl _ => failIf (¬ Canonical.isCanonical startUrl) .emptyRecipe
  | service command => failIf (¬ Canonical.isCanonical command) .emptyRecipe

/-- The title of a terminal recipe, and what `ResourceRegistered` copies into the terminal
facts (`event.rs:2916-2919`). -/
def title : ResourceRecipe → Option String
  | terminal _ _ _ title => title
  | _ => none

/-- The recipe with its title replaced (`event.rs:3000-3006`). -/
def withTitle (title : Option String) : ResourceRecipe → ResourceRecipe
  | terminal cols rows launch _ => terminal cols rows launch title
  | recipe => recipe

@[simp] theorem isPlainShell_withTitle (recipe : ResourceRecipe) (t) :
    (recipe.withTitle t).isPlainShell = recipe.isPlainShell := by
  cases recipe <;> rfl

theorem title_withTitle {recipe : ResourceRecipe} (h : recipe.isPlainShell = true)
    (t) : (recipe.withTitle t).title = t := by
  cases recipe with
  | terminal cols rows launch title => rfl
  | browser startUrl contextId => cases h
  | service command => cases h

theorem validate_withTitle [Externals] {recipe : ResourceRecipe}
    (hshell : recipe.isPlainShell = true) (hvalid : recipe.validate = .ok ()) {title}
    (htitle : validateTerminalTitle title = .ok ()) :
    (recipe.withTitle (some title)).validate = .ok () := by
  cases recipe with
  | terminal cols rows launch old =>
    obtain ⟨launch, rfl⟩ : ∃ l, launch = some l := Option.isSome_iff_exists.mp hshell
    simp only [validate, ok_iff] at hvalid
    simp only [withTitle, validate, ok_iff]
    exact ⟨hvalid.1, hvalid.2.1, by simp, htitle⟩
  | browser startUrl contextId => cases hshell
  | service command => cases hshell

end ResourceRecipe

namespace ResourceFacts

/-- The recipe has the shape its resource kind asks for (`resource.rs:356-361`). -/
def kindFitsRecipe : ResourceKind → ResourceRecipe → Bool
  | .terminal, .terminal .. => true
  | .browserContext, .browser .. => true
  | .service, .service .. => true
  | _, _ => false

variable [Externals]

/-- `validate`, `resource.rs:351-363` -/
def validate (resource : ResourceFacts) : Except ResourceValidationError Unit := do
  (match resource.ownerKind, resource.taskId with
  | .task, some _ => .ok ()
  | .host, none => .ok ()
  | _, _ => .error .ownerBinding)
  if kindFitsRecipe resource.resourceKind resource.recipe then
    resource.recipe.validate
  else
    .error .kindRecipeMismatch

/-- `validate_for_registration`, `resource.rs:365-374` -/
def validateForRegistration (resource : ResourceFacts) : Except ResourceValidationError Unit := do
  resource.validate
  failIf (resource.ownerKind ≠ .task) .ownerBinding
  failIf (resource.lifecycle ≠ .active) .invalidRegistrationLifecycle

theorem kind_recipe_of_validate {resource : ResourceFacts} (h : resource.validate = .ok ()) :
    kindFitsRecipe resource.resourceKind resource.recipe = true ∧
      resource.recipe.validate = .ok () := by
  unfold validate at h
  simp only [ok_iff] at h
  obtain ⟨-, h⟩ := h
  split_ifs at h with hk
  exact ⟨hk, h⟩

theorem isTerminal_of_isPlainShell {resource : ResourceFacts} (h : resource.validate = .ok ())
    (hshell : resource.recipe.isPlainShell = true) : resource.resourceKind = .terminal := by
  obtain ⟨hkind, -⟩ := kind_recipe_of_validate h
  cases hr : resource.recipe with
  | terminal cols rows launch title =>
    rw [hr] at hkind
    cases hk : resource.resourceKind <;> rw [hk] at hkind <;> first | rfl | cases hkind
  | browser | service => rw [hr] at hshell; cases hshell

end ResourceFacts

/-! ## `agent_resource.rs` -/

/-- `AgentResourceBinding`, `agent_resource.rs:25-31` -/
structure AgentResourceBinding where
  taskId : TaskId
  agentSessionId : AgentSessionId
  resourceId : ResourceId
  providerKind : ProviderKind
  runtimeGeneration : ℕ

inductive AgentResourceBindingError
  | resourceTaskMismatch | resourceMustBeTaskOwned | resourceMustBeTerminal
  | resourceMustNotBePlainShell | agentMustBeOpen | resourceMustBeActive
  | runtimeGenerationMismatch

/-- `from_facts`, `agent_resource.rs:78-117` -/
def AgentResourceBinding.fromFacts (agent : AgentSessionFacts) (resource : ResourceFacts) :
    Except AgentResourceBindingError AgentResourceBinding := do
  failIf (resource.taskId ≠ some agent.taskId)
    (if resource.taskId.isSome then .resourceTaskMismatch else .resourceMustBeTaskOwned)
  failIf (resource.ownerKind ≠ .task) .resourceMustBeTaskOwned
  failIf (resource.resourceKind ≠ .terminal) .resourceMustBeTerminal
  failIf resource.recipe.isPlainShell .resourceMustNotBePlainShell
  failIf (agent.lifecycle ≠ .opened) .agentMustBeOpen
  failIf (resource.lifecycle ≠ .active) .resourceMustBeActive
  failIf (agent.runtimeGeneration ≠ resource.runtimeGeneration) .runtimeGenerationMismatch
  pure { agent with agentSessionId := agent.id, resourceId := resource.id }

/-! ## `terminal_facts.rs` -/

/-- `MAX_PLAIN_SHELLS_PER_TASK`, `terminal_facts.rs:14` -/
def maxPlainShellsPerTask : ℕ := 8

/-- `registered`, `terminal_facts.rs:48-57` -/
def TerminalFacts.registered (resourceId : ResourceId) (title : Option String)
    (createdAtMs : ℤ) : TerminalFacts where
  resourceId := resourceId
  title := title
  liveCwd := none
  exit := none
  createdAtMs := createdAtMs
  lastActivityAtMs := createdAtMs

/-- `TerminalStripError`, `terminal_facts.rs:111-117` -/
inductive TerminalStripError
  | duplicate (id : ResourceId)
  | focusedNotInOrder (id : ResourceId)
  | notATerminal (id : ResourceId)
  | foreignTask (id : ResourceId)
  | tooManyTerminals (count : ℕ)

namespace TaskTerminalStrip

/-- `TaskTerminalStrip::default()`. -/
def default : TaskTerminalStrip := { order := [], focused := none }

variable (taskId : TaskId) (resources : ExtTreeMap ResourceId ResourceFacts)

/-- One round of the loop of `TaskTerminalStrip::validate` (`terminal_facts.rs:152-167`). -/
def validateEntry (seen : ExtTreeSet ResourceId) (id : ResourceId) :
    Except TerminalStripError (ExtTreeSet ResourceId) := do
  failIf (id ∈ seen) (.duplicate id)
  let facts ← okOr resources[id]? (.foreignTask id)
  failIf (facts.taskId ≠ some taskId) (.foreignTask id)
  failIf (facts.resourceKind ≠ .terminal ∨ ¬ facts.recipe.isPlainShell) (.notATerminal id)
  pure (seen.insert id)

/-- `validate`, `terminal_facts.rs:143-174` -/
def validate (strip : TaskTerminalStrip) : Except TerminalStripError Unit := do
  failIf (strip.order.length > maxPlainShellsPerTask) (.tooManyTerminals strip.order.length)
  let seen ← strip.order.foldlM (validateEntry taskId resources) ∅
  match strip.focused with
  | some focused => failIf (¬ focused ∈ seen) (.focusedNotInOrder focused)
  | none => pure ()

/-- `remove`, `terminal_facts.rs:178-183` -/
def remove (strip : TaskTerminalStrip) (resourceId : ResourceId) : TaskTerminalStrip where
  order := strip.order.filter fun id => id ≠ resourceId
  focused := if strip.focused = some resourceId then none else strip.focused

/-- `id` is a plain shell terminal of the task. -/
def IsTaskShell (id : ResourceId) : Prop :=
  ∃ facts, resources[id]? = some facts ∧ facts.taskId = some taskId ∧
    facts.resourceKind = .terminal ∧ facts.recipe.isPlainShell = true

variable {taskId resources}

theorem validateEntry_eq_ok {seen seen' id} :
    validateEntry taskId resources seen id = .ok seen' ↔
      id ∉ seen ∧ IsTaskShell taskId resources id ∧ seen' = seen.insert id := by
  unfold validateEntry IsTaskShell
  simp only [ok_iff, not_or]
  constructor
  · rintro ⟨h1, facts, h2, h3, ⟨h4, h5⟩, h6⟩
    exact ⟨h1, ⟨facts, h2, h3, h4, h5⟩, h6⟩
  · rintro ⟨h1, ⟨facts, h2, h3, h4, h5⟩, h6⟩
    exact ⟨h1, facts, h2, h3, ⟨h4, h5⟩, h6⟩

theorem foldlM_validateEntry_eq_ok {ids : List ResourceId} :
    ∀ {seen seen' : ExtTreeSet ResourceId},
      ids.foldlM (validateEntry taskId resources) seen = .ok seen' ↔
        ids.Nodup ∧ (∀ id ∈ ids, id ∉ seen) ∧ (∀ id ∈ ids, IsTaskShell taskId resources id) ∧
          seen' = ids.foldl (fun s id => s.insert id) seen := by
  induction ids with
  | nil =>
    intro seen seen'
    rw [List.foldlM_nil, pure_eq_ok]
    simp
  | cons a l ih =>
    intro seen seen'
    rw [foldlM_cons_ok]
    simp only [validateEntry_eq_ok, ih, List.nodup_cons, List.forall_mem_cons, List.foldl_cons]
    constructor
    · rintro ⟨_, ⟨hnew, hshell, rfl⟩, hnodup, hfresh, hshells, hseen⟩
      refine ⟨⟨fun ha => ?_, hnodup⟩, ⟨hnew, fun id hid hin => ?_⟩, ⟨hshell, hshells⟩, hseen⟩
      · exact hfresh a ha (OrdMap.mem_insertSet_iff.mpr (.inl rfl))
      · exact hfresh id hid (OrdMap.mem_insertSet_iff.mpr (.inr hin))
    · rintro ⟨⟨ha, hnodup⟩, ⟨hnew, hfresh⟩, ⟨hshell, hshells⟩, hseen⟩
      refine ⟨_, ⟨hnew, hshell, rfl⟩, hnodup, fun id hid hin => ?_, hshells, hseen⟩
      rcases OrdMap.mem_insertSet_iff.mp hin with rfl | hin
      · exact ha hid
      · exact hfresh id hid hin

theorem mem_foldl_insert {ids : List ResourceId} {id} :
    ∀ {seen : ExtTreeSet ResourceId},
      id ∈ ids.foldl (fun s id => s.insert id) seen ↔ id ∈ seen ∨ id ∈ ids := by
  induction ids with
  | nil => simp
  | cons a l ih =>
    intro seen
    rw [List.foldl_cons, ih, OrdMap.mem_insertSet_iff, List.mem_cons]
    constructor
    · rintro ((rfl | h) | h)
      exacts [Or.inr (Or.inl rfl), Or.inl h, Or.inr (Or.inr h)]
    · rintro (h | rfl | h)
      exacts [Or.inl (Or.inr h), Or.inl (Or.inl rfl), Or.inr h]

theorem validate_eq_ok {strip : TaskTerminalStrip} :
    strip.validate taskId resources = .ok () ↔
      strip.order.length ≤ maxPlainShellsPerTask ∧ strip.order.Nodup ∧
        (∀ id ∈ strip.order, IsTaskShell taskId resources id) ∧
        ∀ id, strip.focused = some id → id ∈ strip.order := by
  have hnil : ∀ id, id ∉ (∅ : ExtTreeSet ResourceId) := fun id =>
    ExtTreeSet.not_mem_empty
  unfold validate
  simp only [ok_iff, foldlM_validateEntry_eq_ok, not_lt]
  constructor
  · rintro ⟨hlen, seen, ⟨hnodup, -, hshells, rfl⟩, hfocus⟩
    refine ⟨hlen, hnodup, hshells, fun id hid => ?_⟩
    rw [hid] at hfocus
    simp only [failIf_eq_ok, not_not, mem_foldl_insert] at hfocus
    exact hfocus.resolve_left (hnil id)
  · rintro ⟨hlen, hnodup, hshells, hfocus⟩
    refine ⟨hlen, _, ⟨hnodup, fun id _ => hnil id, hshells, rfl⟩, ?_⟩
    cases hf : strip.focused with
    | none => rfl
    | some id =>
      simp only [failIf_eq_ok, not_not, mem_foldl_insert]
      exact .inr (hfocus id hf)

end TaskTerminalStrip

end DevManager
