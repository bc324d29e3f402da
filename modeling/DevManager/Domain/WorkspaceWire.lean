import DevManager.Domain.Browser
import DevManager.Domain.Operation
import DevManager.Domain.Task

/-!
# Workspaces on the wire (`src/domain/task.rs`)

A workspace is stored and sent without what only the host may know: the path and
the filesystem identity of each of its path facts. A workspace that is named by a
path alone is refused.

* `WorkspaceRef.deserialize_wire`: a valid workspace that is serialized is
  deserialized to its durable form, which is valid too.
-/

namespace DevManager

/-- The text an error is reported with: a literal, or `to_string` of another error. -/
inductive Detail
  | text (text : String)
  | task (error : TaskValidationError)
  | agent (error : AgentValidationError)
  | artifact (error : ArtifactValidationError)
  | resource (error : ResourceValidationError)
  | outcome (error : OutcomeFenceError)
  | providerInput (error : ProviderInputIntentError)
  | fence (error : ProviderFenceError)
  | browser (error : BrowserContractError)

/-- Why a value is not serialized or not deserialized: an error of `rmp_serde`, or
`Error::custom`. -/
inductive SerdeError
  | rmp (text : String)
  | custom (detail : Detail)

/-- `….map_err(Error::custom)?`. -/
def customErr {ε α : Type} (result : Except ε α) (detail : ε → Detail) : Except SerdeError α :=
  mapErr result fun error => .custom (detail error)

@[simp] theorem customErr_eq_ok {ε α : Type} {result : Except ε α} {detail : ε → Detail} {a : α} :
    customErr result detail = .ok a ↔ result = .ok a := mapErr_eq_ok

theorem customErr_ok {ε α : Type} (a : α) (detail : ε → Detail) :
    customErr (.ok a : Except ε α) detail = .ok a := rfl

/-! ## Workspaces (`task.rs`) -/

/-- `WorkspacePathFactWire`, L219-226 -/
structure WorkspacePathFactWire where
  workspaceId : String
  contentLength : Option ℕ
  contentFingerprint : Option RepositoryFingerprint

/-- What `#[derive(Serialize)]` writes of a `WorkspaceBindingFact` (L265-280). -/
structure WorkspaceBindingFactWire where
  kind : WorkspaceBindingKind
  projectRoot : WorkspacePathFactWire
  workspaceRoot : WorkspacePathFactWire
  repositoryRoot : Option WorkspacePathFactWire
  commonGitDir : Option WorkspacePathFactWire
  adminDir : Option WorkspacePathFactWire
  marker : Option WorkspacePathFactWire
  commondir : Option WorkspacePathFactWire
  gitdir : Option WorkspacePathFactWire
  head : Option WorkspacePathFactWire
  branch : Option String
  bindingFingerprint : RepositoryFingerprint

/-- `WorkspaceRefWire`, L585-611 -/
inductive WorkspaceRefWire
  | main
  | worktree (path branch : String)
  | external (path : String)
  | externalBound (binding : WorkspaceBindingFactWire)
  | mainWithFingerprint (repositoryFingerprint : RepositoryFingerprint)
  | worktreeWithFingerprint (path branch : String) (repositoryFingerprint : RepositoryFingerprint)
  | hostBound (binding : WorkspaceBindingFactWire)

/-- `serialize`, L231-243 -/
def WorkspacePathFact.wire (fact : WorkspacePathFact) : WorkspacePathFactWire where
  workspaceId := fact.opaqueId
  contentLength := fact.contentLength
  contentFingerprint := fact.contentFingerprint

/-- `#[derive(Serialize)]` on `WorkspaceBindingFact`. -/
def WorkspaceBindingFact.wire (binding : WorkspaceBindingFact) : WorkspaceBindingFactWire :=
  { binding with
    projectRoot := binding.projectRoot.wire
    workspaceRoot := binding.workspaceRoot.wire
    repositoryRoot := binding.repositoryRoot.map WorkspacePathFact.wire
    commonGitDir := binding.commonGitDir.map WorkspacePathFact.wire
    adminDir := binding.adminDir.map WorkspacePathFact.wire
    marker := binding.marker.map WorkspacePathFact.wire
    commondir := binding.commondir.map WorkspacePathFact.wire
    gitdir := binding.gitdir.map WorkspacePathFact.wire
    head := binding.head.map WorkspacePathFact.wire }

/-- `serialize`, L613-647 -/
def WorkspaceRef.serialize : WorkspaceRef → Except SerdeError WorkspaceRefWire
  | .main => .ok .main
  | .worktree .. | .external _ =>
    .error (.custom (.text "unresolved workspace path cannot cross a durable boundary"))
  | .mainWithFingerprint fingerprint => .ok (.mainWithFingerprint fingerprint)
  | .worktreeWithFingerprint .. =>
    .error (.custom (.text "workspace path cannot cross a durable boundary"))
  | .hostBound binding => .ok (.hostBound binding.wire)
  | .externalWithFingerprint _ binding => .ok (.externalBound binding.wire)

section Deserialize

variable [Externals]

/-- `deserialize`, L245-259 -/
def WorkspacePathFactWire.deserialize (wire : WorkspacePathFactWire) :
    Except TaskValidationError WorkspacePathFact := do
  let fact : WorkspacePathFact := {
    path := "", identity := "", opaqueId := wire.workspaceId, contentLength := wire.contentLength,
    contentFingerprint := wire.contentFingerprint }
  fact.validate
  pure fact

/-- An optional path fact of a binding. -/
def WorkspacePathFactWire.deserializeOpt :
    Option WorkspacePathFactWire → Except TaskValidationError (Option WorkspacePathFact)
  | some wire => do
    let fact ← wire.deserialize
    pure (some fact)
  | none => .ok none

/-- `#[derive(Deserialize)]` on `WorkspaceBindingFact`. -/
def WorkspaceBindingFactWire.deserialize (wire : WorkspaceBindingFactWire) :
    Except TaskValidationError WorkspaceBindingFact := do
  let projectRoot ← wire.projectRoot.deserialize
  let workspaceRoot ← wire.workspaceRoot.deserialize
  let repositoryRoot ← WorkspacePathFactWire.deserializeOpt wire.repositoryRoot
  let commonGitDir ← WorkspacePathFactWire.deserializeOpt wire.commonGitDir
  let adminDir ← WorkspacePathFactWire.deserializeOpt wire.adminDir
  let marker ← WorkspacePathFactWire.deserializeOpt wire.marker
  let commondir ← WorkspacePathFactWire.deserializeOpt wire.commondir
  let gitdir ← WorkspacePathFactWire.deserializeOpt wire.gitdir
  let head ← WorkspacePathFactWire.deserializeOpt wire.head
  pure { wire with
    projectRoot, workspaceRoot, repositoryRoot, commonGitDir, adminDir, marker, commondir, gitdir,
    head }

/-- `deserialize`, L769-809 -/
def WorkspaceRefWire.deserialize : WorkspaceRefWire → Except SerdeError WorkspaceRef
  | .main => .ok .main
  | .worktree .. | .external _ | .worktreeWithFingerprint .. =>
    .error (.custom (.text "durable workspace wire must use an opaque host binding"))
  | .externalBound wire => do
    let binding ← customErr wire.deserialize .task
    failIf (binding.kind ≠ .external)
      (.custom (.text "opaque external workspace binding has invalid kind"))
    customErr binding.validate .task
    pure (.externalWithFingerprint "" binding)
  | .mainWithFingerprint fingerprint => do
    let value : WorkspaceRef := .mainWithFingerprint fingerprint
    customErr value.validate .task
    pure value
  | .hostBound wire => do
    let binding ← customErr wire.deserialize .task
    customErr binding.validate .task
    pure (.hostBound binding)

end Deserialize

/-! ### The durable form -/

/-- A path fact without what only the host knows. -/
def WorkspacePathFact.durable (fact : WorkspacePathFact) : WorkspacePathFact :=
  { fact with path := "", identity := "" }

/-- A binding without what only the host knows. -/
def WorkspaceBindingFact.durable (binding : WorkspaceBindingFact) : WorkspaceBindingFact :=
  { binding with
    projectRoot := binding.projectRoot.durable
    workspaceRoot := binding.workspaceRoot.durable
    repositoryRoot := binding.repositoryRoot.map WorkspacePathFact.durable
    commonGitDir := binding.commonGitDir.map WorkspacePathFact.durable
    adminDir := binding.adminDir.map WorkspacePathFact.durable
    marker := binding.marker.map WorkspacePathFact.durable
    commondir := binding.commondir.map WorkspacePathFact.durable
    gitdir := binding.gitdir.map WorkspacePathFact.durable
    head := binding.head.map WorkspacePathFact.durable }

/-- What a stored workspace is read back as. -/
def WorkspaceRef.durable : WorkspaceRef → WorkspaceRef
  | .hostBound binding => .hostBound binding.durable
  | .externalWithFingerprint _ binding => .externalWithFingerprint "" binding.durable
  | workspace => workspace

/-- A workspace that is named by its path alone is never stored. -/
def WorkspaceRef.Storable : WorkspaceRef → Prop
  | .worktree .. | .external _ | .worktreeWithFingerprint .. => False
  | _ => True

theorem WorkspacePathFact.deserialize_wire {fact : WorkspacePathFact}
    (h : fact.validate = .ok ()) : fact.wire.deserialize = .ok fact.durable := by
  unfold WorkspacePathFact.validate at h
  simp only [ok_iff] at h
  obtain ⟨-, hid, hbody⟩ := h
  simp only [WorkspacePathFactWire.deserialize, WorkspacePathFact.wire, ok_iff,
    WorkspacePathFact.validate, if_true]
  exact ⟨⟨trivial, failIf_eq_ok.mpr hid, failIf_eq_ok.mpr (not_not.mpr hbody)⟩, rfl⟩

theorem WorkspacePathFact.deserialize_wireOpt {fact : Option WorkspacePathFact}
    (h : ∀ f ∈ fact, f.validate = .ok ()) :
    WorkspacePathFactWire.deserializeOpt (fact.map wire) = .ok (fact.map durable) := by
  cases fact with
  | none => rfl
  | some fact =>
    simp only [Option.map_some, WorkspacePathFactWire.deserializeOpt, ok_iff]
    exact ⟨_, WorkspacePathFact.deserialize_wire (h fact rfl), rfl⟩

theorem WorkspacePathFact.validate_durable {fact : WorkspacePathFact}
    (h : fact.validate = .ok ()) : fact.durable.validate = .ok () := by
  have hwire := WorkspacePathFact.deserialize_wire h
  simp only [WorkspacePathFactWire.deserialize, ok_iff] at hwire
  exact hwire.1

section Binding

open WorkspacePathFact (deserialize_wireOpt)

variable [Externals]

variable {binding : WorkspaceBindingFact}

theorem WorkspaceBindingFact.facts_of_validate (h : binding.validate = .ok ()) :
    binding.projectRoot.validate = .ok () ∧ binding.workspaceRoot.validate = .ok () ∧
      ∀ fact ∈ [binding.repositoryRoot, binding.commonGitDir, binding.adminDir, binding.marker,
        binding.commondir, binding.gitdir, binding.head], ∀ f ∈ fact, f.validate = .ok () := by
  unfold WorkspaceBindingFact.validate at h
  simp only [ok_iff, forM_eq_ok] at h
  obtain ⟨hproj, hws, hrest, -⟩ := h
  refine ⟨hproj, hws, fun fact hfact f hf => hrest f ?_⟩
  rw [List.mem_filterMap]
  exact ⟨fact, hfact, hf⟩

theorem WorkspaceBindingFact.deserialize_wire
    (h : binding.validate = .ok ()) : binding.wire.deserialize = .ok binding.durable := by
  obtain ⟨hproj, hws, hrest⟩ := facts_of_validate h
  simp only [List.mem_cons, List.not_mem_nil, or_false, forall_eq_or_imp, forall_eq] at hrest
  obtain ⟨hrepository, hcommon, hadmin, hmarker, hcommondir, hgitdir, hhead⟩ := hrest
  simp only [WorkspaceBindingFactWire.deserialize, WorkspaceBindingFact.wire,
    WorkspacePathFact.deserialize_wire hproj, WorkspacePathFact.deserialize_wire hws,
    deserialize_wireOpt hrepository, deserialize_wireOpt hcommon, deserialize_wireOpt hadmin,
    deserialize_wireOpt hmarker, deserialize_wireOpt hcommondir, deserialize_wireOpt hgitdir,
    deserialize_wireOpt hhead, ok_bind]
  rfl

omit [Externals] in
theorem WorkspacePathFact.fingerprintFact_durable (fact) :
    WorkspaceBindingFact.fingerprintFact (fact.map durable) =
      WorkspaceBindingFact.fingerprintFact fact := by
  cases fact <;> rfl

variable (binding)

omit [Externals] in
theorem WorkspaceBindingFact.fingerprintPreimage_durable :
    binding.durable.fingerprintPreimage = binding.fingerprintPreimage := by
  have hsome : ∀ fact,
      fingerprintFact (some fact.durable) = fingerprintFact (some fact) := fun fact => rfl
  simp only [fingerprintPreimage, durable, fingerprintEntry,
    WorkspacePathFact.fingerprintFact_durable, hsome]

theorem WorkspaceBindingFact.computeFingerprint_durable :
    binding.durable.computeFingerprint = binding.computeFingerprint := by
  unfold computeFingerprint
  rw [fingerprintPreimage_durable]

variable {binding}

theorem WorkspaceBindingFact.validate_durable
    (h : binding.validate = .ok ()) : binding.durable.validate = .ok () := by
  obtain ⟨hproj, hws, hfacts⟩ := facts_of_validate h
  unfold WorkspaceBindingFact.validate at h ⊢
  simp only [ok_iff, forM_eq_ok] at h ⊢
  obtain ⟨-, -, -, hbranch, hshape, computed, hcomputed, hsame⟩ := h
  refine ⟨WorkspacePathFact.validate_durable hproj, WorkspacePathFact.validate_durable hws, ?_,
    hbranch, ?_, computed, ?_, hsame⟩
  · intro fact hfact
    rw [List.mem_filterMap] at hfact
    obtain ⟨stored, hstored, hf⟩ := hfact
    change stored ∈ [binding.repositoryRoot, binding.commonGitDir, binding.adminDir,
      binding.marker, binding.commondir, binding.gitdir, binding.head].map
        (Option.map WorkspacePathFact.durable) at hstored
    rw [List.mem_map] at hstored
    obtain ⟨original, horiginal, rfl⟩ := hstored
    obtain ⟨f, hf', rfl⟩ := Option.map_eq_some_iff.mp hf
    exact WorkspacePathFact.validate_durable (hfacts original horiginal f hf')
  · unfold mainShapeBad worktreeShapeBad durable at *
    simp only [Option.isSome_map, Option.isNone_map]
    exact hshape
  · rw [computeFingerprint_durable]
    exact hcomputed

theorem WorkspaceRef.deserialize_wire {workspace : WorkspaceRef}
    (h : workspace.validate = .ok ()) (hstorable : workspace.Storable) :
    ∃ wire, workspace.serialize = .ok wire ∧ wire.deserialize = .ok workspace.durable := by
  cases workspace with
  | main => exact ⟨_, rfl, rfl⟩
  | worktree | external | worktreeWithFingerprint => exact hstorable.elim
  | mainWithFingerprint fingerprint =>
    refine ⟨_, rfl, ?_⟩
    simp only [WorkspaceRefWire.deserialize, ok_iff, customErr_eq_ok]
    exact ⟨h, rfl⟩
  | hostBound binding =>
    have hbind : binding.validate = .ok () := h
    refine ⟨_, rfl, ?_⟩
    simp only [WorkspaceRefWire.deserialize, ok_iff, customErr_eq_ok]
    exact ⟨_, WorkspaceBindingFact.deserialize_wire hbind,
      WorkspaceBindingFact.validate_durable hbind, rfl⟩
  | externalWithFingerprint path binding =>
    simp only [WorkspaceRef.validate, ok_iff] at h
    obtain ⟨hbind, hkind, -⟩ := h
    refine ⟨_, rfl, ?_⟩
    simp only [WorkspaceRefWire.deserialize, ok_iff, customErr_eq_ok]
    exact ⟨_, WorkspaceBindingFact.deserialize_wire hbind, hkind,
      WorkspaceBindingFact.validate_durable hbind, rfl⟩

theorem WorkspaceRef.validate_durable {workspace : WorkspaceRef}
    (h : workspace.validate = .ok ()) : workspace.durable.validate = .ok () := by
  cases workspace with
  | hostBound => exact WorkspaceBindingFact.validate_durable h
  | externalWithFingerprint path binding =>
    simp only [WorkspaceRef.validate, WorkspaceRef.durable, ok_iff] at h ⊢
    exact ⟨WorkspaceBindingFact.validate_durable h.1, h.2.1, rfl⟩
  | _ => exact h

end Binding

end DevManager
