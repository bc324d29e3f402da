import DevManager.Domain.Externals
import DevManager.Lib.Result

/-!
# Task facts and workspace references (`src/domain/task.rs`)

The validators that `decide` and `apply` call on a task: the fingerprint of a
host-issued workspace binding, the shape of a `WorkspaceRef`, the assignment,
and the state a task must be created in.

* `validateForCreate_eq_ok`: a task passes `validate_for_create` iff its content
  is valid and it is open, at epoch 0 and revision 1.
-/

namespace DevManager

variable [Externals]

/-- `MAX_DURABLE_PATH_BYTES`, `MAX_DURABLE_IDENTITY_BYTES`, `MAX_DURABLE_BRANCH_BYTES`
(L104-106). -/
def maxDurablePathBytes : ℕ := 32 * 1024
def maxDurableIdentityBytes : ℕ := 256
def maxDurableBranchBytes : ℕ := 512

/-- `check_path`, L1125-1130 -/
def checkPath (path : String) : Except TaskValidationError Unit :=
  failIf (path = "" ∨ path.toList.contains '\x00') .emptyPath

/-- `byte.is_ascii_alphanumeric() || byte == b'-' || byte == b'_'`. -/
def isOpaqueIdChar (c : Char) : Bool :=
  c.isAlphanum || c == '-' || c == '_'

/-- `WorkspacePathFact::validate` (L184-216). A pathless fact is one that came over
the wire. -/
def WorkspacePathFact.validate (fact : WorkspacePathFact) : Except TaskValidationError Unit := do
  (if fact.path = "" then
    failIf (fact.identity ≠ "") .invalidRepositoryFingerprint
  else do
    checkPath fact.path
    failIf (fact.path.utf8ByteSize > maxDurablePathBytes) .invalidRepositoryFingerprint
    failIf (fact.identity = "" ∨ fact.identity.utf8ByteSize > maxDurableIdentityBytes)
      .invalidRepositoryFingerprint)
  failIf (fact.opaqueId = "" ∨ fact.opaqueId.utf8ByteSize > maxDurableIdentityBytes ∨
    ¬ fact.opaqueId.toList.all isOpaqueIdChar) .invalidRepositoryFingerprint
  failIf (fact.contentLength.isSome ≠ fact.contentFingerprint.isSome)
    .invalidRepositoryFingerprint

namespace WorkspaceBindingFact

/-- What `compute_fingerprint` hashes for one path fact (L517-541). -/
def fingerprintFact : Option WorkspacePathFact → List UInt8
  | some fact =>
    asBytes fact.opaqueId ++ 0 ::
      -- `validate` has refused a length without a fingerprint before this runs
      (match fact.contentLength, fact.contentFingerprint with
      | some length, some fingerprint => toLeBytes length ++ 1 :: asBytes fingerprint.token
      | _, _ => [0])
  | none => [0xff]

/-- What `compute_fingerprint` hashes for one labelled path fact (L515-542). -/
def fingerprintEntry (label : String) (fact : Option WorkspacePathFact) : List UInt8 :=
  asBytes label ++ 0 :: (fingerprintFact fact ++ [0xff])

variable (binding : WorkspaceBindingFact)

/-- The byte string `compute_fingerprint` hashes (L497-546). -/
def fingerprintPreimage : List UInt8 :=
  asBytes "devmanager-workspace-binding-v1\x00" ++
    asBytes (match binding.kind with
      | .main => "main\x00"
      | .worktree => "worktree\x00"
      | .external => "external\x00") ++
    fingerprintEntry "project" (some binding.projectRoot) ++
    fingerprintEntry "workspace" (some binding.workspaceRoot) ++
    fingerprintEntry "repository" binding.repositoryRoot ++
    fingerprintEntry "common_git" binding.commonGitDir ++
    fingerprintEntry "admin" binding.adminDir ++
    fingerprintEntry "marker" binding.marker ++
    fingerprintEntry "commondir" binding.commondir ++
    fingerprintEntry "gitdir" binding.gitdir ++
    fingerprintEntry "head" binding.head ++
    (match binding.branch with
      | some branch => asBytes branch
      | none => [])

/-- `compute_fingerprint`, L495-555 -/
def computeFingerprint :
    Except TaskValidationError RepositoryFingerprint :=
  RepositoryFingerprint.fromHostToken
    ("sha256:" ++ hexOfDigest (Externals.sha256 binding.fingerprintPreimage))

/-- The shape a `Main` or an `External` binding must have (L439-456, 470-487). -/
def mainShapeBad : Bool :=
  let hasRepository := binding.repositoryRoot.isSome || binding.commonGitDir.isSome ||
    binding.marker.isSome || binding.head.isSome
  binding.adminDir.isSome || binding.commondir.isSome || binding.gitdir.isSome ||
    binding.branch.isSome ||
    (hasRepository && (binding.repositoryRoot.isNone || binding.commonGitDir.isNone ||
      binding.marker.isNone || binding.head.isNone))

/-- The shape a `Worktree` binding must have (L457-469). -/
def worktreeShapeBad : Bool :=
  binding.repositoryRoot.isNone || binding.commonGitDir.isNone || binding.adminDir.isNone ||
    binding.marker.isNone || binding.commondir.isNone || binding.gitdir.isNone ||
    binding.head.isNone || binding.branch.isNone

/-- `validate`, L413-493 -/
def validate : Except TaskValidationError Unit := do
  binding.projectRoot.validate
  binding.workspaceRoot.validate
  ([binding.repositoryRoot, binding.commonGitDir, binding.adminDir, binding.marker,
    binding.commondir, binding.gitdir, binding.head].filterMap id).forM WorkspacePathFact.validate
  (match binding.branch with
  | some branch => do
    failIf (branch = "" ∨ branch.utf8ByteSize > maxDurableBranchBytes) .emptyBranch
    failIf (¬ Canonical.isCanonical branch) .emptyBranch
  | none => .ok ())
  (match binding.kind with
  | .main => failIf binding.mainShapeBad .invalidRepositoryFingerprint
  | .worktree => failIf binding.worktreeShapeBad .invalidRepositoryFingerprint
  | .external => failIf binding.mainShapeBad .invalidRepositoryFingerprint)
  let computed ← binding.computeFingerprint
  failIf (computed ≠ binding.bindingFingerprint) .invalidRepositoryFingerprint

end WorkspaceBindingFact

/-! ## Equality of workspace references

`#[derive(PartialEq)]` compares the `PathBuf` members by components. -/

def WorkspacePathFact.same (a b : WorkspacePathFact) : Bool :=
  Externals.samePath a.path b.path && a.identity == b.identity && a.opaqueId == b.opaqueId &&
    a.contentLength == b.contentLength && a.contentFingerprint == b.contentFingerprint

def WorkspacePathFact.sameOpt : Option WorkspacePathFact → Option WorkspacePathFact → Bool
  | some a, some b => a.same b
  | none, none => true
  | _, _ => false

def WorkspaceBindingFact.same (a b : WorkspaceBindingFact) : Bool :=
  a.kind == b.kind && a.projectRoot.same b.projectRoot && a.workspaceRoot.same b.workspaceRoot &&
    WorkspacePathFact.sameOpt a.repositoryRoot b.repositoryRoot &&
    WorkspacePathFact.sameOpt a.commonGitDir b.commonGitDir &&
    WorkspacePathFact.sameOpt a.adminDir b.adminDir &&
    WorkspacePathFact.sameOpt a.marker b.marker &&
    WorkspacePathFact.sameOpt a.commondir b.commondir &&
    WorkspacePathFact.sameOpt a.gitdir b.gitdir && WorkspacePathFact.sameOpt a.head b.head &&
    a.branch == b.branch && a.bindingFingerprint == b.bindingFingerprint

/-- `==` on `WorkspaceRef` (L558). -/
def WorkspaceRef.same : WorkspaceRef → WorkspaceRef → Bool
  | .main, .main => true
  | .worktree p b, .worktree p' b' => Externals.samePath p p' && b == b'
  | .external p, .external p' => Externals.samePath p p'
  | .mainWithFingerprint f, .mainWithFingerprint f' => f == f'
  | .worktreeWithFingerprint p b f, .worktreeWithFingerprint p' b' f' =>
    Externals.samePath p p' && b == b' && f == f'
  | .hostBound b, .hostBound b' => b.same b'
  | .externalWithFingerprint p b, .externalWithFingerprint p' b' =>
    Externals.samePath p p' && b.same b'
  | _, _ => false

/-- `matches!(workspace, WorkspaceRef::Worktree { .. })`. -/
def WorkspaceRef.isWorktree : WorkspaceRef → Bool
  | .worktree .. => true
  | _ => false

/-! ## Validation -/

/-- `validate`, L716-765 -/
def WorkspaceRef.validate : WorkspaceRef → Except TaskValidationError Unit
  | .main => .ok ()
  | .worktree path branch => do
    checkPath path
    failIf (¬ Canonical.isCanonical branch) .emptyBranch
  | .external path => checkPath path
  | .mainWithFingerprint fingerprint =>
    failIf (trim fingerprint.token = "") .emptyRepositoryFingerprint
  | .worktreeWithFingerprint path branch fingerprint => do
    checkPath path
    failIf (¬ Canonical.isCanonical branch) .emptyBranch
    failIf (trim fingerprint.token = "") .emptyRepositoryFingerprint
  | .hostBound binding => binding.validate
  | .externalWithFingerprint path binding => do
    binding.validate
    failIf (binding.kind ≠ .external) .invalidRepositoryFingerprint
    if path = "" then
      failIf (binding.workspaceRoot.path ≠ "") .invalidRepositoryFingerprint
    else
      failIf (¬ Externals.samePath binding.workspaceRoot.path path) .invalidRepositoryFingerprint

/-- `validate`, L942-955 -/
def TaskAssignment.validate : TaskAssignment → Except TaskValidationError Unit
  | .localOwner => .ok ()
  | .externalPrincipal authority subject => do
    failIf (¬ Canonical.isCanonical authority) .emptyPrincipalAuthority
    failIf (¬ Canonical.isCanonical subject) .emptyPrincipalSubject

namespace TaskFacts

/-- `canonicalize_title`, L1024-1026 -/
def canonicalizeTitle (title : String) : Except TaskValidationError String :=
  okOr (Canonical.canonicalize title) .emptyTitle

omit [Externals] in
theorem canonicalizeTitle_eq_self {title} :
    canonicalizeTitle title = .ok title ↔ Canonical.isCanonical title = true := by
  rw [canonicalizeTitle, okOr_eq_ok, Canonical.canonicalize_eq_self]

omit [Externals] in
theorem canonicalizeTitle_canonical {title canonical}
    (h : canonicalizeTitle title = .ok canonical) :
    canonicalizeTitle canonical = .ok canonical := by
  unfold canonicalizeTitle at h ⊢
  rw [okOr_eq_ok, Canonical.canonicalize_eq_some] at h
  obtain ⟨hne, rfl⟩ := h
  rw [okOr_eq_ok]
  exact Canonical.canonicalize_trim hne

/-- `validate_content`, L1039-1052 -/
def validateContent (task : TaskFacts) : Except TaskValidationError Unit := do
  failIf (¬ Canonical.isCanonical task.title) .emptyTitle
  (match task.description with
  | some value => failIf (¬ Canonical.isCanonical value) .emptyDescription
  | none => .ok ())
  task.workspace.validate
  task.assignment.validate

/-- `validate_for_create`, L1054-1060 -/
def validateForCreate (task : TaskFacts) : Except TaskValidationError Unit := do
  task.validateContent
  failIf (task.lifecycle ≠ .opened ∨ task.actionEpoch ≠ 0 ∨ task.revision ≠ 1) .invalidCreateState

theorem validateForCreate_eq_ok {task : TaskFacts} :
    task.validateForCreate = .ok () ↔
      task.validateContent = .ok () ∧
        task.lifecycle = .opened ∧ task.actionEpoch = 0 ∧ task.revision = 1 := by
  unfold validateForCreate
  simp only [ok_iff, not_or]

end TaskFacts

end DevManager
