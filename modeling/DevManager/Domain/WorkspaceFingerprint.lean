import DevManager.Domain.WorkspaceWire
import DevManager.Lib.Utf8

/-!
# What a workspace fingerprint determines (`src/domain/task.rs`)

`compute_fingerprint` hashes the facts of a binding one after another, with a separator after each.
A length of content stands between them as eight raw bytes, which may be separators too: whether a
fact has content is told by the byte after them, since no label, no opaque id and no branch can
stand where it would have to.

* `fingerprintFact_inj`: a fact is determined by its bytes and by what may follow them.
-/

namespace DevManager

open List

namespace WorkspaceBindingFact

/-! ## The bytes of a fact -/

/-- The content length of a fact is a `u64`. -/
def FitsU64 (fact : Option WorkspacePathFact) : Prop :=
  ∀ f ∈ fact, ∀ length ∈ f.contentLength, length < 2 ^ 64

variable {r s : List UInt8}

theorem append_sep_inj {sep x y} (hx : sep ∉ x) (hy : sep ∉ y)
    (h : x ++ sep :: r = y ++ sep :: s) : x = y ∧ r = s := by
  induction x generalizing y with
  | nil =>
    cases y with
    | nil => exact ⟨rfl, (List.cons.inj h).2⟩
    | cons b y =>
      rw [nil_append, cons_append, List.cons.injEq] at h
      exact absurd (h.1 ▸ (.head _)) hy
  | cons a x ih =>
    cases y with
    | nil =>
      rw [nil_append, cons_append, List.cons.injEq] at h
      exact absurd (h.1 ▸ (.head _)) hx
    | cons b y =>
      rw [cons_append, cons_append, List.cons.injEq] at h
      obtain ⟨hxy, hrs⟩ := ih (fun hmem => hx (mem_cons_of_mem a hmem))
        (fun hmem => hy (mem_cons_of_mem b hmem)) h.2
      exact ⟨by rw [h.1, hxy], hrs⟩

theorem asBytes_opaqueId {text} (h : text.toList.all isOpaqueIdChar = true) :
    (asBytes text).length = text.toList.length ∧ ∀ b ∈ asBytes text, b ≠ 0 ∧ b ≠ 1 := by
  have hrange : ∀ c ∈ text.toList, 0x2d ≤ c.val.toNat ∧ c.val.toNat ≤ 0x7a := by
    intro c hc
    have hopaqueId : ((decide (65 ≤ c.val ∧ c.val ≤ 90) ||
        decide (97 ≤ c.val) && decide (c.val ≤ 122)) ||
        (decide (48 ≤ c.val) && decide (c.val ≤ 57)) || c == '-' || c == '_') = true :=
      all_eq_true.mp h c hc
    simp only [Bool.or_eq_true, Bool.and_eq_true, decide_eq_true_eq, beq_iff_eq,
      UInt32.le_iff_toNat_le] at hopaqueId
    change (((65 ≤ c.val.toNat ∧ c.val.toNat ≤ 90 ∨ 97 ≤ c.val.toNat ∧ c.val.toNat ≤ 122) ∨
      48 ≤ c.val.toNat ∧ c.val.toNat ≤ 57) ∨ c = '-') ∨ c = '_' at hopaqueId
    rcases hopaqueId with (((h | h) | h) | rfl) | rfl
    · omega
    · omega
    · omega
    · decide
    · decide
  have hone : ∀ c ∈ text.toList, String.utf8EncodeChar c = [UInt8.ofNat c.val.toNat] := by
    intro c hc
    have hle := (hrange c hc).2
    unfold String.utf8EncodeChar
    exact if_pos (by omega)
  have hbytes : asBytes text = text.toList.map fun c => UInt8.ofNat c.val.toNat := by
    unfold asBytes
    rw [utf8_eq_flatMap, flatMap_congr hone, ← map_eq_flatMap]
  rw [hbytes]
  refine ⟨length_map _, fun b hb => ?_⟩
  obtain ⟨c, hc, rfl⟩ := mem_map.mp hb
  obtain ⟨hlow, hhigh⟩ := hrange c hc
  have hval : (UInt8.ofNat c.val.toNat).toNat = c.val.toNat % 2 ^ 8 := UInt8.toNat_ofNat'
  constructor <;> intro heq <;> rw [heq] at hval
  · have hzero : (0 : UInt8).toNat = 0 := rfl
    omega
  · have hone : (1 : UInt8).toNat = 1 := rfl
    omega

/-- What may follow a fact: where the fact had content, its mark would be the seventh byte, and
its fingerprint would end with a separator. -/
def MayFollow (rest : List UInt8) : Prop :=
  ∀ length token rest', length.length = 6 → rest ≠ length ++ 1 :: (token ++ 0xff :: rest')

theorem asBytes_ne_nil {text} (h : text ≠ "") : asBytes text ≠ [] := by
  intro hnil
  have hempty : asBytes "" = [] := by
    unfold asBytes
    rw [utf8_eq_flatMap]
    rfl
  exact h (utf8_inj (hnil.trans hempty.symm))

/-- What is hashed of the content of a fact. -/
def contentBytes : Option (ℕ × RepositoryFingerprint) → List UInt8
  | some (length, fingerprint) => toLeBytes length ++ 1 :: asBytes fingerprint.token
  | none => [0]

theorem fingerprintFact_some {fact} (h : fact.validate = .ok ()) :
    fact.opaqueId ≠ "" ∧ fact.opaqueId.toList.all isOpaqueIdChar = true ∧
      ∃ content, fact.contentLength = content.map Prod.fst ∧
        fact.contentFingerprint = content.map Prod.snd ∧
        fingerprintFact (some fact) = asBytes fact.opaqueId ++ 0 :: contentBytes content := by
  simp only [WorkspacePathFact.validate, ok_iff, not_or] at h
  obtain ⟨-, ⟨hne, -, hopaqueId⟩, hbody⟩ := h
  refine ⟨hne, hopaqueId, ?_⟩
  obtain ⟨path, identity, opaqueId, contentLength, contentFingerprint⟩ := fact
  cases contentLength with
  | none =>
    cases contentFingerprint with
    | none => exact ⟨none, rfl, rfl, rfl⟩
    | some fingerprint => cases hbody
  | some length =>
    cases contentFingerprint with
    | none => cases hbody
    | some => exact ⟨some (length, _), rfl, rfl, rfl⟩

theorem contentBytes_none_ne {length : ℕ} {fingerprint} (hr : MayFollow r) :
    contentBytes none ++ 0xff :: r ≠ contentBytes (some (length, fingerprint)) ++ 0xff :: s := by
  intro h
  obtain ⟨b0, b1, six, hbytes, hsix⟩ : ∃ b0 b1 six, toLeBytes length = b0 :: b1 :: six ∧
      six.length = 6 := ⟨_, _, _, rfl, rfl⟩
  rw [contentBytes, contentBytes, hbytes, append_assoc] at h
  simp only [cons_append, nil_append, List.cons.injEq] at h
  exact hr six (asBytes fingerprint.token) s hsix h.2.2

theorem contentBytes_inj {c d}
    (hc : ∀ content ∈ c, content.1 < 2 ^ 64) (hd : ∀ content ∈ d, content.1 < 2 ^ 64)
    (hr : MayFollow r) (hs : MayFollow s)
    (h : contentBytes c ++ 0xff :: r = contentBytes d ++ 0xff :: s) : c = d ∧ r = s := by
  rcases c with _ | ⟨length, fingerprint⟩ <;> rcases d with _ | ⟨length', fingerprint'⟩
  · simp only [contentBytes, cons_append, nil_append, List.cons.injEq, true_and] at h
    exact ⟨rfl, h⟩
  · exact absurd h (contentBytes_none_ne hr)
  · exact absurd h.symm (contentBytes_none_ne hs)
  · have hlen : length < 256 ^ 8 := (hc _ rfl).trans_eq (by norm_num)
    have hle' : length' < 256 ^ 8 := (hd _ rfl).trans_eq (by norm_num)
    simp only [contentBytes, append_assoc, cons_append] at h
    obtain ⟨hbytes, hrest⟩ := append_inj h rfl
    have hsame : length = length' := leBytes_inj 8 hlen hle' hbytes
    obtain ⟨htok, hrs⟩ := append_sep_inj (utf8_ne_ff _) (utf8_ne_ff _) (List.cons.inj hrest).2
    have htokens : fingerprint = fingerprint' := by
      obtain ⟨token, _⟩ := fingerprint
      obtain ⟨token', _⟩ := fingerprint'
      simpa using utf8_inj htok
    exact ⟨by rw [hsame, htokens], hrs⟩

variable {f : Option WorkspacePathFact}

theorem fingerprintFact_inj {g}
    (hf : ∀ fact ∈ f, fact.validate = .ok ()) (hg : ∀ fact ∈ g, fact.validate = .ok ())
    (hfFits : FitsU64 f) (hgFits : FitsU64 g) (hr : MayFollow r) (hs : MayFollow s)
    (h : fingerprintFact f ++ 0xff :: r = fingerprintFact g ++ 0xff :: s) :
    f.map WorkspacePathFact.durable = g.map WorkspacePathFact.durable ∧ r = s := by
  -- an opaque id does not start with the byte that stands for no fact
  have hnone : ∀ {fact : WorkspacePathFact} {r s : List UInt8}, fact.validate = .ok () →
      fingerprintFact none ++ 0xff :: r ≠ fingerprintFact (some fact) ++ 0xff :: s := by
    intro fact r s hvalid heq
    obtain ⟨hne, -, content, -, -, hbytes⟩ := fingerprintFact_some hvalid
    rw [hbytes] at heq
    cases hid : asBytes fact.opaqueId with
    | nil => exact asBytes_ne_nil hne hid
    | cons b bytes =>
      rw [hid] at heq
      have hb : (0xff : UInt8) = b := (List.cons.inj heq).1
      have hmem : b ∈ asBytes fact.opaqueId := hid ▸ (.head _)
      exact utf8_ne_ff fact.opaqueId (hb ▸ hmem)
  cases f with
  | none =>
    cases g with
    | none => exact ⟨rfl, (List.cons.inj (List.cons.inj h).2).2⟩
    | some => exact absurd h (hnone (hg _ rfl))
  | some f =>
    cases g with
    | none => exact absurd h.symm (hnone (hf f rfl))
    | some g =>
      obtain ⟨-, hfId, c, hfLength, hfFingerprint, hfBytes⟩ := fingerprintFact_some (hf f rfl)
      obtain ⟨-, hgId, d, hgLength, hgFingerprint, hgBytes⟩ := fingerprintFact_some (hg g rfl)
      rw [hfBytes, hgBytes, append_assoc, append_assoc, cons_append, cons_append] at h
      obtain ⟨hid, hbody⟩ := append_sep_inj (fun h0 => ((asBytes_opaqueId hfId).2 0 h0).1 rfl)
        (fun h0 => ((asBytes_opaqueId hgId).2 0 h0).1 rfl) h
      have hc : ∀ content ∈ c, content.1 < 2 ^ 64 := by
        rintro content rfl
        exact hfFits f rfl content.1 (by rw [hfLength]; rfl)
      have hd : ∀ content ∈ d, content.1 < 2 ^ 64 := by
        rintro content rfl
        exact hgFits g rfl content.1 (by rw [hgLength]; rfl)
      obtain ⟨rfl, hrs⟩ := contentBytes_inj hc hd hr hs hbody
      have hidText : f.opaqueId = g.opaqueId := utf8_inj hid
      refine ⟨?_, hrs⟩
      simp only [Option.map_some, WorkspacePathFact.durable, hidText, hfLength, hgLength,
        hfFingerprint, hgFingerprint]

/-! ## The facts of a binding -/

theorem fingerprintEntry_append (label : String) (f)
    (rest) : fingerprintEntry label f ++ rest =
      asBytes label ++ 0 :: (fingerprintFact f ++ 0xff :: rest) := by
  simp [fingerprintEntry]

theorem fingerprintFact_head (hf : ∀ fact ∈ f, fact.validate = .ok ()) (rest) :
    ∃ a b tail, fingerprintFact f ++ 0xff :: rest = a :: b :: tail ∧ a ≠ 1 ∧ b ≠ 1 := by
  cases f with
  | none => exact ⟨0xff, 0xff, rest, rfl, by decide, by decide⟩
  | some fact =>
    obtain ⟨hne, hid, content, -, -, hbytes⟩ := fingerprintFact_some (hf fact rfl)
    have hopaqueId := (asBytes_opaqueId hid).2
    rw [hbytes]
    cases hlist : asBytes fact.opaqueId with
    | nil => exact absurd hlist (asBytes_ne_nil hne)
    | cons a bytes =>
      rw [hlist] at hopaqueId
      have ha := (hopaqueId a (.head _)).2
      cases bytes with
      | nil => exact ⟨a, 0, _, rfl, ha, by decide⟩
      | cons => exact ⟨a, _, _, rfl, ha, (hopaqueId _ (mem_cons_of_mem a (.head ..))).2⟩

/-- A label of the hash: its characters are those of an opaque id, and there are four at least. -/
def IsLabel (label : String) : Prop :=
  label.toList.all isOpaqueIdChar = true ∧ 4 ≤ label.toList.length

theorem mayFollow_entry {label} (hlabel : IsLabel label)
    (hf : ∀ fact ∈ f, fact.validate = .ok ()) (rest) :
    MayFollow (fingerprintEntry label f ++ rest) := by
  obtain ⟨hlen, hopaqueId⟩ := asBytes_opaqueId hlabel.1
  obtain ⟨a, b, tail, hhead, ha, hb⟩ := fingerprintFact_head hf rest
  have hfour := hlabel.2
  intro length token rest' hsix h
  rw [fingerprintEntry_append, hhead] at h
  have hsplit : asBytes label ++ 0 :: a :: b :: tail = (asBytes label ++ [0, a, b]) ++ tail := by
    simp
  have hleft : 6 < (asBytes label ++ [0, a, b]).length := by
    simp only [length_append, length_cons, length_nil]
    omega
  have hright : (length ++ 1 :: (token ++ 0xff :: rest'))[6]? = some 1 := by
    rw [getElem?_append_right (by omega), hsix]
    rfl
  have hseventh : (asBytes label ++ [0, a, b])[6]? = some 1 := by
    rw [← hright, ← h, hsplit, getElem?_append_left hleft]
  have hmem : (1 : UInt8) ∈ asBytes label ++ [0, a, b] := mem_of_getElem? hseventh
  rw [mem_append] at hmem
  rcases hmem with hmem | hmem
  · exact (hopaqueId 1 hmem).2 rfl
  · simp only [mem_cons, not_mem_nil, or_false] at hmem
    rcases hmem with hmem | hmem | hmem
    · exact absurd hmem (by decide)
    · exact ha hmem.symm
    · exact hb hmem.symm

theorem mayFollow_text (text : String) : MayFollow (asBytes text) := by
  intro length token rest _ h
  have hmem : (0xff : UInt8) ∈ asBytes text := by
    rw [h]
    simp
  exact utf8_ne_ff text hmem

/-- The bytes of labelled facts one after another. -/
def entriesBytes (entries : List (String × Option WorkspacePathFact)) : List UInt8 :=
  entries.flatMap fun entry => fingerprintEntry entry.1 entry.2

theorem entriesBytes_cons (entry : String × Option WorkspacePathFact) (entries) (rest) :
    entriesBytes (entry :: entries) ++ rest =
      fingerprintEntry entry.1 entry.2 ++ (entriesBytes entries ++ rest) := by
  rw [entriesBytes, flatMap_cons, append_assoc]
  rfl

/-- What is known of the facts of a valid binding. -/
def EntriesValid (entries : List (String × Option WorkspacePathFact)) : Prop :=
  ∀ entry ∈ entries, IsLabel entry.1 ∧ (∀ fact ∈ entry.2, fact.validate = .ok ()) ∧ FitsU64 entry.2

theorem mayFollow_entries {entries} (h : EntriesValid entries) {rest} (hrest : MayFollow rest) :
    MayFollow (entriesBytes entries ++ rest) := by
  cases entries with
  | nil => exact hrest
  | cons entry entries =>
    obtain ⟨hlabel, hvalid, -⟩ := h entry (.head _)
    rw [entriesBytes_cons]
    exact mayFollow_entry hlabel hvalid _

theorem entriesBytes_inj {e e'}
    (hlabels : e.map Prod.fst = e'.map Prod.fst) (he : EntriesValid e) (he' : EntriesValid e')
    (hr : MayFollow r) (hs : MayFollow s) (h : entriesBytes e ++ r = entriesBytes e' ++ s) :
    e.map (fun entry => entry.2.map WorkspacePathFact.durable) =
      e'.map (fun entry => entry.2.map WorkspacePathFact.durable) ∧ r = s := by
  induction e generalizing e' with
  | nil =>
    cases e' with
    | nil => exact ⟨rfl, h⟩
    | cons _ _ => cases hlabels
  | cons entry e ih =>
    cases e' with
    | nil => cases hlabels
    | cons entry' e' =>
      obtain ⟨label, f⟩ := entry
      obtain ⟨label', g⟩ := entry'
      simp only [map_cons, List.cons.injEq] at hlabels
      obtain ⟨rfl, hlabels⟩ := hlabels
      have hrest : EntriesValid e := fun entry hentry => he entry (.tail _ hentry)
      have hrest' : EntriesValid e' := fun entry hentry => he' entry (.tail _ hentry)
      obtain ⟨-, hf, hfFits⟩ := he _ (.head _)
      obtain ⟨-, hg, hgFits⟩ := he' _ (.head _)
      rw [entriesBytes_cons, entriesBytes_cons, fingerprintEntry_append,
        fingerprintEntry_append] at h
      have hentry := (List.cons.inj (append_cancel_left h)).2
      obtain ⟨hfact, hothers⟩ := fingerprintFact_inj hf hg hfFits hgFits
        (mayFollow_entries hrest hr) (mayFollow_entries hrest' hs) hentry
      obtain ⟨hfacts, hrs⟩ := ih hlabels hrest hrest' hothers
      exact ⟨by rw [map_cons, map_cons, hfact, hfacts], hrs⟩

variable (binding : WorkspaceBindingFact)

/-- The labelled facts of a binding, in the order in which they are hashed. -/
def entries : List (String × Option WorkspacePathFact) :=
  [("project", some binding.projectRoot), ("workspace", some binding.workspaceRoot),
    ("repository", binding.repositoryRoot), ("common_git", binding.commonGitDir),
    ("admin", binding.adminDir), ("marker", binding.marker), ("commondir", binding.commondir),
    ("gitdir", binding.gitdir), ("head", binding.head)]

/-- Every content length of the binding is a `u64`. -/
def LengthsFitU64 : Prop := ∀ entry ∈ binding.entries, FitsU64 entry.2

/-- What is hashed of the kind. -/
def kindBytes : WorkspaceBindingKind → List UInt8
  | .main => asBytes "main\x00"
  | .worktree => asBytes "worktree\x00"
  | .external => asBytes "external\x00"

/-- What is hashed of the branch. -/
def branchBytes : Option String → List UInt8
  | some branch => asBytes branch
  | none => []

theorem fingerprintPreimage_eq : binding.fingerprintPreimage =
    asBytes "devmanager-workspace-binding-v1\x00" ++ (kindBytes binding.kind ++
      (entriesBytes binding.entries ++ branchBytes binding.branch)) := by
  obtain ⟨kind, _, _, _, _, _, _, _, _, _, branch, _⟩ := binding
  cases kind <;> cases branch <;>
    simp only [fingerprintPreimage, kindBytes, branchBytes, entries, entriesBytes,
      flatMap_cons, flatMap_nil, append_assoc, append_nil]

variable {binding}

theorem kindBytes_inj {k k'}
    (h : kindBytes k ++ r = kindBytes k' ++ s) : k = k' ∧ r = s := by
  have hmain : kindBytes .main = [0x6d, 0x61, 0x69, 0x6e, 0] := (utf8_eq_flatMap _).trans rfl
  have htree : kindBytes .worktree = [0x77, 0x6f, 0x72, 0x6b, 0x74, 0x72, 0x65, 0x65, 0] :=
    (utf8_eq_flatMap _).trans rfl
  have hext : kindBytes .external = [0x65, 0x78, 0x74, 0x65, 0x72, 0x6e, 0x61, 0x6c, 0] :=
    (utf8_eq_flatMap _).trans rfl
  by_cases hkind : k = k'
  · subst hkind
    exact ⟨rfl, append_cancel_left h⟩
  · -- the kinds start with different letters
    cases k <;> cases k' <;> first | exact absurd rfl hkind | skip
    all_goals
      simp only [hmain, htree, hext, cons_append, List.cons.injEq] at h
      exact absurd h.1 (by decide)

theorem branchBytes_inj {branch branch'} (h : branch ≠ some "")
    (h' : branch' ≠ some "") (heq : branchBytes branch = branchBytes branch') :
    branch = branch' := by
  have hne : ∀ {text : String}, some text ≠ some "" → asBytes text ≠ [] :=
    fun htext => asBytes_ne_nil fun hnil => htext (congrArg some hnil)
  cases branch with
  | none =>
    cases branch' with
    | none => rfl
    | some => exact absurd heq.symm (hne h')
  | some branch =>
    cases branch' with
    | none => exact absurd heq (hne h)
    | some => exact congrArg some (utf8_inj heq)

theorem mayFollow_branchBytes (branch) : MayFollow (branchBytes branch) := by
  cases branch with
  | none =>
    intro length token rest _ h
    simp [branchBytes] at h
  | some => exact mayFollow_text _

/-! ## Two bindings -/

section Validated

variable [Externals]

theorem entriesValid_of_validate (h : binding.validate = .ok ()) (hfits : binding.LengthsFitU64) :
    EntriesValid binding.entries := by
  obtain ⟨hproj, hws, hfacts⟩ := facts_of_validate h
  have hlabels : ∀ entry ∈ binding.entries, IsLabel entry.1 := by
    simp only [entries, forall_mem_cons, not_mem_nil, false_implies, implies_true,
      and_true, IsLabel]
    decide
  have hvalid : ∀ entry ∈ binding.entries, ∀ fact ∈ entry.2, fact.validate = .ok () := by
    simp only [forall_mem_cons, not_mem_nil, false_implies, implies_true, and_true] at hfacts
    simp only [entries, forall_mem_cons, not_mem_nil, false_implies, implies_true,
      and_true, Option.mem_some_iff, forall_eq']
    exact ⟨hproj, hws, hfacts⟩
  exact fun entry hentry => ⟨hlabels entry hentry, hvalid entry hentry, hfits entry hentry⟩

theorem branch_of_validate (h : binding.validate = .ok ()) :
    binding.branch ≠ some "" ∧ binding.computeFingerprint = .ok binding.bindingFingerprint := by
  unfold validate at h
  simp only [bind_eq_ok, exists_unit] at h
  obtain ⟨-, -, -, hbranch, -, computed, hcomputed, hsame⟩ := h
  refine ⟨fun hnil => ?_, ?_⟩
  · rw [hnil] at hbranch
    simp [failIf] at hbranch
  · rw [failIf_eq_ok, not_not] at hsame
    rw [hcomputed, hsame]

/-- What is hashed of two valid bindings is the same iff they are the same but for the paths and
the filesystem identities, which only the host knows: the kind, the branch, and of every fact
the opaque id, the length and the fingerprint of its content. -/
theorem fingerprintPreimage_inj {a b : WorkspaceBindingFact} (ha : a.validate = .ok ())
    (hb : b.validate = .ok ()) (haFits : a.LengthsFitU64) (hbFits : b.LengthsFitU64) :
    a.fingerprintPreimage = b.fingerprintPreimage ↔ a.durable = b.durable := by
  constructor
  · intro h
    obtain ⟨haBranch, haFingerprint⟩ := branch_of_validate ha
    obtain ⟨hbBranch, hbFingerprint⟩ := branch_of_validate hb
    have hfin : a.bindingFingerprint = b.bindingFingerprint := by
      unfold computeFingerprint at haFingerprint hbFingerprint
      rw [h, hbFingerprint, Except.ok.injEq] at haFingerprint
      exact haFingerprint.symm
    rw [fingerprintPreimage_eq, fingerprintPreimage_eq] at h
    obtain ⟨hkind, hrest⟩ := kindBytes_inj (append_cancel_left h)
    have hlabels : a.entries.map Prod.fst = b.entries.map Prod.fst := rfl
    obtain ⟨hfacts, hbranches⟩ := entriesBytes_inj hlabels (entriesValid_of_validate ha haFits)
      (entriesValid_of_validate hb hbFits) (mayFollow_branchBytes _) (mayFollow_branchBytes _) hrest
    have hbranch := branchBytes_inj haBranch hbBranch hbranches
    simp only [entries, map_cons, map_nil, Option.map_some, List.cons.injEq, and_true,
      Option.some.injEq] at hfacts
    obtain ⟨h1, h2, h3, h4, h5, h6, h7, h8, h9⟩ := hfacts
    simp only [durable, hkind, h1, h2, h3, h4, h5, h6, h7, h8, h9, hbranch, hfin]
  · intro h
    rw [← fingerprintPreimage_durable a, h, fingerprintPreimage_durable]

end Validated

section Sample

attribute [local instance] sampleExternals

@[simp] theorem hostTokenOk_zeros : hostTokenOk
    "sha256:0000000000000000000000000000000000000000000000000000000000000000" = true := by
  decide +kernel

def boundRoot : WorkspacePathFact where
  path := "/p"
  identity := "1"
  opaqueId := "p"
  contentLength := some 0
  contentFingerprint :=
    some ⟨"sha256:0000000000000000000000000000000000000000000000000000000000000000",
      hostTokenOk_zeros⟩

def boundWorkspace : WorkspaceBindingFact where
  kind := .main
  projectRoot := boundRoot
  workspaceRoot := boundRoot
  repositoryRoot := none
  commonGitDir := none
  adminDir := none
  marker := none
  commondir := none
  gitdir := none
  head := none
  branch := none
  bindingFingerprint :=
    ⟨"sha256:0000000000000000000000000000000000000000000000000000000000000000", hostTokenOk_zeros⟩

theorem validate_boundWorkspace : boundWorkspace.validate = .ok () := by decide +kernel

theorem lengthsFitU64_boundWorkspace : boundWorkspace.LengthsFitU64 := by
  simp [LengthsFitU64, FitsU64, entries, boundWorkspace, boundRoot]

/-- A binding of the host and what a client has of it are hashed alike. -/
theorem fingerprintPreimage_inj_boundWorkspace :
    boundWorkspace.fingerprintPreimage = boundWorkspace.durable.fingerprintPreimage ↔
      boundWorkspace.durable = boundWorkspace.durable.durable :=
  fingerprintPreimage_inj validate_boundWorkspace (validate_durable validate_boundWorkspace)
    lengthsFitU64_boundWorkspace (by
      simp [LengthsFitU64, FitsU64, entries, durable, WorkspacePathFact.durable, boundWorkspace,
        boundRoot])

/-- They differ in the path and in the filesystem identity. -/
theorem fingerprintPreimage_not_injective :
    ∃ a b : WorkspaceBindingFact, a.validate = .ok () ∧ b.validate = .ok () ∧
      a.fingerprintPreimage = b.fingerprintPreimage ∧ a.projectRoot.path ≠ b.projectRoot.path ∧
      a.projectRoot.identity ≠ b.projectRoot.identity :=
  ⟨boundWorkspace, boundWorkspace.durable, validate_boundWorkspace,
    validate_durable validate_boundWorkspace, (fingerprintPreimage_durable _).symm, by decide,
    by decide⟩

end Sample

end WorkspaceBindingFact

end DevManager
