import DevManager.Prompts.DiffCorrect

/-!
# What holds when a comparison ends

The comparison of two bodies alternates between lines common to both and hunks. `Rounds P B` says
that `P` is kept by both, and that a hunk that is broken off leaves `B`; then every result is one
of four, of a state with `B`, and a complete one is of a state with `P`.

* `compareLines_ends`: the rule.
* `diffVersionsWithBudget_ends`: the same for two bodies, with the results without any hunk.
-/

namespace DevManager.Prompts

/-- A result that was returned early has `Q`, or the locals have `P`. -/
def RoundEnd.Holds (Q : PromptDiff → Prop) (P : ℕ → ℕ → Bool → DiffWork → Prop) : RoundEnd → Prop
  | .returned result => Q result
  | .left oldIndex newIndex approximate work => P oldIndex newIndex approximate work

/-- The results of a comparison that ends on a state with `B`; a complete one is of a state with
`P`. -/
inductive Ended (P : ℕ → ℕ → DiffWork → Prop) (B : DiffWork → Prop) : PromptDiff → Prop
  | cancelled {work} (h : B work) : Ended P B (finishCancelled work)
  | truncated {work} (approximate) (h : B work) : Ended P B (finishTruncated work approximate)
  | approximate {work} (h : B work) : Ended P B (finishApproximate work)
  | complete {work oldIndex newIndex} (h : B work) (hp : P oldIndex newIndex work) :
      Ended P B { work.result with estimatedPayloadBytes := work.output.bytes, status := .complete }

section Rounds

variable [UnicodeSegmentation]

/-- Common lines and hunks keep `P`, and a hunk that is broken off leaves `B`. -/
structure Rounds (old new : List LineSlice) (P : ℕ → ℕ → DiffWork → Prop) (B : DiffWork → Prop) :
    Prop where
  budget : ∀ {oldIndex newIndex work} (budget : DiffBudget), P oldIndex newIndex work →
    P oldIndex newIndex { work with budget }
  brokenBudget : ∀ {work} (budget : DiffBudget), B work → B { work with budget }
  broken : ∀ {oldIndex newIndex work}, P oldIndex newIndex work → oldIndex ≤ old.length →
    newIndex ≤ new.length → B work
  common : ∀ {oldIndex newIndex work}, P oldIndex newIndex work → oldIndex < old.length →
    newIndex < new.length → old.getD oldIndex default = new.getD newIndex default →
    P (oldIndex + 1) (newIndex + 1) work
  hunk : ∀ {oldStart oldEnd newStart newEnd work}, P oldStart newStart work → oldStart ≤ oldEnd →
    newStart ≤ newEnd → oldEnd ≤ old.length → newEnd ≤ new.length →
    Wp (appendHunk old new oldStart oldEnd newStart newEnd) (fun _ => P oldEnd newEnd) (fun _ => B)
      work

variable {old new : List LineSlice} {P : ℕ → ℕ → DiffWork → Prop} {B : DiffWork → Prop}
  {oldIndex newIndex : ℕ} {approximate : Bool} {work : DiffWork}

/-- The locals between two rounds: `P` at the indices, or the work is used up and both bodies are at
their ends. -/
def Going (old new : List LineSlice) (P : ℕ → ℕ → DiffWork → Prop) (B : DiffWork → Prop)
    (oldIndex newIndex : ℕ) (approximate : Bool) (work : DiffWork) : Prop :=
  oldIndex ≤ old.length ∧ newIndex ≤ new.length ∧
    (P oldIndex newIndex work ∨
      approximate = true ∧ oldIndex = old.length ∧ newIndex = new.length ∧ B work)

theorem compareRegion_going (hround : Rounds old new P B) (h : P oldIndex newIndex work)
    (hold : oldIndex < old.length) (hnew : newIndex < new.length) :
    (compareRegion old new oldIndex newIndex approximate work).Holds (Ended P B)
      (Going old new P B) := by
  have hall (budget : DiffBudget) :=
    hround.hunk (hround.budget budget h) hold.le hnew.le le_rfl le_rfl
  unfold compareRegion
  split
  next anchorOld anchorNew budget hanchor =>
    obtain ⟨hle, hle', -, hins, hin'⟩ :=
      ((findLineAnchor_spec hold hnew).of_ok hanchor) _ rfl
    have hhunk := hround.hunk (hround.budget budget h) hle hle' hins.le hin'.le
    split
    next wasApproximate work' hrun =>
      exact ⟨hins.le, hin'.le, .inl (hhunk.of_ok hrun)⟩
    next work' hrun => exact .cancelled (hhunk.of_error hrun)
    next work' hrun => exact .approximate (hhunk.of_error hrun)
    next work' hrun => exact .truncated _ (hhunk.of_error hrun)
  next budget _ =>
    dsimp only
    split
    next wasApproximate work' hrun => exact ⟨le_rfl, le_rfl, .inl ((hall budget).of_ok hrun)⟩
    next work' hrun => exact .cancelled ((hall budget).of_error hrun)
    next work' hrun =>
      exact ⟨le_rfl, le_rfl, .inr ⟨rfl, rfl, rfl, (hall budget).of_error hrun⟩⟩
    next work' hrun => exact .truncated _ ((hall budget).of_error hrun)
  next budget _ =>
    exact .cancelled (hround.broken (hround.budget budget h) hold.le hnew.le)
  next budget _ =>
    split
    next wasApproximate work' hrun => exact ⟨le_rfl, le_rfl, .inl ((hall budget).of_ok hrun)⟩
    next work' hrun => exact .cancelled ((hall budget).of_error hrun)
    next work' hrun =>
      exact ⟨le_rfl, le_rfl, .inr ⟨rfl, rfl, rfl, (hall budget).of_error hrun⟩⟩
    next work' hrun => exact .truncated _ ((hall budget).of_error hrun)

theorem compareLoop_end (fuel : ℕ) : compareLoop old new fuel old.length new.length approximate
    work =
    .left old.length new.length approximate work := by
  cases fuel with
  | zero => rfl
  | succ fuel => rw [compareLoop, if_neg (by omega)]

variable (hround : Rounds old new P B)

include hround

theorem compareLoop_going (fuel : ℕ) :
    ∀ {oldIndex newIndex : ℕ} {approximate : Bool} {work : DiffWork},
      Going old new P B oldIndex newIndex approximate work →
      (compareLoop old new fuel oldIndex newIndex approximate work).Holds (Ended P B)
        (Going old new P B) := by
  induction fuel with
  | zero => exact fun h => h
  | succ fuel ih =>
    intro oldIndex newIndex approximate work h
    obtain ⟨hold, hnew, hp | ⟨rfl, rfl, rfl, hbroken⟩⟩ := h
    · unfold compareLoop
      split_ifs with hins
      · obtain ⟨hlt, hlt'⟩ := hins
        split
        next budget hrun =>
          have hsame := ((linesEqual_spec _ _).of_ok hrun).mp rfl
          exact ih ⟨hlt, hlt', .inl (hround.common (hround.budget budget hp) hlt hlt' hsame)⟩
        next budget _ =>
          have hreg : (compareRegion old new oldIndex newIndex
              (approximate || largeHeuristicInput old new) { work with budget }).Holds
              (Ended P B) (Going old new P B) :=
            compareRegion_going hround (hround.budget budget hp) hlt hlt'
          split
          next result hret =>
            rw [hret] at hreg
            exact hreg
          next i j a work' hleft =>
            rw [hleft] at hreg
            exact ih hreg
        next budget _ => exact .cancelled (hround.broken (hround.budget budget hp) hold hnew)
        next budget _ => exact ⟨hold, hnew, .inl (hround.budget budget hp)⟩
      · exact ⟨hold, hnew, .inl hp⟩
    · rw [compareLoop_end]
      exact ⟨le_rfl, le_rfl, .inr ⟨rfl, rfl, rfl, hbroken⟩⟩

theorem compareRest_going (h : Going old new P B oldIndex newIndex approximate work) :
    (compareRest old new oldIndex newIndex approximate work).Holds (Ended P B)
      (Going old new P B) := by
  unfold compareRest
  split_ifs with hrest
  · obtain ⟨hold, hnew, hp | ⟨-, rfl, rfl, -⟩⟩ := h
    · have hhunk := hround.hunk hp hold hnew le_rfl le_rfl
      dsimp only
      split
      next wasApproximate work' hrun => exact ⟨le_rfl, le_rfl, .inl (hhunk.of_ok hrun)⟩
      next work' hrun => exact .cancelled (hhunk.of_error hrun)
      next work' hrun => exact ⟨le_rfl, le_rfl, .inr ⟨rfl, rfl, rfl, hhunk.of_error hrun⟩⟩
      next work' hrun => exact .truncated _ (hhunk.of_error hrun)
    · omega
  · exact h

theorem finishComparison_ended (h : Going old new P B oldIndex newIndex approximate work) :
    Ended P B (finishComparison approximate work) := by
  obtain ⟨hold, hnew, hp | ⟨rfl, -, -, hbroken⟩⟩ := h
  · unfold finishComparison
    split
    next budget _ => exact .cancelled (hround.broken (hround.budget budget hp) hold hnew)
    next =>
      split_ifs
      · exact .approximate (hround.broken hp hold hnew)
      · exact .complete (hround.broken hp hold hnew) hp
  · unfold finishComparison
    split
    next budget _ => exact .cancelled (hround.brokenBudget budget hbroken)
    next => exact .approximate hbroken

theorem compareLines_ends (h : P 0 0 work) :
    Ended P B (compareLines old new work) := by
  have hstart : Going old new P B 0 0 false work := ⟨Nat.zero_le _, Nat.zero_le _, .inl h⟩
  have hloop := compareLoop_going hround (old.length + new.length) hstart
  unfold compareLines
  split
  next result hret =>
    rw [hret] at hloop
    exact hloop
  next oldIndex newIndex approximate work' hleft =>
    rw [hleft] at hloop
    have hrest := compareRest_going hround hloop
    split
    next result hret =>
      rw [hret] at hrest
      exact hrest
    next oldIndex newIndex approximate work'' hleft =>
      rw [hleft] at hrest
      exact finishComparison_ended hround hrest

end Rounds

section Diff

variable [Externals]

theorem fingerprint_lt (workLimit) : fingerprint workLimit < 2 ^ 64 := by
  have hbytes : ∀ bytes : List UInt8,
      bytes.foldr (fun byte n => byte.toNat + 256 * n) 0 < 256 ^ bytes.length := by
    intro bytes
    induction bytes with
    | nil => simp
    | cons byte bytes ih =>
      rw [List.foldr_cons, List.length_cons, Nat.pow_succ]
      have hbyte := byte.toNat_lt
      omega
  refine (hbytes _).trans_le ?_
  calc 256 ^ _ ≤ 256 ^ 8 := Nat.pow_le_pow_right (by decide) (List.length_take_le _ _)
    _ = 2 ^ 64 := by norm_num

/-- The state before the first round: nothing is written yet, and the cache key is one of this
version. -/
structure Fresh (work : DiffWork) : Prop where
  hunks : work.result.hunks = []
  spans : work.result.inlineSpans = []
  truncation : work.result.truncation = none
  output : work.output = .new
  cacheKey : ∀ key ∈ work.result.cacheKey, key.algorithmVersion = 1 ∧ key.projectionVersion = 2 ∧
    key.optionsFingerprint < 2 ^ 64

variable [UnicodeSegmentation] {P : ℕ → ℕ → DiffWork → Prop} {B : DiffWork → Prop}

theorem diffVersionsWithBudget_ends (old new) (budget)
    (hround : old.length ≤ maxPromptBodyBytes → new.length ≤ maxPromptBodyBytes →
      Rounds (normalizedLines old) (normalizedLines new) P B)
    (hstart : ∀ work, Fresh work → P 0 0 work) :
    diffVersionsWithBudget old new budget =
        emptyResult old new (.invalidInput old.length new.length maxPromptBodyBytes) ∨
      diffVersionsWithBudget old new budget = emptyResult old new .cancelled ∨
      Ended P B (diffVersionsWithBudget old new budget) := by
  unfold diffVersionsWithBudget
  split_ifs with hbytes
  · exact .inl rfl
  rw [not_or, not_lt, not_lt] at hbytes
  have hround := hround hbytes.1 hbytes.2
  have hbroken : ∀ work, Fresh work → B work := fun work h =>
    hround.broken (hstart work h) (Nat.zero_le _) (Nat.zero_le _)
  split
  next => exact .inr (.inl rfl)
  next =>
    split
    next => exact .inr (.inl rfl)
    next budget _ =>
      exact .inr (.inr (.approximate (hbroken _ ⟨rfl, rfl, rfl, rfl, nofun⟩)))
    next oldHash newHash budget _ =>
      have hfresh : ∀ budget' result, result.hunks = [] →
          result.inlineSpans = [] → result.truncation = none → result.cacheKey =
            some ⟨oldHash, newHash, 1, 2, fingerprint budget.optionsWorkLimit⟩ →
          Fresh ⟨result, budget', .new⟩ := by
        intro budget' result hhunks hspans hcut hkey
        refine ⟨hhunks, hspans, hcut, rfl, ?_⟩
        rw [hkey]
        rintro key ⟨⟩
        exact ⟨rfl, rfl, fingerprint_lt _⟩
      dsimp only
      split
      next => exact .inr (.inr (.cancelled (hbroken _ (hfresh _ _ rfl rfl rfl rfl))))
      next => exact .inr (.inr (.approximate (hbroken _ (hfresh _ _ rfl rfl rfl rfl))))
      next oldLines newLines budget' hscan =>
        obtain ⟨rfl, rfl⟩ := Prod.mk.inj ((scanBodies_spec old new).of_ok hscan)
        exact .inr (.inr (compareLines_ends hround (hstart _ (hfresh _ _ rfl rfl rfl rfl))))

end Diff

end DevManager.Prompts
