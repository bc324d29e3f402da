import DevManager.Prompts.DiffEncode

/-!
# The payload of a diff is paid for

Every hunk, line and span is paid for before it is added. `PayloadFits` is the invariant of the
comparison: what the parts so far can take in the public JSON was paid for, the sum is within the
limit, and no number has more digits than were paid for.

* `appendHunk_paid`: a hunk keeps that, also when it is broken off.
-/

namespace DevManager.Prompts

open List OutputBudget

/-! ## Small lines -/

/-- The numbers and the sizes of the lines have few digits. -/
structure SmallLines (lines : List LineSlice) : Prop where
  count : Small (lines.length + 1)
  text : ∀ index, Small (lines.getD index default).text.length

theorem length_linesFrom (carry body) :
    (linesFrom carry body).length ≤ body.length + 1 := by
  induction body generalizing carry with
  | nil =>
    unfold linesFrom
    split_ifs <;> simp
  | cons byte rest ih =>
    unfold linesFrom
    rw [length_cons]
    split_ifs
    · exact Nat.succ_le_succ (ih [])
    · exact (ih _).trans (Nat.le_succ _)

theorem length_text_linesFrom {line} (carry body)
    (h : line ∈ linesFrom carry body) : line.text.length ≤ carry.length + body.length := by
  induction body generalizing carry with
  | nil =>
    unfold linesFrom at h
    split_ifs at h
    · cases h
    · rw [mem_singleton.mp h]
      exact Nat.le_add_right _ _
  | cons byte rest ih =>
    unfold linesFrom at h
    rw [length_cons]
    split_ifs at h
    · rcases mem_cons.mp h with rfl | h
      · exact Nat.le_add_right _ _
      · have hrest := ih [] h
        rw [length_nil] at hrest
        omega
    · have hrest := ih _ h
      rw [length_append, length_singleton] at hrest
      omega

theorem length_normalizeBody (body) : (normalizeBody body).length ≤ body.length := by
  induction body using normalizeBody.induct with
  | case1 => exact le_rfl
  | case2 => exact le_rfl
  | case3 byte next rest hcrlf ih =>
    rw [normalizeBody, if_pos hcrlf]
    exact ih.trans (Nat.le_succ _)
  | case4 byte next rest hcrlf ih =>
    rw [normalizeBody, if_neg hcrlf]
    exact Nat.succ_le_succ ih

theorem smallLines_normalized {body} (h : body.length ≤ maxPromptBodyBytes) :
    SmallLines (normalizedLines body) := by
  have hbody := (length_normalizeBody body).trans h
  have hbytes : maxPromptBodyBytes + 2 < 10 ^ maxJsonNumberBytes := by decide
  refine ⟨?_, fun index => ?_⟩
  · have hcount := length_linesFrom [] (normalizeBody body)
    exact lt_of_le_of_lt (by show (linesFrom _ _).length + 1 ≤ _; omega) hbytes
  · by_cases hidx : index < (normalizedLines body).length
    · have htext := length_text_linesFrom [] (normalizeBody body)
        (getElem_mem hidx : (normalizedLines body)[index] ∈ _)
      rw [getD_eq_getElem _ _ hidx]
      rw [length_nil] at htext
      exact lt_of_le_of_lt (by omega) hbytes
    · rw [getD_eq_default _ _ (not_lt.mp hidx)]
      show 0 < 10 ^ maxJsonNumberBytes
      decide

/-! ## The invariant -/

/-- The parts of a result are paid for with `bytes`, `extra` of which are left, and their numbers
are small; there is no marker yet. -/
structure PayloadFits (extra : ℕ) (result : PromptDiff) (bytes : ℕ) : Prop where
  paid : paidBytes result + extra ≤ bytes
  limit : bytes ≤ maxPromptDiffPayloadBytes
  hunks : ∀ hunk ∈ result.hunks, hunk.Small
  spans : ∀ span ∈ result.inlineSpans, span.Small
  cacheKey : ∀ key ∈ result.cacheKey, key.algorithmVersion = 1 ∧ key.projectionVersion = 2 ∧
    key.optionsFingerprint < 2 ^ 64
  truncation : result.truncation = none

/-- The parts so far are paid for. -/
def Paid (extra : ℕ) (work : DiffWork) : Prop := PayloadFits extra work.result work.output.bytes

/-- The call pays for so many bytes, or refuses them. -/
def Reserves (call : OutputBudget → Bool × OutputBudget) (bytes : ℕ) : Prop :=
  ∀ output, match call output with
    | (true, next) => next.bytes = output.bytes + bytes ∧ next.bytes ≤ maxPromptDiffPayloadBytes
    | (false, next) => next.bytes = output.bytes

theorem reserves_bytes (bytes : ℕ) : Reserves (fun output => output.reserveBytes bytes) bytes := by
  intro output
  unfold reserveBytes
  dsimp only
  cases hnext : checkedAdd output.bytes bytes with
  | none => rfl
  | some next =>
    obtain ⟨-, rfl⟩ := checkedAdd_eq_some.mp hnext
    dsimp only
    by_cases hroom : output.bytes + bytes > maxPromptDiffPayloadBytes
    · rw [if_pos hroom]
    · rw [if_neg hroom]
      exact ⟨rfl, not_lt.mp hroom⟩

theorem reserves_hunk : Reserves reserveHunk (1 + jsonHunkBytes) := by
  have hbytes : saturatingAdd 1 jsonHunkBytes = 1 + jsonHunkBytes := by
    rw [jsonHunkBytes_eq]
    decide
  rw [← hbytes]
  exact reserves_bytes _

theorem reserves_line : Reserves reserveLine (1 + jsonLineChangeBytes) := by
  have hbytes : saturatingAdd 1 jsonLineChangeBytes = 1 + jsonLineChangeBytes := by
    rw [jsonLineChangeBytes_eq]
    decide
  rw [← hbytes]
  exact reserves_bytes _

theorem reserves_span : Reserves reserveSpan (1 + jsonInlineSpanBytes) := by
  have hbytes : saturatingAdd 1 jsonInlineSpanBytes = 1 + jsonInlineSpanBytes := by
    rw [jsonInlineSpanBytes_eq]
    decide
  intro output
  have hres := reserves_bytes (saturatingAdd 1 jsonInlineSpanBytes) output
  unfold reserveSpan
  by_cases hspans : output.spans ≥ maxPromptDiffInlineSpans
  · rw [if_pos hspans]
  · rw [if_neg hspans]
    dsimp only at hres
    rw [hbytes] at hres ⊢
    rcases hnext : output.reserveBytes (1 + jsonInlineSpanBytes) with ⟨_ | _, next⟩
    · rw [hnext] at hres
      exact hres
    · rw [hnext] at hres
      exact hres

section Phases

variable {work : DiffWork} {extra : ℕ}

theorem paid_onBudget {α : Type} (call : Budgeted α) : Maintains (Paid extra) (onBudget call) :=
  maintains_onBudget (fun _ _ h => h) call

theorem reserve_paid {call : OutputBudget → Bool × OutputBudget} {bytes : ℕ}
    (hcall : Reserves call bytes) (h : Paid 0 work) :
    Wp (reserve call) (fun _ => Paid bytes) (fun _ => Paid 0) work := by
  have hres := hcall work.output
  unfold reserve
  rw [wp_bind, wp_get]
  split at hres
  next next hnext =>
    obtain ⟨hbytes, hlim⟩ := hres
    rw [hnext]
    refine ⟨?_, hlim, h.hunks, h.spans, h.cacheKey, h.truncation⟩
    show paidBytes work.result + bytes ≤ next.bytes
    have hpaid := h.paid
    omega
  next next hnext =>
    rw [hnext]
    show PayloadFits 0 work.result next.bytes
    rw [hres]
    exact h

theorem copy_paid (text) (h : Paid extra work) :
    Wp (copyWithCancellation text) (fun copied work' => copied = text ∧ Paid extra work')
      (fun _ => Paid extra) work :=
  ((copyWithCancellation_spec text).both (maintains_copy (fun _ _ h => h) text work h)).imp
    (fun _ _ h => ⟨h.1.1, h.2⟩) fun _ _ h => h.2

theorem Paid.weaken (h : Paid extra work) : Paid 0 work :=
  ⟨le_trans (Nat.add_le_add_left (Nat.zero_le _) _) h.paid, h.limit, h.hunks, h.spans, h.cacheKey,
    h.truncation⟩

/-! ## Lines -/

theorem sum_map_modify_le {α : Type} {f : α → α} (size : α → ℕ) {more : ℕ}
    (hf : ∀ a, size (f a) = size a + more) (items : List α) (index : ℕ) :
    ((items.modify index f).map size).sum ≤ (items.map size).sum + more := by
  induction items generalizing index with
  | nil => simp
  | cons a items ih =>
    cases index with
    | zero =>
      rw [modify_zero_cons, map_cons, map_cons, sum_cons, sum_cons, hf]
      omega
    | succ index =>
      have hrest := ih index
      rw [modify_succ_cons, map_cons, map_cons, sum_cons, sum_cons]
      omega

theorem forall_mem_modify {α : Type} {f : α → α} {p : α → Prop} (hf : ∀ a, p a → p (f a))
    {items : List α} (h : ∀ a ∈ items, p a) (index : ℕ) : ∀ a ∈ items.modify index f, p a := by
  induction items generalizing index with
  | nil => simp
  | cons a items ih =>
    rw [forall_mem_cons] at h
    cases index with
    | zero => exact forall_mem_cons.mpr ⟨hf a h.1, h.2⟩
    | succ => exact forall_mem_cons.mpr ⟨h.1, ih h.2 _⟩

theorem pushChange_paid {change : LineChange} (hchange : change.Small)
    (h : Paid (1 + jsonLineChangeBytes) work) (hunkIndex : ℕ) :
    Wp (pushChange hunkIndex change) (fun _ => Paid 0) (fun _ => Paid 0) work := by
  have hpushed : ∀ hunk, 1 + hunkBytes { hunk with changes := hunk.changes ++ [change] } =
      1 + hunkBytes hunk + (1 + jsonLineChangeBytes) := by
    intro hunk
    unfold hunkBytes
    rw [length_append, length_singleton, Nat.succ_mul]
    omega
  have hsum := sum_map_modify_le (fun hunk => 1 + hunkBytes hunk) hpushed work.result.hunks
    hunkIndex
  refine ⟨?_, h.limit, ?_, h.spans, h.cacheKey, h.truncation⟩
  · have hpaid := h.paid
    unfold paidBytes at hpaid ⊢
    dsimp only at hsum hpaid ⊢
    omega
  · refine forall_mem_modify (fun hunk hhunk => ?_) h.hunks hunkIndex
    exact ⟨hhunk.oldStart, hhunk.oldCount, hhunk.newStart, hhunk.newCount,
      forall_mem_append.mpr ⟨hhunk.changes, forall_mem_singleton.mpr hchange⟩⟩

theorem appendLineChange_paid {lines} {change : ℕ → LineSlice → LineChange}
    {index : ℕ} (hchange : (change (index + 1) (lines.getD index default)).Small) (hunk : ℕ) :
    Maintains (Paid 0) (appendLineChange hunk lines change index) := by
  intro work h
  unfold appendLineChange
  rw [wp_bind]
  refine (paid_onBudget _ work h).imp (fun _ work h => ?_) fun _ _ h => h
  rw [wp_bind]
  refine (reserve_paid reserves_line h).imp (fun _ work h => ?_) fun _ _ h => h
  rw [wp_bind]
  refine (copy_paid _ h).imp (fun copied work h => ?_) fun _ _ h => h.weaken
  obtain ⟨rfl, h⟩ := h
  exact pushChange_paid hchange h hunk

theorem appendLineChanges_paid {old new} (hold : SmallLines old)
    (hnew : SmallLines new) {oldEnd newEnd : ℕ} (holdEnd : oldEnd ≤ old.length)
    (hnewEnd : newEnd ≤ new.length) (hunk oldStart newStart : ℕ) :
    Maintains (Paid 0) (appendLineChanges hunk old new oldStart oldEnd newStart newEnd) := by
  have hnum : ∀ {lines : List LineSlice} {start stop index : ℕ}, SmallLines lines →
      stop ≤ lines.length → index ∈ List.range' start (stop - start) → Small (index + 1) := by
    intro lines start stop index hlines hstop hidx
    rw [mem_range'_1] at hidx
    exact lt_of_le_of_lt (by omega) hlines.count
  refine (Maintains.forM fun index hidx => ?_).bind fun _ => Maintains.forM fun index hidx => ?_
  · refine appendLineChange_paid ⟨?_, fun _ h => (by cases h), hold.text index⟩ _
    rintro number ⟨⟩
    exact hnum hold holdEnd hidx
  · refine appendLineChange_paid ⟨fun _ h => (by cases h), ?_, hnew.text index⟩ _
    rintro number ⟨⟩
    exact hnum hnew hnewEnd hidx

/-! ## Spans -/

/-- The numbers and the sizes of a pair of lines have few digits. -/
structure PairedLines.Small (pair : PairedLines) : Prop where
  oldLine : Prompts.Small pair.oldLine.length
  newLine : Prompts.Small pair.newLine.length
  oldNumber : Prompts.Small pair.oldLineNumber
  newNumber : Prompts.Small pair.newLineNumber

theorem appendInlineSpan_paid {pair} (hpair : pair.Small) (graphemes) {start stop : ℕ} (kind)
    (hstop : stop ≤ maxPromptDiffGraphemeCount) :
    Maintains (Paid 0) (appendInlineSpan pair graphemes start stop kind) := by
  have hlim : maxPromptDiffGraphemeCount < 10 ^ maxJsonNumberBytes := by decide
  intro work h
  unfold appendInlineSpan
  rw [wp_ite]
  refine ⟨fun _ => h, fun hlt => ?_⟩
  have hstart : Small start := lt_of_le_of_lt (by omega) hlim
  have hstop : Small stop := lt_of_le_of_lt hstop hlim
  dsimp only
  rw [wp_bind]
  refine (paid_onBudget _ work h).imp (fun _ work h => ?_) fun _ _ h => h
  rw [wp_bind]
  refine (reserve_paid reserves_span h).imp (fun _ work h => ?_) fun _ _ h => h
  rw [wp_bind]
  refine (copy_paid _ h).imp (fun copied work h => ?_) fun _ _ h => h.weaken
  obtain ⟨rfl, h⟩ := h
  rw [wp_modify]
  refine ⟨?_, h.limit, h.hunks, forall_mem_append.mpr ⟨h.spans, ?_⟩, h.cacheKey, h.truncation⟩
  · have hpaid := h.paid
    unfold paidBytes at hpaid ⊢
    dsimp only
    rw [length_append, length_singleton, Nat.succ_mul]
    omega
  · rw [forall_mem_singleton]
    have hcut : ∀ (line : List UInt8) i j, (slice line i j).length ≤ line.length := by
      intro line i j
      rw [slice, length_drop, length_take]
      omega
    refine ⟨?_, ?_, ?_, ?_, ?_⟩
    · rintro number ⟨⟩
      exact hpair.oldNumber
    · rintro number ⟨⟩
      exact hpair.newNumber
    · intro range hrange
      dsimp only at hrange
      split_ifs at hrange
      · cases hrange
        exact ⟨hstart, hstop⟩
      · cases hrange
    · intro range hrange
      dsimp only at hrange
      split_ifs at hrange
      · cases hrange
        exact ⟨hstart, hstop⟩
      · cases hrange
    · cases kind with
      | removed => exact lt_of_le_of_lt (hcut _ _ _) hpair.oldLine
      | added => exact lt_of_le_of_lt (hcut _ _ _) hpair.newLine

/-! ## Hunks -/

theorem pushHunk_paid {hunk} (hhunk : hunk.Small) (hnil : hunk.changes = [])
    (h : Paid (1 + jsonHunkBytes) work) :
    Paid 0 { work with result := { work.result with hunks := work.result.hunks ++ [hunk] } } := by
  refine ⟨?_, h.limit, forall_mem_append.mpr ⟨h.hunks, forall_mem_singleton.mpr hhunk⟩, h.spans,
    h.cacheKey, h.truncation⟩
  have hpaid := h.paid
  have hbytes : hunkBytes hunk = jsonHunkBytes := by
    rw [hunkBytes, hnil, length_nil, Nat.zero_mul, Nat.add_zero]
  unfold paidBytes at hpaid ⊢
  dsimp only
  rw [map_append, sum_append, map_singleton, sum_singleton, hbytes]
  omega

variable [UnicodeSegmentation] {old new : List LineSlice} {oldStart oldEnd newStart newEnd : ℕ}

theorem appendHunk_paid (hold : SmallLines old) (hnew : SmallLines new)
    (holdEnd : oldEnd ≤ old.length)
    (hnewEnd : newEnd ≤ new.length) (hle : oldStart ≤ oldEnd) (hle' : newStart ≤ newEnd) :
    Maintains (Paid 0) (appendHunk old new oldStart oldEnd newStart newEnd) := by
  intro work h
  have hoff : ∀ {lines : List LineSlice} {n : ℕ}, SmallLines lines → n ≤ lines.length + 1 →
      Small n := fun hlines hn => lt_of_le_of_lt hn hlines.count
  unfold appendHunk
  rw [wp_ite]
  refine ⟨fun _ => h, fun _ => ?_⟩
  rw [wp_bind]
  refine (reserve_paid reserves_hunk h).imp (fun _ work h => ?_) fun _ _ h => h
  rw [wp_bind, wp_get, wp_bind, wp_set, wp_bind]
  refine (appendLineChanges_paid hold hnew holdEnd hnewEnd _ _ _ _
    (pushHunk_paid ⟨?_, ?_, ?_, ?_, by simp⟩ rfl h)).imp (fun _ work h => ?_) fun _ _ h => h
  · exact hoff hold (Nat.succ_le_succ (hle.trans holdEnd))
  · exact hoff hold (by dsimp only; omega)
  · exact hoff hnew (Nat.succ_le_succ (hle'.trans hnewEnd))
  · exact hoff hnew (by dsimp only; omega)
  refine Maintains.foldlM (fun approximate offset hmem => ?_) _ work h
  rw [mem_range] at hmem
  refine (maintains_appendInlineSpans (fun _ _ h => h) (fun _ h => h)
    fun graphemes start stop kind hstop => ?_).bind fun _ => maintains_pure _
  refine appendInlineSpan_paid ⟨hold.text _, hnew.text _, ?_, ?_⟩ graphemes kind hstop
  · exact hoff hold (by dsimp only; omega)
  · exact hoff hnew (by dsimp only; omega)

theorem rounds_paid (hold : SmallLines old) (hnew : SmallLines new) :
    Rounds old new (fun _ _ => Paid 0) (Paid 0) where
  budget _ h := h
  brokenBudget _ h := h
  broken h _ _ := h
  common h _ _ _ := h
  hunk h hle hle' holdEnd hnewEnd := appendHunk_paid hold hnew holdEnd hnewEnd hle hle' _ h

end Phases

/-! ## The ends of a comparison -/

/-- The diff encodes within its estimate, and the estimate is within the limit. -/
structure Accounted (diff : PromptDiff) : Prop where
  small : diff.Small
  paid : paidBytes diff ≤ diff.estimatedPayloadBytes
  limit : diff.estimatedPayloadBytes ≤ maxPromptDiffPayloadBytes

section Ends

variable {work : DiffWork}

theorem small_of_le {n : ℕ} (h : n ≤ maxPromptDiffPayloadBytes) : Small n :=
  lt_of_le_of_lt h (by decide)

theorem length_le_paidBytes (diff) :
    diff.hunks.length ≤ paidBytes diff ∧ diff.inlineSpans.length ≤ paidBytes diff := by
  have hhunks : diff.hunks.length ≤ (diff.hunks.map fun hunk => 1 + hunkBytes hunk).sum := by
    rw [sum_map_add]
    simp
  have hspans : diff.inlineSpans.length ≤ diff.inlineSpans.length * (1 + jsonInlineSpanBytes) :=
    Nat.le_mul_of_pos_right _ (Nat.add_pos_left Nat.one_pos _)
  unfold paidBytes
  omega

theorem paidBytes_none {diff} (hhunks : diff.hunks = []) (hspans : diff.inlineSpans = []) :
    paidBytes diff = basePayloadBytes := by
  rw [paidBytes, hhunks, hspans]
  simp only [map_nil, sum_nil, length_nil, Nat.zero_mul, Nat.add_zero]

variable (h : Paid 0 work)

include h

theorem Paid.estimate : min work.output.bytes maxPromptDiffPayloadBytes =
    work.output.bytes := min_eq_left h.limit

theorem Paid.accounted {diff} (hhunks : diff.hunks = work.result.hunks)
    (hspans : diff.inlineSpans = work.result.inlineSpans)
    (hkey : ∀ key ∈ diff.cacheKey, key ∈ work.result.cacheKey)
    (hestimate : diff.estimatedPayloadBytes = work.output.bytes) (hstatus : diff.status.Small)
    (hmarker : ∀ marker ∈ diff.truncation, ∃ reason, marker = markerOf work reason) :
    Accounted diff := by
  have hpaid : paidBytes diff = paidBytes work.result := by
    rw [paidBytes, paidBytes, hhunks, hspans]
  have hwork := h.paid
  have hlim := h.limit
  obtain ⟨hhunkCount, hspanCount⟩ := length_le_paidBytes work.result
  refine ⟨⟨hhunks ▸ h.hunks, hspans ▸ h.spans, fun key hmem => h.cacheKey key (hkey key hmem), ?_,
    hstatus, fun marker hmem => ?_⟩, ?_, ?_⟩
  · rw [hestimate]
    exact small_of_le hlim
  · obtain ⟨reason, rfl⟩ := hmarker marker hmem
    exact ⟨small_of_le (by show work.result.hunks.length ≤ _; omega),
      small_of_le (by show work.result.inlineSpans.length ≤ _; omega),
      small_of_le (min_le_right _ _)⟩
  · omega
  · omega

theorem Paid.cancelled : Accounted (finishCancelled work) :=
  h.accounted rfl rfl (by simp [finishCancelled]) h.estimate trivial (by simp [finishCancelled])

theorem Paid.truncated (approximate : Bool) :
    Accounted (finishTruncated work approximate) := by
  refine h.accounted rfl rfl (fun _ hkey => hkey) h.estimate ?_ ?_
  · show DiffStatus.Small (if _ then _ else _)
    split_ifs <;> trivial
  · rintro marker ⟨⟩
    exact ⟨_, rfl⟩

theorem Paid.approximate : Accounted (finishApproximate work) := by
  refine h.accounted rfl rfl (fun _ hkey => hkey) h.estimate trivial ?_
  rintro marker ⟨⟩
  exact ⟨_, rfl⟩

omit h

theorem accounted_empty (old new) {status} (hstatus : status.Small) :
    Accounted (emptyResult old new status) := by
  have hbase : basePayloadBytes ≤ maxPromptDiffPayloadBytes := by
    rw [basePayloadBytes_eq]
    decide
  have hestimate : (emptyResult old new status).estimatedPayloadBytes = basePayloadBytes :=
    min_eq_left hbase
  refine ⟨⟨by simp [emptyResult], by simp [emptyResult], by simp [emptyResult], ?_, hstatus,
    by simp [emptyResult]⟩, ?_, ?_⟩
  · rw [hestimate]
    exact small_of_le hbase
  · rw [hestimate, paidBytes_none rfl rfl]
  · rw [hestimate]
    exact hbase

end Ends

section Diff

variable [UnicodeSegmentation] [Externals]

theorem diffVersionsWithBudget_accounted {old new} (hold : old.length < 2 ^ 64)
    (hnew : new.length < 2 ^ 64) (budget) :
    Accounted (diffVersionsWithBudget old new budget) := by
  have hsize : ∀ n, n < 2 ^ 64 → Small n := fun n hn => hn.trans (by decide)
  have hstart : ∀ work, Fresh work → Paid 0 work := by
    intro work h
    refine ⟨?_, ?_, ?_, ?_, h.cacheKey, h.truncation⟩
    · rw [paidBytes_none h.hunks h.spans, h.output]
      exact le_rfl
    · rw [h.output]
      decide +kernel
    · rw [h.hunks]
      simp
    · rw [h.spans]
      simp
  rcases diffVersionsWithBudget_ends old new budget
    (fun hold hnew => rounds_paid (smallLines_normalized hold) (smallLines_normalized hnew)) hstart
    with hinv | hcan | hended
  · rw [hinv]
    exact accounted_empty _ _ ⟨hsize _ hold, hsize _ hnew, hsize _ (by decide)⟩
  · rw [hcan]
    exact accounted_empty _ _ trivial
  · generalize diffVersionsWithBudget old new budget = result at hended ⊢
    cases hended with
    | cancelled h => exact h.cancelled
    | truncated approximate h => exact h.truncated approximate
    | approximate h => exact h.approximate
    | complete h =>
      refine h.accounted rfl rfl (fun _ hkey => hkey) rfl trivial fun marker hmarker => ?_
      rw [h.truncation] at hmarker
      cases hmarker

variable [SerdeJson]

/-- Every diff of two bodies encodes, and not longer than its estimate, which is within the public
limit. -/
theorem payload_estimate_sound (hcompact : JsonValue.Compact SerdeJson.toVec) (old new : List UInt8)
    (hold : old.length < 2 ^ 64) (hnew : new.length < 2 ^ 64) (budget : DiffBudget) :
    ∃ bytes, encodePublicDiff (diffVersionsWithBudget old new budget) = .ok bytes ∧
      bytes.length ≤ (diffVersionsWithBudget old new budget).estimatedPayloadBytes ∧
      (diffVersionsWithBudget old new budget).estimatedPayloadBytes ≤
        maxPromptDiffPayloadBytes := by
  obtain ⟨hsmall, hpaid, hlim⟩ := diffVersionsWithBudget_accounted hold hnew budget
  have henc := (diff_le hcompact hsmall).trans hpaid
  refine ⟨_, ?_, henc, hlim⟩
  unfold encodePublicDiff
  rw [if_neg (not_lt.mpr (henc.trans hlim))]

end Diff

section Sample

attribute [local instance] sampleExternals sampleSegmentation

@[reducible] def sampleSerdeJson : SerdeJson := ⟨JsonValue.writeJson⟩

attribute [local instance] sampleSerdeJson

theorem payload_estimate_sound_replaced :
    ∃ bytes, encodePublicDiff (diffVersions [97, 10, 98, 10] [97, 10, 99, 10]) = .ok bytes ∧
      bytes.length ≤ (diffVersions [97, 10, 98, 10] [97, 10, 99, 10]).estimatedPayloadBytes ∧
      (diffVersions [97, 10, 98, 10] [97, 10, 99, 10]).estimatedPayloadBytes ≤
        maxPromptDiffPayloadBytes :=
  payload_estimate_sound JsonValue.compact_writeJson _ _ (by decide) (by decide) _

end Sample

end DevManager.Prompts
