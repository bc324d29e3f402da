import DevManager.Prompts.DiffRounds

/-!
# Inline spans describe the change

The lines that a hunk pairs up are compared a second time, cluster by cluster. `Walked` is the
invariant of that comparison: without the clusters in the ranges so far, what was read of the
old line is what was read of the new one.

* `appendInlineSpans_spec`: a comparison that ends describes the change; one that is broken off
  leaves ranges that are in order.
-/

namespace DevManager.Prompts

open List UnicodeRange
open UnicodeSegmentation (graphemes)

/-! ## Ranges of clusters -/

/-- The index lies in the range. -/
def UnicodeRange.covers (index : ℕ) (range : UnicodeRange) : Bool :=
  range.start ≤ index && index < range.stop

/-- What is left of a sequence without the ranges. -/
def outside {α : Type} (ranges : List UnicodeRange) (items : List α) : List α :=
  (items.zipIdx.filter fun entry => !ranges.any (UnicodeRange.covers entry.2)).map Prod.fst

/-- Ranges in a sequence of that length, none of them empty, in order and apart. -/
structure InOrder (length : ℕ) (ranges : List UnicodeRange) : Prop where
  inside : ∀ range ∈ ranges, range.start < range.stop ∧ range.stop ≤ length
  apart : ranges.Pairwise fun first second => first.stop ≤ second.start

/-- The range from one index to another, when it is not empty. -/
def rangeFrom (start stop : ℕ) : List UnicodeRange :=
  if start < stop then [⟨start, stop⟩] else []

section Ranges

variable {α : Type} {items : List α} {ranges : List UnicodeRange} {start stop length : ℕ}

theorem covers_iff {range : UnicodeRange} {index : ℕ} :
    range.covers index = true ↔ range.start ≤ index ∧ index < range.stop := by
  simp [covers]

theorem inOrder_nil : InOrder length [] := ⟨by simp, .nil⟩

theorem InOrder.mono {length' : ℕ} (h : InOrder length ranges) (hle : length ≤ length') :
    InOrder length' ranges :=
  ⟨fun range hrange => ⟨(h.inside range hrange).1, (h.inside range hrange).2.trans hle⟩, h.apart⟩

theorem InOrder.append (h : InOrder start ranges) (hle : start ≤ stop) :
    InOrder stop (ranges ++ rangeFrom start stop) := by
  unfold rangeFrom
  split_ifs with hlt
  · refine ⟨fun range hrange => ?_, ?_⟩
    · rcases mem_append.mp hrange with hrange | hrange
      · exact ⟨(h.inside range hrange).1, (h.inside range hrange).2.trans hle⟩
      · rw [mem_singleton.mp hrange]
        exact ⟨hlt, le_rfl⟩
    · rw [pairwise_append]
      refine ⟨h.apart, pairwise_singleton _ _, fun first hfst second hsnd => ?_⟩
      rw [mem_singleton.mp hsnd]
      exact (h.inside first hfst).2
  · rw [append_nil]
    exact h.mono hle

theorem outside_append (h : InOrder items.length ranges) (more : List α) :
    outside ranges (items ++ more) = outside ranges items ++ more := by
  unfold outside
  rw [zipIdx_append, filter_append, map_append]
  congr 1
  rw [filter_eq_self.mpr, zipIdx_map_fst]
  rintro ⟨item, index⟩ hentry
  have hidx := le_snd_of_mem_zipIdx hentry
  simp only [Nat.zero_add] at hidx
  rw [Bool.not_eq_true', any_eq_false]
  intro range hrange
  have hins := h.inside range hrange
  rw [covers_iff]
  omega

theorem outside_rangeFrom (ranges) (items more : List α) :
    outside (ranges ++ rangeFrom items.length (items.length + more.length)) (items ++ more) =
      outside ranges items := by
  unfold rangeFrom
  split_ifs with hlt
  · unfold outside
    rw [zipIdx_append, filter_append]
    -- the new range covers the indices of `more`, and none before
    have hfst : ∀ entry ∈ items.zipIdx,
        (!(ranges ++ [UnicodeRange.mk items.length (items.length + more.length)]).any
          (covers entry.2)) = !ranges.any (covers entry.2) := by
      rintro ⟨item, index⟩ hentry
      have hidx := snd_lt_of_mem_zipIdx hentry
      have hout : covers index ⟨items.length, items.length + more.length⟩ = false := by
        rw [Bool.eq_false_iff, ne_eq, covers_iff]
        dsimp only at hidx ⊢
        omega
      rw [any_append, any_cons, any_nil, hout, Bool.or_false, Bool.or_false]
    have hsnd : ∀ entry ∈ more.zipIdx (0 + items.length),
        ¬ (!(ranges ++ [UnicodeRange.mk items.length (items.length + more.length)]).any
          (covers entry.2)) = true := by
      rintro ⟨item, index⟩ hentry
      have hlow := le_snd_of_mem_zipIdx hentry
      have hhigh := snd_lt_add_of_mem_zipIdx hentry
      have hin : covers index ⟨items.length, items.length + more.length⟩ = true := by
        rw [covers_iff]
        dsimp only at hlow hhigh ⊢
        omega
      rw [any_append, any_cons, hin, Bool.true_or, Bool.or_true]
      exact Bool.false_ne_true
    rw [filter_congr hfst, filter_eq_nil_iff.mpr hsnd, append_nil]
  · have hmore : more = [] := length_eq_zero_iff.mp (by omega)
    rw [hmore, append_nil, append_nil]

theorem take_append_slice_length (items : List α) (hle : start ≤ stop)
    (hstop : stop ≤ items.length) :
    (items.take start).length = start ∧ (slice items start stop).length = stop - start := by
  unfold slice
  simp only [length_drop, length_take]
  omega

theorem outside_take_succ (h : InOrder start ranges) (hstart : start < items.length) :
    outside ranges (items.take (start + 1)) = outside ranges (items.take start) ++
      [items[start]] := by
  rw [take_succ_eq_append_getElem hstart]
  exact outside_append (by rwa [length_take, min_eq_left hstart.le]) _

theorem outside_take_range (ranges) (hle : start ≤ stop) (hstop : stop ≤ items.length) :
    outside (ranges ++ rangeFrom start stop) (items.take stop) =
      outside ranges (items.take start) := by
  obtain ⟨hfst, hsnd⟩ := take_append_slice_length items hle hstop
  have hrule := outside_rangeFrom ranges (items.take start) (slice items start stop)
  rw [hfst, hsnd, take_append_slice items hle] at hrule
  rwa [Nat.add_sub_cancel' hle] at hrule

end Ranges

/-! ## The spans of two lines -/

variable (span : InlineSpan)

/-- The range of a span on the old side, when it is about removed clusters. -/
def InlineSpan.removedRange : Option UnicodeRange :=
  match span.kind with
  | .removed => span.oldRange
  | .added => none

/-- The range of a span on the new side, when it is about added clusters. -/
def InlineSpan.addedRange : Option UnicodeRange :=
  match span.kind with
  | .removed => none
  | .added => span.newRange

/-- The span has one range, on its side. -/
def InlineSpan.Sided : Prop :=
  match span.kind with
  | .removed => span.oldRange.isSome ∧ span.newRange = none
  | .added => span.oldRange = none ∧ span.newRange.isSome

/-- The text of the span is that of its clusters. -/
def InlineSpan.Quotes (old new : List (List UInt8)) (span : InlineSpan) : Prop :=
  (∀ range ∈ span.removedRange, span.text = (slice old range.start range.stop).flatten) ∧
    ∀ range ∈ span.addedRange, span.text = (slice new range.start range.stop).flatten

/-- The ranges of removed clusters, in the order of the spans. -/
def removedRanges (spans : List InlineSpan) : List UnicodeRange :=
  spans.filterMap InlineSpan.removedRange

/-- The ranges of added clusters, in the order of the spans. -/
def addedRanges (spans : List InlineSpan) : List UnicodeRange :=
  spans.filterMap InlineSpan.addedRange

/-- The span that `append_inline_span` adds. -/
def spanOver (pair : PairedLines) (graphemes : List GraphemeSlice) (start stop : ℕ)
    (kind : InlineSpanKind) : InlineSpan where
  kind := kind
  oldLine := some pair.oldLineNumber
  newLine := some pair.newLineNumber
  oldRange := if kind = .removed then some ⟨start, stop⟩ else none
  newRange := if kind = .added then some ⟨start, stop⟩ else none
  text := slice (match kind with
    | .removed => pair.oldLine
    | .added => pair.newLine) (graphemes.getD start default).start
    (graphemes.getD (stop - 1) default).stop

/-- There is no span over an empty range. -/
def spanOf (pair : PairedLines) (graphemes : List GraphemeSlice) (start stop : ℕ)
    (kind : InlineSpanKind) : List InlineSpan :=
  if start < stop then [spanOver pair graphemes start stop kind] else []

section Spans

variable {pair : PairedLines} {slices : List GraphemeSlice} {start stop : ℕ}
  {spans more : List InlineSpan}

theorem removedRanges_append :
    removedRanges (spans ++ more) = removedRanges spans ++ removedRanges more :=
  filterMap_append

theorem addedRanges_append : addedRanges (spans ++ more) = addedRanges spans ++ addedRanges more :=
  filterMap_append

theorem mem_spanOf {kind span} (h : span ∈ spanOf pair slices start stop kind) :
    start < stop ∧ span = spanOver pair slices start stop kind := by
  unfold spanOf at h
  split_ifs at h with hlt
  · exact ⟨hlt, mem_singleton.mp h⟩
  · cases h

theorem removedRanges_removed :
    removedRanges (spanOf pair slices start stop .removed) = rangeFrom start stop := by
  unfold spanOf rangeFrom
  split_ifs <;> rfl

theorem removedRanges_added : removedRanges (spanOf pair slices start stop .added) = [] := by
  rw [removedRanges, filterMap_eq_nil_iff]
  intro span hspan
  rw [(mem_spanOf hspan).2]
  rfl

theorem addedRanges_removed : addedRanges (spanOf pair slices start stop .removed) = [] := by
  rw [addedRanges, filterMap_eq_nil_iff]
  intro span hspan
  rw [(mem_spanOf hspan).2]
  rfl

theorem addedRanges_added :
    addedRanges (spanOf pair slices start stop .added) = rangeFrom start stop := by
  unfold spanOf rangeFrom
  split_ifs <;> rfl

theorem slice_placed {texts} (hlt : start < stop) (hstop : stop ≤ texts.length) :
    slice texts.flatten ((placed 0 texts).getD start default).start
      ((placed 0 texts).getD (stop - 1) default).stop = (slice texts start stop).flatten := by
  rw [placed_getD (show start < texts.length by omega),
    placed_getD (show stop - 1 < texts.length by omega), Nat.sub_add_cancel (by omega)]
  have hall : texts.flatten = (texts.take stop).flatten ++ (texts.drop stop).flatten := by
    rw [← flatten_append, take_append_drop]
  have hbegin : (texts.take stop).flatten =
      (texts.take start).flatten ++ (slice texts start stop).flatten := by
    rw [← flatten_append, take_append_slice texts hlt.le]
  unfold slice
  dsimp only
  rw [hall, take_left, hbegin, drop_left]
  rfl

theorem appendInlineSpan_spec (pair) (slices)
    (start stop : ℕ) (kind) (work : DiffWork) :
    Wp (appendInlineSpan pair slices start stop kind) (fun _ work' => work'.result.inlineSpans =
        work.result.inlineSpans ++ spanOf pair slices start stop kind)
      (fun _ work' => work'.result.inlineSpans = work.result.inlineSpans) work := by
  unfold appendInlineSpan spanOf
  by_cases hlt : start < stop
  · rw [if_neg (not_le.mpr hlt), if_pos hlt, wp_bind]
    refine ((keeps_onBudget PromptDiff.inlineSpans _).wp work).imp (fun _ work₁ h₁ => ?_)
      fun _ _ h => h
    rw [wp_bind]
    refine ((keeps_reserve PromptDiff.inlineSpans _).wp work₁).imp (fun _ work₂ h₂ => ?_)
      fun _ _ h => h.trans h₁
    rw [wp_bind]
    refine (copyWithCancellation_spec _).imp (fun copied work₃ h => ?_) fun _ work₃ h₃ => ?_
    · obtain ⟨rfl, h₃⟩ := h
      rw [wp_modify]
      dsimp only at h₁ h₂ ⊢
      rw [h₃, h₂, h₁]
      rfl
    · rw [h₃, h₂, h₁]
  · rw [if_pos (not_lt.mp hlt), if_neg hlt, wp_pure, append_nil]

theorem appendInlineSpanPair_spec (pair) (old new)
    (oldStart oldEnd newStart newEnd : ℕ) (work : DiffWork) :
    Wp (appendInlineSpanPair pair old new oldStart oldEnd newStart newEnd)
      (fun _ work' => work'.result.inlineSpans = work.result.inlineSpans ++
        (spanOf pair old oldStart oldEnd .removed ++ spanOf pair new newStart newEnd .added))
      (fun _ work' => work'.result.inlineSpans = work.result.inlineSpans ∨
        work'.result.inlineSpans = work.result.inlineSpans ++
          spanOf pair old oldStart oldEnd .removed) work := by
  unfold appendInlineSpanPair
  rw [wp_bind]
  refine (appendInlineSpan_spec _ _ _ _ _ work).imp (fun _ work₁ h₁ => ?_) fun _ _ h => .inl h
  refine (appendInlineSpan_spec _ _ _ _ _ work₁).imp (fun _ work₂ h₂ => ?_) fun _ _ h => .inr ?_
  · rw [h₂, h₁, append_assoc]
  · rw [h, h₁]

variable [UnicodeSegmentation]

/-- Spans of the two lines, with ranges in order up to an index in each of them. -/
structure SpansTo (pair : PairedLines) (spans : List InlineSpan) (oldIndex newIndex : ℕ) :
    Prop where
  lines : ∀ span ∈ spans,
    span.oldLine = some pair.oldLineNumber ∧ span.newLine = some pair.newLineNumber
  sided : ∀ span ∈ spans, span.Sided
  removed : InOrder oldIndex (removedRanges spans)
  added : InOrder newIndex (addedRanges spans)
  texts : (graphemes pair.oldLine).flatten = pair.oldLine →
    (graphemes pair.newLine).flatten = pair.newLine →
    ∀ span ∈ spans, span.Quotes (graphemes pair.oldLine)
      (graphemes pair.newLine)

/-- Spans of the two lines: each is about these lines and has a range on its side, the ranges of a
side lie inside its line, in order and apart, and the texts are those of their clusters. -/
def SpansOf (pair : PairedLines) (spans : List InlineSpan) : Prop :=
  SpansTo pair spans (graphemes pair.oldLine).length
    (graphemes pair.newLine).length

/-- The spans describe the change of the two lines: without the removed clusters of the one and
the added clusters of the other, the lines are the same. -/
structure Describes (pair : PairedLines) (spans : List InlineSpan) : Prop where
  ordered : SpansOf pair spans
  same : outside (removedRanges spans) (graphemes pair.oldLine) =
    outside (addedRanges spans) (graphemes pair.newLine)

/-- The comparison has read both lines up to these indices. -/
structure Walked (pair : PairedLines) (spans : List InlineSpan) (oldIndex newIndex : ℕ) : Prop where
  oldInside : oldIndex ≤ (graphemes pair.oldLine).length
  newInside : newIndex ≤ (graphemes pair.newLine).length
  ordered : SpansTo pair spans oldIndex newIndex
  same : outside (removedRanges spans)
    ((graphemes pair.oldLine).take oldIndex) =
    outside (addedRanges spans) ((graphemes pair.newLine).take newIndex)

variable {oldIndex newIndex oldEnd newEnd : ℕ}

theorem spansTo_nil : SpansTo pair [] oldIndex newIndex :=
  ⟨by simp, by simp, inOrder_nil, inOrder_nil, by simp⟩

theorem SpansTo.mono (h : SpansTo pair spans oldIndex newIndex) (hold : oldIndex ≤ oldEnd)
    (hnew : newIndex ≤ newEnd) : SpansTo pair spans oldEnd newEnd :=
  ⟨h.lines, h.sided, h.removed.mono hold, h.added.mono hnew, h.texts⟩

theorem walked_start : Walked pair [] 0 0 :=
  ⟨Nat.zero_le _, Nat.zero_le _, spansTo_nil, by rw [take_zero, take_zero]; rfl⟩

theorem SpansTo.append {more} (h : SpansTo pair spans oldIndex newIndex)
    (hlines : ∀ span ∈ more, (span.oldLine = some pair.oldLineNumber ∧
      span.newLine = some pair.newLineNumber) ∧ span.Sided)
    (hremoved : InOrder oldEnd (removedRanges spans ++ removedRanges more))
    (hadded : InOrder newEnd (addedRanges spans ++ addedRanges more))
    (htexts : (graphemes pair.oldLine).flatten = pair.oldLine →
      (graphemes pair.newLine).flatten = pair.newLine →
      ∀ span ∈ more, span.Quotes (graphemes pair.oldLine) (graphemes pair.newLine)) :
    SpansTo pair (spans ++ more) oldEnd newEnd where
  lines := forall_mem_append.mpr ⟨h.lines, fun span hspan => (hlines span hspan).1⟩
  sided := forall_mem_append.mpr ⟨h.sided, fun span hspan => (hlines span hspan).2⟩
  removed := removedRanges_append .. ▸ hremoved
  added := addedRanges_append .. ▸ hadded
  texts hold hnew := forall_mem_append.mpr ⟨h.texts hold hnew, htexts hold hnew⟩

theorem SpansTo.removed_append (h : SpansTo pair spans oldIndex newIndex) (hle : oldIndex ≤ oldEnd)
    (hend : oldEnd ≤ (graphemes pair.oldLine).length) :
    SpansTo pair (spans ++ spanOf pair
      (placed 0 (graphemes pair.oldLine)) oldIndex oldEnd .removed)
      oldEnd newIndex := by
  refine h.append (fun span hspan => ?_) ?_ ?_ fun hold _ span hspan => ?_
  · rw [(mem_spanOf hspan).2]
    exact ⟨⟨rfl, rfl⟩, rfl, rfl⟩
  · rw [removedRanges_removed]
    exact h.removed.append hle
  · rw [addedRanges_removed, append_nil]
    exact h.added
  · obtain ⟨hlt, rfl⟩ := mem_spanOf hspan
    refine ⟨?_, nofun⟩
    rintro range ⟨⟩
    have htext := slice_placed hlt hend
    rwa [hold] at htext

theorem SpansTo.added_append (h : SpansTo pair spans oldIndex newIndex) (hle : newIndex ≤ newEnd)
    (hend : newEnd ≤ (graphemes pair.newLine).length) :
    SpansTo pair (spans ++ spanOf pair
      (placed 0 (graphemes pair.newLine)) newIndex newEnd .added)
      oldIndex newEnd := by
  refine h.append (fun span hspan => ?_) ?_ ?_ fun _ hnew span hspan => ?_
  · rw [(mem_spanOf hspan).2]
    exact ⟨⟨rfl, rfl⟩, rfl, rfl⟩
  · rw [removedRanges_added, append_nil]
    exact h.removed
  · rw [addedRanges_added]
    exact h.added.append hle
  · obtain ⟨hlt, rfl⟩ := mem_spanOf hspan
    refine ⟨nofun, ?_⟩
    rintro range ⟨⟩
    have htext := slice_placed hlt hend
    rwa [hnew] at htext

variable (h : Walked pair spans oldIndex newIndex)

include h

theorem Walked.same_cluster (hold : oldIndex < (graphemes pair.oldLine).length)
    (hnew : newIndex < (graphemes pair.newLine).length)
    (hsame : (graphemes pair.oldLine)[oldIndex] = (graphemes pair.newLine)[newIndex]) :
    Walked pair spans (oldIndex + 1) (newIndex + 1) := by
  refine ⟨hold, hnew, h.ordered.mono (Nat.le_succ _) (Nat.le_succ _), ?_⟩
  rw [outside_take_succ h.ordered.removed hold, outside_take_succ h.ordered.added hnew,
    h.same, hsame]

theorem Walked.region (hold : oldIndex ≤ oldEnd) (hnew : newIndex ≤ newEnd)
    (holdEnd : oldEnd ≤ (graphemes pair.oldLine).length)
    (hnewEnd : newEnd ≤ (graphemes pair.newLine).length) :
    Walked pair (spans ++
      (spanOf pair (placed 0 (graphemes pair.oldLine)) oldIndex oldEnd .removed ++
        spanOf pair (placed 0 (graphemes pair.newLine)) newIndex newEnd .added))
      oldEnd newEnd := by
  refine ⟨holdEnd, hnewEnd, ?_, ?_⟩
  · rw [← append_assoc]
    exact (h.ordered.removed_append hold holdEnd).added_append hnew hnewEnd
  · rw [removedRanges_append, removedRanges_append, removedRanges_removed, removedRanges_added,
      append_nil, addedRanges_append, addedRanges_append, addedRanges_removed, addedRanges_added,
      nil_append, outside_take_range _ hold holdEnd, outside_take_range _ hnew hnewEnd]
    exact h.same

theorem Walked.spansOf : SpansOf pair spans :=
  h.ordered.mono h.oldInside h.newInside

omit h

theorem Walked.describes (h : Walked pair spans (graphemes pair.oldLine).length
    (graphemes pair.newLine).length) : Describes pair spans := by
  have hsame := h.same
  rw [take_length, take_length] at hsame
  exact ⟨h.ordered, hsame⟩

/-! ## Comparing two lines -/

/-- The spans behind the earlier ones have the property. -/
def Extends (earlier : List InlineSpan) (P : List InlineSpan → Prop) (work : DiffWork) : Prop :=
  ∃ spans, work.result.inlineSpans = earlier ++ spans ∧ P spans

theorem Walked.appendInlineSpanPair {earlier work}
    (h : Walked pair spans oldIndex newIndex)
    (hwork : work.result.inlineSpans = earlier ++ spans) (hold : oldIndex ≤ oldEnd)
    (hnew : newIndex ≤ newEnd)
    (holdEnd : oldEnd ≤ (graphemes pair.oldLine).length)
    (hnewEnd : newEnd ≤ (graphemes pair.newLine).length) :
    Wp (appendInlineSpanPair pair (placed 0 (graphemes pair.oldLine))
        (placed 0 (graphemes pair.newLine)) oldIndex oldEnd newIndex newEnd)
      (fun _ => Extends earlier fun spans => Walked pair spans oldEnd newEnd)
      (fun _ => Extends earlier (SpansOf pair)) work := by
  refine (appendInlineSpanPair_spec _ _ _ _ _ _ _ work).imp (fun _ work' h' => ?_)
    fun _ work' h' => ?_
  · refine ⟨_, ?_, h.region hold hnew holdEnd hnewEnd⟩
    rw [h', hwork, append_assoc]
  · rcases h' with h' | h'
    · exact ⟨spans, by rw [h', hwork], h.spansOf⟩
    · refine ⟨_, by rw [h', hwork, append_assoc], ?_⟩
      exact (h.ordered.removed_append hold holdEnd).mono holdEnd h.newInside

theorem inlineLoop_spec (earlier) (fuel : ℕ) :
    ∀ {oldIndex newIndex : ℕ} {approximate : Bool} {work : DiffWork},
      Extends earlier (fun spans => Walked pair spans oldIndex newIndex) work →
      Wp (inlineLoop pair (placed 0 (graphemes pair.oldLine))
          (placed 0 (graphemes pair.newLine)) fuel oldIndex newIndex approximate)
        (fun left => Extends earlier fun spans => Walked pair spans left.1 left.2.1)
        (fun _ => Extends earlier (SpansOf pair)) work := by
  induction fuel with
  | zero => exact fun h => h
  | succ fuel ih =>
    rintro oldIndex newIndex approximate work ⟨spans, hwork, hwalked⟩
    unfold inlineLoop
    rw [length_placed, length_placed, wp_ite]
    refine ⟨fun hins => ?_, fun _ => ⟨spans, hwork, hwalked⟩⟩
    obtain ⟨hold, hnew⟩ := hins
    have hbroken : ∀ {work' : DiffWork}, work'.result = work.result →
        Extends earlier (SpansOf pair) work' :=
      fun h => ⟨spans, by rw [h, hwork], hwalked.spansOf⟩
    rw [wp_bind, wp_onBudget, placed_getD hold, placed_getD hnew]
    refine (graphemesEqual_spec _ _).imp (fun same budget hsame => ?_) fun _ _ _ => hbroken rfl
    rw [wp_ite]
    refine ⟨fun hequal => ?_, fun _ => ?_⟩
    · exact ih ⟨spans, hwork, hwalked.same_cluster hold hnew (hsame.mp hequal)⟩
    · rw [wp_bind, wp_onBudget]
      refine (findGraphemeAnchor_spec (by rwa [length_placed]) (by rwa [length_placed])).imp
        (fun anchor budget' hanchor => ?_) fun _ _ _ => hbroken rfl
      rw [length_placed, length_placed] at hanchor
      obtain ⟨hle, hle', hins, hin'⟩ := anchor_getD hold hnew hanchor
      generalize anchor.getD ((graphemes pair.oldLine).length,
        (graphemes pair.newLine).length) = next at hle hle' hins hin' ⊢
      have hrest : ∀ {work' : DiffWork} (approximate' : Bool),
          work'.result.inlineSpans = earlier ++ spans →
          Wp (do
            appendInlineSpanPair pair (placed 0 (graphemes pair.oldLine))
              (placed 0 (graphemes pair.newLine)) oldIndex next.1 newIndex next.2
            inlineLoop pair (placed 0 (graphemes pair.oldLine))
              (placed 0 (graphemes pair.newLine)) fuel next.1 next.2
              approximate')
            (fun left => Extends earlier fun spans => Walked pair spans left.1 left.2.1)
            (fun _ => Extends earlier (SpansOf pair)) work' := by
        intro work' approximate' hwork'
        rw [wp_bind]
        exact (hwalked.appendInlineSpanPair hwork' hle hle' hins hin').imp
          (fun _ _ h => ih h) fun _ _ h => h
      rw [wp_ite]
      refine ⟨fun _ => ?_, fun _ => hrest _ hwork⟩
      rw [wp_bind, wp_modify]
      exact hrest _ hwork

theorem appendInlineSpans_spec (pair) (work : DiffWork) :
    Wp (appendInlineSpans pair) (fun _ => Extends work.result.inlineSpans (Describes pair))
      (fun _ => Extends work.result.inlineSpans (SpansOf pair)) work := by
  have hstart : ∀ {budget : DiffBudget}, Extends work.result.inlineSpans
      (fun spans => Walked pair spans 0 0) { work with budget } :=
    ⟨[], (append_nil _).symm, walked_start⟩
  have hbroken : ∀ {budget : DiffBudget}, Extends work.result.inlineSpans (SpansOf pair)
      { work with budget } := ⟨[], (append_nil _).symm, spansTo_nil⟩
  unfold appendInlineSpans
  rw [wp_bind, wp_onBudget]
  refine (collectGraphemes_spec _).imp (fun old budget hold => ?_) fun _ _ _ => hbroken
  rw [wp_bind, wp_onBudget, hold.1]
  refine (collectGraphemes_spec _).imp (fun new budget hnew => ?_) fun _ _ _ => hbroken
  rw [wp_bind, hnew.1]
  refine (inlineLoop_spec _ _ hstart).imp (fun left work' h => ?_) fun _ _ h => h
  obtain ⟨oldIndex, newIndex, approximate⟩ := left
  obtain ⟨spans, hwork', hwalked⟩ := h
  dsimp only at hwalked ⊢
  rw [length_placed, length_placed, wp_ite]
  refine ⟨fun _ => ?_, fun hend => ?_⟩
  · rw [wp_bind]
    refine (hwalked.appendInlineSpanPair hwork' hwalked.oldInside hwalked.newInside le_rfl
      le_rfl).imp (fun _ work'' h => ?_) fun _ _ h => h
    obtain ⟨spans, hwork'', hwalked⟩ := h
    exact ⟨spans, hwork'', hwalked.describes⟩
  · have hold := hwalked.oldInside
    have hnew := hwalked.newInside
    obtain rfl : oldIndex = (graphemes pair.oldLine).length := by omega
    obtain rfl : newIndex = (graphemes pair.newLine).length := by omega
    exact ⟨spans, hwork', hwalked.describes⟩

end Spans

/-! ## The spans of a diff -/

/-- Two lines by their indices, as a hunk pairs them up. -/
def pairAt (old new : List LineSlice) (oldIndex newIndex : ℕ) : PairedLines where
  oldLine := (old.getD oldIndex default).text
  newLine := (new.getD newIndex default).text
  oldLineNumber := oldIndex + 1
  newLineNumber := newIndex + 1

/-- The span is about the lines of these indices. -/
def InlineSpan.IsAt (oldIndex newIndex : ℕ) (span : InlineSpan) : Prop :=
  span.oldLine = some (oldIndex + 1) ∧ span.newLine = some (newIndex + 1)

instance (oldIndex newIndex : ℕ) (span : InlineSpan) : Decidable (span.IsAt oldIndex newIndex) :=
  inferInstanceAs (Decidable (_ ∧ _))

/-- The spans of the lines of these indices. -/
def spansAt (spans : List InlineSpan) (oldIndex newIndex : ℕ) : List InlineSpan :=
  spans.filter fun span => span.IsAt oldIndex newIndex

section Pairs

variable {spans more : List InlineSpan} {oldIndex newIndex i j : ℕ}

theorem spansAt_append : spansAt (spans ++ more) i j = spansAt spans i j ++ spansAt more i j :=
  filter_append _ _

theorem spansAt_self (h : ∀ span ∈ spans, span.IsAt i j) : spansAt spans i j = spans :=
  filter_eq_self.mpr fun span hspan => decide_eq_true (h span hspan)

theorem spansAt_other (h : ∀ span ∈ spans, span.IsAt i j) (hne : oldIndex ≠ i) :
    spansAt spans oldIndex newIndex = [] := by
  refine filter_eq_nil_iff.mpr fun span hspan hat => hne ?_
  have hat : span.IsAt oldIndex newIndex := of_decide_eq_true hat
  have heq := hat.1.symm.trans (h span hspan).1
  rw [Option.some.injEq] at heq
  omega

theorem spansAt_otherNew (h : ∀ span ∈ spans, span.IsAt i j) (hne : newIndex ≠ j) :
    spansAt spans oldIndex newIndex = [] := by
  refine filter_eq_nil_iff.mpr fun span hspan hat => hne ?_
  have hat : span.IsAt oldIndex newIndex := of_decide_eq_true hat
  have heq := hat.2.symm.trans (h span hspan).2
  rw [Option.some.injEq] at heq
  omega

/-- All spans are about lines before these indices. -/
def Below (spans : List InlineSpan) (oldIndex newIndex : ℕ) : Prop :=
  ∀ span ∈ spans, ∃ i j, i < oldIndex ∧ j < newIndex ∧ span.IsAt i j

theorem Below.spansAt_eq_nil (h : Below spans oldIndex newIndex) (hi : oldIndex ≤ i) :
    spansAt spans i j = [] := by
  refine filter_eq_nil_iff.mpr fun span hspan hat => ?_
  have hat : span.IsAt i j := of_decide_eq_true hat
  obtain ⟨i', j', hlt, -, hat'⟩ := h span hspan
  have heq := hat.1.symm.trans hat'.1
  rw [Option.some.injEq] at heq
  omega

variable [UnicodeSegmentation] {old new : List LineSlice} {hunks : List LineHunk}
  {oldEnd newEnd : ℕ}

theorem SpansTo.isAt (h : SpansOf (pairAt old new i j) spans) : ∀ span ∈ spans, span.IsAt i j :=
  h.lines

/-- The spans so far are about lines before these indices, and describe the change of every pair of
lines that has spans, and of every pair of lines of the hunks. -/
structure Spanned (old new : List LineSlice) (hunks : List LineHunk) (spans : List InlineSpan)
    (oldIndex newIndex : ℕ) : Prop where
  below : Below spans oldIndex newIndex
  described : ∀ i j, spansAt spans i j ≠ [] → Describes (pairAt old new i j) (spansAt spans i j)
  hunks : ∀ hunk ∈ hunks, hunk.oldStart - 1 + hunk.oldCount ≤ oldIndex ∧
    ∀ offset < min hunk.oldCount hunk.newCount,
      Describes (pairAt old new (hunk.oldStart - 1 + offset) (hunk.newStart - 1 + offset))
        (spansAt spans (hunk.oldStart - 1 + offset) (hunk.newStart - 1 + offset))

/-- The spans so far, where the comparison of the last pair of lines may have been broken off. -/
def Broken (old new : List LineSlice) (spans : List InlineSpan) : Prop :=
  ∃ i j earlier rest, spans = earlier ++ rest ∧ Spanned old new [] earlier i j ∧ i ≤ old.length ∧
    j ≤ new.length ∧
    (rest = [] ∨ i < old.length ∧ j < new.length ∧ SpansOf (pairAt old new i j) rest)

theorem spanned_nil : Spanned old new [] [] 0 0 :=
  ⟨by simp [Below], fun _ _ h => absurd rfl h, by simp⟩

variable (h : Spanned old new hunks spans oldIndex newIndex)

include h

theorem Spanned.mono (hold : oldIndex ≤ oldEnd)
    (hnew : newIndex ≤ newEnd) : Spanned old new hunks spans oldEnd newEnd := by
  refine ⟨fun span hspan => ?_, h.described, fun hunk hhunk => ?_⟩
  · obtain ⟨i, j, hi, hj, hat⟩ := h.below span hspan
    exact ⟨i, j, hi.trans_le hold, hj.trans_le hnew, hat⟩
  · exact ⟨(h.hunks hunk hhunk).1.trans hold, (h.hunks hunk hhunk).2⟩

theorem Spanned.broken
    (hold : oldIndex ≤ old.length) (hnew : newIndex ≤ new.length) : Broken old new spans :=
  ⟨oldIndex, newIndex, spans, [], (append_nil _).symm, ⟨h.below, h.described, by simp⟩, hold,
    hnew, .inl rfl⟩

theorem Spanned.pair (hmore : Describes (pairAt old new oldIndex newIndex) more) :
    Spanned old new hunks (spans ++ more) (oldIndex + 1) (newIndex + 1) ∧
      spansAt (spans ++ more) oldIndex newIndex = more := by
  have hat := SpansTo.isAt hmore.ordered
  have hself : spansAt (spans ++ more) oldIndex newIndex = more := by
    rw [spansAt_append, h.below.spansAt_eq_nil le_rfl, nil_append, spansAt_self hat]
  have hother {i j : ℕ} (hne : i ≠ oldIndex) : spansAt (spans ++ more) i j = spansAt spans i j := by
    rw [spansAt_append, spansAt_other hat hne, append_nil]
  refine ⟨⟨?_, ?_, ?_⟩, hself⟩
  · refine forall_mem_append.mpr ⟨fun span hspan => ?_, fun span hspan =>
      ⟨oldIndex, newIndex, Nat.lt_succ_self _, Nat.lt_succ_self _, hat span hspan⟩⟩
    obtain ⟨i, j, hi, hj, hij⟩ := h.below span hspan
    exact ⟨i, j, Nat.lt_succ_of_lt hi, Nat.lt_succ_of_lt hj, hij⟩
  · intro i j hne
    by_cases hi : i = oldIndex
    · subst hi
      by_cases hj : j = newIndex
      · subst hj
        rw [hself]
        exact hmore
      · -- spans of one old line are about one new line
        refine absurd ?_ hne
        rw [spansAt_append, h.below.spansAt_eq_nil le_rfl, nil_append, spansAt_otherNew hat hj]
    · rw [hother hi] at hne ⊢
      exact h.described i j hne
  · intro hunk hhunk
    obtain ⟨hend, hdesc⟩ := h.hunks hunk hhunk
    refine ⟨Nat.le_succ_of_le hend, fun offset hoff => ?_⟩
    rw [hother (by omega)]
    exact hdesc offset hoff

theorem Spanned.broken_pair (hold : oldIndex < old.length) (hnew : newIndex < new.length)
    (hmore : SpansOf (pairAt old new oldIndex newIndex) more) : Broken old new (spans ++ more) :=
  ⟨oldIndex, newIndex, spans, more, rfl, ⟨h.below, h.described, by simp⟩, hold.le, hnew.le,
    .inr ⟨hold, hnew, hmore⟩⟩

end Pairs

/-! ## Hunks -/

section Hunks

variable {old new : List LineSlice} {hunks : List LineHunk} {spans : List InlineSpan}
  {oldStart oldEnd newStart newEnd : ℕ} {work : DiffWork}

theorem keepsSpans_appendLineChange (hunk : ℕ) (lines)
    (change : ℕ → LineSlice → LineChange) (index : ℕ) :
    Keeps (fun work => work.result.inlineSpans) (appendLineChange hunk lines change index) :=
  fun spans => (keeps_onBudget _ _ spans).bind fun _ => (keeps_reserve _ _ spans).bind fun _ =>
    (keeps_copy _ _ spans).bind fun _ => maintains_modify fun _ h => h

theorem keepsSpans_appendLineChanges (hunk : ℕ) (old new)
    (oldStart oldEnd newStart newEnd : ℕ) : Keeps (fun work => work.result.inlineSpans)
      (appendLineChanges hunk old new oldStart oldEnd newStart newEnd) :=
  fun spans => (Maintains.forM fun _ _ => keepsSpans_appendLineChange _ _ _ _ spans).bind fun _ =>
    Maintains.forM fun _ _ => keepsSpans_appendLineChange _ _ _ _ spans

variable [UnicodeSegmentation]

/-- The pairs of lines of a hunk, up to an offset. -/
def PairsDone (old new : List LineSlice) (hunks : List LineHunk) (oldStart newStart offset : ℕ)
    (spans : List InlineSpan) : Prop :=
  Spanned old new hunks spans (oldStart + offset) (newStart + offset) ∧
    ∀ k < offset, Describes (pairAt old new (oldStart + k) (newStart + k))
      (spansAt spans (oldStart + k) (newStart + k))

theorem PairsDone.succ {offset : ℕ} (h : PairsDone old new hunks oldStart newStart offset spans)
    {more} (hmore : Describes (pairAt old new (oldStart + offset) (newStart + offset)) more) :
    PairsDone old new hunks oldStart newStart (offset + 1) (spans ++ more) := by
  obtain ⟨hnext, hself⟩ := h.1.pair hmore
  refine ⟨hnext, fun k hk => ?_⟩
  by_cases hlast : k = offset
  · subst hlast
    rw [hself]
    exact hmore
  · have hat := SpansTo.isAt hmore.ordered
    rw [spansAt_append, spansAt_other hat (by omega), append_nil]
    exact h.2 k (by omega)

theorem appendPairs_spec (h : Spanned old new hunks work.result.inlineSpans oldStart newStart)
    {count : ℕ} (hold : oldStart + count ≤ old.length) (hnew : newStart + count ≤ new.length)
    (approximate : Bool) :
    Wp ((List.range count).foldlM (fun approximate offset => do
        let outcome ← appendInlineSpans (pairAt old new (oldStart + offset) (newStart + offset))
        pure (approximate || outcome)) approximate)
      (fun _ work' => PairsDone old new hunks oldStart newStart count work'.result.inlineSpans)
      (fun _ work' => Broken old new work'.result.inlineSpans) work := by
  have hrule := Wp.foldlM (R := fun (_ : PhaseStop) work' =>
    Broken old new work'.result.inlineSpans)
    (f := fun approximate offset => do
      let outcome ← appendInlineSpans (pairAt old new (oldStart + offset) (newStart + offset))
      pure (approximate || outcome))
    (P := fun rest (_ : Bool) work' => ∃ offset, offset ≤ count ∧
      rest = List.range' offset (count - offset) ∧
      PairsDone old new hunks oldStart newStart offset work'.result.inlineSpans)
    (fun approximate offset rest work' h => ?_) (List.range count) (a := approximate) (s := work)
    ⟨0, Nat.zero_le _, range_eq_range', h, by simp⟩
  · refine hrule.imp (fun _ work' h => ?_) fun _ _ h => h
    obtain ⟨offset, hle, hrest, hdone⟩ := h
    have hlen := congrArg List.length hrest
    rw [length_nil, length_range'] at hlen
    rwa [show offset = count by omega] at hdone
  · obtain ⟨index, hle, hrest, hdone⟩ := h
    have hlen := congrArg List.length hrest
    rw [length_cons, length_range'] at hlen
    rw [show count - index = (count - (index + 1)) + 1 by omega, range'_succ] at hrest
    obtain ⟨rfl, rfl⟩ := List.cons.inj hrest
    rw [wp_bind]
    refine (appendInlineSpans_spec _ work').imp (fun outcome work'' h => ?_) fun _ work'' h => ?_
    · obtain ⟨spans, hspans, hdescribes⟩ := h
      rw [wp_pure, hspans]
      exact ⟨offset + 1, by omega, rfl, hdone.succ hdescribes⟩
    · obtain ⟨spans, hspans, hord⟩ := h
      rw [hspans]
      exact hdone.1.broken_pair (by omega) (by omega) hord

theorem appendHunk_spanned
    (h : Spanned old new work.result.hunks work.result.inlineSpans oldStart newStart)
    (hold : oldStart ≤ oldEnd) (hnew : newStart ≤ newEnd) (holdEnd : oldEnd ≤ old.length)
    (hnewEnd : newEnd ≤ new.length) :
    Wp (appendHunk old new oldStart oldEnd newStart newEnd)
      (fun _ work' => Spanned old new work'.result.hunks work'.result.inlineSpans oldEnd newEnd)
      (fun _ work' => Broken old new work'.result.inlineSpans) work := by
  by_cases hsome : oldStart < oldEnd ∨ newStart < newEnd
  · have hbroken := h.broken (hold.trans holdEnd) (hnew.trans hnewEnd)
    -- the spans, apart from what the hunk quotes
    have hspans : Wp (appendHunk old new oldStart oldEnd newStart newEnd)
        (fun _ work' => PairsDone old new work.result.hunks oldStart newStart
          (min (oldEnd - oldStart) (newEnd - newStart)) work'.result.inlineSpans)
        (fun _ work' => Broken old new work'.result.inlineSpans) work := by
      unfold appendHunk
      rw [if_neg (by omega), wp_bind]
      refine ((keeps_reserve PromptDiff.inlineSpans _).wp work).imp (fun _ work₁ h₁ => ?_)
        fun _ work₁ h₁ => ?_
      · rw [wp_bind, wp_get, wp_bind, wp_set, wp_bind]
        refine ((keepsSpans_appendLineChanges _ _ _ _ _ _ _).wp _).imp (fun _ work₂ h₂ => ?_)
          fun _ work₂ h₂ => ?_
        · refine appendPairs_spec ?_ (by omega) (by omega) false
          rw [show work₂.result.inlineSpans = _ from h₂.trans h₁]
          exact h
        · rw [show work₂.result.inlineSpans = _ from h₂.trans h₁]
          exact hbroken
      · rw [show work₁.result.inlineSpans = _ from h₁]
        exact hbroken
    refine ((appendHunk_spec hsome holdEnd hnewEnd rfl).both hspans).imp (fun _ work' h' => ?_)
      fun _ _ h' => h'.2
    obtain ⟨hhunks, hdone⟩ := h'
    obtain ⟨hbelow, hdesc, hearlier⟩ :=
      hdone.1.mono (show _ ≤ oldEnd by omega) (show _ ≤ newEnd by omega)
    refine ⟨hbelow, hdesc, ?_⟩
    rw [hhunks]
    refine forall_mem_append.mpr ⟨hearlier, forall_mem_singleton.mpr ⟨?_, hdone.2⟩⟩
    exact (hunkOf_oldEnd hold).le
  · unfold appendHunk
    rw [if_pos (by omega), wp_pure]
    exact h.mono hold hnew

end Hunks

/-! ## The comparison of two bodies -/

section Diff

variable [UnicodeSegmentation]

theorem rounds_spanned (old new) : Rounds old new (fun oldIndex newIndex work =>
      Spanned old new work.result.hunks work.result.inlineSpans oldIndex newIndex)
    (fun work => Broken old new work.result.inlineSpans) where
  budget _ h := h
  brokenBudget _ h := h
  broken h hold hnew := h.broken hold hnew
  common h _ _ _ := h.mono (Nat.le_succ _) (Nat.le_succ _)
  hunk h hold hnew holdEnd hnewEnd := appendHunk_spanned h hold hnew holdEnd hnewEnd

variable [Externals]

theorem diffVersionsWithBudget_spanned (old new) (budget) :
    Broken (normalizedLines old) (normalizedLines new)
        (diffVersionsWithBudget old new budget).inlineSpans ∧
      ((diffVersionsWithBudget old new budget).status = .complete → ∃ i j,
        Spanned (normalizedLines old) (normalizedLines new)
          (diffVersionsWithBudget old new budget).hunks
          (diffVersionsWithBudget old new budget).inlineSpans i j) := by
  have hnil : Broken (normalizedLines old) (normalizedLines new) [] :=
    spanned_nil.broken (Nat.zero_le _) (Nat.zero_le _)
  have hends := diffVersionsWithBudget_ends old new budget
    (fun _ _ => rounds_spanned (normalizedLines old) (normalizedLines new))
    fun work h => by
      rw [h.hunks, h.spans]
      exact spanned_nil
  rcases hends with hinv | hcan | hended
  · rw [hinv]
    exact ⟨hnil, DiffStatus.noConfusion⟩
  · rw [hcan]
    exact ⟨hnil, DiffStatus.noConfusion⟩
  · generalize diffVersionsWithBudget old new budget = result at hended ⊢
    cases hended with
    | cancelled h | approximate h => exact ⟨h, DiffStatus.noConfusion⟩
    | truncated approximate h => exact ⟨h, fun hstatus => absurd hstatus finishTruncated_status⟩
    | complete h hp => exact ⟨h, fun _ => ⟨_, _, hp⟩⟩

/-- In a diff of two bodies, however it ends: every span is about a pair of their lines; the spans
of a pair have ranges of its clusters in order and apart; they describe the change of the
lines, but for the last pair that has spans, and in a complete diff for every pair of lines of
a hunk. A comparison of two lines that is not broken off always describes their change. -/
theorem inline_spans_describe (old new : List UInt8) (budget : DiffBudget) :
    (∀ span ∈ (diffVersionsWithBudget old new budget).inlineSpans, ∃ i j,
      i < (normalizedLines old).length ∧ j < (normalizedLines new).length ∧ span.IsAt i j) ∧
    (∀ i j, SpansOf (pairAt (normalizedLines old) (normalizedLines new) i j)
      (spansAt (diffVersionsWithBudget old new budget).inlineSpans i j)) ∧
    (∀ i j, spansAt (diffVersionsWithBudget old new budget).inlineSpans i j ≠ [] →
      ((diffVersionsWithBudget old new budget).status = .complete ∨
        ∃ i' j', i < i' ∧ spansAt (diffVersionsWithBudget old new budget).inlineSpans i' j' ≠ []) →
      Describes (pairAt (normalizedLines old) (normalizedLines new) i j)
        (spansAt (diffVersionsWithBudget old new budget).inlineSpans i j)) ∧
    ((diffVersionsWithBudget old new budget).status = .complete →
      ∀ hunk ∈ (diffVersionsWithBudget old new budget).hunks,
      ∀ offset < min hunk.oldCount hunk.newCount,
        Describes (pairAt (normalizedLines old) (normalizedLines new)
          (hunk.oldStart - 1 + offset) (hunk.newStart - 1 + offset))
          (spansAt (diffVersionsWithBudget old new budget).inlineSpans
            (hunk.oldStart - 1 + offset) (hunk.newStart - 1 + offset))) ∧
    ∀ pair work approximate work', runOn (appendInlineSpans pair) work = (.ok approximate, work') →
      ∃ spans, work'.result.inlineSpans = work.result.inlineSpans ++ spans ∧
        Describes pair spans := by
  obtain ⟨hbroken, hcomplete⟩ := diffVersionsWithBudget_spanned old new budget
  obtain ⟨oldIndex, newIndex, earlier, rest, hspans, hearlier, hold, hnew, hrest⟩ := hbroken
  have hres : ∀ span ∈ rest, span.IsAt oldIndex newIndex := by
    rcases hrest with rfl | ⟨-, -, hord⟩
    · simp
    · exact SpansTo.isAt hord
  -- the spans of a pair that is not the last one
  have hother : ∀ {i j : ℕ}, i ≠ oldIndex →
      spansAt (diffVersionsWithBudget old new budget).inlineSpans i j = spansAt earlier i j := by
    intro i j hi
    rw [hspans, spansAt_append, spansAt_other hres hi, append_nil]
  -- and of the last one
  have hlast : ∀ j, spansAt (diffVersionsWithBudget old new budget).inlineSpans oldIndex j =
      spansAt rest oldIndex j := by
    intro j
    rw [hspans, spansAt_append, hearlier.below.spansAt_eq_nil le_rfl, nil_append]
  refine ⟨?_, ?_, ?_, ?_, ?_⟩
  · rw [hspans]
    refine forall_mem_append.mpr ⟨fun span hspan => ?_, fun span hspan => ?_⟩
    · obtain ⟨i, j, hi, hj, hat⟩ := hearlier.below span hspan
      exact ⟨i, j, by omega, by omega, hat⟩
    · rcases hrest with rfl | ⟨hlt, hlt', -⟩
      · cases hspan
      · exact ⟨oldIndex, newIndex, hlt, hlt', hres span hspan⟩
  · intro i j
    by_cases hnil : spansAt (diffVersionsWithBudget old new budget).inlineSpans i j = []
    · rw [hnil]
      exact spansTo_nil
    by_cases hi : i = oldIndex
    · subst hi
      rw [hlast] at hnil ⊢
      rcases hrest with rfl | ⟨-, -, hord⟩
      · exact absurd rfl hnil
      · by_cases hj : j = newIndex
        · subst hj
          rw [spansAt_self hres]
          exact hord
        · exact absurd (spansAt_otherNew hres hj) hnil
    · rw [hother hi] at hnil ⊢
      exact (hearlier.described i j hnil).ordered
  · rintro i j hsome (hstatus | ⟨i', j', hlt, hsome'⟩)
    · obtain ⟨_, _, hall⟩ := hcomplete hstatus
      exact hall.described i j hsome
    · have hi : i ≠ oldIndex := by
        rintro rfl
        -- nothing is behind the last pair
        refine hsome' ?_
        rw [hother (by omega)]
        exact hearlier.below.spansAt_eq_nil hlt.le
      rw [hother hi] at hsome ⊢
      exact hearlier.described i j hsome
  · intro hstatus hunk hhunk
    obtain ⟨_, _, hall⟩ := hcomplete hstatus
    exact (hall.hunks hunk hhunk).2
  · intro pair work approximate work' hrun
    exact (appendInlineSpans_spec pair work).of_ok hrun

end Diff

section Sample

attribute [local instance] sampleExternals sampleSegmentation

def cancelledDiff : PromptDiff :=
  diffVersionsWithBudget [97] [98] (.default fun look => decide (26 ≤ look))

/-- Without the clusters of its one span, the lines of the pair are not the same. -/
theorem cancelledDiff_spans :
    spansAt cancelledDiff.inlineSpans 0 0 ≠ [] ∧
      outside (removedRanges (spansAt cancelledDiff.inlineSpans 0 0))
          (graphemes (pairAt (normalizedLines [97]) (normalizedLines [98]) 0 0).oldLine) ≠
        outside (addedRanges (spansAt cancelledDiff.inlineSpans 0 0))
          (graphemes (pairAt (normalizedLines [97]) (normalizedLines [98]) 0 0).newLine) := by
  decide +kernel

end Sample

end DevManager.Prompts
