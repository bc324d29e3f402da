import DevManager.Prompts.Diff
import Mathlib.Data.List.GetD

/-!
# The lines and clusters that a diff compares

What the functions under a budget return, when the budget lasts: a body is cut into the lines of
the normalized body, equal lines are found to be equal, and a line is cut into clusters with their
places.

* `scanNormalizedLines_spec`: the scan of a body.
* `linesEqual_spec`, `graphemesEqual_spec`: the comparison in chunks.
* `findLineAnchor_spec`, `findGraphemeAnchor_spec`: an anchor is further on.
* `collectGraphemes_spec`: the clusters of a line.
-/

namespace DevManager.Prompts

open List LineSlice

/-! ## Normalized bodies -/

/-- The body with CRLF folded to LF. -/
def normalizeBody : List UInt8 → List UInt8
  | [] => []
  | [byte] => [byte]
  | byte :: next :: rest =>
    if byte = 13 ∧ next = 10 then normalizeBody (next :: rest)
    else byte :: normalizeBody (next :: rest)

/-- The lines of a text behind the open line `carry`. -/
def linesFrom : List UInt8 → List UInt8 → List LineSlice
  | carry, [] => if carry = [] then [] else [⟨carry, false⟩]
  | carry, byte :: rest =>
    if byte = 10 then ⟨carry, true⟩ :: linesFrom [] rest else linesFrom (carry ++ [byte]) rest

/-- The lines of the normalized body. -/
def normalizedLines (body : List UInt8) : List LineSlice := linesFrom [] (normalizeBody body)

/-- The bytes of a line. -/
def LineSlice.bytes (line : LineSlice) : List UInt8 :=
  line.text ++ if line.terminated then [10] else []

theorem flatMap_linesFrom (carry body) :
    (linesFrom carry body).flatMap bytes = carry ++ body := by
  induction body generalizing carry with
  | nil =>
    unfold linesFrom
    split_ifs with hcarry
    · simp [hcarry]
    · simp [bytes]
  | cons byte rest ih =>
    unfold linesFrom
    split_ifs with hbyte
    · rw [flatMap_cons, ih, hbyte]
      simp [bytes]
    · rw [ih, append_assoc, singleton_append]

theorem normalizedLines_inj {old new : List UInt8} :
    normalizedLines old = normalizedLines new ↔ normalizeBody old = normalizeBody new := by
  constructor
  · intro h
    have hbytes := congrArg (List.flatMap bytes) h
    rwa [normalizedLines, normalizedLines, flatMap_linesFrom, flatMap_linesFrom, nil_append,
      nil_append] at hbytes
  · intro h
    rw [normalizedLines, normalizedLines, h]

theorem linesFrom_append {text : List UInt8} (htext : 10 ∉ text) (carry rest) :
    linesFrom carry (text ++ rest) = linesFrom (carry ++ text) rest := by
  induction text generalizing carry with
  | nil => rw [nil_append, append_nil]
  | cons byte text ih =>
    rw [mem_cons, not_or] at htext
    have hbyte : byte ≠ 10 := fun h => htext.1 h.symm
    rw [cons_append, linesFrom, if_neg hbyte, ih htext.2, append_assoc, singleton_append]

theorem linesFrom_flatMap {lines : List LineSlice}
    (hlines : ∀ line ∈ lines, line.terminated = true ∧ 10 ∉ line.text) (rest) :
    linesFrom [] (lines.flatMap bytes ++ rest) = lines ++ linesFrom [] rest := by
  induction lines with
  | nil => rfl
  | cons line lines ih =>
    rw [forall_mem_cons] at hlines
    obtain ⟨⟨hterminated, htext⟩, hlines⟩ := hlines
    rw [flatMap_cons, bytes, hterminated, if_pos rfl, append_assoc,
      append_assoc, linesFrom_append htext, nil_append, singleton_append, linesFrom,
      if_pos rfl, ih hlines, ← hterminated]
    rfl

theorem normalizeBody_append : ∀ {first : List UInt8} (second : List UInt8),
    (first = [] ∨ first.getLast? = some 10) →
      normalizeBody (first ++ second) = normalizeBody first ++ normalizeBody second
  | [], _, _ => rfl
  | [byte], [], _ => rfl
  | [byte], next :: rest, h => by
    have hbyte : byte = 10 := by simpa using h
    have hne : ¬ (byte = 13 ∧ next = 10) := by
      rintro ⟨hmade, -⟩
      rw [hbyte] at hmade
      cases hmade
    show normalizeBody (byte :: next :: rest) = byte :: normalizeBody (next :: rest)
    rw [normalizeBody, if_neg hne]
  | byte :: next :: first, second, h => by
    have hlast : (next :: first).getLast? = some 10 := by simpa using h
    have ih := @normalizeBody_append (next :: first) second (.inr hlast)
    rw [cons_append, cons_append, normalizeBody, normalizeBody, ← cons_append, ih]
    split_ifs <;> rfl

theorem normalizeBody_of_not_mem : ∀ {text : List UInt8}, 10 ∉ text → normalizeBody text = text
  | [], _ => rfl
  | [byte], _ => rfl
  | byte :: next :: rest, h => by
    rw [mem_cons, not_or] at h
    have hne : ¬ (byte = 13 ∧ next = 10) := by
      rintro ⟨-, rfl⟩
      exact h.2 (.head _)
    rw [normalizeBody, if_neg hne, normalizeBody_of_not_mem h.2]

theorem normalizeBody_line : ∀ {text : List UInt8}, 10 ∉ text →
    normalizeBody (text ++ [10]) = (if text.getLast? = some 13 then text.dropLast else text) ++ [10]
  | [], _ => rfl
  | [byte], h => by
    rw [singleton_append, normalizeBody]
    simp only [and_true, getLast?_singleton, Option.some.injEq]
    split_ifs <;> rfl
  | byte :: next :: rest, h => by
    rw [mem_cons, not_or] at h
    have hne : ¬ (byte = 13 ∧ next = 10) := by
      rintro ⟨-, rfl⟩
      exact h.2 (.head _)
    rw [cons_append, cons_append, normalizeBody, if_neg hne, ← cons_append,
      normalizeBody_line h.2, getLast?_cons_cons, dropLast_cons_cons]
    split_ifs <;> rfl

/-! ## Chunks -/

theorem chunks_flatten {size : ℕ} (hsize : 0 < size) (bytes) :
    (chunks size bytes).flatten = bytes := by
  have htake : ∀ count, ((List.range count).map fun k =>
      (bytes.drop (k * size)).take size).flatten = bytes.take (count * size) := by
    intro count
    induction count with
    | zero => simp
    | succ count ih =>
      rw [range_succ, map_append, flatten_append, ih, Nat.succ_mul, take_add]
      simp
  unfold chunks
  rw [htake]
  apply take_of_length_le
  have hdiv := Nat.div_add_mod (bytes.length + size - 1) size
  have hmodes := Nat.mod_lt (bytes.length + size - 1) hsize
  rw [Nat.mul_comm] at hdiv
  omega

theorem length_chunks (size : ℕ) (bytes) :
    (chunks size bytes).length = (bytes.length + size - 1) / size := by
  simp [chunks]

theorem eq_of_forall_zip {α : Type} : ∀ {xs ys : List α}, xs.length = ys.length →
    (∀ p ∈ xs.zip ys, p.1 = p.2) → xs = ys
  | [], [], _, _ => rfl
  | x :: xs, y :: ys, hlen, h => by
    rw [zip_cons_cons, forall_mem_cons] at h
    have hrest := eq_of_forall_zip (Nat.succ.inj hlen) h.2
    rw [show x = y from h.1, hrest]

theorem forall_zip_self {α : Type} (xs : List α) : ∀ p ∈ xs.zip xs, p.1 = p.2 := by
  induction xs with
  | nil => simp
  | cons x xs ih =>
    rw [zip_cons_cons, forall_mem_cons]
    exact ⟨rfl, ih⟩

section Budgets

variable {budget : DiffBudget}

theorem chunksEqual_spec (pairs) : ∀ {budget : DiffBudget},
    Wp (chunksEqual pairs) (fun same _ => same = true ↔ ∀ p ∈ pairs, p.1 = p.2) (fun _ _ => True)
      budget := by
  induction pairs with
  | nil =>
    intro budget
    simp [chunksEqual]
  | cons pair pairs ih =>
    intro budget
    unfold chunksEqual
    rw [wp_bind]
    refine Wp.of_forall (fun _ budget => ?_) fun _ _ => trivial
    rw [forall_mem_cons, wp_ite]
    refine ⟨fun heq => ?_, fun hne => ?_⟩
    · simpa [heq] using ih
    · simp [hne]

theorem chunksEqual_texts {old new : List UInt8} (hlen : old.length = new.length) :
    Wp (chunksEqual ((chunks workChunkBytes old).zip (chunks workChunkBytes new)))
      (fun same _ => same = true ↔ old = new) (fun _ _ => True) budget := by
  refine (chunksEqual_spec _).imp (fun same _ h => h.trans ?_) fun _ _ h => h
  constructor
  · intro hall
    have hchunks : (chunks workChunkBytes old).length = (chunks workChunkBytes new).length := by
      rw [length_chunks, length_chunks, hlen]
    have htext := congrArg List.flatten (eq_of_forall_zip hchunks hall)
    rwa [chunks_flatten (by decide), chunks_flatten (by decide)] at htext
  · rintro rfl
    exact forall_zip_self _

theorem linesEqual_spec (old new) :
    Wp (linesEqual old new) (fun same _ => same = true ↔ old = new) (fun _ _ => True) budget := by
  unfold linesEqual
  rw [wp_bind]
  refine Wp.of_forall (fun _ budget => ?_) fun _ _ => trivial
  rw [wp_ite]
  refine ⟨fun hdiffer => ?_, fun hsame => ?_⟩
  · rw [wp_pure]
    refine iff_of_false Bool.false_ne_true ?_
    rintro rfl
    simp at hdiffer
  · rw [not_or, not_not, not_not] at hsame
    refine (chunksEqual_texts hsame.2).imp (fun same _ h => h.trans ?_) fun _ _ h => h
    cases old
    cases new
    simp_all

/-! ## The scan -/

/-- What the scan knows at byte `index` of the body. -/
structure Scanned (body : List UInt8) (index : ℕ) (scan : List LineSlice × ℕ) : Prop where
  start : scan.2 ≤ index
  cut : body.take scan.2 = [] ∨ (body.take scan.2).getLast? = some 10
  open_ : 10 ∉ slice body scan.2 index
  lines : ∀ line ∈ scan.1, line.terminated = true ∧ 10 ∉ line.text
  bytes : scan.1.flatMap LineSlice.bytes = normalizeBody (body.take scan.2)

theorem slice_succ {α : Type} {items : List α} {start stop : ℕ} (h : start ≤ stop) {item : α}
    (hitem : items[stop]? = some item) :
    slice items start (stop + 1) = slice items start stop ++ [item] := by
  obtain ⟨hlt, rfl⟩ := List.getElem?_eq_some_iff.mp hitem
  unfold slice
  rw [take_succ_eq_append_getElem hlt, drop_append_of_le_length]
  rw [length_take]
  omega

theorem take_append_slice {α : Type} (items : List α) {start stop : ℕ} (h : start ≤ stop) :
    items.take start ++ slice items start stop = items.take stop := by
  unfold slice
  have htake : items.take start = (items.take stop).take start := by
    rw [take_take, min_eq_left h]
  rw [htake, take_append_drop]

theorem slice_textEnd {body : List UInt8} {start index : ℕ} (hstart : start ≤ index)
    (hidx : index < body.length) :
    slice body start (if index > start ∧ body[index - 1]? = some 13 then index - 1 else index) =
      if (slice body start index).getLast? = some 13 then (slice body start index).dropLast
      else slice body start index := by
  by_cases hempty : index = start
  · subst hempty
    rw [if_neg (by omega)]
    have hnil : slice body index index = [] := by
      unfold slice
      apply drop_eq_nil_of_le
      rw [length_take]
      omega
    rw [hnil]
    rfl
  · have hlt : start < index := by omega
    have hprev : index - 1 < body.length := by omega
    have hsnoc : slice body start index = slice body start (index - 1) ++ [body[index - 1]] := by
      have hsucc := @slice_succ _ body start (index - 1) (by omega) _
        (getElem?_eq_getElem hprev)
      rwa [Nat.sub_add_cancel (by omega)] at hsucc
    rw [hsnoc, getLast?_concat, dropLast_concat, getElem?_eq_getElem hprev]
    by_cases hmade : body[index - 1] = 13
    · rw [if_pos ⟨hlt, by rw [hmade]⟩, if_pos (by rw [hmade])]
    · rw [if_neg (by simpa using fun _ => hmade), if_neg (by simpa using hmade), hsnoc]

theorem scanByte_spec {body : List UInt8} {index : ℕ} {scan : List LineSlice × ℕ} {byte : UInt8}
    (h : Scanned body index scan) (hbyte : body[index]? = some byte) :
    Wp (scanByte body scan (byte, index)) (fun scan' _ => Scanned body (index + 1) scan')
      (fun _ _ => True) budget := by
  obtain ⟨hidx, -⟩ := List.getElem?_eq_some_iff.mp hbyte
  unfold scanByte
  rw [wp_bind]
  refine Wp.of_forall (fun _ budget => ?_) fun _ _ => trivial
  rw [wp_ite]
  have hsnoc := slice_succ h.start hbyte
  refine ⟨fun hbreak => ?_, fun hother => ?_⟩
  · have htenant : byte = 10 := hbreak
    subst htenant
    rw [wp_pure, slice_textEnd h.start hidx]
    have htake : body.take (index + 1) = body.take scan.2 ++ (slice body scan.2 index ++ [10]) := by
      rw [← hsnoc, take_append_slice body (Nat.le_succ_of_le h.start)]
    have hnil : slice body (index + 1) (index + 1) = [] := by
      unfold slice
      exact drop_eq_nil_of_le (length_take_le _ _)
    refine ⟨le_rfl, .inr ?_, ?_, ?_, ?_⟩
    · rw [htake, ← append_assoc, getLast?_concat]
    · show 10 ∉ slice body (index + 1) (index + 1)
      rw [hnil]
      exact not_mem_nil
    · intro line hline
      rcases mem_append.mp hline with hline | hline
      · exact h.lines line hline
      · rw [mem_singleton.mp hline]
        refine ⟨rfl, fun hmem => h.open_ ?_⟩
        dsimp only at hmem
        split_ifs at hmem
        · exact mem_of_mem_dropLast hmem
        · exact hmem
    · show (scan.1 ++ [_]).flatMap bytes = normalizeBody (body.take (index + 1))
      rw [htake, normalizeBody_append _ h.cut, normalizeBody_line h.open_, flatMap_append,
        h.bytes, flatMap_singleton]
      rfl
  · rw [wp_pure]
    have hne : byte ≠ 10 := hother
    refine ⟨Nat.le_succ_of_le h.start, h.cut, ?_, h.lines, h.bytes⟩
    rw [hsnoc, mem_append, mem_singleton, not_or]
    exact ⟨h.open_, fun heq => hne heq.symm⟩

theorem scanNormalizedLines_spec (body) :
    Wp (scanNormalizedLines body) (fun lines _ => lines = normalizedLines body) (fun _ _ => True)
      budget := by
  unfold scanNormalizedLines
  rw [wp_bind]
  refine Wp.of_forall (fun _ budget => ?_) fun _ _ => trivial
  rw [wp_bind]
  have hstart : Scanned body 0 ([], 0) := ⟨le_rfl, .inl (by simp), by simp [slice], by simp, rfl⟩
  have hloop : Wp (body.zipIdx.foldlM (scanByte body) ([], 0))
      (fun scan _ => Scanned body body.length scan) (fun _ _ => True) budget := by
    have hrule := Wp.foldlM (R := fun _ _ => True) (f := scanByte body)
      (P := fun rest scan (_ : DiffBudget) => ∃ index,
        rest = (body.drop index).zipIdx index ∧ index ≤ body.length ∧ Scanned body index scan)
      (fun scan entry rest budget hinv => ?_) body.zipIdx
      (a := ([], 0)) (s := budget) ⟨0, by simp, Nat.zero_le _, hstart⟩
    · refine hrule.imp (fun scan _ hinv => ?_) fun _ _ h => h
      obtain ⟨index, hrest, hle, hscanned⟩ := hinv
      have hnil : body.drop index = [] := zipIdx_eq_nil_iff.mp hrest.symm
      have hend : index = body.length := le_antisymm hle (drop_eq_nil_iff.mp hnil)
      exact hend ▸ hscanned
    · obtain ⟨index, hrest, hle, hscanned⟩ := hinv
      have hlt : index < body.length := by
        refine lt_of_le_of_ne hle fun heq => ?_
        rw [heq, drop_length] at hrest
        cases hrest
      rw [drop_eq_getElem_cons hlt, zipIdx_cons] at hrest
      obtain ⟨rfl, rfl⟩ := List.cons.inj hrest
      refine (scanByte_spec hscanned (getElem?_eq_getElem hlt)).imp
        (fun scan' _ h => ⟨index + 1, rfl, hlt, h⟩) fun _ _ h => h
  refine hloop.imp (fun scan budget h => ?_) fun _ _ h => h
  have hall : body.take scan.2 ++ body.drop scan.2 = body := take_append_drop _ _
  have hrest : slice body scan.2 body.length = body.drop scan.2 := by
    rw [slice, take_length]
  have hopen : 10 ∉ body.drop scan.2 := hrest ▸ h.open_
  have hlines : normalizedLines body = scan.1 ++ linesFrom [] (body.drop scan.2) := by
    rw [normalizedLines]
    conv_lhs => rw [← hall]
    rw [normalizeBody_append _ h.cut, ← h.bytes, normalizeBody_of_not_mem hopen,
      linesFrom_flatMap h.lines]
  have htail : linesFrom [] (body.drop scan.2) =
      if body.drop scan.2 = [] then [] else [⟨body.drop scan.2, false⟩] := by
    have hread := linesFrom_append hopen [] []
    rw [append_nil, nil_append] at hread
    rw [hread]
    rfl
  rw [wp_ite]
  refine ⟨fun hlt => ?_, fun hget => ?_⟩
  · rw [wp_bind]
    refine Wp.of_forall (fun _ _ => ?_) fun _ _ => trivial
    have hne : body.drop scan.2 ≠ [] := by
      rw [ne_eq, drop_eq_nil_iff]
      omega
    rw [wp_pure, hlines, htail, if_neg hne]
  · have hnil : body.drop scan.2 = [] := drop_eq_nil_of_le (by omega)
    rw [wp_pure, hlines, htail, if_pos hnil, append_nil]

theorem scanBodies_spec (old new) :
    Wp (do
      let oldLines ← scanNormalizedLines old
      let newLines ← scanNormalizedLines new
      pure (oldLines, newLines))
      (fun lines _ => lines = (normalizedLines old, normalizedLines new)) (fun _ _ => True)
      budget := by
  rw [wp_bind]
  refine (scanNormalizedLines_spec old).imp (fun oldLines _ hold => ?_) fun _ _ h => h
  rw [wp_bind]
  refine (scanNormalizedLines_spec new).imp (fun newLines _ hnew => ?_) fun _ _ h => h
  rw [wp_pure, hold, hnew]

/-! ## Anchors -/

theorem mem_anchorOffsets {oldSpan newSpan : ℕ} {offset : ℕ × ℕ}
    (h : offset ∈ anchorOffsets oldSpan newSpan) :
    0 < offset.1 + offset.2 ∧ offset.1 ≤ oldSpan - 1 ∧ offset.2 ≤ newSpan - 1 := by
  unfold anchorOffsets at h
  rw [mem_flatMap] at h
  obtain ⟨score, hscore, hoff⟩ := h
  obtain ⟨oldOffset, hold, rfl⟩ := mem_map.mp hoff
  rw [mem_range'_1] at hscore hold
  show 0 < oldOffset + (score - oldOffset) ∧ oldOffset ≤ oldSpan - 1 ∧
    score - oldOffset ≤ newSpan - 1
  omega

theorem searchAnchor_spec {equal : ℕ → ℕ → Budgeted Bool} {oldStart newStart : ℕ}
    (offsets) : ∀ {budget : DiffBudget},
    Wp (searchAnchor equal oldStart newStart offsets)
      (fun anchor _ => ∀ p, anchor = some p → ∃ offset ∈ offsets,
        p = (oldStart + offset.1, newStart + offset.2)) (fun _ _ => True) budget := by
  induction offsets with
  | nil =>
    intro budget
    simp [searchAnchor]
  | cons offset offsets ih =>
    intro budget
    unfold searchAnchor
    rw [wp_bind]
    refine Wp.of_forall (fun _ budget => ?_) fun _ _ => trivial
    rw [wp_bind]
    refine Wp.of_forall (fun same budget => ?_) fun _ _ => trivial
    rw [wp_ite]
    refine ⟨fun _ => ?_, fun _ => ?_⟩
    · rw [wp_pure]
      intro p hp
      exact ⟨offset, .head _, (Option.some.inj hp).symm⟩
    · refine ih.imp (fun anchor _ h p hp => ?_) fun _ _ h => h
      obtain ⟨found, hfound, heq⟩ := h p hp
      exact ⟨found, .tail _ hfound, heq⟩

/-- An anchor lies inside both sequences, behind the mismatch. -/
def AnchorAfter (oldLength newLength oldIndex newIndex : ℕ) (anchor : ℕ × ℕ) : Prop :=
  oldIndex ≤ anchor.1 ∧ newIndex ≤ anchor.2 ∧ oldIndex + newIndex < anchor.1 + anchor.2 ∧
    anchor.1 < oldLength ∧ anchor.2 < newLength

theorem anchorAfter_of_mem {oldLength newLength oldIndex newIndex window : ℕ} {offset : ℕ × ℕ}
    (hold : oldIndex < oldLength) (hnew : newIndex < newLength) (hwindow : 0 < window)
    (h : offset ∈ anchorOffsets (min (oldIndex + window) oldLength - oldIndex)
      (min (newIndex + window) newLength - newIndex)) :
    AnchorAfter oldLength newLength oldIndex newIndex
      (oldIndex + offset.1, newIndex + offset.2) := by
  have hoff := mem_anchorOffsets h
  unfold AnchorAfter
  dsimp only
  omega

theorem anchor_getD {anchor : Option (ℕ × ℕ)} {oldLength newLength oldIndex newIndex : ℕ}
    (hold : oldIndex < oldLength) (hnew : newIndex < newLength)
    (h : ∀ p, anchor = some p → AnchorAfter oldLength newLength oldIndex newIndex p) :
    oldIndex ≤ (anchor.getD (oldLength, newLength)).1 ∧
      newIndex ≤ (anchor.getD (oldLength, newLength)).2 ∧
      (anchor.getD (oldLength, newLength)).1 ≤ oldLength ∧
      (anchor.getD (oldLength, newLength)).2 ≤ newLength := by
  cases anchor with
  | none => exact ⟨hold.le, hnew.le, le_rfl, le_rfl⟩
  | some p =>
    obtain ⟨hle, hle', -, hlt, hlt'⟩ := h p rfl
    exact ⟨hle, hle', hlt.le, hlt'.le⟩

theorem findLineAnchor_spec {old new : List LineSlice} {oldIndex newIndex : ℕ}
    (hold : oldIndex < old.length) (hnew : newIndex < new.length) :
    Wp (findLineAnchor old new oldIndex newIndex) (fun anchor _ => ∀ p, anchor = some p →
        AnchorAfter old.length new.length oldIndex newIndex p) (fun _ _ => True) budget := by
  refine (searchAnchor_spec _).imp (fun anchor _ h p hp => ?_) fun _ _ h => h
  obtain ⟨offset, hoff, rfl⟩ := h p hp
  exact anchorAfter_of_mem hold hnew (by decide) hoff

end Budgets

/-! ## Clusters with their places -/

/-- Clusters with the bytes they start and end at. -/
def placed : ℕ → List (List UInt8) → List GraphemeSlice
  | _, [] => []
  | start, text :: texts => ⟨text, start, start + text.length⟩ :: placed (start + text.length) texts

theorem length_placed (start : ℕ) (texts) :
    (placed start texts).length = texts.length := by
  induction texts generalizing start with
  | nil => rfl
  | cons text texts ih => rw [placed, length_cons, length_cons, ih]

theorem placed_append (start : ℕ) (texts more) :
    placed start (texts ++ more) = placed start texts ++
      placed (start + texts.flatten.length) more := by
  induction texts generalizing start with
  | nil => rfl
  | cons text texts ih =>
    rw [cons_append, placed, placed, ih, cons_append, flatten_cons, length_append, Nat.add_assoc]

theorem placed_getD {texts : List (List UInt8)} {index : ℕ} (h : index < texts.length) :
    (placed 0 texts).getD index default =
      ⟨texts[index], (texts.take index).flatten.length,
        (texts.take (index + 1)).flatten.length⟩ := by
  have hsplit : texts = texts.take index ++ texts[index] :: texts.drop (index + 1) := by
    rw [getElem_cons_drop, take_append_drop]
  have hlen : (placed 0 (texts.take index)).length = index := by
    rw [length_placed, length_take, min_eq_left h.le]
  have hplaced := placed_append 0 (texts.take index) (texts[index] :: texts.drop (index + 1))
  rw [← hsplit, placed, Nat.zero_add] at hplaced
  rw [hplaced, getD_append_right _ _ _ _ hlen.le, hlen, Nat.sub_self,
    take_succ_eq_append_getElem h, flatten_append, length_append]
  simp

section Clusters

variable {budget : DiffBudget}

theorem graphemesEqual_spec (old new) :
    Wp (graphemesEqual old new) (fun same _ => same = true ↔ old.text = new.text) (fun _ _ => True)
      budget := by
  unfold graphemesEqual
  rw [wp_bind]
  refine Wp.of_forall (fun _ budget => ?_) fun _ _ => trivial
  rw [wp_ite]
  refine ⟨fun hdiffer => ?_, fun hsame => chunksEqual_texts (not_not.mp hsame)⟩
  rw [wp_pure]
  refine iff_of_false Bool.false_ne_true fun heq => hdiffer ?_
  rw [heq]

theorem findGraphemeAnchor_spec {old new : List GraphemeSlice} {oldIndex newIndex : ℕ}
    (hold : oldIndex < old.length) (hnew : newIndex < new.length) :
    Wp (findGraphemeAnchor old new oldIndex newIndex) (fun anchor _ => ∀ p, anchor = some p →
        AnchorAfter old.length new.length oldIndex newIndex p) (fun _ _ => True) budget := by
  refine (searchAnchor_spec _).imp (fun anchor _ h p hp => ?_) fun _ _ h => h
  obtain ⟨offset, hoff, rfl⟩ := h p hp
  exact anchorAfter_of_mem hold hnew (by decide) hoff

variable [UnicodeSegmentation]

theorem countGraphemes_spec (line) :
    Wp (countGraphemes line)
      (fun _ _ => (UnicodeSegmentation.graphemes line).length ≤ maxPromptDiffGraphemeCount)
      (fun _ _ => True) budget := by
  have hrule := Wp.foldlM (R := fun (_ : BudgetStop) (_ : DiffBudget) => True)
    (f := fun count (text : List UInt8) => do
      checkpoint (max text.length 1)
      let count := saturatingAdd count 1
      refuseIf (count > maxPromptDiffGraphemeCount) BudgetStop.workLimit
      pure count)
    (P := fun rest count _ => count ≤ maxPromptDiffGraphemeCount ∧
      count + rest.length = (UnicodeSegmentation.graphemes line).length)
    (fun count text rest budget h => ?_) (UnicodeSegmentation.graphemes line) (a := 0)
    (s := budget) ⟨Nat.zero_le _, Nat.zero_add _⟩
  · refine hrule.imp (fun count _ h => ?_) fun _ _ h => h
    obtain ⟨hle, hcount⟩ := h
    rw [length_nil, Nat.add_zero] at hcount
    omega
  · obtain ⟨hle, hcount⟩ := h
    rw [wp_bind]
    refine Wp.of_forall (fun _ budget => ?_) fun _ _ => trivial
    dsimp only
    rw [wp_bind, wp_refuseIf]
    refine ⟨fun _ => trivial, fun hroom => ?_⟩
    have hnext : saturatingAdd count 1 = count + 1 := by
      refine min_eq_left (le_trans (Nat.succ_le_succ hle) ?_)
      decide
    rw [wp_pure, hnext]
    rw [hnext] at hroom
    rw [length_cons] at hcount
    omega

theorem collectGraphemes_spec (line) :
    Wp (collectGraphemes line)
      (fun graphemes _ => graphemes = placed 0 (UnicodeSegmentation.graphemes line) ∧
        graphemes.length ≤ maxPromptDiffGraphemeCount)
      (fun _ _ => True) budget := by
  unfold collectGraphemes
  rw [wp_bind]
  refine (countGraphemes_spec line).imp (fun _ budget hcount => ?_) fun _ _ h => h
  rw [wp_bind]
  have hrule := Wp.foldlM (R := fun (_ : BudgetStop) (_ : DiffBudget) => True)
    (f := fun scan text => do
      checkpoint text.length
      pure (scan.1 ++ [(⟨text, scan.2, scan.2 + text.length⟩ : GraphemeSlice)],
        scan.2 + text.length))
    (P := fun rest scan _ =>
      scan.1 ++ placed scan.2 rest = placed 0 (UnicodeSegmentation.graphemes line))
    (fun scan text rest budget h => ?_) (UnicodeSegmentation.graphemes line) (a := ([], 0))
    (s := budget) (nil_append _)
  · refine hrule.imp (fun scan _ h => ?_) fun _ _ h => h
    rw [placed, append_nil] at h
    rw [wp_pure, h, length_placed]
    exact ⟨rfl, hcount⟩
  · rw [wp_bind]
    refine Wp.of_forall (fun _ _ => ?_) fun _ _ => trivial
    rw [wp_pure, append_assoc]
    exact h

end Clusters

end DevManager.Prompts
