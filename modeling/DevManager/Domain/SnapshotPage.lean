import DevManager.Lib.Bytes
import DevManager.Protocol.Chunk

/-!
# Pages of a snapshot (`src/domain/snapshot.rs`)

The bounds of a page, and the length that a page says of itself. The field `encoded_bytes` of a
page holds the length of the page's own MessagePack document, in which that field takes more bytes
the larger it is: the length is found by encoding the page again until the field is right.

The encoder is a parameter: what is used of `rmp_serde` is `SizedByWidth`.

* `sizePasses_settles`: the loop finds a length that is right, three changes of width after its
  start at the latest.
-/

namespace DevManager

/-! ## Limits -/

/-- The bounds of L133-134. -/
def maxSnapshotPageItems : ℕ := 1000
def maxSnapshotPageEncodedBytes : ℕ := 512 * 1024

/-- `PageLimitsError`, L297-302 -/
inductive PageLimitsError
  | zeroItems | tooManyItems | zeroEncodedBytes | tooManyEncodedBytes

/-- `PageLimits`, L326-329 -/
structure PageLimits where
  maxItems : ℕ
  maxEncodedBytes : ℕ
deriving DecidableEq

/-- `validate`, L357-371 -/
def PageLimits.validate (limits : PageLimits) : Except PageLimitsError Unit := do
  failIf (limits.maxItems = 0) .zeroItems
  failIf (limits.maxItems > maxSnapshotPageItems) .tooManyItems
  failIf (limits.maxEncodedBytes = 0) .zeroEncodedBytes
  failIf (limits.maxEncodedBytes > maxSnapshotPageEncodedBytes) .tooManyEncodedBytes

/-! ## The length of a page -/

/-- `CanonicalPageSizeError`, L501-506 -/
inductive CanonicalPageSizeError
  | encode (detail : String)
  | tooLarge (encodedBytes : ℕ)
  | didNotConverge
deriving DecidableEq

/-- `CANONICAL_PAGE_SIZE_MAX_PASSES`, L523 -/
def canonicalPageSizeMaxPasses : ℕ := 8

section PageSize

variable {T : Type} (toVecNamed : T → Except String (List UInt8)) (setEncodedBytes : T → ℕ → T)
  (page : T)

/-- The loop of `canonical_fixed_point_page_size` with `passes` passes to go
(L534-551). -/
def sizePasses : (passes encodedBytes : ℕ) → Except CanonicalPageSizeError ℕ
  | 0, _ => .error .didNotConverge
  | passes + 1, encodedBytes => do
    let encoded ← mapErr (toVecNamed (setEncodedBytes page encodedBytes)) .encode
    failIf (encoded.length > u32Max) (.tooLarge encoded.length)
    let actual := encoded.length
    if actual = encodedBytes then pure actual else sizePasses passes actual

/-- `canonical_fixed_point_page_size`, L525-552 -/
def canonicalFixedPointPageSize : Except CanonicalPageSizeError ℕ :=
  sizePasses toVecNamed setEncodedBytes page canonicalPageSizeMaxPasses 0

/-- The bytes that MessagePack gives to a `u32`. -/
def u32Width (n : ℕ) : ℕ :=
  if n < 2 ^ 7 then 1 else if n < 2 ^ 8 then 2 else if n < 2 ^ 16 then 3 else 5

/-- What `rmp_serde::to_vec_named` does of a struct with a `u32` field: the field takes the bytes
that its value needs, and the others do not depend on it. -/
def SizedByWidth : Prop :=
  ∀ page, ∃ others, ∀ n ≤ u32Max, ∀ encoded,
    toVecNamed (setEncodedBytes page n) = .ok encoded → encoded.length = others + u32Width n

/-- The page's document fits, whatever its `encoded_bytes` is set to. -/
def EncodedFits : Prop :=
  ∀ n ≤ u32Max, ∃ encoded, toVecNamed (setEncodedBytes page n) = .ok encoded ∧
    encoded.length ≤ u32Max

variable {toVecNamed setEncodedBytes page}

/-- The changes of width still possible above `n`. -/
def widerWidths (n : ℕ) : ℕ :=
  if n < 2 ^ 7 then 3 else if n < 2 ^ 8 then 2 else if n < 2 ^ 16 then 1 else 0

theorem u32Width_of_le {m n : ℕ} (h : m ≤ n) :
    u32Width m ≤ u32Width n ∧ (u32Width n = u32Width m ∨ widerWidths n < widerWidths m) := by
  unfold u32Width widerWidths
  split_ifs <;> omega

theorem sizePasses_succ (hfits : EncodedFits toVecNamed setEncodedBytes page) {others : ℕ}
    (hothers : ∀ n ≤ u32Max, ∀ encoded, toVecNamed (setEncodedBytes page n) = .ok encoded →
      encoded.length = others + u32Width n) {n : ℕ} (hn : n ≤ u32Max) (passes : ℕ) :
    others + u32Width n ≤ u32Max ∧
      sizePasses toVecNamed setEncodedBytes page (passes + 1) n =
        if others + u32Width n = n then .ok n
        else sizePasses toVecNamed setEncodedBytes page passes (others + u32Width n) := by
  obtain ⟨encoded, henc, hle⟩ := hfits n hn
  have hlen := hothers n hn encoded henc
  rw [hlen] at hle
  refine ⟨hle, ?_⟩
  rw [sizePasses, henc]
  show (failIf (encoded.length > u32Max) _ >>= _) = _
  rw [hlen, failIf_neg (by omega), ok_bind]
  by_cases hsame : others + u32Width n = n
  · simp [hsame, pure, Except.pure]
  · simp [hsame]

theorem sizePasses_settles (hfits : EncodedFits toVecNamed setEncodedBytes page) {others : ℕ}
    (hothers : ∀ n ≤ u32Max, ∀ encoded, toVecNamed (setEncodedBytes page n) = .ok encoded →
      encoded.length = others + u32Width n) (changes : ℕ) :
    ∀ n, n ≤ u32Max → n ≤ others + u32Width n → widerWidths n < changes →
      ∃ size ≤ u32Max, size = others + u32Width size ∧
        sizePasses toVecNamed setEncodedBytes page (changes + 1) n = .ok size := by
  induction changes with
  | zero =>
    intro n _ _ hchanges
    omega
  | succ changes ih =>
    intro n hn hgrows hchanges
    obtain ⟨hnext, hpass⟩ := sizePasses_succ hfits hothers hn (changes + 1)
    obtain ⟨-, hagain⟩ := sizePasses_succ hfits hothers hnext changes
    obtain ⟨hwidth, hwider⟩ := u32Width_of_le hgrows
    rw [hpass]
    by_cases hsame : others + u32Width n = n
    · exact ⟨n, hn, hsame.symm, if_pos hsame⟩
    rw [if_neg hsame]
    rcases hwider with hsettled | hwider
    · -- the next pass measures the same length again
      rw [hsettled, if_pos rfl] at hagain
      exact ⟨_, hnext, by rw [hsettled], hagain⟩
    · exact ih _ hnext (by omega) (by omega)

variable (hset : ∀ page m n, setEncodedBytes (setEncodedBytes page m) n = setEncodedBytes page n)

include hset

theorem sizePasses_setEncodedBytes
    (m passes : ℕ) : ∀ n, sizePasses toVecNamed setEncodedBytes (setEncodedBytes page m) passes n =
      sizePasses toVecNamed setEncodedBytes page passes n := by
  induction passes with
  | zero => exact fun _ => rfl
  | succ passes ih =>
    intro n
    simp only [sizePasses, hset, ih]

/-- The length of a page is found, it is the length of the page that carries it, and it does not
depend on the `encoded_bytes` that the page carried. -/
theorem canonicalFixedPointPageSize_eq (hsized : SizedByWidth toVecNamed setEncodedBytes)
    (hfits : EncodedFits toVecNamed setEncodedBytes page) :
    ∃ n, canonicalFixedPointPageSize toVecNamed setEncodedBytes page = .ok n ∧
      (∃ encoded, toVecNamed (setEncodedBytes page n) = .ok encoded ∧ encoded.length = n) ∧
      ∀ m, canonicalFixedPointPageSize toVecNamed setEncodedBytes (setEncodedBytes page m) =
        .ok n := by
  obtain ⟨others, hothers⟩ := hsized page
  have hstart : widerWidths 0 < canonicalPageSizeMaxPasses - 1 := by decide
  obtain ⟨n, hn, hfixed, hsize⟩ := sizePasses_settles hfits hothers
    (canonicalPageSizeMaxPasses - 1) 0 (Nat.zero_le _) (Nat.zero_le _) hstart
  obtain ⟨encoded, henc, -⟩ := hfits n hn
  refine ⟨n, hsize, ⟨encoded, henc, ?_⟩, fun m => ?_⟩
  · rw [hothers n hn encoded henc, ← hfixed]
  · unfold canonicalFixedPointPageSize
    rw [sizePasses_setEncodedBytes hset]
    exact hsize

end PageSize

/-! ## The pages of the source -/

structure Page (Others : Type) where
  others : Others
  encodedBytes : ℕ

/-- `canonical_snapshot_page_size`, `canonical_semantic_page_size` and
`canonical_artifact_content_page_size` (L554-566, L578-584). -/
def canonicalPageSize {Others : Type} (toVecNamed : Page Others → Except String (List UInt8))
    (page : Page Others) : Except CanonicalPageSizeError ℕ :=
  canonicalFixedPointPageSize toVecNamed
    (fun page encodedBytes => { page with encodedBytes }) page

def u32Bytes (n : ℕ) : List UInt8 :=
  if n < 2 ^ 7 then beBytes 1 n
  else if n < 2 ^ 8 then 0xcc :: beBytes 1 n
  else if n < 2 ^ 16 then 0xcd :: beBytes 2 n
  else 0xce :: beBytes 4 n

theorem length_u32Bytes (n : ℕ) : (u32Bytes n).length = u32Width n := by
  unfold u32Bytes u32Width
  split_ifs <;> simp

/-- A page whose other fields take 127 bytes: with its length it takes 129. -/
theorem canonicalPageSize_sample :
    let toVecNamed : Page (List UInt8) → Except String (List UInt8) :=
      fun page => .ok (page.others ++ u32Bytes page.encodedBytes)
    ∃ n, canonicalPageSize toVecNamed ⟨List.replicate 127 0, 0⟩ = .ok n ∧
      (∃ encoded, toVecNamed ⟨List.replicate 127 0, n⟩ = .ok encoded ∧ encoded.length = n) ∧
      ∀ m, canonicalPageSize toVecNamed ⟨List.replicate 127 0, m⟩ = .ok n := by
  have hlen : ∀ others n,
      (others ++ u32Bytes n).length = others.length + u32Width n := by
    intro others n
    rw [List.length_append, length_u32Bytes]
  refine canonicalFixedPointPageSize_eq (fun _ _ _ => rfl) ?_ ?_
  · refine fun page => ⟨page.others.length, fun n _ encoded henc => ?_⟩
    cases henc
    exact hlen _ n
  · refine fun n hn => ⟨_, rfl, ?_⟩
    have hwidth : u32Width n ≤ 5 := by
      unfold u32Width
      split_ifs <;> omega
    have hmax : 132 ≤ u32Max := by decide
    calc _ = 127 + u32Width n := by rw [hlen, List.length_replicate]
      _ ≤ u32Max := by omega

end DevManager
