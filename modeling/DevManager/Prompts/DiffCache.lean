import DevManager.Lib.Calls
import DevManager.Lib.Keyed
import DevManager.Prompts.DiffPayload

/-!
# The cache of encoded diffs (`src/prompts/diff.rs`)

`PromptDiffCache` keeps the public JSON of complete diffs by their cache keys, the one got or
published last in front, and drops from the back what is over one of its two limits.

`publish` looks at the cancellation flag three times: at the start, after the encoding, and after
an entry of the same key was taken out. A flag that is raised between the last two looks loses that
entry: `Interrupted` is that case, and `cache_accounting` says that without it the cache is an exact
record of what was published, got and evicted.
-/

namespace DevManager.Prompts

/-! ## The cache -/

/-- `CachedDiff`, L356-359 -/
structure CachedDiff where
  key : DiffCacheKey
  bytes : List UInt8
deriving DecidableEq

/-- `PromptDiffCache`, L364-369 -/
structure PromptDiffCache where
  maxItems : ℕ
  maxBytes : ℕ
  bytes : ℕ
  entries : List CachedDiff
deriving DecidableEq

/-- `cache_key`, L72-77 -/
def PromptDiff.publicKey (diff : PromptDiff) : Option DiffCacheKey :=
  match diff.status with
  | .cancelled | .invalidInput _ _ _ => none
  | _ => diff.cacheKey

namespace PromptDiffCache

/-- `new`, L372-379 -/
def new (maxItems maxBytes : ℕ) : PromptDiffCache := ⟨maxItems, maxBytes, 0, []⟩

variable (cache : PromptDiffCache)

/-- `get`, L389-397 -/
def get (key : DiffCacheKey) : Option (List UInt8) × PromptDiffCache :=
  match cache.entries.find? fun entry => entry.key = key with
  | none => (none, cache)
  | some entry => (some entry.bytes, { cache with
      bytes := saturatingAdd (cache.bytes - entry.bytes.length) entry.bytes.length
      entries := entry :: cache.entries.eraseP fun entry => entry.key = key })

/-- The entry of a key is taken out (L415-419). -/
def remove (key : DiffCacheKey) : PromptDiffCache :=
  match cache.entries.find? fun entry => entry.key = key with
  | none => cache
  | some entry => { cache with
      bytes := cache.bytes - entry.bytes.length
      entries := cache.entries.eraseP fun entry => entry.key = key }

/-- An entry is put in front (L423-424). -/
def push (entry : CachedDiff) : PromptDiffCache :=
  { cache with
    bytes := saturatingAdd cache.bytes entry.bytes.length, entries := entry :: cache.entries }

/-- The loop of `publish` (L425-431). `fuel` bounds the rounds, each of which pops an
entry. -/
def evict : ℕ → PromptDiffCache → PromptDiffCache
  | 0, cache => cache
  | fuel + 1, cache =>
    if cache.entries.length > cache.maxItems ∨ cache.bytes > cache.maxBytes then
      match cache.entries.getLast? with
      | none => cache
      | some entry => evict fuel { cache with
          bytes := cache.bytes - entry.bytes.length, entries := cache.entries.dropLast }
    else cache

/-- An entry is put in front, and what is over the limits is evicted (L423-432). -/
def insert (entry : CachedDiff) : PromptDiffCache :=
  (cache.push entry).evict (cache.push entry).entries.length

variable [Externals] [SerdeJson]

/-- `publish` (L400-434). `cancelled n` is what the `n`-th look at the flag finds. -/
def publish (cache : PromptDiffCache) (diff : PromptDiff) (cancelled : ℕ → Bool) :
    Bool × PromptDiffCache :=
  if cache.maxItems = 0 ∨ cache.maxBytes = 0 ∨ diff.status ≠ .complete ∨ cancelled 0 = true then
    (false, cache)
  else
    match diff.publicKey with
    | none => (false, cache)
    | some key =>
      match encodePublicDiff diff with
      | .error _ => (false, cache)
      | .ok bytes =>
        if cancelled 1 = true ∨ bytes.length > cache.maxBytes then (false, cache)
        else if cancelled 2 = true then (false, cache.remove key)
        else (true, (cache.remove key).insert ⟨key, bytes⟩)

end PromptDiffCache

/-- A call on the cache. -/
inductive CacheCall
  | get (key : DiffCacheKey)
  | publish (diff : PromptDiff) (cancelled : ℕ → Bool)

/-- What a call on the cache returns. -/
inductive CacheAnswer
  | got (bytes : Option (List UInt8))
  | published (done : Bool)

/-- One call on the cache. -/
def PromptDiffCache.call [Externals] [SerdeJson] (cache : PromptDiffCache) :
    CacheCall → CacheAnswer × PromptDiffCache
  | .get key => (.got (cache.get key).1, (cache.get key).2)
  | .publish diff cancelled =>
    (.published (cache.publish diff cancelled).1, (cache.publish diff cancelled).2)

namespace PromptDiffCache

/-! ## The entries -/

/-- The keys of the entries, the one used last first. -/
def keys (cache : PromptDiffCache) : List DiffCacheKey := cache.entries.map CachedDiff.key

/-- The bytes an entry of a key has. -/
def lookup (cache : PromptDiffCache) (key : DiffCacheKey) : Option (List UInt8) :=
  (cache.entries.find? fun entry => entry.key = key).map CachedDiff.bytes

/-- The sum of the lengths of entries. -/
def total (entries : List CachedDiff) : ℕ := (entries.map fun entry => entry.bytes.length).sum

/-- The byte total is the sum of the lengths, and each key has one entry. -/
structure Counts (cache : PromptDiffCache) : Prop where
  bytes : cache.bytes = total cache.entries
  fits : cache.bytes ≤ u64Max
  keys : cache.keys.Nodup

section Entries

variable {cache : PromptDiffCache} {entry : CachedDiff} {key : DiffCacheKey}

theorem remove_spec (h : cache.Counts) (key : DiffCacheKey) :
    (cache.remove key).Counts ∧ (cache.remove key).maxItems = cache.maxItems ∧
      (cache.remove key).maxBytes = cache.maxBytes ∧
      (cache.remove key).entries = cache.entries.filter fun entry => entry.key ≠ key := by
  have hfiltered : (cache.entries.filter fun entry => entry.key ≠ key).map CachedDiff.key =
      cache.keys.filter (· ≠ key) := by
    rw [keys, List.filter_map]
    rfl
  unfold remove
  cases hfind : cache.entries.find? fun entry => entry.key = key with
  | none =>
    have hall : (cache.entries.filter fun entry => entry.key ≠ key) = cache.entries := by
      refine List.filter_eq_self.mpr fun entry hentry => ?_
      simpa using List.find?_eq_none.mp hfind entry hentry
    exact ⟨h, rfl, rfl, hall.symm⟩
  | some entry =>
    have hsum := ((perm_cons_filter h.keys hfind).map fun entry => entry.bytes.length).sum_eq
    have herase := eraseP_key (k := key) h.keys
    have hbytes := h.bytes
    have hfits := h.fits
    rw [List.map_cons, List.sum_cons] at hsum
    refine ⟨⟨?_, ?_, ?_⟩, rfl, rfl, herase⟩
    · show cache.bytes - entry.bytes.length = total (cache.entries.eraseP _)
      rw [herase, hbytes]
      unfold total
      omega
    · show cache.bytes - entry.bytes.length ≤ u64Max
      omega
    · show ((cache.entries.eraseP _).map CachedDiff.key).Nodup
      rw [herase, hfiltered]
      exact h.keys.filter _

theorem get_cases (h : cache.Counts) (key : DiffCacheKey) :
    (cache.get key = (none, cache) ∧ key ∉ cache.keys) ∨
      ∃ entry, cache.entries.find? (fun entry => entry.key = key) = some entry ∧
        cache.get key = (some entry.bytes, { cache with
          entries := entry :: cache.entries.filter fun entry => entry.key ≠ key }) := by
  unfold get
  cases hfind : cache.entries.find? fun entry => entry.key = key with
  | none =>
    refine .inl ⟨rfl, fun hmem => ?_⟩
    obtain ⟨entry, hentry, hkey⟩ := List.mem_map.mp hmem
    exact List.find?_eq_none.mp hfind entry hentry (decide_eq_true hkey)
  | some entry =>
    have hle : entry.bytes.length ≤ cache.bytes := by
      rw [h.bytes]
      exact List.le_sum_of_mem (List.mem_map_of_mem (List.mem_of_find?_eq_some hfind))
    have hsame : saturatingAdd (cache.bytes - entry.bytes.length) entry.bytes.length =
      cache.bytes := by
      have hfits := h.fits
      unfold saturatingAdd
      omega
    refine .inr ⟨entry, rfl, ?_⟩
    dsimp only
    rw [hsame, eraseP_key h.keys]

theorem counts_touch (h : cache.Counts)
    (hfind : cache.entries.find? (fun entry => entry.key = key) = some entry) :
    ({ cache with entries := entry :: cache.entries.filter fun entry => entry.key ≠ key } :
      PromptDiffCache).Counts := by
  have hperm := perm_cons_filter h.keys hfind
  refine ⟨?_, h.fits, ?_⟩
  · rw [h.bytes]
    exact (hperm.map fun entry => entry.bytes.length).sum_eq
  · exact (hperm.map CachedDiff.key).nodup_iff.mp h.keys

theorem evict_concat {front last} (fuel : ℕ)
    (hlast : cache.entries = front ++ [last])
    (hover : cache.entries.length > cache.maxItems ∨ cache.bytes > cache.maxBytes) :
    cache.evict (fuel + 1) =
      ({ cache with bytes := cache.bytes - last.bytes.length, entries := front } :
        PromptDiffCache).evict fuel := by
  rw [evict, if_pos hover, hlast, List.getLast?_concat, List.dropLast_concat]

theorem counts_pop {front last} (h : cache.Counts)
    (hlast : cache.entries = front ++ [last]) :
    ({ cache with bytes := cache.bytes - last.bytes.length, entries := front } :
      PromptDiffCache).Counts := by
  have hbytes := h.bytes
  have hfits := h.fits
  have hkeys := h.keys
  rw [hlast, total, List.map_append, List.sum_append, List.map_singleton,
    List.sum_singleton] at hbytes
  rw [keys, hlast, List.map_append] at hkeys
  refine ⟨?_, ?_, (List.nodup_append.mp hkeys).1⟩
  · show cache.bytes - last.bytes.length = total front
    unfold total
    omega
  · show cache.bytes - last.bytes.length ≤ u64Max
    omega

theorem evict_spec (fuel : ℕ) : ∀ {cache : PromptDiffCache}, cache.Counts →
    cache.entries.length ≤ fuel →
    (cache.evict fuel).Counts ∧ (cache.evict fuel).maxItems = cache.maxItems ∧
      (cache.evict fuel).maxBytes = cache.maxBytes ∧
      (cache.evict fuel).entries <+: cache.entries ∧
      (cache.evict fuel).entries.length ≤ cache.maxItems ∧
      (cache.evict fuel).bytes ≤ cache.maxBytes := by
  have hnothing : ∀ {cache : PromptDiffCache}, cache.Counts → cache.entries = [] →
      cache.entries.length ≤ cache.maxItems ∧ cache.bytes ≤ cache.maxBytes := by
    intro cache h hnone
    rw [h.bytes, hnone]
    exact ⟨Nat.zero_le _, Nat.zero_le _⟩
  induction fuel with
  | zero =>
    intro cache h hfuel
    have hnone : cache.entries = [] := List.length_eq_zero_iff.mp (Nat.le_zero.mp hfuel)
    exact ⟨h, rfl, rfl, List.prefix_rfl, hnothing h hnone⟩
  | succ fuel ih =>
    intro cache h hfuel
    by_cases hover : cache.entries.length > cache.maxItems ∨ cache.bytes > cache.maxBytes
    · rcases List.eq_nil_or_concat' cache.entries with hnone | ⟨front, last, hlast⟩
      · have hroom := hnothing h hnone
        omega
      · have hlen : front.length ≤ fuel := by
          rw [hlast, List.length_append, List.length_singleton] at hfuel
          omega
        rw [evict_concat fuel hlast hover]
        obtain ⟨hcount, hitems, hmax, hpre, hrest⟩ := ih (counts_pop h hlast) hlen
        refine ⟨hcount, hitems, hmax, hpre.trans ?_, hrest⟩
        rw [hlast]
        exact List.prefix_append _ _
    · unfold evict
      rw [if_neg hover]
      rw [not_or, not_lt, not_lt] at hover
      exact ⟨h, rfl, rfl, List.prefix_rfl, hover⟩

theorem evict_front (fuel : ℕ) : ∀ {cache : PromptDiffCache} {rest : List CachedDiff},
    cache.Counts → cache.entries = entry :: rest → 0 < cache.maxItems →
    entry.bytes.length ≤ cache.maxBytes →
    ∃ kept, (cache.evict fuel).entries = entry :: kept := by
  induction fuel with
  | zero => exact fun _ hentry _ _ => ⟨_, hentry⟩
  | succ fuel ih =>
    intro cache rest h hentry hitems hmax
    by_cases hover : cache.entries.length > cache.maxItems ∨ cache.bytes > cache.maxBytes
    · rcases List.eq_nil_or_concat' rest with rfl | ⟨front, last, rfl⟩
      · have hbytes := h.bytes
        rw [hentry, total, List.map_singleton, List.sum_singleton] at hbytes
        rw [hentry, List.length_singleton] at hover
        omega
      · have hlast : cache.entries = (entry :: front) ++ [last] := hentry
        rw [evict_concat fuel hlast hover]
        exact ih (counts_pop h hlast) rfl hitems hmax
    · unfold evict
      rw [if_neg hover]
      exact ⟨rest, hentry⟩

theorem insert_spec (h : cache.Counts) (hkey : entry.key ∉ cache.keys)
    (hroom : total cache.entries + entry.bytes.length ≤ u64Max) (hitems : 0 < cache.maxItems)
    (hmax : entry.bytes.length ≤ cache.maxBytes) :
    (cache.insert entry).Counts ∧ (cache.insert entry).maxItems = cache.maxItems ∧
      (cache.insert entry).maxBytes = cache.maxBytes ∧
      (cache.insert entry).entries.length ≤ cache.maxItems ∧
      (cache.insert entry).bytes ≤ cache.maxBytes ∧
      ∃ kept dropped, (cache.insert entry).entries = entry :: kept ∧
        cache.entries = kept ++ dropped := by
  have hpushed : (cache.push entry).Counts := by
    have hbytes := h.bytes
    refine ⟨?_, ?_, List.nodup_cons.mpr ⟨hkey, h.keys⟩⟩
    · show saturatingAdd cache.bytes entry.bytes.length = total (entry :: cache.entries)
      unfold saturatingAdd total at *
      rw [List.map_cons, List.sum_cons]
      omega
    · exact min_le_right _ _
  obtain ⟨hcount, hitems', hmax', hpre, hlen, hbytes⟩ := evict_spec _ hpushed le_rfl
  obtain ⟨kept, hkept⟩ := evict_front (cache.push entry).entries.length hpushed rfl hitems hmax
  refine ⟨hcount, hitems', hmax', hlen, hbytes, kept, ?_⟩
  rw [hkept] at hpre
  obtain ⟨dropped, hdropped⟩ := hpre
  exact ⟨dropped, hkept, (List.cons.inj hdropped).2.symm⟩

end Entries

/-! ## Publishing -/

section Publish

variable [Externals] [SerdeJson] {cache : PromptDiffCache} {diff : PromptDiff}
  {cancelled : ℕ → Bool}

/-- The flag is raised after an entry of the key of the diff was taken out, and before the new one
is put in. -/
structure Interrupted (cache : PromptDiffCache) (diff : PromptDiff) (cancelled : ℕ → Bool) :
    Prop where
  limits : cache.maxItems ≠ 0 ∧ cache.maxBytes ≠ 0
  complete : diff.status = .complete
  stored : ∃ key, diff.publicKey = some key ∧ key ∈ cache.keys
  encodes : ∃ bytes, encodePublicDiff diff = .ok bytes ∧ bytes.length ≤ cache.maxBytes
  raised : cancelled 0 = false ∧ cancelled 1 = false ∧ cancelled 2 = true

theorem publish_cases (cache : PromptDiffCache) (diff) (cancelled : ℕ → Bool) :
    cache.publish diff cancelled = (false, cache) ∨
      (cache.Interrupted diff cancelled ∧ ∃ key, key ∈ cache.keys ∧
        cache.publish diff cancelled = (false, cache.remove key)) ∨
      ∃ key bytes, diff.status = .complete ∧ diff.publicKey = some key ∧
        encodePublicDiff diff = .ok bytes ∧ bytes.length ≤ cache.maxBytes ∧ 0 < cache.maxItems ∧
        cache.publish diff cancelled = (true, (cache.remove key).insert ⟨key, bytes⟩) := by
  unfold publish
  by_cases hdeny : cache.maxItems = 0 ∨ cache.maxBytes = 0 ∨ diff.status ≠ .complete ∨
      cancelled 0 = true
  · rw [if_pos hdeny]
    exact .inl rfl
  rw [if_neg hdeny]
  rw [not_or, not_or, not_or, not_not, Bool.not_eq_true] at hdeny
  obtain ⟨hitems, hmax, hcomplete, hfst⟩ := hdeny
  cases hkey : diff.publicKey with
  | none => exact .inl rfl
  | some key =>
    cases henc : encodePublicDiff diff with
    | error => exact .inl rfl
    | ok bytes =>
      dsimp only
      split_ifs with hsnd hthird
      · exact .inl rfl
      · rw [not_or, Bool.not_eq_true, not_lt] at hsnd
        by_cases hmem : key ∈ cache.keys
        · exact .inr (.inl ⟨⟨⟨hitems, hmax⟩, hcomplete, ⟨key, hkey, hmem⟩,
            ⟨bytes, henc, hsnd.2⟩, hfst, hsnd.1, hthird⟩, key, hmem, rfl⟩)
        · have hnone : cache.entries.find? (fun entry => entry.key = key) = none := by
            refine List.find?_eq_none.mpr fun entry hentry hentryKey => hmem ?_
            rw [← of_decide_eq_true hentryKey]
            exact List.mem_map_of_mem hentry
          rw [remove, hnone]
          exact .inl rfl
      · rw [not_or, Bool.not_eq_true, not_lt] at hsnd
        exact .inr (.inr ⟨key, bytes, hcomplete, rfl, rfl, hsnd.2, Nat.pos_of_ne_zero hitems, rfl⟩)

theorem publish_interrupted (h : cache.Counts) (hraised : cache.Interrupted diff cancelled) :
    (cache.publish diff cancelled).1 = false ∧ (cache.publish diff cancelled).2 ≠ cache := by
  obtain ⟨⟨hitems, hmax⟩, hcomplete, ⟨key, hkey, hmem⟩, ⟨bytes, henc, hlen⟩, hfst, hsnd,
    hthird⟩ := hraised
  have hpub : cache.publish diff cancelled = (false, cache.remove key) := by
    unfold publish
    rw [if_neg (by simp [hitems, hmax, hcomplete, hfst]), hkey, henc]
    dsimp only
    rw [if_neg (by simp [hsnd, hlen]), if_pos hthird]
  rw [hpub]
  refine ⟨rfl, fun hsame => ?_⟩
  have hentries := (remove_spec h key).2.2.2
  dsimp only at hsame
  rw [hsame] at hentries
  rw [keys, hentries] at hmem
  obtain ⟨entry, hentry, hentryKey⟩ := List.mem_map.mp hmem
  simp [hentryKey] at hentry

end Publish

end PromptDiffCache

/-! ## What a history says -/

section History

variable [Externals] [SerdeJson]

/-- A call and the cache it is made on. -/
abbrev CacheStep := PromptDiffCache × CacheCall

namespace CacheStep

/-- The cache after the call. -/
def next (step : CacheStep) : PromptDiffCache := (step.1.call step.2).2

/-- The key the call got or published. -/
def usedKey (step : CacheStep) : Option DiffCacheKey :=
  match step.2, (step.1.call step.2).1 with
  | .get key, .got (some _) => some key
  | .publish diff _, .published true => diff.publicKey
  | _, _ => none

variable (key : DiffCacheKey) (step : CacheStep)

/-- The bytes the call published under a key. -/
def publishedBytes : Option (List UInt8) :=
  match step.2, (step.1.call step.2).1 with
  | .publish diff _, .published true =>
    if diff.publicKey = some key then (encodePublicDiff diff).toOption else none
  | _, _ => none

/-- The entry of the key is gone after the call. -/
def Evicts : Prop :=
  key ∈ step.1.keys ∧ key ∉ step.next.keys

instance (key : DiffCacheKey) (step : CacheStep) : Decidable (step.Evicts key) :=
  inferInstanceAs (Decidable (_ ∧ _))

/-- What the call does to the entry of a key: it publishes bytes, or evicts them. -/
def fate : Option (Option (List UInt8)) :=
  match step.publishedBytes key with
  | some bytes => some (some bytes)
  | none => if step.Evicts key then some none else none

end CacheStep

/-- The keys that were got or published, the latest first. -/
def uses (history : List CacheStep) : List DiffCacheKey :=
  history.reverse.filterMap CacheStep.usedKey

/-- The bytes last published under a key, unless the entry was evicted since. -/
def lastPublished (history : List CacheStep) (key : DiffCacheKey) : Option (List UInt8) :=
  (history.reverse.findSome? (CacheStep.fate key)).join

theorem uses_concat (history : List CacheStep) (step) :
    uses (history ++ [step]) = step.usedKey.toList ++ uses history := by
  rw [uses, List.reverse_append, List.reverse_singleton, List.singleton_append, List.filterMap_cons]
  cases step.usedKey <;> rfl

theorem lastPublished_concat (history : List CacheStep) (step) (key) :
    lastPublished (history ++ [step]) key =
      match step.fate key with
      | some bytes => bytes
      | none => lastPublished history key := by
  rw [lastPublished, List.reverse_append, List.reverse_singleton, List.singleton_append,
    List.findSome?_cons]
  cases step.fate key <;> rfl

open CacheStep (fate next publishedBytes usedKey)

theorem quiet_step (history : List CacheStep) {step} (hsame : step.next = step.1)
    (hused : step.usedKey = none) (hpub : ∀ key, step.publishedBytes key = none) :
    uses (history ++ [step]) = uses history ∧
      ∀ key, lastPublished (history ++ [step]) key = lastPublished history key := by
  refine ⟨?_, fun key => ?_⟩
  · rw [uses_concat, hused]
    rfl
  · have hkept : ¬ step.Evicts key := by
      rintro ⟨hmem, hnot⟩
      rw [hsame] at hnot
      exact hnot hmem
    rw [lastPublished_concat, fate, hpub, if_neg hkept]

/-! ## The record -/

variable (cache : PromptDiffCache)

/-- The encodings that are stored, and a new one, are in memory at once, so their lengths add up to
a `usize`. -/
def PromptDiffCache.Room : CacheCall → Prop
  | .get _ => True
  | .publish diff _ => ∀ bytes, encodePublicDiff diff = .ok bytes →
      PromptDiffCache.total cache.entries + bytes.length ≤ u64Max

/-- The call is not interrupted. -/
def PromptDiffCache.Undisturbed : CacheCall → Prop
  | .get _ => True
  | .publish diff cancelled => ¬ cache.Interrupted diff cancelled

/-- Every entry is the public JSON of a complete diff with its key. -/
def PromptDiffCache.OnlyComplete : Prop :=
  ∀ entry ∈ cache.entries, ∃ diff, diff.status = .complete ∧ diff.publicKey = some entry.key ∧
    encodePublicDiff diff = .ok entry.bytes

/-- The cache is an exact record of its history. -/
structure CacheInv (maxItems maxBytes : ℕ) (cache : PromptDiffCache) (history : List CacheStep) :
    Prop where
  limits : cache.maxItems = maxItems ∧ cache.maxBytes = maxBytes
  counts : cache.Counts
  items : cache.entries.length ≤ maxItems
  room : cache.bytes ≤ maxBytes
  complete : cache.OnlyComplete
  recent : Recent (uses history) cache.keys
  remembered : ∀ key, cache.lookup key = lastPublished history key

/-- What one call does, after a history: the totals are exact and within the limits, the keys are
unique, only complete diffs are stored; a get returns the bytes last published under its key
unless they were evicted; entries go only when a diff is published, and were used before those
that stay; a publication that is refused changes nothing. -/
structure CallSound (maxItems maxBytes : ℕ) (history : List CacheStep) (step : CacheStep) :
    Prop where
  bytes : step.next.bytes = PromptDiffCache.total step.next.entries
  keys : step.next.keys.Nodup
  items : step.next.entries.length ≤ maxItems
  room : step.next.bytes ≤ maxBytes
  complete : step.next.OnlyComplete
  got : ∀ key, step.2 = .get key → (step.1.call step.2).1 = .got (lastPublished history key)
  evicted : ∀ key, step.Evicts key → (step.1.call step.2).1 = .published true ∧
    ∀ kept ∈ step.next.keys,
      (uses (history ++ [step])).idxOf kept < (uses (history ++ [step])).idxOf key
  refused : (step.1.call step.2).1 = .published false → step.next = step.1

section Record

variable {maxItems maxBytes : ℕ} {cache : PromptDiffCache} {history : List CacheStep}

open PromptDiffCache (counts_touch get_cases insert_spec keys lookup remove_spec total)

omit [Externals] [SerdeJson] in
theorem lookup_eq_none {key} : cache.lookup key = none ↔ key ∉ cache.keys := by
  rw [lookup, Option.map_eq_none_iff, List.find?_eq_none, keys]
  simp

theorem cacheInv_new (maxItems maxBytes : ℕ) :
    CacheInv maxItems maxBytes (.new maxItems maxBytes) [] where
  limits := ⟨rfl, rfl⟩
  counts := ⟨rfl, Nat.zero_le _, .nil⟩
  items := Nat.zero_le _
  room := Nat.zero_le _
  complete _ h := absurd h List.not_mem_nil
  recent := recent_nil
  remembered _ := rfl

theorem CacheInv.callSound {step}
    (h : CacheInv maxItems maxBytes step.next (history ++ [step]))
    (hgot : ∀ key, step.2 = .get key → (step.1.call step.2).1 = .got (lastPublished history key))
    (hevicted : ∀ key, step.Evicts key → (step.1.call step.2).1 = .published true ∧
      ∀ kept ∈ step.next.keys,
        (uses (history ++ [step])).idxOf kept < (uses (history ++ [step])).idxOf key)
    (hdeny : (step.1.call step.2).1 = .published false → step.next = step.1) :
    CallSound maxItems maxBytes history step :=
  ⟨h.counts.bytes, h.counts.keys, h.items, h.room, h.complete, hgot, hevicted, hdeny⟩

variable (h : CacheInv maxItems maxBytes cache history)

include h

theorem CacheInv.quiet {c} (hsame : (cache.call c).2 = cache) (hused : usedKey (cache, c) = none)
    (hpub : ∀ key, publishedBytes key (cache, c) = none)
    (hgot : ∀ key, c = .get key → (cache.call c).1 = .got (lastPublished history key)) :
    CacheInv maxItems maxBytes (cache.call c).2 (history ++ [(cache, c)]) ∧
      CallSound maxItems maxBytes history (cache, c) := by
  have hnext : next (cache, c) = cache := hsame
  obtain ⟨huses, hlast⟩ := quiet_step history hnext hused hpub
  have hkept : CacheInv maxItems maxBytes (next (cache, c)) (history ++ [(cache, c)]) := by
    rw [hnext]
    refine ⟨h.limits, h.counts, h.items, h.room, h.complete, ?_, fun key => ?_⟩
    · rw [huses]
      exact h.recent
    · rw [hlast]
      exact h.remembered key
  refine ⟨hkept, hkept.callSound hgot ?_ fun _ => hnext⟩
  rintro key ⟨hmem, hnot⟩
  rw [hnext] at hnot
  exact absurd hmem hnot

theorem CacheInv.hit {key}
    {entry} (hfind : cache.entries.find? (fun entry => entry.key = key) = some entry)
    (hget : cache.get key = (some entry.bytes, { cache with
      entries := entry :: cache.entries.filter fun entry => entry.key ≠ key })) :
    CacheInv maxItems maxBytes (cache.call (.get key)).2 (history ++ [(cache, .get key)]) ∧
      CallSound maxItems maxBytes history (cache, .get key) := by
  have hentry : entry.key = key := by simpa using List.find?_some hfind
  have hperm := perm_cons_filter h.counts.keys hfind
  have hnext : (cache.call (.get key)).2 = { cache with
      entries := entry :: cache.entries.filter fun entry => entry.key ≠ key } :=
    congrArg Prod.snd hget
  have hans : (cache.call (.get key)).1 = .got (some entry.bytes) :=
    congrArg CacheAnswer.got (congrArg Prod.fst hget)
  have hused : usedKey (cache, .get key) = some key := by
    rw [usedKey, hans]
  have hkey : (cache.call (.get key)).2.keys = key :: cache.keys.filter (· ≠ key) := by
    rw [hnext, keys, keys, List.map_cons, hentry, List.filter_map]
    rfl
  have hkept : ∀ k, ¬ CacheStep.Evicts k (cache, .get key) := by
    rintro k ⟨hmem, hnot⟩
    rw [next, hkey, List.mem_cons, List.mem_filter] at hnot
    simp [hmem] at hnot
  have hlookup : cache.lookup key = some entry.bytes := by
    rw [lookup, hfind]
    rfl
  have hinv : CacheInv maxItems maxBytes (next (cache, .get key))
      (history ++ [(cache, .get key)]) := by
    rw [next, hnext]
    refine ⟨h.limits, counts_touch h.counts hfind, ?_, h.room,
      fun other hother => h.complete other (hperm.mem_iff.mpr hother), ?_, fun k => ?_⟩
    · exact hperm.length_eq.symm.le.trans h.items
    · rw [uses_concat, hused, ← hnext, hkey]
      exact h.recent.use key
    · rw [lastPublished_concat, fate, if_neg (hkept k), ← h.remembered k]
      exact congrArg (Option.map CachedDiff.bytes) (find?_key_perm h.counts.keys hperm.symm)
  refine ⟨hinv, hinv.callSound ?_ (fun k hk => absurd hk (hkept k)) fun hdeny => ?_⟩
  · rintro k ⟨⟩
    rw [hans, ← h.remembered key, hlookup]
  · rw [hans] at hdeny
    cases hdeny

theorem CacheInv.publish {diff} {cancelled : ℕ → Bool} {key bytes}
    (hcomplete : diff.status = .complete)
    (hkey : diff.publicKey = some key) (henc : encodePublicDiff diff = .ok bytes)
    (hlen : bytes.length ≤ cache.maxBytes) (hitems : 0 < cache.maxItems)
    (hroom : total cache.entries + bytes.length ≤ u64Max)
    (hpub : cache.publish diff cancelled = (true, (cache.remove key).insert ⟨key, bytes⟩)) :
    CacheInv maxItems maxBytes (cache.call (.publish diff cancelled)).2
        (history ++ [(cache, .publish diff cancelled)]) ∧
      CallSound maxItems maxBytes history (cache, .publish diff cancelled) := by
  obtain ⟨hcount, hremovedItems, hremovedBytes, hrem⟩ :=
    remove_spec h.counts key
  have hremovedKeys : (cache.remove key).keys = cache.keys.filter (· ≠ key) := by
    rw [keys, hrem, keys, List.filter_map]
    rfl
  have hnew : (⟨key, bytes⟩ : CachedDiff).key ∉ (cache.remove key).keys := by
    rw [hremovedKeys]
    simp
  have hless : total (cache.remove key).entries ≤
      total cache.entries := by
    rw [hrem]
    exact ((List.filter_sublist (l := cache.entries)).map _).sum_le_sum fun _ _ => Nat.zero_le _
  obtain ⟨hcount', hitems', hbytes', hle', htotal', kept, dropped, hkept, hsplit⟩ :=
    insert_spec hcount hnew
      ((Nat.add_le_add_right hless _).trans hroom) (hitems.trans_eq hremovedItems.symm)
      (hlen.trans_eq hremovedBytes.symm)
  have hnext : (cache.call (.publish diff cancelled)).2 = (cache.remove key).insert ⟨key, bytes⟩ :=
    congrArg Prod.snd hpub
  have hans : (cache.call (.publish diff cancelled)).1 = .published true :=
    congrArg CacheAnswer.published (congrArg Prod.fst hpub)
  have hused : usedKey (cache, .publish diff cancelled) = some key := by
    rw [usedKey, hans]
    exact hkey
  have hpublished : ∀ k, publishedBytes k (cache, .publish diff cancelled) =
      if key = k then some bytes else none := by
    intro k
    rw [publishedBytes, hans]
    simp [hkey, henc, Except.toOption]
  -- the entries in front are those used last
  have hkeys : ((cache.remove key).insert ⟨key, bytes⟩).keys = key :: kept.map CachedDiff.key := by
    rw [keys, hkept, List.map_cons]
  have hrest : cache.keys.filter (· ≠ key) = kept.map CachedDiff.key ++
    dropped.map CachedDiff.key := by
    rw [← hremovedKeys, keys, hsplit, List.map_append]
  have hrec := h.recent.use key
  rw [hrest, ← List.cons_append] at hrec
  obtain ⟨hfront, hback⟩ := hrec.dropped
  have hremembers : ∀ k, ((cache.remove key).insert ⟨key, bytes⟩).lookup k =
      lastPublished (history ++ [(cache, .publish diff cancelled)]) k := by
    intro k
    rw [lastPublished_concat, fate, hpublished, lookup, hkept]
    by_cases hk : key = k
    · rw [if_pos hk, List.find?_cons_of_pos (by simpa using hk)]
      rfl
    rw [if_neg hk, List.find?_cons_of_neg (by simpa using hk)]
    have hold : cache.entries.find? (fun entry => entry.key = k) =
        (kept.find? fun entry => entry.key = k).or (dropped.find? fun entry => entry.key = k) := by
      have hfiltered : (cache.entries.filter fun entry => entry.key ≠ key).find?
          (fun entry => entry.key = k) =
            if k = key then none else cache.entries.find? fun entry => entry.key = k :=
        find?_filter_key k
      rw [if_neg fun heq => hk heq.symm, ← hrem, hsplit, List.find?_append] at hfiltered
      exact hfiltered.symm
    have hevicts : CacheStep.Evicts k (cache, .publish diff cancelled) ↔
        k ∈ cache.keys ∧ k ∉ kept.map CachedDiff.key := by
      rw [CacheStep.Evicts, next, hnext, hkeys, List.mem_cons, not_or]
      exact ⟨fun h => ⟨h.1, h.2.2⟩, fun h => ⟨h.1, fun heq => hk heq.symm, h.2⟩⟩
    cases hfound : kept.find? fun entry => entry.key = k with
    | some entry =>
      have hentry : entry.key = k := by simpa using List.find?_some hfound
      have hstays : ¬ CacheStep.Evicts k (cache, .publish diff cancelled) := by
        rw [hevicts]
        exact fun h => h.2 (List.mem_map.mpr ⟨entry, List.mem_of_find?_eq_some hfound, hentry⟩)
      rw [if_neg hstays, ← h.remembered k, lookup, hold, hfound]
      rfl
    | none =>
      have hnot : k ∉ kept.map CachedDiff.key := by
        simpa using hfound
      by_cases hmem : k ∈ cache.keys
      · rw [if_pos (hevicts.mpr ⟨hmem, hnot⟩)]
        rfl
      · rw [if_neg fun h => hmem (hevicts.mp h).1, ← h.remembered k, lookup_eq_none.mpr hmem]
        rfl
  have hinv : CacheInv maxItems maxBytes (next (cache, .publish diff cancelled))
      (history ++ [(cache, .publish diff cancelled)]) := by
    rw [next, hnext]
    refine ⟨⟨?_, ?_⟩, hcount', ?_, ?_, ?_, ?_, hremembers⟩
    · rw [hitems', hremovedItems, h.limits.1]
    · rw [hbytes', hremovedBytes, h.limits.2]
    · rw [hremovedItems, h.limits.1] at hle'
      exact hle'
    · rw [hremovedBytes, h.limits.2] at htotal'
      exact htotal'
    · intro entry hentry
      rw [hkept] at hentry
      rcases List.mem_cons.mp hentry with rfl | hentry
      · exact ⟨diff, hcomplete, hkey, henc⟩
      · have hold : entry ∈ (cache.remove key).entries := by
          rw [hsplit]
          exact List.mem_append_left _ hentry
        rw [hrem] at hold
        exact h.complete entry (List.mem_of_mem_filter hold)
    · rw [uses_concat, hused, hkeys]
      exact hfront
  refine ⟨hinv, hinv.callSound nofun ?_ fun hdeny => ?_⟩
  · rintro k ⟨hmem, hgone⟩
    rw [next, hnext, hkeys, List.mem_cons, not_or] at hgone
    have hdropped : k ∈ cache.keys.filter (· ≠ key) := by
      rw [List.mem_filter]
      exact ⟨hmem, by simpa using hgone.1⟩
    rw [hrest, List.mem_append] at hdropped
    refine ⟨hans, fun other hother => ?_⟩
    rw [next, hnext, hkeys] at hother
    rw [uses_concat, hused]
    exact hback other hother k (hdropped.resolve_left hgone.2)
  · rw [hans] at hdeny
    cases hdeny

theorem CacheInv.call {c} (hroom : cache.Room c) (hundisturbed : cache.Undisturbed c) :
    CacheInv maxItems maxBytes (cache.call c).2 (history ++ [(cache, c)]) ∧
      CallSound maxItems maxBytes history (cache, c) := by
  cases c with
  | get key =>
    rcases get_cases h.counts key with ⟨hget, hnot⟩ | ⟨entry, hfind, hget⟩
    · have hans : (cache.call (.get key)).1 = .got none :=
        congrArg CacheAnswer.got (congrArg Prod.fst hget)
      refine h.quiet (congrArg Prod.snd hget) ?_ (fun _ => rfl) ?_
      · rw [usedKey, hans]
      · rintro k ⟨⟩
        rw [hans, ← h.remembered key, lookup_eq_none.mpr hnot]
    · exact h.hit hfind hget
  | publish diff cancelled =>
    rcases cache.publish_cases diff cancelled with hdeny | ⟨hraised, -⟩ |
      ⟨key, bytes, hcomplete, hkey, henc, hlen, hitems, hpub⟩
    · have hans : (cache.call (.publish diff cancelled)).1 = .published false :=
        congrArg CacheAnswer.published (congrArg Prod.fst hdeny)
      refine h.quiet (congrArg Prod.snd hdeny) ?_ (fun _ => ?_) nofun
      · rw [usedKey, hans]
      · rw [publishedBytes, hans]
    · exact absurd hraised hundisturbed
    · exact h.publish hcomplete hkey henc hlen hitems (hroom bytes henc) hpub

omit h

theorem cacheInv_after {calls}
    (hroom : Calls.Along PromptDiffCache.call PromptDiffCache.Room (.new maxItems maxBytes) calls)
    (h : Calls.Along PromptDiffCache.call PromptDiffCache.Undisturbed (.new maxItems maxBytes)
      calls) :
    CacheInv maxItems maxBytes (Calls.after PromptDiffCache.call (.new maxItems maxBytes) calls)
      (Calls.steps PromptDiffCache.call (.new maxItems maxBytes) calls) :=
  Calls.along_steps_invariant (cacheInv_new maxItems maxBytes)
    (fun _ _ _ hinv hq => (hinv.call hq.1 hq.2).1) calls (Calls.along_and hroom h)

/-- In a run of gets and publications, none of them is interrupted if and only if each is sound:
the totals are exact and within the limits, a get returns what was published last and not
evicted, what is evicted was used before what stays, and a refused publication changes
nothing. -/
theorem cache_accounting (maxItems maxBytes : ℕ) (calls : List CacheCall)
    (hroom : Calls.Along PromptDiffCache.call PromptDiffCache.Room (.new maxItems maxBytes) calls) :
    Calls.Along PromptDiffCache.call PromptDiffCache.Undisturbed (.new maxItems maxBytes) calls ↔
      ∀ before c rest, calls = before ++ c :: rest →
        CallSound maxItems maxBytes
          (Calls.steps PromptDiffCache.call (.new maxItems maxBytes) before)
          (Calls.after PromptDiffCache.call (.new maxItems maxBytes) before, c) := by
  constructor
  · rintro h before c rest rfl
    rw [Calls.along_append] at hroom h
    exact ((cacheInv_after hroom.1 h.1).call hroom.2.1 h.2.1).2
  · induction calls using List.reverseRecOn with
    | nil => exact fun _ => trivial
    | append_singleton calls c ih =>
      intro hsound
      rw [Calls.along_append] at hroom ⊢
      have hcalls := ih hroom.1 fun before d rest hsplit => hsound before d (rest ++ [c])
        (by rw [hsplit, List.append_assoc, List.cons_append])
      refine ⟨hcalls, ?_, trivial⟩
      have hcount := (cacheInv_after hroom.1 hcalls).counts
      cases c with
      | get key => trivial
      | publish diff cancelled =>
        intro hraised
        -- an interrupted call answers `false`, and an entry is gone
        obtain ⟨hans, hchanged⟩ := PromptDiffCache.publish_interrupted hcount hraised
        exact hchanged ((hsound calls (.publish diff cancelled) [] rfl).refused
          (congrArg CacheAnswer.published hans))

end Record

end History

section Sample

attribute [local instance] sampleExternals sampleSegmentation sampleSerdeJson

def unchangedDiff : PromptDiff := diffVersions [97] [97]

def unchangedKey : DiffCacheKey := unchangedDiff.publicKey.getD ⟨default, default, 0, 0, 0⟩

/-- A diff is published and got. -/
theorem cache_accounting_got :
    CallSound 1 4096
      (Calls.steps PromptDiffCache.call (.new 1 4096) [.publish unchangedDiff fun _ => false])
      (Calls.after PromptDiffCache.call (.new 1 4096) [.publish unchangedDiff fun _ => false],
        .get unchangedKey) := by
  refine (cache_accounting 1 4096 [.publish unchangedDiff fun _ => false, .get unchangedKey]
    ⟨fun bytes henc => ?_, trivial, trivial⟩).mp ⟨?_, trivial, trivial⟩ _ _ [] rfl
  · show 0 + bytes.length ≤ u64Max
    rw [Nat.zero_add]
    exact (encodePublicDiff_length henc).trans (by decide)
  · intro hraised
    exact absurd hraised.raised.2.2 Bool.false_ne_true

/-- The flag is raised while the same diff is published again: the call is refused, and the entry
is gone. -/
theorem interrupted_publish_loses_entry :
    ((PromptDiffCache.publish (.new 1 4096) unchangedDiff fun _ => false).2.publish unchangedDiff
        fun look => decide (look = 2)).1 = false ∧
      ((PromptDiffCache.publish (.new 1 4096) unchangedDiff fun _ => false).2.publish unchangedDiff
        fun look => decide (look = 2)).2 ≠
      (PromptDiffCache.publish (.new 1 4096) unchangedDiff fun _ => false).2 := by
  decide +kernel

end Sample

end DevManager.Prompts
