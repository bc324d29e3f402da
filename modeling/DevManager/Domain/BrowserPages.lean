import DevManager.Domain.BrowserCalls
import DevManager.Lib.Paging
import DevManager.Protocol.Chunk

/-!
# Pages of a browser book (`src/domain/browser.rs`)

`snapshot_page` reads the contexts or the tabs of a book in key order, a page at
a time. `next_after` is the key that the caller passes as `after` for the next
page, and the next page starts behind it. When a page ends early, the key it
returns is that of the row that did not fit: that row is on no page.

* `fillPage_cases`: what the loop over the rows returns.
* `page_skips`: a page that names a key loses the row with that key.
-/

namespace DevManager

open Std (ExtTreeMap)
open List Paging

/-- `BrowserSnapshotSection`, L864-867 -/
inductive BrowserSnapshotSection
  | contexts | tabs
deriving DecidableEq

/-- `BrowserPageKey`, L870-873 -/
inductive BrowserPageKey
  | context (id : BrowserContextId)
  | tab (id : BrowserTabId)
deriving DecidableEq

/-- `BrowserSnapshotRow`, L876-879 -/
inductive BrowserSnapshotRow
  | context (view : BrowserContextView)
  | tab (view : BrowserTabView)
deriving DecidableEq

/-- What paging calls of other crates. -/
class PageExternals where
  /-- `rmp_serde::to_vec_named(rows).ok()`. -/
  toVecNamed : List BrowserSnapshotRow → Option (List UInt8)
  /-- `id.as_bytes()` of an identifier. -/
  asBytes {kind : IdKind} (id : Uuid7 kind) : List UInt8

/-- `BrowserSnapshotPage`, L919-927 -/
structure BrowserSnapshotPage where
  pageSection : BrowserSnapshotSection
  afterItem : Option BrowserPageKey
  items : List BrowserSnapshotRow
  nextAfter : Option BrowserPageKey
  nextCursor : Option (List UInt8)
  examined : ℕ
  encodedBytes : ℕ
deriving DecidableEq

section Pages

variable [PageExternals]

/-- `key_bytes`, L2021-2026 -/
def keyBytes : BrowserPageKey → List UInt8
  | .context id => PageExternals.asBytes id
  | .tab id => PageExternals.asBytes id

/-- `page_encoded_bytes`, L2028-2037 -/
def pageEncodedBytes (items : List BrowserSnapshotRow) (extra : BrowserSnapshotRow) :
    Except BrowserContractError ℕ := do
  let bytes ← okOr (PageExternals.toVecNamed (items ++ [extra])) .boundExceeded
  failIf (bytes.length > u32Max) .boundExceeded
  pure bytes.length

/-- The loop over the rows of a section, from the rows on the page and the number of rows looked
at (L1172-1188, `1195-1211`). -/
def fillPage (take maxEncodedBytes : ℕ) :
    List (BrowserPageKey × BrowserSnapshotRow) → List BrowserSnapshotRow → ℕ →
      Except BrowserContractError (List BrowserSnapshotRow × ℕ × Option BrowserPageKey)
  | [], items, examined => .ok (items, examined, none)
  | (key, row) :: rows, items, examined =>
    if items.length = take then .ok (items, examined + 1, some key)
    else do
      let bytes ← pageEncodedBytes items row
      if bytes > maxEncodedBytes then do
        failIf items.isEmpty .boundExceeded
        pure (items, examined + 1, some key)
      else fillPage take maxEncodedBytes rows (items ++ [row]) (examined + 1)

namespace BrowserBook

variable (book : BrowserBook)

omit [PageExternals] in
/-- The rows of `self.contexts` behind a key. -/
def contextRows (after : Option BrowserContextId) :
    List (BrowserPageKey × BrowserSnapshotRow) :=
  (OrdMap.rangeAfter book.contexts after).map fun (id, context) =>
    (.context id, .context (context.view id))

omit [PageExternals] in
/-- The rows of `self.tabs` behind a key. -/
def tabRows (after : Option BrowserTabId) :
    List (BrowserPageKey × BrowserSnapshotRow) :=
  (OrdMap.rangeAfter book.tabs after).map fun (id, tab) => (.tab id, .tab (tab.view id))

variable (pageSection : BrowserSnapshotSection)

omit [PageExternals] in
/-- The rows of a section behind a key of that section (L1166-1172, `1189-1195`). -/
def rowsAfter (after : Option BrowserPageKey) :
    Except BrowserContractError (List (BrowserPageKey × BrowserSnapshotRow)) :=
  match pageSection, after with
  | .contexts, some (.context id) => .ok (book.contextRows (some id))
  | .contexts, none => .ok (book.contextRows none)
  | .contexts, some (.tab _) => .error .invalidRequest
  | .tabs, some (.tab id) => .ok (book.tabRows (some id))
  | .tabs, none => .ok (book.tabRows none)
  | .tabs, some (.context _) => .error .invalidRequest

/-- `snapshot_page`, L1151-1226 -/
def snapshotPage (after : Option BrowserPageKey) (maxItems maxEncodedBytes : ℕ) :
    Except BrowserContractError BrowserSnapshotPage := do
  failIf (maxItems = 0 ∨ maxEncodedBytes = 0) .boundExceeded
  let rows ← book.rowsAfter pageSection after
  let (items, examined, nextAfter) ← fillPage maxItems maxEncodedBytes rows [] 0
  let bytes ← okOr (PageExternals.toVecNamed items) .boundExceeded
  pure {
    pageSection, afterItem := after, items, nextAfter, nextCursor := nextAfter.map keyBytes,
    examined, encodedBytes := min bytes.length u32Max }

/-! ## The loop -/

omit [PageExternals] in
/-- All rows of a section in key order. -/
def sectionRows : BrowserSnapshotSection → List BrowserSnapshotRow
  | .contexts => (book.contextRows none).map Prod.snd
  | .tabs => (book.tabRows none).map Prod.snd

end BrowserBook

/-- A row fits on a page behind the items that are there. -/
def Room (maxItems maxEncodedBytes : ℕ) (items : List BrowserSnapshotRow)
    (row : BrowserSnapshotRow) : Prop :=
  items.length < maxItems ∧
    ∃ bytes, pageEncodedBytes items row = .ok bytes ∧ bytes ≤ maxEncodedBytes

/-- The items encode within a number of bytes. -/
def Encodes (maxEncodedBytes : ℕ) (items : List BrowserSnapshotRow) : Prop :=
  ∃ bytes, PageExternals.toVecNamed items = some bytes ∧ bytes.length ≤ maxEncodedBytes

variable {take maxEncodedBytes examined : ℕ}
  {rows : List (BrowserPageKey × BrowserSnapshotRow)} {items : List BrowserSnapshotRow}

theorem fillPage_cons {key row page} (hlen : items.length ≤ take)
    (h : fillPage take maxEncodedBytes ((key, row) :: rows) items examined = .ok page) :
    (Room take maxEncodedBytes items row ∧ Encodes maxEncodedBytes (items ++ [row]) ∧
      fillPage take maxEncodedBytes rows (items ++ [row]) (examined + 1) = .ok page) ∨
    (¬ Room take maxEncodedBytes items row ∧ page = (items, examined + 1, some key)) := by
  rw [fillPage] at h
  by_cases hfull : items.length = take
  · rw [if_pos hfull] at h
    cases h
    refine .inr ⟨fun hroom => ?_, rfl⟩
    have hlt := hroom.1
    omega
  · rw [if_neg hfull, bind_eq_ok] at h
    obtain ⟨bytes, hbytes, h⟩ := h
    by_cases hbig : bytes > maxEncodedBytes
    · rw [if_pos hbig, bind_eq_ok] at h
      obtain ⟨_, -, h⟩ := h
      cases h
      refine .inr ⟨fun hroom => ?_, rfl⟩
      obtain ⟨-, bytes', hbytes', hle⟩ := hroom
      rw [hbytes] at hbytes'
      cases hbytes'
      omega
    · rw [if_neg hbig] at h
      have hencodes : Encodes maxEncodedBytes (items ++ [row]) := by
        simp only [pageEncodedBytes, ok_iff] at hbytes
        obtain ⟨encoded, henc, -, rfl⟩ := hbytes
        exact ⟨encoded, henc, by omega⟩
      exact .inl ⟨⟨by omega, bytes, hbytes, by omega⟩, hencodes, h⟩

theorem fillPage_cases {page} {examined' : ℕ} {next} (hlen : items.length ≤ take)
    (h : fillPage take maxEncodedBytes rows items examined = .ok (page, examined', next)) :
    (page.length ≤ take ∧ (page = items ∨ Encodes maxEncodedBytes page)) ∧
    ((next = none ∧ page = items ++ rows.map Prod.snd ∧
        ∀ before row after, rows.map Prod.snd = before ++ row :: after →
          Room take maxEncodedBytes (items ++ before) row) ∨
      ∃ taken key row rest, next = some key ∧ rows = taken ++ (key, row) :: rest ∧
        page = items ++ taken.map Prod.snd ∧ ¬ Room take maxEncodedBytes page row) := by
  induction rows generalizing items examined with
  | nil =>
    cases h
    refine ⟨⟨hlen, .inl rfl⟩, .inl ⟨rfl, by simp, fun before row after hsplit => ?_⟩⟩
    have hlength := congrArg List.length hsplit
    simp at hlength
  | cons entry rows ih =>
    obtain ⟨key, row⟩ := entry
    rcases fillPage_cons hlen h with ⟨hroom, henc, hrest⟩ | ⟨hroom, hpage⟩
    · have hle' : (items ++ [row]).length ≤ take := by
        have hlt := hroom.1
        rw [length_append, length_singleton]
        omega
      obtain ⟨⟨hbound, hsize⟩, hcases⟩ := ih hle' hrest
      have hsize' : page = items ∨ Encodes maxEncodedBytes page := by
        rcases hsize with rfl | hsize
        · exact .inr henc
        · exact .inr hsize
      refine ⟨⟨hbound, hsize'⟩, ?_⟩
      rcases hcases with ⟨hnone, hpage, hall⟩ | ⟨taken, key', row', rest, hsome, hrows,
        hpage, hnode⟩
      · refine .inl ⟨hnone, by simpa using hpage, fun before row' after hsplit => ?_⟩
        cases before with
        | nil =>
          cases hsplit
          simpa using hroom
        | cons first before =>
          rw [map_cons, cons_append, List.cons.injEq] at hsplit
          obtain ⟨rfl, hsplit⟩ := hsplit
          simpa using hall before row' after hsplit
      · refine .inr ⟨(key, row) :: taken, key', row', rest, hsome, ?_, by simpa using hpage, hnode⟩
        rw [hrows, cons_append]
    · cases hpage
      refine ⟨⟨hlen, .inl rfl⟩, .inr ⟨[], key, row, rows, rfl, rfl, ?_, hroom⟩⟩
      rw [map_nil, append_nil]

namespace BrowserBook

variable {book : BrowserBook} {pageSection : BrowserSnapshotSection}
  {after : Option BrowserPageKey}

omit [PageExternals] in
theorem rowsAfter_of_split {taken rest key row}
    (h : book.rowsAfter pageSection after = .ok (taken ++ (key, row) :: rest)) :
    book.rowsAfter pageSection (some key) = .ok rest := by
  have hctxs : ∀ start, book.contextRows start = taken ++ (key, row) :: rest →
      book.rowsAfter .contexts (some key) = .ok rest := by
    intro start hrows
    obtain ⟨before, tail, hrange, -, htail⟩ := map_eq_append_iff.mp hrows
    obtain ⟨⟨id, context⟩, tail', rfl, hentry, rfl⟩ := map_eq_cons_iff.mp htail
    cases hentry
    show Except.ok (book.contextRows (some id)) = _
    rw [contextRows, OrdMap.rangeAfter_of_split hrange]
  have htabs : ∀ start, book.tabRows start = taken ++ (key, row) :: rest →
      book.rowsAfter .tabs (some key) = .ok rest := by
    intro start hrows
    obtain ⟨before, tail, hrange, -, htail⟩ := map_eq_append_iff.mp hrows
    obtain ⟨⟨id, tab⟩, tail', rfl, hentry, rfl⟩ := map_eq_cons_iff.mp htail
    cases hentry
    show Except.ok (book.tabRows (some id)) = _
    rw [tabRows, OrdMap.rangeAfter_of_split hrange]
  unfold rowsAfter at h
  split at h
  · exact hctxs _ (Except.ok.inj h)
  · exact hctxs _ (Except.ok.inj h)
  · cases h
  · exact htabs _ (Except.ok.inj h)
  · exact htabs _ (Except.ok.inj h)
  · cases h

/-! ## Following the keys -/

variable (book)

variable (pageSection)

/-- The pages of a section, as a paged query. -/
def pagesOf (maxItems maxEncodedBytes : ℕ) (after : Option BrowserPageKey) :
    Except BrowserContractError BrowserSnapshotPage :=
  book.snapshotPage pageSection after maxItems maxEncodedBytes

omit [PageExternals] in
/-- What is left of a section at a key. -/
def Left (after : Option BrowserPageKey) (left : List BrowserSnapshotRow) : Prop :=
  ∃ rows, book.rowsAfter pageSection after = .ok rows ∧ left = rows.map Prod.snd

omit [PageExternals] in
theorem left_start :
    book.Left pageSection none (book.sectionRows pageSection) := by
  cases pageSection with
  | contexts | tabs => exact ⟨_, rfl, rfl⟩

variable {pageSection}

variable {book}

variable {maxItems maxEncodedBytes : ℕ} {left : List BrowserSnapshotRow}
  {page : BrowserSnapshotPage}

theorem snapshotPage_cases (hleft : book.Left pageSection after left)
    (hnil : PageExternals.toVecNamed [] = some [0x90])
    (h : book.pagesOf pageSection maxItems maxEncodedBytes after = .ok page) :
    (page.items.length ≤ maxItems ∧ page.encodedBytes ≤ maxEncodedBytes) ∧
    ((page.nextAfter = none ∧ left = page.items ∧
        ∀ before row rest, left = before ++ row :: rest →
          Room maxItems maxEncodedBytes before row) ∨
      ∃ key row rest, page.nextAfter = some key ∧ left = page.items ++ row :: rest ∧
        book.Left pageSection (some key) rest ∧
        ¬ Room maxItems maxEncodedBytes page.items row) := by
  obtain ⟨rows, hrows, rfl⟩ := hleft
  simp only [pagesOf, snapshotPage, ok_iff, not_or, hrows, Except.ok.injEq, exists_eq_left',
    Prod.exists] at h
  obtain ⟨⟨-, hbytes⟩, items, examined, next, hfill, bytes, henc, rfl⟩ := h
  obtain ⟨⟨hlen, hsize⟩, hcases⟩ := fillPage_cases (Nat.zero_le _) hfill
  refine ⟨⟨hlen, ?_⟩, ?_⟩
  · have hle : bytes.length ≤ maxEncodedBytes := by
      rcases hsize with rfl | ⟨bytes', hencode', hle⟩
      · rw [hnil] at henc
        cases henc
        show 1 ≤ maxEncodedBytes
        omega
      · rw [henc] at hencode'
        cases hencode'
        exact hle
    exact (Nat.min_le_left _ _).trans hle
  · rcases hcases with ⟨rfl, rfl, hall⟩ | ⟨taken, key, row, rest, rfl, rfl, rfl, hnode⟩
    · exact .inl ⟨rfl, by simp, by simpa using hall⟩
    · refine .inr ⟨key, row, rest.map Prod.snd, rfl, by simp, ?_, by simpa using hnode⟩
      exact ⟨rest, rowsAfter_of_split hrows, rfl⟩

theorem page_skips (hnil : PageExternals.toVecNamed [] = some [0x90]) :
    Paging.Skips (book.pagesOf pageSection maxItems maxEncodedBytes)
      BrowserSnapshotPage.nextAfter BrowserSnapshotPage.items (book.Left pageSection) := by
  intro after left page hleft hpage
  obtain ⟨-, ⟨hnone, hall, -⟩ | ⟨key, row, rest, hsome, hsplit, hrest, -⟩⟩ :=
    snapshotPage_cases hleft hnil hpage
  · exact .inl ⟨hnone, hall⟩
  · exact .inr ⟨key, row, rest, hsome, hsplit, hrest⟩

/-- Every row of the section finds room on one page, behind the rows before it. -/
def FitsOnePage (book : BrowserBook) (pageSection : BrowserSnapshotSection)
    (maxItems maxEncodedBytes : ℕ) : Prop :=
  ∀ before row rest, book.sectionRows pageSection = before ++ row :: rest →
    Room maxItems maxEncodedBytes before row

/-- Paging through a book. Where no page is an error, following `next_after` from the start ends,
and every page keeps its bounds; the pages have all rows of the section iff these all fit on
one page. -/
theorem pages_exact_iff (book : BrowserBook) (pageSection : BrowserSnapshotSection)
    (maxItems maxEncodedBytes : ℕ) (hempty : PageExternals.toVecNamed [] = some [0x90])
    (hok : ∀ rounds error, follow (book.pagesOf pageSection maxItems maxEncodedBytes)
      BrowserSnapshotPage.nextAfter rounds none ≠ .error error) :
    ∃ pages, (∃ rounds, follow (book.pagesOf pageSection maxItems maxEncodedBytes)
        BrowserSnapshotPage.nextAfter rounds none = .ok (some pages)) ∧
      (∀ page ∈ pages, page.items.length ≤ maxItems ∧ page.encodedBytes ≤ maxEncodedBytes) ∧
      (pages.flatMap BrowserSnapshotPage.items = book.sectionRows pageSection ↔
        book.FitsOnePage pageSection maxItems maxEncodedBytes) := by
  have hskips := @page_skips _ book pageSection maxItems maxEncodedBytes hempty
  have hstart := book.left_start pageSection
  obtain ⟨pages, hfollow, hchain⟩ :=
    follow_chain hskips.shrinks hstart (Nat.lt_succ_self _) hok
  refine ⟨pages, ⟨_, hfollow⟩, ?_, ?_⟩
  · intro page hpage
    obtain ⟨after, left, hleft, hread⟩ := hchain.at_of_mem hskips.shrinks hstart page hpage
    exact (snapshotPage_cases hleft hempty hread).1
  · have hcount := hchain.length_items hskips hstart
    cases hchain with
    | @last _ page hread hnone =>
      obtain ⟨-, ⟨-, hitems, hroom⟩ | ⟨key, _, _, hsome, -⟩⟩ :=
        snapshotPage_cases hstart hempty hread
      · rw [flatMap_singleton, ← hitems]
        exact ⟨fun _ => hroom, fun _ => rfl⟩
      · rw [hnone] at hsome
        cases hsome
    | @more _ page key' pages hread hsome hrest =>
      obtain ⟨-, ⟨hnone, -⟩ | ⟨key, row, rest, -, hsplit, -, hnode⟩⟩ :=
        snapshotPage_cases hstart hempty hread
      · rw [hnone] at hsome
        cases hsome
      · -- a second page means that a row was lost, and that it had no room on the first
        have hpos : 0 < pages.length := by
          cases hrest <;> simp
        constructor
        · intro hall
          rw [hall, length_cons] at hcount
          omega
        · intro hfits
          exact absurd (hfits _ _ _ hsplit) hnode

end BrowserBook

end Pages

/-! ## Two contexts, one a page -/

def packStr (text : String) : List UInt8 :=
  UInt8.ofNat (0xa0 + text.utf8ByteSize) :: text.toUTF8.toList

def packId {kind : IdKind} (id : Uuid7 kind) : List UInt8 :=
  [0xc4, 16] ++ List.replicate 15 0 ++ [UInt8.ofNat id.payload]

def packFreshRow : BrowserSnapshotRow → List UInt8
  | .context view =>
    0x81 :: packStr "Context" ++ 0x8a :: packStr "context_id" ++ packId view.contextId ++
      packStr "task_id" ++ packId view.taskId ++
      packStr "generation" ++ [UInt8.ofNat view.generation] ++
      packStr "selected_tab_id" ++ [0xc0] ++ packStr "health" ++ packStr "healthy" ++
      packStr "closed" ++ [0xc2] ++ packStr "permissions" ++ [0x80] ++
      packStr "linked_artifacts" ++ [0x90] ++ packStr "recipe_id" ++ [0xc0] ++
      packStr "recording_id" ++ [0xc0]
  | .tab _ => []

@[reducible] def samplePages : PageExternals where
  toVecNamed rows := some (UInt8.ofNat (0x90 + rows.length) :: rows.flatMap packFreshRow)
  asBytes id := List.replicate 15 0 ++ [UInt8.ofNat id.payload]

def freshContext : ContextState where
  taskId := ⟨1⟩
  generation := 1
  selectedTabId := none
  health := .healthy
  closed := false
  permissions := ∅
  linkedArtifacts := ∅
  recipeId := none
  recordingId := none

def twoContexts : BrowserBook :=
  { BrowserBook.new with
    contexts := ((∅ : ExtTreeMap BrowserContextId ContextState).insert ⟨1⟩ freshContext).insert ⟨2⟩
      freshContext }

section Sample

attribute [local instance] samplePages

def firstOfTwo : BrowserSnapshotPage where
  pageSection := .contexts
  afterItem := none
  items := [.context (freshContext.view ⟨1⟩)]
  nextAfter := some (.context ⟨2⟩)
  nextCursor := some (keyBytes (.context ⟨2⟩))
  examined := 2
  encodedBytes := 174

def secondOfTwo : BrowserSnapshotPage where
  pageSection := .contexts
  afterItem := some (.context ⟨2⟩)
  items := []
  nextAfter := none
  nextCursor := none
  examined := 0
  encodedBytes := 1

theorem page_first : twoContexts.pagesOf .contexts 1 1048576 none = .ok firstOfTwo := by
  decide +kernel

theorem page_second :
    twoContexts.pagesOf .contexts 1 1048576 (some (.context ⟨2⟩)) = .ok secondOfTwo := by
  decide +kernel

theorem follow_twoContexts (rounds : ℕ) :
    follow (twoContexts.pagesOf .contexts 1 1048576) BrowserSnapshotPage.nextAfter
      (rounds + 2) none = .ok (some [firstOfTwo, secondOfTwo]) := by
  rw [follow_more page_first rfl, follow_last page_second rfl]
  rfl

theorem follow_twoContexts_ok (rounds : ℕ) (error) :
    follow (twoContexts.pagesOf .contexts 1 1048576) BrowserSnapshotPage.nextAfter
      rounds none ≠ .error error := by
  match rounds with
  | 0 => simp [follow]
  | 1 =>
    rw [follow_more page_first rfl]
    simp [follow, bind, Except.bind, pure, Except.pure]
  | rounds + 2 =>
    rw [follow_twoContexts]
    simp

/-- With one item a page, the second of two contexts is on no page. -/
theorem pages_lose_context :
    twoContexts.sectionRows .contexts =
        [.context (freshContext.view ⟨1⟩), .context (freshContext.view ⟨2⟩)] ∧
      follow (twoContexts.pagesOf .contexts 1 1048576) BrowserSnapshotPage.nextAfter 2 none =
        .ok (some [firstOfTwo, secondOfTwo]) ∧
      [firstOfTwo, secondOfTwo].flatMap BrowserSnapshotPage.items =
        [.context (freshContext.view ⟨1⟩)] :=
  ⟨rfl, follow_twoContexts 0, rfl⟩

theorem pages_exact_twoContexts :
    ∃ pages, (∃ rounds, follow (twoContexts.pagesOf .contexts 1 1048576)
        BrowserSnapshotPage.nextAfter rounds none = .ok (some pages)) ∧
      (∀ page ∈ pages, page.items.length ≤ 1 ∧ page.encodedBytes ≤ 1048576) ∧
      (pages.flatMap BrowserSnapshotPage.items = twoContexts.sectionRows .contexts ↔
        twoContexts.FitsOnePage .contexts 1 1048576) :=
  twoContexts.pages_exact_iff .contexts 1 1048576 rfl follow_twoContexts_ok

end Sample

end DevManager
