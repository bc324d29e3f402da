import DevManager.Domain.PayloadWire
import DevManager.Kernel.Reload

/-!
# Receipts in the browser book of a task

In the book of a snapshot every receipt was made by a `RequestAccepted` fact.
What `plan_admit` checked of the request that the fact accepts still holds later:
its URLs are valid, and its context is in the book unless it was to create it.

* `planAdmit_backed`: the facts of an admitted request, new or replayed.
* `applyBatch_browser_ok`, `applyBatch_browser_mpr`: browser facts folded over a snapshot
  are folded over its book.
* `receiptsBacked_of_reachable`: every receipt in a reachable snapshot.
-/

namespace DevManager

open Std (ExtTreeMap)
open List

namespace BrowserBook

section Backed

variable [Externals] {b b' mid : BrowserBook} {fact : BrowserDurableFact}
  {facts : List BrowserDurableFact}

/-- The fact is well formed, and accepts only requests in contexts that the book has, or requests
to create one. -/
structure Backed (b : BrowserBook) (fact : BrowserDurableFact) : Prop where
  checked : fact.Checked
  context : ∀ accepted, fact = .requestAccepted accepted → accepted.action ≠ .createContext →
    accepted.contextId ∈ b.contexts

/-- Every receipt was made by a fact that the book backs. -/
def ReceiptsBacked (b : BrowserBook) : Prop :=
  ∀ (id : BrowserRequestId) stored, b.receipts[id]? = some stored →
    ∃ fact, stored = receiptOfFact fact ∧ Backed b (.requestAccepted fact)

/-! ## One fact -/

theorem applyFact_contexts (h : b.applyFact fact = .ok b') {id}
    (hid : id ∈ b.contexts) : id ∈ b'.contexts := by
  obtain ⟨c, hc⟩ := OrdMap.mem_iff_exists.mp hid
  obtain ⟨c', hc', -⟩ := applyFact_context h hc
  exact OrdMap.mem_iff_exists.mpr ⟨c', hc'⟩

theorem Backed.mono (h : Backed b fact) (hctxs : ∀ id ∈ b.contexts, id ∈ b'.contexts) :
    Backed b' fact :=
  ⟨h.checked, fun accepted heq hne => hctxs _ (h.context accepted heq hne)⟩

variable (hb : ReceiptsBacked b)

include hb

theorem ReceiptsBacked.congr (hrec : b'.receipts = b.receipts)
    (hctxs : ∀ id ∈ b.contexts, id ∈ b'.contexts) : ReceiptsBacked b' := by
  intro id stored hstored
  rw [hrec] at hstored
  obtain ⟨fact, heq, hfact⟩ := hb id stored hstored
  exact ⟨fact, heq, hfact.mono hctxs⟩

theorem ReceiptsBacked.applyFact (hfact : Backed b fact)
    (h : b.applyFact fact = .ok b') : ReceiptsBacked b' := by
  obtain ⟨-, -, -, hrec⟩ := applyFact_frame h
  have hctxs : ∀ id ∈ b.contexts, id ∈ b'.contexts := fun id => applyFact_contexts h
  intro id stored hstored
  rw [hrec] at hstored
  rcases receiptsAfter_getElem? hstored with hold | ⟨accepted, rfl, rfl⟩
  · obtain ⟨prior, heq, hprior⟩ := hb id stored hold
    exact ⟨prior, heq, hprior.mono hctxs⟩
  · exact ⟨accepted, rfl, hfact.mono hctxs⟩

theorem ReceiptsBacked.foldlM (hall : ∀ fact ∈ facts, Backed b fact)
    (h : facts.foldlM BrowserBook.applyFact b = .ok b') : ReceiptsBacked b' := by
  have hkept : ReceiptsBacked b' ∧ ∀ fact ∈ facts, Backed b' fact := by
    refine foldlM_invariant (P := fun b => ReceiptsBacked b ∧ ∀ fact ∈ facts, Backed b fact)
      (fun fact hfact s s' hs hstep => ?_) ⟨hb, hall⟩ h
    refine ⟨hs.1.applyFact (hs.2 fact hfact) hstep, fun other hother => ?_⟩
    exact (hs.2 other hother).mono fun id => applyFact_contexts hstep
  exact hkept.1

theorem ReceiptsBacked.closeTask {taskId}
    (h : b.closeTask taskId = .ok b') : ReceiptsBacked b' := by
  obtain ⟨-, hclose, -⟩ := closeTask_closes h
  refine hb.congr hclose.receipts fun id hid => ?_
  rw [OrdMap.mem_iff_exists] at hid ⊢
  obtain ⟨c, hc⟩ := hid
  obtain ⟨c', hc', -⟩ := OrdMap.Related.of_left (hclose.contexts id) hc
  exact ⟨c', hc'⟩

theorem ReceiptsBacked.openTask {taskId}
    (h : b.openTask taskId = .ok b') : ReceiptsBacked b' := by
  obtain ⟨-, hctxs, -, -, hrec, -⟩ := openTask_ok h
  exact hb.congr hrec fun id hid => by rw [hctxs]; exact hid

omit hb

/-! ## An admitted request -/

variable {request : BrowserRequest} {accepted : BrowserAcceptedReceipt}

variable {identity : List BrowserDurableFact}

omit [Externals] in
theorem context_of_planIdentityFacts
    (h : b.planIdentityFacts request = .ok identity) (hne : request.action ≠ .createContext) :
    request.contextId ∈ b.contexts := by
  cases planIdentityFacts_cases h with
  | created _ _ hact => exact absurd hact hne
  | again hctx | inContext hctx => exact OrdMap.mem_iff_exists.mpr ⟨_, hctx⟩

theorem checked_of_checkAction (h : checkAction request = .ok ()) : request.action.Checked := by
  unfold checkAction at h
  cases hact : request.action <;>
    simp only [hact, BrowserAction.url, ok_iff] at h <;>
    simp only [BrowserAction.Checked]
  case openTab url kind => exact h.1
  case navigate url => exact h.1
  case fillSecret vaultRef fieldSelector => exact h.2

theorem checked_of_planIdentityFacts
    (hcheck : checkAction request = .ok ()) (h : b.planIdentityFacts request = .ok identity) :
    ∀ fact ∈ identity, fact.Checked := by
  intro fact hfact
  rcases (planIdentityFacts_cases h).fact hfact with rfl | ⟨-, hfact⟩
  · exact trivial
  · cases hfact with
    | tabOpened hurl => exact validateUrl_of_checkAction hcheck hurl
    | _ => exact trivial

theorem planAdmit_backed (hb : ReceiptsBacked b) (h : b.planAdmit request = .ok accepted)
    (commandId) (actionEpoch : ℕ) :
    ∀ fact ∈ (accepted.bindCommand commandId actionEpoch).facts, Backed b fact := by
  intro fact hfact
  obtain ⟨planned, hplan, rfl⟩ := mem_map.mp hfact
  obtain ⟨-, ⟨prior, hprior, rfl, rfl⟩ | ⟨-, hnew⟩⟩ := planAdmit_eq_ok.mp h
  · -- the receipt of a replayed request was made by a fact
    obtain ⟨first, rfl, hfst⟩ := hb _ prior hprior
    rw [mem_singleton.mp hplan]
    refine ⟨hfst.checked, fun bound heq hne => ?_⟩
    cases heq
    exact hfst.context first rfl hne
  · obtain ⟨-, -, -, hcheck, identity, hident, -, rfl⟩ := planNew_eq_ok.mp hnew
    rcases mem_cons.mp hplan with rfl | hplan
    · refine ⟨checked_of_checkAction hcheck, fun bound heq hne => ?_⟩
      cases heq
      exact context_of_planIdentityFacts hident hne
    · have hchecked := checked_of_planIdentityFacts hcheck hident planned hplan
      have hother := isRequestAccepted_of_mem_planIdentityFacts hident planned hplan
      cases planned with
      | requestAccepted => cases hother
      | _ => exact ⟨hchecked, fun bound heq => by cases heq⟩

end Backed

end BrowserBook

/-! ## Browser facts over a snapshot -/

section Batches

variable [Externals] {s s' : TaskSnapshot} {facts : List BrowserDurableFact}
  {batch batch' : List (Stamp × Event)}

theorem applyBatch_append : applyBatch s (batch ++ batch') = .ok s' ↔
    ∃ mid, applyBatch s batch = .ok mid ∧ applyBatch mid batch' = .ok s' := by
  unfold applyBatch
  rw [foldlM_append, bind_eq_ok]

/-- The snapshot after browser facts that left `book`. -/
def TaskSnapshot.withBook (snap : TaskSnapshot) (book : BrowserBook) (count : ℕ) : TaskSnapshot :=
  { snap with browser := book }.withRevision (snap.task.revision + count)

theorem applyStamped_browser {stamp fact} :
    applyStamped s (stamp, .browser fact) = .ok s' ↔
      s.task.revision + 1 ≤ u64Max ∧ fact.taskId = s.task.id ∧
        ∃ book, s.browser.applyFacts [fact] = .ok book ∧ s' = s.withBook book 1 := by
  rw [applyStamped_eq_ok]
  have hmut : (Event.browser fact).isTaskMutation = true := rfl
  simp only [hmut, true_implies, effect, applyBrowserFact_eq_ok, bumped, if_true]
  constructor
  · rintro ⟨hrev, _, ⟨htask, book, hbook, rfl⟩, rfl⟩
    exact ⟨hrev, htask, book, hbook, rfl⟩
  · rintro ⟨hrev, htask, book, hbook, rfl⟩
    exact ⟨hrev, _, ⟨htask, book, hbook, rfl⟩, rfl⟩

theorem applyBatch_browser_ok :
    ∀ {batch : List (Stamp × Event)} {s : TaskSnapshot},
      batch.map Prod.snd = facts.map Event.browser → applyBatch s batch = .ok s' →
      ∃ book, facts.foldlM BrowserBook.applyFact s.browser = .ok book ∧
        s' = s.withBook book facts.length ∧
        (facts = [] ∨ s.task.revision + facts.length ≤ u64Max) := by
  induction facts with
  | nil =>
    intro batch s hmap h
    rw [map_nil, map_eq_nil_iff] at hmap
    subst hmap
    cases h
    exact ⟨_, rfl, rfl, .inl rfl⟩
  | cons fact facts ih =>
    intro batch s hmap h
    obtain ⟨⟨stamp, payload⟩, rest, rfl, hpayload, hrest⟩ := map_eq_cons_iff.mp hmap
    cases hpayload
    obtain ⟨mid, hmid, hfold⟩ := foldlM_cons_ok.mp h
    obtain ⟨hrev, -, book, hbook, rfl⟩ := applyStamped_browser.mp hmid
    obtain ⟨book', hfold', rfl, hbound⟩ := ih hrest hfold
    refine ⟨book', foldlM_cons_ok.mpr
      ⟨book, (BrowserBook.applyFacts_singleton.mp hbook).2, hfold'⟩, ?_, .inr ?_⟩
    · simp only [TaskSnapshot.withBook, TaskSnapshot.withRevision, length_cons]
      rw [Nat.add_assoc, Nat.add_comm 1]
    · rw [length_cons]
      rcases hbound with rfl | hbound
      · simpa using hrev
      · have hmidRev : (s.withBook book 1).task.revision = s.task.revision + 1 := rfl
        omega

theorem applyBatch_browser_mpr :
    ∀ {batch : List (Stamp × Event)} {s : TaskSnapshot} {book : BrowserBook},
      batch.map Prod.snd = facts.map Event.browser → (∀ fact ∈ facts, fact.taskId = s.task.id) →
      s.browser.facts.length + facts.length ≤ maxBrowserJournalFacts →
      s.task.revision + facts.length ≤ u64Max →
      facts.foldlM BrowserBook.applyFact s.browser = .ok book →
      applyBatch s batch = .ok (s.withBook book facts.length) := by
  induction facts with
  | nil =>
    intro batch s book hmap _ _ _ h
    rw [map_nil, map_eq_nil_iff] at hmap
    subst hmap
    cases h
    rfl
  | cons fact facts ih =>
    intro batch s book hmap htasks hroom hrev h
    obtain ⟨⟨stamp, payload⟩, rest, rfl, hpayload, hrest⟩ := map_eq_cons_iff.mp hmap
    cases hpayload
    rw [length_cons] at hroom hrev
    obtain ⟨mid, hmid, hfold⟩ := foldlM_cons_ok.mp h
    have hjournal : mid.facts.length = s.browser.facts.length + 1 := by
      rw [(BrowserBook.applyFact_frame hmid).1, length_append, length_singleton]
    have hone : applyStamped s (stamp, .browser fact) = .ok (s.withBook mid 1) :=
      applyStamped_browser.mpr ⟨by omega, htasks fact (.head _), mid,
        BrowserBook.applyFacts_singleton.mpr ⟨by omega, hmid⟩, rfl⟩
    have htail := ih (s := s.withBook mid 1) hrest
      (fun other hother => htasks other (.tail _ hother))
      (by show mid.facts.length + facts.length ≤ _; omega)
      (by show s.task.revision + 1 + facts.length ≤ _; omega) hfold
    refine foldlM_cons_ok.mpr ⟨_, hone, ?_⟩
    rw [length_cons]
    refine htail.trans ?_
    simp only [TaskSnapshot.withBook, TaskSnapshot.withRevision]
    rw [Nat.add_assoc, Nat.add_comm 1]

/-! ## Every reachable snapshot -/

variable {envelope : CommandEnvelope}

theorem receiptsBacked_effect {p} {t : ℤ} (hb : s.browser.ReceiptsBacked)
    (hp : ∀ fact, p ≠ .browser fact) (h : effect s p t = .ok s') : s'.browser.ReceiptsBacked := by
  cases effect_browser s p t s' h with
  | frame _ _ hbrowser =>
    rw [hbrowser]
    exact hb
  | closed hbrowser => exact hb.closeTask hbrowser
  | opened hbrowser => exact hb.openTask hbrowser
  | @fact _ fact => exact absurd rfl (hp fact)

theorem receiptsBacked_stamped {entry} (hb : s.browser.ReceiptsBacked)
    (hp : ∀ fact, entry.2 ≠ .browser fact) (h : applyStamped s entry = .ok s') :
    s'.browser.ReceiptsBacked := by
  obtain ⟨-, mid, hmid, rfl⟩ := applyStamped_eq_ok.mp h
  have hkept := receiptsBacked_effect hb hp hmid
  unfold bumped
  split_ifs <;> exact hkept

theorem receiptsBacked_browser {rest}
    (hmap : batch.map Prod.snd = facts.map Event.browser ++ rest)
    (hrest : ∀ p ∈ rest, ∀ fact, p ≠ .browser fact)
    (hfacts : ∀ book, facts.foldlM BrowserBook.applyFact s.browser = .ok book → book.ReceiptsBacked)
    (h : applyBatch s batch = .ok s') : s'.browser.ReceiptsBacked := by
  obtain ⟨first, second, rfl, hfst, hsnd⟩ := map_eq_append_iff.mp hmap
  obtain ⟨mid, hmid, hfold⟩ := applyBatch_append.mp h
  obtain ⟨book, hbook, rfl, -⟩ := applyBatch_browser_ok hfst hmid
  refine foldlM_invariant (P := fun s => s.browser.ReceiptsBacked)
    (fun entry hentry _ _ hs hstep => ?_) (hfacts book hbook) hfold
  refine receiptsBacked_stamped hs (hrest entry.2 ?_) hstep
  rw [← hsnd]
  exact mem_map_of_mem hentry

theorem receiptsBacked_decided {operationId} (hb : s.browser.ReceiptsBacked)
    (hdec : Command.decide (some s) envelope operationId = .ok (batch.map Prod.snd))
    (h : applyBatch s batch = .ok s') : s'.browser.ReceiptsBacked := by
  by_cases hbrowser : ∃ fact, Event.browser fact ∈ batch.map Prod.snd
  · obtain ⟨fact, hfact⟩ := hbrowser
    rcases decide_browser_fact hdec hfact with ⟨request, hdec⟩ | ⟨intent, hdec⟩
    · obtain ⟨-, -, -, accepted, hplan, hevents⟩ := decideBrowser_eq_ok.mp hdec
      refine receiptsBacked_browser (hevents.trans (append_nil _).symm)
        (by simp) (fun book hbook => ?_) h
      exact hb.foldlM (BrowserBook.planAdmit_backed hb hplan _ _) hbook
    · obtain ⟨created, opened, mid, first, second, _, _, -, -, hfst, hmade, happly, hsnd,
        hopen, hevents⟩ := decideOpenTaskBrowser_facts hdec
      refine receiptsBacked_browser hevents (by simp) (fun book hbook => ?_) h
      -- the second request is planned on the book with the first one's facts
      rw [foldlM_append, bind_eq_ok] at hbook
      obtain ⟨mid', hmid', hbook⟩ := hbook
      obtain ⟨hloop, -⟩ := BrowserBook.applyFacts_ok happly
      rw [hloop] at hmid'
      cases hmid'
      have hmid : mid.ReceiptsBacked :=
        hb.foldlM (hmade ▸ BrowserBook.planAdmit_backed hb hfst _ _) hloop
      exact hmid.foldlM (hopen ▸ BrowserBook.planAdmit_backed hmid hsnd _ _) hbook
  · refine foldlM_invariant (P := fun s => s.browser.ReceiptsBacked)
      (fun entry hentry _ _ hs hstep => ?_) hb h
    refine receiptsBacked_stamped hs (fun fact heq => hbrowser ⟨fact, ?_⟩) hstep
    rw [← heq]
    exact mem_map_of_mem hentry

theorem receiptsBacked_of_reachable (hs : kernel.Reachable s) : s.browser.ReceiptsBacked := by
  refine hs.invariant (P := fun s => s.browser.ReceiptsBacked) (fun s hs => ?_)
    fun s s' _ hb hstep => ?_
  · obtain ⟨-, -, -, -, hrec, -⟩ := openTask_ok (isFresh_of_created hs).browser
    intro id stored hstored
    rw [hrec] at hstored
    simp [BrowserBook.new] at hstored
  · cases hstep with
    | decided hdec hbatch => exact receiptsBacked_decided hb hdec hbatch
    | host hfact happly =>
      obtain ⟨-, -, mid, hmid, rfl⟩ := apply_some_eq_ok.mp happly
      have hkept := receiptsBacked_effect hb (fun fact heq => by rw [heq] at hfact; cases hfact)
        hmid
      split_ifs <;> exact hkept

end Batches

end DevManager
