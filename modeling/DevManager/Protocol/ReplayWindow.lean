import DevManager.Lib.Calls
import DevManager.Lib.Result
import Mathlib.Tactic

/-!
# The replay window of a sealed channel (`src/protocol/crypto.rs`)

The receiver keeps the highest sequence it accepted and, as the bits of one
word, which of the 63 sequences below it were accepted too. Bit `d` of `seen`
stands for the sequence `highest - d`.

* `accept_cases`: everything one call can do.
* `Records.accept_ok_iff`: what a window that records a list accepts.
* `records_after`: after any calls the window records what the calls accepted.
-/

namespace DevManager

open List

/-- `CryptoError` (L1423-1448), as far as the channel returns it. -/
inductive CryptoError
  | unsupportedVersion (version : UInt8)
  | zeroSequence
  | sequenceExhausted
  | sessionExpired
  | replay (sequence : ℕ)
  | replayTooOld (sequence : ℕ)
  | frameExceeded (declared : ℕ)
  | plaintextExceeded (declared : ℕ)
  | authenticity
  | revokedKey
  | handshakeFailed
  | identityBinding

/-- `REPLAY_WINDOW_SIZE`, L43 -/
def replayWindowSize : ℕ := 64

/-- `ReplayWindow`, L616-619 -/
structure ReplayWindow where
  highest : ℕ
  seen : BitVec 64

namespace ReplayWindow

/-- `new`, L622-627 -/
def new : ReplayWindow := ⟨0, 0⟩

/-- `accept`, L633-662 -/
def accept (window : ReplayWindow) (sequence : ℕ) : Except CryptoError Unit × ReplayWindow :=
  if sequence = 0 then (.error .zeroSequence, window)
  else if window.highest = 0 then (.ok (), { highest := sequence, seen := 1 })
  else if sequence > window.highest then
    let shift := sequence - window.highest
    let seen := if shift ≥ replayWindowSize then 1 else window.seen <<< shift ||| 1
    (.ok (), { highest := sequence, seen })
  else
    let distance := window.highest - sequence
    if distance ≥ replayWindowSize then (.error (.replayTooOld sequence), window)
    else
      let mask := 1#64 <<< distance
      if window.seen &&& mask ≠ 0 then (.error (.replay sequence), window)
      else (.ok (), { window with seen := window.seen ||| mask })

/-! ## What the window records -/

/-- The highest of the accepted sequences, zero when there is none. -/
def highestOf (accepted : List ℕ) : ℕ := accepted.foldr max 0

/-- The window stands for the accepted sequences: no zero among them, the highest of them, and
the bit of every sequence less than 64 below it. -/
structure Records (window : ReplayWindow) (accepted : List ℕ) : Prop where
  nonzero : 0 ∉ accepted
  highest : window.highest = highestOf accepted
  seen : ∀ d < replayWindowSize,
    window.seen.getLsbD d = true ↔ ∃ s ∈ accepted, s + d = window.highest

theorem le_highestOf {accepted : List ℕ} : ∀ {s}, s ∈ accepted → s ≤ highestOf accepted := by
  induction accepted with
  | nil => intro s hs; cases hs
  | cons a accepted ih =>
    intro s hs
    show s ≤ max a (highestOf accepted)
    rcases mem_cons.mp hs with rfl | hs
    · exact le_max_left _ _
    · exact le_max_of_le_right (ih hs)

theorem highestOf_mem {accepted : List ℕ} (h : accepted ≠ []) : highestOf accepted ∈ accepted := by
  induction accepted with
  | nil => exact absurd rfl h
  | cons a accepted ih =>
    show max a (highestOf accepted) ∈ a :: accepted
    rcases max_choice a (highestOf accepted) with hmax | hmax
    · rw [hmax]
      exact .head _
    · rw [hmax]
      by_cases hnil : accepted = []
      · subst hnil
        rw [show highestOf [] = 0 from rfl] at hmax ⊢
        exact mem_cons.mpr (.inl (by omega))
      · exact .tail _ (ih hnil)

theorem highestOf_concat (accepted : List ℕ) (s : ℕ) :
    highestOf (accepted ++ [s]) = max (highestOf accepted) s := by
  induction accepted with
  | nil => show max s 0 = max 0 s; omega
  | cons a accepted ih =>
    show max a (highestOf (accepted ++ [s])) = max (max a (highestOf accepted)) s
    rw [ih, max_assoc]

theorem highestOf_eq_zero {accepted : List ℕ} (h : 0 ∉ accepted) :
    highestOf accepted = 0 ↔ accepted = [] := by
  constructor
  · intro hzero
    by_contra hne
    exact h (hzero ▸ highestOf_mem hne)
  · rintro rfl
    rfl

theorem records_new : Records new [] where
  nonzero := not_mem_nil
  highest := rfl
  seen := by
    intro d _
    constructor
    · intro hbit
      simp [new] at hbit
    · rintro ⟨s, hs, _⟩
      cases hs

/-! ## The cases of `accept` -/

theorem and_mask_ne_zero {seen : BitVec 64} {distance : ℕ} (h : distance < 64) :
    seen &&& (1#64 <<< distance) ≠ 0 ↔ seen.getLsbD distance = true := by
  constructor
  · intro hne
    by_contra hbit
    apply hne
    apply BitVec.eq_of_getLsbD_eq
    intro i hi
    by_cases hid : i = distance
    · subst hid
      simp [hbit]
    · simp only [BitVec.getLsbD_and, BitVec.getLsbD_shiftLeft, BitVec.getLsbD_one]
      simp
      omega
  · intro hbit hzero
    have hget : (seen &&& (1#64 <<< distance)).getLsbD distance = false := by
      rw [hzero]
      simp
    rw [BitVec.getLsbD_and, hbit] at hget
    simp [h] at hget

/-- The word after a jump of `shift` ahead. -/
def jump (seen : BitVec 64) (shift : ℕ) : BitVec 64 :=
  if shift ≥ replayWindowSize then 1 else seen <<< shift ||| 1

theorem getLsbD_jump {seen : BitVec 64} {shift d : ℕ} (hd : d < 64) :
    (jump seen shift).getLsbD d = true ↔ d = 0 ∨ shift ≤ d ∧ seen.getLsbD (d - shift) = true := by
  unfold jump
  split_ifs with hfar
  · have : ¬ shift ≤ d := by unfold replayWindowSize at hfar; omega
    simp [this]
  · simp only [BitVec.getLsbD_or, BitVec.getLsbD_shiftLeft]
    by_cases hzero : d = 0
    · simp [hzero]
    · simp [hzero, hd]

theorem accept_cases (window : ReplayWindow) (s : ℕ) :
    (∃ e, window.accept s = (.error e, window) ∧ (s = 0 ∨ window.highest ≠ 0 ∧
      s ≤ window.highest ∧ (replayWindowSize ≤ window.highest - s ∨
        window.highest - s < replayWindowSize ∧ window.seen.getLsbD (window.highest - s) = true))) ∨
    (s ≠ 0 ∧ window.highest = 0 ∧ window.accept s = (.ok (), ⟨s, 1⟩)) ∨
    (window.highest ≠ 0 ∧ window.highest < s ∧
      window.accept s = (.ok (), ⟨s, jump window.seen (s - window.highest)⟩)) ∨
    (s ≠ 0 ∧ s ≤ window.highest ∧ window.highest - s < replayWindowSize ∧
      ¬ window.seen.getLsbD (window.highest - s) = true ∧
      window.accept s =
        (.ok (), { window with seen := window.seen ||| 1#64 <<< (window.highest - s) })) := by
  by_cases hzero : s = 0
  · exact .inl ⟨.zeroSequence, by simp [accept, hzero], .inl hzero⟩
  by_cases hnew : window.highest = 0
  · exact .inr (.inl ⟨hzero, hnew, by simp [accept, hzero, hnew]⟩)
  by_cases hgreater : window.highest < s
  · exact .inr (.inr (.inl ⟨hnew, hgreater, by simp [accept, hzero, hnew, hgreater, jump]⟩))
  have hle : s ≤ window.highest := by omega
  by_cases hold : replayWindowSize ≤ window.highest - s
  · exact .inl ⟨.replayTooOld s, by simp [accept, hzero, hnew, hgreater, hold],
      Or.inr ⟨hnew, hle, .inl hold⟩⟩
  have hnear : window.highest - s < replayWindowSize := by omega
  have hmask : window.seen &&& (1#64 <<< (window.highest - s)) ≠ 0 ↔
      window.seen.getLsbD (window.highest - s) = true := and_mask_ne_zero hnear
  by_cases hseen : window.seen.getLsbD (window.highest - s) = true
  · refine .inl ⟨.replay s, ?_, .inr ⟨hnew, hle, .inr ⟨hnear, hseen⟩⟩⟩
    unfold accept
    rw [if_neg hzero, if_neg hnew, if_neg hgreater, if_neg hold, if_pos (hmask.mpr hseen)]
  · refine .inr (.inr (.inr ⟨hzero, hle, hnear, hseen, ?_⟩))
    unfold accept
    rw [if_neg hzero, if_neg hnew, if_neg hgreater, if_neg hold, if_neg (mt hmask.mp hseen)]

theorem accept_refused {window : ReplayWindow} {s : ℕ} (h : (window.accept s).1 ≠ .ok ()) :
    (window.accept s).2 = window := by
  rcases accept_cases window s with ⟨e, heq, _⟩ | ⟨_, _, heq⟩ | ⟨_, _, heq⟩ | ⟨_, _, _, _, heq⟩
  · rw [heq]
  · exact absurd (congrArg Prod.fst heq) h
  · exact absurd (congrArg Prod.fst heq) h
  · exact absurd (congrArg Prod.fst heq) h

namespace Records

variable {window : ReplayWindow} {accepted : List ℕ}

theorem highest_eq_zero (h : Records window accepted) : window.highest = 0 ↔ accepted = [] := by
  rw [h.highest, highestOf_eq_zero h.nonzero]

variable {s : ℕ}

theorem mem_iff (h : Records window accepted) (hle : s ≤ window.highest)
    (hnear : window.highest - s < replayWindowSize) :
    window.seen.getLsbD (window.highest - s) = true ↔ s ∈ accepted := by
  rw [h.seen _ hnear]
  constructor
  · rintro ⟨s', hs', hsum⟩
    have : s' = s := by omega
    exact this ▸ hs'
  · intro hs
    exact ⟨s, hs, by omega⟩

theorem accept_ok_iff (h : Records window accepted) (s : ℕ) : (window.accept s).1 = .ok () ↔
      s ≠ 0 ∧ s ∉ accepted ∧ (accepted = [] ∨ highestOf accepted < s ∨
        highestOf accepted - s < replayWindowSize) := by
  rw [← h.highest, ← h.highest_eq_zero]
  have hbelow : ∀ s' ∈ accepted, s' ≤ window.highest := fun s' hs' =>
    h.highest ▸ le_highestOf hs'
  rcases accept_cases window s with ⟨e, heq, hwhy⟩ | ⟨hs, hnew, heq⟩ | ⟨hnew, hlt, heq⟩ |
    ⟨hs, hle, hnear, hbit, heq⟩
  · rw [heq]
    simp only [reduceCtorEq, false_iff]
    rintro ⟨hs, hnot, hcase⟩
    rcases hwhy with hzero | ⟨hne, hle, hold | ⟨hnear, hbit⟩⟩
    · exact hs hzero
    · omega
    · exact hnot ((h.mem_iff hle hnear).mp hbit)
  · have hnil : accepted = [] := h.highest_eq_zero.mp hnew
    simp [heq, hs, hnil, hnew]
  · have hnot : s ∉ accepted := fun hs => by
      have := hbelow s hs
      omega
    have hs : s ≠ 0 := by omega
    simp [heq, hs, hnot, hlt]
  · have hnot : s ∉ accepted := mt (h.mem_iff hle hnear).mpr hbit
    simp [heq, hs, hnot, hnear]

theorem nonzero_concat (h : Records window accepted) (hs : s ≠ 0) : 0 ∉ accepted ++ [s] := by
  rw [mem_append, mem_singleton]
  rintro (hmem | hzero)
  · exact h.nonzero hmem
  · exact hs hzero.symm

theorem first (hs : s ≠ 0) : Records ⟨s, 1⟩ [s] where
  nonzero := by simpa using hs.symm
  highest := (Nat.max_eq_left (Nat.zero_le s)).symm
  seen := by
    intro d _
    simp

theorem ahead (h : Records window accepted) (hlt : window.highest < s) :
    Records ⟨s, jump window.seen (s - window.highest)⟩ (accepted ++ [s]) where
  nonzero := h.nonzero_concat (by omega)
  highest := by
    rw [highestOf_concat, ← h.highest]
    exact (Nat.max_eq_right hlt.le).symm
  seen := by
    intro d hd
    show (jump window.seen (s - window.highest)).getLsbD d = true ↔ ∃ s' ∈ _, s' + d = s
    rw [getLsbD_jump hd]
    constructor
    · rintro (rfl | ⟨hle, hbit⟩)
      · exact ⟨s, by simp, rfl⟩
      · obtain ⟨s', hs', hsum⟩ := (h.seen _ (by omega)).mp hbit
        exact ⟨s', mem_append_left _ hs', by omega⟩
    · rintro ⟨s', hs', hsum⟩
      rcases mem_append.mp hs' with hs' | hs'
      · have hle : s' ≤ window.highest := h.highest ▸ le_highestOf hs'
        exact .inr ⟨by omega, (h.seen _ (by omega)).mpr ⟨s', hs', by omega⟩⟩
      · rw [mem_singleton.mp hs'] at hsum
        exact .inl (by omega)

theorem inside (h : Records window accepted) (hs : s ≠ 0) (hle : s ≤ window.highest) :
    Records { window with seen := window.seen ||| 1#64 <<< (window.highest - s) }
      (accepted ++ [s]) where
  nonzero := h.nonzero_concat hs
  highest := by
    rw [highestOf_concat, ← h.highest]
    exact (Nat.max_eq_left hle).symm
  seen := by
    intro d hd
    have hbit : (window.seen ||| 1#64 <<< (window.highest - s)).getLsbD d = true ↔
        window.seen.getLsbD d = true ∨ d = window.highest - s := by
      unfold replayWindowSize at hd
      rw [BitVec.getLsbD_or, Bool.or_eq_true, BitVec.getLsbD_shiftLeft, BitVec.getLsbD_one]
      refine or_congr_right ?_
      simp
      omega
    show (window.seen ||| 1#64 <<< (window.highest - s)).getLsbD d = true ↔
      ∃ s' ∈ _, s' + d = window.highest
    rw [hbit, h.seen d hd]
    constructor
    · rintro (⟨s', hs', hsum⟩ | rfl)
      · exact ⟨s', mem_append_left _ hs', hsum⟩
      · exact ⟨s, by simp, by omega⟩
    · rintro ⟨s', hs', hsum⟩
      rcases mem_append.mp hs' with hs' | hs'
      · exact .inl ⟨s', hs', hsum⟩
      · rw [mem_singleton.mp hs'] at hsum
        exact .inr (by omega)

theorem accept (h : Records window accepted) (hok : (window.accept s).1 = .ok ()) :
    Records (window.accept s).2 (accepted ++ [s]) := by
  rcases accept_cases window s with ⟨e, heq, _⟩ | ⟨hs, hnew, heq⟩ | ⟨hnew, hlt, heq⟩ |
    ⟨hs, hle, _, _, heq⟩
  · rw [heq] at hok
    cases hok
  · rw [heq, h.highest_eq_zero.mp hnew]
    exact first hs
  · rw [heq]
    exact h.ahead hlt
  · rw [heq]
    exact h.inside hs hle

end Records

/-! ## Runs -/

/-- The sequences of the calls that succeeded, in order. -/
def accepted (history : List (ℕ × Except CryptoError Unit)) : List ℕ :=
  (history.filter fun entry => isOk entry.2).map Prod.fst

theorem accepted_concat (history) (s : ℕ) (r) :
    accepted (history ++ [(s, r)]) = accepted history ++ if isOk r then [s] else [] := by
  unfold accepted
  rw [filter_append, map_append]
  cases r <;> rfl

theorem records_after (calls : List ℕ) :
    Records (Calls.after accept new calls) (accepted (Calls.trace accept new calls)) := by
  refine Calls.history_invariant (P := fun window history => Records window (accepted history))
    records_new ?_ calls
  intro window history s h
  rw [accepted_concat]
  cases hr : (window.accept s).1 with
  | ok u =>
    have hok : (window.accept s).1 = .ok () := hr
    simpa [isOk] using h.accept hok
  | error e =>
    have hne : (window.accept s).1 ≠ .ok () := by rw [hr]; simp
    rw [accept_refused hne]
    simpa [isOk] using h

end ReplayWindow

end DevManager
