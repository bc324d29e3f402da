import DevManager.Lib.Meet
import DevManager.Protocol.Frame

/-!
# The limits of a connection (`src/protocol/chunk.rs`, `src/protocol/frame.rs`)

The limits of chunks and those of frames are ordered field by field, and both parties take the
smaller value of each field. A valid offer of chunk limits is within the hard maxima; one of frame
limits need not be, and the negotiation cuts it off there.

* `ChunkLimits.agreesOnMeet`, `FrameLimits.agreesOnMeet`: both negotiations take the meet.
-/

namespace DevManager

/-! ## Chunks -/

namespace ChunkLimits

/-- The limits as a tuple, which is ordered field by field. -/
def fields (limits : ChunkLimits) : ℕ × ℕ × ℕ :=
  (limits.maxChunkBytes, limits.maxCumulativeBytes, limits.maxCursorBytes)

theorem fields_injective : Function.Injective fields := by
  rintro ⟨_, _, _⟩ ⟨_, _, _⟩ h
  simpa [fields] using h

instance : LE ChunkLimits := ⟨fun a b => a.fields ≤ b.fields⟩

instance : LT ChunkLimits := ⟨fun a b => a.fields < b.fields⟩

/-- The smaller value of each field. -/
instance : Min ChunkLimits where
  min a b := {
    maxChunkBytes := min a.maxChunkBytes b.maxChunkBytes,
    maxCumulativeBytes := min a.maxCumulativeBytes b.maxCumulativeBytes,
    maxCursorBytes := min a.maxCursorBytes b.maxCursorBytes }

instance : SemilatticeInf ChunkLimits :=
  fields_injective.semilatticeInf fields .rfl .rfl fun _ _ => rfl

theorem le_iff {a b : ChunkLimits} : a ≤ b ↔ a.maxChunkBytes ≤ b.maxChunkBytes ∧
    a.maxCumulativeBytes ≤ b.maxCumulativeBytes ∧ a.maxCursorBytes ≤ b.maxCursorBytes := Iff.rfl

theorem le_v1Default {limits : ChunkLimits} (h : limits.validate = .ok ()) :
    limits ≤ v1Default := by
  rw [validate_eq_ok] at h
  exact le_iff.mpr ⟨h.1.2, h.2.1.2, h.2.2.1.2⟩

theorem validate_inf {a b : ChunkLimits} (ha : a.validate = .ok ()) (hb : b.validate = .ok ()) :
    (a ⊓ b).validate = .ok () := by
  rw [validate_eq_ok] at ha hb ⊢
  show (0 < min _ _ ∧ min _ _ ≤ _) ∧ (0 < min _ _ ∧ min _ _ ≤ _) ∧ (0 < min _ _ ∧ min _ _ ≤ _) ∧
    min _ _ ≤ min _ _
  omega

theorem agreesOnMeet :
    AgreesOnMeet (fun limits : ChunkLimits => limits.validate = .ok ()) v1Default negotiate where
  closed ha hb := by
    rw [inf_eq_left.mpr (inf_le_left.trans (le_v1Default ha))]
    exact validate_inf ha hb
  agree_eq {a b} ha hb := by
    rw [inf_eq_left.mpr (inf_le_left.trans (le_v1Default ha))]
    refine bind_eq_ok.mpr ⟨(), ha, bind_eq_ok.mpr ⟨(), hb, ?_⟩⟩
    exact bind_eq_ok.mpr ⟨(), validate_inf ha hb, rfl⟩

end ChunkLimits

/-! ## Frames -/

namespace FrameLimits

theorem validateOffer_eq_ok {limits : FrameLimits} : limits.validateOffer = .ok () ↔
    0 < limits.maxPhysicalFrameBytes ∧ 0 < limits.maxReassembledMessageBytes ∧
      0 < limits.maxPageItems ∧ 0 < limits.maxPageEncodedBytes := by
  unfold validateOffer
  simp only [forM_eq_ok, List.forall_mem_cons, List.not_mem_nil, false_implies, implies_true,
    and_true, failIf_eq_ok]
  omega

/-- The limits as a tuple, which is ordered field by field. -/
def fields (limits : FrameLimits) : ℕ × ℕ × ℕ × ℕ :=
  (limits.maxPhysicalFrameBytes, limits.maxReassembledMessageBytes, limits.maxPageItems,
    limits.maxPageEncodedBytes)

theorem fields_injective : Function.Injective fields := by
  rintro ⟨_, _, _, _⟩ ⟨_, _, _, _⟩ h
  simpa [fields] using h

instance : LE FrameLimits := ⟨fun a b => a.fields ≤ b.fields⟩

instance : LT FrameLimits := ⟨fun a b => a.fields < b.fields⟩

/-- The smaller value of each field. -/
instance : Min FrameLimits where
  min a b := {
    maxPhysicalFrameBytes := min a.maxPhysicalFrameBytes b.maxPhysicalFrameBytes,
    maxReassembledMessageBytes := min a.maxReassembledMessageBytes b.maxReassembledMessageBytes,
    maxPageItems := min a.maxPageItems b.maxPageItems,
    maxPageEncodedBytes := min a.maxPageEncodedBytes b.maxPageEncodedBytes }

instance : SemilatticeInf FrameLimits :=
  fields_injective.semilatticeInf fields .rfl .rfl fun _ _ => rfl

theorem validateOffer_v1Default : v1Default.validateOffer = .ok () := by decide

theorem validateOffer_inf {a b : FrameLimits} (ha : a.validateOffer = .ok ())
    (hb : b.validateOffer = .ok ()) : (a ⊓ b).validateOffer = .ok () := by
  rw [validateOffer_eq_ok] at ha hb ⊢
  exact ⟨lt_min ha.1 hb.1, lt_min ha.2.1 hb.2.1, lt_min ha.2.2.1 hb.2.2.1, lt_min ha.2.2.2 hb.2.2.2⟩

theorem agreesOnMeet : AgreesOnMeet (fun limits : FrameLimits => limits.validateOffer = .ok ())
    v1Default negotiate where
  closed ha hb := validateOffer_inf (validateOffer_inf ha hb) validateOffer_v1Default
  agree_eq ha hb := bind_eq_ok.mpr ⟨(), ha, bind_eq_ok.mpr ⟨(), hb, rfl⟩⟩

end FrameLimits

/-! ## The order of the offers -/

/-- Valid chunk limits can always be negotiated: to the greatest limits below both, in any order
and grouping. So can valid frame limits, to the greatest below both and the hard maxima: an
offer within the maxima is kept by a negotiation with itself, and one above them is not. -/
theorem limits_negotiate_meet :
    (∀ a b c : ChunkLimits, a.validate = .ok () → b.validate = .ok () → c.validate = .ok () →
      (∃ n, a.negotiate b = .ok n ∧ n.validate = .ok () ∧ n ≤ a ∧ n ≤ b ∧
        ∀ m, m ≤ a → m ≤ b → m ≤ n) ∧
      a.negotiate b = b.negotiate a ∧
      (a.negotiate b >>= fun n => n.negotiate c) = b.negotiate c >>= a.negotiate ∧
      a.negotiate a = .ok a) ∧
    (∀ a b c, a.validateOffer = .ok () → b.validateOffer = .ok () →
        c.validateOffer = .ok () →
      (∃ n, a.negotiate b = .ok n ∧ n.validateOffer = .ok () ∧ n ≤ a ∧ n ≤ b ∧
        n ≤ FrameLimits.v1Default ∧ (∀ m, m ≤ a → m ≤ b → m ≤ FrameLimits.v1Default → m ≤ n) ∧
        n.negotiate n = .ok n) ∧
      a.negotiate b = b.negotiate a ∧
      (a.negotiate b >>= fun n => n.negotiate c) = b.negotiate c >>= a.negotiate ∧
      (a.negotiate a = .ok a ↔ a ≤ FrameLimits.v1Default)) := by
  constructor
  · intro a b c ha hb hc
    have hmeet := ChunkLimits.agreesOnMeet
    have hab := hmeet.agree_eq ha hb
    obtain ⟨hname, hnb, -, hgreatest⟩ := hmeet.isGreatest ha hb hab
    refine ⟨⟨_, hab, hmeet.closed ha hb, hname, hnb, ?_⟩, hmeet.comm ha hb, hmeet.assoc ha hb hc,
      (hmeet.self_iff ha).mpr (ChunkLimits.le_v1Default ha)⟩
    intro m hmark hmb
    exact hgreatest m hmark hmb (hmark.trans (ChunkLimits.le_v1Default ha))
  · intro a b c ha hb hc
    have hmeet := FrameLimits.agreesOnMeet
    have hab := hmeet.agree_eq ha hb
    obtain ⟨hname, hnb, hnmax, hgreatest⟩ := hmeet.isGreatest ha hb hab
    obtain ⟨hvalid, hself⟩ := hmeet.again ha hb hab
    exact ⟨⟨_, hab, hvalid, hname, hnb, hnmax, hgreatest, hself⟩, hmeet.comm ha hb,
      hmeet.assoc ha hb hc, hmeet.self_iff ha⟩

def smallChunks : ChunkLimits := { ChunkLimits.v1Default with maxChunkBytes := 64 }

def shortCursors : ChunkLimits := { ChunkLimits.v1Default with maxCursorBytes := 8 }

def fewItems : FrameLimits := { FrameLimits.v1Default with maxPageItems := 10 }

def manyItems : FrameLimits := { FrameLimits.v1Default with maxPageItems := 2000 }

theorem limits_negotiate_meet_sample :
    (∃ n, smallChunks.negotiate shortCursors = .ok n ∧ n ≤ smallChunks ∧ n ≤ shortCursors ∧
      ∀ m, m ≤ smallChunks → m ≤ shortCursors → m ≤ n) ∧
    ∃ n, fewItems.negotiate manyItems = .ok n ∧ n ≤ fewItems ∧ n ≤ FrameLimits.v1Default := by
  obtain ⟨n, hn, -, hsmall, hshort, hgreatest⟩ := (limits_negotiate_meet.1 smallChunks
    shortCursors smallChunks (by decide) (by decide) (by decide)).1
  obtain ⟨m, hm, -, hfewer, -, hmax, -⟩ := (limits_negotiate_meet.2 fewItems manyItems fewItems
    (by decide) (by decide) (by decide)).1
  exact ⟨⟨n, hn, hsmall, hshort, hgreatest⟩, m, hm, hfewer, hmax⟩

/-- A valid offer of more page items than the hard maximum is not kept by a negotiation with
itself. -/
theorem frameLimits_negotiate_not_idempotent :
    ∃ a : FrameLimits, a.validateOffer = .ok () ∧ a.negotiate a ≠ .ok a :=
  ⟨manyItems, by decide, by decide⟩

end DevManager
