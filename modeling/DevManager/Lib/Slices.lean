import DevManager.Lib.Bytes

/-!
# Slices of bytes that are cut at fixed offsets

A decoder in the source cuts a slice at offsets and converts the pieces to arrays, and panics where
an offset is outside of the slice or a piece has another length. `Checked ε α` is a call that
returns a value or an error, or panics.

* `sliceAt_part`, `byteAt_part`, `toArray_toList`: a piece that has its place and its length.
* `exists_split`, `exists_split_end`: bytes of a length have a piece of that length at either end.
-/

namespace DevManager

/-- A call that returns a value or an error, or panics (`none`). -/
abbrev Checked (ε : Type) : Type → Type := ExceptT ε Option

namespace Checked

variable {ε α β : Type}

/-- The call panics. -/
def panicking : Checked ε α := (none : Option (Except ε α))

/-- A call that does not panic. -/
def ofExcept (result : Except ε α) : Checked ε α := some result

/-- `if c { return Err(e) }`. -/
def failIf (c : Prop) [Decidable c] (e : ε) : Checked ε Unit := if c then throw e else pure ()

@[simp] theorem failIf_true {c : Prop} [Decidable c] {e : ε} {next : Unit → Checked ε α} (h : c) :
    failIf c e >>= next = throw e := by
  rw [failIf, if_pos h]
  rfl

@[simp] theorem failIf_false {c : Prop} [Decidable c] {e : ε} {next : Unit → Checked ε α}
    (h : ¬ c) : failIf c e >>= next = next () := by
  rw [failIf, if_neg h, pure_bind]

theorem ofExcept_bind (result : Except ε α) (next : α → Except ε β) :
    (ofExcept (result >>= next) : Checked ε β) =
      ofExcept result >>= fun a => ofExcept (next a) := by
  cases result <;> rfl

end Checked

section Slices

variable {ε : Type}

/-- `a - b`, which underflows where `b` is greater. -/
def checkedSub (a b : ℕ) : Checked ε ℕ := if b ≤ a then pure (a - b) else .panicking

/-- `bytes[index]`. -/
def byteAt (bytes : List UInt8) (index : ℕ) : Checked ε UInt8 :=
  match bytes[index]? with
  | some byte => pure byte
  | none => .panicking

/-- `bytes[start..stop]`. -/
def sliceAt (bytes : List UInt8) (start stop : ℕ) : Checked ε (List UInt8) :=
  if start ≤ stop ∧ stop ≤ bytes.length then pure ((bytes.take stop).drop start) else .panicking

/-- `bytes.try_into().expect(..)` of an array of `n` bytes. -/
def toArray (n : ℕ) (bytes : List UInt8) : Checked ε (Vector UInt8 n) :=
  if h : bytes.length = n then pure ⟨bytes.toArray, by simpa using h⟩ else .panicking

variable {piece : List UInt8} {start stop n : ℕ}

theorem checkedSub_of_le {a b : ℕ} (h : b ≤ a) : (checkedSub a b : Checked ε ℕ) = pure (a - b) :=
  if_pos h

variable {pieces : List (List UInt8)}

/-- A piece of pieces that are one behind the other. -/
theorem flatten_part {k : ℕ} (hpiece : pieces[k]? = some piece)
    (hstart : ((pieces.take k).map List.length).sum = start) :
    ∃ before behind, pieces.flatten = before ++ (piece ++ behind) ∧ before.length = start := by
  obtain ⟨hk, rfl⟩ := List.getElem?_eq_some_iff.mp hpiece
  refine ⟨(pieces.take k).flatten, (pieces.drop (k + 1)).flatten, ?_, ?_⟩
  · rw [← List.flatten_cons, List.getElem_cons_drop, ← List.flatten_append, List.take_append_drop]
  · rw [List.length_flatten, hstart]

theorem sliceAt_part {k : ℕ} (hpiece : pieces[k]? = some piece)
    (hstart : ((pieces.take k).map List.length).sum = start) (hstop : start + piece.length = stop) :
    (sliceAt pieces.flatten start stop : Checked ε (List UInt8)) = pure piece := by
  obtain ⟨before, behind, hflatten, rfl⟩ := flatten_part hpiece hstart
  subst hstop
  have hins : before.length ≤ before.length + piece.length ∧
      before.length + piece.length ≤ (before ++ (piece ++ behind)).length := by
    rw [List.length_append, List.length_append]
    omega
  rw [hflatten, sliceAt, if_pos hins, List.take_length_add_append, List.take_left, List.drop_left]

theorem byteAt_part {k : ℕ} {byte}
    (hpiece : pieces[k]? = some [byte]) (hstart : ((pieces.take k).map List.length).sum = start) :
    (byteAt pieces.flatten start : Checked ε UInt8) = pure byte := by
  obtain ⟨before, behind, hflatten, rfl⟩ := flatten_part hpiece hstart
  rw [hflatten]
  simp [byteAt]

theorem sliceAt_front (front back : List UInt8) :
    (sliceAt (front ++ back) 0 front.length : Checked ε (List UInt8)) = pure front := by
  rw [sliceAt, if_pos ⟨Nat.zero_le _, by simp⟩, List.take_left, List.drop_zero]

theorem sliceAt_back (front back : List UInt8) :
    (sliceAt (front ++ back) front.length (front ++ back).length : Checked ε (List UInt8)) =
      pure back := by
  rw [sliceAt, if_pos ⟨by simp, le_refl _⟩, List.take_length, List.drop_left]

theorem toArray_toList (piece) :
    (toArray n piece.toList : Checked ε (Vector UInt8 n)) = pure piece := by
  rw [toArray, dif_pos (by simp)]
  rfl

/-- Bytes of a length have an array of that length in front. -/
theorem exists_split {bytes} (h : n ≤ bytes.length) :
    ∃ (piece : Vector UInt8 n) (rest : List UInt8), bytes = piece.toList ++ rest ∧
      rest.length = bytes.length - n := by
  refine ⟨⟨(bytes.take n).toArray, by simpa using h⟩, bytes.drop n, ?_, List.length_drop⟩
  exact (List.take_append_drop n bytes).symm

/-- Bytes of a length have an array of that length at the end. -/
theorem exists_split_end {bytes} (h : n ≤ bytes.length) :
    ∃ (before : List UInt8) (piece : Vector UInt8 n), bytes = before ++ piece.toList := by
  have hlen : (bytes.drop (bytes.length - n)).length = n := by
    rw [List.length_drop]
    omega
  refine ⟨bytes.take (bytes.length - n),
    ⟨(bytes.drop (bytes.length - n)).toArray, by simpa using hlen⟩, ?_⟩
  exact (List.take_append_drop (bytes.length - n) bytes).symm

end Slices

end DevManager
