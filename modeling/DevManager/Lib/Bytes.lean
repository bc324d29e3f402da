import Mathlib.Tactic

/-!
# Bytes on a stream

A number as big-endian or little-endian bytes, and reading a fixed number of bytes off a stream.
A stream is the list of the bytes that have not been read yet.

* `ofBeBytes_beBytes`, `beBytes_ofBeBytes`: inverse bijections between the
  numbers below `256 ^ width` and the byte strings of length `width`.
* `leBytes_inj`: the bytes determine the number.
* `utf8_inj`: the bytes of a text determine it.
* `readExact_eq_some`: a read succeeds iff the stream starts with that many bytes.
-/

namespace DevManager

open List

/-! ## Big-endian numbers -/

/-- The low `width` bytes of `n`, most significant byte first. -/
def beBytes : (width n : ℕ) → List UInt8
  | 0, _ => []
  | width + 1, n => beBytes width (n / 256) ++ [UInt8.ofNat n]

variable (bytes : List UInt8)

/-- The number whose big-endian bytes are `bytes`. -/
def ofBeBytes : ℕ := bytes.foldl (fun n byte => n * 256 + byte.toNat) 0

variable (width : ℕ)

@[simp] theorem length_beBytes : ∀ n, (beBytes width n).length = width := by
  induction width with
  | zero => intro n; rfl
  | succ width ih => intro n; simp [beBytes, ih]

theorem ofBeBytes_append (byte : UInt8) :
    ofBeBytes (bytes ++ [byte]) = ofBeBytes bytes * 256 + byte.toNat := by
  simp [ofBeBytes]

theorem ofBeBytes_beBytes : ∀ n, n < 256 ^ width → ofBeBytes (beBytes width n) = n := by
  induction width with
  | zero => intro n hn; simp [beBytes, ofBeBytes] at hn ⊢; omega
  | succ width ih =>
    intro n hn
    have hdiv : n / 256 < 256 ^ width := by
      rw [pow_succ] at hn
      exact Nat.div_lt_of_lt_mul (by omega)
    rw [beBytes, ofBeBytes_append, ih _ hdiv, UInt8.toNat_ofNat']
    omega

theorem beBytes_ofBeBytes : beBytes bytes.length (ofBeBytes bytes) = bytes := by
  induction bytes using List.reverseRecOn with
  | nil => rfl
  | append_singleton bytes byte ih =>
    have hbyte : byte.toNat < 256 := byte.toNat_lt
    have hdiv : (ofBeBytes bytes * 256 + byte.toNat) / 256 = ofBeBytes bytes := by omega
    have hlow : UInt8.ofNat (ofBeBytes bytes * 256 + byte.toNat) = byte := by
      apply UInt8.toNat_inj.mp
      rw [UInt8.toNat_ofNat']
      omega
    rw [length_append, length_singleton, beBytes, ofBeBytes_append, hdiv, hlow, ih]

theorem ofBeBytes_lt : ofBeBytes bytes < 256 ^ bytes.length := by
  induction bytes using List.reverseRecOn with
  | nil => decide
  | append_singleton bytes byte ih =>
    have hbyte : byte.toNat < 256 := byte.toNat_lt
    rw [ofBeBytes_append, length_append, length_singleton, pow_succ]
    omega

theorem getElem?_beBytes : ∀ {n i : ℕ}, i < width →
    (beBytes width n)[i]? = some (UInt8.ofNat (n / 256 ^ (width - 1 - i))) := by
  induction width with
  | zero => exact fun h => absurd h (Nat.not_lt_zero _)
  | succ width ih =>
    intro n i hi
    rw [beBytes]
    by_cases hlast : i = width
    · subst hlast
      rw [getElem?_append_right (by simp), length_beBytes]
      simp
    · have hlt : i < width := by omega
      rw [getElem?_append_left (by simpa using hlt), ih hlt, Nat.div_div_eq_div_mul, ← pow_succ',
        show width - 1 - i + 1 = width + 1 - 1 - i by omega]

/-! ## Little-endian numbers -/

/-- The low `width` bytes of `n`, least significant byte first. -/
def leBytes (width n : ℕ) : List UInt8 := (List.range width).map fun i => UInt8.ofNat (n / 256 ^ i)

@[simp] theorem length_leBytes (width n : ℕ) : (leBytes width n).length = width := by
  simp [leBytes]

theorem leBytes_succ (width n : ℕ) :
    leBytes (width + 1) n = UInt8.ofNat n :: leBytes width (n / 256) := by
  simp [leBytes, range_succ_eq_map, Nat.div_div_eq_div_mul, pow_succ']

theorem leBytes_inj :
    ∀ {a b : ℕ}, a < 256 ^ width → b < 256 ^ width → leBytes width a = leBytes width b → a = b := by
  induction width with
  | zero =>
    intro a b ha hb _
    rw [pow_zero] at ha hb
    omega
  | succ width ih =>
    intro a b ha hb h
    rw [leBytes_succ, leBytes_succ, List.cons.injEq] at h
    obtain ⟨hlow, hrest⟩ := h
    rw [pow_succ] at ha hb
    have hdiv := ih (Nat.div_lt_of_lt_mul (by omega)) (Nat.div_lt_of_lt_mul (by omega)) hrest
    have hmodes := congrArg UInt8.toNat hlow
    rw [UInt8.toNat_ofNat', UInt8.toNat_ofNat'] at hmodes
    omega

/-! ## Byte arrays and texts -/

theorem toList_loop (bytes) (i : ℕ) (r) :
    ByteArray.toList.loop bytes i r = r.reverse ++ bytes.data.toList.drop i := by
  induction i, r using ByteArray.toList.loop.induct bytes with
  | case1 i r hi ih =>
    have hlt : i < bytes.data.toList.length := by simpa using hi
    unfold ByteArray.toList.loop
    rw [if_pos hi, ih, reverse_cons, append_assoc, drop_eq_getElem_cons hlt]
    simp [ByteArray.get!, getElem!_pos, hi]
  | case2 i r hi =>
    unfold ByteArray.toList.loop
    rw [if_neg hi, drop_eq_nil_of_le (by simpa using hi), append_nil]

theorem toList_eq_data (bytes : ByteArray) : bytes.toList = bytes.data.toList := by
  simpa [ByteArray.toList] using toList_loop bytes 0 []

/-- The bytes of a text determine it. -/
theorem utf8_inj {a b : String} (h : a.toUTF8.toList = b.toUTF8.toList) : a = b := by
  rw [toList_eq_data, toList_eq_data, Array.toList_inj] at h
  exact String.toByteArray_inj.mp (ByteArray.ext h)

/-! ## Reading -/

/-- `read_exact` on a byte stream: `n` bytes, or none when the stream ends before. A stream that
ends early is consumed. -/
def readExact (n : ℕ) (stream : List UInt8) : Option (List UInt8) × List UInt8 :=
  if n ≤ stream.length then (some (stream.take n), stream.drop n) else (none, [])

theorem readExact_append {bytes rest} {n : ℕ} (h : bytes.length = n) :
    readExact n (bytes ++ rest) = (some bytes, rest) := by
  subst h
  simp [readExact]

theorem readExact_eq_some {n : ℕ} {stream bytes rest} :
    readExact n stream = (some bytes, rest) ↔ bytes.length = n ∧ stream = bytes ++ rest := by
  constructor
  · intro h
    unfold readExact at h
    split_ifs at h with hn
    · simp only [Prod.mk.injEq, Option.some.injEq] at h
      obtain ⟨rfl, rfl⟩ := h
      exact ⟨length_take_of_le hn, (take_append_drop n stream).symm⟩
    · simp at h
  · rintro ⟨hn, rfl⟩
    exact readExact_append hn

end DevManager
