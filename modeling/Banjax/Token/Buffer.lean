import Banjax.Token.Canonical

/-!
# The buffer of `Encode`

`Base64::Encode` does not append to its result.  It makes a string of `=` signs of the
final size, writes the characters over it one position after the other, and asserts at the
end that it stayed inside.

Here every write is checked and both assertions are made.  Whatever has been written stands
in front of the position, and the `=` signs that are left behind it are the padding, so that
the buffer ends as the canonical encoding (`encodeBuffer_eq_canonical`).
-/

namespace Banjax.Base64

open Lib

/-- The ways in which `Encode` does not return. -/
inductive EncodeError where
  /-- `length_error`. -/
  | lengthError
  /-- A write outside of `retval`. -/
  | outOfBounds
  | assertion
deriving DecidableEq, Repr

/-- `retval` and `outpos`. -/
structure Output where
  retval : Bytes
  outpos : Nat

/-- `retval[outpos++] = c`. -/
def Output.write (b : Output) (c : UInt8) : Except EncodeError Output :=
  if b.outpos < b.retval.length then .ok ⟨b.retval.set b.outpos c, b.outpos + 1⟩
  else .error .outOfBounds

/-- The inner loop `while (bits_collected >= 6)`: the bits that stay, and the output. -/
def emitInto (accumulator : UInt32) : Nat → Output → Except EncodeError (Nat × Output)
  | bits + 6, b => do
      let b ← b.write (char ((accumulator >>> bits.toUInt32) &&& 0x3f).toNat)
      emitInto accumulator bits b
  | bits, b => .ok (bits, b)

/-- The outer loop and the trailing bits. -/
def encodeInto (accumulator : UInt32) (bitsCollected : Nat) :
    Bytes → Output → Except EncodeError Output
  | [], b =>
      if 0 < bitsCollected then
        if bitsCollected < 6 then
          b.write (char ((accumulator <<< (6 - bitsCollected).toUInt32) &&& 0x3f).toNat)
        else .error .assertion
      else .ok b
  | c :: s, b => do
      let accumulator := (accumulator <<< 8) ||| c.toUInt32
      let (bitsCollected, b) ← emitInto accumulator (bitsCollected + 8) b
      encodeInto accumulator bitsCollected s b

/-- `Base64::Encode`, with its buffer.  Sizes are numbers of 64 bits. -/
def encodeBuffer (bindata : Bytes) : Except EncodeError Bytes :=
  let binlen := bindata.length
  if (2 ^ 64 - 1) / 4 * 3 < binlen then .error .lengthError
  else do
    let retval := List.replicate ((binlen + 2) / 3 * 4 % 2 ^ 64) pad
    let b ← encodeInto 0 0 bindata ⟨retval, 0⟩
    if b.outpos ≤ b.retval.length then .ok b.retval else .error .assertion

example : encodeBuffer (bytes "abcd") = .ok (bytes "YWJjZA==") := by decide +kernel

/-! ## The buffer while it is filled -/

/-- The output after `out` has been written over the front of `rest`. -/
def filled (front out rest : Bytes) : Output :=
  ⟨front ++ out ++ rest.drop out.length, (front ++ out).length⟩

theorem filled_nil (front rest : Bytes) : filled front [] rest = ⟨front ++ rest, front.length⟩ := by
  simp [filled]

/-- The next character goes over the first of the rest. -/
theorem write_filled {front rest : Bytes} (c : UInt8) (h : 0 < rest.length) :
    (filled front [] rest).write c = .ok (filled (front ++ [c]) [] rest.tail) := by
  cases rest with
  | nil => cases h
  | cons r rest => simp [filled, Output.write]

theorem filled_cons (front : Bytes) (c : UInt8) (out rest : Bytes) :
    filled (front ++ [c]) out rest.tail = filled front (c :: out) rest := by
  simp [filled, List.drop_tail]

/-- Two writes one after the other. -/
theorem filled_append (front out out' rest : Bytes) :
    filled (front ++ out) out' (rest.drop out.length) = filled front (out ++ out') rest := by
  simp [filled, List.drop_drop]

theorem filled_start (front out rest : Bytes) :
    filled front out rest = filled (front ++ out) [] (rest.drop out.length) := by
  rw [filled_append, List.append_nil]

/-- What the inner loop writes is what `emit` returns. -/
theorem emitInto_eq (accumulator : UInt32) (bits : Nat) {front rest : Bytes}
    (h : (emit accumulator bits).1.length ≤ rest.length) :
    emitInto accumulator bits (filled front [] rest) =
      .ok ((emit accumulator bits).2, filled front (emit accumulator bits).1 rest) := by
  induction bits using Nat.strongRecOn generalizing front rest with
  | ind bits ih =>
      by_cases hbits : bits < 6
      · rw [emit_of_lt accumulator hbits]
        match bits, hbits with
        | 0, _ | 1, _ | 2, _ | 3, _ | 4, _ | 5, _ => rfl
      · obtain ⟨b, rfl⟩ : ∃ b, bits = b + 6 := ⟨bits - 6, by omega⟩
        rw [emit] at h ⊢
        have hlen : (emit accumulator b).1.length + 1 ≤ rest.length := h
        have hrest : (emit accumulator b).1.length ≤ rest.tail.length := by
          rw [List.length_tail]
          omega
        rw [emitInto, write_filled _ (by omega)]
        refine (ih b (by omega) hrest).trans ?_
        rw [filled_cons]

/-- What the whole loop writes is what `encodeLoop` returns. -/
theorem encodeInto_eq (s : Bytes) : ∀ (accumulator : UInt32) {bits : Nat} {front rest : Bytes},
    bits < 6 → (encodeLoop accumulator bits s).length ≤ rest.length →
    encodeInto accumulator bits s (filled front [] rest) =
      .ok (filled front (encodeLoop accumulator bits s) rest) := by
  induction s with
  | nil =>
      intro accumulator bits front rest hbits h
      rw [encodeInto, encodeLoop]
      rw [encodeLoop] at h
      split at h
      · rename_i hpos
        rw [if_pos hpos, if_pos hpos, if_pos hbits, write_filled _ h, filled_cons]
      · rename_i hzero
        rw [if_neg hzero, if_neg hzero]
  | cons c s ih =>
      intro accumulator bits front rest hbits h
      rw [encodeLoop_cons] at h ⊢
      rw [List.length_append] at h
      have hrest := emit_rest ((accumulator <<< 8) ||| c.toUInt32) (bits + 8)
      have hdrop := List.length_drop (l := rest)
        (i := (emit ((accumulator <<< 8) ||| c.toUInt32) (bits + 8)).1.length)
      rw [encodeInto, emitInto_eq _ _ (by omega), filled_start front]
      refine (ih _ (by omega) (by omega)).trans ?_
      rw [filled_append]

/-- For every input that the length guard admits, all writes fall into the buffer, both
assertions hold and the result is the canonical encoding. -/
theorem encodeBuffer_eq_canonical {bindata : Bytes}
    (h : bindata.length ≤ (2 ^ 64 - 1) / 4 * 3) :
    encodeBuffer bindata = .ok (canonical bindata) := by
  have hsize : (bindata.length + 2) / 3 * 4 % 2 ^ 64 = (bindata.length + 2) / 3 * 4 :=
    Nat.mod_eq_of_lt (by omega)
  have hlen := length_encodeLoop_le bindata
  have hinto : encodeInto 0 0 bindata
      (filled [] [] (List.replicate ((bindata.length + 2) / 3 * 4) pad)) = .ok _ :=
    encodeInto_eq bindata 0 (by omega) (by rw [List.length_replicate]; exact hlen)
  rw [filled_nil, List.nil_append, List.length_nil] at hinto
  rw [encodeBuffer, if_neg (by omega), hsize, ← encodeText_eq_canonical, encodeText]
  dsimp only
  rw [hinto]
  refine (if_pos (by simp [filled])).trans ?_
  rw [filled, List.nil_append, List.drop_replicate]

/-- Two whole groups and one byte. -/
theorem encodeBuffer_banjax1 :
    encodeBuffer (bytes "banjax1") = .ok (canonical (bytes "banjax1")) ∧
    canonical (bytes "banjax1") = bytes "YmFuamF4MQ==" :=
  ⟨encodeBuffer_eq_canonical (by decide), by decide⟩

end Banjax.Base64
