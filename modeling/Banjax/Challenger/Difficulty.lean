import Mathlib.Data.List.ProdSigma
import Mathlib.Tactic
import Banjax.Challenger.Browser
import Banjax.Lib.Leading

/-!
# What a difficulty costs

The loop of `check_sha`, bit by bit.  It leaves at the first bit that is set, in the middle of a
byte, and it looks at the high nibble of a byte first, each nibble from its low end.  That is an
order of all the bits of the digest without repetition (`bitOrder`), so that a difficulty fixes as
many bits as it says, and every step doubles the work.
-/

namespace Banjax

open Lib

namespace Challenger

/-- The loop of `check_sha` with its `count`. -/
def shaLoop : Bytes → Nat → Nat
  | [], count => count
  | h :: hash, count =>
      if h &&& 16 ≠ 0 then count else let count := count + 1
      if h &&& 32 ≠ 0 then count else let count := count + 1
      if h &&& 64 ≠ 0 then count else let count := count + 1
      if h &&& 128 ≠ 0 then count else let count := count + 1
      if h &&& 1 ≠ 0 then count else let count := count + 1
      if h &&& 2 ≠ 0 then count else let count := count + 1
      if h &&& 4 ≠ 0 then count else let count := count + 1
      if h &&& 8 ≠ 0 then count else let count := count + 1
      shaLoop hash count

/-- The digests that the loop accepts for a difficulty. -/
def accepted (d : Nat) : Set (Vector UInt8 32) := {hash | d ≤ shaLoop hash.toList 0}

/-- A bit of a digest: the byte, and the position in it. -/
def bitAt (hash : Vector UInt8 32) (x : Fin 32 × Fin 8) : Bool := hash[x.1].toBitVec.getLsb x.2

/-- The bits in the order of the loop. -/
def bitOrder : List (Fin 32 × Fin 8) := List.finRange 32 ×ˢ [4, 5, 6, 7, 0, 1, 2, 3]

/-! ## The loop -/

theorem shaLoop_eq (hash : Bytes) (count : Nat) : shaLoop hash count = count + countZeros hash := by
  induction hash generalizing count with
  | nil => rfl
  | cons h hash ih =>
      rw [shaLoop, countZeros_cons]
      simp only [ih, add_ite, Nat.add_zero, Nat.add_assoc, Nat.reduceAdd, Nat.add_comm 8]

/-- `check_sha` accepts what its loop accepts. -/
theorem checkSha_iff (M : Challenger) (cookiestr : Bytes) :
    M.checkSha cookiestr = true ↔
      M.crypto.sha256 (cStr cookiestr) ∈ accepted M.numberOfTrailingZeros.toNat := by
  rw [checkSha, decide_eq_true_eq, accepted, Set.mem_ofPred_eq, shaLoop_eq, Nat.zero_add]

/-- A mask looks at one bit. -/
theorem and_mask_eq_zero_iff (h : UInt8) (i : Fin 8) :
    h &&& UInt8.ofBitVec (BitVec.twoPow 8 i) = 0 ↔ h.toBitVec.getLsb i = false := by
  have hne : BitVec.twoPow 8 (i : Nat) ≠ 0#8 := by
    revert i
    decide
  rw [← UInt8.toBitVec_inj, UInt8.toBitVec_and, BitVec.and_twoPow]
  show (if h.toBitVec.getLsbD i then _ else _) = 0#8 ↔ h.toBitVec.getLsbD i = false
  cases h.toBitVec.getLsbD i with
  | false => exact iff_of_true rfl rfl
  | true => exact iff_of_false hne Bool.noConfusion

theorem shaMasks_eq :
    shaMasks = [4, 5, 6, 7, 0, 1, 2, 3].map fun i : Fin 8 =>
      UInt8.ofBitVec (BitVec.twoPow 8 i) := by
  decide

theorem toList_eq_map (hash : Vector UInt8 32) :
    hash.toList = (List.finRange 32).map fun i => hash[i] := by
  apply List.ext_getElem <;> simp

/-- The loop counts the leading zeros of the digest. -/
theorem shaLoop_eq_leading (hash : Vector UInt8 32) :
    shaLoop hash.toList 0 = leading bitOrder (bitAt hash) := by
  have hbits : (hash.toList.flatMap fun h => shaMasks.map fun m => h &&& m) =
      bitOrder.map fun x => hash[x.1] &&& UInt8.ofBitVec (BitVec.twoPow 8 x.2) := by
    rw [toList_eq_map, shaMasks_eq, List.flatMap_map]
    show _ = ((List.finRange 32).flatMap fun i => [4, 5, 6, 7, 0, 1, 2, 3].map (Prod.mk i)).map _
    rw [List.map_flatMap]
    rfl
  have htest : ∀ x : Fin 32 × Fin 8,
      decide (hash[x.1] &&& UInt8.ofBitVec (BitVec.twoPow 8 x.2) = 0) = !bitAt hash x := by
    intro x
    rw [bitAt, Bool.eq_iff_iff, decide_eq_true_eq, Bool.not_eq_true', and_mask_eq_zero_iff]
  rw [shaLoop_eq, Nat.zero_add, countZeros, hbits, List.takeWhile_map, List.length_map, leading]
  simp only [Function.comp_def, htest]

/-! ## The order of the bits -/

theorem nodup_bitOrder : bitOrder.Nodup :=
  (List.nodup_finRange 32).product (by decide)

theorem mem_bitOrder (x : Fin 32 × Fin 8) : x ∈ bitOrder := by
  refine List.mem_product.mpr ⟨List.mem_finRange x.1, ?_⟩
  have hall : ∀ i : Fin 8, i ∈ [4, 5, 6, 7, 0, 1, 2, 3] := by decide
  exact hall x.2

theorem length_bitOrder : bitOrder.length = 256 := by
  rw [bitOrder, List.length_product, List.length_finRange]
  rfl

/-- A digest is its bits, and all bits are those of a digest. -/
theorem bijective_bitAt : Function.Bijective bitAt := by
  constructor
  · intro hash hash' h
    apply Vector.ext
    intro i hi
    apply UInt8.eq_of_toBitVec_eq
    apply BitVec.eq_of_getLsbD_eq
    intro j hj
    exact congrFun h (⟨i, hi⟩, ⟨j, hj⟩)
  · intro word
    let byte : Fin 32 → BitVec 8 := fun i =>
      (BitVec.ofBoolListLE (List.ofFn fun j : Fin 8 => word (i, j))).setWidth 8
    have hbyte : ∀ (i : Fin 32) (j : Fin 8), (byte i).getLsbD j = word (i, j) := by
      intro i j
      rw [BitVec.getLsbD_setWidth, BitVec.getLsbD_ofBoolListLE, List.getD_eq_getElem?_getD,
        List.getElem?_ofFn, dif_pos j.isLt, decide_eq_true j.isLt]
      rfl
    refine ⟨Vector.ofFn fun i => UInt8.ofBitVec (byte i), funext fun x => ?_⟩
    rw [← hbyte]
    simp [bitAt]

theorem accepted_eq_preimage (d : Nat) :
    accepted d = Set.preimage bitAt {word | d ≤ leading bitOrder word} := by
  ext hash
  rw [accepted, Set.mem_ofPred_eq, shaLoop_eq_leading]
  rfl

/-- A difficulty fixes as many bits of the digest as it says. -/
theorem ncard_accepted {d : Nat} (hd : d ≤ 256) : (accepted d).ncard = 2 ^ (256 - d) := by
  rw [accepted_eq_preimage, Set.ncard_preimage_of_injective_subset_range bijective_bitAt.injective,
    ncard_leading nodup_bitOrder mem_bitOrder (by rw [length_bitOrder]; exact hd), length_bitOrder]
  intro word _
  exact bijective_bitAt.surjective word

/-- Each step of the difficulty doubles the work: as many bits are fixed as it says, out of an
order that has each of the 256 bits once. -/
theorem difficulty_doubles_work (d : Nat) :
    (∀ (M : Challenger) (cookiestr : Bytes), M.numberOfTrailingZeros.toNat = d →
      (M.checkSha cookiestr = true ↔ M.crypto.sha256 (cStr cookiestr) ∈ accepted d)) ∧
    (d ≤ 256 → (accepted d).ncard = 2 ^ (256 - d)) ∧
    (∀ e, d ≤ e → accepted e ⊆ accepted d) ∧
    (256 < d → accepted d = ∅) ∧
    bitOrder.Nodup ∧ (∀ x, x ∈ bitOrder) ∧
    ∀ hash : Vector UInt8 32,
      shaLoop hash.toList 0 = (bitOrder.takeWhile fun x => !bitAt hash x).length := by
  refine ⟨?_, ncard_accepted, ?_, ?_, nodup_bitOrder, mem_bitOrder, shaLoop_eq_leading⟩
  · rintro M cookiestr rfl
    exact checkSha_iff M cookiestr
  · intro e he hash hhash
    exact he.trans hhash
  · intro hd
    refine Set.eq_empty_of_forall_notMem fun hash hhash => ?_
    have hle : shaLoop hash.toList 0 ≤ 256 := by
      rw [shaLoop_eq_leading, ← length_bitOrder]
      exact leading_le _ _
    exact absurd (hd.trans_le (le_trans hhash hle)) (Nat.lt_irrefl _)

end Challenger

end Banjax
