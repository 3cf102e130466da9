import Banjax.Lib.Bits
import Banjax.Lib.Bytes

/-!
# Base64

`Base64::Encode` and `Base64::Decode` of `base64.cpp`.  Both are loops around a
32-bit shift register that is never cleared: only its `bits_collected` low bits
are meaningful, and what wraps out at the top has already been written.

The proofs read the register as the bit string of those low bits.  Encoding then
cuts the bits of the input into groups of six (`encodeLoop_eq`), decoding cuts
the sextets into groups of eight (`decodeLoop_eq`), and the round trip is the
regrouping law of `Lib.Bits`.
-/

namespace Banjax.Base64

open Lib

/-! ## The tables -/

/-- `b64_table`. -/
def b64Table : List UInt8 :=
  bytes "ABCDEFGHIJKLMNOPQRSTUVWXYZabcdefghijklmnopqrstuvwxyz0123456789+/"

/-- `reverse_table`: the sextet of a character, `64` where there is none. -/
def reverseTable : List UInt8 := [
  64, 64, 64, 64, 64, 64, 64, 64, 64, 64, 64, 64, 64, 64, 64, 64,
  64, 64, 64, 64, 64, 64, 64, 64, 64, 64, 64, 64, 64, 64, 64, 64,
  64, 64, 64, 64, 64, 64, 64, 64, 64, 64, 64, 62, 64, 64, 64, 63,
  52, 53, 54, 55, 56, 57, 58, 59, 60, 61, 64, 64, 64, 64, 64, 64,
  64,  0,  1,  2,  3,  4,  5,  6,  7,  8,  9, 10, 11, 12, 13, 14,
  15, 16, 17, 18, 19, 20, 21, 22, 23, 24, 25, 64, 64, 64, 64, 64,
  64, 26, 27, 28, 29, 30, 31, 32, 33, 34, 35, 36, 37, 38, 39, 40,
  41, 42, 43, 44, 45, 46, 47, 48, 49, 50, 51, 64, 64, 64, 64, 64]

/-- `b64_table[i]`. -/
def char (i : Nat) : UInt8 := b64Table.getD i 0

/-- `reverse_table[c]`. -/
def sextet (c : UInt8) : UInt8 := reverseTable.getD c.toNat 64

/-- The padding character `=`. -/
def pad : UInt8 := 61

/-! ## Encoding -/

/-- The inner loop `while (bits_collected >= 6)`: the characters written and the
bits that stay. -/
def emit (accumulator : UInt32) : Nat → Bytes × Nat
  | bits + 6 =>
      let (out, rest) := emit accumulator bits
      (char ((accumulator >>> bits.toUInt32) &&& 0x3f).toNat :: out, rest)
  | bits => ([], bits)

/-- The outer loop and the trailing bits. -/
def encodeLoop (accumulator : UInt32) (bitsCollected : Nat) : Bytes → Bytes
  | [] =>
      if 0 < bitsCollected then
        [char ((accumulator <<< (6 - bitsCollected).toUInt32) &&& 0x3f).toNat]
      else []
  | c :: s =>
      let accumulator := (accumulator <<< 8) ||| c.toUInt32
      let (out, bitsCollected) := emit accumulator (bitsCollected + 8)
      out ++ encodeLoop accumulator bitsCollected s

/-- The text `Encode` returns once the size check has passed: the characters
over a result preset to `=` signs. -/
def encodeText (bindata : Bytes) : Bytes :=
  let out := encodeLoop 0 0 bindata
  out ++ List.replicate ((bindata.length + 2) / 3 * 4 - out.length) pad

/-- `Base64::Encode`.  `none` is the `length_error`. -/
def encode (bindata : Bytes) : Option Bytes :=
  if (2 ^ 64 - 1) / 4 * 3 < bindata.length then none else some (encodeText bindata)

/-! ## Decoding -/

/-- The loop of `Base64::Decode`.  `none` is the `invalid_argument`.  A `char` is
signed, so a byte above 127 fails `c < 0`. -/
def decodeLoop (accumulator : UInt32) (bitsCollected : Nat) : Bytes → Option Bytes
  | [] => some []
  | c :: data =>
      if isSpace c || c = pad then decodeLoop accumulator bitsCollected data
      else if 127 < c || 63 < sextet c then none
      else
        let accumulator := (accumulator <<< 6) ||| (sextet c).toUInt32
        let bitsCollected := bitsCollected + 6
        if 8 ≤ bitsCollected then
          let bitsCollected := bitsCollected - 8
          (decodeLoop accumulator bitsCollected data).map
            (((accumulator >>> bitsCollected.toUInt32) &&& 0xff).toUInt8 :: ·)
        else decodeLoop accumulator bitsCollected data

/-- `Base64::Decode`. -/
def decode (data : Bytes) : Option Bytes := decodeLoop 0 0 data

/-! ## The register -/

/-- Two numbers with the same low bits have the same bit string. -/
theorem toBits_congr {w m n : Nat} (h : ∀ i < w, m.testBit i = n.testBit i) :
    toBits w m = toBits w n := by
  induction w with
  | zero => rfl
  | succ w ih => rw [toBits, toBits, h w (by omega), ih (fun i hi => h i (by omega))]

/-- Shifting the register left and or-ing a digit in appends the digit's bits.
The bits that wrap out are above the ones that count. -/
theorem toBits_shiftIn {k w : Nat} (accumulator d : UInt32) (hk : k + w ≤ 32) (hw : w < 32)
    (hd : d.toNat < 2 ^ w) :
    toBits (k + w) ((accumulator <<< w.toUInt32) ||| d).toNat =
      toBits k accumulator.toNat ++ toBits w d.toNat := by
  rw [← toBits_push k accumulator.toNat hd]
  apply toBits_congr
  intro i hi
  have hshift : (w.toUInt32).toNat % 32 = w := by
    simp only [Nat.toUInt32, UInt32.toNat_ofNat']
    omega
  have hor : accumulator.toNat * 2 ^ w + d.toNat = (accumulator.toNat <<< w) ||| d.toNat := by
    rw [Nat.shiftLeft_eq, Nat.mul_comm]
    exact Nat.two_pow_add_eq_or_of_lt hd _
  rw [hor, UInt32.toNat_or, UInt32.toNat_shiftLeft, hshift, Nat.testBit_or, Nat.testBit_or,
    Nat.testBit_mod_two_pow]
  simp [show i < 32 by omega]

/-- Shifting the register right and masking reads the group above the low bits. -/
theorem toNat_shiftOut {b w : Nat} (accumulator mask : UInt32) (hb : b < 32)
    (hmask : mask.toNat = 2 ^ w - 1) :
    ((accumulator >>> b.toUInt32) &&& mask).toNat =
      ofBits (toBits w (accumulator.toNat / 2 ^ b)) := by
  have hshift : (b.toUInt32).toNat % 32 = b := by
    simp only [Nat.toUInt32, UInt32.toNat_ofNat']
    omega
  rw [ofBits_toBits, UInt32.toNat_and, UInt32.toNat_shiftRight, hshift, hmask,
    Nat.and_two_pow_sub_one_eq_mod, Nat.shiftRight_eq_div_pow]

/-! ## Encoding cuts the bits into sextets -/

theorem emit_of_lt (accumulator : UInt32) {bits : Nat} (h : bits < 6) :
    emit accumulator bits = ([], bits) := by
  match bits, h with
  | 0, _ | 1, _ | 2, _ | 3, _ | 4, _ | 5, _ => rfl

/-- What the inner loop writes is the whole sextets of the register, whatever
bits follow. -/
theorem emit_groups (accumulator : UInt32) (l : List Bool) :
    ∀ bits ≤ 32, (groups 6 (toBits bits accumulator.toNat ++ l)).map char =
      (emit accumulator bits).1 ++
        (groups 6 (toBits (emit accumulator bits).2 accumulator.toNat ++ l)).map char := by
  intro bits
  induction bits using Nat.strongRecOn with
  | _ bits ih =>
      intro hb
      by_cases h : bits < 6
      · rw [emit_of_lt accumulator h]
        rfl
      · obtain ⟨b, rfl⟩ : ∃ b, bits = b + 6 := ⟨bits - 6, by omega⟩
        have hhead : toBits (b + 6) accumulator.toNat =
            toBits 6 (accumulator.toNat / 2 ^ b) ++ toBits b accumulator.toNat := by
          rw [Nat.add_comm]
          exact toBits_split 6 b _
        rw [hhead, List.append_assoc, groups_append _ (by omega) (length_toBits ..),
          List.map_cons, ih b (by omega) (by omega), emit,
          ← toNat_shiftOut accumulator 0x3f (by omega) rfl]
        rfl

theorem emit_rest (accumulator : UInt32) : ∀ bits, (emit accumulator bits).2 = bits % 6 := by
  intro bits
  induction bits using Nat.strongRecOn with
  | _ bits ih =>
      by_cases h : bits < 6
      · rw [emit_of_lt accumulator h, Nat.mod_eq_of_lt h]
      · obtain ⟨b, rfl⟩ : ∃ b, bits = b + 6 := ⟨bits - 6, by omega⟩
        rw [emit]
        exact (ih b (by omega)).trans (Nat.add_mod_right b 6).symm

/-- A bit string filled up with zeros to whole sextets. -/
def fill (l : List Bool) : List Bool := l ++ List.replicate ((6 - l.length % 6) % 6) false

theorem length_fill (l : List Bool) : (fill l).length = (l.length + 5) / 6 * 6 := by
  simp only [fill, List.length_append, List.length_replicate]
  omega

/-- The bits of a byte string. -/
def byteBits (s : Bytes) : List Bool := s.flatMap fun c => toBits 8 c.toNat

theorem byteBits_cons (c : UInt8) (s : Bytes) :
    byteBits (c :: s) = toBits 8 c.toNat ++ byteBits s := rfl

theorem length_byteBits (s : Bytes) : (byteBits s).length = 8 * s.length := by
  induction s with
  | nil => rfl
  | cons c s ih =>
      rw [byteBits_cons, List.length_append, ih, length_toBits, List.length_cons]
      omega

/-- The trailing character: the bits that are left, filled up with zeros. -/
theorem encodeLoop_nil (accumulator : UInt32) {bits : Nat} (h : bits < 6) :
    encodeLoop accumulator bits [] =
      (groups 6 (fill (toBits bits accumulator.toNat))).map char := by
  by_cases h0 : bits = 0
  · subst h0
    rw [show fill (toBits 0 accumulator.toNat) = [] by simp [fill, toBits],
      groups_of_length_lt (by simp)]
    rfl
  · have hlen : (fill (toBits bits accumulator.toNat)).length = 6 := by
      rw [length_fill, length_toBits]
      omega
    have hzeros : toBits (6 - bits) (0 : UInt32).toNat = List.replicate (6 - bits) false := by
      interval_cases bits <;> rfl
    have hfill : fill (toBits bits accumulator.toNat) =
        toBits 6 (accumulator <<< (6 - bits).toUInt32 ||| 0).toNat := by
      have hshift := toBits_shiftIn (k := bits) (w := 6 - bits) accumulator 0 (by omega)
        (by omega) (Nat.two_pow_pos _)
      rw [show bits + (6 - bits) = 6 by omega, hzeros] at hshift
      rw [hshift, fill, length_toBits, show (6 - bits % 6) % 6 = 6 - bits by omega]
    have hgroup := groups_append (w := 6) [] (by omega) hlen
    rw [List.append_nil, groups_of_length_lt (l := []) (by simp)] at hgroup
    have hmask : ((accumulator <<< (6 - bits).toUInt32) &&& 0x3f).toNat =
        ofBits (fill (toBits bits accumulator.toNat)) := by
      rw [hfill, UInt32.or_zero]
      have := toNat_shiftOut (b := 0) (w := 6) (accumulator <<< (6 - bits).toUInt32) 0x3f
        (by omega) rfl
      simpa using this
    rw [hgroup, encodeLoop, if_pos (by omega), hmask]
    rfl

theorem encodeLoop_cons (accumulator : UInt32) (bits : Nat) (c : UInt8) (s : Bytes) :
    encodeLoop accumulator bits (c :: s) =
      (emit ((accumulator <<< 8) ||| c.toUInt32) (bits + 8)).1 ++
        encodeLoop ((accumulator <<< 8) ||| c.toUInt32)
          (emit ((accumulator <<< 8) ||| c.toUInt32) (bits + 8)).2 s := rfl

/-- Encoding writes the sextets of the unread bits followed by the input. -/
theorem encodeLoop_eq (s : Bytes) : ∀ (accumulator : UInt32) {bits : Nat}, bits < 6 →
    encodeLoop accumulator bits s =
      (groups 6 (fill (toBits bits accumulator.toNat ++ byteBits s))).map char := by
  induction s with
  | nil =>
      intro accumulator bits h
      rw [encodeLoop_nil accumulator h, show byteBits [] = [] from rfl, List.append_nil]
  | cons c s ih =>
      intro accumulator bits h
      have hin : toBits (bits + 8) ((accumulator <<< 8) ||| c.toUInt32).toNat =
          toBits bits accumulator.toNat ++ toBits 8 c.toNat := by
        have := toBits_shiftIn (k := bits) (w := 8) accumulator c.toUInt32 (by omega) (by omega)
          (by simpa using c.toNat_lt)
        simpa using this
      have hrest := emit_rest ((accumulator <<< 8) ||| c.toUInt32) (bits + 8)
      -- The two fillings agree: the emitted sextets do not change the length modulo six.
      have hzeros : (toBits (emit ((accumulator <<< 8) ||| c.toUInt32) (bits + 8)).2
            ((accumulator <<< 8) ||| c.toUInt32).toNat ++ byteBits s).length % 6 =
          (toBits (bits + 8) ((accumulator <<< 8) ||| c.toUInt32).toNat ++
            byteBits s).length % 6 := by
        rw [List.length_append, List.length_append, length_toBits, length_toBits, hrest,
          Nat.mod_add_mod]
      rw [encodeLoop_cons, ih _ (hrest ▸ Nat.mod_lt _ (by omega)), byteBits_cons,
        ← List.append_assoc, ← hin, fill, fill, hzeros, List.append_assoc, List.append_assoc,
        emit_groups _ _ (bits + 8) (by omega)]

example : encodeText (bytes "ab") = bytes "YWI=" := by decide

/-! ## Decoding cuts the sextets into bytes -/

/-- Whitespace and padding, which `Decode` passes over. -/
def isSkipped (c : UInt8) : Bool := isSpace c || c = pad

/-- A character of the alphabet. -/
def isLetter (c : UInt8) : Bool := !(127 < c || 63 < sextet c)

/-- The bits of the sextets of a text, skipped characters left out. -/
def sextetBits (data : Bytes) : List Bool :=
  (data.filter fun c => !isSkipped c).flatMap fun c => toBits 6 (sextet c).toNat

theorem sextetBits_skipped {c : UInt8} (data : Bytes) (h : isSkipped c = true) :
    sextetBits (c :: data) = sextetBits data := by
  simp [sextetBits, h]

theorem sextetBits_letter {c : UInt8} (data : Bytes) (h : isSkipped c = false) :
    sextetBits (c :: data) = toBits 6 (sextet c).toNat ++ sextetBits data := by
  simp [sextetBits, h]

/-- Decoding throws at the first character that is neither skipped nor a letter,
and otherwise returns the whole bytes of the unread bits followed by the
sextets. -/
theorem decodeLoop_eq (data : Bytes) : ∀ (accumulator : UInt32) {bits : Nat}, bits < 8 →
    decodeLoop accumulator bits data =
      if data.all fun c => isSkipped c || isLetter c then
        some ((groups 8 (toBits bits accumulator.toNat ++ sextetBits data)).map Nat.toUInt8)
      else none := by
  induction data with
  | nil =>
      intro accumulator bits h
      rw [decodeLoop, show sextetBits [] = [] from rfl, List.append_nil,
        groups_of_length_lt (by simpa using h)]
      rfl
  | cons c data ih =>
      intro accumulator bits h
      rw [decodeLoop, List.all_cons]
      by_cases hs : isSkipped c = true
      · rw [if_pos (by simpa [isSkipped] using hs), ih accumulator h, sextetBits_skipped data hs,
          hs]
        rfl
      have hs' : isSkipped c = false := by simpa using hs
      rw [if_neg (by simpa [isSkipped] using hs)]
      by_cases hl : isLetter c = true
      · have hill : (decide (127 < c) || decide (63 < sextet c)) = false := by
          simpa [isLetter] using hl
        have hlt : (sextet c).toNat < 2 ^ 6 := by
          have : ¬ 63 < sextet c := by simp at hill; simpa using hill.2
          have := UInt8.not_lt.mp this
          exact Nat.lt_succ_of_le (UInt8.le_iff_toNat_le.mp this)
        have hin : toBits (bits + 6) ((accumulator <<< 6) ||| (sextet c).toUInt32).toNat =
            toBits bits accumulator.toNat ++ toBits 6 (sextet c).toNat := by
          have := toBits_shiftIn (k := bits) (w := 6) accumulator (sextet c).toUInt32 (by omega)
            (by omega) (by simpa using hlt)
          simpa using this
        rw [hill, if_neg (by simp), hl, sextetBits_letter data hs', ← List.append_assoc, ← hin]
        by_cases h8 : 8 ≤ bits + 6
        · obtain ⟨b, hb⟩ : ∃ b, bits + 6 = 8 + b := ⟨bits + 6 - 8, by omega⟩
          rw [if_pos h8, hb, Nat.add_sub_cancel_left]
          dsimp only
          rw [ih _ (show b < 8 by omega), toBits_split 8 b, List.append_assoc,
            groups_append _ (by omega) (length_toBits ..),
            ← toNat_shiftOut _ 0xff (show b < 32 by omega) rfl, Bool.or_true, Bool.true_and]
          by_cases hall : (data.all fun c => isSkipped c || isLetter c) = true
          · rw [if_pos hall, if_pos hall]
            rfl
          · rw [if_neg hall, if_neg hall]
            rfl
        · rw [if_neg h8, ih _ (by omega), Bool.or_true, Bool.true_and]
      · have hill : (decide (127 < c) || decide (63 < sextet c)) = true := by
          simpa only [isLetter, Bool.not_eq_true', Bool.not_eq_false] using hl
        rw [if_pos hill, hs', Bool.eq_false_iff.mpr hl]
        rfl

/-! ## The round trip -/

theorem char_isLetter : ∀ i < 64, isLetter (char i) = true := by decide +kernel

theorem char_not_isSkipped : ∀ i < 64, isSkipped (char i) = false := by decide +kernel

theorem sextet_char : ∀ i < 64, (sextet (char i)).toNat = i := by decide +kernel

theorem char_ne_zero : ∀ i < 64, char i ≠ 0 := by decide +kernel

theorem sextetBits_map_char (xs : List Nat) (hx : ∀ x ∈ xs, x < 64) (l : Bytes) :
    sextetBits (xs.map char ++ l) = xs.flatMap (toBits 6) ++ sextetBits l := by
  induction xs with
  | nil => rfl
  | cons x xs ih =>
      have hx0 := hx x (List.mem_cons_self ..)
      rw [List.map_cons, List.cons_append, sextetBits_letter _ (char_not_isSkipped x hx0),
        ih (fun y hy => hx y (List.mem_cons_of_mem _ hy)), sextet_char x hx0, List.flatMap_cons,
        List.append_assoc]

theorem sextetBits_replicate_pad (n : Nat) : sextetBits (List.replicate n pad) = [] := by
  induction n with
  | zero => rfl
  | succ n ih => rw [List.replicate_succ, sextetBits_skipped _ rfl, ih]

/-- The characters `Encode` writes before the padding. -/
theorem encodeLoop_zero (bindata : Bytes) :
    encodeLoop 0 0 bindata = (groups 6 (fill (byteBits bindata))).map char :=
  encodeLoop_eq bindata 0 (by omega)

/-- Every character of an encoding is a letter or padding. -/
theorem mem_encodeText {bindata : Bytes} {c : UInt8} (h : c ∈ encodeText bindata) :
    (∃ i < 64, c = char i) ∨ c = pad := by
  rw [encodeText, List.mem_append] at h
  cases h with
  | inl h =>
      rw [encodeLoop_zero] at h
      obtain ⟨i, hi, rfl⟩ := List.mem_map.mp h
      exact Or.inl ⟨i, groups_lt _ i hi, rfl⟩
  | inr h => exact Or.inr (List.eq_of_mem_replicate h)

theorem zero_notMem_encodeText (bindata : Bytes) : (0 : UInt8) ∉ encodeText bindata := by
  intro h
  cases mem_encodeText h with
  | inl h =>
      obtain ⟨i, hi, h0⟩ := h
      exact char_ne_zero i hi h0.symm
  | inr h => exact absurd h (by decide)

/-- The characters never outgrow the preset result. -/
theorem length_encodeLoop_le (bindata : Bytes) :
    (encodeLoop 0 0 bindata).length ≤ (bindata.length + 2) / 3 * 4 := by
  rw [encodeLoop_zero, List.length_map,
    length_groups (w := 6) (by omega) _ _ (length_fill _), length_byteBits]
  omega

theorem length_encodeText (bindata : Bytes) :
    (encodeText bindata).length = (bindata.length + 2) / 3 * 4 := by
  have := length_encodeLoop_le bindata
  simp only [encodeText, List.length_append, List.length_replicate]
  omega

/-- Decoding an encoding gives the bytes back. -/
theorem decode_encodeText (bindata : Bytes) : decode (encodeText bindata) = some bindata := by
  have hall : (encodeText bindata).all (fun c => isSkipped c || isLetter c) = true := by
    rw [List.all_eq_true]
    intro c hc
    cases mem_encodeText hc with
    | inl h =>
        obtain ⟨i, hi, rfl⟩ := h
        rw [char_isLetter i hi, Bool.or_true]
    | inr h => rw [h]; rfl
  have hbits : sextetBits (encodeText bindata) = fill (byteBits bindata) := by
    rw [encodeText, encodeLoop_zero, sextetBits_map_char _ (groups_lt _),
      sextetBits_replicate_pad, List.append_nil,
      flatMap_toBits_groups (by omega) _ _ (length_fill _)]
  have hmap : byteBits bindata = (bindata.map UInt8.toNat).flatMap (toBits 8) := by
    rw [List.flatMap_map]
    rfl
  have hlt : ∀ x ∈ bindata.map UInt8.toNat, x < 2 ^ 8 := by
    intro x hx
    obtain ⟨c, _, rfl⟩ := List.mem_map.mp hx
    exact c.toNat_lt
  rw [decode, decodeLoop_eq _ 0 (by omega), if_pos hall, hbits, fill]
  -- The filling is shorter than a byte, so it adds no whole group.
  rw [show toBits 0 (0 : UInt32).toNat = [] from rfl, List.nil_append, hmap,
    groups_flatMap_toBits (by omega) _ hlt, groups_of_length_lt (by
      rw [List.length_replicate]; omega), List.append_nil, List.map_map]
  simp [Function.comp_def]

example : decode (bytes "YW I=") = some (bytes "ab") := by decide

end Banjax.Base64
