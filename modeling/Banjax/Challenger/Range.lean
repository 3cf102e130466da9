import Banjax.Challenger.Parse
import Banjax.Lib.Search

/-!
# Ranges in CIDR notation

`make_mask_for_range` and `is_match` of `util.cpp`, on the ranges a configuration is meant to
hold: a dotted address, and perhaps a slash and the number of leading bits that count.

The mask is a word of ones shifted out and back in by `32 - keep_bits`.  From one bit on this
is what the notation says.  For `/0` both shifts are by 32, which is the width of the word:
that is undefined, the processor shifts by nothing, and the range of all addresses matches a
single one.  So a range does what it says exactly when its number is not zero
(`cidr_iff`).
-/

namespace Banjax

open Lib

/-! ## Reading a printed address -/

/-- The number of an address, in host byte order. -/
def InAddr.value (x : InAddr) : Nat :=
  ((x.a.toNat * 256 + x.b.toNat) * 256 + x.c.toNat) * 256 + x.d.toNat

theorem InAddr.value_lt (x : InAddr) : x.value < 2 ^ 32 := by
  have ha := x.a.toNat_lt
  have hb := x.b.toNat_lt
  have hc := x.c.toNat_lt
  have hd := x.d.toNat_lt
  rw [value]
  omega

/-- Digits are read up to the first byte that is none. -/
theorem readDigits_append {base : Nat} {ds : Bytes} {acc val : Nat}
    (h : readDigits base acc ds = (val, [])) {rest : Bytes}
    (hrest : ∀ c ∈ rest.head?, ¬ digitValue c < base) :
    readDigits base acc (ds ++ rest) = (val, rest) := by
  induction ds generalizing acc with
  | nil =>
      cases h
      cases rest with
      | nil => rfl
      | cons c rest => rw [List.nil_append, readDigits, if_neg (hrest c rfl)]
  | cons d ds ih =>
      rw [readDigits] at h
      rw [List.cons_append, readDigits]
      split at h
      · next hd => rw [if_pos hd, ih h]
      · cases h

/-- A printed octet is read in base ten, and a lone zero in base eight. -/
theorem decimal_octet_digits : ∀ n < 256, readDigits 10 0 (decimal n) = (n, []) ∧
    (decimal n = [48] ∧ n = 0 ∨ (decimal n).head? ≠ some 48) ∧
    (decimal n).head?.any isDigit = true := by decide +kernel

/-- A text that does not start with a zero is read in base ten. -/
theorem strtoul_of_head {s : Bytes} (h : s.head? ≠ some 48) : strtoul s = readDigits 10 0 s := by
  unfold strtoul
  split
  · simp at h
  · simp at h
  · simp at h
  · rfl

/-- What may follow an octet: a dot, or the end of the text. -/
theorem strtoul_decimal {n : Nat} (hn : n < 256) {rest : Bytes}
    (hrest : rest = [] ∨ rest.head? = some 46) : strtoul (decimal n ++ rest) = (n, rest) := by
  obtain ⟨hread, hzero, hdigit⟩ := decimal_octet_digits n hn
  have hstop : ∀ c ∈ rest.head?, digitValue c = 16 := by
    intro c hc
    rcases hrest with rfl | hrest
    · cases hc
    · rw [hrest] at hc
      cases hc
      rfl
  rcases hzero with ⟨hzero, rfl⟩ | hhead
  · rw [hzero]
    have hoctal : readDigits 8 0 ([48] ++ rest) = (0, rest) :=
      readDigits_append rfl (fun c hc => by rw [hstop c hc]; decide)
    rw [← hoctal]
    rcases hrest with rfl | hrest
    · rfl
    · cases rest with
      | nil => cases hrest
      | cons c rest =>
          cases hrest
          cases rest <;> rfl
  · have hne : (decimal n ++ rest).head? ≠ some 48 := by
      cases hd : decimal n with
      | nil => rw [hd] at hdigit; cases hdigit
      | cons d ds => rw [hd] at hhead; exact hhead
    rw [strtoul_of_head hne]
    exact readDigits_append hread (fun c hc => by rw [hstop c hc]; decide)

theorem isDigit_decimal {n : Nat} (hn : n < 256) (rest : Bytes) :
    isDigit ((decimal n ++ rest).headD 0) = true := by
  have h := (decimal_octet_digits n hn).2.2
  cases hd : decimal n with
  | nil => rw [hd] at h; cases h
  | cons d ds => rw [hd] at h; exact h

/-- An octet and its dot. -/
theorem inetAton_dot {n : Nat} (hn : n < 256) (left acc : Nat) (rest : Bytes) :
    inetAton (left + 2) acc (decimal n ++ 46 :: rest) =
      inetAton (left + 1) (acc * 256 + n) rest := by
  rw [inetAton, isDigit_decimal hn, strtoul_decimal hn (Or.inr rfl)]
  have hle : ¬ 0xff < n := by omega
  simp [hle]

theorem inetAton_last {n : Nat} (hn : n < 256) (acc : Nat) :
    inetAton 1 acc (decimal n) = some (acc * 256 + n) := by
  have hdigit := isDigit_decimal hn []
  have hread := strtoul_decimal hn (Or.inl rfl)
  rw [List.append_nil] at hdigit hread
  rw [inetAton, hdigit, hread]
  simp
  omega

/-- `inet_addr` gives back what `inet_ntoa` printed. -/
theorem inetAddr_inetNtoa (x : InAddr) : (inetAddr (inetNtoa x)).toNat = x.value := by
  have hread : inetAton 4 0 (inetNtoa x) = some x.value := by
    rw [inetNtoa, List.append_assoc, List.append_assoc, List.cons_append, List.cons_append,
      inetAton_dot x.a.toNat_lt, inetAton_dot x.b.toNat_lt, inetAton_dot x.c.toNat_lt,
      inetAton_last x.d.toNat_lt, InAddr.value, Nat.zero_mul, Nat.zero_add]
  have hstr : cStr (inetNtoa x) = inetNtoa x := (ClientIp.ofAddr x).cStr_str
  rw [inetAddr, hstr, hread, Option.getD_some, Nat.toUInt32, UInt32.toNat_ofNat',
    Nat.mod_eq_of_lt x.value_lt]

/-! ## The mask -/

/-- The ones that are left after the two shifts. -/
theorem testBit_shifted {n : Nat} {amount : UInt32} (hn : amount.toNat = n) (hlt : n < 32)
    (i : Nat) :
    ((0xffffffff >>> amount) <<< amount : UInt32).toNat.testBit i = decide (n ≤ i ∧ i < 32) := by
  have hmod : amount.toNat % 32 = n := by omega
  have hones : (0xffffffff : UInt32).toNat = 2 ^ 32 - 1 := rfl
  rw [UInt32.toNat_shiftLeft, UInt32.toNat_shiftRight, hmod, hones, Nat.testBit_mod_two_pow,
    Nat.testBit_shiftLeft, Nat.testBit_shiftRight, Nat.testBit_two_pow_sub_one]
  by_cases hle : n ≤ i
  · have : n + (i - n) = i := by omega
    simp [hle, this]
  · simp [hle]

/-- Two words agree under the mask when they agree above the shift. -/
theorem and_shifted_eq_iff {n : Nat} {amount : UInt32} (hn : amount.toNat = n) (hlt : n < 32)
    (x y : UInt32) :
    x &&& ((0xffffffff >>> amount) <<< amount) = y &&& ((0xffffffff >>> amount) <<< amount) ↔
      x.toNat / 2 ^ n = y.toNat / 2 ^ n := by
  have hbits := testBit_shifted hn hlt
  generalize (0xffffffff >>> amount) <<< amount = mask at hbits
  rw [← UInt32.toNat_inj, UInt32.toNat_and, UInt32.toNat_and]
  constructor
  · intro h
    apply Nat.eq_of_testBit_eq
    intro i
    rw [Nat.testBit_div_two_pow, Nat.testBit_div_two_pow]
    by_cases hi : i + n < 32
    · have hbit := congrArg (Nat.testBit · (i + n)) h
      simpa [Nat.testBit_and, hbits, hi] using hbit
    · have hwide : 2 ^ 32 ≤ 2 ^ (i + n) := Nat.pow_le_pow_right (by omega) (by omega)
      have hx : x.toNat < 2 ^ (i + n) := x.toNat_lt.trans_le hwide
      have hy : y.toNat < 2 ^ (i + n) := y.toNat_lt.trans_le hwide
      rw [Nat.testBit_lt_two_pow hx, Nat.testBit_lt_two_pow hy]
  · intro h
    apply Nat.eq_of_testBit_eq
    intro i
    rw [Nat.testBit_and, Nat.testBit_and, hbits]
    by_cases hi : n ≤ i ∧ i < 32
    · have hbit := congrArg (Nat.testBit · (i - n)) h
      simp only [Nat.testBit_div_two_pow, Nat.sub_add_cancel hi.1] at hbit
      rw [hbit]
    · simp [hi]

/-! ## Ranges -/

/-- The text of a range: an address, and perhaps a slash and a number. -/
def rangeText (b : InAddr) : Option Bytes → Bytes
  | none => inetNtoa b
  | some number => inetNtoa b ++ 47 :: number

/-- The number of leading bits that count, if the text has one. -/
def keptBits : Option Bytes → Option Int
  | none => some 32
  | some number => (stoi number).toOption

example : [bytes "24", bytes "-1"].map (keptBits ∘ some) = [some 24, some (-1)] := by
  decide +kernel

/-- The amounts by which `make_mask_for_range` shifts. -/
def shiftAmounts (hayIp : Bytes) : List UInt32 :=
  match find? (bytes "/") hayIp with
  | none => []
  | some slashPos =>
      match stoi (hayIp.drop (slashPos + 1)) with
      | .error _ => []
      | .ok n =>
          let keepBits := UInt32.ofInt n
          if 32 < keepBits then [] else [32 - keepBits, 32 - keepBits]

/-- What the notation promises: with a number from 0 to 32 the range matches the addresses
that agree with its own in that many leading bits, and the shifts are defined; with no such
number it is refused. -/
def Cidr (b a : InAddr) (number : Option Bytes) : Prop :=
  (∀ k : Nat, keptBits number = some (k : Int) → k ≤ 32 →
    ∃ range, makeMaskForRange (rangeText b number) = .ok range ∧
      (isMatch (inetNtoa a) range = true ↔
        a.value / 2 ^ (32 - k) = b.value / 2 ^ (32 - k)) ∧
      ∀ amount ∈ shiftAmounts (rangeText b number), amount < 32) ∧
  ((∀ k : Nat, keptBits number = some (k : Int) → ¬ k ≤ 32) →
    ∃ e, makeMaskForRange (rangeText b number) = .error e)

theorem slash_notMem_inetNtoa (x : InAddr) : (47 : UInt8) ∉ inetNtoa x := by
  intro h
  exact absurd (List.all_eq_true.mp (inetNtoa_all x) 47 h) (by decide)

/-- The first slash of a text. -/
theorem find?_slash {s : Bytes} (h : (47 : UInt8) ∉ s) (rest : Bytes) :
    find? (bytes "/") (s ++ 47 :: rest) = some s.length := by
  rw [show bytes "/" = [47] by decide]
  exact find?_byte h rest

theorem find?_slash_none {s : Bytes} (h : (47 : UInt8) ∉ s) : find? (bytes "/") s = none := by
  rw [show bytes "/" = [47] by decide]
  exact find?_byte_eq_none h

/-- A match compares the words under the mask. -/
theorem isMatch_iff (a : Bytes) (base mask : UInt32) :
    isMatch a (base, mask) = true ↔ inetAddr a &&& mask = base &&& mask := by
  rw [isMatch, beq_iff_eq]
  exact eq_comm

/-- An address alone matches itself. -/
theorem cidr_none (b a : InAddr) : Cidr b a none := by
  have hfind := find?_slash_none (slash_notMem_inetNtoa b)
  have hmask : makeMaskForRange (inetNtoa b) = .ok (inetAddr (inetNtoa b), 0xffffffff) := by
    rw [makeMaskForRange, hfind]
  refine ⟨?_, ?_⟩
  · intro k hk hle
    have hk : (32 : Int) = k := Option.some.inj hk
    obtain rfl : k = 32 := by omega
    refine ⟨_, hmask, ?_, ?_⟩
    · have hfull := and_shifted_eq_iff (show (0 : UInt32).toNat = 0 from rfl) (by decide)
        (inetAddr (inetNtoa a)) (inetAddr (inetNtoa b))
      rw [inetAddr_inetNtoa, inetAddr_inetNtoa] at hfull
      rw [isMatch_iff]
      exact hfull
    · intro amount hamount
      rw [rangeText, shiftAmounts, hfind] at hamount
      cases hamount
  · intro h
    exact absurd le_rfl (h 32 rfl)

theorem find?_rangeText (b : InAddr) (number : Bytes) :
    find? (bytes "/") (rangeText b (some number)) = some (inetNtoa b).length :=
  find?_slash (slash_notMem_inetNtoa b) number

theorem drop_rangeText (b : InAddr) (number : Bytes) :
    (rangeText b (some number)).drop ((inetNtoa b).length + 1) = number := by
  rw [rangeText, List.append_cons]
  exact List.drop_left' (by simp)

theorem take_rangeText (b : InAddr) (number : Bytes) :
    (rangeText b (some number)).take (inetNtoa b).length = inetNtoa b :=
  List.take_left ..

/-- The amount of both shifts, for a number that is accepted. -/
theorem toNat_amount {k : Nat} (h : k ≤ 32) : (32 - UInt32.ofInt (k : Int)).toNat = 32 - k := by
  have hval : (UInt32.ofInt (k : Int)).toNat = k := by
    have hmod : (k : Int) % 2 ^ 32 = k := by omega
    rw [UInt32.ofInt, hmod, Int.toNat_natCast, UInt32.toNat_ofNat', Nat.mod_eq_of_lt (by omega)]
  have hle : UInt32.ofInt (k : Int) ≤ 32 := by
    rw [UInt32.le_iff_toNat_le, hval]
    exact h
  rw [UInt32.toNat_sub_of_le _ _ hle, hval]
  rfl

/-- A number that does not fit, or no number: the range is refused. -/
theorem makeMaskForRange_refused {b : InAddr} {number : Bytes}
    (h : ∀ k : Nat, keptBits (some number) = some (k : Int) → ¬ k ≤ 32) :
    ∃ e, makeMaskForRange (rangeText b (some number)) = .error e := by
  rw [makeMaskForRange, find?_rangeText]
  dsimp only
  rw [drop_rangeText]
  cases hn : stoi number with
  | error e => exact ⟨e, rfl⟩
  | ok n =>
      have hbits : 32 < UInt32.ofInt n := by
        by_contra hbits
        obtain ⟨h0, h32⟩ := (ChallengeReader.ofInt_le_iff (ChallengeReader.stoi_range hn)).mp hbits
        obtain ⟨k, rfl⟩ := Int.eq_ofNat_of_zero_le h0
        exact h k (by rw [keptBits, hn]; rfl) (by omega)
      exact ⟨.invalidConf, if_pos hbits⟩

/-- A number that fits gives the base and the shifted ones, and two shifts. -/
theorem makeMaskForRange_kept {b : InAddr} {number : Bytes} {k : Nat}
    (h : keptBits (some number) = some (k : Int)) (hk : k ≤ 32) :
    makeMaskForRange (rangeText b (some number)) =
      .ok (inetAddr (inetNtoa b),
        (0xffffffff >>> (32 - UInt32.ofInt k)) <<< (32 - UInt32.ofInt k)) ∧
    shiftAmounts (rangeText b (some number)) =
      [32 - UInt32.ofInt k, 32 - UInt32.ofInt k] := by
  have hn : stoi number = .ok (k : Int) := by
    rw [keptBits] at h
    cases hn : stoi number with
    | error e => rw [hn] at h; cases h
    | ok n => rw [hn] at h; cases h; rfl
  have hbits : ¬ 32 < UInt32.ofInt (k : Int) :=
    (ChallengeReader.ofInt_le_iff (ChallengeReader.stoi_range hn)).mpr ⟨by omega, by omega⟩
  constructor
  · rw [makeMaskForRange, find?_rangeText]
    dsimp only
    rw [drop_rangeText, take_rangeText, hn]
    exact if_neg hbits
  · rw [shiftAmounts, find?_rangeText]
    dsimp only
    rw [drop_rangeText, hn]
    exact if_neg hbits

/-- A range does what its notation says unless its number is zero. -/
theorem cidr_iff (b a : InAddr) (number : Option Bytes) :
    Cidr b a number ↔ keptBits number ≠ some 0 := by
  cases number with
  | none => simp [cidr_none b a, keptBits]
  | some number =>
      constructor
      · rintro ⟨hmatch, -⟩ hzero
        obtain ⟨range, -, -, hshift⟩ := hmatch 0 hzero (by omega)
        rw [(makeMaskForRange_kept hzero (Nat.zero_le _)).2] at hshift
        exact absurd (hshift _ (List.mem_cons_self ..)) (by decide)
      · intro hne
        refine ⟨?_, makeMaskForRange_refused⟩
        intro k hk hle
        have hpos : k ≠ 0 := fun h0 => hne (by rw [hk, h0]; rfl)
        obtain ⟨hmask, hshift⟩ := makeMaskForRange_kept (b := b) hk hle
        have hamount := toNat_amount hle
        refine ⟨_, hmask, ?_, ?_⟩
        · rw [isMatch_iff, and_shifted_eq_iff hamount (by omega), inetAddr_inetNtoa,
            inetAddr_inetNtoa]
        · intro amount hmem
          rw [hshift] at hmem
          have hlt : (32 - UInt32.ofInt (k : Int)) < 32 := by
            rw [UInt32.lt_iff_toNat_lt, hamount]
            exact show 32 - k < 32 by omega
          rcases List.mem_pair.mp hmem with rfl | rfl
          · exact hlt
          · exact hlt

/-- `/0` should match every address, and matches one. -/
theorem not_cidr_zero :
    ¬ Cidr ⟨10, 0, 0, 1⟩ ⟨192, 168, 1, 9⟩ (some (bytes "0")) ∧
    ∃ range, makeMaskForRange (rangeText ⟨10, 0, 0, 1⟩ (some (bytes "0"))) = .ok range ∧
      isMatch (inetNtoa ⟨192, 168, 1, 9⟩) range = false := by
  constructor
  · rintro ⟨hmatch, -⟩
    obtain ⟨range, hrange, hiff, -⟩ := hmatch 0 (by decide +kernel) (by omega)
    have hfalse : makeMaskForRange (rangeText ⟨10, 0, 0, 1⟩ (some (bytes "0"))) =
        .ok (0x0a000001, 0xffffffff) := by decide +kernel
    rw [hfalse] at hrange
    cases hrange
    exact absurd (hiff.mpr (by decide)) (by decide +kernel)
  · exact ⟨(0x0a000001, 0xffffffff), by decide +kernel, by decide +kernel⟩

end Banjax
