import Banjax.Token.Base64

/-!
# The canonical encoding

What a Base64 text should be, said without a shift register: three bytes make a
number of 24 bits and four letters, and one or two bytes that are left over make
two or three letters and `=` signs up to four.

The loop of `Encode` writes this text (`encodeText_eq_canonical`), so the two
directions of the round trip meet at it.
-/

namespace Banjax.Base64

open Lib

/-- The letter of the sextet that starts at bit `k`. -/
def letterAt (k n : Nat) : UInt8 := char (n / 2 ^ k % 64)

/-- The padded encoding, by groups of three bytes. -/
def canonical : Bytes → Bytes
  | [] => []
  | [a] =>
      let n := a.toNat * 2 ^ 16
      [letterAt 18 n, letterAt 12 n, pad, pad]
  | [a, b] =>
      let n := a.toNat * 2 ^ 16 + b.toNat * 2 ^ 8
      [letterAt 18 n, letterAt 12 n, letterAt 6 n, pad]
  | a :: b :: c :: s =>
      let n := a.toNat * 2 ^ 16 + b.toNat * 2 ^ 8 + c.toNat
      letterAt 18 n :: letterAt 12 n :: letterAt 6 n :: letterAt 0 n :: canonical s

example : canonical (bytes "abcd") = bytes "YWJjZA==" := by decide

/-! ## The loop writes the canonical encoding -/

/-- The letters of a bit string, filled up to whole sextets. -/
def letters (l : List Bool) : Bytes := (groups 6 (fill l)).map char

theorem encodeText_eq (s : Bytes) :
    encodeText s = letters (byteBits s) ++
      List.replicate ((s.length + 2) / 3 * 4 - (letters (byteBits s)).length) pad := by
  rw [encodeText, encodeLoop_zero]
  rfl

/-- The first sextet of a bit string is written first. -/
theorem letters_append (n : Nat) (l : List Bool) :
    letters (toBits 6 n ++ l) = char (n % 64) :: letters l := by
  have hfill : fill (toBits 6 n ++ l) = toBits 6 n ++ fill l := by
    rw [fill, fill, List.length_append, length_toBits, Nat.add_mod_left, List.append_assoc]
  rw [letters, hfill, groups_append _ (by omega) (length_toBits ..), ofBits_toBits]
  rfl

theorem letters_nil : letters [] = [] := by
  rw [letters, show fill [] = [] from rfl, groups_of_length_lt (by simp)]
  rfl

/-- The sextets of a number of `6 * k + w` bits, the first of them split off. -/
theorem letters_toBits (w n : Nat) (l : List Bool) :
    letters (toBits (6 + w) n ++ l) = letterAt w n :: letters (toBits w n ++ l) := by
  rw [toBits_split, List.append_assoc, letters_append]
  rfl

/-- Zeros that only fill up a sextet do not change the letters. -/
theorem letters_fill (l : List Bool) {k : Nat} (hk : k = (6 - l.length % 6) % 6) :
    letters l = letters (l ++ List.replicate k false) := by
  have hfilled : fill (l ++ List.replicate k false) = l ++ List.replicate k false := by
    rw [fill, List.length_append, List.length_replicate,
      show (6 - (l.length + k) % 6) % 6 = 0 by omega]
    simp
  rw [letters, letters, hfilled, hk]
  rfl

/-- Three bytes are the bits of one number. -/
theorem byteBits_three (a b c : UInt8) (s : Bytes) :
    byteBits (a :: b :: c :: s) =
      toBits 24 (a.toNat * 2 ^ 16 + b.toNat * 2 ^ 8 + c.toNat) ++ byteBits s := by
  have hb := toBits_push (w := 8) 8 a.toNat b.toNat_lt
  have hc := toBits_push (w := 8) 16 (a.toNat * 2 ^ 8 + b.toNat) c.toNat_lt
  rw [byteBits_cons, byteBits_cons, byteBits_cons, ← List.append_assoc, ← hb,
    ← List.append_assoc]
  rw [show a.toNat * 2 ^ 16 + b.toNat * 2 ^ 8 + c.toNat =
    (a.toNat * 2 ^ 8 + b.toNat) * 2 ^ 8 + c.toNat by ring, hc]

theorem toBits_zero (k : Nat) : toBits k 0 = List.replicate k false := by
  induction k with
  | zero => rfl
  | succ k ih => rw [toBits, ih, Nat.zero_testBit, List.replicate_succ]

theorem letters_one (a : UInt8) :
    letters (byteBits [a]) = [letterAt 18 (a.toNat * 2 ^ 16), letterAt 12 (a.toNat * 2 ^ 16)] := by
  -- Four zeros make the eight bits two sextets.
  have hbits : byteBits [a] ++ List.replicate 4 false = toBits (6 + 6) (a.toNat * 2 ^ 4) ++ [] := by
    have hpush := toBits_push (w := 4) 8 a.toNat (Nat.two_pow_pos 4)
    rw [toBits_zero, Nat.add_zero] at hpush
    rw [byteBits_cons, show byteBits [] = [] from rfl, List.append_nil, List.append_nil]
    exact hpush.symm
  have hfirst : a.toNat * 2 ^ 4 / 2 ^ 6 % 64 = a.toNat * 2 ^ 16 / 2 ^ 18 % 64 := by omega
  have hsecond : a.toNat * 2 ^ 4 / 2 ^ 0 % 64 = a.toNat * 2 ^ 16 / 2 ^ 12 % 64 := by omega
  rw [letters_fill (k := 4) _ (by simp [length_byteBits]), hbits, letters_toBits,
    show 6 = 6 + 0 from rfl, letters_toBits, show toBits 0 _ ++ [] = [] from rfl, letters_nil,
    letterAt, letterAt, hfirst, hsecond]
  rfl

theorem letters_two (a b : UInt8) :
    letters (byteBits [a, b]) =
      [letterAt 18 (a.toNat * 2 ^ 16 + b.toNat * 2 ^ 8),
        letterAt 12 (a.toNat * 2 ^ 16 + b.toNat * 2 ^ 8),
        letterAt 6 (a.toNat * 2 ^ 16 + b.toNat * 2 ^ 8)] := by
  -- Two zeros make the sixteen bits three sextets.
  have hbits : byteBits [a, b] ++ List.replicate 2 false =
      toBits (6 + 12) ((a.toNat * 2 ^ 8 + b.toNat) * 2 ^ 2) ++ [] := by
    have hb := toBits_push (w := 8) 8 a.toNat b.toNat_lt
    have hpush := toBits_push (w := 2) 16 (a.toNat * 2 ^ 8 + b.toNat) (Nat.two_pow_pos 2)
    rw [toBits_zero, Nat.add_zero] at hpush
    rw [byteBits_cons, byteBits_cons, show byteBits [] = [] from rfl, List.append_nil,
      List.append_nil, ← hb]
    exact hpush.symm
  have hfirst : (a.toNat * 2 ^ 8 + b.toNat) * 2 ^ 2 / 2 ^ 12 % 64 =
      (a.toNat * 2 ^ 16 + b.toNat * 2 ^ 8) / 2 ^ 18 % 64 := by omega
  have hsecond : (a.toNat * 2 ^ 8 + b.toNat) * 2 ^ 2 / 2 ^ 6 % 64 =
      (a.toNat * 2 ^ 16 + b.toNat * 2 ^ 8) / 2 ^ 12 % 64 := by omega
  have hthird : (a.toNat * 2 ^ 8 + b.toNat) * 2 ^ 2 / 2 ^ 0 % 64 =
      (a.toNat * 2 ^ 16 + b.toNat * 2 ^ 8) / 2 ^ 6 % 64 := by omega
  rw [letters_fill (k := 2) _ (by simp [length_byteBits]), hbits, letters_toBits,
    show 12 = 6 + 6 from rfl, letters_toBits, show toBits 6 _ = toBits (6 + 0) _ from rfl,
    letters_toBits, show toBits 0 _ ++ [] = [] from rfl, letters_nil, letterAt, letterAt, letterAt,
    hfirst, hsecond, hthird]
  rfl

theorem letters_three (a b c : UInt8) (s : Bytes) :
    letters (byteBits (a :: b :: c :: s)) =
      letterAt 18 (a.toNat * 2 ^ 16 + b.toNat * 2 ^ 8 + c.toNat) ::
      letterAt 12 (a.toNat * 2 ^ 16 + b.toNat * 2 ^ 8 + c.toNat) ::
      letterAt 6 (a.toNat * 2 ^ 16 + b.toNat * 2 ^ 8 + c.toNat) ::
      letterAt 0 (a.toNat * 2 ^ 16 + b.toNat * 2 ^ 8 + c.toNat) :: letters (byteBits s) := by
  rw [byteBits_three, show 24 = 6 + 18 from rfl, letters_toBits, show 18 = 6 + 12 from rfl,
    letters_toBits, show toBits 12 _ = toBits (6 + 6) _ from rfl, letters_toBits,
    show toBits 6 _ = toBits (6 + 0) _ from rfl, letters_toBits, show toBits 0 _ = [] from rfl,
    List.nil_append]

/-- `Encode` writes the canonical encoding. -/
theorem encodeText_eq_canonical : ∀ s : Bytes, encodeText s = canonical s
  | [] => rfl
  | [a] => by
      rw [encodeText_eq, letters_one]
      simp [canonical, List.replicate]
  | [a, b] => by
      rw [encodeText_eq, letters_two]
      simp [canonical]
  | a :: b :: c :: s => by
      -- The padding only depends on the bytes after the whole groups.
      have hpad : (s.length + 1 + 1 + 1 + 2) / 3 * 4 -
          ((letters (byteBits s)).length + 1 + 1 + 1 + 1) =
          (s.length + 2) / 3 * 4 - (letters (byteBits s)).length := by omega
      rw [canonical, ← encodeText_eq_canonical s, encodeText_eq, encodeText_eq s, letters_three]
      simp only [List.length_cons, hpad, List.cons_append]

/-! ## Both directions -/

/-- Decoding what `Encode` returns gives the bytes back, and encoding what `Decode`
reads from a canonical text gives the text back.  A text whose length is that of a
`std::string` is never too long for the way back. -/
theorem encode_decode_roundTrip :
    (∀ bindata : Bytes, bindata.length ≤ (2 ^ 64 - 1) / 4 * 3 →
      ∃ data, encode bindata = some data ∧ decode data = some bindata) ∧
    (∀ data : Bytes, (∃ bindata, data = canonical bindata) → data.length < 2 ^ 64 →
      ∃ decoded, decode data = some decoded ∧ encode decoded = some data) := by
  constructor
  · intro bindata hsize
    refine ⟨encodeText bindata, ?_, decode_encodeText bindata⟩
    rw [encode, if_neg (not_lt.mpr hsize)]
  · rintro data ⟨bindata, hdata⟩ hlen
    rw [← encodeText_eq_canonical] at hdata
    have hsize : ¬ (2 ^ 64 - 1) / 4 * 3 < bindata.length := by
      rw [hdata, length_encodeText] at hlen
      omega
    refine ⟨bindata, ?_, ?_⟩
    · rw [hdata, decode_encodeText]
    · rw [encode, if_neg hsize, hdata]

/-- Both ways on a text with two padding characters. -/
theorem encode_decode_roundTrip_abcd :
    (∃ data, encode (bytes "abcd") = some data ∧ decode data = some (bytes "abcd")) ∧
    ∃ decoded, decode (bytes "YWJjZA==") = some decoded ∧
      encode decoded = some (bytes "YWJjZA==") :=
  ⟨encode_decode_roundTrip.1 (bytes "abcd") (by decide),
    encode_decode_roundTrip.2 (bytes "YWJjZA==") ⟨bytes "abcd", by decide⟩ (by decide)⟩

end Banjax.Base64
