import Mathlib.Data.List.Infix
import Mathlib.Data.List.TakeWhile
import Mathlib.Tactic

/-!
# Byte strings

A byte string is a list of bytes.  The two C views of it are here as well: the
part a `char*` reader sees, which ends at the first NUL (`cStr`), and the
little-endian image of an integer in memory (`leBytes`).

Searching follows `std::string`.  `find?` and `rfind?` give the position of the
first and of the last occurrence.
-/

namespace Lib

/-- A byte string. -/
abbrev Bytes := List UInt8

/-- The bytes of an ASCII literal. -/
def bytes (s : String) : Bytes := s.toList.map fun c => c.toNat.toUInt8

/-- A property of a byte can be tested on all of them. -/
theorem forall_byte {P : UInt8 → Prop} (h : ∀ n < 256, P n.toUInt8) (c : UInt8) : P c := by
  have := h c.toNat c.toNat_lt
  simpa [Nat.toUInt8] using this

/-! ## C strings -/

/-- What a reader of the `char*` sees: everything before the first NUL. -/
def cStr (s : Bytes) : Bytes := s.takeWhile (· ≠ 0)

theorem cStr_of_zero_notMem {s : Bytes} (h : (0 : UInt8) ∉ s) : cStr s = s := by
  rw [cStr, List.takeWhile_eq_self_iff]
  intro c hc
  have : c ≠ 0 := fun h0 => h (h0 ▸ hc)
  simpa using this

@[simp] theorem cStr_nil : cStr [] = [] := rfl

/-! ## Searching -/

/-- The position of the first occurrence of `pat`. -/
def find? (pat : Bytes) : Bytes → Option Nat
  | [] => if pat = [] then some 0 else none
  | c :: s => if pat <+: c :: s then some 0 else (find? pat s).map (· + 1)

/-- The position of the last occurrence of `pat`. -/
def rfind? (pat : Bytes) : Bytes → Option Nat
  | [] => if pat = [] then some 0 else none
  | c :: s =>
      match rfind? pat s with
      | some n => some (n + 1)
      | none => if pat <+: c :: s then some 0 else none

/-- The first occurrence of `pat` replaced by `new`, if there is one. -/
def replaceFirst (s pat new : Bytes) : Bytes :=
  match find? pat s with
  | some n => s.take n ++ new ++ s.drop (n + pat.length)
  | none => s

/-! ## Integers in memory -/

/-- The low `k` bytes of `n`, least significant first. -/
def leBytes : Nat → Nat → Bytes
  | 0, _ => []
  | k + 1, n => (n % 256).toUInt8 :: leBytes k (n / 256)

/-- The number whose little-endian image is given. -/
def ofLeBytes : Bytes → Nat
  | [] => 0
  | c :: s => c.toNat + 256 * ofLeBytes s

@[simp] theorem length_leBytes (k n : Nat) : (leBytes k n).length = k := by
  induction k generalizing n with
  | zero => rfl
  | succ k ih => simp [leBytes, ih]

theorem ofLeBytes_leBytes (k n : Nat) : ofLeBytes (leBytes k n) = n % 256 ^ k := by
  induction k generalizing n with
  | zero => simp [leBytes, ofLeBytes, Nat.mod_one]
  | succ k ih =>
      have hlow : (n % 256).toUInt8.toNat = n % 256 := by
        simp [Nat.toUInt8, UInt8.toNat_ofNat']
      rw [leBytes, ofLeBytes, ih, hlow, Nat.pow_succ', Nat.mod_mul]

theorem ofLeBytes_lt (s : Bytes) : ofLeBytes s < 256 ^ s.length := by
  induction s with
  | nil => simp [ofLeBytes]
  | cons c s ih =>
      have hc := c.toNat_lt
      rw [ofLeBytes, List.length_cons, Nat.pow_succ']
      omega

theorem leBytes_ofLeBytes (s : Bytes) : leBytes s.length (ofLeBytes s) = s := by
  induction s with
  | nil => rfl
  | cons c s ih =>
      have hc := c.toNat_lt
      have hlow : (c.toNat + 256 * ofLeBytes s) % 256 = c.toNat := by omega
      have hhigh : (c.toNat + 256 * ofLeBytes s) / 256 = ofLeBytes s := by omega
      rw [ofLeBytes, List.length_cons, leBytes, hlow, hhigh, ih]
      simp [Nat.toUInt8]

/-! ## Decimal text -/

/-- The decimal digits of a number, as `std::to_string` prints them. -/
def decimal (n : Nat) : Bytes := (Nat.toDigits 10 n).map fun c => c.toNat.toUInt8

/-- `isspace` in the C locale. -/
def isSpace (c : UInt8) : Bool := c = 32 || (9 ≤ c && c ≤ 13)

/-- `isdigit`. -/
def isDigit (c : UInt8) : Bool := 48 ≤ c && c ≤ 57

end Lib
