import Mathlib.Data.Nat.Bitwise
import Mathlib.Tactic

/-!
# Bit strings and regrouping

A number is read as a string of bits, most significant first.  `toBits w n` is
the `w` low bits of `n` and `ofBits` reads them back.  `groups w` cuts a bit
string into whole groups of `w` bits and drops an incomplete tail.

Codecs that move between digit sizes (bytes to sextets and back) are two
regroupings of one bit string.  What such a codec needs is that a bit string
survives being cut and put together again (`groups_flatMap_toBits`,
`flatMap_toBits_groups`), and that a shift register which keeps its unread bits
in its low end appends and removes groups as the bit string does
(`toBits_push`, `toBits_split`).
-/

namespace Lib

/-! ## Numbers and bit strings -/

/-- The `w` low bits of `n`, most significant first. -/
def toBits : Nat → Nat → List Bool
  | 0, _ => []
  | w + 1, n => n.testBit w :: toBits w n

/-- The number a bit string denotes. -/
def ofBits : List Bool → Nat
  | [] => 0
  | b :: l => b.toNat * 2 ^ l.length + ofBits l

@[simp] theorem length_toBits (w n : Nat) : (toBits w n).length = w := by
  induction w with
  | zero => rfl
  | succ w ih => simp [toBits, ih]

theorem ofBits_lt (l : List Bool) : ofBits l < 2 ^ l.length := by
  induction l with
  | nil => simp [ofBits]
  | cons b l ih =>
      have hb : b.toNat ≤ 1 := Bool.toNat_le b
      have := Nat.mul_le_mul_right (2 ^ l.length) hb
      simp only [ofBits, List.length_cons, Nat.pow_succ]
      omega

theorem ofBits_toBits (w n : Nat) : ofBits (toBits w n) = n % 2 ^ w := by
  induction w with
  | zero => simp [toBits, ofBits, Nat.mod_one]
  | succ w ih =>
      rw [toBits, ofBits, ih, length_toBits, Nat.mod_pow_succ, Nat.toNat_testBit]
      ring

/-- Only the `w` low bits count. -/
theorem toBits_mod {w v : Nat} (n : Nat) (h : w ≤ v) : toBits w (n % 2 ^ v) = toBits w n := by
  induction w with
  | zero => rfl
  | succ w ih =>
      rw [toBits, toBits, ih (by omega), Nat.testBit_mod_two_pow]
      simp [show w < v by omega]

/-- The high bits, then the low bits. -/
theorem toBits_split (a b n : Nat) : toBits (a + b) n = toBits a (n / 2 ^ b) ++ toBits b n := by
  induction a with
  | zero => simp [toBits]
  | succ a ih =>
      rw [show a + 1 + b = (a + b) + 1 by omega, toBits, toBits, ih, Nat.testBit_div_two_pow]
      rfl

/-- Shifting a digit of `w` bits in appends its bits. -/
theorem toBits_push {w d : Nat} (a n : Nat) (hd : d < 2 ^ w) :
    toBits (a + w) (n * 2 ^ w + d) = toBits a n ++ toBits w d := by
  have hdiv : (n * 2 ^ w + d) / 2 ^ w = n := by
    rw [Nat.mul_comm, Nat.mul_add_div (Nat.two_pow_pos w), Nat.div_eq_of_lt hd, Nat.add_zero]
  have hmod : (n * 2 ^ w + d) % 2 ^ w = d := by
    rw [Nat.mul_comm, Nat.mul_add_mod, Nat.mod_eq_of_lt hd]
  rw [toBits_split, hdiv, ← toBits_mod (n * 2 ^ w + d) le_rfl, hmod]

theorem toBits_ofBits (l : List Bool) : toBits l.length (ofBits l) = l := by
  induction l with
  | nil => rfl
  | cons b l ih =>
      have h := toBits_push 1 b.toNat (ofBits_lt l)
      rw [ih] at h
      rw [List.length_cons, Nat.add_comm, ofBits, h]
      cases b <;> rfl

/-! ## Whole groups -/

/-- The values of the whole groups of `w` bits, an incomplete tail dropped. -/
def groups (w : Nat) (l : List Bool) : List Nat :=
  if _h : 0 < w ∧ w ≤ l.length then ofBits (l.take w) :: groups w (l.drop w) else []
termination_by l.length
decreasing_by simp; omega

theorem groups_of_length_lt {w : Nat} {l : List Bool} (h : l.length < w) : groups w l = [] := by
  rw [groups, dif_neg (by omega)]

theorem groups_append {w : Nat} {g : List Bool} (l : List Bool) (hw : 0 < w)
    (hg : g.length = w) : groups w (g ++ l) = ofBits g :: groups w l := by
  rw [groups, dif_pos (by simp [hw, hg])]
  subst hg
  simp

/-- Digits written as bits and cut again are the digits, and the tail is cut on
its own. -/
theorem groups_flatMap_toBits {w : Nat} (hw : 0 < w) (xs : List Nat) (hx : ∀ x ∈ xs, x < 2 ^ w)
    (l : List Bool) : groups w (xs.flatMap (toBits w) ++ l) = xs ++ groups w l := by
  induction xs with
  | nil => rfl
  | cons x xs ih =>
      have hxw : x % 2 ^ w = x := Nat.mod_eq_of_lt (hx x (List.mem_cons_self ..))
      rw [List.flatMap_cons, List.append_assoc, groups_append _ hw (length_toBits w x),
        ih (fun y hy => hx y (List.mem_cons_of_mem _ hy)), ofBits_toBits, hxw]
      rfl

theorem length_groups_eq_div {w : Nat} (hw : 0 < w) (l : List Bool) :
    (groups w l).length = l.length / w := by
  induction l using groups.induct w with
  | case1 l h ih =>
      rw [groups, dif_pos h, List.length_cons, ih, List.length_drop, Nat.div_eq_sub_div hw h.2]
  | case2 l h =>
      rw [groups, dif_neg h, Nat.div_eq_of_lt (by omega)]
      rfl

/-- A bit string cut and written as bits again is its leading whole groups. -/
theorem flatMap_toBits_groups_eq_take {w : Nat} (hw : 0 < w) (l : List Bool) :
    (groups w l).flatMap (toBits w) = l.take (l.length / w * w) := by
  induction l using groups.induct w with
  | case1 l h ih =>
      have hback := toBits_ofBits (l.take w)
      rw [List.length_take_of_le h.2] at hback
      have hlen : l.length / w * w = w + (l.length - w) / w * w := by
        rw [Nat.div_eq_sub_div hw h.2, Nat.add_mul, Nat.one_mul, Nat.add_comm]
      rw [groups, dif_pos h, List.flatMap_cons, ih, hback, List.length_drop, hlen, List.take_add]
  | case2 l h =>
      rw [groups, dif_neg h, Nat.div_eq_of_lt (by omega), Nat.zero_mul]
      rfl

/-- A bit string of whole groups, cut and written as bits again, is itself. -/
theorem flatMap_toBits_groups {w : Nat} (hw : 0 < w) (n : Nat) (l : List Bool)
    (h : l.length = n * w) : (groups w l).flatMap (toBits w) = l := by
  rw [flatMap_toBits_groups_eq_take hw, h, Nat.mul_div_cancel n hw, ← h, List.take_length]

theorem length_groups {w : Nat} (hw : 0 < w) (n : Nat) (l : List Bool) (h : l.length = n * w) :
    (groups w l).length = n := by
  rw [length_groups_eq_div hw, h, Nat.mul_div_cancel n hw]

theorem groups_lt {w : Nat} : ∀ (l : List Bool), ∀ x ∈ groups w l, x < 2 ^ w := by
  intro l
  induction l using groups.induct w with
  | case1 l h ih =>
      intro x hx
      rw [groups, dif_pos h] at hx
      cases List.mem_cons.mp hx with
      | inl he =>
          have := ofBits_lt (l.take w)
          rwa [List.length_take_of_le h.2, ← he] at this
      | inr hx' => exact ih x hx'
  | case2 l h =>
      intro x hx
      rw [groups, dif_neg h] at hx
      cases hx

end Lib
