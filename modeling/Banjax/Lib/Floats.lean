import Mathlib.Algebra.Order.Ring.Unbundled.Rat
import Mathlib.Data.Rat.Cast.Order

/-!
# Arithmetic in two precisions

A program that keeps a number in single precision and computes with it in double precision
rounds whenever it stores the number.  `FloatArithmetic` has the operations of such a program,
each with a result of its own precision.  It has no laws: what a rounding loses, what a division
by zero gives and how such a value compares is up to the operations.

The rationals are the arithmetic that loses nothing.
-/

namespace Lib

/-- The values of single precision, with the operations that a program uses on them. -/
class FloatArithmetic (F : Type) where
  /-- The values of double precision. -/
  Double : Type
  ofInt : Int → F
  sub : F → F → F
  mul : F → F → F
  equal : F → F → Bool
  less : F → F → Bool
  /-- Not the negation of `less`, which is false of a value that is not a number. -/
  atLeast : F → F → Bool
  widen : F → Double
  narrow : Double → F
  doubleOfInt : Int → Double
  addDouble : Double → Double → Double
  subDouble : Double → Double → Double
  divDouble : Double → Double → Double

namespace FloatArithmetic

/-- The exact arithmetic. -/
instance exact : FloatArithmetic ℚ where
  Double := ℚ
  ofInt n := n
  sub := (· - ·)
  mul := (· * ·)
  equal x y := decide (x = y)
  less x y := decide (x < y)
  atLeast x y := decide (y ≤ x)
  widen x := x
  narrow x := x
  doubleOfInt n := n
  addDouble := (· + ·)
  subDouble := (· - ·)
  divDouble := (· / ·)

section Exact

variable (x y : ℚ) (n : Int)

@[simp] theorem exact_ofInt : (ofInt n : ℚ) = n := rfl

@[simp] theorem exact_sub : sub x y = x - y := rfl

@[simp] theorem exact_mul : mul x y = x * y := rfl

@[simp] theorem exact_equal : equal x y = true ↔ x = y := decide_eq_true_iff

@[simp] theorem exact_less : less x y = true ↔ x < y := decide_eq_true_iff

@[simp] theorem exact_atLeast : atLeast x y = true ↔ y ≤ x := decide_eq_true_iff

@[simp] theorem exact_narrow : narrow (widen x) = x := rfl

@[simp] theorem exact_doubleOfInt : doubleOfInt n = widen (n : ℚ) := rfl

@[simp] theorem exact_addDouble : addDouble (widen x) (widen y) = widen (x + y) := rfl

@[simp] theorem exact_subDouble : subDouble (widen x) (widen y) = widen (x - y) := rfl

@[simp] theorem exact_divDouble : divDouble (widen x) (widen y) = widen (x / y) := rfl

end Exact

end FloatArithmetic

end Lib
