import Mathlib.Data.List.Infix
import Mathlib.Tactic

/-!
# Counting to a limit

A counter of failures that fires at the limit `N` and starts again from zero.  A
clearing mark sets it to a value `r`.  A counter that forgets has `r = 0`.

`Tally` carries the counter and, for comparison, the number of failures since the
counter last fired or was cleared.  `Exact N r xs` says that along `xs` the counter
fires at the `N`-th such failure and at no other.  After a clearing mark it fires
at the failure number `max 1 (N - r)`, so a run is exact unless it has that many
failures in a row behind a clearing mark (`exact_iff`).
-/

namespace Lib

/-- What is counted. -/
inductive Mark where
  | fail
  | clear
deriving DecidableEq, Repr

/-- The counter, and the failures since it last fired or was cleared. -/
structure Tally where
  count : Nat
  elapsed : Nat
deriving DecidableEq, Repr

namespace Tally

/-- One mark.  The counter fires when it reaches the limit. -/
def next (N r : Nat) (s : Tally) : Mark → Tally
  | .fail => if N ≤ s.count + 1 then ⟨0, 0⟩ else ⟨s.count + 1, s.elapsed + 1⟩
  | .clear => ⟨r, 0⟩

/-- The tally of a run. -/
def run (N r : Nat) (xs : List Mark) : Tally := xs.foldl (next N r) ⟨0, 0⟩

@[simp] theorem run_nil (N r : Nat) : run N r [] = ⟨0, 0⟩ := rfl

@[simp] theorem run_snoc (N r : Nat) (xs : List Mark) (x : Mark) :
    run N r (xs ++ [x]) = next N r (run N r xs) x := by
  rw [run, run, List.foldl_append]
  rfl

/-- The failure number, counted from a clearing mark, at which the counter fires. -/
def reach (N r : Nat) : Nat := max 1 (N - r)

variable {N r : Nat}

/-! ## The two kinds of states -/

/-- The counter agrees with the failures, or it has been cleared and the marks
since then are failures, fewer than it takes to fire. -/
inductive Kind (N r : Nat) (xs : List Mark) (s : Tally) : Prop where
  | agree : s.count = s.elapsed → s.elapsed < N → Kind N r xs s
  | cleared {ys : List Mark} : xs = ys ++ .clear :: List.replicate s.elapsed .fail →
      s.count = r + s.elapsed → s.elapsed < reach N r → Kind N r xs s

/-- A cleared counter fires when the failures behind the mark have reached their
number. -/
theorem fires_cleared_iff {e : Nat} (he : e < reach N r) : N ≤ r + e + 1 ↔ e + 1 = reach N r := by
  unfold reach at *
  omega

theorem append_replicate_fail (ys : List Mark) (e : Nat) :
    ys ++ Mark.clear :: List.replicate (e + 1) .fail =
      (ys ++ .clear :: List.replicate e .fail) ++ [.fail] := by
  rw [List.replicate_succ', List.append_assoc]
  rfl

theorem kind_next {xs : List Mark} {s : Tally} (hN : 1 ≤ N) (h : Kind N r xs s) (x : Mark) :
    Kind N r (xs ++ [x]) (next N r s x) := by
  cases x with
  | clear => exact .cleared rfl rfl (Nat.lt_of_lt_of_le Nat.one_pos (Nat.le_max_left ..))
  | fail =>
      rw [next]
      split
      · exact .agree rfl hN
      · next hfire =>
        cases h with
        | agree hc he =>
            refine .agree (congrArg (· + 1) hc) ?_
            rw [← hc]
            exact Nat.lt_of_not_le hfire
        | cleared hxs hc he =>
            have hiff := fires_cleared_iff he
            rw [hc] at hfire
            refine .cleared (by rw [append_replicate_fail, hxs]) (congrArg (· + 1) hc) ?_
            exact Nat.lt_of_le_of_ne he fun heq => hfire (hiff.mpr heq)

theorem kind_run (hN : 1 ≤ N) (xs : List Mark) : Kind N r xs (run N r xs) := by
  induction xs using List.reverseRecOn with
  | nil => exact .agree rfl hN
  | append_singleton xs x ih =>
      rw [run_snoc]
      exact kind_next hN ih x

/-- The counter never gets above its limit and the value it is cleared to. -/
theorem count_le (hN : 1 ≤ N) (xs : List Mark) : (run N r xs).count ≤ max r (N - 1) := by
  cases kind_run (r := r) hN xs with
  | agree hc he => omega
  | cleared _ hc he => unfold reach at he; omega

/-! ## Exactness -/

/-- Along the run the counter fires at the `N`-th failure and at no other. -/
def Exact (N r : Nat) (xs : List Mark) : Prop :=
  ∀ ys zs, xs = ys ++ .fail :: zs → (N ≤ (run N r ys).count + 1 ↔ (run N r ys).elapsed + 1 = N)

theorem run_cleared (ys : List Mark) {e : Nat} (he : e < reach N r) :
    run N r (ys ++ .clear :: List.replicate e .fail) = ⟨r + e, e⟩ := by
  induction e with
  | zero =>
      rw [List.replicate_zero, run_snoc]
      rfl
  | succ e ih =>
      have hlt : e < reach N r := Nat.lt_of_succ_lt he
      have hfire : ¬ N ≤ r + e + 1 := fun h =>
        absurd ((fires_cleared_iff hlt).mp h) (Nat.ne_of_lt he)
      rw [append_replicate_fail, run_snoc, ih hlt, next, if_neg hfire]
      rfl

theorem exact_iff (hN : 1 ≤ N) (xs : List Mark) :
    Exact N r xs ↔ reach N r = N ∨ ¬ (.clear :: List.replicate (reach N r) .fail) <:+: xs := by
  constructor
  · -- The last failure of the pattern is where the run is not exact.
    intro hex
    by_contra hno
    obtain ⟨hne, hin⟩ := not_or.mp hno
    obtain ⟨ys, zs, hxs⟩ := not_not.mp hin
    obtain ⟨k, hk⟩ := Nat.exists_eq_add_of_le' (show 1 ≤ reach N r from Nat.le_max_left ..)
    have hlt : k < reach N r := hk ▸ Nat.lt_succ_self k
    have hcut : xs = (ys ++ .clear :: List.replicate k .fail) ++ .fail :: zs := by
      rw [← hxs, hk, append_replicate_fail]
      simp
    have h := hex _ _ hcut
    rw [run_cleared ys hlt] at h
    exact hne (hk.trans (h.mp ((fires_cleared_iff hlt).mpr hk.symm)))
  · intro hor ys zs hxs
    cases kind_run (r := r) hN ys with
    | agree hc he => omega
    | @cleared us hys hc he =>
        have hiff := fires_cleared_iff he
        rw [hc, hiff]
        rcases hor with heq | hno
        · rw [heq]
        · -- One more failure would complete the pattern, so the counter is short of it.
          have hshort : (run N r ys).elapsed + 1 ≠ reach N r := by
            intro heq
            refine hno ⟨us, zs, ?_⟩
            rw [← heq, append_replicate_fail, ← hys, hxs]
            simp
          have hle : reach N r ≤ N := max_le hN (Nat.sub_le ..)
          constructor
          · intro h
            exact absurd h hshort
          · intro h
            omega

end Tally

end Lib
