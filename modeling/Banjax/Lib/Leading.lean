import Mathlib.Data.Fintype.BigOperators
import Mathlib.Data.Set.Card
import Mathlib.Tactic

/-!
# Leading zeros

A search looks at the bits of a word in some order and counts the zeros in front of the first
one.  When the order has every position once, the words with `d` leading zeros are those that are
free in all positions but `d`, and a step from `d` to `d + 1` halves their number
(`ncard_leading`).
-/

namespace Lib

section Leading

variable {ι : Type}

/-- The length of a front that satisfies a test. -/
theorem le_length_takeWhile {p : ι → Bool} {l : List ι} {d : Nat} (hd : d ≤ l.length) :
    d ≤ (l.takeWhile p).length ↔ ∀ x ∈ l.take d, p x = true := by
  induction l generalizing d with
  | nil =>
      rw [List.length_nil, Nat.le_zero] at hd
      subst hd
      simp
  | cons x l ih =>
      cases d with
      | zero => simp
      | succ d =>
          rw [List.takeWhile_cons, List.take_succ_cons, List.forall_mem_cons]
          cases hx : p x with
          | false => simp
          | true =>
              rw [if_pos rfl, List.length_cons, Nat.succ_le_succ_iff,
                ih (Nat.succ_le_succ_iff.mp hd), eq_self_iff_true, true_and]

/-- The zeros in front of the first one, in an order of the positions. -/
def leading (order : List ι) (word : ι → Bool) : Nat := (order.takeWhile fun i => !word i).length

theorem leading_le (order : List ι) (word : ι → Bool) : leading order word ≤ order.length :=
  (List.takeWhile_sublist _).length_le

variable [Fintype ι] [DecidableEq ι]

/-- The number of words with `d` leading zeros. -/
theorem ncard_leading {order : List ι} (hnodup : order.Nodup) (hall : ∀ i, i ∈ order) {d : Nat}
    (hd : d ≤ order.length) :
    Set.ncard {word : ι → Bool | d ≤ leading order word} = 2 ^ (order.length - d) := by
  let fixed : Finset ι := (order.take d).toFinset
  let choices : ι → Finset Bool := fun i => if i ∈ fixed then {false} else Finset.univ
  have hset : {word : ι → Bool | d ≤ leading order word} = (Fintype.piFinset choices : Set _) := by
    ext word
    rw [Set.mem_ofPred_eq, leading, le_length_takeWhile hd, Finset.mem_coe, Fintype.mem_piFinset]
    refine ⟨fun h i => ?_, fun h i hi => ?_⟩
    · by_cases hi : i ∈ fixed
      · have hzero := h i (List.mem_toFinset.mp hi)
        simpa [choices, hi] using hzero
      · simp [choices, hi]
    · have hfixed : i ∈ fixed := List.mem_toFinset.mpr hi
      have hchoice := h i
      simpa [choices, hfixed] using hchoice
  have hlength : order.length = Fintype.card ι := by
    rw [← List.toFinset_card_of_nodup hnodup, ← Finset.card_univ]
    congr 1
    exact Finset.eq_univ_iff_forall.mpr fun i => List.mem_toFinset.mpr (hall i)
  have hfixed : fixed.card = d := by
    rw [List.toFinset_card_of_nodup (hnodup.sublist (List.take_sublist _ _)), List.length_take,
      Nat.min_eq_left hd]
  have hcard : ∀ i, (choices i).card = if i ∈ fixed then 1 else 2 := by
    intro i
    simp only [choices]
    split <;> rfl
  rw [hset, Set.ncard_coe_finset, Fintype.card_piFinset, Finset.prod_congr rfl fun i _ => hcard i,
    Finset.prod_ite]
  simp [hlength, hfixed, Finset.filter_not, Finset.card_sdiff]

end Leading

end Lib
