import Mathlib.Tactic

/-!
# Steps with outputs

A step takes a state and an input to an output and the next state, and `outputs`
lists the outputs of a run with their inputs.

`outputs_filter` says that the hidden inputs of a run can be taken out of it.  It is
enough that some relation between states survives a hidden input on one side, and a
visible input, with the same output, on both.
-/

namespace Lib

variable {σ ι ο : Type} (step : σ → ι → ο × σ)

/-- The inputs of a run, each with its output. -/
def outputs : σ → List ι → List (ι × ο)
  | _, [] => []
  | s, x :: xs => (x, (step s x).1) :: outputs (step s x).2 xs

/-- The state after a run. -/
def after (s : σ) (xs : List ι) : σ := xs.foldl (fun s x => (step s x).2) s

variable {step}

/-- What one step keeps, a run keeps. -/
theorem after_invariant {P : σ → Prop} {xs : List ι} {s : σ} (start : P s)
    (keep : ∀ s, ∀ x ∈ xs, P s → P (step s x).2) : P (after step s xs) := by
  induction xs generalizing s with
  | nil => exact start
  | cons x xs ih =>
      refine ih (keep s x (List.mem_cons_self ..) start) ?_
      intro t y hy
      exact keep t y (List.mem_cons_of_mem _ hy)

/-- An output of a run is the output of a step at one of its inputs. -/
theorem mem_outputs {xs : List ι} {s : σ} {y : ι × ο} (h : y ∈ outputs step s xs) :
    y.1 ∈ xs ∧ ∃ t, y.2 = (step t y.1).1 := by
  induction xs generalizing s with
  | nil => cases h
  | cons x xs ih =>
      rcases List.mem_cons.mp h with rfl | h
      · exact ⟨List.mem_cons_self .., s, rfl⟩
      · exact ⟨List.mem_cons_of_mem _ (ih h).1, (ih h).2⟩

/-- Steps that agree on the inputs of a run make the same run. -/
theorem run_congr {step' : σ → ι → ο × σ} {xs : List ι} (h : ∀ s, ∀ x ∈ xs, step s x = step' s x)
    (s : σ) : outputs step s xs = outputs step' s xs ∧ after step s xs = after step' s xs := by
  induction xs generalizing s with
  | nil => exact ⟨rfl, rfl⟩
  | cons x xs ih =>
      have hx := h s x (List.mem_cons_self ..)
      obtain ⟨hout, hafter⟩ := ih (fun t y hy => h t y (List.mem_cons_of_mem _ hy)) (step' s x).2
      constructor
      · rw [outputs, outputs, hx, hout]
      · rw [after, List.foldl_cons, hx]
        exact hafter

/-- The outputs at the visible inputs are those of the run without the hidden ones. -/
theorem outputs_filter {R : σ → σ → Prop} (visible : ι → Bool) {xs : List ι}
    (hidden : ∀ s t, ∀ x ∈ xs, R s t → visible x = false → R (step s x).2 t)
    (shown : ∀ s t, ∀ x ∈ xs, R s t → visible x = true →
      (step s x).1 = (step t x).1 ∧ R (step s x).2 (step t x).2) {s t : σ} (h : R s t) :
    (outputs step s xs).filter (fun y => visible y.1) = outputs step t (xs.filter visible) := by
  induction xs generalizing s t with
  | nil => rfl
  | cons x xs ih =>
      have hidden' := fun s t y hy => hidden s t y (List.mem_cons_of_mem _ hy)
      have shown' := fun s t y hy => shown s t y (List.mem_cons_of_mem _ hy)
      have hx : x ∈ x :: xs := List.mem_cons_self ..
      rw [outputs]
      cases hv : visible x with
      | false =>
          rw [List.filter_cons_of_neg (by simp [hv]), List.filter_cons_of_neg (by simp [hv])]
          exact ih hidden' shown' (hidden s t x hx h hv)
      | true =>
          obtain ⟨hout, hnext⟩ := shown s t x hx h hv
          rw [List.filter_cons_of_pos (by simp [hv]), List.filter_cons_of_pos (by simp [hv]),
            outputs, hout, ih hidden' shown' hnext]

end Lib
