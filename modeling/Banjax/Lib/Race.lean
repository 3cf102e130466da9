import Mathlib.Algebra.BigOperators.Group.Finset.Basic
import Mathlib.Data.List.Count
import Mathlib.Tactic

/-!
# A counter raised in two steps

Several parties raise one counter, and each does it in two steps: it reads the
value, and later writes the value it has read plus one.  A schedule is the list of
the parties in the order of their steps.

In a schedule where every party takes both steps, no value is ever ahead of half of
the steps taken (`value_le`).  So the counter ends with all raises in it only when
the last writer has read behind everyone else, and by induction only when the two
steps of each party are next to each other (`value_eq_iff_serial`).
-/

namespace Lib.Race

variable {ι : Type} [DecidableEq ι]

/-- How far a party is. -/
inductive Phase where
  | fresh
  | holding (n : Nat)
  | finished
deriving DecidableEq, Repr

/-- The counter, and the phase of every party. -/
structure State (ι : Type) where
  value : Nat
  phase : ι → Phase

/-- One step of a party. -/
def step (s : State ι) (i : ι) : State ι :=
  match s.phase i with
  | .fresh => { s with phase := Function.update s.phase i (.holding s.value) }
  | .holding n => ⟨n + 1, Function.update s.phase i .finished⟩
  | .finished => s

/-- The state after a schedule that starts from the value `c`. -/
def run (c : Nat) (xs : List ι) : State ι := xs.foldl step ⟨c, fun _ => .fresh⟩

/-- The two steps of each party are next to each other. -/
def Serial (xs : List ι) : Prop := ∃ order : List ι, xs = order.flatMap fun i => [i, i]

/-- Every party that takes a step takes two. -/
def Complete (xs : List ι) : Prop := ∀ i ∈ xs, xs.count i = 2

@[simp] theorem run_nil (c : Nat) : run c ([] : List ι) = ⟨c, fun _ => .fresh⟩ := rfl

@[simp] theorem run_snoc (c : Nat) (xs : List ι) (i : ι) :
    run c (xs ++ [i]) = step (run c xs) i := by
  rw [run, List.foldl_append]
  rfl

section Steps

variable {s : State ι} {i : ι}

theorem step_fresh (h : s.phase i = .fresh) :
    step s i = { s with phase := Function.update s.phase i (.holding s.value) } := by
  rw [step, h]

theorem step_holding {n : Nat} (h : s.phase i = .holding n) :
    step s i = ⟨n + 1, Function.update s.phase i .finished⟩ := by
  rw [step, h]

theorem step_finished (h : s.phase i = .finished) : step s i = s := by
  rw [step, h]

theorem step_phase_other {j : ι} (h : j ≠ i) : (step s i).phase j = s.phase j := by
  rw [step]
  split
  · exact Function.update_of_ne h ..
  · exact Function.update_of_ne h ..
  · rfl

end Steps

/-! ## Phases along a schedule -/

/-- How often a party has stepped decides its phase. -/
theorem phase_run (c : Nat) (xs : List ι) (i : ι) :
    ((run c xs).phase i = .fresh ↔ xs.count i = 0) ∧
      ((∃ n, (run c xs).phase i = .holding n) ↔ xs.count i = 1) := by
  induction xs using List.reverseRecOn with
  | nil => simp
  | append_singleton xs j ih =>
      rw [run_snoc, List.count_append]
      by_cases hij : i = j
      · subst hij
        rw [List.count_singleton_self]
        cases hp : (run c xs).phase i with
        | fresh =>
            rw [step_fresh hp]
            have := ih.1.mp hp
            simp [this]
        | holding n =>
            rw [step_holding hp]
            have := ih.2.mp ⟨n, hp⟩
            simp [this]
        | finished =>
            rw [step_finished hp, hp]
            have h0 : xs.count i ≠ 0 := by
              intro h
              rw [ih.1.mpr h] at hp
              cases hp
            simp [h0]
      · rw [step_phase_other hij, List.count_singleton]
        simpa [Ne.symm hij] using ih

/-- A value that is held was read from the counter at some point of the schedule, and
its holder has not stepped since. -/
theorem holding_origin {c n : Nat} {xs : List ι} {i : ι} (h : (run c xs).phase i = .holding n) :
    ∃ ys zs, xs = ys ++ i :: zs ∧ (run c ys).value = n := by
  induction xs using List.reverseRecOn with
  | nil => simp at h
  | append_singleton xs j ih =>
      rw [run_snoc] at h
      by_cases hij : i = j
      · subst hij
        cases hp : (run c xs).phase i with
        | fresh =>
            rw [step_fresh hp] at h
            simp only [Function.update_self, Phase.holding.injEq] at h
            exact ⟨xs, [], rfl, h⟩
        | holding m =>
            rw [step_holding hp] at h
            simp at h
        | finished =>
            rw [step_finished hp, hp] at h
            cases h
      · rw [step_phase_other hij] at h
        obtain ⟨ys, zs, rfl, hvalue⟩ := ih h
        exact ⟨ys, zs ++ [j], by simp, hvalue⟩

/-! ## No value is ahead of the steps -/

/-- Every write has a read of its own before it. -/
theorem value_le (c : Nat) (xs : List ι) :
    (run c xs).value ≤ c + xs.length / 2 ∧
      ∀ i n, (run c xs).phase i = .holding n → n + 1 ≤ c + (xs.length + 1) / 2 := by
  induction xs using List.reverseRecOn with
  | nil => simp
  | append_singleton xs j ih =>
      obtain ⟨hvalue, hheld⟩ := ih
      rw [run_snoc, List.length_append, List.length_singleton]
      cases hp : (run c xs).phase j with
      | fresh =>
          rw [step_fresh hp]
          refine ⟨by dsimp only; omega, ?_⟩
          intro i n hi
          dsimp only at hi
          by_cases hij : i = j
          · subst hij
            rw [Function.update_self] at hi
            cases hi
            omega
          · rw [Function.update_of_ne hij] at hi
            have := hheld i n hi
            omega
      | holding m =>
          rw [step_holding hp]
          have hm := hheld j m hp
          refine ⟨hm, ?_⟩
          intro i n hi
          dsimp only at hi
          by_cases hij : i = j
          · subst hij
            rw [Function.update_self] at hi
            cases hi
          · rw [Function.update_of_ne hij] at hi
            have := hheld i n hi
            omega
      | finished =>
          rw [step_finished hp]
          refine ⟨by omega, ?_⟩
          intro i n hi
          have := hheld i n hi
          omega

/-! ## Serial schedules -/

/-- Both steps of a party, one after the other, raise the counter by one. -/
theorem value_pair (c : Nat) {xs : List ι} {i : ι} (h : i ∉ xs) :
    (run c (xs ++ [i, i])).value = (run c xs).value + 1 := by
  have hp : (run c xs).phase i = .fresh := (phase_run c xs i).1.mpr (List.count_eq_zero.mpr h)
  rw [show xs ++ [i, i] = (xs ++ [i]) ++ [i] by simp, run_snoc, run_snoc, step_fresh hp,
    step_holding (n := (run c xs).value) (Function.update_self ..)]

/-- What precedes the last pair of a complete schedule is complete. -/
theorem Complete.of_pair {xs : List ι} {i : ι} (h : Complete (xs ++ [i, i])) :
    i ∉ xs ∧ Complete xs := by
  have hi : i ∉ xs := by
    have := h i (by simp)
    rw [List.count_append] at this
    simp only [List.count_cons_self, List.count_nil] at this
    exact List.count_eq_zero.mp (by omega)
  refine ⟨hi, ?_⟩
  intro j hj
  have hne : i ≠ j := by
    rintro rfl
    exact hi hj
  have := h j (List.mem_append_left _ hj)
  rw [List.count_append] at this
  simpa [hne] using this

theorem value_of_serial (c : Nat) (order : List ι)
    (h : Complete (order.flatMap fun i => [i, i])) :
    (run c (order.flatMap fun i => [i, i])).value = c + order.length := by
  induction order using List.reverseRecOn with
  | nil => rfl
  | append_singleton order i ih =>
      rw [List.flatMap_append, List.flatMap_singleton] at h ⊢
      obtain ⟨hi, hcomplete⟩ := h.of_pair
      rw [value_pair c hi, ih hcomplete, List.length_append, List.length_singleton, Nat.add_assoc]

/-- A complete schedule has two steps for each of its parties. -/
theorem Complete.length_eq {xs : List ι} (h : Complete xs) :
    xs.length = 2 * xs.toFinset.card := by
  have hsum : ∑ i ∈ xs.toFinset, xs.count i = ∑ _i ∈ xs.toFinset, 2 :=
    Finset.sum_congr rfl fun i hi => h i (List.mem_toFinset.mp hi)
  rw [List.sum_toFinset_count_eq_length] at hsum
  rw [hsum, Finset.sum_const, smul_eq_mul, Nat.mul_comm]

/-- The last two steps of a complete schedule that loses nothing are those of one
party. -/
theorem exists_last_pair {c : Nat} {xs : List ι} (h : Complete xs) (hne : xs ≠ [])
    (hvalue : (run c xs).value = c + xs.length / 2) : ∃ ys i, xs = ys ++ [i, i] := by
  have heven := h.length_eq
  obtain ⟨ys, i, rfl⟩ := (List.eq_nil_or_concat' xs).resolve_left hne
  have hcount : ys.count i = 1 := by
    have := h i (by simp)
    rw [List.count_append, List.count_singleton_self] at this
    omega
  obtain ⟨n, hn⟩ := (phase_run c ys i).2.mpr hcount
  obtain ⟨ps, qs, rfl, hread⟩ := holding_origin hn
  -- The value written was read after `ps`, so `ps` has all the other steps in it.
  rw [run_snoc, step_holding hn] at hvalue
  have hle := (value_le c ps).1
  rw [hread] at hle
  simp only [List.length_append, List.length_cons, List.length_nil] at hvalue heven
  have hqs : qs.length = 0 := by omega
  rw [List.length_eq_zero_iff] at hqs
  subst hqs
  exact ⟨ps, i, by simp⟩

/-- A complete schedule raises the counter once for every party exactly when it is
serial. -/
theorem value_eq_iff_serial (c : Nat) {xs : List ι} (h : Complete xs) :
    (run c xs).value = c + xs.length / 2 ↔ Serial xs := by
  constructor
  · induction hlen : xs.length using Nat.strongRecOn generalizing xs with
    | _ m ih =>
        intro hvalue
        subst hlen
        by_cases hne : xs = []
        · exact ⟨[], hne⟩
        · obtain ⟨ys, i, rfl⟩ := exists_last_pair h hne hvalue
          obtain ⟨hi, hcomplete⟩ := h.of_pair
          rw [value_pair c hi] at hvalue
          simp only [List.length_append, List.length_cons, List.length_nil] at hvalue ih
          obtain ⟨order, rfl⟩ := ih _ (by omega) hcomplete rfl (by omega)
          exact ⟨order ++ [i], by rw [List.flatMap_append, List.flatMap_singleton]⟩
  · rintro ⟨order, rfl⟩
    rw [value_of_serial c order h]
    have hlen : (order.flatMap fun i => [i, i]).length = 2 * order.length := by
      simp [List.length_flatMap, Nat.mul_comm]
    omega

end Lib.Race
