import Mathlib.Tactic

/-!
# Fallible steps and runs

A step takes a state and an input to the next state, or fails.  A run is the
list of inputs the steps took.  `Reaches step Q s xs t` says that the inputs `xs`
take `s` to `t` without a failure, and that each of them met the condition `Q` in
the state it found.  Inputs are added at the end, so that an invariant may speak
of the whole history (`Reaches.invariant`), and the last step of a run can be read
off (`Reaches.snoc_inv`).

`Paired` compares two computations that fail or succeed together.
-/

namespace Lib

/-! ## Sequencing -/

section Except

variable {ε α β : Type}

@[simp] theorem ok_bind (a : α) (f : α → Except ε β) : (Except.ok a >>= f) = f a := rfl

@[simp] theorem error_bind (e : ε) (f : α → Except ε β) :
    ((Except.error e : Except ε α) >>= f) = .error e := rfl

theorem map_bind {γ : Type} (x : Except ε α) (f : α → β) (g : β → Except ε γ) :
    (x.map f >>= g) = x >>= fun a => g (f a) := by
  cases x <;> rfl

theorem bind_map {γ : Type} (x : Except ε α) (f : α → Except ε β) (g : β → γ) :
    (x >>= f).map g = x >>= fun a => (f a).map g := by
  cases x <;> rfl

/-- A sequence succeeds when both of its parts do. -/
theorem bind_eq_ok {x : Except ε α} {f : α → Except ε β} {b : β} :
    (x >>= f) = .ok b ↔ ∃ a, x = .ok a ∧ f a = .ok b := by
  cases x with
  | error e => simp
  | ok a => simp

/-- The last step of a loop. -/
theorem foldlM_snoc (step : β → α → Except ε β) (xs : List α) (x : α) (s : β) :
    (xs ++ [x]).foldlM step s = xs.foldlM step s >>= fun t => step t x := by
  rw [List.foldlM_append]
  refine congrArg _ (funext fun t => ?_)
  rw [List.foldlM_cons]
  exact bind_pure _

/-- Steps that succeed wherever others do give the same results. -/
theorem foldlM_ok_mono {step step' : β → α → Except ε β}
    (h : ∀ s x t, step s x = .ok t → step' s x = .ok t) {xs : List α} {s t : β}
    (hrun : xs.foldlM step s = .ok t) : xs.foldlM step' s = .ok t := by
  induction xs generalizing s with
  | nil => exact hrun
  | cons x xs ih =>
      rw [List.foldlM_cons] at hrun ⊢
      obtain ⟨u, hu, hrest⟩ := bind_eq_ok.mp hrun
      exact bind_eq_ok.mpr ⟨u, h s x u hu, ih hrest⟩

/-- What all steps keep holds in the end. -/
theorem foldlM_keeps {step : β → α → Except ε β} {P : β → Prop}
    (hkeep : ∀ s x t, step s x = .ok t → P s → P t) {xs : List α} {s t : β} (hs : P s)
    (hrun : xs.foldlM step s = .ok t) : P t := by
  induction xs generalizing s with
  | nil =>
      cases hrun
      exact hs
  | cons x xs ih =>
      rw [List.foldlM_cons] at hrun
      obtain ⟨u, hu, hrun⟩ := bind_eq_ok.mp hrun
      exact ih (hkeep s x u hu hs) hrun

/-- What the step for one element brings about, and all steps keep, holds in the end. -/
theorem foldlM_establishes {step : β → α → Except ε β} {P : β → Prop}
    (hkeep : ∀ s x t, step s x = .ok t → P s → P t) {a : α}
    (hset : ∀ s t, step s a = .ok t → P t) {xs : List α} (ha : a ∈ xs) {s t : β}
    (hrun : xs.foldlM step s = .ok t) : P t := by
  induction xs generalizing s with
  | nil => cases ha
  | cons x xs ih =>
      rw [List.foldlM_cons] at hrun
      obtain ⟨u, hu, hnext⟩ := bind_eq_ok.mp hrun
      rcases List.mem_cons.mp ha with rfl | ha
      · exact foldlM_keeps hkeep (hset s u hu) hnext
      · exact ih ha hnext

/-- A loop over a list whose turns succeed and do not depend on each other. -/
theorem mapM_eq_ok {f : α → Except ε β} {g : α → β} {xs : List α}
    (h : ∀ x ∈ xs, f x = .ok (g x)) : xs.mapM f = .ok (xs.map g) := by
  induction xs with
  | nil => rfl
  | cons x xs ih =>
      rw [List.mapM_cons, h x (List.mem_cons_self ..), ok_bind,
        ih fun y hy => h y (List.mem_cons_of_mem _ hy)]
      rfl

theorem mapM_eq_some {f : α → Option β} {g : α → β} {xs : List α}
    (h : ∀ x ∈ xs, f x = some (g x)) : xs.mapM f = some (xs.map g) := by
  induction xs with
  | nil => rfl
  | cons x xs ih =>
      rw [List.mapM_cons, h x (List.mem_cons_self ..),
        ih fun y hy => h y (List.mem_cons_of_mem _ hy)]
      rfl

/-- The rule of a counting loop whose turns succeed. -/
theorem foldlM_range (step : β → Nat → Except ε β) {P : Nat → β → Prop} {s : β} (n : Nat)
    (hstart : P 0 s) (hstep : ∀ k < n, ∀ s, P k s → ∃ t, step s k = .ok t ∧ P (k + 1) t) :
    ∃ t, (List.range n).foldlM step s = .ok t ∧ P n t := by
  induction n with
  | zero => exact ⟨s, rfl, hstart⟩
  | succ n ih =>
      obtain ⟨t, hrun, ht⟩ := ih fun k hk => hstep k (by omega)
      obtain ⟨u, hlast, hu⟩ := hstep n (by omega) t ht
      refine ⟨u, ?_, hu⟩
      rw [List.range_succ, foldlM_snoc, hrun, ok_bind, hlast]

/-- The computation does not fail. -/
def Succeeds (x : Except ε α) : Prop := ∃ a, x = .ok a

@[simp] theorem succeeds_ok (a : α) : Succeeds (.ok a : Except ε α) := ⟨a, rfl⟩

@[simp] theorem succeeds_pure (a : α) : Succeeds (pure a : Except ε α) := ⟨a, rfl⟩

@[simp] theorem succeeds_error (e : ε) : ¬ Succeeds (.error e : Except ε α) := nofun

theorem ok_of_isSome {x : Except ε α} (h : x.toOption.isSome = true) : ∃ a, x = .ok a := by
  cases x with
  | error e => cases h
  | ok a => exact ⟨a, rfl⟩

/-- A sequence whose second part succeeds or fails whatever the first one gives. -/
theorem succeeds_bind {x : Except ε α} {f : α → Except ε β} {P : Prop}
    (h : ∀ a, Succeeds (f a) ↔ P) : Succeeds (x >>= f) ↔ Succeeds x ∧ P := by
  cases x with
  | error e => simp
  | ok a => simp [h a]

/-- What is made of a result does not fail. -/
theorem succeeds_bind_pure {x : Except ε α} (f : α → β) :
    Succeeds (do return f (← x) : Except ε β) ↔ Succeeds x := by
  rw [succeeds_bind (P := True) fun a => by simp, and_true]

/-- A loop that reads its elements one by one succeeds when each of them can be read. -/
theorem succeeds_foldlM {γ : Type} (read : α → Except ε γ) (add : β → γ → β) (xs : List α) (s : β) :
    Succeeds (xs.foldlM (fun s x => do return add s (← read x)) s) ↔
      ∀ x ∈ xs, Succeeds (read x) := by
  induction xs generalizing s with
  | nil => simp
  | cons x xs ih =>
      rw [List.foldlM_cons, succeeds_bind ih, succeeds_bind_pure, List.forall_mem_cons]

end Except

/-! ## Two computations side by side -/

section Paired

variable {ε α β γ δ : Type}

/-- Both computations fail in the same way, or their results are related. -/
inductive Paired (Q : α → β → Prop) : Except ε α → Except ε β → Prop where
  | ok {a : α} {b : β} : Q a b → Paired Q (.ok a) (.ok b)
  | error {e : ε} : Paired Q (.error e) (.error e)

/-- Sequences are related when their parts are. -/
theorem Paired.bind {Q : α → β → Prop} {Q' : γ → δ → Prop} {x : Except ε α} {y : Except ε β}
    {f : α → Except ε γ} {g : β → Except ε δ} (h : Paired Q x y)
    (hf : ∀ a b, Q a b → Paired Q' (f a) (g b)) : Paired Q' (x >>= f) (y >>= g) := by
  cases h with
  | ok hab => exact hf _ _ hab
  | error => exact .error

/-- Two results with the same first part. -/
def Agree (Q : α → β → Prop) (x : γ × α) (y : γ × β) : Prop := x.1 = y.1 ∧ Q x.2 y.2

theorem Agree.parts {Q : α → β → Prop} {x : γ × α} {y : γ × β} (h : Agree Q x y) :
    ∃ c a b, x = (c, a) ∧ y = (c, b) ∧ Q a b :=
  ⟨x.1, x.2, y.2, rfl, by rw [h.1], h.2⟩

/-- Sequences whose first parts give the same result, up to the states. -/
theorem Paired.bindAgree {ζ : Type} {Q : α → β → Prop} {Q' : γ → δ → Prop}
    {x : Except ε (ζ × α)} {y : Except ε (ζ × β)} {f : ζ × α → Except ε γ}
    {g : ζ × β → Except ε δ} (h : Paired (Agree Q) x y)
    (hf : ∀ c a b, Q a b → Paired Q' (f (c, a)) (g (c, b))) : Paired Q' (x >>= f) (y >>= g) := by
  refine h.bind ?_
  intro p q hpq
  obtain ⟨c, a, b, rfl, rfl, hab⟩ := hpq.parts
  exact hf c a b hab

end Paired

/-! ## Runs -/

section Runs

variable {σ ι ε : Type} {step : σ → ι → Except ε σ} {Q : σ → ι → Prop}

/-- The inputs take the first state to the second, every one under the condition. -/
inductive Reaches (step : σ → ι → Except ε σ) (Q : σ → ι → Prop) : σ → List ι → σ → Prop where
  | nil {s : σ} : Reaches step Q s [] s
  | snoc {s t u : σ} {xs : List ι} {x : ι} :
      Reaches step Q s xs t → Q t x → step t x = .ok u → Reaches step Q s (xs ++ [x]) u

/-- What holds at the start and is kept by every step holds of every history and
the state it reaches. -/
theorem Reaches.invariant {P : List ι → σ → Prop} {s t : σ} {xs : List ι}
    (h : Reaches step Q s xs t) (start : P [] s)
    (keep : ∀ ys y a b, Reaches step Q s ys a → P ys a → Q a y → step a y = .ok b →
      P (ys ++ [y]) b) : P xs t := by
  induction h with
  | nil => exact start
  | snoc hr hq hs ih => exact keep _ _ _ _ hr ih hq hs

/-- The last step of a run. -/
theorem Reaches.snoc_inv {s u : σ} {xs : List ι} {x : ι} (h : Reaches step Q s (xs ++ [x]) u) :
    ∃ t, Reaches step Q s xs t ∧ Q t x ∧ step t x = .ok u := by
  generalize hys : xs ++ [x] = ys at h
  cases h with
  | nil => simp at hys
  | snoc hr hq hs =>
      obtain ⟨rfl, hx⟩ := List.append_inj' hys rfl
      cases hx
      exact ⟨_, hr, hq, hs⟩

/-- A run is what the steps compute one after the other. -/
theorem Reaches.of_foldlM {s t : σ} {xs : List ι}
    (hq : ∀ ys x zs u, xs = ys ++ x :: zs → ys.foldlM step s = .ok u → Q u x)
    (h : xs.foldlM step s = .ok t) : Reaches step Q s xs t := by
  induction xs using List.reverseRecOn generalizing t with
  | nil =>
      cases h
      exact .nil
  | append_singleton xs x ih =>
      rw [foldlM_snoc] at h
      obtain ⟨u, hu, hv⟩ := bind_eq_ok.mp h
      refine .snoc (ih ?_ hu) (hq xs x [] u rfl hu) hv
      intro ys y zs u' hcut hu'
      exact hq ys y (zs ++ [x]) u' (by rw [hcut, List.append_assoc]; rfl) hu'

theorem Reaches.foldlM_eq {s t : σ} {xs : List ι} (h : Reaches step Q s xs t) :
    xs.foldlM step s = .ok t := by
  induction h with
  | nil => rfl
  | snoc _ _ hs ih =>
      rw [foldlM_snoc, ih, ok_bind]
      exact hs

/-- A run whose last state is found by computing it. -/
theorem Reaches.of_check (step : σ → ι → Except ε σ) (xs : List ι) {p : σ → Bool} {s : σ}
    (hq : ∀ ys x zs u, xs = ys ++ x :: zs → ys.foldlM step s = .ok u → Q u x)
    (h : (xs.foldlM step s).toOption.any p = true) : ∃ t, Reaches step Q s xs t ∧ p t = true := by
  cases hrun : xs.foldlM step s with
  | error e =>
      rw [hrun] at h
      cases h
  | ok t =>
      rw [hrun] at h
      exact ⟨t, .of_foldlM hq hrun, h⟩

/-- A run under a condition that can be decided. -/
theorem Reaches.of_decide (step : σ → ι → Except ε σ) [∀ s x, Decidable (Q s x)] (xs : List ι)
    {p : σ → Bool} {s : σ}
    (h : (xs.foldlM (fun s x => if Q s x then (step s x).toOption else none) s).any p = true) :
    ∃ t, Reaches step Q s xs t ∧ p t = true := by
  have hrun : ∀ t, xs.foldlM (fun s x => if Q s x then (step s x).toOption else none) s = some t →
      Reaches step Q s xs t := by
    clear h
    induction xs using List.reverseRecOn with
    | nil =>
        rintro _ ⟨⟩
        exact .nil
    | append_singleton xs x ih =>
        intro t ht
        rw [List.foldlM_append] at ht
        obtain ⟨u, hu, hlast⟩ := Option.bind_eq_some_iff.mp ht
        rw [List.foldlM_cons] at hlast
        obtain ⟨v, hv, hlast⟩ := Option.bind_eq_some_iff.mp hlast
        cases hlast
        split at hv
        · next hq =>
          cases hstep : step u x with
          | error e =>
              rw [hstep] at hv
              cases hv
          | ok w =>
              rw [hstep] at hv
              cases hv
              exact .snoc (ih u hu) hq hstep
        · cases hv
  cases hlast : xs.foldlM (fun s x => if Q s x then (step s x).toOption else none) s with
  | none =>
      rw [hlast] at h
      cases h
  | some t =>
      rw [hlast] at h
      exact ⟨t, hrun t hlast, h⟩

end Runs

/-! ## Places in a run -/

section Splits

variable {α : Type}

/-- The splits of a list with one more element. -/
theorem split_snoc {j pre post : List α} {e c : α} (h : j ++ [e] = pre ++ c :: post) :
    pre = j ∧ c = e ∧ post = [] ∨ ∃ post', post = post' ++ [e] ∧ j = pre ++ c :: post' := by
  induction post using List.reverseRecOn with
  | nil =>
      have hpair := List.append_inj' h rfl
      refine .inl ⟨hpair.1.symm, ?_, rfl⟩
      exact (List.cons.inj hpair.2).1.symm
  | append_singleton post' last _ =>
      rw [← List.cons_append, ← List.append_assoc] at h
      have hpair := List.append_inj' h rfl
      refine .inr ⟨post', ?_, hpair.1⟩
      rw [hpair.2]

/-- What holds in front of every element of such a list. -/
theorem forall_split_snoc {P : List α → α → Prop} {j : List α} {e : α} :
    (∀ pre c post, j ++ [e] = pre ++ c :: post → P pre c) ↔
      (∀ pre c post, j = pre ++ c :: post → P pre c) ∧ P j e := by
  constructor
  · intro h
    refine ⟨fun pre c post hsplit => ?_, h j e [] rfl⟩
    exact h pre c (post ++ [e]) (by rw [hsplit, List.append_assoc, List.cons_append])
  · rintro ⟨hfront, hlast⟩ pre c post hsplit
    rcases split_snoc hsplit with ⟨rfl, rfl, -⟩ | ⟨post', -, hj⟩
    · exact hlast
    · exact hfront pre c post' hj

end Splits

end Lib
