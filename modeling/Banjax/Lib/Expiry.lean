import Mathlib.Logic.Function.Basic
import Mathlib.Tactic

/-!
# Entries that expire

A table of times.  Touching a key enters the present time for it, and a sweep removes
the keys whose times are no longer alive.  A time that is dead stays dead.

Sweeps may come at any moments, and a removed key may be touched again.  All the same,
what a sweep leaves depends on the last touch of each key alone (`run_sweep`): a time
that an earlier sweep has removed would not survive this one.
-/

namespace Lib.Expiry

variable {κ τ : Type}

/-- An operation on the table. -/
inductive Op (κ : Type) where
  | touch (key : κ)
  | sweep

/-- The table after an operation at a time.  `alive now t` says whether the time `t` is
still alive at `now`. -/
def step [DecidableEq κ] (alive : τ → τ → Bool) (times : κ → Option τ) :
    τ × Op κ → κ → Option τ
  | (now, .touch key) => Function.update times key (some now)
  | (now, .sweep) => fun key => (times key).filter (alive now)

/-- The table after a list of operations, from an empty one. -/
def run [DecidableEq κ] (alive : τ → τ → Bool) (ops : List (τ × Op κ)) : κ → Option τ :=
  ops.foldl (step alive) fun _ => none

/-- The last touch of a key after one more operation. -/
def touched [DecidableEq κ] (key : κ) (last : Option τ) : τ × Op κ → Option τ
  | (now, .touch k) => if k = key then some now else last
  | (_, .sweep) => last

/-- The time of the last touch of a key. -/
def lastTouch [DecidableEq κ] (key : κ) (ops : List (τ × Op κ)) : Option τ :=
  ops.foldl (touched key) none

variable [DecidableEq κ] {alive : τ → τ → Bool}

theorem run_append (ops : List (τ × Op κ)) (op : τ × Op κ) :
    run alive (ops ++ [op]) = step alive (run alive ops) op := by
  simp [run]

theorem lastTouch_append (key : κ) (ops : List (τ × Op κ)) (op : τ × Op κ) :
    lastTouch key (ops ++ [op]) = touched key (lastTouch key ops) op := by
  simp [lastTouch]

/-- The table has times of last touches only, and misses one only after a sweep at which
it was dead. -/
structure Tracks (alive : τ → τ → Bool) (ops : List (τ × Op κ)) (times : κ → Option τ) :
    Prop where
  recent : ∀ key t, times key = some t → lastTouch key ops = some t
  dropped : ∀ key t, lastTouch key ops = some t → times key = none →
    ∃ now, (now, Op.sweep) ∈ ops ∧ alive now t = false

omit [DecidableEq κ] in
/-- A sweep that came before is one of the longer run. -/
theorem sweep_mem_append {ops : List (τ × Op κ)} {op : τ × Op κ} {t : τ}
    (h : ∃ now, (now, Op.sweep) ∈ ops ∧ alive now t = false) :
    ∃ now, (now, Op.sweep) ∈ ops ++ [op] ∧ alive now t = false := by
  obtain ⟨now, hmem, hdead⟩ := h
  exact ⟨now, List.mem_append_left _ hmem, hdead⟩

theorem Tracks.touch {ops : List (τ × Op κ)} {times : κ → Option τ} (h : Tracks alive ops times)
    (now : τ) (k : κ) :
    Tracks alive (ops ++ [(now, .touch k)]) (step alive times (now, .touch k)) := by
  refine ⟨?_, ?_⟩
  · intro key t ht
    rw [lastTouch_append, touched]
    split
    · next heq => simpa [step, heq] using ht
    · next hne =>
      rw [step, Function.update_of_ne (Ne.symm hne)] at ht
      exact h.recent key t ht
  · intro key t hlast hnone
    rw [lastTouch_append, touched] at hlast
    split at hlast
    · next heq => simp [step, heq] at hnone
    · next hne =>
      rw [step, Function.update_of_ne (Ne.symm hne)] at hnone
      exact sweep_mem_append (h.dropped key t hlast hnone)

theorem Tracks.sweep {ops : List (τ × Op κ)} {times : κ → Option τ} (h : Tracks alive ops times)
    (now : τ) : Tracks alive (ops ++ [(now, .sweep)]) (step alive times (now, .sweep)) := by
  refine ⟨?_, ?_⟩
  · intro key t ht
    rw [lastTouch_append]
    exact h.recent key t (Option.filter_eq_some_iff.mp ht).1
  · intro key t hlast hnone
    rw [lastTouch_append] at hlast
    cases htime : times key with
    | none => exact sweep_mem_append (h.dropped key t hlast htime)
    | some t' =>
        have heq : t' = t := Option.some.inj ((h.recent key t' htime).symm.trans hlast)
        subst heq
        refine ⟨now, List.mem_append_right _ (List.mem_singleton_self _), ?_⟩
        simpa [step, htime] using hnone

theorem tracks_run (ops : List (τ × Op κ)) : Tracks alive ops (run alive ops) := by
  induction ops using List.reverseRecOn with
  | nil => exact ⟨nofun, nofun⟩
  | append_singleton ops op ih =>
      rw [run_append]
      obtain ⟨now, _ | _⟩ := op
      · exact ih.touch now _
      · exact ih.sweep now

/-- What a sweep leaves: the last touches that are alive. -/
theorem run_sweep [LE τ] (ops : List (τ × Op κ)) (now : τ)
    (hdead : ∀ s t, s ≤ now → alive now t = true → alive s t = true)
    (hlast : ∀ op ∈ ops, op.1 ≤ now) (key : κ) :
    run alive (ops ++ [(now, .sweep)]) key = (lastTouch key ops).filter (alive now) := by
  have htracks : Tracks alive ops (run alive ops) := tracks_run ops
  rw [run_append]
  change (run alive ops key).filter (alive now) = _
  cases htime : run alive ops key with
  | some t => rw [htracks.recent key t htime]
  | none =>
      cases htouch : lastTouch key ops with
      | none => rfl
      | some t =>
          obtain ⟨s, hmem, hs⟩ := htracks.dropped key t htouch htime
          cases halive : alive now t with
          | false => simp [Option.filter, halive]
          | true => simp [hdead s t (hlast _ hmem) halive] at hs

end Lib.Expiry
