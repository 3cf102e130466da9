import Mathlib.Data.List.Basic
import Mathlib.Tactic

/-!
# Views and accesses

A view is a part of a buffer: its elements, and what follows them in the buffer.
Reading through a view is not checked.  A position outside of it gives whatever the
buffer holds there, and there is no telling what comes after the buffer.

A `ViewM` records the accesses it makes.  `Returns slack m a` says that `m` comes to
`a` and that no access was more than `slack` elements outside of the view it was made
through.  It is proved step by step (`returns_pure`, `returns_bind`, `returns_index`,
`returns_removePrefix`), and a result is the only one (`Returns.unique`).
-/

namespace Lib

/-- A view and the rest of the buffer behind it. -/
structure View (α : Type) where
  data : List α
  tail : List α

/-- An access to a view of the given size. -/
inductive Access where
  /-- `s[pos]`, `s.front()` and `s.back()`. -/
  | index (pos size : Nat)
  /-- `s.remove_prefix(n)` and `s.remove_suffix(n)`. -/
  | remove (n size : Nat)
deriving DecidableEq, Repr

/-- At most `slack` elements behind the view are read, and no more is removed than is
there. -/
def Access.Within (slack : Nat) : Access → Prop
  | index pos size => pos < size + slack
  | remove n size => n ≤ size

/-- A computation over views, with the accesses it made.  `none` is a read outside of
the buffer, or a loop that is still running when its fuel is used up. -/
def ViewM (α : Type) : Type := Option (List Access × α)

namespace ViewM

variable {α β : Type}

/-- No result. -/
def stuck : ViewM α := none

/-- No access. -/
def ret (a : α) : ViewM α := some ([], a)

/-- One computation after the other. -/
def andThen (m : ViewM α) (f : α → ViewM β) : ViewM β :=
  match m with
  | none => none
  | some (log, a) =>
      match f a with
      | none => none
      | some (log', b) => some (log ++ log', b)

instance : Monad ViewM where
  pure := ret
  bind := andThen

/-- The computation comes to a result, and its accesses are within the slack. -/
def Returns (slack : Nat) (m : ViewM α) (a : α) : Prop :=
  ∃ log, m = some (log, a) ∧ ∀ x ∈ log, x.Within slack

variable {slack : Nat} {m : ViewM α} {f : α → ViewM β} {a a' : α} {b : β}

theorem returns_pure : Returns slack (pure a : ViewM α) a := ⟨[], rfl, by simp⟩

theorem returns_bind (hm : Returns slack m a) (hf : Returns slack (f a) b) :
    Returns slack (m >>= f) b := by
  obtain ⟨log, rfl, hlog⟩ := hm
  obtain ⟨log', hfa, hlog'⟩ := hf
  refine ⟨log ++ log', ?_, ?_⟩
  · change andThen (some (log, a)) f = _
    rw [andThen, hfa]
  · intro x hx
    rcases List.mem_append.mp hx with hx | hx
    · exact hlog x hx
    · exact hlog' x hx

theorem Returns.unique (h : Returns slack m a) (h' : Returns slack m a') : a = a' := by
  obtain ⟨log, hm, -⟩ := h
  obtain ⟨log', hm', -⟩ := h'
  rw [hm] at hm'
  cases hm'
  rfl

/-- What a sequence returns went through its first part. -/
theorem Returns.of_bind (h : Returns slack (m >>= f) b) :
    ∃ a, Returns slack m a ∧ Returns slack (f a) b := by
  obtain ⟨log, hmf, hlog⟩ := h
  change andThen m f = _ at hmf
  unfold andThen at hmf
  cases m with
  | none => cases hmf
  | some r =>
      obtain ⟨log₁, a⟩ := r
      dsimp only at hmf
      cases hfa : f a with
      | none => rw [hfa] at hmf; cases hmf
      | some r =>
          obtain ⟨log₂, b'⟩ := r
          rw [hfa] at hmf
          cases hmf
          exact ⟨a, ⟨log₁, rfl, fun x hx => hlog x (List.mem_append_left _ hx)⟩,
            ⟨log₂, hfa, fun x hx => hlog x (List.mem_append_right _ hx)⟩⟩

/-- The part of a sequence behind a known result. -/
theorem Returns.after (h : Returns slack (m >>= f) b) (hm : Returns slack m a) :
    Returns slack (f a) b := by
  obtain ⟨a', hm', hf⟩ := h.of_bind
  rwa [hm.unique hm']

end ViewM

namespace View

open ViewM

variable {α : Type} (v : View α)

def size : Nat := v.data.length

/-- `s[pos]`. -/
def index (pos : Nat) : ViewM α :=
  match (v.data ++ v.tail)[pos]? with
  | none => none
  | some a => some ([.index pos v.size], a)

/-- `s.remove_prefix(n)`.  The number is cut to the size. -/
def removePrefix (n : Nat) : ViewM (View α) :=
  some ([.remove n v.size], ⟨v.data.drop n, v.tail⟩)

/-- `s.remove_suffix(n)`. -/
def removeSuffix (n : Nat) : ViewM (View α) :=
  some ([.remove n v.size],
    ⟨v.data.take (v.size - n), v.data.drop (v.size - n) ++ v.tail⟩)

/-- `s.substr(pos, n)` for a position in the view or at its end. -/
def substr (pos n : Nat) : View α :=
  ⟨(v.data.drop pos).take n, v.data.drop (pos + n) ++ v.tail⟩

variable {slack : Nat}

theorem returns_index {pos : Nat} {a : α} (h : v.data[pos]? = some a) :
    Returns slack (v.index pos) a := by
  have hlt : pos < v.data.length := (List.getElem?_eq_some_iff.mp h).1
  refine ⟨[.index pos v.size], ?_, ?_⟩
  · rw [index, List.getElem?_append_left hlt, h]
  · intro x hx
    rw [List.mem_singleton.mp hx]
    exact Nat.lt_add_right _ hlt

/-- The front of a view that is used up is what follows it. -/
theorem returns_index_nil {tail : List α} {a : α} (h : tail.head? = some a) :
    Returns (slack + 1) (View.index ⟨[], tail⟩ 0) a := by
  cases tail with
  | nil => cases h
  | cons b tail =>
      cases h
      refine ⟨[.index 0 0], rfl, ?_⟩
      intro x hx
      rw [List.mem_singleton.mp hx]
      exact Nat.succ_pos _

/-- There is no reading the front of an empty view without leaving it. -/
theorem not_returns_index_nil (tail : List α) (a : α) :
    ¬ Returns 0 (View.index ⟨[], tail⟩ 0) a := by
  rintro ⟨log, hrun, hlog⟩
  rw [index] at hrun
  split at hrun
  · cases hrun
  · cases hrun
    exact absurd (hlog _ (List.mem_singleton.mpr rfl)) (Nat.lt_irrefl 0)

theorem returns_removePrefix {n : Nat} (h : n ≤ v.data.length) :
    Returns slack (v.removePrefix n) ⟨v.data.drop n, v.tail⟩ := by
  refine ⟨_, rfl, ?_⟩
  intro x hx
  rw [List.mem_singleton.mp hx]
  exact h

theorem returns_removeSuffix {n : Nat} (h : n ≤ v.data.length) :
    Returns slack (v.removeSuffix n)
      ⟨v.data.take (v.size - n), v.data.drop (v.size - n) ++ v.tail⟩ := by
  refine ⟨_, rfl, ?_⟩
  intro x hx
  rw [List.mem_singleton.mp hx]
  exact h

end View

end Lib
