import Mathlib.Data.List.Basic
import Mathlib.Logic.Function.Basic

/-!
# Objects that are made and freed

Objects are numbered in the order in which they are made.  The slot of an object that has been
freed stays empty, so that a reference to it finds nothing, and no other object in its place.

The objects may hold names that only one of them can have at a time.  Names are passed on,
given up and claimed, and a name that is claimed must be free.  Then it is never held twice
(`Exclusive.inherited`, `Exclusive.granted`).
-/

namespace Lib

/-! ## Slots -/

/-- The objects, by their numbers. -/
structure Slots (α : Type) where
  slots : List (Option α)

namespace Slots

variable {α : Type}

/-- The number of objects that have been made. -/
def made (s : Slots α) : Nat := s.slots.length

/-- An object that has not been freed. -/
def get? (s : Slots α) (n : Nat) : Option α := s.slots[n]?.join

/-- A new object. -/
def make (s : Slots α) (a : α) : Slots α := ⟨s.slots ++ [some a]⟩

/-- Another value of an object. -/
def put (s : Slots α) (n : Nat) (a : α) : Slots α := ⟨s.slots.set n (some a)⟩

def free (s : Slots α) (n : Nat) : Slots α := ⟨s.slots.set n none⟩

/-- The objects that have not been freed. -/
def live (s : Slots α) : List α := s.slots.filterMap id

variable {s : Slots α} {n m : Nat} {a b : α}

theorem lt_made (h : s.get? n = some a) : n < s.made := by
  by_contra hlt
  rw [get?, List.getElem?_eq_none (Nat.le_of_not_lt hlt)] at h
  cases h

theorem get?_of_made_le (h : s.made ≤ n) : s.get? n = none := by
  rw [get?, List.getElem?_eq_none h]
  rfl

@[simp] theorem made_make (s : Slots α) (a : α) : (s.make a).made = s.made + 1 :=
  List.length_append

@[simp] theorem made_put (s : Slots α) (n : Nat) (a : α) : (s.put n a).made = s.made :=
  List.length_set

@[simp] theorem made_free (s : Slots α) (n : Nat) : (s.free n).made = s.made := List.length_set

theorem get?_make (s : Slots α) (a : α) (m : Nat) :
    (s.make a).get? m = if m = s.made then some a else s.get? m := by
  rw [get?, make, made]
  rcases Nat.lt_trichotomy m s.slots.length with hlt | rfl | hgt
  · rw [List.getElem?_append_left hlt, if_neg (Nat.ne_of_lt hlt), get?]
  · simp
  · rw [if_neg (Nat.ne_of_gt hgt), get?_of_made_le (Nat.le_of_lt hgt),
      List.getElem?_eq_none (by simp; omega)]
    rfl

theorem get?_put (h : s.get? n = some b) (a : α) (m : Nat) :
    (s.put n a).get? m = if m = n then some a else s.get? m := by
  rw [get?, put, List.getElem?_set]
  split
  · next hn =>
    subst hn
    have hlt : n < s.slots.length := lt_made h
    rw [if_pos rfl, if_pos hlt]
    rfl
  · next hn => rw [if_neg (Ne.symm hn), get?]

theorem isSome_put (h : s.get? n = some b) (a : α) (m : Nat) :
    ((s.put n a).get? m).isSome = (s.get? m).isSome := by
  rw [get?_put h]
  split
  · next hm =>
    rw [hm, h]
    rfl
  · rfl

theorem get?_free (s : Slots α) (n m : Nat) :
    (s.free n).get? m = if m = n then none else s.get? m := by
  rw [get?, free, List.getElem?_set]
  split
  · next hn =>
    subst hn
    rw [if_pos rfl]
    split <;> rfl
  · next hn => rw [if_neg (Ne.symm hn), get?]

theorem mem_live : a ∈ s.live ↔ ∃ n, s.get? n = some a := by
  simp only [live, get?, List.mem_filterMap, id, Option.join_eq_some_iff]
  constructor
  · rintro ⟨slot, hslot, rfl⟩
    exact List.mem_iff_getElem?.mp hslot
  · rintro ⟨n, hn⟩
    exact ⟨some a, List.mem_iff_getElem?.mpr ⟨n, hn⟩, rfl⟩

/-! What holds of every object. -/

/-- The objects that have not been freed have the property. -/
def All (P : Nat → α → Prop) (s : Slots α) : Prop := ∀ n a, s.get? n = some a → P n a

section All

variable {P Q : Nat → α → Prop}

theorem All.imp (h : s.All P) (himp : ∀ n a, s.get? n = some a → P n a → Q n a) : s.All Q :=
  fun n a ha => himp n a ha (h n a ha)

theorem All.make (h : s.All P) (ha : P s.made a) : (s.make a).All P := by
  intro m c hc
  rw [get?_make] at hc
  split at hc
  · next hm =>
    cases hc
    rw [hm]
    exact ha
  · exact h m c hc

/-- Another value of an object, and what holds of all others. -/
theorem all_put (hb : s.get? n = some b) (hother : ∀ m c, m ≠ n → s.get? m = some c → P m c)
    (ha : P n a) : (s.put n a).All P := by
  intro m c hc
  rw [get?_put hb] at hc
  split at hc
  · next hm =>
    cases hc
    rw [hm]
    exact ha
  · next hm => exact hother m c hm hc

theorem All.put (h : s.All P) (hb : s.get? n = some b) (ha : P n a) : (s.put n a).All P :=
  all_put hb (fun m c _ hc => h m c hc) ha

theorem All.free (h : s.All P) (n : Nat) : (s.free n).All P := by
  intro m c hc
  rw [get?_free] at hc
  split at hc
  · cases hc
  · exact h m c hc

end All

end Slots

/-! ## Names -/

section Names

variable {P K : Type}

/-- The name is not held at two places. -/
def Exclusive (held : P → Option K) (name : K) : Prop :=
  ∀ p q, held p = some name → held q = some name → p = q

variable {held after : P → Option K} {name : K}

/-- Every place has the name if it had it, or a place has that has passed it on. -/
theorem Exclusive.inherited (h : Exclusive held name) (source : P → P)
    (hsource : ∀ p, after p = some name → held (source p) = some name)
    (hpassed : ∀ p, source p ≠ p → after (source p) = none)
    (hinj : ∀ p q, source p ≠ p → source q ≠ q → source p = source q → p = q) :
    Exclusive after name := by
  intro p q hp hq
  have hsame := h _ _ (hsource p hp) (hsource q hq)
  -- A place that has passed its name on holds none.
  have hkept : ∀ p q, after p = some name → source p = source q → source p = p →
      source q = q := by
    intro p q hp hsame hown
    by_contra hne
    have hnone := hpassed q hne
    rw [← hsame, hown, hp] at hnone
    cases hnone
  rcases eq_or_ne (source p) p with hown | hne
  · exact hown.symm.trans (hsame.trans (hkept p q hp hsame hown))
  · refine hinj p q hne (fun hown => hne ?_) hsame
    exact hkept q p hq hsame.symm hown

/-- Names have been given up. -/
theorem Exclusive.mono (h : Exclusive held name)
    (hkept : ∀ p, after p = some name → held p = some name) : Exclusive after name :=
  fun p q hp hq => h p q (hkept p hp) (hkept q hq)

/-- One place has been given a name, and no other place holds it. -/
theorem Exclusive.granted (h : Exclusive held name) (place : P)
    (hother : ∀ p, p ≠ place → after p = held p)
    (hfree : after place = some name → ∀ p, p ≠ place → held p ≠ some name) :
    Exclusive after name := by
  have hplace : ∀ p, after place = some name → after p = some name → p = place := by
    intro p hname hp
    by_contra hne
    rw [hother p hne] at hp
    exact hfree hname p hne hp
  intro p q hp hq
  rcases eq_or_ne p place with rfl | hne
  · exact (hplace q hp hq).symm
  · rcases eq_or_ne q place with rfl | hne'
    · exact hplace p hq hp
    · rw [hother p hne] at hp
      rw [hother q hne'] at hq
      exact h p q hp hq

end Names

end Lib
