import Banjax.Lib.Bytes

/-!
# Occurrences of a pattern

What `find?` finds: something exactly when the pattern occurs in the text
(`find?_isSome`), and a position at which the whole pattern has room
(`length_le_of_find?`).  The first occurrence of a single byte is where the part of the
text without it ends (`find?_byte`).
-/

namespace Lib

variable {pat s : Bytes}

/-- A text is found where it occurs. -/
theorem find?_isSome : (find? pat s).isSome = true ↔ pat <:+: s := by
  induction s with
  | nil =>
      rw [find?, List.infix_nil]
      split
      · next h => simp [h]
      · next h => simp [h]
  | cons c s ih =>
      rw [find?, List.infix_cons_iff]
      split
      · next h => simp [h]
      · next h => simp [h, ih]

/-- The pattern ends inside of the text. -/
theorem length_le_of_find? {n : Nat} (h : find? pat s = some n) :
    n + pat.length ≤ s.length := by
  induction s generalizing n with
  | nil =>
      rw [find?] at h
      split at h
      · next hpat =>
        cases h
        simp [hpat]
      · cases h
  | cons c s ih =>
      rw [find?] at h
      split at h
      · next hpat =>
        cases h
        rw [Nat.zero_add]
        exact hpat.length_le
      · obtain ⟨m, hm, rfl⟩ := Option.map_eq_some_iff.mp h
        have hle := ih hm
        rw [List.length_cons]
        omega

/-- The first occurrence of a byte. -/
theorem find?_byte {c : UInt8} (h : c ∉ s) (rest : Bytes) :
    find? [c] (s ++ c :: rest) = some s.length := by
  induction s with
  | nil => simp [find?]
  | cons b s ih =>
      rw [List.mem_cons, not_or] at h
      rw [List.cons_append, find?, if_neg (by simpa using h.1), ih h.2]
      rfl

theorem find?_byte_eq_none {c : UInt8} (h : c ∉ s) : find? [c] s = none := by
  rw [← Option.not_isSome_iff_eq_none, find?_isSome]
  intro hfound
  exact h (hfound.subset (List.mem_singleton_self c))

/-- The text in front of the first occurrence of a byte, or all of it. -/
theorem takeWhile_eq_of_notMem {c : UInt8} (h : c ∉ s) (rest : Bytes) :
    (s ++ c :: rest).takeWhile (· ≠ c) = s := by
  rw [List.takeWhile_append_of_pos, List.takeWhile_cons_of_neg (by simp), List.append_nil]
  intro b hb
  exact decide_eq_true fun he => h (he ▸ hb)

end Lib
