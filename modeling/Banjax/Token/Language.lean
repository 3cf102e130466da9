import Banjax.Token.Base64

/-!
# What `Decode` accepts

The language of `Base64::Decode` and its meaning, said with the table of the
encoder alone: a text may hold the characters of `b64_table`, and whitespace and
`=` signs anywhere between them.  The sextets of a text are the positions of its
characters in that table, and the result is as many whole bytes as they fill.

`decode_eq` reads the loop that way.  The reverse table, the check of the sign and
the shift register do not appear after it.
-/

namespace Banjax.Base64

open Lib

/-! ## The two tables agree -/

theorem mem_b64Table_iff {c : UInt8} : c ∈ b64Table ↔ ∃ i < 64, char i = c := by
  have hlength : b64Table.length = 64 := by decide
  rw [List.mem_iff_getElem]
  constructor
  · rintro ⟨i, hi, rfl⟩
    exact ⟨i, hlength ▸ hi, List.getD_eq_getElem _ _ hi⟩
  · rintro ⟨i, hi, rfl⟩
    exact ⟨i, hlength ▸ hi, (List.getD_eq_getElem _ _ _).symm⟩

/-- `reverse_table` finds the position of a letter. -/
theorem char_sextet {c : UInt8} (h : isLetter c = true) : char (sextet c).toNat = c :=
  forall_byte (P := fun c => isLetter c = true → char (sextet c).toNat = c) (by decide +kernel) c h

theorem isLetter_iff (c : UInt8) : isLetter c = true ↔ c ∈ b64Table := by
  rw [mem_b64Table_iff]
  constructor
  · intro h
    have hsextet : sextet c ≤ 63 := by
      simp only [isLetter, Bool.not_eq_true', Bool.or_eq_false_iff, decide_eq_false_iff_not] at h
      exact UInt8.not_lt.mp h.2
    exact ⟨(sextet c).toNat, Nat.lt_succ_of_le (UInt8.le_iff_toNat_le.mp hsextet), char_sextet h⟩
  · rintro ⟨i, hi, rfl⟩
    exact char_isLetter i hi

theorem not_isSkipped_of_mem {c : UInt8} (h : c ∈ b64Table) : isSkipped c = false := by
  obtain ⟨i, hi, rfl⟩ := mem_b64Table_iff.mp h
  exact char_not_isSkipped i hi

theorem sextet_of_mem {c : UInt8} (h : c ∈ b64Table) : (sextet c).toNat = b64Table.idxOf c := by
  have hnodup : b64Table.Nodup := by decide +kernel
  obtain ⟨i, hi, rfl⟩ := List.mem_iff_getElem.mp h
  have hchar : char i = b64Table[i] := List.getD_eq_getElem _ _ hi
  rw [hnodup.idxOf_getElem i hi, ← hchar, sextet_char i hi]

theorem isSkipped_iff (c : UInt8) : isSkipped c = true ↔ isSpace c = true ∨ c = pad := by
  simp [isSkipped]

/-! ## The language -/

/-- The characters of the alphabet in a text, in their order. -/
def alphabetChars (s : Bytes) : Bytes := s.filter (· ∈ b64Table)

/-- The bits a text stands for: six for each character of the alphabet. -/
def alphabetBits (s : Bytes) : List Bool :=
  (alphabetChars s).flatMap fun c => toBits 6 (b64Table.idxOf c)

/-- A text `Decode` does not throw at. -/
def Legal (s : Bytes) : Prop := ∀ c ∈ s, isSpace c = true ∨ c = pad ∨ c ∈ b64Table

instance (s : Bytes) : Decidable (Legal s) :=
  inferInstanceAs (Decidable (∀ c ∈ s, isSpace c = true ∨ c = pad ∨ c ∈ b64Table))

theorem all_legal_iff (s : Bytes) :
    (s.all fun c => isSkipped c || isLetter c) = true ↔ Legal s := by
  simp only [List.all_eq_true, Bool.or_eq_true, isSkipped_iff, isLetter_iff, Legal, or_assoc]

theorem length_alphabetBits (s : Bytes) :
    (alphabetBits s).length = 6 * (alphabetChars s).length := by
  rw [alphabetBits, List.length_flatMap]
  simp [Nat.mul_comm]

/-- In a legal text, what is not skipped is in the alphabet. -/
theorem sextetBits_eq {s : Bytes} (h : Legal s) : sextetBits s = alphabetBits s := by
  have hchars : s.filter (fun c => !isSkipped c) = alphabetChars s := by
    apply List.filter_congr
    intro c hc
    rcases h c hc with hspace | hpad | hmem
    · have hskip : isSkipped c = true := (isSkipped_iff c).mpr (Or.inl hspace)
      have hnot : c ∉ b64Table := fun hmem => by simp [not_isSkipped_of_mem hmem] at hskip
      simp [hskip, hnot]
    · have hskip : isSkipped c = true := (isSkipped_iff c).mpr (Or.inr hpad)
      have hnot : c ∉ b64Table := fun hmem => by simp [not_isSkipped_of_mem hmem] at hskip
      simp [hskip, hnot]
    · simp [not_isSkipped_of_mem hmem, hmem]
  rw [sextetBits, hchars, alphabetBits]
  apply List.flatMap_congr
  intro c hc
  rw [sextet_of_mem (by simpa using (List.mem_filter.mp hc).2)]

/-- `Decode` throws at an illegal text and otherwise returns the whole bytes of
its bits. -/
theorem decode_eq (s : Bytes) :
    decode s = if Legal s then some ((groups 8 (alphabetBits s)).map Nat.toUInt8) else none := by
  rw [decode, decodeLoop_eq s 0 (by omega)]
  by_cases h : Legal s
  · rw [if_pos ((all_legal_iff s).mpr h), if_pos h, sextetBits_eq h,
      show toBits 0 (0 : UInt32).toNat = [] from rfl, List.nil_append]
  · rw [if_neg (fun hall => h ((all_legal_iff s).mp hall)), if_neg h]

theorem decode_eq_some_iff {s out : Bytes} :
    decode s = some out ↔ Legal s ∧ (groups 8 (alphabetBits s)).map Nat.toUInt8 = out := by
  rw [decode_eq]
  by_cases h : Legal s
  · simp [h]
  · simp [h]

/-- The number of bytes is that of the bits, rounded down. -/
theorem length_of_decode {s out : Bytes} (h : decode s = some out) :
    out.length = 6 * (alphabetChars s).length / 8 := by
  obtain ⟨-, rfl⟩ := decode_eq_some_iff.mp h
  rw [List.length_map, length_groups_eq_div (by omega), length_alphabetBits]

/-- The bits of the result are the leading bits of the text. -/
theorem byteBits_of_decode {s out : Bytes} (h : decode s = some out) :
    byteBits out = (alphabetBits s).take (8 * out.length) := by
  have hlen := length_of_decode h
  obtain ⟨-, rfl⟩ := decode_eq_some_iff.mp h
  have hbytes : byteBits ((groups 8 (alphabetBits s)).map Nat.toUInt8) =
      (groups 8 (alphabetBits s)).flatMap (toBits 8) := by
    rw [byteBits, List.flatMap_map]
    apply List.flatMap_congr
    intro n hn
    rw [show n.toUInt8.toNat = n % 2 ^ 8 from rfl, toBits_mod n (le_refl 8)]
  rw [hbytes, flatMap_toBits_groups_eq_take (by omega), hlen, length_alphabetBits, Nat.mul_comm 8]

/-! ## Skipped characters -/

/-- Whitespace and padding can be put in and taken out anywhere. -/
theorem decode_insert {c : UInt8} (front back : Bytes) (h : isSpace c = true ∨ c = pad) :
    decode (front ++ c :: back) = decode (front ++ back) := by
  have hnot : c ∉ b64Table := by
    intro hmem
    have hskip := (isSkipped_iff c).mpr h
    simp [not_isSkipped_of_mem hmem] at hskip
  have hbits : alphabetBits (front ++ c :: back) = alphabetBits (front ++ back) := by
    simp [alphabetBits, alphabetChars, hnot]
  have hlegal : Legal (front ++ c :: back) ↔ Legal (front ++ back) := by
    constructor
    · intro hl d hd
      rcases List.mem_append.mp hd with hd | hd
      · exact hl d (List.mem_append_left _ hd)
      · exact hl d (List.mem_append_right _ (List.mem_cons_of_mem _ hd))
    · intro hl d hd
      rcases List.mem_append.mp hd with hd | hd
      · exact hl d (List.mem_append_left _ hd)
      · rcases List.mem_cons.mp hd with rfl | hd
        · exact h.imp id Or.inl
        · exact hl d (List.mem_append_right _ hd)
  rw [decode_eq, decode_eq, hbits, if_congr hlegal rfl rfl]

/-- `Decode` throws exactly at a byte that is neither whitespace nor `=` nor in the
alphabet.  Otherwise `n` characters of the alphabet give `6 * n / 8` bytes, whose
bits are the leading bits of the sextets.  What is skipped does not matter. -/
theorem decode_accepts_exactly (s : Bytes) :
    (decode s = none ↔ ∃ c ∈ s, isSpace c = false ∧ c ≠ pad ∧ c ∉ b64Table) ∧
      (∀ out, decode s = some out → out.length = 6 * (alphabetChars s).length / 8 ∧
        byteBits out = (alphabetBits s).take (8 * (6 * (alphabetChars s).length / 8))) ∧
      ∀ (front back : Bytes) (c : UInt8), (isSpace c = true ∨ c = pad) →
        s = front ++ back → decode (front ++ c :: back) = decode s := by
  refine ⟨?_, ?_, ?_⟩
  · rw [decode_eq]
    by_cases h : Legal s
    · simp only [if_pos h, reduceCtorEq, false_iff, not_exists, not_and]
      intro c hc hspace hpad hmem
      rcases h c hc with h' | h' | h'
      · simp [hspace] at h'
      · exact hpad h'
      · exact hmem h'
    · rw [if_neg h]
      simpa [Legal] using h
  · intro out h
    have hlen := length_of_decode h
    exact ⟨hlen, hlen ▸ byteBits_of_decode h⟩
  · rintro front back c h rfl
    exact decode_insert front back h

example : decode (bytes "Y W=I") = some (bytes "ab") ∧ decode (bytes "YW-I") = none := by decide

end Banjax.Base64
