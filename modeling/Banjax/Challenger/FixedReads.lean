import Banjax.Challenger.Check
import Banjax.Token.Language

/-!
# Reads of a fixed size

`ValidateCookie` copies 28 bytes out of the text it has decoded, and
`check_auth_validity` compares 32.  Both look at the length of the encoded text
only, and `Decode` drops whitespace and `=` signs, so the decoded text can be
shorter than what is read.

The two reads are alike: `decode_length_le_iff` says how many characters of the
alphabet `n` decoded bytes need.
-/

namespace Banjax

open Lib

/-- Enough characters of the alphabet make enough bytes. -/
theorem decode_length_le_iff {s out : Bytes} (n : Nat) (h : Base64.decode s = some out) :
    n ≤ out.length ↔ 8 * n ≤ 6 * (Base64.alphabetChars s).length := by
  rw [Base64.length_of_decode h]
  omega

/-- A decoding that is at least `n` bytes long whenever there is one. -/
theorem decode_long_iff (s : Bytes) (n : Nat) :
    (∀ out, Base64.decode s = some out → n ≤ out.length) ↔
      ¬ Base64.Legal s ∨ 8 * n ≤ 6 * (Base64.alphabetChars s).length := by
  constructor
  · intro hlong
    by_cases hlegal : Base64.Legal s
    · have hsome := Base64.decode_eq_some_iff.mpr ⟨hlegal, rfl⟩
      exact Or.inr ((decode_length_le_iff n hsome).mp (hlong _ hsome))
    · exact Or.inl hlegal
  · rintro (hillegal | hmany) out hout
    · exact absurd (Base64.decode_eq_some_iff.mp hout).1 hillegal
    · exact (decode_length_le_iff n hout).mpr hmany

/-- Memory behind a string that is long enough is not read. -/
theorem peek_of_le {data : Bytes} {n : Nat} (residue : Nat → UInt8) (h : n ≤ data.length) :
    peek data residue n = data.take n := by
  rw [peek, List.take_append_of_le_length h]

/-! ## `ValidateCookie` -/

/-- `COOKIE_LENGTH`. -/
def cookieLength : Nat := 28

/-- The decoded text when `ValidateCookie` reaches its `memcpy`. -/
def copiedData (cookiestring : Bytes) : Option Bytes :=
  if (cStr cookiestring).length ≠ cookieB64Length then none
  else Base64.decode (cStr cookiestring)

/-- The copy is made when there is a decoded text, and from it. -/
theorem readToken_eq_ok_iff (residue : Nat → UInt8) (cookiestring cookie : Bytes) :
    readToken residue cookiestring = .ok cookie ↔
      ∃ cookiedata, copiedData cookiestring = some cookiedata ∧
        peek cookiedata residue cookieLength = cookie := by
  unfold readToken copiedData
  dsimp only
  split
  · simp
  · cases Base64.decode (cStr cookiestring) with
    | none => simp
    | some cookiedata => simp [cookieLength]

/-- The copy stays inside the decoded text exactly when 38 of the 40 characters
carry bits, or when `ValidateCookie` returns before it. -/
theorem copiedData_length_iff (cookiestring : Bytes) :
    (∀ cookiedata, copiedData cookiestring = some cookiedata →
        cookieLength ≤ cookiedata.length) ↔
      ((cStr cookiestring).length ≠ 40 ∨ ¬ Base64.Legal (cStr cookiestring) ∨
        38 ≤ (Base64.alphabetChars (cStr cookiestring)).length) := by
  have hlong := decode_long_iff (cStr cookiestring) cookieLength
  have hcount : 8 * cookieLength ≤ 6 * (Base64.alphabetChars (cStr cookiestring)).length ↔
      38 ≤ (Base64.alphabetChars (cStr cookiestring)).length := by
    simp only [cookieLength]
    omega
  rw [hcount] at hlong
  unfold copiedData
  by_cases h : (cStr cookiestring).length ≠ 40
  · simp [show (cStr cookiestring).length ≠ cookieB64Length from h, h]
  · rw [if_neg (show ¬ (cStr cookiestring).length ≠ cookieB64Length from h), hlong]
    simp [h]

/-- Forty `=` signs are the right length and decode to nothing. -/
theorem copiedData_padding :
    ¬ ∀ (cookiestring cookiedata : Bytes), copiedData cookiestring = some cookiedata →
        cookieLength ≤ cookiedata.length := by
  intro h
  have hread : copiedData (List.replicate 40 Base64.pad) = some [] := by decide +kernel
  exact absurd (h _ _ hread) (by decide)

/-! ## `check_auth_validity` -/

namespace Challenger

variable (M : Challenger)

/-- The decoded suffix when `check_auth_validity` reaches its `memcmp`. -/
def comparedData (cookiestr passwordHash : Bytes) : Option Bytes :=
  if (cStr cookiestr).length < cookieB64Length + passwordHash.length then none
  else Base64.decode ((cStr cookiestr).drop cookieB64Length)

/-- The comparison is made when there is a decoded suffix, and with it. -/
theorem checkAuthValidity_eq_compared (residue : Nat → UInt8) (cookiestr passwordHash : Bytes) :
    M.checkAuthValidity residue cookiestr passwordHash =
      match comparedData cookiestr passwordHash with
      | none => false
      | some cookiedata => decide (peek cookiedata residue 32 =
          (M.crypto.sha256 ((cStr cookiestr).take cookieB64Length ++ passwordHash)).toList) := by
  unfold checkAuthValidity comparedData
  dsimp only
  split
  · rfl
  · cases Base64.decode ((cStr cookiestr).drop cookieB64Length) <;> rfl

/-- A suffix of 32 bytes leaves no room for what follows it in memory. -/
theorem checkAuthValidity_residue {cookiestr passwordHash cookiedata : Bytes}
    (hdata : comparedData cookiestr passwordHash = some cookiedata) (hlen : 32 ≤ cookiedata.length)
    (residue residue' : Nat → UInt8) :
    M.checkAuthValidity residue cookiestr passwordHash =
      M.checkAuthValidity residue' cookiestr passwordHash := by
  rw [checkAuthValidity_eq_compared, checkAuthValidity_eq_compared, hdata]
  dsimp only
  rw [peek_of_le residue hlen, peek_of_le residue' hlen]

/-- Whenever the comparison is reached, the decoded suffix is as long as a digest,
and the verdict is the same whatever the memory behind it holds. -/
def ComparesInside (cookiestr passwordHash : Bytes) : Prop :=
  ∀ cookiedata, comparedData cookiestr passwordHash = some cookiedata →
    32 ≤ cookiedata.length ∧
      ∀ residue residue' : Nat → UInt8, M.checkAuthValidity residue cookiestr passwordHash =
        M.checkAuthValidity residue' cookiestr passwordHash

/-- The comparison stays inside the decoded suffix exactly when 43 characters of
the suffix carry bits, or when `check_auth_validity` returns before it. -/
theorem comparesInside_iff (cookiestr passwordHash : Bytes) :
    M.ComparesInside cookiestr passwordHash ↔
      ((cStr cookiestr).length < 40 + passwordHash.length ∨
        ¬ Base64.Legal ((cStr cookiestr).drop 40) ∨
        43 ≤ (Base64.alphabetChars ((cStr cookiestr).drop 40)).length) := by
  have hlong := decode_long_iff ((cStr cookiestr).drop 40) 32
  have hcount : 8 * 32 ≤ 6 * (Base64.alphabetChars ((cStr cookiestr).drop 40)).length ↔
      43 ≤ (Base64.alphabetChars ((cStr cookiestr).drop 40)).length := by omega
  have hinside : M.ComparesInside cookiestr passwordHash ↔
      ∀ cookiedata, comparedData cookiestr passwordHash = some cookiedata →
        32 ≤ cookiedata.length := by
    constructor
    · intro h cookiedata hdata
      exact (h cookiedata hdata).1
    · intro h cookiedata hdata
      exact ⟨h cookiedata hdata, M.checkAuthValidity_residue hdata (h cookiedata hdata)⟩
  rw [hcount] at hlong
  rw [hinside]
  unfold comparedData
  by_cases h : (cStr cookiestr).length < 40 + passwordHash.length
  · simp [show (cStr cookiestr).length < cookieB64Length + passwordHash.length from h, h]
  · rw [if_neg (show ¬ (cStr cookiestr).length < cookieB64Length + passwordHash.length from h)]
    exact hlong.trans (by simp [h])

/-- Without a password hash a cookie of 40 characters passes the check of the
length, and nothing is left to decode. -/
theorem comparesInside_no_password :
    ¬ ∀ (M : Challenger) (cookiestr passwordHash : Bytes),
        M.ComparesInside cookiestr passwordHash := by
  intro h
  have hdata : comparedData (List.replicate 40 65) [] = some [] := by decide +kernel
  have hlen := (h (sampleChallenger []) _ _ [] hdata).1
  simp at hlen

end Challenger

end Banjax
