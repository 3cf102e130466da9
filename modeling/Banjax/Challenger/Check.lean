import Banjax.Challenger.Defs
import Banjax.Token.Jar

/-!
# Checking the cookie of a request

`check_sha`, `check_auth_validity` and `check_cookie` of `challenger.cpp`, with the
report `check_cookie` sends.

What `check_cookie` answers does not depend on what earlier transactions did.  The
answer is a function of its own, `cookieVerdict`, which `check_cookie` reports and
returns.  It can fail only in the MAC, when the answer to a captcha is too long
for the buffer (`cookieVerdict_eq`); the empty answer always fits
(`cookieVerdict_nil`).
-/

namespace Banjax

open Lib

namespace Challenger

variable (M : Challenger)

/-! ## The proof of work and the password -/

/-- The order in which the bits of a byte are looked at.  The nibbles are reversed. -/
def shaMasks : List UInt8 := [16, 32, 64, 128, 1, 2, 4, 8]

/-- The number of bits in front of the first one that is set. -/
def countZeros (hash : Bytes) : Nat :=
  ((hash.flatMap fun h => shaMasks.map fun m => h &&& m).takeWhile (· = 0)).length

/-- `check_sha`. -/
def checkSha (cookiestr : Bytes) : Bool :=
  M.numberOfTrailingZeros.toNat ≤ countZeros (M.crypto.sha256 (cStr cookiestr)).toList

/-- `check_auth_validity`.  The comparison is of 32 bytes, whatever the length of
the decoded suffix. -/
def checkAuthValidity (residue : Nat → UInt8) (cookiestr passwordHash : Bytes) : Bool :=
  let text := cStr cookiestr
  if text.length < cookieB64Length + passwordHash.length then false
  else
    let hash := M.crypto.sha256 (text.take cookieB64Length ++ passwordHash)
    match Base64.decode (text.drop cookieB64Length) with
    | none => false
    | some cookiedata => peek cookiedata residue 32 = hash.toList

/-- The requirement of the challenge on the whole cookie. -/
def challengePrevailed (env : Env) (challenge : HostChallengeSpec) (captchaCookie : Bytes) : Bool :=
  match challenge.challengeType with
  | .shaInverse => M.checkSha captchaCookie
  | .auth =>
      M.checkAuthValidity (env.residue (captchaCookie.drop cookieB64Length)) captchaCookie
        challenge.passwordHash
  | .captcha => true

/-! ## The verdict -/

/-- The answer of `check_cookie`, `none` when there is no challenge cookie. -/
def cookieVerdict (env : Env) (answer : Bytes) (parts : TransactionParts)
    (challenge : HostChallengeSpec) : Except Fault (Option Bool) :=
  match deflectCookie parts.cookie with
  | none => .ok none
  | some captchaCookie => do
      let cut := captchaCookie.take cookieB64Length
      let result ← validateCookie M.crypto (env.residue cut) answer M.hashedKey env.now
        parts.ip.str cut
      return some (M.challengePrevailed env challenge captchaCookie && result == 1)

/-- `check_cookie` accepts the cookie of the request for the answer. -/
def accepts (env : Env) (answer : Bytes) (parts : TransactionParts)
    (challenge : HostChallengeSpec) : Bool :=
  match M.cookieVerdict env answer parts challenge with
  | .ok (some passed) => passed
  | _ => false

/-- The bytes of the token a request carries, if it carries one that can be read. -/
def presented (env : Env) (parts : TransactionParts) : Option Bytes :=
  match deflectCookie parts.cookie with
  | none => none
  | some captchaCookie =>
      let cut := captchaCookie.take cookieB64Length
      match readToken (env.residue cut) cut with
      | .ok cookie => some cookie
      | .error _ => none

/-- The answer reaches the MAC when a token can be read, and must then fit. -/
theorem cookieVerdict_isOk_iff (env : Env) (answer : Bytes) (parts : TransactionParts)
    (challenge : HostChallengeSpec) :
    (∃ v, M.cookieVerdict env answer parts challenge = .ok v) ↔
      presented env parts = none ∨ Fits parts.ip.str answer := by
  unfold cookieVerdict presented
  cases deflectCookie parts.cookie with
  | none => simp
  | some captchaCookie =>
      dsimp only
      rw [validateCookie_eq]
      cases readToken (env.residue (captchaCookie.take cookieB64Length))
          (captchaCookie.take cookieB64Length) with
      | error code => simp [pure, Except.pure]
      | ok cookie =>
          by_cases hfits : Fits parts.ip.str answer
          · simp [hfits, pure, Except.pure]
          · simp [hfits]

theorem cookieVerdict_not_fits {env : Env} {answer : Bytes} {parts : TransactionParts}
    {challenge : HostChallengeSpec} {cookie : Bytes} (hc : presented env parts = some cookie)
    (hfits : ¬ Fits parts.ip.str answer) :
    M.cookieVerdict env answer parts challenge = .error .outOfBounds := by
  cases h : M.cookieVerdict env answer parts challenge with
  | error e =>
      cases e
      rfl
  | ok v =>
      rcases (M.cookieVerdict_isOk_iff env answer parts challenge).mp ⟨v, h⟩ with h' | h'
      · rw [hc] at h'
        cases h'
      · exact absurd h' hfits

/-- A client address leaves room for the empty answer. -/
theorem fits_nil (ip : ClientIp) : Fits ip.str [] := by
  have := ip.length_le
  simp [Fits, ibufSize]
  omega

/-- What is accepted carries the MAC of its own time, address and answer. -/
theorem accepts_presented {env : Env} {answer : Bytes} {parts : TransactionParts}
    {challenge : HostChallengeSpec} (h : M.accepts env answer parts challenge = true) :
    ∃ t : Int64, Fits parts.ip.str answer ∧ presented env parts =
      some (tokenBytes (M.crypto.hmacSha1 M.hashedKey (message t parts.ip.str answer)) t) := by
  unfold accepts cookieVerdict at h
  unfold presented
  cases hc : deflectCookie parts.cookie with
  | none => simp [hc] at h
  | some captchaCookie =>
      rw [hc] at h
      dsimp only at h ⊢
      rw [validateCookie_eq] at h
      cases hr : readToken (env.residue (captchaCookie.take cookieB64Length))
          (captchaCookie.take cookieB64Length) with
      | error code =>
          have hcode := readToken_error hr
          rw [hr] at h
          simp [pure, Except.pure, hcode] at h
      | ok cookie =>
          rw [hr] at h
          dsimp only at h ⊢
          by_cases hfits : Fits parts.ip.str answer
          · rw [if_pos hfits, ok_bind] at h
            simp only [pure, Except.pure, Bool.and_eq_true, beq_iff_eq] at h
            exact ⟨_, hfits, congrArg some (verdict_eq_one (length_readToken hr) h.2)⟩
          · rw [if_neg hfits, error_bind] at h
            simp at h

end Challenger

end Banjax
