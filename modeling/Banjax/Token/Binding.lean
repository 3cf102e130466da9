import Banjax.Token.CookieHash

/-!
# What a token is bound to

The message under the MAC is the time, the address and the captcha text with
nothing between the address and the text.  So a token says that *some* cut of the
bytes after the time is an address and a captcha.  A token issued for one cut is
also valid for every other cut of the same bytes (`validateCookie_token_iff`), and
the captcha at the checking end is the answer the client typed.

`Recut` describes the other cuts: the end of the longer address has moved to the
front of the captcha.  A token of `1.2.3.45` with no captcha is a token of
`1.2.3.4` with the captcha `5`.
-/

namespace Banjax

open Lib

/-- The two pairs are different cuts of the same bytes: a non-empty piece `r` has
moved from the end of one address to the front of the other captcha. -/
def Recut (ip captcha ip' captcha' : Bytes) : Prop :=
  ∃ r : Bytes, r ≠ [] ∧
    ((ip = ip' ++ r ∧ captcha' = r ++ captcha) ∨ (ip' = ip ++ r ∧ captcha = r ++ captcha'))

/-- Equal bytes are the same cut or another cut. -/
theorem append_eq_append_iff_recut (ip captcha ip' captcha' : Bytes) :
    ip ++ captcha = ip' ++ captcha' ↔
      (ip' = ip ∧ captcha' = captcha) ∨ Recut ip captcha ip' captcha' := by
  constructor
  · intro h
    rcases List.append_eq_append_iff.mp h with ⟨r, hip, hc⟩ | ⟨r, hip, hc⟩
    · cases r with
      | nil => exact Or.inl ⟨by simpa using hip, by simpa using hc.symm⟩
      | cons x r => exact Or.inr ⟨x :: r, by simp, Or.inr ⟨hip, hc⟩⟩
    · cases r with
      | nil => exact Or.inl ⟨by simpa using hip.symm, by simpa using hc⟩
      | cons x r => exact Or.inr ⟨x :: r, by simp, Or.inl ⟨hip, hc⟩⟩
  · rintro (⟨rfl, rfl⟩ | ⟨r, _, ⟨rfl, rfl⟩ | ⟨rfl, rfl⟩⟩)
    · rfl
    · simp
    · simp

/-- A different cut changes the address. -/
theorem Recut.ip_ne {ip captcha ip' captcha' : Bytes} (h : Recut ip captcha ip' captcha') :
    ip' ≠ ip := by
  obtain ⟨r, hr, ⟨rfl, _⟩ | ⟨rfl, _⟩⟩ := h
  · simpa using hr
  · simpa using hr

theorem message_inj {s t : Int64} {a c a' c' : Bytes} (h : message s a c = message t a' c') :
    s = t ∧ cStr a ++ cStr c = cStr a' ++ cStr c' := by
  rw [message, message, List.append_assoc, List.append_assoc] at h
  obtain ⟨ht, hrest⟩ := List.append_inj h (by simp)
  exact ⟨timeBytes_inj ht, hrest⟩

/-- A token that has not expired is accepted exactly for the cuts of the bytes it
was issued for, as far as the MAC tells the two messages apart. -/
theorem validateCookie_token_iff (C : Crypto) (residue : Nat → UInt8)
    (secret : Vector UInt8 32) {captcha captcha' ip ip' : Bytes} {t now : Int64}
    (hmac : Set.InjOn (C.hmacSha1 secret) {message t ip captcha, message t ip' captcha'})
    (hfits' : Fits ip' captcha') (hnow : now ≤ t) :
    validateCookie C residue captcha' secret now ip'
        (tokenText (C.hmacSha1 secret (message t ip captcha)) t) = .ok 1 ↔
      cStr ip ++ cStr captcha = cStr ip' ++ cStr captcha' := by
  have hlate : ¬ t < now := Int64.not_lt.mpr hnow
  rw [validateCookie_eq, readToken_tokenText]
  dsimp only
  rw [if_pos hfits', drop_tokenBytes, timeOfBytes_timeBytes, verdict_tokenBytes, if_neg hlate]
  constructor
  · intro h
    by_cases hne : C.hmacSha1 secret (message t ip captcha) ≠
        C.hmacSha1 secret (message t ip' captcha')
    · rw [if_pos hne] at h
      simp at h
    · exact (message_inj (hmac (by simp) (by simp) (not_not.mp hne))).2
  · intro h
    have hm : message t ip captcha = message t ip' captcha' := by
      rw [message, message, List.append_assoc, h, List.append_assoc]
    rw [hm, if_neg (by simp)]

/-- A token binds its address and captcha exactly when the address and captcha it
is checked against are not another cut of the same bytes. -/
theorem token_binds_iff_not_recut (C : Crypto) (residue : Nat → UInt8)
    (secret : Vector UInt8 32) {captcha captcha' ip ip' : Bytes} {t now : Int64}
    (hmac : Set.InjOn (C.hmacSha1 secret) {message t ip captcha, message t ip' captcha'})
    (hcaptcha : (0 : UInt8) ∉ captcha) (hcaptcha' : (0 : UInt8) ∉ captcha')
    (hip : (0 : UInt8) ∉ ip) (hip' : (0 : UInt8) ∉ ip')
    (hfits : Fits ip captcha) (hfits' : Fits ip' captcha') (hnow : now ≤ t) :
    (∀ token, generateCookie C captcha secret t ip = .ok token →
        validateCookie C residue captcha' secret now ip' token = .ok 1 →
        ip' = ip ∧ captcha' = captcha) ↔
      ¬ Recut ip captcha ip' captcha' := by
  have haccept := validateCookie_token_iff C residue secret hmac hfits' hnow
  rw [cStr_of_zero_notMem hcaptcha, cStr_of_zero_notMem hcaptcha', cStr_of_zero_notMem hip,
    cStr_of_zero_notMem hip', append_eq_append_iff_recut] at haccept
  rw [generateCookie_eq, if_pos hfits]
  constructor
  · intro h hrecut
    exact hrecut.ip_ne (h _ rfl (haccept.mpr (Or.inr hrecut))).1
  · intro hrecut token htoken hvalid
    cases htoken
    exact (haccept.mp hvalid).resolve_right hrecut

/-- Two clients with neighbouring addresses and one captcha text. -/
theorem token_binds_neighbours :
    (∀ token, generateCookie prefixCrypto (bytes "mkqzb") zeroKey 120 (bytes "10.0.0.1") = .ok token →
        validateCookie prefixCrypto (fun _ => 0) (bytes "mkqzb") zeroKey 100 (bytes "10.0.0.2")
          token = .ok 1 →
        bytes "10.0.0.2" = bytes "10.0.0.1" ∧ bytes "mkqzb" = bytes "mkqzb") ↔
      ¬ Recut (bytes "10.0.0.1") (bytes "mkqzb") (bytes "10.0.0.2") (bytes "mkqzb") :=
  token_binds_iff_not_recut prefixCrypto (fun _ => 0) zeroKey
    (Set.injOn_pair.mpr fun h => absurd h (by decide +kernel)) (by decide) (by decide)
    (by decide) (by decide) (by decide) (by decide) (by decide)

/-- The token of `1.2.3.45` is a token of `1.2.3.4`, whose client answers `5`. -/
theorem token_of_other_address :
    ∃ token, generateCookie prefixCrypto [] zeroKey 120 (bytes "1.2.3.45") = .ok token ∧
      validateCookie prefixCrypto (fun _ => 0) (bytes "5") zeroKey 100 (bytes "1.2.3.4") token =
        .ok 1 ∧
      Set.InjOn (prefixCrypto.hmacSha1 zeroKey)
        {message 120 (bytes "1.2.3.45") [], message 120 (bytes "1.2.3.4") (bytes "5")} ∧
      bytes "1.2.3.4" ≠ bytes "1.2.3.45" :=
  ⟨_, rfl, by decide +kernel, Set.injOn_pair.mpr fun _ => by decide, by decide⟩

end Banjax
