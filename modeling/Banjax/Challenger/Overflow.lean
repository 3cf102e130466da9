import Banjax.Challenger.Gate
import Banjax.Challenger.Response

/-!
# The message buffer

The answer to a captcha is whatever the client writes behind `__validate/`.  No
check on its way to `GenerateCookieHash` looks at its length, and the buffer there
has 200 bytes.  The write is reached when the cookie of the request can be read as
a token, so a transaction at a captcha challenge stays in bounds exactly when the
request is no answer, brings no such cookie, or brings an answer that is short
enough.
-/

namespace Banjax

open Lib

namespace Challenger

variable {M : Challenger} {env : Env} {parts : TransactionParts}

/-- A loop with passed challenges in front gets to the one behind them. -/
theorem loop_reaches {pre post : List HostChallengeSpec} {c : HostChallengeSpec} {w w' : World}
    {r : Response} (hlocal : ∀ p ∈ pre, isWhiteListed p parts = false)
    (hpre : ∀ p ∈ pre, M.passes env parts p = true)
    (h : M.Loop env parts (pre ++ c :: post) w r w') :
    ∃ v, M.Loop env parts (c :: post) v r w' := by
  induction pre generalizing w with
  | nil => exact ⟨w, h⟩
  | cons p pre ih =>
      cases h with
      | stop hround =>
          have hp := (round_some (hlocal p (List.mem_cons_self ..)) hround).1
          rw [hpre p (List.mem_cons_self ..)] at hp
          cases hp
      | next _ hloop =>
          exact ih (fun q hq => hlocal q (List.mem_cons_of_mem _ hq))
            (fun q hq => hpre q (List.mem_cons_of_mem _ hq)) hloop

/-- A captcha challenge that is reached by an answer responds to it. -/
theorem loop_captchaRequest {c : HostChallengeSpec} {post : List HostChallengeSpec} {w w' : World}
    {r : Response} (hg : M.isGloballyWhiteListed parts.ip.str = false)
    (hlocal : isWhiteListed c parts = false) (hc : c.challengeType = .captcha)
    (hu : isCaptchaRequest parts = true) (h : M.Loop env parts (c :: post) w r w') :
    r = .iRespond (customResponse c) := by
  cases h with
  | stop hround =>
      cases hround with
      | whiteListed hl => simp [hlocal] at hl
      | captchaRequest _ _ => rfl
      | authorised ht _ _ => simp [hc] at ht
      | failed hplain _ _ _ _ _ _ => simp [hplain hc] at hu
  | next hround _ =>
      cases hround with
      | skipped _ hg' => simp [hg] at hg'
      | solvedCaptcha _ hplain _ _ => simp [hplain] at hu
      | solvedSha ht _ _ => simp [hc] at ht
      | unprotected ht _ _ _ => simp [hc] at ht

/-- An answer that is too long for the message gets to the buffer. -/
theorem transaction_overflow (w : World) (pre : List HostChallengeSpec) (c : HostChallengeSpec)
    (post : List HostChallengeSpec)
    (hrun : M.challengesToRun env parts = some (pre ++ c :: post))
    (hwl : M.NotWhiteListed parts (pre ++ [c])) (hpre : ∀ p ∈ pre, M.passes env parts p = true)
    (hc : c.challengeType = .captcha) (hover : Overflows env parts) :
    M.transaction env parts w = .error .outOfBounds := by
  obtain ⟨r, v, hreq, hloop⟩ := M.onHttpRequest_loop env parts w
  rw [hrun] at hloop
  obtain ⟨u, hreach⟩ := loop_reaches (fun p hp => hwl.locally p (by simp [hp])) hpre hloop
  have hu : isCaptchaRequest parts = true := by simp [isCaptchaRequest, hover.2.1]
  have hr := loop_captchaRequest hwl.globally (hwl.locally c (by simp)) hc hu hreach
  subst hr
  rw [transaction, hreq, ok_bind]
  dsimp only
  rw [generateResponse_overflow v rfl rfl hover]
  rfl

/-- A transaction that reaches a captcha challenge, of the file or ordered for the host or the
address, stays inside the buffer exactly when its URL is not that of an answer, its cookie
is no token that can be read, or its answer leaves room for the time and the address. -/
theorem transaction_in_bounds_iff (M : Challenger) (env : Env) (parts : TransactionParts)
    (w : World) (pre : List HostChallengeSpec) (c : HostChallengeSpec)
    (post : List HostChallengeSpec)
    (hrun : M.challengesToRun env parts = some (pre ++ c :: post))
    (hwl : M.NotWhiteListed parts (pre ++ [c])) (hpre : ∀ p ∈ pre, M.passes env parts p = true)
    (hc : c.challengeType = .captcha) :
    M.transaction env parts w ≠ .error .outOfBounds ↔
      isCaptchaUrl parts.urlWithHost = true ∨ isCaptchaAnswer parts.urlWithHost = false ∨
        presented env parts = none ∨
        8 + parts.ip.str.length + (cStr (answerOf parts.urlWithHost)).length ≤ 200 := by
  have hfits : Fits parts.ip.str (answerOf parts.urlWithHost) ↔
      8 + parts.ip.str.length + (cStr (answerOf parts.urlWithHost)).length ≤ 200 := by
    rw [Fits, parts.ip.cStr_str]
    rfl
  have hover : ¬ Overflows env parts ↔ isCaptchaUrl parts.urlWithHost = true ∨
      isCaptchaAnswer parts.urlWithHost = false ∨ presented env parts = none ∨
      8 + parts.ip.str.length + (cStr (answerOf parts.urlWithHost)).length ≤ 200 := by
    simp only [Overflows, hfits, not_and_or, not_not, Bool.not_eq_true, Bool.not_eq_false, ne_eq]
  rw [← hover]
  constructor
  · intro hok hov
    exact hok (transaction_overflow w pre c post hrun hwl hpre hc hov)
  · intro hno herr
    rcases M.transaction_cases env parts w with ⟨_, _, _, hok, _⟩ | ⟨hov, _⟩
    · rw [hok] at herr
      cases herr
    · exact hno hov

/-- The right answer of a client that has seen the image. -/
theorem transaction_in_bounds_answer :
    (sampleChallenger [sampleCaptcha 3]).transaction (sampleEnv 100)
        (sampleParts ⟨10, 0, 0, 1⟩ (bytes "__validate/aaaaa")
          (sampleCookie 220 (bytes "10.0.0.1") (bytes "aaaaa"))) World.init ≠
      .error .outOfBounds :=
  (transaction_in_bounds_iff (sampleChallenger [sampleCaptcha 3]) (sampleEnv 100)
    (sampleParts ⟨10, 0, 0, 1⟩ (bytes "__validate/aaaaa")
      (sampleCookie 220 (bytes "10.0.0.1") (bytes "aaaaa"))) World.init
    [] (sampleCaptcha 3) [] rfl ⟨by decide, by decide⟩ (by decide) rfl).mpr (by decide +kernel)

/-- Two hundred bytes of answer with a cookie of forty letters are written over the
end of the buffer. -/
theorem transaction_out_of_bounds :
    (sampleChallenger [sampleCaptcha 3]).transaction (sampleEnv 100)
        (sampleParts ⟨10, 0, 0, 1⟩ (bytes "__validate/" ++ List.replicate 200 97)
          (bytes "deflect=" ++ List.replicate 40 65)) World.init =
      .error .outOfBounds :=
  transaction_overflow World.init [] (sampleCaptcha 3) [] rfl ⟨by decide, by decide⟩ (by decide) rfl
    (by refine ⟨?_, ?_, ?_, ?_⟩ <;> decide +kernel)

end Challenger

end Banjax
