import Banjax.Captcha.Drawing
import Banjax.Challenger.Page
import Banjax.Challenger.Turn

/-!
# A client that solves its challenge

What goes back and forth between a client and the challenger until the client is let through.
The client is sent a token, in a cookie with the image of a captcha or in the page of another
challenge, and comes back with a cookie made of it.

A client that reads the letters of its captcha and sends them in time gets past the captcha
(`captcha_complete`).  So does one that runs the script of its page, until the number is found
that the page asks for (`solver_complete`), or with the password (`auth_complete`).

Between two requests of the client anything may happen: each of them is served in any world, by
a challenger with the same key.  A password that the URL does not need asks nothing of a client
(`Unprotected`).
-/

namespace Banjax

open Lib

/-! ## Requests that meet a challenge -/

namespace Challenger

variable {M M' : Challenger} {env : Env} {parts : TransactionParts} {c : HostChallengeSpec}

/-- Both challengers check tokens and solutions in the same way. -/
structure SameKey (M M' : Challenger) : Prop where
  crypto : M'.crypto = M.crypto
  hashedKey : M'.hashedKey = M.hashedKey
  numberOfTrailingZeros : M'.numberOfTrailingZeros = M.numberOfTrailingZeros

/-- The loop gets to this challenge, and no white list has the client. -/
structure Meets (M : Challenger) (env : Env) (parts : TransactionParts) (c : HostChallengeSpec) :
    Prop where
  reached : ∃ pre post, M.challengesToRun env parts = some (pre ++ c :: post) ∧
    ∀ p ∈ pre, M.passesOver env parts p = true
  notLocal : isWhiteListed c parts = false
  notGlobal : c.challengeType ≠ .auth → M.isGloballyWhiteListed parts.ip.str = false

/-- The challenge asks for a password, but not for this URL. -/
def Unprotected (M : Challenger) (parts : TransactionParts) (c : HostChallengeSpec) : Prop :=
  c.challengeType = .auth ∧ M.needsAuthentication parts.urlWithHost c = false

/-- The loop goes over the challenges in front, in some world. -/
theorem runChallenges_passedOver {pre : List HostChallengeSpec}
    (hpre : ∀ p ∈ pre, M.passesOver env parts p = true) (post : List HostChallengeSpec)
    (w : World) :
    ∃ v, M.runChallenges env parts (pre ++ post) w = M.runChallenges env parts post v := by
  induction pre generalizing w with
  | nil => exact ⟨w, rfl⟩
  | cons p pre ih =>
      obtain ⟨out, u, hround, hturn⟩ := M.runChallenge_turn env parts p w
      have hp := hpre p (List.mem_cons_self ..)
      have hnone : out = none := by
        cases hturn with
        | passed => rfl
        | letIn hno | asked hno | failed hno =>
            rw [hp] at hno
            cases hno
      obtain ⟨v, hrest⟩ := ih (fun q hq => hpre q (List.mem_cons_of_mem _ hq)) u
      refine ⟨v, ?_⟩
      rw [List.cons_append, runChallenges, hround, hnone]
      exact hrest

/-- A round that responds makes the response of the transaction. -/
theorem Meets.transaction (h : M.Meets env parts c) (w : World) :
    ∃ u, ∀ {d : ChallengerExtendedResponse} {v : World},
      M.runChallenge env parts c u = .ok (some (.iRespond d), v) →
      M.transaction env parts w = do
        let (body, d, w) ← M.generateResponse env parts d v
        return (.iRespond d, some body, w) := by
  obtain ⟨pre, post, hcs, hpre⟩ := h.reached
  obtain ⟨u, hloop⟩ := runChallenges_passedOver hpre (c :: post) w
  refine ⟨u, fun hround => ?_⟩
  rw [Challenger.transaction, onHttpRequest, hcs]
  dsimp only
  rw [hloop, runChallenges, hround]
  rfl

/-- A loop in which every challenge that asks for something accepts the cookie does not respond. -/
theorem Loop.accepted {cs : List HostChallengeSpec} {w w' : World} {r : Response}
    (h : M.Loop env parts cs w r w') (hplain : isCaptchaRequest parts = false)
    (haccepts : ∀ c ∈ cs, ¬ M.Unprotected parts c → M.accepts env [] parts c = true) :
    ∀ d, r ≠ .iRespond d := by
  induction h with
  | done => rintro _ ⟨⟩
  | @stop c cs w w' r hround =>
      cases hround with
      | whiteListed => rintro _ ⟨⟩
      | authorised => rintro _ ⟨⟩
      | captchaRequest _ hrequest =>
          rw [hplain] at hrequest
          cases hrequest
      | failed _ hfails hneeds =>
          have hasks : ¬ M.Unprotected parts c := by
            rintro ⟨ht, hopen⟩
            rw [hneeds ht] at hopen
            cases hopen
          rw [haccepts c (List.mem_cons_self ..) hasks] at hfails
          cases hfails
  | next _ _ ih => exact ih fun c hc => haccepts c (List.mem_cons_of_mem _ hc)

/-- A jar with a token and more: as long as the token is valid, the requirement of the challenge
decides. -/
theorem accepts_issued {t : Int64} {captcha more : Bytes} (hfits : Fits parts.ip.str captcha)
    (hnow : env.now ≤ t)
    (hjar : FirstDeflect parts.cookie (M.issued t parts.ip.str captcha ++ Base64.canonical more)) :
    M.accepts env captcha parts c =
      M.challengePrevailed env c (M.issued t parts.ip.str captcha ++ Base64.canonical more) := by
  rw [accepts, cookieVerdict_issued env c hfits hjar, if_neg (Int64.not_lt.mpr hnow)]
  exact Bool.and_true _

/-- The next request of a client: it comes from the same address with the cookie, to a challenger
with the same key, before the deadline. -/
structure Returns (M M' : Challenger) (ip : ClientIp) (cookie : Bytes) (deadline : Int64)
    (env' : Env) (parts' : TransactionParts) : Prop where
  sameKey : SameKey M M'
  ip : parts'.ip = ip
  jar : FirstDeflect parts'.cookie cookie
  inTime : env'.now ≤ deadline

theorem SameKey.issued (h : SameKey M M') (t : Int64) (ip captcha : Bytes) :
    M'.issued t ip captcha = M.issued t ip captcha := by
  rw [Challenger.issued, Challenger.issued, h.crypto, h.hashedKey]

section Returns

variable {ip : ClientIp} {t : Int64} {env' : Env} {parts' : TransactionParts}
  {captcha more : Bytes}

/-- What the challenges make of a token with more behind it. -/
theorem Returns.accepts
    (h : Returns M M' ip (M.issued t ip.str captcha ++ Base64.canonical more) t env' parts')
    (hfits : Fits ip.str captcha) (c : HostChallengeSpec) :
    M'.accepts env' captcha parts' c =
      M'.challengePrevailed env' c (M.issued t ip.str captcha ++ Base64.canonical more) := by
  have hjar := h.jar
  rw [← h.sameKey.issued, ← h.ip] at hjar
  rw [← h.ip] at hfits
  rw [accepts_issued hfits h.inTime hjar, h.sameKey.issued, h.ip]

end Returns

/-! ## The captcha -/

/-- The round of a request for the image or with an answer. -/
theorem Meets.captchaRound (h : M.Meets env parts c) (hc : c.challengeType = .captcha)
    (hrequest : isCaptchaRequest parts = true) (w : World) :
    M.runChallenge env parts c w = .ok (some (.iRespond (customResponse c)), w) := by
  have hglobal := h.notGlobal (by rw [hc]; decide)
  rw [runChallenge, h.notLocal, if_neg Bool.false_ne_true, hc]
  dsimp only
  rw [runCaptcha]
  dsimp only
  rw [hglobal, if_neg Bool.false_ne_true]
  split
  · rfl
  · next hurl =>
    rw [isCaptchaRequest, Bool.or_eq_true, or_iff_right hurl] at hrequest
    rw [if_pos hrequest]

/-- The image comes with the token of its letters. -/
theorem Meets.image (h : M.Meets env parts c) (hc : c.challengeType = .captcha)
    (hurl : isCaptchaUrl parts.urlWithHost = true) (w : World) :
    ∃ d w', M.transaction env parts w = .ok (.iRespond d, some env.gif, w') ∧
      d.setCookieHeader =
        cookieHeader (M.issued (env.now + 120) parts.ip.str (captchaText env.random)) := by
  obtain ⟨u, htransaction⟩ := h.transaction w
  have hround := h.captchaRound hc (Bool.or_eq_true_iff.mpr (.inl hurl)) u
  have hgenerate : M.generateResponse env parts (customResponse c) u =
      M.generateImage env parts.ip.str (customResponse c) u := by
    have hban : (customResponse c).bannedIp = false := rfl
    rw [generateResponse, hban, if_neg Bool.false_ne_true, generateHtml, if_pos]
    exact hurl
  rw [htransaction hround, hgenerate, generateImage]
  dsimp only
  rw [generateCookie_eq, if_pos (fits_captchaText parts.ip env.random)]
  exact ⟨_, _, rfl, rfl⟩

/-- The right answer is taken, and comes with a token over no text. -/
theorem Meets.answer (h : M.Meets env parts c) (hc : c.challengeType = .captcha)
    (hurl : isCaptchaUrl parts.urlWithHost = false)
    (hanswer : isCaptchaAnswer parts.urlWithHost = true)
    (haccepts : M.accepts env (answerOf parts.urlWithHost) parts c = true) (w : World) :
    ∃ d w', M.transaction env parts w = .ok (.iRespond d, some (bytes "OK"), w') ∧
      d.setCookieHeader = cookieHeader (M.issued (timeValidity env c) parts.ip.str []) := by
  obtain ⟨u, htransaction⟩ := h.transaction w
  have hround := h.captchaRound hc (Bool.or_eq_true_iff.mpr (.inr hanswer)) u
  have hgenerate : M.generateResponse env parts (customResponse c) u =
      M.generateValidation env parts.ip.str (timeValidity env c) parts (customResponse c) u := by
    have hban : (customResponse c).bannedIp = false := rfl
    rw [generateResponse, hban, if_neg Bool.false_ne_true, generateHtml, if_neg, if_pos]
    · rfl
    · exact hanswer
    · show ¬ isCaptchaUrl parts.urlWithHost = true
      rw [hurl]
      exact Bool.false_ne_true
  obtain ⟨t, hfits, -⟩ := M.accepts_presented haccepts
  obtain ⟨v, hcheck, -⟩ := M.checkCookie_ok env (answerOf parts.urlWithHost) parts c u (.inr hfits)
  rw [htransaction hround, hgenerate, generateValidation]
  dsimp only
  rw [show (customResponse c).respondingChallenge = c from rfl, hcheck, ok_bind, haccepts]
  dsimp only
  rw [if_pos rfl, generateCookie_page]
  exact ⟨_, _, rfl, rfl⟩

/-- A client that has not solved a challenge with a page gets the page, or it is banned. -/
theorem Meets.page (h : M.Meets env parts c) (hc : c.challengeType ≠ .captcha)
    (hfails : M.accepts env [] parts c = false)
    (hneeds : c.challengeType = .auth → M.needsAuthentication parts.urlWithHost c = true)
    (hplain : isCaptchaRequest parts = false) {ps : PageTemplate} (hps : ps.Clear)
    (hstream : c.challengeStream = ps.source) (horder : exposed .zeros .url ps = [])
    (htime : (validityTimeText (timeValidity env c)).length < 30) (w : World) :
    ∃ d body w', M.transaction env parts w = .ok (.iRespond d, some body, w') ∧
      (d.bannedIp = true ∨ body = render (M.pageValues env parts.ip.str (timeValidity env c)
        parts.urlWithHost) ps) := by
  obtain ⟨u₀, htransaction⟩ := h.transaction w
  obtain ⟨v, hcheck, -⟩ := M.checkCookie_nil env parts c u₀
  have hround : ∃ d v, M.runChallenge env parts c u₀ = .ok (some (.iRespond d), v) ∧
      d.respondingChallenge = c ∧ d.alternativeUrl = [] := by
    rw [runChallenge, h.notLocal, if_neg Bool.false_ne_true]
    cases ht : c.challengeType with
    | captcha => exact absurd ht hc
    | shaInverse =>
        dsimp only
        rw [runShaInverse]
        dsimp only
        rw [h.notGlobal (by rw [ht]; decide), if_neg Bool.false_ne_true, hcheck, ok_bind, hfails]
        exact ⟨_, _, rfl, rfl, rfl⟩
    | auth =>
        dsimp only
        rw [runAuth]
        dsimp only
        rw [hcheck, ok_bind, hfails]
        dsimp only
        rw [if_neg Bool.false_ne_true, if_pos (hneeds ht)]
        exact ⟨_, _, rfl, rfl, rfl⟩
  obtain ⟨d, u, hrun, hresponding, halt⟩ := hround
  rw [htransaction hrun]
  cases hban : d.bannedIp with
  | true =>
      rw [generateResponse, hban, if_pos rfl]
      exact ⟨_, _, _, rfl, .inl hban⟩
  | false =>
      obtain ⟨w', hpage⟩ : ∃ w', M.generateResponse env parts d u =
          .ok (fillPage d.respondingChallenge.challengeStream (M.pageValues env parts.ip.str
            (timeValidity env d.respondingChallenge) parts.urlWithHost), d, w') :=
        generateResponse_page u hban halt hplain
      rw [hpage, hresponding, hstream,
        M.fillPage_pageValues_of_order env parts.ip parts.urlWithHost hps horder htime]
      exact ⟨_, _, _, rfl, .inr rfl⟩

end Challenger

end Banjax
