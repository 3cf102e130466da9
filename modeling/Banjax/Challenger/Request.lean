import Banjax.Challenger.Check
import Banjax.Challenger.Failures

/-!
# A request at the challenger

`check_cookie` and `on_http_request` of `challenger.cpp`.

`on_http_request` picks a list of challenges and goes through it.  The body of the
loop is `runChallenge`, which either ends the loop with an answer or goes on to the
next challenge.  `Round` lists everything the body can do, with the condition under
which it does it, and `runChallenge_round` says that the list is complete and that
the body never fails.
-/

namespace Banjax

open Lib

namespace Challenger

/-- The answer of the challenger to a request. -/
abbrev Response := FilterResponse ChallengerExtendedResponse

variable (M : Challenger)

/-! ## Checking and reporting -/

/-- `check_cookie`. -/
def checkCookie (env : Env) (answer : Bytes) (parts : TransactionParts)
    (challenge : HostChallengeSpec) (w : World) : Except Fault (Bool × World) :=
  match M.cookieVerdict env answer parts challenge with
  | .error fault => .error fault
  | .ok none => .ok (false, w)
  | .ok (some passed) => .ok (passed, M.reportPassOrFailure2 parts.host parts.ip.str passed w)

/-- A check that does not fail answers as `accepts` does and changes no record. -/
theorem checkCookie_ok (env : Env) (answer : Bytes) (parts : TransactionParts)
    (challenge : HostChallengeSpec) (w : World)
    (h : presented env parts = none ∨ Fits parts.ip.str answer) :
    ∃ w', M.checkCookie env answer parts challenge w =
      .ok (M.accepts env answer parts challenge, w') ∧ w.Quiet w' := by
  obtain ⟨v, hv⟩ := (M.cookieVerdict_isOk_iff env answer parts challenge).mpr h
  rw [checkCookie, accepts, hv]
  cases v with
  | none => exact ⟨w, rfl, .refl w⟩
  | some passed => exact ⟨_, rfl, M.reportMessage_quiet ..⟩

/-- The check that a request makes without an answer does not fail. -/
theorem checkCookie_nil (env : Env) (parts : TransactionParts) (challenge : HostChallengeSpec)
    (w : World) :
    ∃ w', M.checkCookie env [] parts challenge w =
      .ok (M.accepts env [] parts challenge, w') ∧ w.Quiet w' :=
  M.checkCookie_ok env [] parts challenge w (.inr (fits_nil parts.ip))

/-- `report_failure`, called when the challenge counts failures at all. -/
def countFailure (challenge : HostChallengeSpec) (parts : TransactionParts) (w : World) :
    Bool × World :=
  if challenge.failToleranceThreshold ≠ 0 then reportFailure challenge parts w else (false, w)

/-! ## The loop over the challenges -/

/-- The challenges `on_http_request` goes through, `none` when it goes ahead at
once.  The challenge of a client address is put into the list twice. -/
def challengesToRun (env : Env) (parts : TransactionParts) : Option (List HostChallengeSpec) :=
  match M.hostChallengesStatic.lookup parts.host with
  | some challenges => some challenges
  | none =>
      if !env.hostLockTry then none
      else
        match M.hostToChallengeDynamic.lookup parts.host with
        | some challenge => some [challenge]
        | none =>
            if !env.ipLockTry then none
            else (M.ipToChallengeDynamic.lookup parts.ip.str).map fun challenge =>
              [challenge, challenge]

/-- `custom_response`. -/
def customResponse (challenge : HostChallengeSpec) : ChallengerExtendedResponse where
  respondingChallenge := challenge

/-- The header that takes the challenge cookie away. -/
def deletedCookie : Bytes :=
  bytes "deflect=deleted; path=/; expires=Thu, 01 Jan 1970 00:00:00 GMT; HttpOnly"

/-- The address is in the white list of the challenge. -/
def isWhiteListed (challenge : HostChallengeSpec) (parts : TransactionParts) : Bool :=
  challenge.whiteListedIps.any fun ipr => isMatch parts.ip.str ipr

/-- The case `CHALLENGE_CAPTCHA` of the loop. -/
def runCaptcha (env : Env) (parts : TransactionParts) (curChallenge : HostChallengeSpec)
    (w : World) : Except Fault (Option Response × World) :=
  let ip := parts.ip.str
  let report := M.reportPassOrFailure parts.host ip
  if M.isGloballyWhiteListed ip then .ok (none, w)
  else if isCaptchaUrl parts.urlWithHost then
    .ok (some (.iRespond (customResponse curChallenge)), w)
  else if isCaptchaAnswer parts.urlWithHost then
    .ok (some (.iRespond (customResponse curChallenge)), w)
  else do
    let (passed, w) ← M.checkCookie env [] parts curChallenge w
    if passed then return (none, report true (reportSuccess ip w))
    else
      let (banned, w) := countFailure curChallenge parts (report false w)
      return (some (.iRespond { customResponse curChallenge with bannedIp := banned }), w)

/-- The case `CHALLENGE_SHA_INVERSE` of the loop. -/
def runShaInverse (env : Env) (parts : TransactionParts) (curChallenge : HostChallengeSpec)
    (w : World) : Except Fault (Option Response × World) :=
  let ip := parts.ip.str
  let report := M.reportPassOrFailure parts.host ip
  if M.isGloballyWhiteListed ip then .ok (none, w)
  else do
    let (passed, w) ← M.checkCookie env [] parts curChallenge w
    if passed then return (none, report true w)
    else
      let (banned, w) := countFailure curChallenge parts (report false w)
      return (some (.iRespond { customResponse curChallenge with
        bannedIp := banned, setCookieHeader := deletedCookie }), w)

/-- The case `CHALLENGE_AUTH` of the loop.  A success ends the loop. -/
def runAuth (env : Env) (parts : TransactionParts) (curChallenge : HostChallengeSpec)
    (w : World) : Except Fault (Option Response × World) := do
  let ip := parts.ip.str
  let report := M.reportPassOrFailure parts.host ip
  let (passed, w) ← M.checkCookie env [] parts curChallenge w
  if passed then return (some .serveFresh, report true (reportSuccess ip w))
  else
    let w := report false w
    if M.needsAuthentication parts.urlWithHost curChallenge then
      let (banned, w) := countFailure curChallenge parts w
      return (some (.iRespond { customResponse curChallenge with
        bannedIp := banned, setCookieHeader := deletedCookie }), w)
    else return (none, w)

/-- One round of the loop: an answer, or `none` to go on to the next challenge. -/
def runChallenge (env : Env) (parts : TransactionParts) (curChallenge : HostChallengeSpec)
    (w : World) : Except Fault (Option Response × World) :=
  if isWhiteListed curChallenge parts then .ok (some .serveImmediatelyDontCache, w)
  else
    match curChallenge.challengeType with
    | .captcha => M.runCaptcha env parts curChallenge w
    | .shaInverse => M.runShaInverse env parts curChallenge w
    | .auth => M.runAuth env parts curChallenge w

/-- The loop, and what follows it. -/
def runChallenges (env : Env) (parts : TransactionParts) :
    List HostChallengeSpec → World → Except Fault (Response × World)
  | [], w => .ok (.goAheadNoComment, reportSuccess parts.ip.str w)
  | curChallenge :: rest, w => do
      match ← M.runChallenge env parts curChallenge w with
      | (some response, w) => return (response, w)
      | (none, w) => runChallenges env parts rest w

/-- `on_http_request`. -/
def onHttpRequest (env : Env) (parts : TransactionParts) (w : World) :
    Except Fault (Response × World) :=
  match M.challengesToRun env parts with
  | none => .ok (.goAheadNoComment, w)
  | some challenges => M.runChallenges env parts challenges w

/-! ## What a round can do -/

/-- The URL asks for a captcha image or brings an answer. -/
def isCaptchaRequest (parts : TransactionParts) : Bool :=
  isCaptchaUrl parts.urlWithHost || isCaptchaAnswer parts.urlWithHost

/-- The success of the address is recorded between two worlds. -/
def Succeeds (ip : Bytes) (w w' : World) : Prop :=
  ∃ v, w.Quiet v ∧ (reportSuccess ip v).Quiet w'

/-- What a round does with a challenge, and when. -/
inductive Round (env : Env) (parts : TransactionParts) (c : HostChallengeSpec) (w : World) :
    Option Response → World → Prop where
  | whiteListed : isWhiteListed c parts = true →
      Round env parts c w (some .serveImmediatelyDontCache) w
  | skipped : c.challengeType ≠ .auth → M.isGloballyWhiteListed parts.ip.str = true →
      Round env parts c w none w
  | captchaRequest : c.challengeType = .captcha → isCaptchaRequest parts = true →
      Round env parts c w (some (.iRespond (customResponse c))) w
  | solvedCaptcha {w' : World} : c.challengeType = .captcha → isCaptchaRequest parts = false →
      M.accepts env [] parts c = true → Succeeds parts.ip.str w w' → Round env parts c w none w'
  | solvedSha {w' : World} : c.challengeType = .shaInverse → M.accepts env [] parts c = true →
      w.Quiet w' → Round env parts c w none w'
  | authorised {w' : World} : c.challengeType = .auth → M.accepts env [] parts c = true →
      Succeeds parts.ip.str w w' → Round env parts c w (some .serveFresh) w'
  | unprotected {w' : World} : c.challengeType = .auth → M.accepts env [] parts c = false →
      M.needsAuthentication parts.urlWithHost c = false → w.Quiet w' → Round env parts c w none w'
  | failed {v : World} {d : ChallengerExtendedResponse} :
      (c.challengeType = .captcha → isCaptchaRequest parts = false) →
      M.accepts env [] parts c = false →
      (c.challengeType = .auth → M.needsAuthentication parts.urlWithHost c = true) →
      w.Quiet v → d.respondingChallenge = c → d.bannedIp = (countFailure c parts v).1 →
      d.alternativeUrl = [] →
      Round env parts c w (some (.iRespond d)) (countFailure c parts v).2

/-- The world after a check and a report. -/
theorem quiet_report {w v : World} (hquiet : w.Quiet v) (site ip : Bytes) (passed : Bool) :
    w.Quiet (M.reportPassOrFailure site ip passed v) :=
  hquiet.trans (M.reportMessage_quiet ..)

section Rounds

variable {M} {env : Env} {parts : TransactionParts} {c : HostChallengeSpec} {w v : World}
  (hv : M.checkCookie env [] parts c w = .ok (M.accepts env [] parts c, v)) (hquiet : w.Quiet v)

include hv hquiet

theorem runCaptcha_round (ht : c.challengeType = .captcha) :
    ∃ out w', M.runCaptcha env parts c w = .ok (out, w') ∧ M.Round env parts c w out w' := by
  rw [runCaptcha]
  dsimp only
  split
  · next hg => exact ⟨_, _, rfl, .skipped (by simp [ht]) hg⟩
  · split
    · next hu => exact ⟨_, _, rfl, .captchaRequest ht (by simp [isCaptchaRequest, hu])⟩
    · split
      · next hu => exact ⟨_, _, rfl, .captchaRequest ht (by simp [isCaptchaRequest, hu])⟩
      · next hu ha =>
        have hplain : isCaptchaRequest parts = false := by simp [isCaptchaRequest, hu, ha]
        rw [hv, ok_bind]
        dsimp only
        cases hacc : M.accepts env [] parts c with
        | true =>
            exact ⟨_, _, rfl, .solvedCaptcha ht hplain hacc ⟨v, hquiet, M.reportMessage_quiet ..⟩⟩
        | false =>
            refine ⟨_, _, rfl, .failed (fun _ => hplain) hacc ?_ (M.quiet_report hquiet _ _ false)
              rfl rfl rfl⟩
            rw [ht]
            exact nofun

theorem runShaInverse_round (ht : c.challengeType = .shaInverse) :
    ∃ out w', M.runShaInverse env parts c w = .ok (out, w') ∧ M.Round env parts c w out w' := by
  rw [runShaInverse]
  dsimp only
  split
  · next hg => exact ⟨_, _, rfl, .skipped (by simp [ht]) hg⟩
  · rw [hv, ok_bind]
    dsimp only
    cases hacc : M.accepts env [] parts c with
    | true => exact ⟨_, _, rfl, .solvedSha ht hacc (M.quiet_report hquiet _ _ true)⟩
    | false =>
        refine ⟨_, _, rfl, .failed ?_ hacc ?_ (M.quiet_report hquiet _ _ false) rfl rfl rfl⟩
        · rw [ht]
          exact nofun
        · rw [ht]
          exact nofun

theorem runAuth_round (ht : c.challengeType = .auth) :
    ∃ out w', M.runAuth env parts c w = .ok (out, w') ∧ M.Round env parts c w out w' := by
  rw [runAuth]
  dsimp only
  rw [hv, ok_bind]
  dsimp only
  cases hacc : M.accepts env [] parts c with
  | true => exact ⟨_, _, rfl, .authorised ht hacc ⟨v, hquiet, M.reportMessage_quiet ..⟩⟩
  | false =>
      cases hneeds : M.needsAuthentication parts.urlWithHost c with
      | true =>
          refine ⟨_, _, rfl, .failed ?_ hacc (fun _ => hneeds) (M.quiet_report hquiet _ _ false) rfl
            rfl rfl⟩
          rw [ht]
          exact nofun
      | false => exact ⟨_, _, rfl, .unprotected ht hacc hneeds (M.quiet_report hquiet _ _ false)⟩

end Rounds

/-- The list is complete. -/
theorem runChallenge_round (env : Env) (parts : TransactionParts) (c : HostChallengeSpec)
    (w : World) :
    ∃ out w', M.runChallenge env parts c w = .ok (out, w') ∧ M.Round env parts c w out w' := by
  obtain ⟨v, hv, hquiet⟩ := M.checkCookie_nil env parts c w
  rw [runChallenge]
  split
  · next hlocal => exact ⟨_, _, rfl, .whiteListed hlocal⟩
  · cases ht : c.challengeType with
    | captcha => exact runCaptcha_round hv hquiet ht
    | shaInverse => exact runShaInverse_round hv hquiet ht
    | auth => exact runAuth_round hv hquiet ht

/-! ## What the loop can do -/

/-- The rounds of the loop: all challenges, or those up to the one that answers. -/
inductive Loop (env : Env) (parts : TransactionParts) :
    List HostChallengeSpec → World → Response → World → Prop where
  | done {w : World} :
      Loop env parts [] w .goAheadNoComment (reportSuccess parts.ip.str w)
  | stop {c : HostChallengeSpec} {cs : List HostChallengeSpec} {w w' : World} {r : Response} :
      M.Round env parts c w (some r) w' → Loop env parts (c :: cs) w r w'
  | next {c : HostChallengeSpec} {cs : List HostChallengeSpec} {w v w' : World} {r : Response} :
      M.Round env parts c w none v → Loop env parts cs v r w' → Loop env parts (c :: cs) w r w'

theorem runChallenges_loop (env : Env) (parts : TransactionParts) (cs : List HostChallengeSpec)
    (w : World) :
    ∃ r w', M.runChallenges env parts cs w = .ok (r, w') ∧ M.Loop env parts cs w r w' := by
  induction cs generalizing w with
  | nil => exact ⟨_, _, rfl, .done⟩
  | cons c cs ih =>
      obtain ⟨out, v, hrun, hround⟩ := M.runChallenge_round env parts c w
      rw [runChallenges, hrun, ok_bind]
      cases out with
      | some r => exact ⟨r, v, rfl, .stop hround⟩
      | none =>
          obtain ⟨r, w', hrest, hloop⟩ := ih v
          exact ⟨r, w', hrest, .next hround hloop⟩

/-- A request never fails: it goes ahead at once, or goes through its challenges. -/
theorem onHttpRequest_loop (env : Env) (parts : TransactionParts) (w : World) :
    ∃ r w', M.onHttpRequest env parts w = .ok (r, w') ∧
      match M.challengesToRun env parts with
      | none => r = .goAheadNoComment ∧ w' = w
      | some cs => M.Loop env parts cs w r w' := by
  rw [onHttpRequest]
  cases M.challengesToRun env parts with
  | none => exact ⟨_, _, rfl, rfl, rfl⟩
  | some cs => exact M.runChallenges_loop env parts cs w

end Challenger

end Banjax
