import Banjax.Challenger.Request

/-!
# Where the loop over the challenges ends

`Round` lists what a round of the loop may do.  Here it is said when: `passesOver`
and `fails` are computed from the request and the challenge, before any round, and
`Turn` is what the round does with a challenge of each kind.  The loop passes over
challenges up to the first one for which `passesOver` is false, the decisive one
(`runChallenges_ends`).

Failures and bans are counted in the log, and a challenge that is passed over adds
neither.  It may change the record of the address, when it is a captcha that the
request solves.
-/

namespace Banjax

open Lib

/-! ## Counting -/

namespace World

/-- The failures of the address that have been counted so far. -/
def failureCount (w : World) (ip : Bytes) : Nat := w.log.count (.failure ip)

/-- The bans of the address so far. -/
def banCount (w : World) (ip : Bytes) : Nat := w.log.countP (Event.isBanOf ip)

/-- No failure and no ban between two worlds. -/
structure Still (ip : Bytes) (w w' : World) : Prop where
  failures : w'.failureCount ip = w.failureCount ip
  bans : w'.banCount ip = w.banCount ip

theorem Still.refl (ip : Bytes) (w : World) : w.Still ip w := ⟨rfl, rfl⟩

theorem Still.trans {ip : Bytes} {w₁ w₂ w₃ : World} (h : w₁.Still ip w₂) (h' : w₂.Still ip w₃) :
    w₁.Still ip w₃ :=
  ⟨h'.failures.trans h.failures, h'.bans.trans h.bans⟩

theorem Quiet.still {w w' : World} (h : w.Quiet w') (ip : Bytes) : w.Still ip w' := by
  obtain ⟨es, hes, hrep⟩ := h.log
  have hfailures : es.count (.failure ip) = 0 := by
    rw [List.count_eq_zero]
    intro hmem
    exact absurd (hrep _ hmem) (by simp [Event.isReport])
  have hbans : es.countP (Event.isBanOf ip) = 0 := by
    rw [List.countP_eq_zero]
    intro e he hban
    have := hrep e he
    cases e with
    | ban ip' reason => simp [Event.isReport] at this
    | _ => simp [Event.isBanOf] at hban
  constructor
  · rw [failureCount, hes, List.count_append, hfailures]
    rfl
  · rw [banCount, hes, List.countP_append, hbans]
    rfl

theorem still_reportSuccess (ip ip' : Bytes) (w : World) : w.Still ip (reportSuccess ip' w) := by
  constructor
  · rw [failureCount, reportSuccess_log, List.count_append]
    simp [failureCount]
  · rw [banCount, reportSuccess_log, List.countP_append]
    simp [banCount, Event.isBanOf]

theorem still_token (ip : Bytes) (w : World) (origin : Origin) (t : Int64) (ip' captcha : Bytes) :
    w.Still ip (w.emit (.token origin t ip' captcha)) := by
  constructor
  · rw [failureCount, emit_log, List.count_append]
    simp [failureCount]
  · rw [banCount, emit_log, List.countP_append]
    simp [banCount, Event.isBanOf]

end World

namespace Challenger

/-- Whatever the mutex does, a failure that is reported is counted once at most. -/
theorem failureCount_countFailure_le (c : HostChallengeSpec) (parts : TransactionParts)
    (w : World) :
    (countFailure c parts w).2.failureCount parts.ip.str ≤ w.failureCount parts.ip.str +
      if c.failToleranceThreshold ≠ 0 then 1 else 0 := by
  rw [countFailure]
  split
  · rw [reportFailure]
    obtain ⟨state, ipDb, hget⟩ : ∃ state ipDb, w.ipDb.getIpState parts.ip.str = (state, ipDb) :=
      ⟨_, _, rfl⟩
    rw [hget]
    cases state with
    | none => exact Nat.le_succ _
    | some ipState =>
        dsimp only
        split
        · simp [World.failureCount]
        · simp [World.failureCount]
  · exact Nat.le_refl _

section Acquired

variable {w : World} (h : w.ipDb.AllAcquired) (c : HostChallengeSpec) (parts : TransactionParts)

include h

/-- A failure that is reported is counted. -/
theorem failureCount_countFailure :
    (countFailure c parts w).2.failureCount parts.ip.str = w.failureCount parts.ip.str +
      if c.failToleranceThreshold ≠ 0 then 1 else 0 := by
  rw [countFailure]
  split
  · rw [World.failureCount, reportFailure_log h, List.count_append]
    split <;> simp [World.failureCount]
  · rfl

/-- It bans at the threshold. -/
theorem banCount_countFailure :
    (countFailure c parts w).2.banCount parts.ip.str = w.banCount parts.ip.str +
      if c.failToleranceThreshold ≠ 0 ∧ c.bansAt (w.record parts.ip.str) then 1 else 0 := by
  rw [countFailure]
  by_cases ht : c.failToleranceThreshold ≠ 0
  · rw [if_pos ht, World.banCount, reportFailure_log h, List.countP_append]
    by_cases hb : c.bansAt (w.record parts.ip.str)
    · rw [if_pos hb, if_pos ⟨ht, hb⟩]
      simp [World.banCount, Event.isBanOf]
    · rw [if_neg hb, if_neg (fun hand => hb hand.2)]
      simp [World.banCount, Event.isBanOf]
  · rw [if_neg ht, if_neg (fun hand => ht hand.1)]
    rfl

theorem countFailure_fst :
    (countFailure c parts w).1 =
      decide (c.failToleranceThreshold ≠ 0 ∧ c.bansAt (w.record parts.ip.str)) := by
  rw [countFailure]
  by_cases ht : c.failToleranceThreshold ≠ 0
  · rw [if_pos ht, reportFailure_fst h]
    simp [ht]
  · rw [if_neg ht]
    simp [ht]

theorem record_countFailure :
    (countFailure c parts w).2.record parts.ip.str =
      if c.failToleranceThreshold ≠ 0 then
        if c.bansAt (w.record parts.ip.str) then 0 else w.record parts.ip.str + 1
      else w.record parts.ip.str := by
  rw [countFailure]
  split
  · rw [reportFailure_record h, if_pos rfl]
  · rfl

theorem acquired_countFailure : (countFailure c parts w).2.ipDb.AllAcquired := by
  rw [countFailure]
  split
  · exact reportFailure_acquired h c parts
  · exact h

end Acquired

/-! ## What a round does, exactly -/

variable (M : Challenger)

/-- The loop goes on to the next challenge. -/
def passesOver (env : Env) (parts : TransactionParts) (c : HostChallengeSpec) : Bool :=
  !isWhiteListed c parts &&
    match c.challengeType with
    | .captcha => M.isGloballyWhiteListed parts.ip.str ||
        (!isCaptchaRequest parts && M.accepts env [] parts c)
    | .shaInverse => M.isGloballyWhiteListed parts.ip.str || M.accepts env [] parts c
    | .auth => !M.accepts env [] parts c && !M.needsAuthentication parts.urlWithHost c

/-- A challenge that is passed over is a captcha that the request solves. -/
def solves (parts : TransactionParts) (c : HostChallengeSpec) : Bool :=
  decide (c.challengeType = .captcha) && !M.isGloballyWhiteListed parts.ip.str

/-- A challenge at which the loop ends is one that the request fails. -/
def fails (env : Env) (parts : TransactionParts) (c : HostChallengeSpec) : Bool :=
  !isWhiteListed c parts && !(decide (c.challengeType = .captcha) && isCaptchaRequest parts) &&
    !M.accepts env [] parts c

/-- The challenge at which the loop ends. -/
def decisive (env : Env) (parts : TransactionParts) (cs : List HostChallengeSpec) :
    Option HostChallengeSpec :=
  cs.find? fun c => !M.passesOver env parts c

/-- What a round does with a challenge. -/
inductive Turn (env : Env) (parts : TransactionParts) (c : HostChallengeSpec) (w : World) :
    Option Response → World → Prop where
  | passed {w' : World} : M.passesOver env parts c = true →
      (if M.solves parts c then Succeeds parts.ip.str w w' else w.Quiet w') →
      Turn env parts c w none w'
  | letIn {r : Response} {w' : World} : M.passesOver env parts c = false →
      M.fails env parts c = false → (∀ d, r ≠ .iRespond d) →
      (w' = w ∨ Succeeds parts.ip.str w w') → Turn env parts c w (some r) w'
  | asked : M.passesOver env parts c = false → M.fails env parts c = false →
      isCaptchaRequest parts = true → Turn env parts c w (some (.iRespond (customResponse c))) w
  | failed {v : World} {d : ChallengerExtendedResponse} : M.passesOver env parts c = false →
      M.fails env parts c = true → (c.challengeType = .captcha → isCaptchaRequest parts = false) →
      w.Quiet v → d.respondingChallenge = c → d.bannedIp = (countFailure c parts v).1 →
      d.alternativeUrl = [] → Turn env parts c w (some (.iRespond d)) (countFailure c parts v).2

section Turns

variable {M} {env : Env} {parts : TransactionParts} {c : HostChallengeSpec} {w v : World}
  (hv : M.checkCookie env [] parts c w = .ok (M.accepts env [] parts c, v)) (hquiet : w.Quiet v)
  (hlocal : isWhiteListed c parts = false)

include hv hquiet hlocal

theorem runCaptcha_turn (ht : c.challengeType = .captcha) :
    ∃ out w', M.runCaptcha env parts c w = .ok (out, w') ∧ M.Turn env parts c w out w' := by
  rw [runCaptcha]
  dsimp only
  cases hg : M.isGloballyWhiteListed parts.ip.str with
  | true =>
      refine ⟨_, _, rfl, .passed ?_ ?_⟩
      · simp [passesOver, hlocal, ht, hg]
      · simp [solves, hg, World.Quiet.refl]
  | false =>
      rw [if_neg (by simp)]
      cases hreq : isCaptchaRequest parts with
      | true =>
          have hpass : M.passesOver env parts c = false := by
            simp [passesOver, hlocal, ht, hg, hreq]
          have hfail : M.fails env parts c = false := by simp [fails, ht, hreq]
          split
          · exact ⟨_, _, rfl, .asked hpass hfail hreq⟩
          · split
            · exact ⟨_, _, rfl, .asked hpass hfail hreq⟩
            · next hu ha => simp [isCaptchaRequest, hu, ha] at hreq
      | false =>
          obtain ⟨hu, ha⟩ : isCaptchaUrl parts.urlWithHost = false ∧
              isCaptchaAnswer parts.urlWithHost = false := by
            simpa [isCaptchaRequest] using hreq
          rw [hu, ha, if_neg (by simp), if_neg (by simp), hv, ok_bind]
          dsimp only
          cases hacc : M.accepts env [] parts c with
          | true =>
              refine ⟨_, _, rfl, .passed ?_ ?_⟩
              · simp [passesOver, hlocal, ht, hreq, hacc]
              · rw [if_pos (by simp [solves, ht, hg])]
                exact ⟨v, hquiet, M.reportMessage_quiet ..⟩
          | false =>
              refine ⟨_, _, rfl, .failed ?_ ?_ (fun _ => hreq) (M.quiet_report hquiet _ _ false) rfl
                rfl rfl⟩
              · simp [passesOver, hlocal, ht, hg, hacc]
              · simp [fails, hlocal, hreq, hacc]

theorem runShaInverse_turn (ht : c.challengeType = .shaInverse) :
    ∃ out w', M.runShaInverse env parts c w = .ok (out, w') ∧ M.Turn env parts c w out w' := by
  have hsolves : M.solves parts c = false := by simp [solves, ht]
  rw [runShaInverse]
  dsimp only
  cases hg : M.isGloballyWhiteListed parts.ip.str with
  | true =>
      refine ⟨_, _, rfl, .passed ?_ ?_⟩
      · simp [passesOver, hlocal, ht, hg]
      · rw [hsolves]
        exact .refl w
  | false =>
      rw [if_neg (by simp), hv, ok_bind]
      dsimp only
      cases hacc : M.accepts env [] parts c with
      | true =>
          refine ⟨_, _, rfl, .passed ?_ ?_⟩
          · simp [passesOver, hlocal, ht, hacc]
          · rw [hsolves]
            exact M.quiet_report hquiet _ _ true
      | false =>
          refine ⟨_, _, rfl, .failed ?_ ?_ ?_ (M.quiet_report hquiet _ _ false) rfl rfl rfl⟩
          · simp [passesOver, hlocal, ht, hg, hacc]
          · simp [fails, hlocal, ht, hacc]
          · rw [ht]
            intro hcaptcha
            cases hcaptcha

theorem runAuth_turn (ht : c.challengeType = .auth) :
    ∃ out w', M.runAuth env parts c w = .ok (out, w') ∧ M.Turn env parts c w out w' := by
  have hsolves : M.solves parts c = false := by simp [solves, ht]
  rw [runAuth]
  dsimp only
  rw [hv, ok_bind]
  dsimp only
  cases hacc : M.accepts env [] parts c with
  | true =>
      refine ⟨_, _, rfl, .letIn ?_ ?_ (by rintro _ ⟨⟩) (.inr ⟨v, hquiet, M.reportMessage_quiet ..⟩)⟩
      · simp [passesOver, ht, hacc]
      · simp [fails, hacc]
  | false =>
      cases hneeds : M.needsAuthentication parts.urlWithHost c with
      | true =>
          refine ⟨_, _, rfl, .failed ?_ ?_ ?_ (M.quiet_report hquiet _ _ false) rfl rfl rfl⟩
          · simp [passesOver, ht, hneeds]
          · simp [fails, hlocal, ht, hacc]
          · rw [ht]
            intro hcaptcha
            cases hcaptcha
      | false =>
          refine ⟨_, _, rfl, .passed ?_ ?_⟩
          · simp [passesOver, hlocal, ht, hacc, hneeds]
          · rw [hsolves]
            exact M.quiet_report hquiet _ _ false

end Turns

theorem runChallenge_turn (env : Env) (parts : TransactionParts) (c : HostChallengeSpec)
    (w : World) :
    ∃ out w', M.runChallenge env parts c w = .ok (out, w') ∧ M.Turn env parts c w out w' := by
  obtain ⟨v, hv, hquiet⟩ := M.checkCookie_nil env parts c w
  rw [runChallenge]
  cases hlocal : isWhiteListed c parts with
  | true =>
      refine ⟨_, _, rfl, .letIn ?_ ?_ (by rintro _ ⟨⟩) (.inl rfl)⟩
      · simp [passesOver, hlocal]
      · simp [fails, hlocal]
  | false =>
      rw [if_neg (by simp)]
      cases ht : c.challengeType with
      | captcha => exact runCaptcha_turn hv hquiet hlocal ht
      | shaInverse => exact runShaInverse_turn hv hquiet hlocal ht
      | auth => exact runAuth_turn hv hquiet hlocal ht

/-! ## What the loop does -/

/-- The loop has passed over some challenges, and solved a captcha among them or
not. -/
structure Passed (ip : Bytes) (solved : Bool) (w v : World) : Prop where
  still : w.Still ip v
  acquired : w.ipDb.AllAcquired → v.ipDb.AllAcquired
  record : w.ipDb.AllAcquired → v.record ip = if solved then 1 else w.record ip

theorem passed_of_quiet {w v : World} (h : w.Quiet v) (ip : Bytes) : Passed ip false w v :=
  ⟨h.still ip, h.acquired, fun _ => h.record ip⟩

theorem passed_of_succeeds {ip : Bytes} {w v : World} (h : Succeeds ip w v) :
    Passed ip true w v := by
  obtain ⟨u, hquiet, hquiet'⟩ := h
  refine ⟨((hquiet.still ip).trans (World.still_reportSuccess ip ip u)).trans (hquiet'.still ip),
    ?_, ?_⟩
  · intro hacq
    exact hquiet'.acquired (reportSuccess_acquired (hquiet.acquired hacq) ip)
  · intro hacq
    rw [hquiet'.record, reportSuccess_record (hquiet.acquired hacq)]
    simp

theorem Passed.trans {ip : Bytes} {b b' : Bool} {w v u : World} (h : Passed ip b w v)
    (h' : Passed ip b' v u) : Passed ip (b || b') w u := by
  refine ⟨h.still.trans h'.still, fun hacq => h'.acquired (h.acquired hacq), ?_⟩
  intro hacq
  rw [h'.record (h.acquired hacq), h.record hacq]
  cases b <;> cases b' <;> rfl

/-- A captcha is solved before the loop ends. -/
def solvedBefore (env : Env) (parts : TransactionParts) (cs : List HostChallengeSpec) : Bool :=
  (cs.takeWhile (M.passesOver env parts)).any (M.solves parts)

/-- How the loop ends: it has passed over all challenges, or it ends at the decisive
one. -/
inductive Ends (env : Env) (parts : TransactionParts) (cs : List HostChallengeSpec) (w : World) :
    Response → World → Prop where
  | through {v : World} : M.decisive env parts cs = none →
      Passed parts.ip.str (M.solvedBefore env parts cs) w v →
      Ends env parts cs w .goAheadNoComment (reportSuccess parts.ip.str v)
  | atChallenge {c : HostChallengeSpec} {v w' : World} {r : Response} :
      M.decisive env parts cs = some c →
      Passed parts.ip.str (M.solvedBefore env parts cs) w v →
      M.Turn env parts c v (some r) w' → Ends env parts cs w r w'

theorem runChallenges_ends (env : Env) (parts : TransactionParts) (cs : List HostChallengeSpec)
    (w : World) :
    ∃ r w', M.runChallenges env parts cs w = .ok (r, w') ∧ M.Ends env parts cs w r w' := by
  induction cs generalizing w with
  | nil => exact ⟨_, _, rfl, .through rfl (passed_of_quiet (.refl w) _)⟩
  | cons c cs ih =>
      obtain ⟨out, v, hrun, hturn⟩ := M.runChallenge_turn env parts c w
      rw [runChallenges, hrun, ok_bind]
      cases out with
      | some r =>
          have hpass : M.passesOver env parts c = false := by
            cases hturn <;> assumption
          refine ⟨r, v, rfl, .atChallenge (c := c) (v := w) ?_ ?_ hturn⟩
          · simp [decisive, hpass]
          · rw [solvedBefore, List.takeWhile_cons_of_neg (by simp [hpass])]
            exact passed_of_quiet (.refl w) _
      | none =>
          cases hturn with
          | passed hpass heffect =>
              have hstep : Passed parts.ip.str (M.solves parts c) w v := by
                cases hsolves : M.solves parts c with
                | true =>
                    rw [hsolves, if_pos rfl] at heffect
                    exact passed_of_succeeds heffect
                | false =>
                    rw [hsolves, if_neg (by simp)] at heffect
                    exact passed_of_quiet heffect _
              have hdecisive : M.decisive env parts (c :: cs) = M.decisive env parts cs := by
                simp [decisive, hpass]
              have hsolved : M.solvedBefore env parts (c :: cs) =
                  (M.solves parts c || M.solvedBefore env parts cs) := by
                rw [solvedBefore, List.takeWhile_cons_of_pos hpass]
                rfl
              obtain ⟨r, w', hrest, hends⟩ := ih v
              refine ⟨r, w', hrest, ?_⟩
              cases hends with
              | through hnone hpassed =>
                  exact .through (hdecisive.trans hnone) (hsolved ▸ hstep.trans hpassed)
              | atChallenge hsome hpassed hturn =>
                  exact .atChallenge (hdecisive.trans hsome) (hsolved ▸ hstep.trans hpassed) hturn

/-- A request for a captcha image or with an answer solves no captcha on the way. -/
theorem solvedBefore_of_isCaptchaRequest {env : Env} {parts : TransactionParts}
    (h : isCaptchaRequest parts = true) (cs : List HostChallengeSpec) :
    M.solvedBefore env parts cs = false := by
  rw [solvedBefore, List.any_eq_false]
  intro c hc
  have hpass : M.passesOver env parts c = true := List.mem_takeWhile_imp hc
  by_contra hsolves
  simp only [solves, Bool.and_eq_true, decide_eq_true_eq, Bool.not_eq_true'] at hsolves
  simp [passesOver, hsolves.1, hsolves.2, h] at hpass

end Challenger

end Banjax
