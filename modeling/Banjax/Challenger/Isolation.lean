import Banjax.Challenger.Response

/-!
# A request at the challenger, seen from the others

The challenger is run in two worlds that agree on the address of the request.  It
answers alike in both, its log grows by the same events, and it changes no record but
that of the address (`onHttpRequest_alike`, `generateResponse_alike`).

All operations on the record are made for the address of the request, so each of these
facts is read off the definition, along its branches.
-/

namespace Banjax

open Lib

/-- Two worlds have been worked on for one address: the records are alike and the logs
are equal, with bans of that address only. -/
structure World.Alike (ip : Bytes) (d₀ e₀ : IpDb UInt64) (w v : World) : Prop where
  ipDb : IpDb.Alike ip d₀ e₀ w.ipDb v.ipDb
  log : w.log = v.log
  bans : ∀ ip' reason, .ban ip' reason ∈ w.log → ip' = ip

namespace World.Alike

variable {ip : Bytes} {d₀ e₀ : IpDb UInt64} {w v : World}

theorem withIpDb (h : Alike ip d₀ e₀ w v) {d e : IpDb UInt64} (hd : IpDb.Alike ip d₀ e₀ d e) :
    Alike ip d₀ e₀ { w with ipDb := d } { v with ipDb := e } :=
  ⟨hd, h.log, h.bans⟩

theorem emit (h : Alike ip d₀ e₀ w v) {e : Event}
    (he : ∀ ip' reason, e = .ban ip' reason → ip' = ip) :
    Alike ip d₀ e₀ (w.emit e) (v.emit e) := by
  refine ⟨h.ipDb, ?_, ?_⟩
  · rw [World.emit_log, World.emit_log, h.log]
  · intro ip' reason hmem
    rcases List.mem_append.mp hmem with hmem | hmem
    · exact h.bans ip' reason hmem
    · exact he ip' reason (List.mem_singleton.mp hmem).symm

/-! ## Reports -/

theorem reportMessage (h : Alike ip d₀ e₀ w v) (M : Challenger)
    (passedName failedName site : Bytes) (passed : Bool) :
    Alike ip d₀ e₀ (M.reportMessage passedName failedName site ip passed w)
      (M.reportMessage passedName failedName site ip passed v) := by
  rw [Challenger.reportMessage, Challenger.reportMessage]
  split
  · exact h
  · rw [h.ipDb.getIpState.1, h.ipDb.getIpState.2]
    exact (h.withIpDb h.ipDb.tried).emit (by rintro _ _ ⟨⟩)

theorem reportPassOrFailure (h : Alike ip d₀ e₀ w v) (M : Challenger) (site : Bytes)
    (passed : Bool) :
    Alike ip d₀ e₀ (M.reportPassOrFailure site ip passed w)
      (M.reportPassOrFailure site ip passed v) :=
  h.reportMessage M _ _ site passed

theorem reportSuccess (h : Alike ip d₀ e₀ w v) :
    Alike ip d₀ e₀ (Banjax.reportSuccess ip w) (Banjax.reportSuccess ip v) :=
  (h.withIpDb (h.ipDb.setIpState 1)).emit (by rintro _ _ ⟨⟩)

theorem reportFailure {parts : TransactionParts} (h : Alike parts.ip.str d₀ e₀ w v)
    (c : HostChallengeSpec) :
    Agree (Alike parts.ip.str d₀ e₀) (Banjax.reportFailure c parts w)
      (Banjax.reportFailure c parts v) := by
  rw [Banjax.reportFailure, Banjax.reportFailure, h.ipDb.getIpState.1, h.ipDb.getIpState.2]
  have hcounted := (h.withIpDb h.ipDb.tried).emit (e := .failure parts.ip.str) (by rintro _ _ ⟨⟩)
  dsimp only
  split
  · refine ⟨rfl, ?_⟩
    have hbanned := hcounted.emit (e := .ban parts.ip.str
      (banningReason c parts (v.ipDb.stateOf parts.ip.str + 1))) (by rintro _ _ ⟨⟩; rfl)
    exact hbanned.withIpDb hbanned.ipDb.dropIp
  · exact ⟨rfl, hcounted.withIpDb (hcounted.ipDb.setIpState _)⟩

theorem countFailure {parts : TransactionParts} (h : Alike parts.ip.str d₀ e₀ w v)
    (c : HostChallengeSpec) :
    Agree (Alike parts.ip.str d₀ e₀) (Challenger.countFailure c parts w)
      (Challenger.countFailure c parts v) := by
  rw [Challenger.countFailure, Challenger.countFailure]
  split
  · exact h.reportFailure c
  · exact ⟨rfl, h⟩

end World.Alike

namespace Challenger

variable {M : Challenger} {env : Env} {parts : TransactionParts} {d₀ e₀ : IpDb UInt64}
  {w v : World}

/-! ## The request -/

theorem checkCookie_alike (h : World.Alike parts.ip.str d₀ e₀ w v) (answer : Bytes)
    (c : HostChallengeSpec) :
    Paired (Agree (World.Alike parts.ip.str d₀ e₀)) (M.checkCookie env answer parts c w)
      (M.checkCookie env answer parts c v) := by
  rw [checkCookie, checkCookie]
  split
  · exact .error
  · exact .ok ⟨rfl, h⟩
  · exact .ok ⟨rfl, h.reportMessage M _ _ _ _⟩

theorem runCaptcha_alike (h : World.Alike parts.ip.str d₀ e₀ w v) (c : HostChallengeSpec) :
    Paired (Agree (World.Alike parts.ip.str d₀ e₀)) (M.runCaptcha env parts c w)
      (M.runCaptcha env parts c v) := by
  rw [runCaptcha, runCaptcha]
  dsimp only
  split
  · exact .ok ⟨rfl, h⟩
  split
  · exact .ok ⟨rfl, h⟩
  split
  · exact .ok ⟨rfl, h⟩
  refine Paired.bindAgree (checkCookie_alike h [] c) ?_
  intro passed w₁ v₁ h₁
  cases passed with
  | true => exact .ok ⟨rfl, h₁.reportSuccess.reportPassOrFailure M _ true⟩
  | false =>
      obtain ⟨banned, w₂, v₂, hw, hv, h₂⟩ :=
        ((h₁.reportPassOrFailure M parts.host false).countFailure c).parts
      dsimp only
      rw [hw, hv]
      exact .ok ⟨rfl, h₂⟩

theorem runShaInverse_alike (h : World.Alike parts.ip.str d₀ e₀ w v) (c : HostChallengeSpec) :
    Paired (Agree (World.Alike parts.ip.str d₀ e₀)) (M.runShaInverse env parts c w)
      (M.runShaInverse env parts c v) := by
  rw [runShaInverse, runShaInverse]
  dsimp only
  split
  · exact .ok ⟨rfl, h⟩
  refine Paired.bindAgree (checkCookie_alike h [] c) ?_
  intro passed w₁ v₁ h₁
  cases passed with
  | true => exact .ok ⟨rfl, h₁.reportPassOrFailure M _ true⟩
  | false =>
      obtain ⟨banned, w₂, v₂, hw, hv, h₂⟩ :=
        ((h₁.reportPassOrFailure M parts.host false).countFailure c).parts
      dsimp only
      rw [hw, hv]
      exact .ok ⟨rfl, h₂⟩

theorem runAuth_alike (h : World.Alike parts.ip.str d₀ e₀ w v) (c : HostChallengeSpec) :
    Paired (Agree (World.Alike parts.ip.str d₀ e₀)) (M.runAuth env parts c w)
      (M.runAuth env parts c v) := by
  rw [runAuth, runAuth]
  refine Paired.bindAgree (checkCookie_alike h [] c) ?_
  intro passed w₁ v₁ h₁
  cases passed with
  | true => exact .ok ⟨rfl, h₁.reportSuccess.reportPassOrFailure M _ true⟩
  | false =>
      have hreported := h₁.reportPassOrFailure M parts.host false
      obtain ⟨banned, w₂, v₂, hw, hv, h₂⟩ := (hreported.countFailure c).parts
      cases M.needsAuthentication parts.urlWithHost c with
      | true =>
          dsimp only
          rw [hw, hv]
          exact .ok ⟨rfl, h₂⟩
      | false => exact .ok ⟨rfl, hreported⟩

theorem runChallenge_alike (h : World.Alike parts.ip.str d₀ e₀ w v) (c : HostChallengeSpec) :
    Paired (Agree (World.Alike parts.ip.str d₀ e₀)) (M.runChallenge env parts c w)
      (M.runChallenge env parts c v) := by
  rw [runChallenge, runChallenge]
  split
  · exact .ok ⟨rfl, h⟩
  · cases c.challengeType with
    | captcha => exact runCaptcha_alike h c
    | shaInverse => exact runShaInverse_alike h c
    | auth => exact runAuth_alike h c

theorem runChallenges_alike (h : World.Alike parts.ip.str d₀ e₀ w v)
    (cs : List HostChallengeSpec) :
    Paired (Agree (World.Alike parts.ip.str d₀ e₀)) (M.runChallenges env parts cs w)
      (M.runChallenges env parts cs v) := by
  induction cs generalizing w v with
  | nil => exact .ok ⟨rfl, h.reportSuccess⟩
  | cons c cs ih =>
      rw [runChallenges, runChallenges]
      refine Paired.bindAgree (runChallenge_alike h c) ?_
      intro out w₁ v₁ h₁
      cases out with
      | some r => exact .ok ⟨rfl, h₁⟩
      | none => exact ih h₁

theorem onHttpRequest_alike (h : World.Alike parts.ip.str d₀ e₀ w v) :
    Paired (Agree (World.Alike parts.ip.str d₀ e₀)) (M.onHttpRequest env parts w)
      (M.onHttpRequest env parts v) := by
  rw [onHttpRequest, onHttpRequest]
  split
  · exact .ok ⟨rfl, h⟩
  · exact runChallenges_alike h _

/-! ## The response -/

theorem generateImage_alike (h : World.Alike parts.ip.str d₀ e₀ w v)
    (d : ChallengerExtendedResponse) :
    Paired (Agree (Agree (World.Alike parts.ip.str d₀ e₀))) (M.generateImage env parts.ip.str d w)
      (M.generateImage env parts.ip.str d v) := by
  rw [generateImage, generateImage]
  cases generateCookie M.crypto (captchaText env.random) M.hashedKey (env.now + 120)
      parts.ip.str with
  | error fault => exact .error
  | ok cookie => exact .ok ⟨rfl, rfl, h.emit (by rintro _ _ ⟨⟩)⟩

theorem generateValidation_alike (h : World.Alike parts.ip.str d₀ e₀ w v) (t : Int64)
    (d : ChallengerExtendedResponse) :
    Paired (Agree (Agree (World.Alike parts.ip.str d₀ e₀)))
      (M.generateValidation env parts.ip.str t parts d w)
      (M.generateValidation env parts.ip.str t parts d v) := by
  rw [generateValidation, generateValidation]
  refine Paired.bindAgree (checkCookie_alike h _ _) ?_
  intro passed w₁ v₁ h₁
  cases passed with
  | true =>
      dsimp only
      cases generateCookie M.crypto [] M.hashedKey t parts.ip.str with
      | error fault => exact .error
      | ok cookie => exact .ok ⟨rfl, rfl, h₁.emit (by rintro _ _ ⟨⟩)⟩
  | false =>
      dsimp only
      rw [if_neg Bool.false_ne_true, if_neg Bool.false_ne_true]
      split
      · exact .ok ⟨rfl, rfl, h₁⟩
      · obtain ⟨banned, w₂, v₂, hw, hv, h₂⟩ := (h₁.reportFailure d.respondingChallenge).parts
        rw [hw, hv]
        exact .ok ⟨rfl, rfl, h₂⟩

theorem generatePage_alike (h : World.Alike parts.ip.str d₀ e₀ w v) (t : Int64) (url : Bytes)
    (d : ChallengerExtendedResponse) :
    Paired (Agree (Agree (World.Alike parts.ip.str d₀ e₀)))
      (M.generatePage env parts.ip.str t url d w) (M.generatePage env parts.ip.str t url d v) := by
  rw [generatePage, generatePage]
  dsimp only
  cases generateCookie M.crypto [] M.hashedKey t parts.ip.str with
  | error fault => exact .error
  | ok token =>
      refine .ok ⟨rfl, rfl, ?_⟩
      dsimp only
      split
      · exact h.emit (by rintro _ _ ⟨⟩)
      · exact h

theorem generateHtml_alike (h : World.Alike parts.ip.str d₀ e₀ w v) (t : Int64) (url : Bytes)
    (d : ChallengerExtendedResponse) :
    Paired (Agree (Agree (World.Alike parts.ip.str d₀ e₀)))
      (M.generateHtml env parts.ip.str t url parts d w)
      (M.generateHtml env parts.ip.str t url parts d v) := by
  rw [generateHtml, generateHtml]
  split
  · exact generateImage_alike h d
  · split
    · exact generateValidation_alike h t d
    · exact generatePage_alike h t url d

theorem generateResponse_alike (h : World.Alike parts.ip.str d₀ e₀ w v)
    (d : ChallengerExtendedResponse) :
    Paired (Agree (Agree (World.Alike parts.ip.str d₀ e₀))) (M.generateResponse env parts d w)
      (M.generateResponse env parts d v) := by
  rw [generateResponse, generateResponse]
  split
  · exact .ok ⟨rfl, rfl, h⟩
  · exact generateHtml_alike h _ _ d

end Challenger

end Banjax
