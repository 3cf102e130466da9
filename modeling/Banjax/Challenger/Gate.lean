import Banjax.Challenger.Request

/-!
# The gate

For a client in no white list the challenges of a host are a gate: the answer is
that of the first challenge the request does not pass.  The three kinds of
challenges are passed in different ways (`passes`), and a password that is accepted
is no passing: it ends the loop with an answer of its own.
-/

namespace Banjax

open Lib

namespace Challenger

variable (M : Challenger)

/-- The request passes the challenge. -/
def passes (env : Env) (parts : TransactionParts) (c : HostChallengeSpec) : Bool :=
  match c.challengeType with
  | .captcha =>
      !isCaptchaUrl parts.urlWithHost && !isCaptchaAnswer parts.urlWithHost &&
        M.accepts env [] parts c
  | .shaInverse => M.accepts env [] parts c
  | .auth => !M.accepts env [] parts c && !M.needsAuthentication parts.urlWithHost c

/-- The request brings an accepted password. -/
def authorises (env : Env) (parts : TransactionParts) (c : HostChallengeSpec) : Bool :=
  c.challengeType = .auth && M.accepts env [] parts c

/-- The client is in no white list that concerns the challenges. -/
structure NotWhiteListed (parts : TransactionParts) (cs : List HostChallengeSpec) : Prop where
  globally : M.isGloballyWhiteListed parts.ip.str = false
  locally : ∀ c ∈ cs, isWhiteListed c parts = false

/-- The answer that the challenge gives when it is the first one not passed. -/
def Stops (env : Env) (parts : TransactionParts) (c : HostChallengeSpec) (r : Response) : Prop :=
  if M.authorises env parts c then r = .serveFresh
  else ∃ d, r = .iRespond d ∧ d.respondingChallenge = c

/-- The first challenge the request does not pass. -/
def firstUnpassed (env : Env) (parts : TransactionParts) (cs : List HostChallengeSpec) :
    Option HostChallengeSpec :=
  cs.find? fun c => !M.passes env parts c

variable {M} {env : Env} {parts : TransactionParts}

theorem firstUnpassed_eq_none_iff {cs : List HostChallengeSpec} :
    M.firstUnpassed env parts cs = none ↔ ∀ c ∈ cs, M.passes env parts c = true := by
  simp [firstUnpassed]

theorem firstUnpassed_eq_some_iff {cs : List HostChallengeSpec} {c : HostChallengeSpec} :
    M.firstUnpassed env parts cs = some c ↔ M.passes env parts c = false ∧
      ∃ pre post, cs = pre ++ c :: post ∧ ∀ p ∈ pre, M.passes env parts p = true := by
  simp [firstUnpassed, List.find?_eq_some_iff_append]

theorem authorises_iff {c : HostChallengeSpec} :
    M.authorises env parts c = true ↔
      c.challengeType = .auth ∧ M.accepts env [] parts c = true := by
  simp [authorises]

theorem passes_of_authorises {c : HostChallengeSpec} (h : M.authorises env parts c = true) :
    M.passes env parts c = false := by
  obtain ⟨ht, ha⟩ := authorises_iff.mp h
  simp [passes, ht, ha]

/-! ## The rounds as a gate -/

theorem round_none {c : HostChallengeSpec} {w w' : World}
    (hg : M.isGloballyWhiteListed parts.ip.str = false) (h : M.Round env parts c w none w') :
    M.passes env parts c = true := by
  cases h with
  | skipped _ hg' => simp [hg] at hg'
  | solvedCaptcha ht hu ha _ =>
      simp only [isCaptchaRequest, Bool.or_eq_false_iff] at hu
      simp [passes, ht, ha, hu]
  | solvedSha ht ha _ => simp [passes, ht, ha]
  | unprotected ht ha hn _ => simp [passes, ht, ha, hn]

theorem round_some {c : HostChallengeSpec} {w w' : World} {r : Response}
    (hl : isWhiteListed c parts = false) (h : M.Round env parts c w (some r) w') :
    M.passes env parts c = false ∧ M.Stops env parts c r := by
  cases h with
  | whiteListed hl' => simp [hl] at hl'
  | captchaRequest ht hu =>
      refine ⟨?_, ?_⟩
      · simp only [isCaptchaRequest, Bool.or_eq_true] at hu
        rcases hu with hu | hu
        · simp [passes, ht, hu]
        · simp [passes, ht, hu]
      · simp [Stops, authorises, ht, customResponse]
  | authorised ht ha _ => simp [Stops, authorises, passes, ht, ha]
  | failed hu ha hn _ hd _ _ =>
      refine ⟨?_, ?_⟩
      · cases ht : c.challengeType with
        | captcha => simp [passes, ht, ha]
        | shaInverse => simp [passes, ht, ha]
        | auth => simp [passes, ht, ha, hn ht]
      · rw [Stops, authorises, ha, Bool.and_false, if_neg (by simp)]
        exact ⟨_, rfl, hd⟩

/-- The place where the gate closes is unique. -/
theorem firstUnpassed_unique {pre post cs : List HostChallengeSpec} {c c' : HostChallengeSpec}
    (hfirst : M.firstUnpassed env parts cs = some c) (hcut : cs = pre ++ c' :: post)
    (hpre : ∀ p ∈ pre, M.passes env parts p = true) (hc' : M.passes env parts c' = false) :
    c' = c := by
  have h := firstUnpassed_eq_some_iff.mpr ⟨hc', pre, post, hcut, hpre⟩
  rw [hfirst] at h
  exact (Option.some.inj h).symm

/-- The loop answers as its first unpassed challenge does. -/
theorem loop_answer {cs : List HostChallengeSpec} {w w' : World} {r : Response}
    (hwl : M.NotWhiteListed parts cs) (h : M.Loop env parts cs w r w') :
    match M.firstUnpassed env parts cs with
    | none => r = .goAheadNoComment
    | some c => M.Stops env parts c r := by
  induction h with
  | done => rfl
  | @stop c cs w w' r hround =>
      obtain ⟨hp, hs⟩ := round_some (hwl.locally c (List.mem_cons_self ..)) hround
      rw [firstUnpassed, List.find?_cons_of_pos (by simp [hp])]
      exact hs
  | @next c cs w v w' r hround _ ih =>
      have hp := round_none hwl.globally hround
      rw [firstUnpassed, List.find?_cons_of_neg (by simp [hp])]
      exact ih ⟨hwl.globally, fun c' hc' => hwl.locally c' (List.mem_cons_of_mem _ hc')⟩

/-- The gate of a host.  The request goes ahead when it passes every challenge, is
served fresh when a password challenge is reached and accepts, and is answered by
the first challenge it does not pass otherwise. -/
theorem onHttpRequest_gate (M : Challenger) (env : Env) (parts : TransactionParts)
    {cs : List HostChallengeSpec} (w : World)
    (hstatic : M.hostChallengesStatic.lookup parts.host = some cs)
    (hwl : M.NotWhiteListed parts cs) :
    ∃ r w', M.onHttpRequest env parts w = .ok (r, w') ∧
      (r = .goAheadNoComment ↔ ∀ c ∈ cs, M.passes env parts c = true) ∧
      (r = .serveFresh ↔ ∃ pre c post, cs = pre ++ c :: post ∧
        (∀ p ∈ pre, M.passes env parts p = true) ∧ c.challengeType = .auth ∧
        M.accepts env [] parts c = true) ∧
      (∀ pre c post, cs = pre ++ c :: post → (∀ p ∈ pre, M.passes env parts p = true) →
        M.passes env parts c = false → ¬ (c.challengeType = .auth ∧ M.accepts env [] parts c = true) →
        ∃ d, r = .iRespond d ∧ d.respondingChallenge = c) ∧
      r ≠ .serveImmediatelyDontCache := by
  obtain ⟨r, w', hreq, hloop⟩ := M.onHttpRequest_loop env parts w
  rw [challengesToRun, hstatic] at hloop
  have hanswer := loop_answer hwl hloop
  refine ⟨r, w', hreq, ?_⟩
  cases hfirst : M.firstUnpassed env parts cs with
  | none =>
      rw [hfirst] at hanswer
      subst hanswer
      have hall := firstUnpassed_eq_none_iff.mp hfirst
      refine ⟨iff_of_true rfl hall, ⟨nofun, ?_⟩, ?_, nofun⟩
      · rintro ⟨pre, c, post, rfl, _, ht, ha⟩
        have hp := passes_of_authorises (authorises_iff.mpr ⟨ht, ha⟩)
        simp [hall c (by simp)] at hp
      · rintro pre c post rfl _ hp _
        simp [hall c (by simp)] at hp
  | some c =>
      simp only [hfirst, Stops] at hanswer
      obtain ⟨hc, pre, post, hcut, hpre⟩ := firstUnpassed_eq_some_iff.mp hfirst
      have hnone : ¬ ∀ c ∈ cs, M.passes env parts c = true := by
        rw [← firstUnpassed_eq_none_iff, hfirst]
        exact nofun
      cases hauth : M.authorises env parts c with
      | true =>
          rw [hauth, if_pos rfl] at hanswer
          subst hanswer
          obtain ⟨ht, ha⟩ := authorises_iff.mp hauth
          refine ⟨iff_of_false nofun hnone,
            iff_of_true rfl ⟨pre, c, post, hcut, hpre, ht, ha⟩, ?_, nofun⟩
          intro pre' c' post' hcut' hpre' hc' hno
          cases firstUnpassed_unique hfirst hcut' hpre' hc'
          exact absurd ⟨ht, ha⟩ hno
      | false =>
          rw [hauth, if_neg (by simp)] at hanswer
          obtain ⟨d, rfl, hd⟩ := hanswer
          refine ⟨iff_of_false nofun hnone, ⟨nofun, ?_⟩, ?_, nofun⟩
          · rintro ⟨pre', c', post', hcut', hpre', ht, ha⟩
            have hno := authorises_iff.mpr ⟨ht, ha⟩
            cases firstUnpassed_unique hfirst hcut' hpre' (passes_of_authorises hno)
            simp [hauth] at hno
          · intro pre' c' post' hcut' hpre' hc' _
            cases firstUnpassed_unique hfirst hcut' hpre' hc'
            exact ⟨d, rfl, hd⟩

/-- A first visit to a host with a password area and a captcha. -/
theorem onHttpRequest_gate_first_visit :
    ∃ r w', (sampleChallenger [sampleAuth (bytes "admin") 3, sampleCaptcha 3]).onHttpRequest
        (sampleEnv 100) (sampleParts ⟨10, 0, 0, 1⟩ [] []) World.init = .ok (r, w') ∧
      ∃ d, r = .iRespond d ∧ d.respondingChallenge = sampleCaptcha 3 := by
  obtain ⟨r, w', hreq, _, _, hstop, _⟩ :=
    onHttpRequest_gate (sampleChallenger [sampleAuth (bytes "admin") 3, sampleCaptcha 3])
      (sampleEnv 100) (sampleParts ⟨10, 0, 0, 1⟩ [] []) World.init rfl ⟨by decide, by decide⟩
  exact ⟨r, w', hreq, hstop [sampleAuth (bytes "admin") 3] _ [] rfl (by decide +kernel)
    (by decide +kernel) (by decide)⟩

end Challenger

end Banjax
