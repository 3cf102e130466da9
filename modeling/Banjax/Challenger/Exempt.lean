import Banjax.Challenger.Gate

/-!
# Globally white listed clients

An address on the global white list is spared the captchas and the proofs of work, not the
passwords.  `on_http_request` does this inside its loop, in two of the three cases and after
the white list of the challenge itself has been looked at.

The effect is that of taking these challenges out of the list
(`onHttpRequest_authOnly`): the answer, the records of failures and everything that is
reported or banned are those of the passwords alone.  The passwords stay a gate, whose answer
is that of the first one that does not let the request go on (`InForce`).
-/

namespace Banjax

open Lib

namespace Challenger

variable (M : Challenger)

/-- The challenges that ask for a password. -/
def authOnly (cs : List HostChallengeSpec) : List HostChallengeSpec :=
  cs.filter fun c => c.challengeType = .auth

/-- The challenger with another list of challenges for one host. -/
def withChallenges (host : Bytes) (cs : List HostChallengeSpec) : Challenger :=
  { M with hostChallengesStatic := M.hostChallengesStatic.insert host cs }

/-- A round does not look at the table. -/
theorem runChallenge_withChallenges (host : Bytes) (cs : List HostChallengeSpec) :
    (M.withChallenges host cs).runChallenge = M.runChallenge := rfl

theorem runChallenges_withChallenges (host : Bytes) (cs : List HostChallengeSpec) (env : Env)
    (parts : TransactionParts) (cs' : List HostChallengeSpec) (w : World) :
    (M.withChallenges host cs).runChallenges env parts cs' w =
      M.runChallenges env parts cs' w := by
  induction cs' generalizing w with
  | nil => rfl
  | cons c cs' ih =>
      rw [runChallenges, runChallenges, runChallenge_withChallenges]
      simp only [ih]

theorem onHttpRequest_withChallenges (env : Env) (parts : TransactionParts)
    (cs : List HostChallengeSpec) (w : World) :
    (M.withChallenges parts.host cs).onHttpRequest env parts w =
      M.runChallenges env parts cs w := by
  have hlookup : (M.withChallenges parts.host cs).challengesToRun env parts = some cs := by
    rw [challengesToRun, withChallenges, AList.lookup_insert]
  rw [onHttpRequest, hlookup]
  exact M.runChallenges_withChallenges parts.host cs env parts cs w

variable {M} {env : Env} {parts : TransactionParts}

/-- The break in two of the three cases. -/
theorem runChallenge_exempt {c : HostChallengeSpec}
    (hglobal : M.isGloballyWhiteListed parts.ip.str = true) (hne : c.challengeType ≠ .auth)
    (hlocal : isWhiteListed c parts = false) (w : World) :
    M.runChallenge env parts c w = .ok (none, w) := by
  rw [runChallenge, hlocal, if_neg (by simp)]
  cases ht : c.challengeType with
  | auth => exact absurd ht hne
  | captcha =>
      dsimp only
      rw [runCaptcha]
      exact if_pos hglobal
  | shaInverse =>
      dsimp only
      rw [runShaInverse]
      exact if_pos hglobal

/-- The loop passes over what is not a password. -/
theorem runChallenges_authOnly {cs : List HostChallengeSpec}
    (hglobal : M.isGloballyWhiteListed parts.ip.str = true)
    (hlocal : ∀ c ∈ cs, c.challengeType ≠ .auth → isWhiteListed c parts = false) (w : World) :
    M.runChallenges env parts cs w = M.runChallenges env parts (authOnly cs) w := by
  induction cs generalizing w with
  | nil => rfl
  | cons c cs ih =>
      have ih := fun w => ih (fun d hd => hlocal d (List.mem_cons_of_mem _ hd)) w
      by_cases ht : c.challengeType = .auth
      · have hkeep : authOnly (c :: cs) = c :: authOnly cs := by simp [authOnly, ht]
        rw [hkeep, runChallenges, runChallenges]
        simp only [ih]
      · have hdrop : authOnly (c :: cs) = authOnly cs := by simp [authOnly, ht]
        rw [hdrop, runChallenges,
          runChallenge_exempt hglobal ht (hlocal c (List.mem_cons_self ..) ht) w, ok_bind]
        exact ih w

/-! ## The passwords that are left -/

variable (M env parts) in
/-- A password lets the request go on.  It may have a white list of its own. -/
def letsOn (c : HostChallengeSpec) : Bool := !isWhiteListed c parts && M.passes env parts c

variable (M env parts) in
/-- The answer of a password that does not. -/
def EndsWith (c : HostChallengeSpec) (r : Response) : Prop :=
  if isWhiteListed c parts then r = .serveImmediatelyDontCache else M.Stops env parts c r

variable (M env parts) in
/-- The passwords decide about the request: it goes ahead when all of them let it go on, and the
first one that does not answers it. -/
structure InForce (cs : List HostChallengeSpec) (r : Response) : Prop where
  ahead : r = .goAheadNoComment ↔ ∀ c ∈ cs, M.letsOn env parts c = true
  answers : ∀ pre c post, cs = pre ++ c :: post → (∀ p ∈ pre, M.letsOn env parts p = true) →
    M.letsOn env parts c = false → M.EndsWith env parts c r

theorem EndsWith.ne_goAhead {c : HostChallengeSpec} (h : M.EndsWith env parts c .goAheadNoComment) :
    False := by
  rw [EndsWith, Stops] at h
  split at h
  · cases h
  · split at h
    · cases h
    · obtain ⟨d, hd, -⟩ := h
      cases hd

theorem inForce_nil : M.InForce env parts [] .goAheadNoComment where
  ahead := iff_of_true rfl nofun
  answers pre c post hcut := by simp at hcut

theorem InForce.cons {c : HostChallengeSpec} {cs : List HostChallengeSpec} {r : Response}
    (hc : M.letsOn env parts c = true) (h : M.InForce env parts cs r) :
    M.InForce env parts (c :: cs) r where
  ahead := by rw [h.ahead, List.forall_mem_cons, and_iff_right hc]
  answers pre c' post hcut hpre hc' := by
    cases pre with
    | nil =>
        cases hcut
        rw [hc] at hc'
        cases hc'
    | cons p pre =>
        cases hcut
        exact h.answers pre c' post rfl (fun q hq => hpre q (List.mem_cons_of_mem _ hq)) hc'

theorem inForce_of_ends {c : HostChallengeSpec} (cs : List HostChallengeSpec) {r : Response}
    (hc : M.letsOn env parts c = false) (h : M.EndsWith env parts c r) :
    M.InForce env parts (c :: cs) r where
  ahead := by
    refine iff_of_false ?_ fun hall => ?_
    · rintro rfl
      exact h.ne_goAhead
    · rw [hall c (List.mem_cons_self ..)] at hc
      cases hc
  answers pre c' post hcut hpre hc' := by
    cases pre with
    | nil =>
        cases hcut
        exact h
    | cons p pre =>
        cases hcut
        rw [hpre c (List.mem_cons_self ..)] at hc
        cases hc

variable (M env parts) in
/-- A round of a password. -/
theorem runChallenge_auth {c : HostChallengeSpec} (ht : c.challengeType = .auth) (w : World) :
    ∃ out w', M.runChallenge env parts c w = .ok (out, w') ∧
      (out = none → M.letsOn env parts c = true) ∧
      ∀ r, out = some r → M.letsOn env parts c = false ∧ M.EndsWith env parts c r := by
  cases hlocal : isWhiteListed c parts with
  | true =>
      refine ⟨some .serveImmediatelyDontCache, w, ?_, nofun, ?_⟩
      · rw [runChallenge, if_pos hlocal]
      · rintro _ ⟨⟩
        rw [letsOn, EndsWith, hlocal]
        exact ⟨rfl, rfl⟩
  | false =>
      obtain ⟨out, w', hrun, hround⟩ := M.runChallenge_round env parts c w
      refine ⟨out, w', hrun, ?_, ?_⟩
      · rintro rfl
        rw [letsOn, hlocal]
        cases hround with
        | skipped hne _ => exact absurd ht hne
        | solvedCaptcha ht' _ _ _ => simp [ht] at ht'
        | solvedSha ht' _ _ => simp [ht] at ht'
        | unprotected _ ha hn _ => simp [passes, ht, ha, hn]
      · rintro r rfl
        obtain ⟨hstops, hr⟩ := round_some hlocal hround
        rw [letsOn, EndsWith, hlocal, hstops]
        exact ⟨rfl, hr⟩

variable (M env parts) in
/-- The loop over passwords. -/
theorem runChallenges_inForce {cs : List HostChallengeSpec}
    (hauth : ∀ c ∈ cs, c.challengeType = .auth) (w : World) :
    ∃ r w', M.runChallenges env parts cs w = .ok (r, w') ∧ M.InForce env parts cs r := by
  induction cs generalizing w with
  | nil => exact ⟨_, _, rfl, inForce_nil⟩
  | cons c cs ih =>
      obtain ⟨out, v, hrun, hnone, hsome⟩ :=
        M.runChallenge_auth env parts (hauth c (List.mem_cons_self ..)) w
      rw [runChallenges, hrun, ok_bind]
      cases out with
      | some r =>
          obtain ⟨hc, hr⟩ := hsome r rfl
          exact ⟨r, v, rfl, inForce_of_ends cs hc hr⟩
      | none =>
          obtain ⟨r, w', hrest, hforce⟩ := ih (fun d hd => hauth d (List.mem_cons_of_mem _ hd)) v
          exact ⟨r, w', hrest, hforce.cons (hnone rfl)⟩

theorem type_of_mem_authOnly {cs : List HostChallengeSpec} {c : HostChallengeSpec}
    (h : c ∈ authOnly cs) : c.challengeType = .auth := by
  simpa using (List.mem_filter.mp h).2

/-- For an address on the global white list that no captcha and no proof of work lists by
itself, a request has the same answer and the same effects as on the passwords alone, and
these decide about it. -/
theorem onHttpRequest_authOnly {cs : List HostChallengeSpec}
    (hstatic : M.hostChallengesStatic.lookup parts.host = some cs)
    (hglobal : M.isGloballyWhiteListed parts.ip.str = true)
    (hlocal : ∀ c ∈ cs, c.challengeType ≠ .auth → isWhiteListed c parts = false) (w : World) :
    ∃ response w', M.onHttpRequest env parts w = .ok (response, w') ∧
      (M.withChallenges parts.host (authOnly cs)).onHttpRequest env parts w =
        .ok (response, w') ∧
      M.InForce env parts (authOnly cs) response := by
  have hrun : M.onHttpRequest env parts w = M.runChallenges env parts cs w := by
    rw [onHttpRequest, challengesToRun, hstatic]
  obtain ⟨response, w', hloop, hforce⟩ := M.runChallenges_inForce env parts
    (fun _ (h : _ ∈ authOnly cs) => type_of_mem_authOnly h) w
  refine ⟨response, w', ?_, ?_, hforce⟩
  · rw [hrun, runChallenges_authOnly hglobal hlocal, hloop]
  · rw [onHttpRequest_withChallenges, hloop]

/-- A challenger that spares 10.0.0.0/8 the captcha. -/
def sparing : Challenger :=
  { sampleChallenger [sampleCaptcha 2, sampleAuth (bytes "admin") 2] with
    globalWhiteList := some ⟨[(0x0a000000, 0xff000000)], []⟩ }

/-- A request to it from that range, for the page that needs the password. -/
theorem onHttpRequest_authOnly_sparing :
    ∃ response w',
      sparing.onHttpRequest (sampleEnv 0) (sampleParts ⟨10, 0, 0, 7⟩ (bytes "admin") []) .init =
        .ok (response, w') ∧
      (sparing.withChallenges (bytes "example.net")
        (authOnly [sampleCaptcha 2, sampleAuth (bytes "admin") 2])).onHttpRequest (sampleEnv 0)
          (sampleParts ⟨10, 0, 0, 7⟩ (bytes "admin") []) .init = .ok (response, w') ∧
      ∃ d, response = .iRespond d ∧ d.respondingChallenge = sampleAuth (bytes "admin") 2 := by
  obtain ⟨response, w', hrun, hrun', hforce⟩ := @onHttpRequest_authOnly sparing
    (sampleEnv 0) (sampleParts ⟨10, 0, 0, 7⟩ (bytes "admin") []) _
    (show _ = some [sampleCaptcha 2, sampleAuth (bytes "admin") 2] by decide +kernel)
    (by decide +kernel) (by decide +kernel) .init
  have hends := hforce.answers [] (sampleAuth (bytes "admin") 2) [] rfl nofun (by decide +kernel)
  rw [EndsWith, if_neg (by decide +kernel), Stops, if_neg (by decide +kernel)] at hends
  exact ⟨response, w', hrun, hrun', hends⟩

end Challenger

end Banjax
