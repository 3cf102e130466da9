import Banjax.Challenger.Response
import Banjax.Challenger.Turn

/-!
# How often one transaction counts a failure

A request that fails its challenge is counted by `on_http_request`.  The response is
then made by `generate_html`, which looks at the URL and not at the challenge: a URL
with `__validate/` is taken for the answer to a captcha, checked as one, and counted
when the check fails.  For a captcha challenge the request is not counted, but for
the other two it is, and so one transaction counts two failures (`CountsTwice`).

The counter can also grow by two with one failure.  A request that solves a captcha
sets an empty record to one (`report_success`), and may then fail the next challenge
of the list (`CountsAfterSuccess`).

`transaction_failures` says that there is no third way.
-/

namespace Banjax

open Lib

namespace Challenger

variable (M : Challenger)

/-! ## What a transaction does, exactly -/

/-- What a transaction does, and at which challenge. -/
inductive Effect (env : Env) (parts : TransactionParts) (w : World) : World → Prop where
  /-- The request goes on. -/
  | calm {w' : World} :
      (∀ cs c, M.challengesToRun env parts = some cs → M.decisive env parts cs = some c →
        M.fails env parts c = false) →
      w.Still parts.ip.str w' →
      (w.ipDb.AllAcquired → w'.record parts.ip.str = 1 ∨
        w'.record parts.ip.str = w.record parts.ip.str) →
      Effect env parts w w'
  /-- A captcha is asked for, or an answer to one is given. -/
  | asked {cs : List HostChallengeSpec} {c : HostChallengeSpec} {v w' : World} :
      M.challengesToRun env parts = some cs → M.decisive env parts cs = some c →
      M.fails env parts c = false → isCaptchaRequest parts = true →
      Passed parts.ip.str (M.solvedBefore env parts cs) w v → M.Html env parts c v w' →
      Effect env parts w w'
  /-- The request fails and leads to a ban. -/
  | banned {cs : List HostChallengeSpec} {c : HostChallengeSpec} {v : World} :
      M.challengesToRun env parts = some cs → M.decisive env parts cs = some c →
      Passed parts.ip.str (M.solvedBefore env parts cs) w v →
      (countFailure c parts v).1 = true → Effect env parts w (countFailure c parts v).2
  /-- The request fails and a page is served. -/
  | failed {cs : List HostChallengeSpec} {c : HostChallengeSpec} {v w' : World} :
      M.challengesToRun env parts = some cs → M.decisive env parts cs = some c →
      M.fails env parts c = true → Passed parts.ip.str (M.solvedBefore env parts cs) w v →
      (countFailure c parts v).1 = false → ¬ Overflows env parts →
      M.Html env parts c (countFailure c parts v).2 w' → Effect env parts w w'

/-- A request that the challenger does not answer itself. -/
theorem effect_of_letIn {env : Env} {parts : TransactionParts} {cs : List HostChallengeSpec}
    {w w' : World} {r : Response} (hcs : M.challengesToRun env parts = some cs)
    (h : M.Ends env parts cs w r w') (hr : ∀ d, r ≠ .iRespond d) : M.Effect env parts w w' := by
  cases h with
  | through hnone hpassed =>
      refine .calm ?_ (hpassed.still.trans (World.still_reportSuccess ..)) ?_
      · intro cs' c hcs' hc
        rw [hcs] at hcs'
        cases hcs'
        rw [hnone] at hc
        cases hc
      · intro hacq
        rw [reportSuccess_record (hpassed.acquired hacq), if_pos rfl]
        exact .inl rfl
  | atChallenge hsome hpassed hturn =>
      cases hturn with
      | asked => exact absurd rfl (hr _)
      | failed => exact absurd rfl (hr _)
      | letIn hpass hfail _ heffect =>
          have hdecisive : ∀ cs' c', M.challengesToRun env parts = some cs' →
              M.decisive env parts cs' = some c' → M.fails env parts c' = false := by
            intro cs' c' hcs' hc'
            rw [hcs] at hcs'
            cases hcs'
            rw [hsome] at hc'
            cases hc'
            exact hfail
          have hend : ∃ b, Passed parts.ip.str b w w' := by
            rcases heffect with rfl | hsucc
            · exact ⟨_, hpassed⟩
            · exact ⟨_, hpassed.trans (passed_of_succeeds hsucc)⟩
          obtain ⟨b, hend⟩ := hend
          refine .calm hdecisive hend.still ?_
          intro hacq
          rw [hend.record hacq]
          cases b
          · exact .inr rfl
          · exact .inl rfl

/-- A transaction does one of these things, or its answer overflows the message. -/
theorem transaction_effect (env : Env) (parts : TransactionParts) (w : World) :
    (∃ r body w', M.transaction env parts w = .ok (r, body, w') ∧ M.Effect env parts w w') ∨
      (Overflows env parts ∧ M.transaction env parts w = .error .outOfBounds) := by
  rw [transaction, onHttpRequest]
  cases hcs : M.challengesToRun env parts with
  | none =>
      refine .inl ⟨_, _, _, rfl, .calm ?_ (.refl _ _) (fun _ => .inr rfl)⟩
      intro cs c hcs'
      rw [hcs] at hcs'
      cases hcs'
  | some cs =>
      obtain ⟨r, v, hrun, hends⟩ := M.runChallenges_ends env parts cs w
      dsimp only
      rw [hrun, ok_bind]
      cases r with
      | goAheadNoComment => exact .inl ⟨_, _, _, rfl, M.effect_of_letIn hcs hends (by rintro _ ⟨⟩)⟩
      | serveImmediatelyDontCache => exact .inl ⟨_, _, _, rfl, M.effect_of_letIn hcs hends (by rintro _ ⟨⟩)⟩
      | serveFresh => exact .inl ⟨_, _, _, rfl, M.effect_of_letIn hcs hends (by rintro _ ⟨⟩)⟩
      | iRespond d =>
          dsimp only
          cases hends with
          | atChallenge hsome hpassed hturn =>
              cases hturn with
              | letIn _ _ hr _ => exact absurd rfl (hr d)
              | asked _ hfail hreq =>
                  by_cases hover : Overflows env parts
                  · rw [generateResponse_overflow v rfl rfl hover]
                    exact .inr ⟨hover, rfl⟩
                  · obtain ⟨body, d', w', hgen, hhtml⟩ :=
                      generateResponse_html (M := M) (d := customResponse _) v rfl rfl hover
                    rw [hgen, ok_bind]
                    exact .inl ⟨_, _, _, rfl, .asked hcs hsome hfail hreq hpassed hhtml⟩
              | @failed u _ hpass hfail hcaptcha hquiet hresp hban halt =>
                  have hpassed' := hpassed.trans (passed_of_quiet hquiet _)
                  rw [Bool.or_false] at hpassed'
                  cases hb : (countFailure _ parts u).1 with
                  | true =>
                      rw [generateResponse, hban, hb, if_pos rfl]
                      exact .inl ⟨_, _, _, rfl, .banned hcs hsome hpassed' hb⟩
                  | false =>
                      by_cases hover : Overflows env parts
                      · rw [generateResponse_overflow _ (hban.trans hb) halt hover]
                        exact .inr ⟨hover, rfl⟩
                      · obtain ⟨body, d', w', hgen, hhtml⟩ :=
                          generateResponse_html (M := M) (countFailure _ parts u).2
                            (hban.trans hb) halt hover
                        rw [hgen, ok_bind]
                        rw [hresp] at hhtml
                        exact .inl ⟨_, _, _, rfl, .failed hcs hsome hfail hpassed' hb hover hhtml⟩

/-! ## At most one failure -/

/-- The transaction counts one failure at most, and the record of the address grows
by one at most unless a ban drops it. -/
def AtMostOneFailure (env : Env) (parts : TransactionParts) (w : World) : Prop :=
  ∀ r body w', M.transaction env parts w = .ok (r, body, w') →
    w'.failureCount parts.ip.str ≤ w.failureCount parts.ip.str + 1 ∧
    (w'.banCount parts.ip.str = w.banCount parts.ip.str →
      (w'.record parts.ip.str).toNat ≤ (w.record parts.ip.str).toNat + 1)

/-- The request fails a challenge that counts, and the response takes its URL for the
answer to a captcha and rejects it. -/
def RejectsAgain (env : Env) (parts : TransactionParts) : Prop :=
  ∃ cs c, M.challengesToRun env parts = some cs ∧ M.decisive env parts cs = some c ∧
    M.fails env parts c = true ∧ c.failToleranceThreshold ≠ 0 ∧
    isCaptchaUrl parts.urlWithHost = false ∧ isCaptchaAnswer parts.urlWithHost = true ∧
    M.accepts env (answerOf parts.urlWithHost) parts c = false

/-- In addition the answer fits into the message, and the first failure does not
ban. -/
def CountsTwice (env : Env) (parts : TransactionParts) (w : World) : Prop :=
  ∃ cs c, M.challengesToRun env parts = some cs ∧ M.decisive env parts cs = some c ∧
    M.fails env parts c = true ∧ c.failToleranceThreshold ≠ 0 ∧
    isCaptchaUrl parts.urlWithHost = false ∧ isCaptchaAnswer parts.urlWithHost = true ∧
    M.accepts env (answerOf parts.urlWithHost) parts c = false ∧ ¬ Overflows env parts ∧
    ¬ c.bansAt (w.record parts.ip.str)

/-- The request of an address without a record solves a captcha, and then fails a
challenge that counts and does not ban at once. -/
def CountsAfterSuccess (env : Env) (parts : TransactionParts) (w : World) : Prop :=
  ∃ cs c, M.challengesToRun env parts = some cs ∧ M.decisive env parts cs = some c ∧
    M.solvedBefore env parts cs = true ∧ M.fails env parts c = true ∧
    c.failToleranceThreshold ≠ 0 ∧ ¬ c.bansAt 1 ∧ w.record parts.ip.str = 0

section Html

variable {M} {env : Env} {parts : TransactionParts} {c : HostChallengeSpec} {w w' : World}

/-- A response counts a failure when it rejects an answer, and only then. -/
theorem Html.cases (h : M.Html env parts c w w') :
    (w.Still parts.ip.str w' ∧ w'.record parts.ip.str = w.record parts.ip.str ∧
        ¬ (isCaptchaUrl parts.urlWithHost = false ∧ isCaptchaAnswer parts.urlWithHost = true ∧
          M.accepts env (answerOf parts.urlWithHost) parts c = false)) ∨
      (isCaptchaUrl parts.urlWithHost = false ∧ isCaptchaAnswer parts.urlWithHost = true ∧
        M.accepts env (answerOf parts.urlWithHost) parts c = false ∧
        ∃ v, w.Quiet v ∧ w' = (countFailure c parts v).2) := by
  cases h with
  | image hu => exact .inl ⟨World.still_token .., rfl, by simp [hu]⟩
  | validated hu ha hacc hquiet =>
      exact .inl ⟨(hquiet.still _).trans (World.still_token ..), hquiet.record _, by simp [hacc]⟩
  | rejected hu ha hacc hquiet => exact .inr ⟨hu, ha, hacc, _, hquiet, rfl⟩
  | page hreq _ =>
      obtain ⟨hu, ha⟩ : isCaptchaUrl parts.urlWithHost = false ∧
          isCaptchaAnswer parts.urlWithHost = false := by simpa [isCaptchaRequest] using hreq
      exact .inl ⟨World.still_token .., rfl, by simp [ha]⟩
  | plainPage hreq _ =>
      obtain ⟨hu, ha⟩ : isCaptchaUrl parts.urlWithHost = false ∧
          isCaptchaAnswer parts.urlWithHost = false := by simpa [isCaptchaRequest] using hreq
      exact .inl ⟨.refl _ _, rfl, by simp [ha]⟩

/-- Whatever the mutex does, a response counts one failure at most. -/
theorem Html.failureCount_le (h : M.Html env parts c w w') :
    w'.failureCount parts.ip.str ≤ w.failureCount parts.ip.str +
      if c.failToleranceThreshold ≠ 0 then 1 else 0 := by
  rcases h.cases with ⟨hstill, -, -⟩ | ⟨-, -, -, v, hquiet, rfl⟩
  · rw [hstill.failures]
    exact Nat.le_add_right ..
  · rw [← (hquiet.still parts.ip.str).failures]
    exact failureCount_countFailure_le c parts v

end Html

/-- Whatever the locks do, a transaction counts two failures only when its response
rejects what the request has failed already. -/
theorem failureCount_transaction_le {env : Env} {parts : TransactionParts} {w w' : World}
    (h : M.Effect env parts w w') (hno : ¬ M.RejectsAgain env parts) :
    w'.failureCount parts.ip.str ≤ w.failureCount parts.ip.str + 1 := by
  cases h with
  | calm _ hstill _ =>
      rw [hstill.failures]
      exact Nat.le_succ _
  | @asked cs c v _ _ _ _ _ hpassed hhtml =>
      have hle := hhtml.failureCount_le
      rw [hpassed.still.failures] at hle
      split at hle <;> omega
  | @banned cs c v _ _ hpassed _ =>
      have hle := failureCount_countFailure_le c parts v
      rw [hpassed.still.failures] at hle
      split at hle <;> omega
  | @failed cs c v _ hcs hsome hfail hpassed _ _ hhtml =>
      have hle := failureCount_countFailure_le c parts v
      rw [hpassed.still.failures] at hle
      rcases hhtml.cases with ⟨hstill, -, -⟩ | ⟨hu, ha, hacc, u, hquiet, rfl⟩
      · rw [hstill.failures]
        split at hle <;> omega
      · -- The second count is made only when the challenge counts failures at all.
        have hzero : ¬ c.failToleranceThreshold ≠ 0 := by
          intro ht
          exact hno ⟨cs, c, hcs, hsome, hfail, ht, hu, ha, hacc⟩
        have hle' := failureCount_countFailure_le c parts u
        rw [if_neg hzero] at hle hle'
        rw [(hquiet.still parts.ip.str).failures] at hle'
        omega

/-! ## When every mutex is free -/

section Acquired

variable {M} {env : Env} {parts : TransactionParts} {w w' : World}

theorem toNat_raise_le (record : UInt64) : (record + 1).toNat ≤ record.toNat + 1 := by
  rw [UInt64.toNat_add, UInt64.toNat_one]
  exact Nat.mod_le _ _

/-- One failure is counted once, and raises the record by one. -/
theorem countFailure_once (hacq : w.ipDb.AllAcquired) (c : HostChallengeSpec)
    (hban : (countFailure c parts w).2.banCount parts.ip.str = w.banCount parts.ip.str) :
    ((countFailure c parts w).2.record parts.ip.str).toNat ≤
      (w.record parts.ip.str).toNat + 1 := by
  rw [banCount_countFailure hacq] at hban
  rw [record_countFailure hacq]
  by_cases ht : c.failToleranceThreshold ≠ 0
  · have hno : ¬ c.bansAt (w.record parts.ip.str) := by
      intro hb
      rw [if_pos ⟨ht, hb⟩] at hban
      omega
    rw [if_pos ht, if_neg hno]
    exact toNat_raise_le _
  · rw [if_neg ht]
    exact Nat.le_succ _

/-- A first failure that does not ban is counted when the challenge counts. -/
theorem countFailure_unbanned (hacq : w.ipDb.AllAcquired) {c : HostChallengeSpec}
    (hb : (countFailure c parts w).1 = false) :
    (countFailure c parts w).2.banCount parts.ip.str = w.banCount parts.ip.str ∧
      (countFailure c parts w).2.record parts.ip.str =
        if c.failToleranceThreshold ≠ 0 then w.record parts.ip.str + 1
        else w.record parts.ip.str := by
  rw [countFailure_fst hacq, decide_eq_false_iff_not] at hb
  refine ⟨?_, ?_⟩
  · rw [banCount_countFailure hacq, if_neg hb]
    rfl
  · rw [record_countFailure hacq]
    split
    · next ht => rw [if_neg (fun hbans => hb ⟨ht, hbans⟩)]
    · rfl

/-- One failure at most, and a record that has grown by one at most unless there was a
ban. -/
def Once (ip : Bytes) (w w' : World) : Prop :=
  w'.failureCount ip ≤ w.failureCount ip + 1 ∧
    (w'.banCount ip = w.banCount ip → (w'.record ip).toNat ≤ (w.record ip).toNat + 1)

section Responses

variable {cs : List HostChallengeSpec} {c : HostChallengeSpec} {v : World}
  (hacq : w.ipDb.AllAcquired)
  (hpassed : Passed parts.ip.str (M.solvedBefore env parts cs) w v)

include hacq hpassed

/-- A request for a captcha image or with an answer finds the record as it was. -/
theorem record_of_isCaptchaRequest (hreq : isCaptchaRequest parts = true) :
    v.record parts.ip.str = w.record parts.ip.str := by
  rw [hpassed.record hacq, M.solvedBefore_of_isCaptchaRequest hreq]
  rfl

/-- A request that asks for a captcha, or brings an answer, counts in its response. -/
theorem once_of_asked (hreq : isCaptchaRequest parts = true) (hhtml : M.Html env parts c v w') :
    Once parts.ip.str w w' := by
  have hrecord := record_of_isCaptchaRequest hacq hpassed hreq
  rcases hhtml.cases with ⟨hstill, hkept, -⟩ | ⟨-, -, -, u, hquiet, rfl⟩
  · refine ⟨by rw [hstill.failures, hpassed.still.failures]; exact Nat.le_succ _, fun _ => ?_⟩
    rw [hkept, hrecord]
    exact Nat.le_succ _
  · have hpassed' := hpassed.trans (passed_of_quiet hquiet _)
    refine ⟨?_, fun hban => ?_⟩
    · rw [failureCount_countFailure (hpassed'.acquired hacq), hpassed'.still.failures]
      split <;> omega
    · rw [← hpassed'.still.bans] at hban
      rw [← hrecord, ← hquiet.record]
      exact countFailure_once (hpassed'.acquired hacq) c hban

/-- A failure that bans drops the record. -/
theorem once_of_banned (hb : (countFailure c parts v).1 = true) :
    Once parts.ip.str w (countFailure c parts v).2 := by
  have hacq' := hpassed.acquired hacq
  rw [countFailure_fst hacq', decide_eq_true_iff] at hb
  refine ⟨?_, fun hban => ?_⟩
  · rw [failureCount_countFailure hacq', hpassed.still.failures, if_pos hb.1]
  · rw [banCount_countFailure hacq', if_pos hb, hpassed.still.bans] at hban
    omega

/-- A failure that does not ban raises the record by one, unless a success has set the
record of an address that had none. -/
theorem record_failed_le (hb : (countFailure c parts v).1 = false)
    (hafter : M.solvedBefore env parts cs = true → c.failToleranceThreshold ≠ 0 →
      ¬ c.bansAt 1 → w.record parts.ip.str ≠ 0) :
    ((countFailure c parts v).2.record parts.ip.str).toNat ≤
      (w.record parts.ip.str).toNat + 1 := by
  have hacq' := hpassed.acquired hacq
  rw [(countFailure_unbanned hacq' hb).2]
  rw [countFailure_fst hacq', decide_eq_false_iff_not] at hb
  rw [hpassed.record hacq] at hb ⊢
  cases hsolved : M.solvedBefore env parts cs with
  | false =>
      rw [if_neg Bool.false_ne_true]
      split
      · exact toNat_raise_le _
      · exact Nat.le_succ _
  | true =>
      rw [hsolved] at hb
      rw [if_pos (rfl : true = true)]
      split
      · next ht =>
        -- An address with a record has one failure or more already.
        have hsome : w.record parts.ip.str ≠ 0 := hafter hsolved ht fun hbans => hb ⟨ht, hbans⟩
        have hpos : (w.record parts.ip.str).toNat ≠ 0 := fun h0 => hsome (UInt64.toNat_inj.mp h0)
        have htwo := toNat_raise_le 1
        rw [UInt64.toNat_one] at htwo
        omega
      · rw [UInt64.toNat_one]
        exact Nat.le_add_left ..

/-- A failure that does not ban, and a response after it that does not count. -/
theorem once_of_failed (hb : (countFailure c parts v).1 = false)
    (hhtml : M.Html env parts c (countFailure c parts v).2 w')
    (htwice : isCaptchaUrl parts.urlWithHost = false → isCaptchaAnswer parts.urlWithHost = true →
      M.accepts env (answerOf parts.urlWithHost) parts c = false →
      ¬ c.bansAt (w.record parts.ip.str) → ¬ c.failToleranceThreshold ≠ 0)
    (hafter : M.solvedBefore env parts cs = true → c.failToleranceThreshold ≠ 0 →
      ¬ c.bansAt 1 → w.record parts.ip.str ≠ 0) : Once parts.ip.str w w' := by
  have hacq' := hpassed.acquired hacq
  have hcount := failureCount_countFailure hacq' c parts
  rw [hpassed.still.failures] at hcount
  have hle := record_failed_le hacq hpassed hb hafter
  rcases hhtml.cases with ⟨hstill, hkept, -⟩ | ⟨hu, ha, hacc, u, hquiet, rfl⟩
  · refine ⟨by rw [hstill.failures, hcount]; split <;> omega, fun _ => ?_⟩
    rw [hkept]
    exact hle
  · have hzero : ¬ c.failToleranceThreshold ≠ 0 := by
      intro ht
      refine htwice hu ha hacc ?_ ht
      rw [countFailure_fst hacq', decide_eq_false_iff_not,
        record_of_isCaptchaRequest hacq hpassed (by simp [isCaptchaRequest, ha])] at hb
      exact fun hbans => hb ⟨ht, hbans⟩
    have hacqu := hquiet.acquired (acquired_countFailure hacq' c parts)
    refine ⟨?_, fun _ => ?_⟩
    · rw [failureCount_countFailure hacqu, if_neg hzero, (hquiet.still _).failures, hcount,
        if_neg hzero]
      omega
    · rw [record_countFailure hacqu, if_neg hzero, hquiet.record]
      exact hle

end Responses

/-- A transaction that does neither of the two things counts at most one failure. -/
theorem atMostOne_of_effect (hacq : w.ipDb.AllAcquired) (h : M.Effect env parts w w')
    (htwice : ¬ M.CountsTwice env parts w) (hafter : ¬ M.CountsAfterSuccess env parts w) :
    Once parts.ip.str w w' := by
  cases h with
  | calm _ hstill hrecord =>
      refine ⟨by rw [hstill.failures]; exact Nat.le_succ _, fun _ => ?_⟩
      rcases hrecord hacq with h | h
      · rw [h, UInt64.toNat_one]
        exact Nat.le_add_left ..
      · rw [h]
        exact Nat.le_succ _
  | asked _ _ _ hreq hpassed hhtml => exact once_of_asked hacq hpassed hreq hhtml
  | banned _ _ hpassed hb => exact once_of_banned hacq hpassed hb
  | @failed cs c v _ hcs hsome hfail hpassed hb hover hhtml =>
      refine once_of_failed hacq hpassed hb hhtml ?_ ?_
      · intro hu ha hacc hno ht
        exact htwice ⟨cs, c, hcs, hsome, hfail, ht, hu, ha, hacc, hover, hno⟩
      · intro hsolved ht hno hzero
        exact hafter ⟨cs, c, hcs, hsome, hsolved, hfail, ht, hno, hzero⟩

/-- The effect of a transaction that fails its decisive challenge, without a ban. -/
theorem Effect.of_fails {cs : List HostChallengeSpec} {c : HostChallengeSpec}
    (h : M.Effect env parts w w') (hacq : w.ipDb.AllAcquired)
    (hcs : M.challengesToRun env parts = some cs) (hsome : M.decisive env parts cs = some c)
    (hfail : M.fails env parts c = true)
    (hno : ¬ c.bansAt (if M.solvedBefore env parts cs then 1 else w.record parts.ip.str)) :
    ∃ v, Passed parts.ip.str (M.solvedBefore env parts cs) w v ∧
      (countFailure c parts v).1 = false ∧ M.Html env parts c (countFailure c parts v).2 w' := by
  have hsame : ∀ {cs' c'}, M.challengesToRun env parts = some cs' →
      M.decisive env parts cs' = some c' → cs' = cs ∧ c' = c := by
    intro cs' c' hcs' hsome'
    rw [hcs] at hcs'
    cases hcs'
    rw [hsome] at hsome'
    cases hsome'
    exact ⟨rfl, rfl⟩
  cases h with
  | calm hnone _ _ =>
      rw [hnone cs c hcs hsome] at hfail
      cases hfail
  | asked hcs' hsome' hfail' _ _ _ =>
      obtain ⟨rfl, rfl⟩ := hsame hcs' hsome'
      rw [hfail'] at hfail
      cases hfail
  | banned hcs' hsome' hpassed hb =>
      obtain ⟨rfl, rfl⟩ := hsame hcs' hsome'
      rw [countFailure_fst (hpassed.acquired hacq), decide_eq_true_iff, hpassed.record hacq] at hb
      exact absurd hb.2 hno
  | failed hcs' hsome' _ hpassed hb _ hhtml =>
      obtain ⟨rfl, rfl⟩ := hsame hcs' hsome'
      exact ⟨_, hpassed, hb, hhtml⟩

theorem not_atMostOne_of_twice (hacq : w.ipDb.AllAcquired) (h : M.CountsTwice env parts w) :
    ¬ M.AtMostOneFailure env parts w := by
  obtain ⟨cs, c, hcs, hsome, hfail, ht, hu, ha, hacc, hover, hno⟩ := h
  have hreq : isCaptchaRequest parts = true := by simp [isCaptchaRequest, ha]
  intro hone
  rcases M.transaction_effect env parts w with ⟨r, body, w', hrun, heffect⟩ | ⟨h, -⟩
  · obtain ⟨v, hpassed, hb, hhtml⟩ := heffect.of_fails hacq hcs hsome hfail
      (by rw [M.solvedBefore_of_isCaptchaRequest hreq]; exact hno)
    have hacq' := hpassed.acquired hacq
    have hcount := failureCount_countFailure hacq' c parts
    rcases hhtml.cases with ⟨-, -, hnot⟩ | ⟨-, -, -, u, hquiet, rfl⟩
    · exact hnot ⟨hu, ha, hacc⟩
    · have hacqu := hquiet.acquired (acquired_countFailure hacq' c parts)
      have hle := (hone r body _ hrun).1
      rw [failureCount_countFailure hacqu, (hquiet.still _).failures, hcount,
        hpassed.still.failures, if_pos ht] at hle
      omega
  · exact hover h

theorem not_atMostOne_of_afterSuccess (hacq : w.ipDb.AllAcquired)
    (h : M.CountsAfterSuccess env parts w) : ¬ M.AtMostOneFailure env parts w := by
  obtain ⟨cs, c, hcs, hsome, hsolved, hfail, ht, hno, hzero⟩ := h
  -- A captcha is solved only by a request that does not ask for one.
  have hreq : isCaptchaRequest parts = false := by
    by_contra hreq
    rw [M.solvedBefore_of_isCaptchaRequest (by simpa using hreq)] at hsolved
    cases hsolved
  have ha : isCaptchaAnswer parts.urlWithHost = false := by
    simp only [isCaptchaRequest, Bool.or_eq_false_iff] at hreq
    exact hreq.2
  intro hone
  rcases M.transaction_effect env parts w with ⟨r, body, w', hrun, heffect⟩ | ⟨⟨-, ha', -⟩, -⟩
  · obtain ⟨v, hpassed, hb, hhtml⟩ := heffect.of_fails hacq hcs hsome hfail
      (by rw [hsolved]; exact hno)
    obtain ⟨hbans, hrecord⟩ := countFailure_unbanned (hpassed.acquired hacq) hb
    rcases hhtml.cases with ⟨hstill, hkept, -⟩ | ⟨-, ha', -, -⟩
    · have hle := (hone r body w' hrun).2 (by rw [hstill.bans, hbans, hpassed.still.bans])
      rw [hkept, hrecord, if_pos ht, hpassed.record hacq, hsolved, hzero] at hle
      exact absurd hle (by decide)
    · rw [ha] at ha'
      cases ha'
  · rw [ha] at ha'
    cases ha'

end Acquired

/-- How often a transaction counts a failure.  Whatever the locks do, it counts one at
most unless the response rejects a request that has failed already.  When every mutex
is free, it counts one failure at most and the record grows by one at most exactly
when neither of the two things happens: the response rejects a request that has been
counted and not banned, or an address without a record solves a captcha first. -/
theorem transaction_failures (env : Env) (parts : TransactionParts) (w : World) :
    (¬ M.RejectsAgain env parts → ∀ r body w', M.transaction env parts w = .ok (r, body, w') →
      w'.failureCount parts.ip.str ≤ w.failureCount parts.ip.str + 1) ∧
    (w.ipDb.AllAcquired → (M.AtMostOneFailure env parts w ↔
      ¬ M.CountsTwice env parts w ∧ ¬ M.CountsAfterSuccess env parts w)) := by
  have heffect : ∀ {r body w'}, M.transaction env parts w = .ok (r, body, w') →
      M.Effect env parts w w' := by
    intro r body w' hrun
    rcases M.transaction_effect env parts w with ⟨r', body', w'', h, heffect⟩ | ⟨-, h⟩
    · rw [hrun] at h
      cases h
      exact heffect
    · rw [hrun] at h
      cases h
  constructor
  · intro hno r body w' hrun
    exact M.failureCount_transaction_le (heffect hrun) hno
  · intro hacq
    constructor
    · intro hone
      exact ⟨fun h => not_atMostOne_of_twice hacq h hone,
        fun h => not_atMostOne_of_afterSuccess hacq h hone⟩
    · rintro ⟨htwice, hafter⟩ r body w' hrun
      exact atMostOne_of_effect hacq (heffect hrun) htwice hafter

/-- A plain request that fails the proof of work is counted once. -/
theorem transaction_failures_plain :
    (sampleChallenger [sampleSha 5]).AtMostOneFailure (sampleEnv 100)
      (sampleParts ⟨10, 0, 0, 1⟩ [] []) World.init := by
  have h := (sampleChallenger [sampleSha 5]).transaction_failures (sampleEnv 100)
    (sampleParts ⟨10, 0, 0, 1⟩ [] []) World.init
  refine (h.2 IpDb.empty_allAcquired).mpr ⟨?_, ?_⟩
  · rintro ⟨cs, c, -, -, -, -, -, ha, -⟩
    exact absurd ha (by decide +kernel)
  · rintro ⟨cs, c, hcs, -, hsolved, -⟩
    cases hcs
    exact absurd hsolved (by decide +kernel)

/-- A request for `__validate/x` without a cookie, at a host with a proof of work: the
request is counted, and then its response. -/
theorem transaction_counts_twice :
    ∃ r body w', (sampleChallenger [sampleSha 5]).transaction (sampleEnv 100)
        (sampleParts ⟨10, 0, 0, 1⟩ (bytes "__validate/x") []) World.init = .ok (r, body, w') ∧
      w'.failureCount (inetNtoa ⟨10, 0, 0, 1⟩) = 2 ∧ w'.record (inetNtoa ⟨10, 0, 0, 1⟩) = 2 ∧
      ¬ (sampleChallenger [sampleSha 5]).AtMostOneFailure (sampleEnv 100)
        (sampleParts ⟨10, 0, 0, 1⟩ (bytes "__validate/x") []) World.init := by
  have hrun : ((sampleChallenger [sampleSha 5]).transaction (sampleEnv 100)
      (sampleParts ⟨10, 0, 0, 1⟩ (bytes "__validate/x") []) World.init).toOption.any
        (fun out => out.2.2.failureCount (inetNtoa ⟨10, 0, 0, 1⟩) = 2 &&
          out.2.2.record (inetNtoa ⟨10, 0, 0, 1⟩) = 2) = true := by
    decide +kernel
  cases htrans : (sampleChallenger [sampleSha 5]).transaction (sampleEnv 100)
      (sampleParts ⟨10, 0, 0, 1⟩ (bytes "__validate/x") []) World.init with
  | error fault =>
      rw [htrans] at hrun
      cases hrun
  | ok out =>
      obtain ⟨r, body, w'⟩ := out
      rw [htrans] at hrun
      obtain ⟨hcount, hrecord⟩ : w'.failureCount (inetNtoa ⟨10, 0, 0, 1⟩) = 2 ∧
          w'.record (inetNtoa ⟨10, 0, 0, 1⟩) = 2 := by
        simpa [Except.toOption] using hrun
      refine ⟨r, body, w', rfl, hcount, hrecord, ?_⟩
      intro hone
      have hle : w'.failureCount (inetNtoa ⟨10, 0, 0, 1⟩) ≤ 0 + 1 := (hone r body w' htrans).1
      omega

end Challenger

end Banjax
