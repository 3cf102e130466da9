import Banjax.Challenger.Gate
import Banjax.Challenger.Record
import Banjax.Challenger.Response

/-!
# The failure budget

Runs of requests of one client that solves nothing.  At a host whose challenges have
the threshold `N`, the client should be banned by its `N`-th failure.  `report_success`
is called in three places, and two of them follow an accepted cookie.  The third one
is behind the loop of `on_http_request`, which a request also gets to when the only
challenges are for passwords and the URL is not protected.  Such a request sets a
record above one back to one.

`budget_of_stopped` says that nothing else spoils the budget.  In a run without such
requests the record falls at bans only and no client has more than `N` failures
before one.
-/

namespace Banjax

open Lib

/-! ## The invariant -/

/-- The failures of the address since its last ban. -/
def failuresSinceBan (ip : Bytes) (log : List Event) : Nat :=
  failuresSince ip (Event.isBanOf ip) log

/-- The record of the address covers its failures, which are within the budget. -/
structure Budget (ip : Bytes) (N : Nat) (w : World) : Prop where
  acquired : w.ipDb.AllAcquired
  noOverflow : (w.record ip).toNat < 2 ^ 32
  covered : failuresSinceBan ip w.log ≤ (w.record ip).toNat
  within : failuresSinceBan ip w.log < N
  prefixes : ∀ p, p <+: w.log → failuresSinceBan ip p ≤ N

/-- From the first world to the second the record grows, or the address is banned. -/
def RecordKept (ip : Bytes) (w w' : World) : Prop :=
  ∃ es, w'.log = w.log ++ es ∧
    ((w.record ip).toNat ≤ (w'.record ip).toNat ∨ ∃ reason, Event.ban ip reason ∈ es)

theorem RecordKept.trans {ip : Bytes} {w₁ w₂ w₃ : World} (h : RecordKept ip w₁ w₂)
    (h' : RecordKept ip w₂ w₃) : RecordKept ip w₁ w₃ := by
  obtain ⟨es, hes, hkept⟩ := h
  obtain ⟨es', hes', hkept'⟩ := h'
  refine ⟨es ++ es', by rw [hes', hes, List.append_assoc], ?_⟩
  rcases hkept with hle | ⟨reason, hban⟩
  · rcases hkept' with hle' | ⟨reason, hban⟩
    · exact .inl (hle.trans hle')
    · exact .inr ⟨reason, List.mem_append_right _ hban⟩
  · exact .inr ⟨reason, List.mem_append_left _ hban⟩

theorem RecordKept.asksBan {ip : Bytes} {w w' : World} (h : RecordKept ip w w') :
    (w.record ip).toNat ≤ (w'.record ip).toNat ∨ AsksBan ip w w' := by
  obtain ⟨es, hes, hle | hban⟩ := h
  · exact .inl hle
  · refine .inr ?_
    rw [AsksBan, hes, List.drop_left]
    exact hban

/-- The budget after one step, and the record on the way. -/
structure Spends (ip : Bytes) (N : Nat) (w w' : World) : Prop where
  budget : Budget ip N w'
  kept : RecordKept ip w w'

theorem Spends.trans {ip : Bytes} {N : Nat} {w₁ w₂ w₃ : World} (h : Spends ip N w₁ w₂)
    (h' : Spends ip N w₂ w₃) : Spends ip N w₁ w₃ := ⟨h'.budget, h.kept.trans h'.kept⟩

/-! ## What the operations spend -/

section Operations

variable {ip : Bytes} {N : Nat} {w : World}

/-- A longer log has the prefixes of the shorter one and itself. -/
theorem prefixes_snoc {log : List Event} {e : Event}
    (h : ∀ p, p <+: log → failuresSinceBan ip p ≤ N)
    (he : failuresSinceBan ip (log ++ [e]) ≤ N) :
    ∀ p, p <+: log ++ [e] → failuresSinceBan ip p ≤ N := by
  intro p hp
  rcases List.prefix_concat_iff.mp hp with rfl | hp
  · exact he
  · exact h p hp

/-- An event that is neither a failure nor a ban of the address. -/
theorem failuresSinceBan_snoc_other (log : List Event) {e : Event} (hf : e ≠ .failure ip)
    (hb : e.isBanOf ip = false) : failuresSinceBan ip (log ++ [e]) = failuresSinceBan ip log := by
  rw [failuresSinceBan, failuresSince_snoc, if_neg hf, hb, if_neg (by simp)]
  rfl

theorem failuresSinceBan_snoc_failure (log : List Event) :
    failuresSinceBan ip (log ++ [.failure ip]) = failuresSinceBan ip log + 1 := by
  rw [failuresSinceBan, failuresSince_snoc, if_pos rfl]
  rfl

theorem failuresSinceBan_snoc_ban (log : List Event) (reason : Bytes) :
    failuresSinceBan ip (log ++ [.ban ip reason]) = 0 := by
  simp [failuresSinceBan, Event.isBanOf]

/-- Events that are neither failures nor bans cost nothing. -/
theorem spends_events {w' : World} (h : Budget ip N w) (hacq : w'.ipDb.AllAcquired)
    (hrec : (w.record ip).toNat ≤ (w'.record ip).toNat) (hlt : (w'.record ip).toNat < 2 ^ 32)
    {es : List Event} (hlog : w'.log = w.log ++ es)
    (hes : ∀ e ∈ es, e ≠ .failure ip ∧ e.isBanOf ip = false) : Spends ip N w w' := by
  have hcount : ∀ fs, (∀ e ∈ fs, e ≠ Event.failure ip ∧ e.isBanOf ip = false) →
      failuresSinceBan ip (w.log ++ fs) = failuresSinceBan ip w.log ∧
        ∀ p, p <+: w.log ++ fs → failuresSinceBan ip p ≤ N := by
    intro fs
    induction fs using List.reverseRecOn with
    | nil => exact fun _ => by simpa using h.prefixes
    | append_singleton fs e ih =>
        intro hfs
        obtain ⟨heq, hpre⟩ := ih fun e he => hfs e (List.mem_append_left _ he)
        obtain ⟨hf, hb⟩ := hfs e (by simp)
        rw [← List.append_assoc]
        have hone := failuresSinceBan_snoc_other (w.log ++ fs) hf hb
        exact ⟨hone.trans heq, prefixes_snoc hpre (by rw [hone, heq]; exact h.within.le)⟩
  obtain ⟨heq, hpre⟩ := hcount es hes
  refine ⟨⟨hacq, hlt, ?_, ?_, ?_⟩, es, hlog, .inl hrec⟩
  · rw [hlog, heq]
    exact h.covered.trans hrec
  · rw [hlog, heq]
    exact h.within
  · rw [hlog]
    exact hpre

theorem spends_quiet {w' : World} (h : Budget ip N w) (hq : w.Quiet w') : Spends ip N w w' := by
  obtain ⟨es, hlog, hrep⟩ := hq.log
  have hrec := hq.record ip
  refine spends_events h (hq.acquired h.acquired) (by rw [hrec]) (by rw [hrec]; exact h.noOverflow)
    hlog ?_
  intro e he
  cases e with
  | report => exact ⟨nofun, rfl⟩
  | _ => exact absurd (hrep _ he) (by simp [Event.isReport])

theorem spends_token (h : Budget ip N w) (origin : Origin) (t : Int64) (ip' captcha : Bytes) :
    Spends ip N w (w.emit (.token origin t ip' captcha)) :=
  spends_events h h.acquired le_rfl h.noOverflow rfl (by simp [Event.isBanOf])

/-- A success costs nothing while the record is at most one. -/
theorem spends_success (h : Budget ip N w) (hrec : (w.record ip).toNat ≤ 1) :
    Spends ip N w (reportSuccess ip w) := by
  have hone : (reportSuccess ip w).record ip = 1 := by
    rw [reportSuccess_record h.acquired, if_pos rfl]
  refine spends_events h (reportSuccess_acquired h.acquired ip) ?_ ?_ (reportSuccess_log ip w) ?_
  · rw [hone]
    exact hrec
  · rw [hone]
    decide
  · simp [Event.isBanOf]

/-- A failure is counted, and the last one of the budget is a ban. -/
theorem spends_failure (h : Budget ip N w) {challenge : HostChallengeSpec}
    {parts : TransactionParts} (hip : parts.ip.str = ip)
    (hthr : challenge.failToleranceThreshold.toNat = N) :
    Spends ip N w (Challenger.countFailure challenge parts w).2 := by
  subst hip
  have hnonzero : challenge.failToleranceThreshold ≠ 0 := by
    intro h0
    rw [h0] at hthr
    exact absurd h.within (by rw [← hthr]; exact Nat.not_lt_zero _)
  have hfar : (w.record parts.ip.str).toNat < 2 ^ 64 - 1 := h.noOverflow.trans (by decide)
  have hbans := bansAt_iff challenge hfar
  rw [hthr] at hbans
  have hpre := prefixes_snoc h.prefixes
    (show failuresSinceBan parts.ip.str (w.log ++ [.failure parts.ip.str]) ≤ N by
      rw [failuresSinceBan_snoc_failure]
      exact h.within)
  have hacq := reportFailure_acquired h.acquired challenge parts
  have hlog := reportFailure_log h.acquired challenge parts
  have hrec := reportFailure_record h.acquired challenge parts parts.ip.str
  rw [if_pos rfl] at hrec
  rw [Challenger.countFailure, if_pos hnonzero]
  by_cases hb : challenge.bansAt (w.record parts.ip.str)
  · rw [if_pos hb] at hlog hrec
    refine ⟨⟨hacq, ?_, ?_, ?_, ?_⟩, _, hlog,
      .inr ⟨_, List.mem_cons_of_mem _ (List.mem_cons_self ..)⟩⟩
    · rw [hrec]
      decide
    · rw [hlog, List.append_cons, failuresSinceBan_snoc_ban]
      exact Nat.zero_le _
    · rw [hlog, List.append_cons, failuresSinceBan_snoc_ban]
      exact Nat.zero_lt_of_lt h.within
    · rw [hlog, List.append_cons]
      exact prefixes_snoc hpre (by rw [failuresSinceBan_snoc_ban]; exact Nat.zero_le _)
  · rw [if_neg hb] at hlog hrec
    have hraise := toNat_raise hfar
    have hbelow : (w.record parts.ip.str).toNat + 1 < N :=
      Nat.lt_of_not_le fun hle => hb (hbans.mpr hle)
    refine ⟨⟨hacq, ?_, ?_, ?_, ?_⟩, _, hlog, .inl ?_⟩
    · rw [hrec, hraise]
      exact hbelow.trans (hthr ▸ challenge.failToleranceThreshold.toNat_lt)
    · rw [hlog, failuresSinceBan_snoc_failure, hrec, hraise]
      exact Nat.succ_le_succ h.covered
    · rw [hlog, failuresSinceBan_snoc_failure]
      exact (Nat.succ_le_succ h.covered).trans_lt hbelow
    · rw [hlog]
      exact hpre
    · rw [hrec, hraise]
      exact Nat.le_succ _

end Operations

/-! ## Visits that solve nothing -/

/-- A visit of the client that is not white listed and whose cookie is accepted for
no challenge, neither without an answer nor with the one in its URL. -/
structure Failing (ip : Bytes) (cs : List HostChallengeSpec) (x : Visit) : Prop where
  address : x.parts.ip.str = ip
  static : x.challenger.hostChallengesStatic.lookup x.parts.host = some cs
  notWhiteListed : x.challenger.NotWhiteListed x.parts cs
  withoutAnswer : ∀ c ∈ cs, x.challenger.accepts x.env [] x.parts c = false
  withAnswer : ∀ c ∈ cs,
    x.challenger.accepts x.env (Challenger.answerOf x.parts.urlWithHost) x.parts c = false

/-- Some challenge stops the request: it is not one for passwords, or it is one and
the URL is protected.  Or the record is low enough not to be lowered. -/
def Stopped (ip : Bytes) (cs : List HostChallengeSpec) (w : World) (x : Visit) : Prop :=
  (∃ c ∈ cs, c.challengeType = .auth →
    x.challenger.needsAuthentication x.parts.urlWithHost c = true) ∨ (w.record ip).toNat ≤ 1

/-- What the loop does with a request that solves nothing. -/
inductive LoopFails (x : Visit) (cs : List HostChallengeSpec) (w : World) :
    Challenger.Response → World → Prop where
  | through {v : World} : (∀ c ∈ cs, c.challengeType = .auth ∧
      x.challenger.needsAuthentication x.parts.urlWithHost c = false) → w.Quiet v →
      LoopFails x cs w .goAheadNoComment (reportSuccess x.parts.ip.str v)
  | captchaRequest {d : ChallengerExtendedResponse} {v : World} : d.respondingChallenge ∈ cs →
      d.bannedIp = false → w.Quiet v → LoopFails x cs w (.iRespond d) v
  | counted {d : ChallengerExtendedResponse} {v : World} : d.respondingChallenge ∈ cs →
      w.Quiet v → d.bannedIp = (Challenger.countFailure d.respondingChallenge x.parts v).1 →
      LoopFails x cs w (.iRespond d) (Challenger.countFailure d.respondingChallenge x.parts v).2

/-- A loop behind a challenge that lets the request through. -/
theorem LoopFails.cons {x : Visit} {c : HostChallengeSpec} {cs : List HostChallengeSpec}
    {w v w' : World} {r : Challenger.Response} (hq : w.Quiet v) (ht : c.challengeType = .auth)
    (hn : x.challenger.needsAuthentication x.parts.urlWithHost c = false)
    (h : LoopFails x cs v r w') : LoopFails x (c :: cs) w r w' := by
  cases h with
  | through hall hq' =>
      refine .through ?_ (hq.trans hq')
      intro c' hc'
      rcases List.mem_cons.mp hc' with rfl | hc'
      · exact ⟨ht, hn⟩
      · exact hall c' hc'
  | captchaRequest hd hban hq' =>
      exact .captchaRequest (List.mem_cons_of_mem _ hd) hban (hq.trans hq')
  | counted hd hq' hban => exact .counted (List.mem_cons_of_mem _ hd) (hq.trans hq') hban

theorem loop_fails {x : Visit} {cs : List HostChallengeSpec} {w w' : World}
    {r : Challenger.Response} (hwl : x.challenger.NotWhiteListed x.parts cs)
    (hrej : ∀ c ∈ cs, x.challenger.accepts x.env [] x.parts c = false)
    (h : x.challenger.Loop x.env x.parts cs w r w') : LoopFails x cs w r w' := by
  induction h with
  | done => exact .through nofun (.refl _)
  | @stop c cs w w' r hround =>
      have hl := hwl.locally c (List.mem_cons_self ..)
      have ha := hrej c (List.mem_cons_self ..)
      cases hround with
      | whiteListed hl' => simp [hl] at hl'
      | captchaRequest _ _ => exact .captchaRequest (List.mem_cons_self ..) rfl (.refl _)
      | authorised _ ha' _ => simp [ha] at ha'
      | failed _ _ _ hq hd hban _ =>
          subst hd
          exact .counted (List.mem_cons_self ..) hq hban
  | @next c cs w v w' r hround _ ih =>
      have ha := hrej c (List.mem_cons_self ..)
      have hrest := ih ⟨hwl.globally, fun c' hc' => hwl.locally c' (List.mem_cons_of_mem _ hc')⟩
        fun c' hc' => hrej c' (List.mem_cons_of_mem _ hc')
      cases hround with
      | skipped _ hg => simp [hwl.globally] at hg
      | solvedCaptcha _ _ ha' _ => simp [ha] at ha'
      | solvedSha _ ha' _ => simp [ha] at ha'
      | unprotected ht _ hn hq => exact hrest.cons hq ht hn

/-- A response to a request that solves nothing. -/
theorem html_fails {ip : Bytes} {N : Nat} {cs : List HostChallengeSpec} {x : Visit}
    {c : HostChallengeSpec} {w w' : World} (hx : Failing ip cs x) (hc : c ∈ cs)
    (hthr : c.failToleranceThreshold.toNat = N) (hw : Budget ip N w)
    (h : x.challenger.Html x.env x.parts c w w') : Spends ip N w w' := by
  cases h with
  | image _ => exact spends_token hw ..
  | validated _ _ ha _ => simp [hx.withAnswer c hc] at ha
  | rejected _ _ _ hq =>
      have hv := spends_quiet hw hq
      exact hv.trans (spends_failure hv.budget hx.address hthr)
  | page _ _ => exact spends_token hw ..
  | plainPage _ _ => exact spends_quiet hw (.refl w)

/-- One visit that solves nothing and is stopped. -/
theorem serve_spends {ip : Bytes} {N : Nat} {cs : List HostChallengeSpec} {x : Visit}
    {w w' : World} (hthr : ∀ c ∈ cs, c.failToleranceThreshold.toNat = N) (hw : Budget ip N w)
    (hx : Failing ip cs x) (hstop : Stopped ip cs w x) (h : x.serve w = .ok w') :
    Spends ip N w w' := by
  have hrun : x.challenger.challengesToRun x.env x.parts = some cs := by
    rw [Challenger.challengesToRun, hx.static]
  -- The loop alone, with what its answer says about a ban.
  have hloop : ∀ r v, x.challenger.Loop x.env x.parts cs w r v → Spends ip N w v ∧
      ∀ d, r = .iRespond d → d.respondingChallenge ∈ cs := by
    intro r v hl
    cases loop_fails hx.notWhiteListed hx.withoutAnswer hl with
    | through hall hq =>
        have hv := spends_quiet hw hq
        rcases hstop with ⟨c, hc, hneeds⟩ | hlow
        · obtain ⟨ht, hn⟩ := hall c hc
          simp [hneeds ht] at hn
        · refine ⟨hv.trans ?_, by rintro _ ⟨⟩⟩
          rw [hx.address]
          exact spends_success hv.budget (by rw [hq.record]; exact hlow)
    | captchaRequest hd _ hq =>
        refine ⟨spends_quiet hw hq, ?_⟩
        rintro _ ⟨⟩
        exact hd
    | counted hd hq _ =>
        have hv := spends_quiet hw hq
        refine ⟨hv.trans (spends_failure hv.budget hx.address (hthr _ hd)), ?_⟩
        rintro _ ⟨⟩
        exact hd
  cases Visit.served_of_serve h with
  | unchallenged hnone => simp [hrun] at hnone
  | letThrough hcs hl _ =>
      cases hrun.symm.trans hcs
      exact (hloop _ _ hl).1
  | banned hcs hl _ =>
      cases hrun.symm.trans hcs
      exact (hloop _ _ hl).1
  | answered hcs hl _ hhtml =>
      cases hrun.symm.trans hcs
      obtain ⟨hv, hd⟩ := hloop _ _ hl
      exact hv.trans (html_fails hx (hd _ rfl) (hthr _ (hd _ rfl)) hv.budget hhtml)

/-! ## Runs -/

/-- The records a run may start from. -/
structure BudgetStart (ip : Bytes) (w : World) : Prop where
  acquired : w.ipDb.AllAcquired
  noOverflow : (w.record ip).toNat < 2 ^ 32
  log : w.log = []

/-- In a run of visits that solve nothing and are all stopped, no client has more than
`N` failures before a ban, and the record falls at bans only. -/
theorem budget_of_stopped {ip : Bytes} {N : Nat} {cs : List HostChallengeSpec} (hN : 1 ≤ N)
    (hthr : ∀ c ∈ cs, c.failToleranceThreshold.toNat = N) {w₀ w : World} {xs : List Visit}
    (hstart : BudgetStart ip w₀)
    (h : Reaches Visit.serve (fun w x => Failing ip cs x ∧ Stopped ip cs w x) w₀ xs w) :
    failuresSinceBan ip w.log < N ∧ (∀ p, p <+: w.log → failuresSinceBan ip p ≤ N) ∧
      ∀ x w', Failing ip cs x → Stopped ip cs w x → x.serve w = .ok w' →
        (w.record ip).toNat ≤ (w'.record ip).toNat ∨ AsksBan ip w w' := by
  have hbudget : Budget ip N w := by
    refine h.invariant (P := fun _ w => Budget ip N w) ?_ ?_
    · refine ⟨hstart.acquired, hstart.noOverflow, ?_, ?_, ?_⟩
      · rw [hstart.log]
        exact Nat.zero_le _
      · rw [hstart.log]
        exact hN
      · rw [hstart.log]
        intro p hp
        cases List.prefix_nil.mp hp
        exact Nat.zero_le _
    · intro _ x a b _ ha hq hs
      exact (serve_spends hthr ha hq.1 hq.2 hs).budget
  refine ⟨hbudget.within, hbudget.prefixes, ?_⟩
  intro x w' hx hstop hs
  exact (serve_spends hthr hbudget hx hstop hs).kept.asksBan

/-- A visit to a password area at `example.net`, or to another page there. -/
def sampleAuthVisit (path : Bytes) : Visit where
  challenger := sampleChallenger [sampleAuth (bytes "admin") 3]
  env := sampleEnv 100
  parts := sampleParts ⟨10, 0, 0, 1⟩ path []

theorem failing_sampleAuthVisit (path : Bytes) :
    Failing (bytes "10.0.0.1") [sampleAuth (bytes "admin") 3] (sampleAuthVisit path) where
  address := show inetNtoa ⟨10, 0, 0, 1⟩ = bytes "10.0.0.1" by decide
  static := rfl
  notWhiteListed := ⟨rfl, by simp [Challenger.isWhiteListed, sampleAuth]⟩
  withoutAnswer := by
    simp only [List.mem_singleton, forall_eq]
    rfl
  withAnswer := by
    simp only [List.mem_singleton, forall_eq]
    rfl

theorem stopped_sampleAuthVisit (w : World) :
    Stopped (bytes "10.0.0.1") [sampleAuth (bytes "admin") 3] w (sampleAuthVisit (bytes "admin")) :=
  .inl ⟨sampleAuth (bytes "admin") 3, by simp, fun _ => by decide +kernel⟩

/-- Two visits to the password area. -/
theorem budget_of_two_failures :
    ∃ w, Reaches Visit.serve (fun w x =>
        Failing (bytes "10.0.0.1") [sampleAuth (bytes "admin") 3] x ∧
          Stopped (bytes "10.0.0.1") [sampleAuth (bytes "admin") 3] w x) World.init
        [sampleAuthVisit (bytes "admin"), sampleAuthVisit (bytes "admin")] w ∧
      failuresSinceBan (bytes "10.0.0.1") w.log < 3 := by
  obtain ⟨w, hreach, _⟩ := Reaches.of_check Visit.serve
    [sampleAuthVisit (bytes "admin"), sampleAuthVisit (bytes "admin")] (p := fun _ => true)
    (s := World.init)
    (Q := fun w x => Failing (bytes "10.0.0.1") [sampleAuth (bytes "admin") 3] x ∧
      Stopped (bytes "10.0.0.1") [sampleAuth (bytes "admin") 3] w x)
    (by
      intro ys x zs w hcut _
      have hx : x ∈ [sampleAuthVisit (bytes "admin"), sampleAuthVisit (bytes "admin")] := by
        rw [hcut]
        simp
      simp only [List.mem_cons, List.not_mem_nil, or_false, or_self] at hx
      subst hx
      exact ⟨failing_sampleAuthVisit _, stopped_sampleAuthVisit w⟩)
    (by decide +kernel)
  exact ⟨w, hreach, (budget_of_stopped (by decide) (by simp [sampleAuth])
    ⟨IpDb.empty_allAcquired, by decide, rfl⟩ hreach).1⟩

/-- Visits to the password area with a look at another page whenever the record is
two. -/
def samplePatientRun : List Visit :=
  [sampleAuthVisit (bytes "admin"), sampleAuthVisit (bytes "admin"), sampleAuthVisit [],
    sampleAuthVisit (bytes "admin"), sampleAuthVisit [], sampleAuthVisit (bytes "admin")]

/-- Four failures and no ban at the threshold three. -/
theorem budget_reset_by_unprotected_page :
    ∃ w, Reaches Visit.serve
        (fun _ x => Failing (bytes "10.0.0.1") [sampleAuth (bytes "admin") 3] x) World.init
        samplePatientRun w ∧
      failuresSinceBan (bytes "10.0.0.1") w.log = 4 := by
  have hvisit : ∀ x ∈ samplePatientRun,
      Failing (bytes "10.0.0.1") [sampleAuth (bytes "admin") 3] x := by
    intro x hx
    simp only [samplePatientRun, List.mem_cons, List.not_mem_nil, or_false] at hx
    rcases hx with rfl | rfl | rfl | rfl | rfl | rfl <;> exact failing_sampleAuthVisit _
  obtain ⟨w, hreach, hcount⟩ := Reaches.of_check Visit.serve samplePatientRun
    (p := fun w => decide (failuresSinceBan (bytes "10.0.0.1") w.log = 4))
    (fun ys x zs (_ : World) hcut _ => hvisit x (by rw [hcut]; simp))
    (s := World.init) (by decide +kernel)
  exact ⟨w, hreach, of_decide_eq_true hcount⟩

end Banjax
