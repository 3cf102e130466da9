import Banjax.Regex.Hits

/-!
# Wiping the history of a rule

A hit that comes more than two intervals after the beginning of the window should find
nothing left of the old rate.  `try_match` does not look at the time for this: it takes
off the share of the rate that the movement has passed, and starts anew when what is
left is negative.  With a movement `m` over an interval `i` that happens when
`1 < rate * (m - i)`, so a low rate outlives its window for a while
(`hit_eq_fresh_iff`).
-/

namespace Banjax

open Lib

namespace RegexState

/-- The state after a single hit in a new window. -/
def fresh (rule : RatedRegex ℚ) (curTimeMsec : Int) : RegexState ℚ :=
  ⟨curTimeMsec - rule.interval, 1 / rule.interval⟩

/-- `time_window_movement`. -/
def movement (rule : RatedRegex ℚ) (curTimeMsec : Int) (state : RegexState ℚ) : Int :=
  curTimeMsec - state.beginMsec - rule.interval

/-- What is left of a rate after a movement of `m` is negative, or is the rate of the
hit alone. -/
theorem rate_left {i m rate : ℚ} (hi : 0 < i) (hm : i < m) (h0 : 0 ≤ rate) :
    (if rate - (rate * m - 1) / i < 0 then 1 / i else rate - (rate * m - 1) / i) = 1 / i ↔
      rate = 0 ∨ 1 < rate * (m - i) := by
  have hleft : rate - (rate * m - 1) / i = (1 - rate * (m - i)) / i := by
    field_simp
    ring
  rw [hleft]
  by_cases hneg : 1 < rate * (m - i)
  · rw [if_pos (div_neg_of_neg_of_pos (by linarith) hi)]
    simp [hneg]
  · have hpos : 0 ≤ (1 - rate * (m - i)) / i := div_nonneg (by linarith) hi.le
    rw [if_neg (not_lt.mpr hpos), div_left_inj' hi.ne']
    have hmi : m - i ≠ 0 := (sub_pos.mpr hm).ne'
    constructor
    · intro heq
      have hzero : rate * (m - i) = 0 := by linarith
      exact .inl ((mul_eq_zero.mp hzero).resolve_right hmi)
    · rintro (rfl | hgt)
      · ring
      · exact absurd hgt hneg

/-- A late hit wipes the history exactly when the old rate was zero or more than one
hit has left the window. -/
theorem hit_eq_fresh_iff {rule : RatedRegex ℚ} {s : RegexState ℚ} {t : Int} (hi : 0 < rule.interval)
    (h0 : 0 ≤ s.rate) (hbegin : s.beginMsec ≠ 0) (hlate : rule.interval < s.movement rule t) :
    s.hit rule t = fresh rule t ↔
      s.rate = 0 ∨ 1 < s.rate * ((s.movement rule t : ℚ) - rule.interval) := by
  have hi' : (0 : ℚ) < rule.interval := Nat.cast_pos.mpr hi
  have hm : (rule.interval : ℚ) < s.movement rule t := by exact_mod_cast hlate
  have hpos : 0 < t - s.beginMsec - rule.interval := by
    rw [movement] at hlate
    omega
  have hstart : s.beginMsec + (t - s.beginMsec - rule.interval) = t - rule.interval := by omega
  rw [← rate_left hi' hm h0, hit_rat, if_neg hbegin]
  dsimp only
  rw [if_pos hpos, hstart, fresh, mk.injEq, and_iff_right rfl]
  rfl

end RegexState

namespace RegexManager

variable {M : RegexManager ℚ}

/-- What `try_match` leaves of a rule after a late hit, whenever it stores the hit:
always when no other rule ends the request and no host is skipped. -/
theorem tryMatch_wipes_iff {db : RegexDb ℚ} (hsound : M.Sound db) {rule : RatedRegex ℚ}
    (hrule : rule ∈ M.ratedBanningRegexes) (hrate : rule.rate ≠ 0) (hi : 0 < rule.interval)
    (r : RegexRequest) (hhit : M.isHit rule r = true) (h0 : 0 ≤ (M.ruleState db r.ip rule).rate)
    (hbegin : (M.ruleState db r.ip rule).beginMsec ≠ 0)
    (hlate : rule.interval < (M.ruleState db r.ip rule).movement rule r.curTimeMsec) :
    ∃ out db', M.tryMatch db r = .ok (out, db') ∧
      (M.Alone rule r out → M.ruleState db' r.ip rule ≠ M.ruleState db r.ip rule) ∧
      (M.ruleState db' r.ip rule ≠ M.ruleState db r.ip rule →
        (M.ruleState db' r.ip rule = .fresh rule r.curTimeMsec ↔
          (M.ruleState db r.ip rule).rate = 0 ∨
            1 < (M.ruleState db r.ip rule).rate *
              (((M.ruleState db r.ip rule).movement rule r.curTimeMsec : ℚ) - rule.interval))) := by
  have hsimple : ¬ rule.IsSimple := fun h0 => hrate (RatedRegex.isSimple_rat.mp h0)
  obtain ⟨out, db', hrun, _, heffect, _⟩ := tryMatch_effect hsound hrule hsimple r
  refine ⟨out, db', hrun, ?_, ?_⟩
  · intro halone
    rw [(heffect.alone halone hhit).1]
    exact RegexState.hit_ne_self hi _ _
  · intro hstored
    rcases heffect.kept with hkept | ⟨_, hkept⟩
    · exact absurd hkept hstored
    · rw [hkept]
      exact RegexState.hit_eq_fresh_iff hi h0 hbegin hlate

/-- One hit at the beginning of a window of one second. -/
def sampleSeen (beginMsec : Int) (rate : ℚ) : RegexDb ℚ :=
  (IpDb.empty.setIpState (bytes "10.0.0.1") [⟨beginMsec, rate⟩]).2

theorem sampleSeen_sound (beginMsec : Int) (rate : ℚ) :
    sampleRegexManager.Sound (sampleSeen beginMsec rate) :=
  (stores_set (sound_empty sampleRegexManager) (List.cons_ne_nil _ _) rfl).sound

theorem sampleSeen_state (beginMsec : Int) (rate : ℚ) :
    sampleRegexManager.ruleState (sampleSeen beginMsec rate) (bytes "10.0.0.1") sampleRule =
      ⟨beginMsec, rate⟩ := by
  have hstores : sampleRegexManager.Stores (bytes "10.0.0.1") IpDb.empty
      (sampleSeen beginMsec rate) (some [⟨beginMsec, rate⟩]) :=
    stores_set (sound_empty sampleRegexManager) (List.cons_ne_nil _ _) rfl
  rw [ruleState, hstores.own]
  rfl

theorem sampleSeen_alone (t : Int) {out : Option (RatedRegex ℚ)}
    (hout : ∀ q ∈ out, q ∈ sampleRegexManager.ratedBanningRegexes) :
    sampleRegexManager.Alone sampleRule (sampleHit t) out where
  unskipped := by
    intro q hq
    cases List.mem_singleton.mp hq
    exact List.not_mem_nil
  unbanned := fun q hq => List.mem_singleton.mp (hout q hq)

/-- Two hits in a second, and one 2,600 milliseconds after the beginning of the window:
the movement is 1,600 and the old rate is gone. -/
theorem tryMatch_wipes_two_hits :
    ∃ out db', sampleRegexManager.tryMatch (sampleSeen 1000 (2 / 1000)) (sampleHit 3600) =
        .ok (out, db') ∧
      sampleRegexManager.ruleState db' (bytes "10.0.0.1") sampleRule = ⟨2600, 1 / 1000⟩ := by
  have hstate : sampleRegexManager.ruleState (sampleSeen 1000 (2 / 1000)) (sampleHit 3600).ip
      sampleRule = ⟨1000, 2 / 1000⟩ := sampleSeen_state 1000 (2 / 1000)
  have hsound := sampleSeen_sound 1000 (2 / 1000)
  obtain ⟨out, db', hrun, hstored, hiff⟩ := tryMatch_wipes_iff hsound
    (List.mem_singleton_self sampleRule) sampleRule_asks.rate_ne_zero sampleRule_asks.interval_pos
    (sampleHit 3600) rfl (by rw [hstate]; norm_num) (by rw [hstate]; norm_num)
    (by rw [hstate]; decide)
  obtain ⟨_, stored, _, hmatch, hscan, _⟩ := tryMatch_scan hsound (sampleHit 3600)
  cases hrun.symm.trans hmatch
  have hfresh := (hiff (hstored (sampleSeen_alone 3600 hscan.out_mem))).mpr ?_
  · refine ⟨out, db', hrun, hfresh.trans ?_⟩
    simp [RegexState.fresh, sampleRule_interval, sampleHit]
  · rw [hstate]
    refine .inr ?_
    norm_num [RegexState.movement, sampleRule_interval, sampleHit]

/-- One hit, and another one 2,500 milliseconds after the beginning of the window: the
movement is 1,500, and half of the old rate is taken off the new hit. -/
theorem tryMatch_keeps_history :
    ¬ ∀ (M : RegexManager ℚ) (db : RegexDb ℚ) (rule : RatedRegex ℚ) (r : RegexRequest), M.Sound db →
        rule ∈ M.ratedBanningRegexes → rule.rate ≠ 0 → 0 < rule.interval →
        M.isHit rule r = true → 0 ≤ (M.ruleState db r.ip rule).rate →
        (M.ruleState db r.ip rule).beginMsec ≠ 0 →
        rule.interval < (M.ruleState db r.ip rule).movement rule r.curTimeMsec →
        ∃ out db', M.tryMatch db r = .ok (out, db') ∧
          (M.Alone rule r out → M.ruleState db' r.ip rule = .fresh rule r.curTimeMsec) := by
  intro h
  have hstate : sampleRegexManager.ruleState (sampleSeen 1000 (1 / 1000)) (sampleHit 3500).ip
      sampleRule = ⟨1000, 1 / 1000⟩ := sampleSeen_state 1000 (1 / 1000)
  have hsound := sampleSeen_sound 1000 (1 / 1000)
  have hrule := List.mem_singleton_self sampleRule
  have hrate := sampleRule_asks.rate_ne_zero
  have hi := sampleRule_asks.interval_pos
  have h0 : (0 : ℚ) ≤ 1 / 1000 := by norm_num
  have hlate : (sampleRule.interval : Int) <
      RegexState.movement sampleRule 3500 ⟨1000, 1 / 1000⟩ := by decide
  obtain ⟨out, db', hrun, hfresh⟩ := h sampleRegexManager (sampleSeen 1000 (1 / 1000)) sampleRule
    (sampleHit 3500) hsound hrule hrate hi rfl (hstate ▸ h0) (by rw [hstate]; norm_num)
    (hstate ▸ hlate)
  obtain ⟨out', db'', hrun', _, heffect, _⟩ := tryMatch_effect hsound hrule
    sampleRule_not_isSimple (sampleHit 3500)
  obtain ⟨_, stored, _, hmatch, hscan, _⟩ := tryMatch_scan hsound (sampleHit 3500)
  cases hrun.symm.trans hrun'
  cases hrun.symm.trans hmatch
  have halone := sampleSeen_alone 3500 hscan.out_mem
  have hhit := (heffect.alone halone rfl).1.symm.trans (hfresh halone)
  rw [hstate] at hhit
  have hwiped := (RegexState.hit_eq_fresh_iff hi h0 (by norm_num) hlate).mp hhit
  norm_num [RegexState.movement, sampleRule_interval] at hwiped

end RegexManager

end Banjax
