import Banjax.Lib.Run
import Banjax.Regex.Scan

/-!
# The rate limiter

A rule of the regex banner keeps the rate of an address in a window that moves with the
hits.  A hit inside the window adds one hit per interval, and a later one moves the
window and takes off the share of the rate that has left it.

The requests of a run are those of any addresses, to any hosts, matched or not, and a
hit of a rule by an address is a request of the address that the rule matches.
`threshold_of_bursts` says that the rate never counts more than the hits there were and
that a burst is caught exactly at its threshold.  `slow_clients_not_returned` says that
the rate of a client whose hits are `g` apart stays within one hit of `1 / g`.
-/

namespace Banjax

open Lib

/-- The rule asks for `h` hits in an interval. -/
structure RatedRegex.Asks (rule : RatedRegex ℚ) (h : Nat) : Prop where
  interval_pos : 0 < rule.interval
  hits_pos : 1 ≤ h
  rate_eq : rule.rate = h / rule.interval

/-- The rules of the configuration do, when the product of the interval does not wrap
around to zero. -/
theorem RatedRegex.load_asks {id : Nat} {name regex : Bytes}
    {observationInterval threshold : UInt32} {hostsToSkip : List Bytes}
    (hi : 0 < (observationInterval * 1000).toNat) (ht : 1 ≤ threshold.toNat) :
    (RatedRegex.load id name regex observationInterval threshold hostsToSkip).Asks
      threshold.toNat := ⟨hi, ht, rfl⟩

theorem RatedRegex.Asks.interval_cast {rule : RatedRegex ℚ} {h : Nat} (ha : rule.Asks h) :
    (0 : ℚ) < rule.interval := Nat.cast_pos.mpr ha.interval_pos

theorem RatedRegex.Asks.rate_ne_zero {rule : RatedRegex ℚ} {h : Nat} (ha : rule.Asks h) :
    rule.rate ≠ 0 := by
  rw [ha.rate_eq]
  exact div_ne_zero (Nat.cast_ne_zero.mpr (Nat.one_le_iff_ne_zero.mp ha.hits_pos))
    ha.interval_cast.ne'

theorem RatedRegex.Asks.not_isSimple {rule : RatedRegex ℚ} {h : Nat} (ha : rule.Asks h) :
    ¬ rule.IsSimple := fun h0 => ha.rate_ne_zero (RatedRegex.isSimple_rat.mp h0)

theorem RatedRegex.Asks.rate_le_iff {rule : RatedRegex ℚ} {h : Nat} (ha : rule.Asks h) {x : ℚ} :
    rule.rate ≤ x / rule.interval ↔ h ≤ x := by
  rw [ha.rate_eq]
  exact div_le_div_iff_of_pos_right ha.interval_cast

/-! ## One hit -/

namespace RegexState

theorem rate_init : ({} : RegexState ℚ).rate = 0 := Int.cast_zero

/-- The beginning of the window a hit finds. -/
def start (s : RegexState ℚ) (t : Int) : Int := if s.beginMsec = 0 then t else s.beginMsec

/-- A hit inside the window, and one after it. -/
theorem hit_cases {rule : RatedRegex ℚ} (hi : 0 < rule.interval) (t : Int) (s : RegexState ℚ) :
    (t ≤ s.start t + rule.interval ∧
      s.hit rule t = ⟨s.start t, s.rate + 1 / rule.interval⟩) ∨
    (s.start t + rule.interval < t ∧ ∃ rate, s.hit rule t = ⟨t - rule.interval, rate⟩ ∧
      (rate = 1 / rule.interval ∨ 0 ≤ rate ∧ rate =
        s.rate * (1 - (t - s.start t - rule.interval : Int) / rule.interval) +
          1 / rule.interval)) := by
  have hi' : (rule.interval : ℚ) ≠ 0 := Nat.cast_ne_zero.mpr hi.ne'
  by_cases hmove : 0 < t - s.start t - rule.interval
  · refine .inr ⟨by omega, ?_⟩
    have hbegin : s.start t + (t - s.start t - rule.interval) = t - rule.interval := by omega
    rw [hit_rat, ← start]
    dsimp only
    rw [if_pos hmove, hbegin]
    refine ⟨_, rfl, ?_⟩
    split
    · exact .inl rfl
    · next hneg =>
      refine .inr ⟨not_lt.mp hneg, ?_⟩
      field_simp
      ring
  · refine .inl ⟨by omega, ?_⟩
    rw [hit_rat, ← start]
    dsimp only
    rw [if_neg hmove]

theorem start_eq_of_ne {s : RegexState ℚ} {t : Int} (h : s.beginMsec ≠ 0) :
    s.start t = s.beginMsec := if_neg h

/-- A hit keeps the rate nonnegative and counts for one at most. -/
theorem hit_rate {rule : RatedRegex ℚ} (hi : 0 < rule.interval) {s : RegexState ℚ} {n : Nat}
    (t : Int)
    (h0 : 0 ≤ s.rate) (hn : s.rate ≤ n / rule.interval) :
    0 ≤ (s.hit rule t).rate ∧ (s.hit rule t).rate ≤ (n + 1 : Nat) / rule.interval := by
  have hi' : (0 : ℚ) < rule.interval := Nat.cast_pos.mpr hi
  have hone : (0 : ℚ) < 1 / rule.interval := one_div_pos.mpr hi'
  have hsum : ((n + 1 : Nat) : ℚ) / rule.interval = n / rule.interval + 1 / rule.interval := by
    rw [Nat.cast_add, Nat.cast_one, add_div]
  rw [hsum]
  rcases hit_cases hi t s with ⟨_, heq⟩ | ⟨hlt, rate, heq, hrate⟩
  · rw [heq]
    exact ⟨by positivity, by linarith⟩
  · rw [heq]
    rcases hrate with rfl | ⟨hnonneg, hval⟩
    · exact ⟨hone.le, by linarith⟩
    · refine ⟨hnonneg, ?_⟩
      have hm : (0 : ℚ) ≤ (t - s.start t - rule.interval : Int) / rule.interval :=
        div_nonneg (Int.cast_nonneg (by omega)) hi'.le
      have hshare := mul_nonneg h0 hm
      dsimp only
      linarith

end RegexState

/-! ## Runs -/

namespace RegexManager

variable (M : RegexManager ℚ)

/-- The times at which the address hit the rule. -/
def hitTimes (rule : RatedRegex ℚ) (ip : Bytes) (rs : List RegexRequest) : List Int :=
  (rs.filter fun r => r.ip = ip ∧ M.isHit rule r = true).map RegexRequest.curTimeMsec

variable {M} {rule : RatedRegex ℚ} {ip : Bytes}

theorem hitTimes_append (rs qs : List RegexRequest) :
    M.hitTimes rule ip (rs ++ qs) = M.hitTimes rule ip rs ++ M.hitTimes rule ip qs := by
  rw [hitTimes, List.filter_append, List.map_append]
  rfl

theorem hitTimes_snoc_hit {rs : List RegexRequest} {r : RegexRequest} (hip : r.ip = ip)
    (hhit : M.isHit rule r = true) :
    M.hitTimes rule ip (rs ++ [r]) = M.hitTimes rule ip rs ++ [r.curTimeMsec] := by
  simp [hitTimes, hip, hhit]

theorem hitTimes_snoc_other {rs : List RegexRequest} {r : RegexRequest}
    (h : ¬ (r.ip = ip ∧ M.isHit rule r = true)) :
    M.hitTimes rule ip (rs ++ [r]) = M.hitTimes rule ip rs := by
  simp [hitTimes, h]

/-- The earlier hits are the first of those of the whole run. -/
theorem hitTimes_snoc_cases (rs : List RegexRequest) (r : RegexRequest) :
    M.hitTimes rule ip (rs ++ [r]) = M.hitTimes rule ip rs ∨
      (r.ip = ip ∧ M.isHit rule r = true) ∧
        M.hitTimes rule ip (rs ++ [r]) = M.hitTimes rule ip rs ++ [r.curTimeMsec] := by
  by_cases h : r.ip = ip ∧ M.isHit rule r = true
  · exact .inr ⟨h, hitTimes_snoc_hit h.1 h.2⟩
  · exact .inl (hitTimes_snoc_other h)

/-- An unseen address has no history. -/
theorem ruleState_unseen {db : RegexDb ℚ} (hunseen : db.stateOf ip = []) :
    M.ruleState db ip rule = {} := by
  rw [ruleState, vector, if_pos hunseen, List.getD_eq_getElem?_getD, List.getElem?_replicate]
  split <;> rfl

theorem serve_sound {db db' : RegexDb ℚ} (hsound : M.Sound db) {r : RegexRequest}
    (h : M.serve db r = .ok db') : M.Sound db' := by
  obtain ⟨out, stored, db₁, hrun, _, hstores⟩ := tryMatch_scan hsound r
  rw [serve, hrun] at h
  cases h
  exact hstores.sound

theorem sound_of_foldlM {db db' : RegexDb ℚ} (hsound : M.Sound db) {rs : List RegexRequest}
    (h : rs.foldlM M.serve db = .ok db') : M.Sound db' :=
  (Reaches.of_foldlM (Q := fun _ _ => True) (fun _ _ _ _ _ _ => trivial) h).invariant
    (P := fun _ db => M.Sound db) hsound fun _ _ _ _ _ ha _ hs => serve_sound ha hs

/-- One request of a run. -/
theorem serve_effect {db : RegexDb ℚ} (hsound : M.Sound db) (hrule : rule ∈ M.ratedBanningRegexes)
    (hrate : ¬ rule.IsSimple) (ip : Bytes) (r : RegexRequest) :
    ∃ db', M.serve db r = .ok db' ∧ M.Sound db' ∧
      (M.ruleState db' ip rule = M.ruleState db ip rule ∨
        (r.ip = ip ∧ M.isHit rule r = true) ∧
          M.ruleState db' ip rule = (M.ruleState db ip rule).hit rule r.curTimeMsec) := by
  obtain ⟨out, db', hrun, hsound', heffect, hothers⟩ := tryMatch_effect hsound hrule hrate r
  refine ⟨db', by rw [serve, hrun]; rfl, hsound', ?_⟩
  by_cases hip : r.ip = ip
  · subst hip
    rcases heffect.kept with hkept | ⟨hhit, hkept⟩
    · exact .inl hkept
    · exact .inr ⟨⟨rfl, hhit⟩, hkept⟩
  · exact .inl (hothers ip (Ne.symm hip))

/-- Every run goes through, and what a hit keeps, stored or not, holds of the state of
the rule and the times of the hits.  `G` is a condition on the times. -/
theorem serve_invariant {db : RegexDb ℚ} (hsound : M.Sound db) (hunseen : db.stateOf ip = [])
    (hrule : rule ∈ M.ratedBanningRegexes) (hrate : ¬ rule.IsSimple) {G : List Int → Prop}
    {I : List Int → RegexState ℚ → Prop} (start : I [] {})
    (hfront : ∀ ts t, G (ts ++ [t]) → G ts)
    (later : ∀ ts t s, I ts s → I (ts ++ [t]) s)
    (hit : ∀ ts t s, G (ts ++ [t]) → I ts s → I (ts ++ [t]) (s.hit rule t))
    (rs : List RegexRequest) (hG : G (M.hitTimes rule ip rs)) :
    ∃ db', rs.foldlM M.serve db = .ok db' ∧ M.Sound db' ∧
      I (M.hitTimes rule ip rs) (M.ruleState db' ip rule) := by
  induction rs using List.reverseRecOn with
  | nil => exact ⟨db, rfl, hsound, (ruleState_unseen hunseen).symm ▸ start⟩
  | append_singleton rs r ih =>
      have hG' : G (M.hitTimes rule ip rs) := by
        rcases hitTimes_snoc_cases rs r with heq | ⟨_, heq⟩
        · exact heq ▸ hG
        · exact hfront _ _ (heq ▸ hG)
      obtain ⟨db₁, hrun, hsound₁, hI⟩ := ih hG'
      obtain ⟨db₂, hserve, hsound₂, heffect⟩ := serve_effect hsound₁ hrule hrate ip r
      refine ⟨db₂, ?_, hsound₂, ?_⟩
      · rw [foldlM_snoc, hrun, ok_bind]
        exact hserve
      rcases heffect with hkept | ⟨⟨hip, hhit⟩, hkept⟩
      · rw [hkept]
        rcases hitTimes_snoc_cases rs r with heq | ⟨_, heq⟩
        · rw [heq]
          exact hI
        · rw [heq]
          exact later _ _ _ hI
      · rw [hitTimes_snoc_hit hip hhit] at hG ⊢
        rw [hkept]
        exact hit _ _ _ hG hI

end RegexManager

/-- A manager with one rule, two hits in a second, which matches every request. -/
def sampleRegexManager : RegexManager ℚ where
  fullMatch _ _ := true
  ratedBanningRegexes := [.load 0 (bytes "flood") (bytes ".*") 1 2 []]
  numbered := rfl

def sampleRule : RatedRegex ℚ := .load 0 (bytes "flood") (bytes ".*") 1 2 []

theorem sampleRule_asks : sampleRule.Asks 2 := RatedRegex.load_asks (by decide) (by decide)

def sampleHit (t : Int) : RegexRequest := ⟨bytes "10.0.0.1", [], [], t⟩

namespace RegexManager

variable {M : RegexManager ℚ} {rule : RatedRegex ℚ} {ip : Bytes}

/-! ## Bursts -/

/-- The rate counts the hits there were and no others. -/
def WithinHits (rule : RatedRegex ℚ) (ts : List Int) (s : RegexState ℚ) : Prop :=
  0 ≤ s.rate ∧ s.rate ≤ ts.length / rule.interval

theorem WithinHits.later {ts : List Int} {s : RegexState ℚ} (t : Int) (h : WithinHits rule ts s) :
    WithinHits rule (ts ++ [t]) s := by
  refine ⟨h.1, h.2.trans ?_⟩
  rw [List.length_append]
  gcongr
  exact Nat.le_add_right ..

theorem WithinHits.hit {ts : List Int} {s : RegexState ℚ} (hi : 0 < rule.interval) (t : Int)
    (h : WithinHits rule ts s) : WithinHits rule (ts ++ [t]) (s.hit rule t) := by
  rw [WithinHits, List.length_append]
  exact RegexState.hit_rate hi t h.1 h.2

/-- The times do not decrease and stay within an interval of the first one. -/
structure Burst (interval : Nat) (ts : List Int) : Prop where
  sorted : ts.Pairwise (· ≤ ·)
  close : ∀ t₀ ∈ ts.head?, ∀ t ∈ ts, t ≤ t₀ + interval

theorem Burst.front {interval : Nat} {ts : List Int} {t : Int} (h : Burst interval (ts ++ [t])) :
    Burst interval ts := by
  refine ⟨(List.pairwise_append.mp h.sorted).1, ?_⟩
  intro t₀ ht₀ t' ht'
  exact h.close t₀ (List.mem_head?_append_of_mem_head? ht₀) t' (List.mem_append_left _ ht')

/-- The state of a rule in a burst whose hits have all been stored.  A window that begins
at time 0 is taken for a missing one and begins anew. -/
structure AllCounted (rule : RatedRegex ℚ) (ts : List Int) (s : RegexState ℚ) : Prop where
  rate_eq : s.rate = ts.length / rule.interval
  start_ge : s.beginMsec = 0 ∨ ∃ t₀ ∈ ts.head?, t₀ ≤ s.beginMsec

/-- No window moves in a burst. -/
theorem AllCounted.hit {ts : List Int} {s : RegexState ℚ} {t : Int} (hi : 0 < rule.interval)
    (hb : Burst rule.interval (ts ++ [t])) (h : AllCounted rule ts s) :
    AllCounted rule (ts ++ [t]) (s.hit rule t) := by
  have hstart : ∃ t₀ ∈ (ts ++ [t]).head?, t₀ ≤ s.start t := by
    rcases h.start_ge with h0 | ⟨t₀, ht₀, hle⟩
    · rw [RegexState.start, if_pos h0]
      cases ts with
      | nil => exact ⟨t, rfl, le_rfl⟩
      | cons t₁ ts =>
          exact ⟨t₁, rfl, (List.pairwise_append.mp hb.sorted).2.2 _ (List.mem_cons_self ..) _
            (List.mem_singleton_self _)⟩
    · have hhead : t₀ ∈ (ts ++ [t]).head? := List.mem_head?_append_of_mem_head? ht₀
      by_cases h0 : s.beginMsec = 0
      · refine ⟨t₀, hhead, ?_⟩
        rw [RegexState.start, if_pos h0]
        exact (List.pairwise_append.mp hb.sorted).2.2 _ (List.mem_of_mem_head? ht₀) _
          (List.mem_singleton_self _)
      · refine ⟨t₀, hhead, ?_⟩
        rw [RegexState.start_eq_of_ne h0]
        exact hle
  obtain ⟨t₀, ht₀, hle⟩ := hstart
  have hclose := hb.close t₀ ht₀ t (List.mem_append_right _ (List.mem_singleton_self _))
  rcases RegexState.hit_cases hi t s with ⟨_, heq⟩ | ⟨hlt, _⟩
  · refine heq ▸ ⟨?_, .inr ⟨t₀, ht₀, hle⟩⟩
    rw [h.rate_eq, List.length_append, Nat.cast_add, add_div]
    simp
  · omega

variable (M)

/-- A hit of the rule by the address is ended by no other rule. -/
def Uncontested (rule : RatedRegex ℚ) (ip : Bytes) (db : RegexDb ℚ) (r : RegexRequest) : Prop :=
  r.ip = ip → M.isHit rule r = true → ∀ out db', M.tryMatch db r = .ok (out, db') →
    M.Alone rule r out

variable {M}

theorem allCounted_of_reaches {db db' : RegexDb ℚ} {h : Nat} (hsound : M.Sound db)
    (hunseen : db.stateOf ip = []) (hrule : rule ∈ M.ratedBanningRegexes) (hasks : rule.Asks h)
    {rs : List RegexRequest} (hreach : Reaches M.serve (M.Uncontested rule ip) db rs db') :
    M.Sound db' ∧ (Burst rule.interval (M.hitTimes rule ip rs) →
      AllCounted rule (M.hitTimes rule ip rs) (M.ruleState db' ip rule)) := by
  refine hreach.invariant (P := fun rs db => M.Sound db ∧
    (Burst rule.interval (M.hitTimes rule ip rs) →
      AllCounted rule (M.hitTimes rule ip rs) (M.ruleState db ip rule))) ?_ ?_
  · refine ⟨hsound, fun _ => ?_⟩
    rw [ruleState_unseen hunseen]
    exact ⟨by simp [hitTimes], .inl rfl⟩
  · rintro rs r a b _ ⟨ha, hall⟩ hq hs
    obtain ⟨out, db', hrun, hsound', heffect, hothers⟩ :=
      tryMatch_effect ha hrule hasks.not_isSimple r
    have hb : b = db' := by
      rw [serve, hrun] at hs
      exact (Except.ok.inj hs).symm
    subst hb
    refine ⟨hsound', ?_⟩
    by_cases hip : r.ip = ip
    · subst hip
      cases hhit : M.isHit rule r with
      | false =>
          have hsame : M.ruleState b r.ip rule = M.ruleState a r.ip rule := by
            rcases heffect.kept with hkept | ⟨hhit', _⟩
            · exact hkept
            · rw [hhit] at hhit'
              cases hhit'
          rw [hitTimes_snoc_other (by simp [hhit]), hsame]
          exact hall
      | true =>
          rw [hitTimes_snoc_hit rfl hhit, (heffect.alone (hq rfl hhit out b hrun) hhit).1]
          intro hburst
          exact (hall hburst.front).hit hasks.interval_pos hburst
    · rw [hitTimes_snoc_other (by simp [hip]), hothers ip (Ne.symm hip)]
      exact hall

/-- The rate of an address counts its hits and no others, so that a rule is not returned
before its threshold, whatever the times, and a burst that no other rule interferes with
is caught exactly there. -/
theorem threshold_of_bursts (hrule : rule ∈ M.ratedBanningRegexes) {h : Nat} (hasks : rule.Asks h)
    {db : RegexDb ℚ} (hsound : M.Sound db) (hunseen : db.stateOf ip = []) (rs : List RegexRequest) :
    ∃ db', rs.foldlM M.serve db = .ok db' ∧
      0 ≤ (M.ruleState db' ip rule).rate ∧
      (M.ruleState db' ip rule).rate ≤ (M.hitTimes rule ip rs).length / rule.interval ∧
      ∀ r, r.ip = ip → ∃ out db'', M.tryMatch db' r = .ok (out, db'') ∧
        (out = some rule → h ≤ (M.hitTimes rule ip (rs ++ [r])).length) ∧
        (M.isHit rule r = true → Burst rule.interval (M.hitTimes rule ip (rs ++ [r])) →
          Reaches M.serve (M.Uncontested rule ip) db (rs ++ [r]) db'' →
          (M.hitTimes rule ip (rs ++ [r])).length ≤ h →
          (out = some rule ↔ (M.hitTimes rule ip (rs ++ [r])).length = h)) := by
  obtain ⟨db', hrun, hsound', h0, hn⟩ := serve_invariant hsound hunseen hrule hasks.not_isSimple
    (G := fun _ => True) (I := WithinHits rule) ⟨le_rfl, by simp⟩ (fun _ _ _ => trivial)
    (fun _ t _ hI => hI.later t) (fun _ t _ _ hI => hI.hit hasks.interval_pos t) rs trivial
  refine ⟨db', hrun, h0, hn, ?_⟩
  rintro r rfl
  obtain ⟨out, db'', hmatch, _, heffect, _⟩ := tryMatch_effect hsound' hrule hasks.not_isSimple r
  have hearly : out = some rule → h ≤ (M.hitTimes rule r.ip (rs ++ [r])).length := by
    intro hout
    obtain ⟨hhit, hex⟩ := heffect.returned hout
    have hle := RatedRegex.exceeded_rat.mp hex
    rw [hitTimes_snoc_hit rfl hhit, List.length_append]
    have hbound := (RegexState.hit_rate hasks.interval_pos r.curTimeMsec h0 hn).2
    exact_mod_cast hasks.rate_le_iff.mp (hle.trans hbound)
  refine ⟨out, db'', hmatch, hearly, ?_⟩
  intro hhit hburst hreach hlen
  refine ⟨fun hout => le_antisymm hlen (hearly hout), ?_⟩
  intro hh
  obtain ⟨db₁, hreach₁, hq, _⟩ := hreach.snoc_inv
  have hdb : db₁ = db' := Except.ok.inj (hreach₁.foldlM_eq.symm.trans hrun)
  subst hdb
  have hall := (allCounted_of_reaches hsound hunseen hrule hasks hreach₁).2
  rw [hitTimes_snoc_hit rfl hhit] at hburst hh
  refine (heffect.alone (hq rfl hhit out db'' hmatch) hhit).2 ?_
  rw [RatedRegex.exceeded_rat, ((hall hburst.front).hit hasks.interval_pos hburst).rate_eq,
    hasks.rate_le_iff, hh]

/-- No rule skips the host and no other rule matches. -/
theorem uncontested_of_others {db : RegexDb ℚ} (hsound : M.Sound db) {r : RegexRequest}
    (hskip : ∀ q ∈ M.ratedBanningRegexes, r.clientRequestHost ∉ q.hostsToSkip)
    (hothers : ∀ q ∈ M.ratedBanningRegexes, M.isHit q r = true → q = rule) :
    M.Uncontested rule ip db r := by
  intro _ _ out db' h
  refine ⟨hskip, fun q hq => ?_⟩
  obtain ⟨out', stored, db₁, hmatch, hscan, _⟩ := tryMatch_scan hsound r
  cases hmatch.symm.trans h
  exact hothers q (hscan.out_mem q hq) (hscan.out_isHit q hq)

theorem uncontested_sample {db : RegexDb ℚ} (hsound : sampleRegexManager.Sound db)
    (r : RegexRequest) :
    sampleRegexManager.Uncontested sampleRule (bytes "10.0.0.1") db r := by
  refine uncontested_of_others hsound (fun q hq => ?_) fun q hq _ => List.mem_singleton.mp hq
  cases List.mem_singleton.mp hq
  exact List.not_mem_nil

/-- The second of two hits within a second is caught. -/
theorem threshold_of_two_hits :
    ∃ db' out db'', [sampleHit 1000].foldlM sampleRegexManager.serve IpDb.empty = .ok db' ∧
      sampleRegexManager.tryMatch db' (sampleHit 2000) = .ok (out, db'') ∧
      out = some sampleRule := by
  obtain ⟨db', hrun, _, _, hnext⟩ := threshold_of_bursts (M := sampleRegexManager)
    (List.mem_singleton_self sampleRule) sampleRule_asks (sound_empty _)
    (show IpDb.empty.stateOf (bytes "10.0.0.1") = [] from rfl) [sampleHit 1000]
  obtain ⟨out, db'', hmatch, _, hburst⟩ := hnext (sampleHit 2000) rfl
  refine ⟨db', out, db'', hrun, hmatch, (hburst rfl ?_ ?_ ?_).mpr ?_⟩
  · exact ⟨by decide, by decide⟩
  · refine .of_foldlM (fun _ _ _ _ _ hu =>
      uncontested_sample (sound_of_foldlM (sound_empty _) hu) _) ?_
    rw [foldlM_snoc, hrun, ok_bind, serve, hmatch]
    rfl
  · decide
  · decide

/-! ## Slow clients -/

/-- The times are positive, and each is `g` after the one before it at least. -/
structure Spaced (g : ℚ) (ts : List Int) : Prop where
  positive : ∀ t ∈ ts, 0 < t
  gaps : ts.IsChain fun t t' : Int => (t : ℚ) + g ≤ t'

theorem Spaced.front {g : ℚ} {ts us : List Int} (h : Spaced g (ts ++ us)) : Spaced g ts :=
  ⟨fun t ht => h.positive t (List.mem_append_left _ ht), h.gaps.left_of_append⟩

theorem Spaced.last_pos {g : ℚ} {ts : List Int} {t : Int} (h : Spaced g (ts ++ [t])) : 0 < t :=
  h.positive t (List.mem_append_right _ (List.mem_singleton_self _))

/-- A hit is `g` after every earlier one. -/
theorem Spaced.gap {g : ℚ} (hg : 0 < g) {ts : List Int} {t t' : Int} (h : Spaced g (ts ++ [t]))
    (ht' : t' ∈ ts) : (t' : ℚ) + g ≤ t := by
  let R : Int → Int → Prop := fun t t' => (t : ℚ) + g ≤ t'
  have htrans : Trans R R R := ⟨fun {a b c} (hab : (a : ℚ) + g ≤ b) (hbc : (b : ℚ) + g ≤ c) =>
    show (a : ℚ) + g ≤ c by linarith⟩
  have hpair : (ts ++ [t]).Pairwise R := List.isChain_iff_pairwise.mp h.gaps
  exact (List.pairwise_append.mp hpair).2.2 t' ht' t (List.mem_singleton_self _)

/-- The state of a rule for a client whose hits are `g` apart.  The window has not moved
since the first stored hit, which the `n` later ones follow at a distance of `g` each, or
it ends at the last stored hit. -/
inductive Slow (i : Nat) (g : ℚ) (ts : List Int) : RegexState ℚ → Prop where
  | fresh : Slow i g ts {}
  | first {n : Nat} {b t : Int} : t ∈ ts → 0 < b → (b : ℚ) + n * g ≤ t → t ≤ b + i →
      Slow i g ts ⟨b, (n + 1 : Nat) / i⟩
  | moved {t : Int} {rate : ℚ} : t ∈ ts → 0 < t - i → 0 ≤ rate → rate ≤ 1 / g + 1 / i →
      Slow i g ts ⟨t - i, rate⟩

theorem Slow.later {i : Nat} {g : ℚ} {ts : List Int} {s : RegexState ℚ} (t : Int)
    (h : Slow i g ts s) : Slow i g (ts ++ [t]) s := by
  cases h with
  | fresh => exact .fresh
  | first ht hb hn hle => exact .first (List.mem_append_left _ ht) hb hn hle
  | moved ht hb h0 hle => exact .moved (List.mem_append_left _ ht) hb h0 hle

theorem Slow.rate_le {i : Nat} {g : ℚ} {ts : List Int} {s : RegexState ℚ} (hi : 0 < i) (hg : 0 < g)
    (h : Slow i g ts s) : s.rate ≤ 1 / g + 1 / i := by
  have hi' : (0 : ℚ) < i := Nat.cast_pos.mpr hi
  cases h with
  | fresh => positivity
  | @first n b t _ _ hn hle =>
      have hle' : (t : ℚ) ≤ b + i := by exact_mod_cast hle
      have hng : (n : ℚ) * g ≤ i := by linarith
      have hni : (n : ℚ) / i ≤ 1 / g := by
        rw [div_le_div_iff₀ hi' hg]
        linarith
      rw [Nat.cast_add, Nat.cast_one, add_div]
      linarith
  | moved _ _ _ hle => exact hle

/-- The share of a rate that stays when the window moves by `m`.  The `k` hits of the
rate fill the window up to its new end, at a distance of `g`. -/
theorem share_le {i g k m rate : ℚ} (hi : 0 < i) (hg : 0 < g) (hm : 0 ≤ m) (h0 : 0 ≤ rate)
    (hrate : rate ≤ k / i) (h : k * g ≤ i + m) : rate * (1 - m / i) ≤ 1 / g := by
  rcases le_total m i with hmi | hmi
  · have hstay : 0 ≤ 1 - m / i := by
      rw [sub_nonneg, div_le_one hi]
      exact hmi
    have hprod : k * (i - m) * g ≤ i * i :=
      calc k * (i - m) * g = k * g * (i - m) := by ring
        _ ≤ (i + m) * (i - m) := by gcongr
        _ = i * i - m * m := by ring
        _ ≤ i * i := by linarith [mul_nonneg hm hm]
    calc rate * (1 - m / i) ≤ k / i * (1 - m / i) := by gcongr
      _ = k * (i - m) / (i * i) := by field_simp
      _ ≤ 1 / g := by
        rw [div_le_div_iff₀ (mul_pos hi hi) hg]
        linarith
  · have hgone : 1 - m / i ≤ 0 := by
      rw [sub_nonpos, one_le_div hi]
      exact hmi
    exact (mul_nonpos_of_nonneg_of_nonpos h0 hgone).trans (one_div_pos.mpr hg).le

/-- A client that keeps its distance stays slow. -/
theorem Slow.hit {g : ℚ} (hg : 0 < g) (hi : 0 < rule.interval) {ts : List Int} {t : Int}
    {s : RegexState ℚ} (hsp : Spaced g (ts ++ [t])) (h : Slow rule.interval g ts s) :
    Slow rule.interval g (ts ++ [t]) (s.hit rule t) := by
  have hi' : (0 : ℚ) < rule.interval := Nat.cast_pos.mpr hi
  have hg' : (0 : ℚ) < 1 / g := one_div_pos.mpr hg
  have hone : (0 : ℚ) < 1 / rule.interval := one_div_pos.mpr hi'
  have hmem : t ∈ ts ++ [t] := List.mem_append_right _ (List.mem_singleton_self _)
  have hpos := hsp.last_pos
  cases h with
  | fresh =>
      have hstart : RegexState.start {} t = t := rfl
      rcases RegexState.hit_cases hi t {} with ⟨_, heq⟩ | ⟨hlt, _⟩
      · rw [heq, hstart, RegexState.rate_init]
        have hval : (0 : ℚ) + 1 / rule.interval = (0 + 1 : Nat) / rule.interval := by simp
        rw [hval]
        exact .first hmem hpos (by simp) (by omega)
      · rw [hstart] at hlt
        omega
  | @first n b t' ht hb hn hle =>
      have hgap := hsp.gap hg ht
      have hstart : RegexState.start ⟨b, (n + 1 : Nat) / rule.interval⟩ t = b :=
        RegexState.start_eq_of_ne hb.ne'
      rcases RegexState.hit_cases hi t ⟨b, (n + 1 : Nat) / rule.interval⟩ with
        ⟨hin, heq⟩ | ⟨hlt, rate, heq, hrate⟩
      · rw [hstart] at hin heq
        rw [heq, ← add_div, ← Nat.cast_one (R := ℚ), ← Nat.cast_add]
        refine .first hmem hb ?_ hin
        push_cast
        linarith
      · rw [hstart] at hlt hrate
        rw [heq]
        rcases hrate with rfl | ⟨h0, rfl⟩
        · exact .moved hmem (by omega) hone.le (by linarith)
        · refine .moved hmem (by omega) h0 ?_
          -- The hits of the first window fill it up to this hit.
          have hfill : ((n + 1 : Nat) : ℚ) * g ≤
              rule.interval + (t - b - rule.interval : Int) := by
            push_cast
            linarith
          have hm : (0 : ℚ) ≤ (t - b - rule.interval : Int) := Int.cast_nonneg (by omega)
          have hshare := share_le hi' hg hm (by positivity) le_rfl hfill
          linarith
  | @moved t' rate' ht hb h0 hle =>
      have hgap := hsp.gap hg ht
      have hstart : RegexState.start ⟨t' - rule.interval, rate'⟩ t = t' - rule.interval :=
        RegexState.start_eq_of_ne hb.ne'
      have hlt' : t' < t := by
        have : (t' : ℚ) < t := by linarith
        exact_mod_cast this
      rcases RegexState.hit_cases hi t ⟨t' - rule.interval, rate'⟩ with
        ⟨hin, _⟩ | ⟨hlt, rate, heq, hrate⟩
      · rw [hstart] at hin
        omega
      · rw [hstart] at hrate
        rw [heq]
        rcases hrate with rfl | ⟨h0', rfl⟩
        · exact .moved hmem (by omega) hone.le (by linarith)
        · refine .moved hmem (by omega) h0' ?_
          have hm : g ≤ (t - (t' - rule.interval) - rule.interval : Int) := by
            push_cast
            linarith
          have hk : (rule.interval / g + 1) / rule.interval = 1 / g + 1 / rule.interval := by
            field_simp
          have hfill : (rule.interval / g + 1) * g ≤
              rule.interval + (t - (t' - rule.interval) - rule.interval : Int) := by
            rw [add_mul, div_mul_cancel₀ _ hg.ne']
            linarith
          have hshare := share_le hi' hg (hg.le.trans hm) h0 (hle.trans_eq hk.symm) hfill
          linarith

/-- The rate of a client whose hits are `g` apart stays below one hit in `g` and one in an
interval, so that a rule with a higher threshold is not returned for it, however long
the run. -/
theorem slow_clients_not_returned (hrule : rule ∈ M.ratedBanningRegexes) {h : Nat}
    (hasks : rule.Asks h) {db : RegexDb ℚ} (hsound : M.Sound db) (hunseen : db.stateOf ip = [])
    {g : ℚ} (hg : 0 < g) (rs : List RegexRequest) (hsp : Spaced g (M.hitTimes rule ip rs)) :
    ∃ db', rs.foldlM M.serve db = .ok db' ∧
      (M.ruleState db' ip rule).rate ≤ 1 / g + 1 / rule.interval ∧
      (rule.interval / g + 1 < h → ∀ ys r zs, rs = ys ++ r :: zs → r.ip = ip →
        ∃ db₁ out db₂, ys.foldlM M.serve db = .ok db₁ ∧ M.tryMatch db₁ r = .ok (out, db₂) ∧
          out ≠ some rule) := by
  have hi := hasks.interval_pos
  have hrun : ∀ qs : List RegexRequest, Spaced g (M.hitTimes rule ip qs) →
      ∃ db', qs.foldlM M.serve db = .ok db' ∧ M.Sound db' ∧
        Slow rule.interval g (M.hitTimes rule ip qs) (M.ruleState db' ip rule) :=
    serve_invariant hsound hunseen hrule hasks.not_isSimple .fresh (fun _ _ hG => hG.front)
      (fun _ t _ hI => hI.later t) (fun _ _ _ hG hI => hI.hit hg hi hG)
  obtain ⟨db', hok, _, hslow⟩ := hrun rs hsp
  refine ⟨db', hok, hslow.rate_le hi hg, ?_⟩
  rintro hlow ys r zs rfl rfl
  rw [List.append_cons, hitTimes_append] at hsp
  have hsp' := hsp.front
  rw [hitTimes_append] at hsp'
  obtain ⟨db₁, hok₁, hsound₁, hslow₁⟩ := hrun ys hsp'.front
  obtain ⟨out, db₂, hmatch, _, heffect, _⟩ :=
    tryMatch_effect hsound₁ hrule hasks.not_isSimple r
  refine ⟨db₁, out, db₂, hok₁, hmatch, ?_⟩
  intro hout
  obtain ⟨hhit, hex⟩ := heffect.returned hout
  have hle := RatedRegex.exceeded_rat.mp hex
  rw [← hitTimes_append, hitTimes_snoc_hit rfl hhit] at hsp'
  have hbound := (hslow₁.hit hg hi hsp').rate_le hi hg
  have hk : 1 / g + 1 / rule.interval = (rule.interval / g + 1) / rule.interval := by
    have hi' := hasks.interval_cast
    field_simp
  rw [hk] at hbound
  exact absurd (hasks.rate_le_iff.mp (hle.trans hbound)) (not_le.mpr hlow)

/-- Two hits that are 1500 milliseconds apart. -/
theorem slow_client_of_two_hits :
    ∃ db', [sampleHit 1000, sampleHit 2500].foldlM sampleRegexManager.serve IpDb.empty = .ok db' ∧
      (sampleRegexManager.ruleState db' (bytes "10.0.0.1") sampleRule).rate ≤
        1 / 1500 + 1 / sampleRule.interval ∧
      ∃ db₁ out db₂, [sampleHit 1000].foldlM sampleRegexManager.serve IpDb.empty = .ok db₁ ∧
        sampleRegexManager.tryMatch db₁ (sampleHit 2500) = .ok (out, db₂) ∧
        out ≠ some sampleRule := by
  obtain ⟨db', hrun, hrate, hnext⟩ := slow_clients_not_returned (M := sampleRegexManager)
    (List.mem_singleton_self sampleRule) sampleRule_asks (sound_empty _)
    (show IpDb.empty.stateOf (bytes "10.0.0.1") = [] from rfl) (g := 1500) (by norm_num)
    [sampleHit 1000, sampleHit 2500]
    ⟨by decide, by decide +kernel⟩
  refine ⟨db', hrun, hrate, hnext ?_ [sampleHit 1000] (sampleHit 2500) [] rfl rfl⟩
  rw [show sampleRule.interval = 1000 from rfl]
  norm_num

end RegexManager

end Banjax
