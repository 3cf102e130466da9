import Banjax.Regex.Rate

/-!
# Which hits are stored

A rule has its own number, so that the state it finds is the one from before the
request, whatever the rules in front of it have counted.  Whether a rule ends the
request can therefore be read off the stored vector (`ends`), and so can the whole
request: `Scan.outcome` splits the rules at the first one that does not let the
request go on.

The vector is written back at the end of the loop and when a rate is reached.  A
simple rule and a skipped host return without it, and the hits counted in front of
them are lost.  A hit may also leave no trace because the arithmetic loses it
(`Traceless`); the exact one loses none.
-/

namespace Banjax

open Lib FloatArithmetic

/-- `rate > 0`. -/
def RatedRegex.IsRated {ρ : Type} [FloatArithmetic ρ] (rule : RatedRegex ρ) : Prop :=
  less (ofInt 0) rule.rate = true

namespace RegexManager

variable {ρ : Type} (M : RegexManager ρ)

/-! ## The order of the rules -/

/-- The rules stand in the order of their numbers. -/
def Ordered (rules : List (RatedRegex ρ)) : Prop := rules.Pairwise fun p q => p.id < q.id

theorem ordered : Ordered M.ratedBanningRegexes := by
  have h : (M.ratedBanningRegexes.map RatedRegex.id).Pairwise (· < ·) := by
    rw [M.numbered]
    exact List.pairwise_lt_range
  exact List.pairwise_map.mp h

theorem Ordered.front {front back : List (RatedRegex ρ)} {p q : RatedRegex ρ}
    (h : Ordered (front ++ q :: back)) (hp : p ∈ front) : p.id < q.id :=
  (List.pairwise_append.mp h).2.2 p hp q (List.mem_cons_self ..)

theorem Ordered.back {front back : List (RatedRegex ρ)} {p q : RatedRegex ρ}
    (h : Ordered (front ++ q :: back)) (hp : p ∈ back) : q.id < p.id :=
  (List.pairwise_cons.mp (List.pairwise_append.mp h).2.1).1 p hp

/-- The numbers say which rules stand in front of a rule. -/
theorem Ordered.mem_front {front back : List (RatedRegex ρ)} {p q : RatedRegex ρ}
    (h : Ordered (front ++ q :: back)) (hp : p ∈ front ++ q :: back) (hlt : p.id < q.id) :
    p ∈ front := by
  rcases List.mem_append.mp hp with hp | hp
  · exact hp
  · rcases List.mem_cons.mp hp with rfl | hp
    · exact absurd hlt (lt_irrefl _)
    · exact absurd (h.back hp) (not_lt.mpr hlt.le)

/-- The numbers of the rules tell them apart. -/
theorem Ordered.mem_upto {front back : List (RatedRegex ρ)} {p q : RatedRegex ρ}
    (h : Ordered (front ++ q :: back)) (hp : p ∈ front ++ q :: back) :
    p ∈ front ++ [q] ↔ p.id ≤ q.id := by
  constructor
  · intro hp
    rcases List.mem_append.mp hp with hp | hp
    · exact (h.front hp).le
    · rw [List.mem_singleton.mp hp]
  · intro hle
    rcases List.mem_append.mp hp with hp | hp
    · exact List.mem_append_left _ hp
    · rcases List.mem_cons.mp hp with rfl | hp
      · exact List.mem_append_right _ (List.mem_singleton.mpr rfl)
      · exact absurd (h.back hp) (not_lt.mpr hle)

theorem Ordered.upto {front back : List (RatedRegex ρ)} {q : RatedRegex ρ}
    (h : Ordered (front ++ q :: back)) : Ordered (front ++ [q]) :=
  h.sublist (List.Sublist.append_left (List.singleton_sublist.mpr (List.mem_cons_self ..)) front)

variable [FloatArithmetic ρ]

/-! ## What ends a request -/

/-- The rule matches, and is simple or has its rate reached. -/
def ends (r : RegexRequest) (v : List (RegexState ρ)) (rule : RatedRegex ρ) : Prop :=
  M.isHit rule r = true ∧ (rule.IsSimple ∨ exceeds r rule v)

instance (r : RegexRequest) (rule : RatedRegex ρ) (v : List (RegexState ρ)) :
    Decidable (exceeds r rule v) := inferInstanceAs (Decidable (RatedRegex.Exceeded _ _))

instance (r : RegexRequest) (v : List (RegexState ρ)) (rule : RatedRegex ρ) :
    Decidable (M.ends r v rule) := inferInstanceAs (Decidable (_ ∧ _))

/-- The rule lets the request go on to the next one. -/
def passes (r : RegexRequest) (v : List (RegexState ρ)) (rule : RatedRegex ρ) : Prop :=
  r.clientRequestHost ∉ rule.hostsToSkip ∧ ¬ M.ends r v rule

/-- The vector with a hit for each of the rules that match. -/
def countAll (r : RegexRequest) : List (RatedRegex ρ) → List (RegexState ρ) → List (RegexState ρ)
  | [], v => v
  | rule :: rest, v => countAll r rest (if M.isHit rule r then counted r rule v else v)

/-- What a request returns and stores. -/
inductive Outcome (r : RegexRequest) (v : List (RegexState ρ)) (rules : List (RatedRegex ρ)) :
    Option (RatedRegex ρ) → Option (List (RegexState ρ)) → Prop where
  | passed : (∀ p ∈ rules, M.passes r v p) → Outcome r v rules none (some (M.countAll r rules v))
  | skipped (front : List (RatedRegex ρ)) {back : List (RatedRegex ρ)} {q : RatedRegex ρ} :
      rules = front ++ q :: back → (∀ p ∈ front, M.passes r v p) →
      r.clientRequestHost ∈ q.hostsToSkip → Outcome r v rules none none
  | simple (front : List (RatedRegex ρ)) {back : List (RatedRegex ρ)} {q : RatedRegex ρ} :
      rules = front ++ q :: back → (∀ p ∈ front, M.passes r v p) →
      r.clientRequestHost ∉ q.hostsToSkip → M.isHit q r = true → q.IsSimple →
      Outcome r v rules (some q) none
  | exceeded (front : List (RatedRegex ρ)) {back : List (RatedRegex ρ)} {q : RatedRegex ρ} :
      rules = front ++ q :: back → (∀ p ∈ front, M.passes r v p) →
      r.clientRequestHost ∉ q.hostsToSkip → M.ends r v q → ¬ q.IsSimple →
      Outcome r v rules (some q) (some (M.countAll r (front ++ [q]) v))

variable {M}

/-! ## The states of the rules that are left -/

theorem ends_counted {r : RegexRequest} {v : List (RegexState ρ)} {p q : RatedRegex ρ}
    (h : p.id ≠ q.id) : M.ends r (RegexManager.counted r p v) q ↔ M.ends r v q := by
  rw [ends, ends, exceeds, exceeds, getD_counted_ne r h]

/-- A hit in front does not change whether a rule lets the request go on. -/
theorem passes_counted {r : RegexRequest} {v : List (RegexState ρ)} {p q : RatedRegex ρ}
    (h : p.id ≠ q.id) : M.passes r (RegexManager.counted r p v) q ↔ M.passes r v q := by
  rw [passes, passes, ends_counted h]

/-- A hit of a rule that passes is followed by those of the rest. -/
theorem Outcome.cons {r : RegexRequest} {v v₁ : List (RegexState ρ)} {rule : RatedRegex ρ}
    {rest : List (RatedRegex ρ)} {out : Option (RatedRegex ρ)}
    {stored : Option (List (RegexState ρ))}
    (hpass : M.passes r v rule) (hv₁ : v₁ = if M.isHit rule r then counted r rule v else v)
    (hid : ∀ q ∈ rest, rule.id ≠ q.id) (h : M.Outcome r v₁ rest out stored) :
    M.Outcome r v (rule :: rest) out stored := by
  have hpasses : ∀ q ∈ rest, M.passes r v₁ q ↔ M.passes r v q := by
    intro q hq
    rw [hv₁]
    split
    · exact passes_counted (hid q hq)
    · rfl
  have hends : ∀ q ∈ rest, M.ends r v₁ q ↔ M.ends r v q := by
    intro q hq
    rw [hv₁]
    split
    · exact ends_counted (hid q hq)
    · rfl
  have hfront : ∀ {front : List (RatedRegex ρ)}, (∀ p ∈ front, p ∈ rest) →
      (∀ p ∈ front, M.passes r v₁ p) → ∀ p ∈ rule :: front, M.passes r v p := by
    intro front hsub hall p hp
    rcases List.mem_cons.mp hp with rfl | hp
    · exact hpass
    · exact (hpasses p (hsub p hp)).mp (hall p hp)
  cases h with
  | passed hall =>
      have := Outcome.passed (M := M) (hfront (fun p hp => hp) hall)
      rwa [countAll, ← hv₁] at this
  | skipped _ hsplit hall hskip =>
      subst hsplit
      exact .skipped (rule :: _) rfl
        (hfront (fun p hp => List.mem_append_left _ hp) hall) hskip
  | simple _ hsplit hall hskip hhit hrate =>
      subst hsplit
      exact .simple (rule :: _) rfl
        (hfront (fun p hp => List.mem_append_left _ hp) hall) hskip hhit hrate
  | @exceeded front back q hsplit hall hskip hend hrate =>
      subst hsplit
      have hstored : M.countAll r (front ++ [q]) v₁ = M.countAll r (rule :: front ++ [q]) v := by
        rw [List.cons_append, countAll, ← hv₁]
      rw [hstored]
      exact .exceeded (rule :: front) rfl
        (hfront (fun p hp => List.mem_append_left _ hp) hall) hskip
        ((hends q (List.mem_append_right _ (List.mem_cons_self ..))).mp hend) hrate

/-- A way through the rules, read off the vector it starts with. -/
theorem Scan.outcome {r : RegexRequest} {rules : List (RatedRegex ρ)} {v : List (RegexState ρ)}
    {out : Option (RatedRegex ρ)} {stored : Option (List (RegexState ρ))}
    (h : M.Scan r rules v out stored)
    (hord : Ordered rules) : M.Outcome r v rules out stored := by
  induction h with
  | done => exact .passed nofun
  | skipped hskip => exact .skipped [] rfl nofun hskip
  | missed hskip hmiss _ ih =>
      obtain ⟨hlt, hord⟩ := List.pairwise_cons.mp hord
      refine .cons ⟨hskip, fun hend => ?_⟩ (by rw [hmiss]; rfl) (fun q hq => (hlt q hq).ne)
        (ih hord)
      exact absurd hend.1 (by simp [hmiss])
  | simple hskip hhit hrate => exact .simple [] rfl nofun hskip hhit hrate
  | @exceeded rule rest v hskip hhit hrate hex =>
      have hstored : RegexManager.counted r rule v = M.countAll r ([] ++ [rule]) v := by
        simp [countAll, hhit]
      rw [hstored]
      exact .exceeded [] rfl nofun hskip ⟨hhit, .inr hex⟩ hrate
  | counted hskip hhit hrate hex _ ih =>
      obtain ⟨hlt, hord⟩ := List.pairwise_cons.mp hord
      refine .cons ⟨hskip, fun hend => ?_⟩ (by rw [hhit]; rfl) (fun q hq => (hlt q hq).ne)
        (ih hord)
      exact hend.2.elim hrate hex

/-! ## The counted vector -/

/-- The states of the other rules stay. -/
theorem countAll_of_notMem (r : RegexRequest) {rules : List (RatedRegex ρ)}
    {v : List (RegexState ρ)}
    {k : Nat} (h : ∀ p ∈ rules, p.id ≠ k) :
    (M.countAll r rules v).getD k {} = v.getD k {} := by
  induction rules generalizing v with
  | nil => rfl
  | cons p rules ih =>
      rw [countAll, ih fun q hq => h q (List.mem_cons_of_mem _ hq)]
      split
      · exact getD_counted_ne r (h p (List.mem_cons_self ..))
      · rfl

/-- A rule that matches has one more hit. -/
theorem countAll_of_mem (r : RegexRequest) {rules : List (RatedRegex ρ)} {v : List (RegexState ρ)}
    {rule : RatedRegex ρ} (hord : Ordered rules) (hmem : rule ∈ rules) (hlt : rule.id < v.length) :
    (M.countAll r rules v).getD rule.id {} =
      if M.isHit rule r then (v.getD rule.id {}).hit rule r.curTimeMsec
      else v.getD rule.id {} := by
  induction rules generalizing v with
  | nil => cases hmem
  | cons p rules ih =>
      obtain ⟨hids, hord⟩ := List.pairwise_cons.mp hord
      rw [countAll]
      rcases List.mem_cons.mp hmem with rfl | hmem
      · rw [countAll_of_notMem r fun q hq => (hids q hq).ne']
        split
        · exact getD_counted_self r hlt
        · rfl
      · have hne : p.id ≠ rule.id := (hids rule hmem).ne
        have hstate : (if M.isHit p r then RegexManager.counted r p v else v).getD rule.id {} =
            v.getD rule.id {} := by
          split
          · exact getD_counted_ne r hne
          · rfl
        rw [ih hord hmem, hstate]
        split
        · rwa [length_counted]
        · exact hlt

/-! ## One hit for each rule -/

variable (M)

/-- The rule was examined by a request that returned `out`. -/
def Examined (rule : RatedRegex ρ) (out : Option (RatedRegex ρ)) : Prop := ∀ q ∈ out, rule.id ≤ q.id

/-- Each rated rule that matched and was examined has one more hit, and the other
rules have none. -/
structure CountsOnce (r : RegexRequest) (db : RegexDb ρ) (out : Option (RatedRegex ρ))
    (db' : RegexDb ρ) : Prop where
  counted : ∀ rule ∈ M.ratedBanningRegexes, rule.IsRated → M.isHit rule r = true →
    Examined rule out →
    M.ruleState db' r.ip rule = (M.ruleState db r.ip rule).hit rule r.curTimeMsec
  kept : ∀ rule ∈ M.ratedBanningRegexes,
    ¬ (rule.IsRated ∧ M.isHit rule r = true ∧ Examined rule out) →
    M.ruleState db' r.ip rule = M.ruleState db r.ip rule

/-- No rule in front ends the request. -/
def Reached (r : RegexRequest) (v : List (RegexState ρ)) (rule : RatedRegex ρ) : Prop :=
  ∀ q ∈ M.ratedBanningRegexes, q.id < rule.id → ¬ M.ends r v q

/-- A simple rule ends the request, and no vector is written back. -/
def Unstored (r : RegexRequest) (v : List (RegexState ρ)) : Prop :=
  ∃ q ∈ M.ratedBanningRegexes, q.IsSimple ∧ M.isHit q r = true ∧ M.Reached r v q

/-- A hit leaves the state that is stored of the rule as it was. -/
def Traceless (r : RegexRequest) (db : RegexDb ρ) (rule : RatedRegex ρ) : Prop :=
  (M.ruleState db r.ip rule).hit rule r.curTimeMsec = M.ruleState db r.ip rule

/-- Of the rules that are reached and match, those with a rate are those whose hit is
stored, up to hits that leave no trace. -/
def NoLostHits (r : RegexRequest) (db : RegexDb ρ) : Prop :=
  ∀ rule ∈ M.ratedBanningRegexes, M.isHit rule r = true → M.Reached r (M.vector db r.ip) rule →
    (rule.IsRated ↔ ¬ M.Unstored r (M.vector db r.ip)) ∨ M.Traceless r db rule

variable {M}

/-- The first rule that ends the request is the last one reached. -/
theorem reached_iff_le {r : RegexRequest} {v : List (RegexState ρ)}
    {front back : List (RatedRegex ρ)}
    {q : RatedRegex ρ} (hsplit : M.ratedBanningRegexes = front ++ q :: back)
    (hall : ∀ p ∈ front, M.passes r v p) (hend : M.ends r v q) {rule : RatedRegex ρ} :
    M.Reached r v rule ↔ rule.id ≤ q.id := by
  constructor
  · intro hreach
    by_contra hlt
    exact hreach q (by simp [hsplit]) (not_le.mp hlt) hend
  · intro hle p hp hlt
    have hord := M.ordered
    rw [hsplit] at hp hord
    exact (hall p (hord.mem_front hp (lt_of_lt_of_le hlt hle))).2

theorem Outcome.examined_iff {r : RegexRequest} {v : List (RegexState ρ)}
    {out : Option (RatedRegex ρ)} {stored : Option (List (RegexState ρ))}
    (h : M.Outcome r v M.ratedBanningRegexes out stored)
    (hskip : ∀ q ∈ M.ratedBanningRegexes, r.clientRequestHost ∉ q.hostsToSkip)
    {rule : RatedRegex ρ} : Examined rule out ↔ M.Reached r v rule := by
  cases h with
  | passed hall => exact iff_of_true nofun fun q hq _ => (hall q hq).2
  | skipped _ hsplit _ hs => exact absurd hs (hskip _ (by simp [hsplit]))
  | simple _ hsplit hall _ hhit h0 =>
      rw [reached_iff_le hsplit hall ⟨hhit, .inl h0⟩]
      simp [Examined]
  | exceeded _ hsplit hall _ hend _ =>
      rw [reached_iff_le hsplit hall hend]
      simp [Examined]

/-- Without a skipped host, only a simple rule keeps the vector from being stored. -/
theorem Outcome.unstored_iff {r : RegexRequest} {v : List (RegexState ρ)}
    {out : Option (RatedRegex ρ)} {stored : Option (List (RegexState ρ))}
    (h : M.Outcome r v M.ratedBanningRegexes out stored)
    (hskip : ∀ q ∈ M.ratedBanningRegexes, r.clientRequestHost ∉ q.hostsToSkip) :
    M.Unstored r v ↔ stored = none := by
  cases h with
  | passed hall =>
      refine iff_of_false ?_ nofun
      rintro ⟨q, hq, h0, hhit, _⟩
      exact (hall q hq).2 ⟨hhit, .inl h0⟩
  | skipped _ hsplit _ hs => exact absurd hs (hskip _ (by simp [hsplit]))
  | @simple front back q hsplit hall _ hhit h0 =>
      refine iff_of_true ⟨q, by simp [hsplit], h0, hhit, ?_⟩ rfl
      exact (reached_iff_le hsplit hall ⟨hhit, .inl h0⟩).mpr le_rfl
  | @exceeded front back q hsplit hall _ hend hrate =>
      refine iff_of_false ?_ nofun
      rintro ⟨p, hp, h0, hhit, hreach⟩
      have hord := M.ordered
      rw [hsplit] at hp hord
      have hle := (reached_iff_le hsplit hall hend).mp hreach
      rcases List.mem_append.mp ((hord.mem_upto hp).mpr hle) with hp | hp
      · exact (hall p hp).2 ⟨hhit, .inl h0⟩
      · exact hrate (List.mem_singleton.mp hp ▸ h0)

/-- A vector that is stored has a hit for each rule that matches and was examined. -/
theorem Outcome.getD_stored {r : RegexRequest} {v v' : List (RegexState ρ)}
    {out : Option (RatedRegex ρ)}
    (h : M.Outcome r v M.ratedBanningRegexes out (some v')) (hlen : v.length = M.totalNoOfRules)
    {rule : RatedRegex ρ} (hrule : rule ∈ M.ratedBanningRegexes) :
    (M.isHit rule r = true → Examined rule out →
      v'.getD rule.id {} = (v.getD rule.id {}).hit rule r.curTimeMsec) ∧
    (¬ (M.isHit rule r = true ∧ Examined rule out) → v'.getD rule.id {} = v.getD rule.id {}) := by
  have hlt : rule.id < v.length := by
    rw [hlen]
    exact M.id_lt hrule
  have hord := M.ordered
  cases h with
  | passed _ =>
      rw [countAll_of_mem r hord hrule hlt]
      refine ⟨fun hhit _ => if_pos hhit, fun hnot => if_neg fun hhit => hnot ⟨hhit, nofun⟩⟩
  | @exceeded front back q hsplit _ _ _ _ =>
      rw [hsplit] at hrule hord
      have hexam : Examined rule (some q) ↔ rule ∈ front ++ [q] := by
        rw [hord.mem_upto hrule]
        simp [Examined]
      rw [hexam]
      by_cases hmem : rule ∈ front ++ [q]
      · rw [countAll_of_mem r hord.upto hmem hlt]
        exact ⟨fun hhit _ => if_pos hhit, fun hnot => if_neg fun hhit => hnot ⟨hhit, hmem⟩⟩
      · refine ⟨fun _ hin => absurd hin hmem, fun _ => countAll_of_notMem r fun p hp he => hmem ?_⟩
        have hsame : p.id ≤ rule.id ∧ rule.id ≤ p.id := ⟨he.le, he.ge⟩
        refine (hord.mem_upto hrule).mpr (hsame.2.trans ((hord.mem_upto ?_).mp hp))
        rcases List.mem_append.mp hp with hp | hp
        · exact List.mem_append_left _ hp
        · exact List.mem_append_right _ (List.mem_singleton.mp hp ▸ List.mem_cons_self ..)

/-- The states of the address after a request: the hits of the rules that were reached,
or those from before it. -/
theorem Outcome.ruleState {r : RegexRequest} {db db' : RegexDb ρ} {out : Option (RatedRegex ρ)}
    {stored : Option (List (RegexState ρ))} (hsound : M.Sound db)
    (hskip : ∀ q ∈ M.ratedBanningRegexes, r.clientRequestHost ∉ q.hostsToSkip)
    (h : M.Outcome r (M.vector db r.ip) M.ratedBanningRegexes out stored)
    (hown : M.vector db' r.ip = stored.getD (M.vector db r.ip)) {rule : RatedRegex ρ}
    (hrule : rule ∈ M.ratedBanningRegexes) :
    (M.isHit rule r = true → Examined rule out → ¬ M.Unstored r (M.vector db r.ip) →
      M.ruleState db' r.ip rule = (M.ruleState db r.ip rule).hit rule r.curTimeMsec) ∧
    (¬ (M.isHit rule r = true ∧ Examined rule out) ∨ M.Unstored r (M.vector db r.ip) →
      M.ruleState db' r.ip rule = M.ruleState db r.ip rule) := by
  have hun := h.unstored_iff hskip
  rw [RegexManager.ruleState, hown, hun]
  cases stored with
  | none => exact ⟨fun _ _ hne => absurd rfl hne, fun _ => rfl⟩
  | some v' =>
      obtain ⟨hcounted, hkept⟩ := h.getD_stored (hsound.sized r.ip) hrule
      refine ⟨fun hhit hex _ => hcounted hhit hex, ?_⟩
      rintro (hnot | hnone)
      · exact hkept hnot
      · cases hnone

theorem Outcome.countsOnce_iff {r : RegexRequest} {db db' : RegexDb ρ} {out : Option (RatedRegex ρ)}
    {stored : Option (List (RegexState ρ))} (hsound : M.Sound db)
    (hskip : ∀ q ∈ M.ratedBanningRegexes, r.clientRequestHost ∉ q.hostsToSkip)
    (h : M.Outcome r (M.vector db r.ip) M.ratedBanningRegexes out stored)
    (hown : M.vector db' r.ip = stored.getD (M.vector db r.ip)) :
    M.CountsOnce r db out db' ↔ M.NoLostHits r db := by
  constructor
  · intro hcounts rule hrule hhit hreach
    have hex := (h.examined_iff hskip).mpr hreach
    obtain ⟨hcounted, hkept⟩ := h.ruleState hsound hskip hown hrule
    by_cases hrated : rule.IsRated
    · by_cases hun : M.Unstored r (M.vector db r.ip)
      · exact .inr ((hcounts.counted rule hrule hrated hhit hex).symm.trans (hkept (.inr hun)))
      · exact .inl (iff_of_true hrated hun)
    · by_cases hun : M.Unstored r (M.vector db r.ip)
      · exact .inl (iff_of_false hrated (not_not_intro hun))
      · exact .inr ((hcounted hhit hex hun).symm.trans
          (hcounts.kept rule hrule fun hall => hrated hall.1))
  · intro hlost
    refine ⟨?_, ?_⟩
    · intro rule hrule hrated hhit hex
      obtain ⟨hcounted, hkept⟩ := h.ruleState hsound hskip hown hrule
      rcases hlost rule hrule hhit ((h.examined_iff hskip).mp hex) with hiff | htrace
      · exact hcounted hhit hex (hiff.mp hrated)
      · by_cases hun : M.Unstored r (M.vector db r.ip)
        · exact (hkept (.inr hun)).trans htrace.symm
        · exact hcounted hhit hex hun
    · intro rule hrule hnot
      obtain ⟨hcounted, hkept⟩ := h.ruleState hsound hskip hown hrule
      by_cases hall : M.isHit rule r = true ∧ Examined rule out
      · obtain ⟨hhit, hex⟩ := hall
        have hrated : ¬ rule.IsRated := fun hrated => hnot ⟨hrated, hhit, hex⟩
        by_cases hun : M.Unstored r (M.vector db r.ip)
        · exact hkept (.inr hun)
        · rcases hlost rule hrule hhit ((h.examined_iff hskip).mp hex) with hiff | htrace
          · exact absurd (hiff.mpr hun) hrated
          · exact (hcounted hhit hex hun).trans htrace
      · exact hkept (.inl hall)

/-- With every mutex free and no host skipped, the stored states have exactly the hits
of the rated rules that were examined, unless a simple rule returns after a rated one
has counted.  (A rate that is no number is neither zero nor positive: such a rule has no rate,
and its hit must be one that leaves no trace.) -/
theorem tryMatch_countsOnce_iff {db : RegexDb ρ} (hsound : M.Sound db) (r : RegexRequest)
    (hskip : ∀ q ∈ M.ratedBanningRegexes, r.clientRequestHost ∉ q.hostsToSkip) :
    (∃ out db', M.tryMatch db r = .ok (out, db') ∧ M.CountsOnce r db out db') ↔
      M.NoLostHits r db := by
  obtain ⟨out, stored, db', hrun, hscan, hstores⟩ := tryMatch_scan hsound r
  have hiff := (hscan.outcome M.ordered).countsOnce_iff hsound hskip hstores.own
  constructor
  · rintro ⟨out', db'', hrun', hcounts⟩
    cases hrun.symm.trans hrun'
    exact hiff.mp hcounts
  · intro hlost
    exact ⟨out, db', hrun, hiff.mpr hlost⟩

end RegexManager

/-! ## Exact rates -/

/-- A hit leaves a trace. -/
theorem RegexState.hit_ne_self {rule : RatedRegex ℚ} (hi : 0 < rule.interval) (t : Int)
    (s : RegexState ℚ) : s.hit rule t ≠ s := by
  intro heq
  rcases hit_cases hi t s with ⟨_, hin⟩ | ⟨hlate, rate, hout, _⟩
  · have hone : (0 : ℚ) < 1 / rule.interval := one_div_pos.mpr (Nat.cast_pos.mpr hi)
    have hrate := congrArg RegexState.rate (hin.symm.trans heq)
    dsimp only at hrate
    linarith
  · have hbegin := congrArg RegexState.beginMsec (hout.symm.trans heq)
    dsimp only at hbegin
    rw [start] at hlate
    split at hlate
    · omega
    · omega

theorem RatedRegex.isRated_rat {rule : RatedRegex ℚ} : rule.IsRated ↔ 0 < rule.rate := by
  rw [IsRated, exact_ofInt, exact_less, Int.cast_zero]

theorem RatedRegex.isSimple_or_isRated {rule : RatedRegex ℚ} (h0 : 0 ≤ rule.rate) :
    rule.IsSimple ∨ rule.IsRated := by
  rw [isSimple_rat, isRated_rat]
  exact h0.eq_or_lt.imp_left Eq.symm

namespace RegexManager

/-- With exact rates and intervals that are not empty every hit leaves a trace: in front of
a simple rule that matches, another rule ends the request or none matches. -/
theorem noLostHits_rat {M : RegexManager ℚ} {r : RegexRequest} {db : RegexDb ℚ}
    (hi : ∀ rule ∈ M.ratedBanningRegexes, 0 < rule.interval)
    (h0 : ∀ rule ∈ M.ratedBanningRegexes, 0 ≤ rule.rate) :
    M.NoLostHits r db ↔ ∀ q ∈ M.ratedBanningRegexes, q.IsSimple → M.isHit q r = true →
      (∃ p ∈ M.ratedBanningRegexes, p.id < q.id ∧ M.ends r (M.vector db r.ip) p) ∨
      ∀ p ∈ M.ratedBanningRegexes, p.id < q.id → M.isHit p r = false := by
  constructor
  · intro hlost q hq hsimple hhit
    by_cases hfront : ∃ p ∈ M.ratedBanningRegexes, p.id < q.id ∧ M.ends r (M.vector db r.ip) p
    · exact .inl hfront
    · right
      have hreach : M.Reached r (M.vector db r.ip) q := fun p hp hlt hend =>
        hfront ⟨p, hp, hlt, hend⟩
      intro p hp hlt
      by_contra hmatch
      have hhit' : M.isHit p r = true := by simpa using hmatch
      rcases hlost p hp hhit' fun x hx hxlt => hreach x hx (hxlt.trans hlt) with hiff | htrace
      · have hrated : ¬ p.IsRated := fun hr => hiff.mp hr ⟨q, hq, hsimple, hhit, hreach⟩
        have hsimple' := (RatedRegex.isSimple_or_isRated (h0 p hp)).resolve_right hrated
        exact hreach p hp hlt ⟨hhit', .inl hsimple'⟩
      · exact RegexState.hit_ne_self (hi p hp) _ _ htrace
  · intro hfront rule hrule hhit hreach
    left
    constructor
    · rintro hrated ⟨q, hq, hsimple, hhit', hreach'⟩
      rcases lt_trichotomy q.id rule.id with hlt | heq | hgt
      · exact hreach q hq hlt ⟨hhit', .inl hsimple⟩
      · cases List.inj_on_of_nodup_map M.ids_nodup hq hrule heq
        rw [RatedRegex.isSimple_rat] at hsimple
        rw [RatedRegex.isRated_rat, hsimple] at hrated
        exact lt_irrefl _ hrated
      · rcases hfront q hq hsimple hhit' with ⟨p, hp, hlt, hend⟩ | hnone
        · exact hreach' p hp hlt hend
        · exact absurd (hnone rule hrule hgt) (by simp [hhit])
    · intro hstored
      refine (RatedRegex.isSimple_or_isRated (h0 rule hrule)).resolve_left fun hsimple => ?_
      exact hstored ⟨rule, hrule, hsimple, hhit, hreach⟩

end RegexManager

theorem sampleRule_interval : sampleRule.interval = 1000 := rfl

theorem sampleRule_not_isSimple : ¬ sampleRule.IsSimple := sampleRule_asks.not_isSimple

/-- A simple rule. -/
def sampleSimple : RatedRegex ℚ := .load 1 (bytes "evil") (bytes ".*") 1 0 []

theorem sampleSimple_rate : sampleSimple.rate = 0 := by
  rw [sampleSimple, RatedRegex.load_rat]
  simp

theorem sampleSimple_isSimple : sampleSimple.IsSimple :=
  RatedRegex.isSimple_rat.mpr sampleSimple_rate

/-- A rule of two hits in a second, and a simple one behind it. -/
def sampleTwoRules : RegexManager ℚ where
  fullMatch _ _ := true
  ratedBanningRegexes := [sampleRule, sampleSimple]
  numbered := rfl

namespace RegexManager

theorem forall_sampleTwoRules {P : RatedRegex ℚ → Prop} (h₀ : P sampleRule) (h₁ : P sampleSimple) :
    ∀ rule ∈ sampleTwoRules.ratedBanningRegexes, P rule := by
  intro rule hrule
  rcases List.mem_cons.mp hrule with rfl | hrule
  · exact h₀
  · exact List.mem_singleton.mp hrule ▸ h₁

/-- The only rule counts its hit. -/
theorem tryMatch_countsOnce_sample :
    ∃ out db', sampleRegexManager.tryMatch IpDb.empty (sampleHit 1000) = .ok (out, db') ∧
      sampleRegexManager.CountsOnce (sampleHit 1000) IpDb.empty out db' := by
  refine (tryMatch_countsOnce_iff (sound_empty _) (sampleHit 1000) ?_).mpr ?_
  · intro q hq
    cases List.mem_singleton.mp hq
    exact List.not_mem_nil
  · refine (noLostHits_rat ?_ ?_).mpr ?_
    · intro q hq
      cases List.mem_singleton.mp hq
      exact sampleRule_asks.interval_pos
    · intro q hq
      cases List.mem_singleton.mp hq
      exact sampleRule_asks.rate_eq.ge.trans' (by positivity)
    · intro q hq hsimple
      cases List.mem_singleton.mp hq
      exact absurd hsimple sampleRule_not_isSimple

/-- The first hit of the rated rule is lost, since the simple rule matches as well. -/
theorem tryMatch_loses_hit :
    ¬ ∀ (ρ : Type) (_ : FloatArithmetic ρ) (M : RegexManager ρ) (db : RegexDb ρ)
        (r : RegexRequest), M.Sound db →
        (∀ q ∈ M.ratedBanningRegexes, r.clientRequestHost ∉ q.hostsToSkip) →
        ∃ out db', M.tryMatch db r = .ok (out, db') ∧ M.CountsOnce r db out db' := by
  intro h
  have hskip := forall_sampleTwoRules
    (P := fun q => (sampleHit 1000).clientRequestHost ∉ q.hostsToSkip)
    List.not_mem_nil List.not_mem_nil
  have hcounts := h ℚ exact sampleTwoRules IpDb.empty (sampleHit 1000) (sound_empty _) hskip
  have hlost := (tryMatch_countsOnce_iff (sound_empty _) (sampleHit 1000) hskip).mp hcounts
  have hi := forall_sampleTwoRules (P := fun q => 0 < q.interval) (by decide) (by decide)
  have h0 := forall_sampleTwoRules (P := fun q => 0 ≤ q.rate)
    (sampleRule_asks.rate_eq.ge.trans' (by positivity)) sampleSimple_rate.ge
  rcases (noLostHits_rat hi h0).mp hlost sampleSimple (by simp [sampleTwoRules])
    sampleSimple_isSimple rfl with ⟨p, hp, hlt, hend⟩ | hnone
  · rcases List.mem_cons.mp hp with rfl | hp
    · rcases hend.2 with hsimple | hex
      · exact sampleRule_not_isSimple hsimple
      · have hrate : sampleRule.rate = 2 / 1000 := sampleRule_asks.rate_eq
        have hfirst : (RegexState.hit sampleRule 1000 {}).rate = 1 / 1000 := by
          simp [RegexState.hit_rat, sampleRule_interval]
        have hle : sampleRule.rate ≤ (RegexState.hit sampleRule 1000 {}).rate :=
          RatedRegex.exceeded_rat.mp hex
        rw [hrate, hfirst] at hle
        norm_num at hle
    · rw [List.mem_singleton.mp hp] at hlt
      exact lt_irrefl _ hlt
  · exact absurd (hnone sampleRule (by simp [sampleTwoRules]) (by decide)) (by decide)

end RegexManager

end Banjax
