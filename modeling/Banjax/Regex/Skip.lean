import Banjax.Regex.Hits

/-!
# Skipped hosts

A rule may list hosts it does not concern.  `try_match` returns at the first rule that
lists the host of the request: the rules behind it are not examined, and the hits of the
rules in front of it are not stored.

What it should do is leave the rule out, which is `tryMatchLoop` over the other rules
(`unskipped`).  The two agree up to the first rule that skips
(`tryMatchLoop_append`), and so whenever the request does not get past it.
-/

namespace Banjax

open Lib FloatArithmetic

namespace RegexManager

variable {ρ : Type}

/-- The rules that concern the host of the request. -/
def unskipped (r : RegexRequest) (rules : List (RatedRegex ρ)) : List (RatedRegex ρ) :=
  rules.filter fun q => r.clientRequestHost ∉ q.hostsToSkip

theorem mem_unskipped {r : RegexRequest} {rules : List (RatedRegex ρ)} {q : RatedRegex ρ} :
    q ∈ unskipped r rules ↔ q ∈ rules ∧ r.clientRequestHost ∉ q.hostsToSkip := by
  simp [unskipped]

theorem unskipped_append (r : RegexRequest) (front back : List (RatedRegex ρ)) :
    unskipped r (front ++ back) = unskipped r front ++ unskipped r back := List.filter_append ..

theorem unskipped_of_none {r : RegexRequest} {rules : List (RatedRegex ρ)}
    (h : ∀ q ∈ rules, r.clientRequestHost ∉ q.hostsToSkip) : unskipped r rules = rules := by
  rw [unskipped, List.filter_eq_self]
  intro q hq
  simpa using h q hq

theorem ordered_unskipped (M : RegexManager ρ) (r : RegexRequest) :
    Ordered (unskipped r M.ratedBanningRegexes) :=
  M.ordered.filter _

/-- The rules are split at the first one that skips the host. -/
theorem exists_first_skip {r : RegexRequest} {rules : List (RatedRegex ρ)}
    (h : ¬ ∀ q ∈ rules, r.clientRequestHost ∉ q.hostsToSkip) :
    ∃ front q back, rules = front ++ q :: back ∧
      (∀ p ∈ front, r.clientRequestHost ∉ p.hostsToSkip) ∧
      r.clientRequestHost ∈ q.hostsToSkip := by
  induction rules with
  | nil => exact absurd nofun h
  | cons p rules ih =>
      by_cases hp : r.clientRequestHost ∈ p.hostsToSkip
      · exact ⟨[], p, rules, rfl, nofun, hp⟩
      · have hrest : ¬ ∀ q ∈ rules, r.clientRequestHost ∉ q.hostsToSkip := by
          intro hall
          refine h fun q hq => ?_
          rcases List.mem_cons.mp hq with rfl | hq
          · exact hp
          · exact hall q hq
        obtain ⟨front, q, back, rfl, hfront, hq⟩ := ih hrest
        refine ⟨p :: front, q, back, rfl, ?_, hq⟩
        intro x hx
        rcases List.mem_cons.mp hx with rfl | hx
        · exact hp
        · exact hfront x hx

variable [FloatArithmetic ρ] (M : RegexManager ρ)

/-- The request returns the same rule with and without the rules that skip its host, and
leaves the same states of the others. -/
def SameWithout (r : RegexRequest) (db : RegexDb ρ) : Prop :=
  ∃ out db₁ db₂, M.tryMatch db r = .ok (out, db₁) ∧
    M.tryMatchLoop r (unskipped r M.ratedBanningRegexes) none db = .ok (out, db₂) ∧
    ∀ ip, ∀ rule ∈ M.ratedBanningRegexes, r.clientRequestHost ∉ rule.hostsToSkip →
      M.ruleState db₁ ip rule = M.ruleState db₂ ip rule

variable {M}

/-! ## Up to the first rule that skips -/

/-- The rest of the loop at a rated rule that matches. -/
theorem tryMatchLoop_rated {r : RegexRequest} {rule : RatedRegex ρ} {rest : List (RatedRegex ρ)}
    {ipState : Option (List (RegexState ρ))} {db d : RegexDb ρ} {states : List (RegexState ρ)}
    (hskip : r.clientRequestHost ∉ rule.hostsToSkip) (hhit : M.isHit rule r = true)
    (hrate : ¬ rule.IsSimple) (hget : retrieve r.ip ipState db = (some states, d)) :
    M.tryMatchLoop r (rule :: rest) ipState db =
      let v := if states = [] then List.replicate M.totalNoOfRules ({} : RegexState ρ) else states
      match v[rule.id]? with
      | none => .error .outOfBounds
      | some state =>
          let v := v.set rule.id (state.hit rule r.curTimeMsec)
          if rule.Exceeded (state.hit rule r.curTimeMsec) then
            .ok (some rule, (d.setIpState r.ip v).2)
          else M.tryMatchLoop r rest (some v) d := by
  rw [tryMatchLoop, if_neg hskip, hhit, if_neg (by simp), if_neg hrate]
  revert hget
  generalize retrieve r.ip ipState db = found
  rintro rfl
  rfl

/-- A rule that does not skip the host ends the request, whatever follows, or hands it on.  In
the latter case it is not a simple rule that matches. -/
theorem tryMatchLoop_cons {r : RegexRequest} {p : RatedRegex ρ}
    (hp : r.clientRequestHost ∉ p.hostsToSkip) (ipState : Option (List (RegexState ρ)))
    (db : RegexDb ρ) :
    (∃ res, ∀ back, M.tryMatchLoop r (p :: back) ipState db = res) ∨
    ∃ ipState' db', (M.isHit p r = true → ¬ p.IsSimple) ∧
      ∀ back, M.tryMatchLoop r (p :: back) ipState db = M.tryMatchLoop r back ipState' db' := by
  cases hhit : M.isHit p r with
  | false =>
      refine .inr ⟨ipState, db, nofun, fun back => ?_⟩
      rw [tryMatchLoop, if_neg hp, hhit]
      rfl
  | true =>
      by_cases hrate : p.IsSimple
      · refine .inl ⟨.ok (some p, db), fun back => ?_⟩
        rw [tryMatchLoop, if_neg hp, hhit, if_neg (by simp), if_pos hrate]
      cases hget : retrieve r.ip ipState db with
      | mk got d =>
          cases got with
          | none =>
              refine .inr ⟨none, d, fun _ => hrate, fun back => ?_⟩
              rw [tryMatchLoop, if_neg hp, hhit, if_neg (by simp), if_neg hrate, hget]
          | some states =>
              generalize hv : (if states = [] then List.replicate M.totalNoOfRules {}
                else states) = v
              cases hstate : v[p.id]? with
              | none =>
                  refine .inl ⟨.error .outOfBounds, fun back => ?_⟩
                  rw [tryMatchLoop_rated hp hhit hrate hget]
                  dsimp only
                  rw [hv, hstate]
              | some state =>
                  by_cases hex : p.Exceeded (state.hit p r.curTimeMsec)
                  · refine .inl ⟨.ok (some p,
                      (d.setIpState r.ip (v.set p.id (state.hit p r.curTimeMsec))).2),
                      fun back => ?_⟩
                    rw [tryMatchLoop_rated hp hhit hrate hget]
                    dsimp only
                    rw [hv, hstate]
                    exact if_pos hex
                  · refine .inr ⟨some (v.set p.id (state.hit p r.curTimeMsec)), d,
                      fun _ => hrate, fun back => ?_⟩
                    rw [tryMatchLoop_rated hp hhit hrate hget]
                    dsimp only
                    rw [hv, hstate]
                    exact if_neg hex

/-- The same for several rules in front. -/
theorem tryMatchLoop_append {r : RegexRequest} {front : List (RatedRegex ρ)}
    (hskip : ∀ q ∈ front, r.clientRequestHost ∉ q.hostsToSkip)
    (ipState : Option (List (RegexState ρ))) (db : RegexDb ρ) :
    (∃ res, ∀ back, M.tryMatchLoop r (front ++ back) ipState db = res) ∨
    ∃ ipState' db', (∀ p ∈ front, M.isHit p r = true → ¬ p.IsSimple) ∧
      ∀ back, M.tryMatchLoop r (front ++ back) ipState db = M.tryMatchLoop r back ipState' db' := by
  induction front generalizing ipState db with
  | nil => exact .inr ⟨ipState, db, nofun, fun _ => rfl⟩
  | cons p front ih =>
      rcases M.tryMatchLoop_cons (hskip p (List.mem_cons_self ..)) ipState db with
        ⟨res, hres⟩ | ⟨s, d, hrate, hstep⟩
      · exact .inl ⟨res, fun back => hres (front ++ back)⟩
      · rcases ih (fun q hq => hskip q (List.mem_cons_of_mem _ hq)) s d with
          ⟨res, hres⟩ | ⟨s', d', hrates, hrest⟩
        · exact .inl ⟨res, fun back => (hstep (front ++ back)).trans (hres back)⟩
        · exact .inr ⟨s', d', List.forall_mem_cons.mpr ⟨hrate, hrates⟩,
            fun back => (hstep (front ++ back)).trans (hrest back)⟩

/-- Rules of which none that concerns the host matches do nothing. -/
theorem tryMatchLoop_quiet {r : RegexRequest} {rules : List (RatedRegex ρ)} (db : RegexDb ρ)
    (h : ∀ p ∈ rules, r.clientRequestHost ∉ p.hostsToSkip → M.isHit p r = false) :
    M.tryMatchLoop r rules none db = .ok (none, db) := by
  induction rules with
  | nil => rfl
  | cons p rules ih =>
      rw [tryMatchLoop]
      split
      · rfl
      · next hskip =>
        rw [h p (List.mem_cons_self ..) hskip]
        exact ih fun q hq => h q (List.mem_cons_of_mem _ hq)

/-- The rules in front of the first one that skips end the request with and without it,
or the request returns nothing. -/
theorem tryMatch_first_skip {r : RegexRequest} {front back : List (RatedRegex ρ)} {q : RatedRegex ρ}
    (hsplit : M.ratedBanningRegexes = front ++ q :: back)
    (hfront : ∀ p ∈ front, r.clientRequestHost ∉ p.hostsToSkip)
    (hq : r.clientRequestHost ∈ q.hostsToSkip) (db : RegexDb ρ) :
    M.tryMatch db r = M.tryMatchLoop r (unskipped r M.ratedBanningRegexes) none db ∨
    (∀ p ∈ front, M.isHit p r = true → ¬ p.IsSimple) ∧
      ∃ db', M.tryMatch db r = .ok (none, db') := by
  rw [tryMatch, hsplit, unskipped_append, unskipped_of_none hfront]
  rcases tryMatchLoop_append hfront none db with ⟨res, hres⟩ | ⟨ipState, db', hrates, hrest⟩
  · exact .inl ((hres _).trans (hres _).symm)
  · refine .inr ⟨hrates, db', ?_⟩
    rw [hrest, tryMatchLoop, if_pos hq]

/-! ## With and without the rules that skip -/

variable (M)

/-- The rule stands in front of every rule that skips the host. -/
def AheadOfSkips (r : RegexRequest) (p : RatedRegex ρ) : Prop :=
  ∀ q ∈ M.ratedBanningRegexes, r.clientRequestHost ∈ q.hostsToSkip → p.id < q.id

/-- No rule skips the host, or none that concerns it matches. -/
def SkipsIdle (r : RegexRequest) : Prop :=
  (∀ q ∈ M.ratedBanningRegexes, r.clientRequestHost ∉ q.hostsToSkip) ∨
  ∀ p ∈ M.ratedBanningRegexes, r.clientRequestHost ∉ p.hostsToSkip → M.isHit p r = false

/-- The rules that concern the host do not end the request, and their hits leave no
trace. -/
def HitsTraceless (r : RegexRequest) (db : RegexDb ρ) : Prop :=
  ∀ p ∈ M.ratedBanningRegexes, r.clientRequestHost ∉ p.hostsToSkip → M.isHit p r = true →
    ¬ M.ends r (M.vector db r.ip) p ∧ M.Traceless r db p

variable {M}

theorem tryMatch_of_skipsIdle {r : RegexRequest} (db : RegexDb ρ) (h : M.SkipsIdle r) :
    M.tryMatch db r = M.tryMatchLoop r (unskipped r M.ratedBanningRegexes) none db := by
  rcases h with hnone | hquiet
  · rw [unskipped_of_none hnone]
    rfl
  · rw [tryMatch, tryMatchLoop_quiet db hquiet, tryMatchLoop_quiet db]
    intro p hp
    exact hquiet p (mem_unskipped.mp hp).1

/-- A simple rule ahead of the skips ends the request, whatever the mutexes do. -/
theorem tryMatch_of_simple_ahead {r : RegexRequest} (db : RegexDb ρ) {p : RatedRegex ρ}
    (hp : p ∈ M.ratedBanningRegexes) (hhit : M.isHit p r = true) (h0 : p.IsSimple)
    (hahead : M.AheadOfSkips r p) :
    M.tryMatch db r = M.tryMatchLoop r (unskipped r M.ratedBanningRegexes) none db := by
  by_cases hnone : ∀ q ∈ M.ratedBanningRegexes, r.clientRequestHost ∉ q.hostsToSkip
  · exact tryMatch_of_skipsIdle db (.inl hnone)
  · obtain ⟨front, q, back, hsplit, hfront, hq⟩ := exists_first_skip hnone
    rcases tryMatch_first_skip hsplit hfront hq db with heq | ⟨hrates, _⟩
    · exact heq
    · have hlt := hahead q (by simp [hsplit]) hq
      have hord := M.ordered
      rw [hsplit] at hord hp
      exact absurd h0 (hrates p (hord.mem_front hp hlt) hhit)

/-- A rule ahead of the skips ends the request, so that something is returned. -/
theorem Outcome.ne_none_of_ahead {r : RegexRequest} {v : List (RegexState ρ)}
    {out : Option (RatedRegex ρ)}
    {stored : Option (List (RegexState ρ))} {p : RatedRegex ρ}
    (h : M.Outcome r v M.ratedBanningRegexes out stored) (hp : p ∈ M.ratedBanningRegexes)
    (hend : M.ends r v p) (hahead : M.AheadOfSkips r p) : out ≠ none := by
  cases h with
  | passed hall => exact absurd hend (hall p hp).2
  | skipped _ hsplit hall hskip =>
      have hlt := hahead _ (by simp [hsplit]) hskip
      have hord := M.ordered
      rw [hsplit] at hord hp
      exact absurd hend (hall p (hord.mem_front hp hlt)).2
  | simple _ _ _ _ _ _ => simp
  | exceeded _ _ _ _ _ _ => simp

theorem tryMatch_of_ends_ahead {r : RegexRequest} {db : RegexDb ρ} (hsound : M.Sound db)
    {p : RatedRegex ρ} (hp : p ∈ M.ratedBanningRegexes) (hend : M.ends r (M.vector db r.ip) p)
    (hahead : M.AheadOfSkips r p) :
    M.tryMatch db r = M.tryMatchLoop r (unskipped r M.ratedBanningRegexes) none db := by
  by_cases hnone : ∀ q ∈ M.ratedBanningRegexes, r.clientRequestHost ∉ q.hostsToSkip
  · exact tryMatch_of_skipsIdle db (.inl hnone)
  · obtain ⟨front, q, back, hsplit, hfront, hq⟩ := exists_first_skip hnone
    rcases tryMatch_first_skip hsplit hfront hq db with heq | ⟨_, db', hrun⟩
    · exact heq
    · obtain ⟨out, stored, db'', hrun', hscan, _⟩ := tryMatch_scan hsound r
      cases hrun.symm.trans hrun'
      exact absurd rfl ((hscan.outcome M.ordered).ne_none_of_ahead hp hend hahead)

/-- A request that gets to a skip returns nothing and stores nothing. -/
theorem Outcome.skip_reached {r : RegexRequest} {v : List (RegexState ρ)}
    {out : Option (RatedRegex ρ)}
    {stored : Option (List (RegexState ρ))} (h : M.Outcome r v M.ratedBanningRegexes out stored)
    (hskip : ¬ ∀ q ∈ M.ratedBanningRegexes, r.clientRequestHost ∉ q.hostsToSkip)
    (hahead : ¬ ∃ p ∈ M.ratedBanningRegexes, M.ends r v p ∧ M.AheadOfSkips r p) :
    out = none ∧ stored = none := by
  have hfirst : ∀ {front back q}, M.ratedBanningRegexes = front ++ q :: back →
      (∀ p ∈ front, M.passes r v p) → r.clientRequestHost ∉ q.hostsToSkip → ¬ M.ends r v q := by
    intro front back q hsplit hall hq hend
    refine hahead ⟨q, by simp [hsplit], hend, fun x hx hxs => ?_⟩
    have hord := M.ordered
    rw [hsplit] at hord hx
    rcases List.mem_append.mp hx with hx | hx
    · exact absurd hxs (hall x hx).1
    · rcases List.mem_cons.mp hx with rfl | hx
      · exact absurd hxs hq
      · exact hord.back hx
  cases h with
  | passed hall => exact absurd (fun q hq => (hall q hq).1) hskip
  | skipped _ _ _ _ => exact ⟨rfl, rfl⟩
  | simple _ hsplit hall hq hhit h0 => exact absurd ⟨hhit, .inl h0⟩ (hfirst hsplit hall hq)
  | exceeded _ hsplit hall hq hend _ => exact absurd hend (hfirst hsplit hall hq)

/-- Without the skips, a request that returns nothing was ended by no rule. -/
theorem Outcome.not_ends {r : RegexRequest} {v : List (RegexState ρ)}
    {stored : Option (List (RegexState ρ))}
    (h : M.Outcome r v (unskipped r M.ratedBanningRegexes) none stored) {rule : RatedRegex ρ}
    (hrule : rule ∈ unskipped r M.ratedBanningRegexes) : ¬ M.ends r v rule := by
  cases h with
  | passed hall => exact (hall rule hrule).2
  | @skipped front back q hsplit _ hq =>
      have hmem : q ∈ unskipped r M.ratedBanningRegexes := by simp [hsplit]
      exact absurd hq (mem_unskipped.mp hmem).2

/-- Without the skips, a request that no rule ends counts every rule that matches. -/
theorem Outcome.counts_unskipped {r : RegexRequest} {v : List (RegexState ρ)}
    {out : Option (RatedRegex ρ)} {stored : Option (List (RegexState ρ))}
    (h : M.Outcome r v (unskipped r M.ratedBanningRegexes) out stored)
    (hends : ∀ q ∈ unskipped r M.ratedBanningRegexes, ¬ M.ends r v q) :
    out = none ∧ ∀ rule ∈ unskipped r M.ratedBanningRegexes, rule.id < v.length →
      (stored.getD v).getD rule.id {} =
        if M.isHit rule r then (v.getD rule.id {}).hit rule r.curTimeMsec
        else v.getD rule.id {} := by
  cases h with
  | passed hall =>
      refine ⟨rfl, fun rule hrule hlt => ?_⟩
      rw [Option.getD_some, countAll_of_mem r (M.ordered_unskipped r) hrule hlt]
  | @skipped front back q hsplit _ hq =>
      have hmem : q ∈ unskipped r M.ratedBanningRegexes := by simp [hsplit]
      exact absurd hq (mem_unskipped.mp hmem).2
  | simple _ hsplit _ _ hhit h0 => exact absurd ⟨hhit, .inl h0⟩ (hends _ (by simp [hsplit]))
  | exceeded _ hsplit _ _ hend _ => exact absurd hend (hends _ (by simp [hsplit]))

theorem tryMatchLoop_unskipped_scan {r : RegexRequest} {db : RegexDb ρ} (hsound : M.Sound db) :
    ∃ out stored db', M.tryMatchLoop r (unskipped r M.ratedBanningRegexes) none db =
        .ok (out, db') ∧
      M.Scan r (unskipped r M.ratedBanningRegexes) (M.vector db r.ip) out stored ∧
      M.Stores r.ip db db' stored :=
  tryMatchLoop_scan r (fun _ h => (mem_unskipped.mp h).1) hsound .unread (hsound.sized r.ip)

/-- A request that gets to a skip stores nothing, so that no hit may be missed. -/
theorem sameWithout_iff_traceless {r : RegexRequest} {db : RegexDb ρ} (hsound : M.Sound db)
    (hskip : ¬ ∀ q ∈ M.ratedBanningRegexes, r.clientRequestHost ∉ q.hostsToSkip)
    (hahead : ¬ ∃ p ∈ M.ratedBanningRegexes, M.ends r (M.vector db r.ip) p ∧ M.AheadOfSkips r p) :
    M.SameWithout r db ↔ M.HitsTraceless r db := by
  obtain ⟨out₁, stored₁, db₁, hrun₁, hscan₁, hstores₁⟩ := tryMatch_scan hsound r
  obtain ⟨out₂, stored₂, db₂, hrun₂, hscan₂, hstores₂⟩ :=
    tryMatchLoop_unskipped_scan (r := r) hsound
  have hunskipped := hscan₂.outcome (M.ordered_unskipped r)
  obtain ⟨rfl, rfl⟩ := (hscan₁.outcome M.ordered).skip_reached hskip hahead
  have hlt : ∀ rule ∈ M.ratedBanningRegexes, rule.id < (M.vector db r.ip).length := by
    intro rule hrule
    rw [hsound.sized]
    exact M.id_lt hrule
  constructor
  · rintro ⟨out, db₁', db₂', hrun₁', hrun₂', hstates⟩
    cases hrun₁.symm.trans hrun₁'
    cases hrun₂.symm.trans hrun₂'
    intro rule hrule hconcerns hhit
    have hmem := mem_unskipped.mpr ⟨hrule, hconcerns⟩
    refine ⟨hunskipped.not_ends hmem, ?_⟩
    have hcounted := (hunskipped.counts_unskipped fun _ hq => hunskipped.not_ends hq).2 rule hmem
      (hlt rule hrule)
    have hsame := hstates r.ip rule hrule hconcerns
    rw [ruleState, ruleState, hstores₁.own, hstores₂.own, hcounted, if_pos hhit] at hsame
    exact hsame.symm
  · intro htrace
    have hends : ∀ q ∈ unskipped r M.ratedBanningRegexes, ¬ M.ends r (M.vector db r.ip) q := by
      intro q hq hend
      obtain ⟨hmem, hconcerns⟩ := mem_unskipped.mp hq
      exact (htrace q hmem hconcerns hend.1).1 hend
    obtain ⟨rfl, hcounted⟩ := hunskipped.counts_unskipped hends
    refine ⟨none, db₁, db₂, hrun₁, hrun₂, fun ip rule hrule hconcerns => ?_⟩
    by_cases hip : ip = r.ip
    · subst hip
      rw [ruleState, ruleState, hstores₁.own, hstores₂.own,
        hcounted rule (mem_unskipped.mpr ⟨hrule, hconcerns⟩) (hlt rule hrule)]
      split
      · next hhit => exact (htrace rule hrule hconcerns hhit).2.symm
      · rfl
    · rw [ruleState, ruleState, vector, vector, hstores₁.others ip hip, hstores₂.others ip hip]

theorem sameWithout_of_eq {r : RegexRequest} {db : RegexDb ρ} (hsound : M.Sound db)
    (heq : M.tryMatch db r = M.tryMatchLoop r (unskipped r M.ratedBanningRegexes) none db) :
    M.SameWithout r db := by
  obtain ⟨out, _, db', hrun, _, _⟩ := tryMatch_scan hsound r
  exact ⟨out, db', db', hrun, heq ▸ hrun, fun _ _ _ _ => rfl⟩

/-- A rule that skips the host concerns the others unless no rule skips it, no hit of
the rules that concern it counts, or a rule ahead of the skips ends the request.  When no
rule matches, or that rule is a simple one, the mutexes do not matter. -/
theorem tryMatch_unskipped_iff (r : RegexRequest) (db : RegexDb ρ) :
    ((M.SkipsIdle r ∨ ∃ p ∈ M.ratedBanningRegexes, M.isHit p r = true ∧ p.IsSimple ∧
        M.AheadOfSkips r p) →
      M.tryMatch db r = M.tryMatchLoop r (unskipped r M.ratedBanningRegexes) none db) ∧
    (M.Sound db → (M.SameWithout r db ↔ M.SkipsIdle r ∨ M.HitsTraceless r db ∨
      ∃ p ∈ M.ratedBanningRegexes, M.ends r (M.vector db r.ip) p ∧ M.AheadOfSkips r p)) := by
  refine ⟨?_, ?_⟩
  · rintro (hidle | ⟨p, hp, hhit, h0, hahead⟩)
    · exact tryMatch_of_skipsIdle db hidle
    · exact tryMatch_of_simple_ahead db hp hhit h0 hahead
  · intro hsound
    by_cases hahead :
        ∃ p ∈ M.ratedBanningRegexes, M.ends r (M.vector db r.ip) p ∧ M.AheadOfSkips r p
    · obtain ⟨p, hp, hend, hfront⟩ := hahead
      refine iff_of_true ?_ (.inr (.inr ⟨p, hp, hend, hfront⟩))
      exact sameWithout_of_eq hsound (tryMatch_of_ends_ahead hsound hp hend hfront)
    · by_cases hidle : M.SkipsIdle r
      · exact iff_of_true (sameWithout_of_eq hsound (tryMatch_of_skipsIdle db hidle)) (.inl hidle)
      · rw [sameWithout_iff_traceless hsound (fun hnone => hidle (.inl hnone)) hahead]
        simp only [hidle, hahead, false_or, or_false]

/-- With exact rates and intervals that are not empty, the hits count unless no rule
matches. -/
theorem hitsTraceless_rat {M : RegexManager ℚ} {r : RegexRequest} {db : RegexDb ℚ}
    (hi : ∀ rule ∈ M.ratedBanningRegexes, 0 < rule.interval) :
    M.HitsTraceless r db ↔
      ∀ p ∈ M.ratedBanningRegexes, r.clientRequestHost ∉ p.hostsToSkip → M.isHit p r = false := by
  constructor
  · intro htrace p hp hconcerns
    by_contra hhit
    have hhit' : M.isHit p r = true := by simpa using hhit
    exact RegexState.hit_ne_self (hi p hp) _ _ (htrace p hp hconcerns hhit').2
  · intro hnone p hp hconcerns hhit
    simp [hnone p hp hconcerns] at hhit

end RegexManager

/-- A rule that does not concern one host, and a simple one behind it. -/
def sampleSkip : RegexManager ℚ where
  fullMatch _ _ := true
  ratedBanningRegexes :=
    [.load 0 (bytes "flood") (bytes ".*") 1 2 [bytes "a.example"], sampleSimple]
  numbered := rfl

def sampleSkipHit : RegexRequest := ⟨bytes "10.0.0.1", [], bytes "a.example", 1000⟩

namespace RegexManager

/-- Another host is not skipped. -/
theorem tryMatch_unskipped_other_host :
    sampleTwoRules.SameWithout (sampleHit 1000) IpDb.empty := by
  refine ((tryMatch_unskipped_iff (sampleHit 1000) IpDb.empty).2 (sound_empty _)).mpr
    (.inl (.inl ?_))
  exact forall_sampleTwoRules (P := fun q => (sampleHit 1000).clientRequestHost ∉ q.hostsToSkip)
    List.not_mem_nil List.not_mem_nil

/-- The first rule skips the host, and the simple rule behind it is not examined. -/
theorem tryMatch_skip_hides_rule :
    ¬ ∀ (ρ : Type) (_ : FloatArithmetic ρ) (M : RegexManager ρ) (db : RegexDb ρ)
        (r : RegexRequest), M.Sound db → M.SameWithout r db := by
  intro h
  obtain ⟨out, db₁, db₂, hrun₁, hrun₂, _⟩ :=
    h ℚ exact sampleSkip IpDb.empty sampleSkipHit (sound_empty _)
  have hfull : sampleSkip.tryMatch IpDb.empty sampleSkipHit = .ok (none, IpDb.empty) := by
    rw [tryMatch, sampleSkip, tryMatchLoop, if_pos (by decide)]
  have hwithout : sampleSkip.tryMatchLoop sampleSkipHit
      (unskipped sampleSkipHit sampleSkip.ratedBanningRegexes) none IpDb.empty =
        .ok (some sampleSimple, IpDb.empty) := by
    rw [show unskipped sampleSkipHit sampleSkip.ratedBanningRegexes = [sampleSimple] from rfl,
      tryMatchLoop, if_neg (by decide), if_neg (by decide), if_pos sampleSimple_isSimple]
  cases hrun₁.symm.trans hfull
  cases hrun₂.symm.trans hwithout

end RegexManager

end Banjax
