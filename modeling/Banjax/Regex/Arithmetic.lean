import Banjax.Challenger.Dynamic
import Banjax.Server.Loaders

/-!
# The arithmetic of the rates

The loader turns the seconds of a rule into milliseconds, in a product of 32 bits, and divides
the number of hits by it.  Every hit divides by the same number again.  Here each division is
checked: a divisor of zero is an error of its own, and `load_config` and `try_match` are written
once more with the checked division.

The loader accepts every `unsigned int`.  No second, or as many as the product cannot hold, make
an interval that is not the one of the configuration.  Between the two everything is well defined
(`wellDefined_iff`).
-/

namespace Banjax

open Lib ChallengeReader

/-- An error, or a division by zero. -/
inductive Checked (ε : Type) where
  | zeroDivisor
  | other (error : ε)
deriving DecidableEq

namespace Checked

variable {ε α β : Type}

/-- `x / (double) d`. -/
def divide (x : ℚ) (d : Nat) : Except (Checked ε) ℚ :=
  if d = 0 then .error .zeroDivisor else .ok (x / d)

/-- A step without a division. -/
def plain : Except ε α → Except (Checked ε) α
  | .ok a => .ok a
  | .error e => .error (.other e)

theorem divide_of_ne_zero {d : Nat} (hd : d ≠ 0) (x : ℚ) :
    (divide x d : Except (Checked ε) ℚ) = .ok (x / d) := if_neg hd

end Checked

open Checked

/-- The rule of one entry of the configuration. -/
def RatedRegex.loadChecked {ε : Type} (id : Nat) (rule regex : Bytes)
    (observationInterval threshold : UInt32) (hostsToSkip : List Bytes) :
    Except (Checked ε) (RatedRegex ℚ) := do
  let interval := (observationInterval * 1000).toNat
  let rate ← divide threshold.toNat interval
  return ⟨id, rule, regex, interval, rate, hostsToSkip⟩

/-- The update of the state of a rule for a request that matches it. -/
def RegexState.hitChecked (rule : RatedRegex ℚ) (curTimeMsec : Int) (state : RegexState ℚ) :
    Except (Checked Fault) (RegexState ℚ) :=
  let beginMsec := if state.beginMsec = 0 then curTimeMsec else state.beginMsec
  let timeWindowMovement := curTimeMsec - beginMsec - rule.interval
  if 0 < timeWindowMovement then do
    let rate := state.rate - (← divide (state.rate * timeWindowMovement - 1) rule.interval)
    let rate ← if rate < 0 then divide 1 rule.interval else .ok rate
    return ⟨beginMsec + timeWindowMovement, rate⟩
  else do
    let one ← divide 1 rule.interval
    return ⟨beginMsec, state.rate + one⟩

namespace RegexManager

/-- One rule of `load_config`. -/
def loadRuleChecked (R : ChallengeReader) (id : Nat) (node : Option Node) :
    Except (Checked ChallengeError) (RatedRegex ℚ) := do
  let curRule ← plain (lookup node (bytes "rule") >>= text (bytes "rule"))
  let observationInterval ← plain (lookup node (bytes "interval") >>= R.unsigned (bytes "interval"))
  let threshold ←
    plain (lookup node (bytes "hits_per_interval") >>= R.unsigned (bytes "hits_per_interval"))
  let hostsToSkip ←
    plain (optional node (bytes "hosts_to_skip") [] (texts (bytes "hosts_to_skip")))
  let regex ← plain (lookup node (bytes "regex") >>= text (bytes "regex"))
  RatedRegex.loadChecked id curRule regex observationInterval threshold hostsToSkip

/-- `load_config`. -/
def loadConfigChecked (R : ChallengeReader) (cfg : Node) :
    Except (Checked ChallengeError) (List (RatedRegex ℚ)) :=
  cfg.items.foldlM (fun rules node => do return rules ++ [← loadRuleChecked R rules.length node]) []

variable (M : RegexManager ℚ)

/-- The loop of `try_match`. -/
def tryMatchLoopChecked (r : RegexRequest) :
    List (RatedRegex ℚ) → Option (List (RegexState ℚ)) → RegexDb ℚ →
      Except (Checked Fault) (Option (RatedRegex ℚ) × RegexDb ℚ)
  | [], ipState, db =>
      match ipState with
      | some (s :: states) => .ok (none, (db.setIpState r.ip (s :: states)).2)
      | _ => .ok (none, db)
  | rule :: rest, ipState, db =>
      if r.clientRequestHost ∈ rule.hostsToSkip then .ok (none, db)
      else if !M.isHit rule r then tryMatchLoopChecked r rest ipState db
      else if rule.IsSimple then .ok (some rule, db)
      else
        match retrieve r.ip ipState db with
        | (none, db) => tryMatchLoopChecked r rest none db
        | (some states, db) =>
            let states :=
              if states = [] then List.replicate M.totalNoOfRules ({} : RegexState ℚ) else states
            match states[rule.id]? with
            | none => .error (.other .outOfBounds)
            | some state => do
                let state ← state.hitChecked rule r.curTimeMsec
                let states := states.set rule.id state
                if rule.Exceeded state then .ok (some rule, (db.setIpState r.ip states).2)
                else tryMatchLoopChecked r rest (some states) db

/-- `try_match`. -/
def tryMatchChecked (db : RegexDb ℚ) (r : RegexRequest) :
    Except (Checked Fault) (Option (RatedRegex ℚ) × RegexDb ℚ) :=
  M.tryMatchLoopChecked r M.ratedBanningRegexes none db

/-! ## Without a zero the checks do nothing -/

theorem loadChecked_eq {ε : Type} {id : Nat} {rule regex : Bytes} {secs hits : UInt32}
    {hosts : List Bytes}
    (h : (RatedRegex.load id rule regex secs hits hosts : RatedRegex ℚ).interval ≠ 0) :
    (RatedRegex.loadChecked id rule regex secs hits hosts : Except (Checked ε) (RatedRegex ℚ)) =
      .ok (.load id rule regex secs hits hosts) := by
  have hne : (secs * 1000).toNat ≠ 0 := h
  rw [RatedRegex.loadChecked, divide_of_ne_zero hne]
  rfl

theorem hitChecked_eq {rule : RatedRegex ℚ} (h : rule.interval ≠ 0) (t : Int)
    (state : RegexState ℚ) :
    state.hitChecked rule t = .ok (state.hit rule t) := by
  simp only [RegexState.hitChecked, RegexState.hit_rat, divide_of_ne_zero h, ok_bind]
  generalize (if state.beginMsec = 0 then t else state.beginMsec) = beginMsec
  split
  · split <;> rfl
  · rfl

theorem tryMatchLoopChecked_eq (r : RegexRequest) {rules : List (RatedRegex ℚ)}
    (h : ∀ rule ∈ rules, rule.interval ≠ 0) (ipState : Option (List (RegexState ℚ)))
    (db : RegexDb ℚ) :
    M.tryMatchLoopChecked r rules ipState db = plain (M.tryMatchLoop r rules ipState db) := by
  induction rules generalizing ipState db with
  | nil =>
      cases ipState with
      | none => rfl
      | some states => cases states <;> rfl
  | cons rule rest ih =>
      rw [List.forall_mem_cons] at h
      have ih := ih h.2
      rw [tryMatchLoopChecked, tryMatchLoop]
      simp only [hitChecked_eq h.1, ok_bind, ih]
      split
      · rfl
      · split
        · rfl
        · split
          · rfl
          · rcases retrieve r.ip ipState db with ⟨_ | states, db⟩
            · rfl
            · dsimp only
              generalize (if states = [] then _ else states) = vector
              cases vector[rule.id]? with
              | none => rfl
              | some state =>
                  dsimp only
                  split <;> rfl

/-! ## The rules of a configuration -/

/-- The numbers of a node: the seconds of the interval, and the hits in it. -/
structure Configured (R : ChallengeReader) (node : Option Node) (secs hits : UInt32) : Prop where
  interval : (lookup node (bytes "interval") >>= R.unsigned (bytes "interval")) = .ok secs
  hits : (lookup node (bytes "hits_per_interval") >>=
    R.unsigned (bytes "hits_per_interval")) = .ok hits

section Rules

variable {R : ChallengeReader} {id : Nat} {node : Option Node} {rule : RatedRegex ℚ}

/-- A rule is made of what its node has. -/
theorem loadRule_load (h : loadRule R id node = .ok rule) :
    ∃ name regex secs hits hosts, Configured R node secs hits ∧
      rule = .load id name regex secs hits hosts ∧
      (rule.interval ≠ 0 → loadRuleChecked R id node = .ok rule) := by
  obtain ⟨n₁, hlookup₁, h⟩ := bind_eq_ok.mp h
  obtain ⟨name, hname, h⟩ := bind_eq_ok.mp h
  obtain ⟨n₂, hlookup₂, h⟩ := bind_eq_ok.mp h
  obtain ⟨secs, hsecs, h⟩ := bind_eq_ok.mp h
  obtain ⟨n₃, hlookup₃, h⟩ := bind_eq_ok.mp h
  obtain ⟨hits, hhits, h⟩ := bind_eq_ok.mp h
  obtain ⟨hosts, hhosts, h⟩ := bind_eq_ok.mp h
  obtain ⟨n₄, hlookup₄, h⟩ := bind_eq_ok.mp h
  obtain ⟨regex, hregex, h⟩ := bind_eq_ok.mp h
  cases h
  refine ⟨name, regex, secs, hits, hosts, ⟨?_, ?_⟩, rfl, fun hne => ?_⟩
  · exact bind_eq_ok.mpr ⟨n₂, hlookup₂, hsecs⟩
  · exact bind_eq_ok.mpr ⟨n₃, hlookup₃, hhits⟩
  · rw [loadRuleChecked, hlookup₁, hlookup₂, hlookup₃, hlookup₄, hhosts, ok_bind, ok_bind, ok_bind,
      ok_bind, hname, hsecs, hhits, hregex]
    exact loadChecked_eq hne

theorem Configured.load (h : loadRule R id node = .ok rule) {secs hits : UInt32}
    (hnode : Configured R node secs hits) :
    rule.interval = (secs * 1000).toNat ∧ rule.rate = hits.toNat / rule.interval := by
  obtain ⟨name, regex, secs', hits', hosts, hnode', rfl, -⟩ := loadRule_load h
  cases hnode.interval.symm.trans hnode'.interval
  cases hnode.hits.symm.trans hnode'.hits
  exact ⟨rfl, rfl⟩

/-- Every rule has a node. -/
theorem loadRules_mem {nodes : List (Option Node)} {before rules : List (RatedRegex ℚ)}
    (h : nodes.foldlM (fun rules node => do return rules ++ [← loadRule R rules.length node])
      before = .ok rules) {rule : RatedRegex ℚ} (hmem : rule ∈ rules) :
    rule ∈ before ∨ ∃ node ∈ nodes, ∃ id, loadRule R id node = .ok rule := by
  induction nodes generalizing before with
  | nil =>
      cases h
      exact .inl hmem
  | cons node nodes ih =>
      rw [List.foldlM_cons] at h
      obtain ⟨next, hnext, h⟩ := bind_eq_ok.mp h
      obtain ⟨first, hfirst, hnext⟩ := bind_eq_ok.mp hnext
      cases hnext
      rcases ih h with hbefore | ⟨node', hnode', id, hload⟩
      · rcases List.mem_append.mp hbefore with hbefore | hbefore
        · exact .inl hbefore
        · rw [List.mem_singleton] at hbefore
          subst hbefore
          exact .inr ⟨node, List.mem_cons_self, before.length, hfirst⟩
      · exact .inr ⟨node', List.mem_cons_of_mem _ hnode', id, hload⟩

/-- The rules without a division by zero. -/
theorem loadRulesChecked_eq {nodes : List (Option Node)} {before rules : List (RatedRegex ℚ)}
    (h : nodes.foldlM (fun rules node => do return rules ++ [← loadRule R rules.length node])
      before = .ok rules) (hne : ∀ rule ∈ rules, rule.interval ≠ 0) :
    nodes.foldlM (fun rules node => do return rules ++ [← loadRuleChecked R rules.length node])
      before = .ok rules := by
  induction nodes generalizing before with
  | nil =>
      cases h
      rfl
  | cons node nodes ih =>
      rw [List.foldlM_cons] at h ⊢
      obtain ⟨next, hnext, h⟩ := bind_eq_ok.mp h
      obtain ⟨rule, hrule, hnext⟩ := bind_eq_ok.mp hnext
      cases hnext
      obtain ⟨more, rfl⟩ := loadRules_prefix h
      obtain ⟨-, -, -, -, -, -, -, hchecked⟩ := loadRule_load hrule
      rw [hchecked (hne rule (by simp)), ok_bind]
      exact ih h

end Rules

/-- A rule that bans on the first match, before anything is read. -/
def BansOnFirstMatch (rule : RatedRegex ℚ) : Prop :=
  ∀ (M : RegexManager ℚ) (r : RegexRequest) (rest : List (RatedRegex ℚ))
    (ipState : Option (List (RegexState ℚ))) (db : RegexDb ℚ),
    r.clientRequestHost ∉ rule.hostsToSkip → M.isHit rule r = true →
      M.tryMatchLoopChecked r (rule :: rest) ipState db = .ok (some rule, db)

/-- The arithmetic of a configuration is what it says. -/
structure WellDefined (R : ChallengeReader) (cfg : Node) (rules : List (RatedRegex ℚ)) : Prop where
  interval : ∀ (i : Nat) node secs hits, cfg.items[i]? = some node → Configured R node secs hits →
    ∃ rule, rules[i]? = some rule ∧ rule.interval = 1000 * secs.toNat ∧ rule.interval ≠ 0 ∧
      (hits = 0 → BansOnFirstMatch rule)
  load : loadConfigChecked R cfg = .ok rules
  tryMatch : ∀ M : RegexManager ℚ, M.ratedBanningRegexes = rules → ∀ db r,
    M.tryMatchChecked db r = plain (M.tryMatch db r)

/-- The seconds make an interval that fits. -/
def Fits (R : ChallengeReader) (cfg : Node) : Prop :=
  ∀ node ∈ cfg.items, ∀ secs hits, Configured R node secs hits →
    0 < secs.toNat ∧ 1000 * secs.toNat < 2 ^ 32

theorem bansOnFirstMatch_of_rate {rule : RatedRegex ℚ} (h : rule.rate = 0) :
    BansOnFirstMatch rule := by
  intro M r rest ipState db hskip hhit
  rw [tryMatchLoopChecked, if_neg hskip, hhit, Bool.not_true, if_neg Bool.false_ne_true,
    if_pos (RatedRegex.isSimple_rat.mpr h)]

theorem toNat_mul_thousand {secs : UInt32} :
    (secs * 1000).toNat = 1000 * secs.toNat ↔ 1000 * secs.toNat < 2 ^ 32 := by
  rw [UInt32.toNat_mul]
  show secs.toNat * 1000 % 2 ^ 32 = _ ↔ _
  omega

/-- The arithmetic is well defined when every interval has a second and fits, and only then. -/
theorem wellDefined_iff {R : ChallengeReader} {cfg : Node} {rules : List (RatedRegex ℚ)}
    (h : loadConfig R cfg = .ok rules) : WellDefined R cfg rules ↔ Fits R cfg := by
  have hrule : ∀ i node, cfg.items[i]? = some node →
      ∃ rule, rules[i]? = some rule ∧ loadRule R i node = .ok rule := by
    intro i node hnode
    have hfound := loadRules_getElem? h hnode
    rwa [List.length_nil, Nat.zero_add] at hfound
  constructor
  · intro hdefined node hnode secs hits hconfigured
    obtain ⟨i, hi⟩ := List.mem_iff_getElem?.mp hnode
    obtain ⟨rule, hget, hinterval, hne, -⟩ := hdefined.interval i node secs hits hi hconfigured
    obtain ⟨rule', hget', hload⟩ := hrule i node hi
    cases hget.symm.trans hget'
    rw [(hconfigured.load hload).1] at hinterval hne
    exact ⟨by omega, toNat_mul_thousand.mp hinterval⟩
  · intro hfits
    have hne : ∀ rule ∈ rules, rule.interval ≠ 0 := by
      intro rule hmem
      rcases loadRules_mem h hmem with hnil | ⟨node, hnode, id, hload⟩
      · exact absurd hnil List.not_mem_nil
      · obtain ⟨_, _, secs, hits, _, hconfigured, -, -⟩ := loadRule_load hload
        obtain ⟨hpos, hlt⟩ := hfits node hnode secs hits hconfigured
        rw [(hconfigured.load hload).1, toNat_mul_thousand.mpr hlt]
        omega
    refine ⟨?_, loadRulesChecked_eq h hne, ?_⟩
    · intro i node secs hits hi hconfigured
      obtain ⟨rule, hget, hload⟩ := hrule i node hi
      obtain ⟨hinterval, hrate⟩ := hconfigured.load hload
      have hlt := (hfits node (List.mem_of_getElem? hi) secs hits hconfigured).2
      refine ⟨rule, hget, ?_, hne rule (List.mem_of_getElem? hget), fun hzero => ?_⟩
      · rw [hinterval, toNat_mul_thousand.mpr hlt]
      · apply bansOnFirstMatch_of_rate
        rw [hrate, hzero]
        simp
    · rintro M rfl db r
      exact M.tryMatchLoopChecked_eq r hne none db

/-- A rule for a page that takes the interval. -/
def sampleRegexConfig (interval : String) : Node := .sequence [sampleMap [
  ("rule", sampleScalar "page"),
  ("regex", sampleScalar ".*page.*"),
  ("interval", sampleScalar interval),
  ("hits_per_interval", sampleScalar "0")]]

theorem sampleRegexConfig_fits : Fits sampleReader (sampleRegexConfig "60") := by
  intro node hnode secs hits h
  rw [List.mem_singleton.mp hnode] at h
  have hsecs : (Except.ok 60 : Except ChallengeError UInt32) = .ok secs := h.interval
  cases hsecs
  decide

theorem sampleRegexConfig_wellDefined : ∃ rules,
    loadConfig sampleReader (sampleRegexConfig "60") = .ok rules ∧
      WellDefined sampleReader (sampleRegexConfig "60") rules :=
  ⟨_, rfl, (wellDefined_iff rfl).mpr sampleRegexConfig_fits⟩

/-- The loader accepts an interval of no second, and divides by it, and one of more than a month,
which becomes 704 milliseconds. -/
theorem intervals_not_checked :
    (∃ rule : RatedRegex ℚ, loadConfig sampleReader (sampleRegexConfig "0") = .ok [rule] ∧
      rule.interval = 0) ∧
    loadConfigChecked sampleReader (sampleRegexConfig "0") = .error .zeroDivisor ∧
    (∃ rule : RatedRegex ℚ, loadConfig sampleReader (sampleRegexConfig "4294968") = .ok [rule] ∧
      rule.interval = 704) ∧
    ¬ ∀ R cfg rules, loadConfig R cfg = .ok rules → WellDefined R cfg rules := by
  have hzero : loadConfigChecked sampleReader (sampleRegexConfig "0") = .error .zeroDivisor := rfl
  refine ⟨⟨_, rfl, rfl⟩, hzero, ⟨_, rfl, rfl⟩, fun h => ?_⟩
  have hload := (h sampleReader (sampleRegexConfig "0") _ rfl).load
  rw [hzero] at hload
  cases hload

end RegexManager

end Banjax
