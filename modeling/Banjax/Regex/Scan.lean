import Banjax.Regex.Defs

/-!
# What `try_match` does

With every mutex free, `try_match` works on the vector of the address.  `Scan` lists
the ways through the rules: the rule that is returned, and the vector that is stored,
which is none when a skipped host or a simple rule ends the loop.  `tryMatch_scan` says
that the list is complete and that no access is out of bounds.
-/

namespace Banjax

open Lib

namespace RegexManager

variable {ρ : Type} (M : RegexManager ρ)

/-- The rule has a place in every vector. -/
theorem id_lt {rule : RatedRegex ρ} (h : rule ∈ M.ratedBanningRegexes) :
    rule.id < M.totalNoOfRules := by
  have hmem := List.mem_map_of_mem (f := RatedRegex.id) h
  rw [M.numbered] at hmem
  exact List.mem_range.mp hmem

theorem ids_nodup : (M.ratedBanningRegexes.map RatedRegex.id).Nodup := by
  rw [M.numbered]
  exact List.nodup_range

variable [FloatArithmetic ρ]

/-! ## The vector of an address -/

/-- The states of an address, those of an unseen address included. -/
def vector (db : RegexDb ρ) (ip : Bytes) : List (RegexState ρ) :=
  if db.stateOf ip = [] then List.replicate M.totalNoOfRules {} else db.stateOf ip

/-- The state of a rule for an address. -/
def ruleState (db : RegexDb ρ) (ip : Bytes) (rule : RatedRegex ρ) : RegexState ρ :=
  (M.vector db ip).getD rule.id {}

/-- Every mutex is free and every stored vector has the size of the rules. -/
structure Sound (db : RegexDb ρ) : Prop where
  acquired : db.AllAcquired
  sized : ∀ ip, (M.vector db ip).length = M.totalNoOfRules

theorem sound_empty : M.Sound IpDb.empty where
  acquired := IpDb.empty_allAcquired
  sized ip := by
    rw [vector, if_pos (show IpDb.empty.stateOf ip = [] from rfl), List.length_replicate]

/-! ## The ways through the rules -/

/-- The vector after a hit of the rule. -/
def counted (r : RegexRequest) (rule : RatedRegex ρ) (v : List (RegexState ρ)) : List
    (RegexState ρ) :=
  v.set rule.id ((v.getD rule.id {}).hit rule r.curTimeMsec)

/-- The rates after a hit reach the rate of the rule. -/
def exceeds (r : RegexRequest) (rule : RatedRegex ρ) (v : List (RegexState ρ)) : Prop :=
  rule.Exceeded ((v.getD rule.id {}).hit rule r.curTimeMsec)

/-- The ways through the rules that are left, from a vector to the rule returned and
the vector stored. -/
inductive Scan (r : RegexRequest) :
    List (RatedRegex ρ) → List (RegexState ρ) → Option (RatedRegex ρ) → Option
    (List (RegexState ρ)) → Prop where
  | done {v : List (RegexState ρ)} : Scan r [] v none (some v)
  | skipped {rule : RatedRegex ρ} {rest : List (RatedRegex ρ)} {v : List (RegexState ρ)} :
      r.clientRequestHost ∈ rule.hostsToSkip → Scan r (rule :: rest) v none none
  | missed {rule : RatedRegex ρ} {rest : List (RatedRegex ρ)} {v : List (RegexState ρ)}
      {out : Option (RatedRegex ρ)} {stored : Option (List (RegexState ρ))} :
      r.clientRequestHost ∉ rule.hostsToSkip → M.isHit rule r = false →
      Scan r rest v out stored → Scan r (rule :: rest) v out stored
  | simple {rule : RatedRegex ρ} {rest : List (RatedRegex ρ)} {v : List (RegexState ρ)} :
      r.clientRequestHost ∉ rule.hostsToSkip → M.isHit rule r = true → rule.IsSimple →
      Scan r (rule :: rest) v (some rule) none
  | exceeded {rule : RatedRegex ρ} {rest : List (RatedRegex ρ)} {v : List (RegexState ρ)} :
      r.clientRequestHost ∉ rule.hostsToSkip → M.isHit rule r = true → ¬ rule.IsSimple →
      exceeds r rule v → Scan r (rule :: rest) v (some rule) (some (counted r rule v))
  | counted {rule : RatedRegex ρ} {rest : List (RatedRegex ρ)} {v : List (RegexState ρ)}
      {out : Option (RatedRegex ρ)} {stored : Option (List (RegexState ρ))} :
      r.clientRequestHost ∉ rule.hostsToSkip → M.isHit rule r = true → ¬ rule.IsSimple →
      ¬ exceeds r rule v → Scan r rest (counted r rule v) out stored →
      Scan r (rule :: rest) v out stored

/-- The database after a request: the vector of the address is the stored one, and the
other addresses are untouched. -/
structure Stores (ip : Bytes) (db db' : RegexDb ρ)
    (stored : Option (List (RegexState ρ))) : Prop where
  sound : M.Sound db'
  own : M.vector db' ip = stored.getD (M.vector db ip)
  others : ∀ ip', ip' ≠ ip → db'.stateOf ip' = db.stateOf ip'

/-- What the loop has read of the address: its vector, or nothing yet. -/
inductive HasRead (ip : Bytes) (db : RegexDb ρ) :
    Option (List (RegexState ρ)) → List (RegexState ρ) → Prop where
  | unread : HasRead ip db none (M.vector db ip)
  | read {v : List (RegexState ρ)} : v ≠ [] → HasRead ip db (some v) v

variable {M}

theorem Sound.tried {db : RegexDb ρ} (h : M.Sound db) : M.Sound db.tried :=
  ⟨h.acquired.tried, h.sized⟩

/-- Nothing is stored. -/
theorem stores_none {ip : Bytes} {db : RegexDb ρ} (h : M.Sound db) : M.Stores ip db db none :=
  ⟨h, rfl, fun _ _ => rfl⟩

theorem stores_vector {ip : Bytes} {db : RegexDb ρ} (h : M.Sound db) :
    M.Stores ip db db (some (M.vector db ip)) :=
  ⟨h, rfl, fun _ _ => rfl⟩

/-- A vector of the right size is stored. -/
theorem stores_set {ip : Bytes} {db : RegexDb ρ} {v : List (RegexState ρ)} (h : M.Sound db)
    (hne : v ≠ []) (hlen : v.length = M.totalNoOfRules) :
    M.Stores ip db (db.setIpState ip v).2 (some v) := by
  have hown : M.vector (db.setIpState ip v).2 ip = v := by
    rw [vector, IpDb.stateOf_setIpState h.acquired, if_pos rfl, if_neg hne]
  have hothers : ∀ ip', ip' ≠ ip → (db.setIpState ip v).2.stateOf ip' = db.stateOf ip' := by
    intro ip' hip
    rw [IpDb.stateOf_setIpState h.acquired, if_neg hip]
  refine ⟨⟨h.acquired.setIpState ip v, ?_⟩, hown, hothers⟩
  intro ip'
  by_cases hip : ip' = ip
  · rw [hip, hown]
    exact hlen
  · rw [vector, hothers ip' hip]
    exact h.sized ip'

theorem Stores.of_tried {ip : Bytes} {db db' : RegexDb ρ} {stored : Option (List (RegexState ρ))}
    (h : M.Stores ip db.tried db' stored) : M.Stores ip db db' stored := ⟨h.sound, h.own, h.others⟩

theorem length_counted (r : RegexRequest) (rule : RatedRegex ρ) (v : List (RegexState ρ)) :
    (RegexManager.counted r rule v).length = v.length := List.length_set

/-- One hit in the loop, once the vector has been read. -/
theorem loop_hit {r : RegexRequest} {rule : RatedRegex ρ} {rest : List (RatedRegex ρ)}
    {db : RegexDb ρ}
    {v : List (RegexState ρ)} (hsound : M.Sound db) (hlen : v.length = M.totalNoOfRules)
    (hrule : rule ∈ M.ratedBanningRegexes) (hskip : r.clientRequestHost ∉ rule.hostsToSkip)
    (hhit : M.isHit rule r = true) (hrate : ¬ rule.IsSimple)
    (ih : ∀ v', v' ≠ [] → v'.length = M.totalNoOfRules → ∃ out stored db',
      M.tryMatchLoop r rest (some v') db = .ok (out, db') ∧ M.Scan r rest v' out stored ∧
        M.Stores r.ip db db' stored) :
    ∃ out stored db', (if rule.Exceeded ((v.getD rule.id {}).hit rule r.curTimeMsec) then
          .ok (some rule, (db.setIpState r.ip (RegexManager.counted r rule v)).2)
        else M.tryMatchLoop r rest (some (RegexManager.counted r rule v)) db) = .ok (out, db') ∧
      M.Scan r (rule :: rest) v out stored ∧ M.Stores r.ip db db' stored := by
  have hlen' : (RegexManager.counted r rule v).length = M.totalNoOfRules :=
    (length_counted r rule v).trans hlen
  have hne : RegexManager.counted r rule v ≠ [] := by
    refine List.ne_nil_of_length_pos ?_
    rw [hlen']
    exact Nat.zero_lt_of_lt (M.id_lt hrule)
  split
  · next hex => exact ⟨_, _, _, rfl, .exceeded hskip hhit hrate hex, stores_set hsound hne hlen'⟩
  · next hex =>
    obtain ⟨out, stored, db', hrun, hscan, hstores⟩ := ih _ hne hlen'
    exact ⟨out, stored, db', hrun, .counted hskip hhit hrate hex hscan, hstores⟩

theorem getElem?_of_sized {v : List (RegexState ρ)} {rule : RatedRegex ρ}
    (hlen : v.length = M.totalNoOfRules) (hrule : rule ∈ M.ratedBanningRegexes) :
    v[rule.id]? = some (v.getD rule.id {}) := by
  have hlt : rule.id < v.length := hlen ▸ M.id_lt hrule
  simp [hlt]

theorem tryMatchLoop_scan (r : RegexRequest) {rules : List (RatedRegex ρ)}
    (hrules : ∀ rule ∈ rules, rule ∈ M.ratedBanningRegexes) {ipState : Option (List (RegexState ρ))}
    {db : RegexDb ρ} {v : List (RegexState ρ)} (hsound : M.Sound db)
    (hread : M.HasRead r.ip db ipState v) (hlen : v.length = M.totalNoOfRules) :
    ∃ out stored db', M.tryMatchLoop r rules ipState db = .ok (out, db') ∧
      M.Scan r rules v out stored ∧ M.Stores r.ip db db' stored := by
  induction rules generalizing ipState db v with
  | nil =>
      cases hread with
      | unread => exact ⟨_, _, _, rfl, .done, stores_vector hsound⟩
      | read hne =>
          obtain ⟨s, states, rfl⟩ := List.exists_cons_of_ne_nil hne
          exact ⟨_, _, _, rfl, .done, stores_set hsound hne hlen⟩
  | cons rule rest ih =>
      have hrule := hrules rule (List.mem_cons_self ..)
      have hrest : ∀ q ∈ rest, q ∈ M.ratedBanningRegexes :=
        fun q hq => hrules q (List.mem_cons_of_mem _ hq)
      rw [tryMatchLoop]
      by_cases hskip : r.clientRequestHost ∈ rule.hostsToSkip
      · rw [if_pos hskip]
        exact ⟨_, _, _, rfl, .skipped hskip, stores_none hsound⟩
      rw [if_neg hskip]
      cases hhit : M.isHit rule r with
      | false =>
          obtain ⟨out, stored, db', hrun, hscan, hstores⟩ := ih hrest hsound hread hlen
          exact ⟨out, stored, db', hrun, .missed hskip hhit hscan, hstores⟩
      | true =>
          rw [if_neg (by simp)]
          by_cases hrate : rule.IsSimple
          · rw [if_pos hrate]
            exact ⟨_, _, _, rfl, .simple hskip hhit hrate, stores_none hsound⟩
          rw [if_neg hrate]
          cases hread with
          | read hne =>
              obtain ⟨s, states, rfl⟩ := List.exists_cons_of_ne_nil hne
              rw [show retrieve r.ip (some (s :: states)) db = (some (s :: states), db) from rfl]
              dsimp only
              rw [if_neg hne, getElem?_of_sized hlen hrule]
              exact loop_hit hsound hlen hrule hskip hhit hrate fun v' hne' hlen' =>
                ih hrest hsound (.read hne') hlen'
          | unread =>
              rw [show retrieve r.ip none db = db.getIpState r.ip from rfl,
                IpDb.getIpState_acquired hsound.acquired]
              dsimp only
              rw [show (if db.stateOf r.ip = [] then List.replicate M.totalNoOfRules {}
                else db.stateOf r.ip) = M.vector db r.ip from rfl, getElem?_of_sized hlen hrule]
              obtain ⟨out, stored, db', hrun, hscan, hstores⟩ :=
                loop_hit hsound.tried hlen hrule hskip hhit hrate fun v' hne' hlen' =>
                  ih hrest hsound.tried (.read hne') hlen'
              exact ⟨out, stored, db', hrun, hscan, hstores.of_tried⟩

/-- The list is complete. -/
theorem tryMatch_scan {db : RegexDb ρ} (hsound : M.Sound db) (r : RegexRequest) :
    ∃ out stored db', M.tryMatch db r = .ok (out, db') ∧
      M.Scan r M.ratedBanningRegexes (M.vector db r.ip) out stored ∧
      M.Stores r.ip db db' stored :=
  tryMatchLoop_scan r (fun _ h => h) hsound .unread (hsound.sized r.ip)

/-! ## One rule

The rules have different numbers, so that only a rule's own hit touches its state. -/

theorem getD_counted_ne (r : RegexRequest) {rule : RatedRegex ρ} {v : List (RegexState ρ)} {k : Nat}
    (h : rule.id ≠ k) : (RegexManager.counted r rule v).getD k {} = v.getD k {} := by
  rw [RegexManager.counted, List.getD_eq_getElem?_getD, List.getElem?_set_ne h,
    List.getD_eq_getElem?_getD]

theorem getD_counted_self (r : RegexRequest) {rule : RatedRegex ρ} {v : List (RegexState ρ)}
    (h : rule.id < v.length) :
    (RegexManager.counted r rule v).getD rule.id {} =
      (v.getD rule.id {}).hit rule r.curTimeMsec := by
  rw [RegexManager.counted, List.getD_eq_getElem?_getD, List.getElem?_set_self h]
  rfl

/-- The rules that are left do not touch the states of the others. -/
theorem Scan.frame {r : RegexRequest} {rules : List (RatedRegex ρ)} {v : List (RegexState ρ)}
    {out : Option (RatedRegex ρ)} {stored : Option (List (RegexState ρ))}
    (h : M.Scan r rules v out stored)
    {k : Nat} (hk : k ∉ rules.map RatedRegex.id) :
    ∀ v' ∈ stored, v'.getD k {} = v.getD k {} := by
  induction h with
  | done => simp
  | skipped _ => simp
  | missed _ _ _ ih => exact ih fun hmem => hk (List.mem_cons_of_mem _ hmem)
  | simple _ _ _ => simp
  | exceeded _ _ _ _ =>
      rintro _ ⟨⟩
      exact getD_counted_ne r fun he => hk (he ▸ List.mem_cons_self ..)
  | counted _ _ _ _ _ ih =>
      intro v' hv'
      rw [ih (fun hmem => hk (List.mem_cons_of_mem _ hmem)) v' hv']
      exact getD_counted_ne r fun he => hk (he ▸ List.mem_cons_self ..)

/-- A rule that is returned was one of those left. -/
theorem Scan.out_mem {r : RegexRequest} {rules : List (RatedRegex ρ)} {v : List (RegexState ρ)}
    {out : Option (RatedRegex ρ)} {stored : Option (List (RegexState ρ))}
    (h : M.Scan r rules v out stored) : ∀ rule ∈ out, rule ∈ rules := by
  induction h with
  | done => simp
  | skipped _ => simp
  | missed _ _ _ ih => exact fun rule hr => List.mem_cons_of_mem _ (ih rule hr)
  | simple _ _ _ => simp
  | exceeded _ _ _ _ => simp
  | counted _ _ _ _ _ ih => exact fun rule hr => List.mem_cons_of_mem _ (ih rule hr)

/-- A rule that is returned matches. -/
theorem Scan.out_isHit {r : RegexRequest} {rules : List (RatedRegex ρ)} {v : List (RegexState ρ)}
    {out : Option (RatedRegex ρ)} {stored : Option (List (RegexState ρ))}
    (h : M.Scan r rules v out stored) : ∀ rule ∈ out, M.isHit rule r = true := by
  induction h with
  | done => exact nofun
  | skipped _ => exact nofun
  | missed _ _ _ ih => exact ih
  | simple _ hhit _ =>
      rintro _ ⟨⟩
      exact hhit
  | exceeded _ hhit _ _ =>
      rintro _ ⟨⟩
      exact hhit
  | counted _ _ _ _ _ ih => exact ih

/-- Without a skipped host or a rule to return, the vector is stored. -/
theorem Scan.stores {r : RegexRequest} {rules : List (RatedRegex ρ)} {v : List (RegexState ρ)}
    {out : Option (RatedRegex ρ)} {stored : Option (List (RegexState ρ))}
    (h : M.Scan r rules v out stored)
    (hskip : ∀ q ∈ rules, r.clientRequestHost ∉ q.hostsToSkip) (hout : out = none) :
    ∃ v', stored = some v' := by
  induction h with
  | done => exact ⟨_, rfl⟩
  | skipped hs => exact absurd hs (hskip _ (List.mem_cons_self ..))
  | missed _ _ _ ih => exact ih (fun q hq => hskip q (List.mem_cons_of_mem _ hq)) hout
  | simple _ _ _ => cases hout
  | exceeded _ _ _ _ => cases hout
  | counted _ _ _ _ _ ih => exact ih (fun q hq => hskip q (List.mem_cons_of_mem _ hq)) hout

/-- The rules in front of a rule end the request, or the rule is reached with its state
as it was. -/
theorem Scan.reach {r : RegexRequest} {front back : List (RatedRegex ρ)} {rule : RatedRegex ρ}
    {v : List (RegexState ρ)} {out : Option (RatedRegex ρ)} {stored : Option (List (RegexState ρ))}
    (h : M.Scan r (front ++ rule :: back) v out stored)
    (hid : rule.id ∉ front.map RatedRegex.id) :
    ((out = none ∧ stored = none ∧ ∃ q ∈ front, r.clientRequestHost ∈ q.hostsToSkip) ∨
      (∃ q ∈ front, out = some q) ∧ ∀ v' ∈ stored, v'.getD rule.id {} = v.getD rule.id {}) ∨
    ∃ v₁, v₁.length = v.length ∧ v₁.getD rule.id {} = v.getD rule.id {} ∧
      M.Scan r (rule :: back) v₁ out stored := by
  induction front generalizing v with
  | nil => exact .inr ⟨v, rfl, rfl, h⟩
  | cons q front ih =>
      have hq : q.id ≠ rule.id := fun he => hid (he ▸ List.mem_cons_self ..)
      have hid' : rule.id ∉ front.map RatedRegex.id := fun hm => hid (List.mem_cons_of_mem _ hm)
      cases h with
      | skipped hs => exact .inl (.inl ⟨rfl, rfl, q, List.mem_cons_self .., hs⟩)
      | missed _ _ h =>
          rcases ih h hid' with (⟨ho, hst, p, hp, hs⟩ | ⟨⟨p, hp, ho⟩, hst⟩) | hreach
          · exact .inl (.inl ⟨ho, hst, p, List.mem_cons_of_mem _ hp, hs⟩)
          · exact .inl (.inr ⟨⟨p, List.mem_cons_of_mem _ hp, ho⟩, hst⟩)
          · exact .inr hreach
      | simple _ _ _ => exact .inl (.inr ⟨⟨q, List.mem_cons_self .., rfl⟩, nofun⟩)
      | exceeded _ _ _ _ =>
          refine .inl (.inr ⟨⟨q, List.mem_cons_self .., rfl⟩, ?_⟩)
          rintro _ ⟨⟩
          exact getD_counted_ne r hq
      | counted _ _ _ _ h =>
          have hv : (RegexManager.counted r q v).getD rule.id {} = v.getD rule.id {} :=
            getD_counted_ne r hq
          rcases ih h hid' with (⟨ho, hst, p, hp, hs⟩ | ⟨⟨p, hp, ho⟩, hst⟩) | ⟨v₁, hl, hv₁, h⟩
          · exact .inl (.inl ⟨ho, hst, p, List.mem_cons_of_mem _ hp, hs⟩)
          · exact .inl (.inr ⟨⟨p, List.mem_cons_of_mem _ hp, ho⟩,
              fun v' hv' => (hst v' hv').trans hv⟩)
          · exact .inr ⟨v₁, hl.trans (length_counted r q v), hv₁.trans hv, h⟩

variable (M)

/-- Nothing but the rule ends the request: no rule skips the host, and no other rule is
returned. -/
structure Alone (rule : RatedRegex ρ) (r : RegexRequest) (out : Option (RatedRegex ρ)) : Prop where
  unskipped : ∀ q ∈ M.ratedBanningRegexes, r.clientRequestHost ∉ q.hostsToSkip
  unbanned : ∀ q ∈ out, q = rule

/-- What a request does to the state of one rule, and when the rule is returned. -/
structure Effect (rule : RatedRegex ρ) (r : RegexRequest) (s s' : RegexState ρ)
    (out : Option (RatedRegex ρ)) : Prop where
  kept : s' = s ∨ M.isHit rule r = true ∧ s' = s.hit rule r.curTimeMsec
  returned : out = some rule → M.isHit rule r = true ∧ rule.Exceeded (s.hit rule r.curTimeMsec)
  alone : M.Alone rule r out → M.isHit rule r = true →
    s' = s.hit rule r.curTimeMsec ∧
      (rule.Exceeded (s.hit rule r.curTimeMsec) → out = some rule)

variable {M}

/-- The part of the loop that starts at the rule. -/
theorem Scan.effect_head {r : RegexRequest} {rule : RatedRegex ρ} {back : List (RatedRegex ρ)}
    {v v₀ : List (RegexState ρ)} {out : Option (RatedRegex ρ)}
    {stored : Option (List (RegexState ρ))}
    (h : M.Scan r (rule :: back) v out stored)
    (hsub : ∀ q ∈ rule :: back, q ∈ M.ratedBanningRegexes)
    (hid : rule.id ∉ back.map RatedRegex.id) (hlen : rule.id < v.length) (hrate : ¬ rule.IsSimple)
    (hv : v₀.getD rule.id {} = v.getD rule.id {}) :
    M.Effect rule r (v.getD rule.id {}) ((stored.getD v₀).getD rule.id {}) out := by
  have hback : ∀ {q}, q ∈ back → q ≠ rule := by
    rintro q hq rfl
    exact hid (List.mem_map_of_mem hq)
  cases h with
  | skipped hs =>
      have hin := hsub rule (List.mem_cons_self ..)
      exact ⟨.inl hv, nofun, fun ha _ => absurd hs (ha.unskipped rule hin)⟩
  | missed _ hmiss h =>
      refine ⟨.inl ?_, ?_, ?_⟩
      · cases stored with
        | none => exact hv
        | some v' => exact h.frame hid v' rfl
      · intro ho
        exact absurd rfl (hback (h.out_mem rule ho))
      · intro _ hhit
        rw [hmiss] at hhit
        cases hhit
  | simple _ _ h0 => exact absurd h0 hrate
  | exceeded _ hhit _ hex =>
      have hs : (RegexManager.counted r rule v).getD rule.id {} =
        (v.getD rule.id {}).hit rule r.curTimeMsec := getD_counted_self r hlen
      exact ⟨.inr ⟨hhit, hs⟩, fun _ => ⟨hhit, hex⟩, fun _ _ => ⟨hs, fun _ => rfl⟩⟩
  | counted _ hhit _ hex h =>
      have hs : (RegexManager.counted r rule v).getD rule.id {} =
        (v.getD rule.id {}).hit rule r.curTimeMsec := getD_counted_self r hlen
      refine ⟨?_, ?_, ?_⟩
      · cases stored with
        | none => exact .inl hv
        | some v' => exact .inr ⟨hhit, (h.frame hid v' rfl).trans hs⟩
      · intro ho
        exact absurd rfl (hback (h.out_mem rule ho))
      · intro ha _
        have ho : out = none := by
          cases out with
          | none => rfl
          | some q => exact absurd (ha.unbanned q rfl) (hback (h.out_mem q rfl))
        obtain ⟨v', rfl⟩ := h.stores
          (fun q hq => ha.unskipped q (hsub q (List.mem_cons_of_mem _ hq))) ho
        exact ⟨(h.frame hid v' rfl).trans hs, fun hle => absurd hle hex⟩

/-- A way through all the rules, as it looks from one of them. -/
theorem Scan.effect {r : RegexRequest} {rule : RatedRegex ρ} {v : List (RegexState ρ)}
    {out : Option (RatedRegex ρ)} {stored : Option (List (RegexState ρ))}
    (h : M.Scan r M.ratedBanningRegexes v out stored) (hrule : rule ∈ M.ratedBanningRegexes)
    (hrate : ¬ rule.IsSimple) (hlen : v.length = M.totalNoOfRules) :
    M.Effect rule r (v.getD rule.id {}) ((stored.getD v).getD rule.id {}) out := by
  obtain ⟨front, back, hsplit⟩ := List.append_of_mem hrule
  have hnodup := M.ids_nodup
  rw [hsplit, List.map_append, List.map_cons, List.nodup_append] at hnodup
  obtain ⟨_, hcons, hdisj⟩ := hnodup
  have hfront : rule.id ∉ front.map RatedRegex.id :=
    fun hm => hdisj _ hm _ (List.mem_cons_self ..) rfl
  have hne : ∀ {q}, q ∈ front → q ≠ rule := by
    rintro q hq rfl
    exact hfront (List.mem_map_of_mem hq)
  have hin : ∀ q ∈ front, q ∈ M.ratedBanningRegexes :=
    fun q hq => hsplit ▸ List.mem_append_left _ hq
  rcases (hsplit ▸ h).reach hfront with (⟨rfl, rfl, q, hq, hs⟩ | ⟨⟨q, hq, rfl⟩, hst⟩) | hreach
  · exact ⟨.inl rfl, nofun, fun ha _ => absurd hs (ha.unskipped q (hin q hq))⟩
  · refine ⟨.inl ?_, ?_, fun ha _ => absurd (ha.unbanned q rfl) (hne hq)⟩
    · cases stored with
      | none => rfl
      | some v' => exact hst v' rfl
    · intro ho
      exact absurd (Option.some.inj ho) (hne hq)
  · obtain ⟨v₁, hl, hv₁, hscan⟩ := hreach
    have hlt : rule.id < v₁.length := by
      rw [hl, hlen]
      exact M.id_lt hrule
    rw [← hv₁]
    exact hscan.effect_head (fun q hq => hsplit ▸ List.mem_append_right _ hq)
      (List.nodup_cons.mp hcons).1 hlt hrate hv₁.symm

/-- One request and one rule. -/
theorem tryMatch_effect {db : RegexDb ρ} (hsound : M.Sound db) {rule : RatedRegex ρ}
    (hrule : rule ∈ M.ratedBanningRegexes) (hrate : ¬ rule.IsSimple) (r : RegexRequest) :
    ∃ out db', M.tryMatch db r = .ok (out, db') ∧ M.Sound db' ∧
      M.Effect rule r (M.ruleState db r.ip rule) (M.ruleState db' r.ip rule) out ∧
      ∀ ip, ip ≠ r.ip → M.ruleState db' ip rule = M.ruleState db ip rule := by
  obtain ⟨out, stored, db', hrun, hscan, hstores⟩ := tryMatch_scan hsound r
  refine ⟨out, db', hrun, hstores.sound, ?_, ?_⟩
  · rw [ruleState, ruleState, hstores.own]
    exact hscan.effect hrule hrate (hsound.sized r.ip)
  · intro ip hip
    rw [ruleState, ruleState, vector, vector, hstores.others ip hip]

end RegexManager

end Banjax
