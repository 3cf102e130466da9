import Banjax.Lib.Floats
import Banjax.Store.IpDb
import Banjax.Token.CookieHash

/-!
# The regex banner

`RegexManager` of `regex_manager.cpp`: the rules, the state kept for an address, and
`try_match`, which goes through the rules for one request.

A rate is a `float`, and what is done to it is done in `float` or in `double` as the source
has it, over any arithmetic of the two (`FloatArithmetic`).  Times are integers: `begin_msec`
is an `unsigned long`, but the movement of the window is taken as a `long`.  The clock is
read once per request.  An address has a vector of states in the database, one for
each rule and indexed by the number of the rule.  The numbers are given out in the
order of the rules, which the manager carries as a field (`numbered`).

`hit` is what one matching request does to the state of a rule.  With exact rationals it is
the formula of `hit_rat`.
-/

namespace Banjax

open Lib FloatArithmetic

/-- A host is looked up in a set. -/
instance decidableMemHosts (host : Bytes) (hosts : List Bytes) : Decidable (host ∈ hosts) :=
  inferInstance

/-- `RegexManager::RegexState`. -/
structure RegexState (ρ : Type) [FloatArithmetic ρ] where
  beginMsec : Int := 0
  rate : ρ := ofInt 0

/-- `RegexManager::RatedRegex`.  `interval` is in milliseconds, and `rate` is the
number of hits in an interval divided by it. -/
structure RatedRegex (ρ : Type) where
  id : Nat
  ruleName : Bytes
  re2Regex : Bytes
  interval : Nat
  rate : ρ
  hostsToSkip : List Bytes
deriving DecidableEq

section Rates

variable {ρ : Type} [FloatArithmetic ρ]

namespace RatedRegex

/-- The rule of one entry of the configuration.  The product is one of 32 bits. -/
def load (id : Nat) (rule regex : Bytes) (observationInterval threshold : UInt32)
    (hostsToSkip : List Bytes) : RatedRegex ρ :=
  let interval := (observationInterval * 1000).toNat
  let rate : Double ρ := divDouble (doubleOfInt threshold.toNat) (doubleOfInt interval)
  ⟨id, rule, regex, interval, narrow rate, hostsToSkip⟩

/-- `rule->rate == 0`: the rule needs no rate. -/
def IsSimple (rule : RatedRegex ρ) : Prop := equal rule.rate (ofInt 0) = true

/-- `state.rate >= rule->rate`. -/
def Exceeded (rule : RatedRegex ρ) (state : RegexState ρ) : Prop :=
  atLeast state.rate rule.rate = true

instance (rule : RatedRegex ρ) : Decidable rule.IsSimple := inferInstanceAs (Decidable (_ = _))

instance (rule : RatedRegex ρ) (state : RegexState ρ) : Decidable (rule.Exceeded state) :=
  inferInstanceAs (Decidable (_ = _))

end RatedRegex

/-- The update of the state of a rule for a request that matches it. -/
def RegexState.hit (rule : RatedRegex ρ) (curTimeMsec : Int) (state : RegexState ρ) :
    RegexState ρ :=
  let beginMsec := if state.beginMsec = 0 then curTimeMsec else state.beginMsec
  let timeWindowMovement := curTimeMsec - beginMsec - rule.interval
  let one : Double ρ := divDouble (doubleOfInt 1) (doubleOfInt rule.interval)
  if 0 < timeWindowMovement then
    let left := sub (mul state.rate (ofInt timeWindowMovement)) (ofInt 1)
    let rate := narrow (subDouble (widen state.rate)
      (divDouble (widen left) (doubleOfInt rule.interval)))
    ⟨beginMsec + timeWindowMovement, if less rate (ofInt 0) then narrow one else rate⟩
  else ⟨beginMsec, narrow (addDouble (widen state.rate) one)⟩

end Rates

/-! ## Exact rates -/

theorem RatedRegex.isSimple_rat {rule : RatedRegex ℚ} : rule.IsSimple ↔ rule.rate = 0 :=
  exact_equal ..

theorem RatedRegex.exceeded_rat {rule : RatedRegex ℚ} {state : RegexState ℚ} :
    rule.Exceeded state ↔ rule.rate ≤ state.rate := exact_atLeast ..

theorem RatedRegex.load_rat (id : Nat) (rule regex : Bytes) (observationInterval threshold : UInt32)
    (hostsToSkip : List Bytes) :
    (load id rule regex observationInterval threshold hostsToSkip : RatedRegex ℚ).rate =
      threshold.toNat / (observationInterval * 1000).toNat := rfl

theorem RegexState.hit_rat (rule : RatedRegex ℚ) (curTimeMsec : Int) (state : RegexState ℚ) :
    state.hit rule curTimeMsec =
      let beginMsec := if state.beginMsec = 0 then curTimeMsec else state.beginMsec
      let timeWindowMovement := curTimeMsec - beginMsec - rule.interval
      if 0 < timeWindowMovement then
        let rate := state.rate - (state.rate * timeWindowMovement - 1) / rule.interval
        ⟨beginMsec + timeWindowMovement, if rate < 0 then 1 / rule.interval else rate⟩
      else ⟨beginMsec, state.rate + 1 / rule.interval⟩ := by
  simp [hit]

/-- `RegexManager`. -/
structure RegexManager (ρ : Type) where
  /-- `RE2::FullMatch`: does the pattern match the whole text? -/
  fullMatch : Bytes → Bytes → Bool
  ratedBanningRegexes : List (RatedRegex ρ)
  /-- The rules are numbered in their order. -/
  numbered : ratedBanningRegexes.map RatedRegex.id = List.range ratedBanningRegexes.length

/-- A request as `try_match` sees it, with the time at which it is made. -/
structure RegexRequest where
  ip : Bytes
  atsRecord : Bytes
  clientRequestHost : Bytes
  curTimeMsec : Int

/-- The states of the addresses. -/
abbrev RegexDb (ρ : Type) [FloatArithmetic ρ] := IpDb (List (RegexState ρ))

namespace RegexManager

variable {ρ : Type} [FloatArithmetic ρ] (M : RegexManager ρ)

/-- `total_no_of_rules`. -/
def totalNoOfRules : Nat := M.ratedBanningRegexes.length

/-- The request matches the rule. -/
def isHit (rule : RatedRegex ρ) (r : RegexRequest) : Bool := M.fullMatch r.atsRecord rule.re2Regex

/-- The vector of the address, from the database when it has not been read yet or is
empty. -/
def retrieve (ip : Bytes) (ipState : Option (List (RegexState ρ))) (db : RegexDb ρ) :
    Option (List (RegexState ρ)) × RegexDb ρ :=
  match ipState with
  | some (s :: states) => (some (s :: states), db)
  | _ => db.getIpState ip

/-- The loop of `try_match` over the rules that are left.  `ipState` is the vector of
the address, once it has been read. -/
def tryMatchLoop (r : RegexRequest) :
    List (RatedRegex ρ) → Option (List (RegexState ρ)) → RegexDb ρ →
      Except Fault (Option (RatedRegex ρ) × RegexDb ρ)
  | [], ipState, db =>
      -- If we managed to make a valid state we are going to store it.
      match ipState with
      | some (s :: states) => .ok (none, (db.setIpState r.ip (s :: states)).2)
      | _ => .ok (none, db)
  | rule :: rest, ipState, db =>
      if r.clientRequestHost ∈ rule.hostsToSkip then .ok (none, db)
      else if !M.isHit rule r then tryMatchLoop r rest ipState db
      else if rule.IsSimple then .ok (some rule, db)
      else
        match retrieve r.ip ipState db with
        -- We failed to read the database, we make no judgement.
        | (none, db) => tryMatchLoop r rest none db
        | (some states, db) =>
            let states :=
              if states = [] then List.replicate M.totalNoOfRules ({} : RegexState ρ) else states
            match states[rule.id]? with
            | none => .error .outOfBounds
            | some state =>
                let state := state.hit rule r.curTimeMsec
                let states := states.set rule.id state
                if rule.Exceeded state then .ok (some rule, (db.setIpState r.ip states).2)
                else tryMatchLoop r rest (some states) db

/-- `try_match`: the rule that bans the address, if there is one, and the database. -/
def tryMatch (db : RegexDb ρ) (r : RegexRequest) : Except Fault
    (Option (RatedRegex ρ) × RegexDb ρ) :=
  M.tryMatchLoop r M.ratedBanningRegexes none db

/-- The database after a request. -/
def serve (db : RegexDb ρ) (r : RegexRequest) : Except Fault (RegexDb ρ) := do
  let (_, db) ← M.tryMatch db r
  return db

end RegexManager

end Banjax
