import Banjax.Regex.Defs
import Banjax.Swabber.Isolation

/-!
# A request at the regex banner

`RegexManager::on_http_request` and `generate_response` of `regex_manager.cpp`: the
request is written as one record, `try_match` goes through the rules, and a rule that
matches asks the swabber for a ban.

In two states that agree on the address of the request it does the same, and it
changes nothing that belongs to another address (`onHttpRequest_alike`).
-/

namespace Banjax

open Lib

namespace RegexManager

variable {ρ : Type} [FloatArithmetic ρ] (M : RegexManager ρ)

/-- `ats_record`. -/
def atsRecord (method : Bytes) (parts : TransactionParts) : Bytes :=
  method ++ bytes " " ++ parts.url ++ bytes " " ++ parts.host ++ bytes " " ++ parts.ua

/-- `banning_reason`. -/
def banningReason (rule : RatedRegex ρ) (method : Bytes) (parts : TransactionParts) : Bytes :=
  bytes "matched regex rule " ++ rule.ruleName ++ bytes ", " ++ method ++ bytes ", " ++
    encapsulateInQuotes parts.url ++ bytes ", " ++ parts.host ++ bytes ", " ++
    encapsulateInQuotes parts.ua

/-- `RegexManager::on_http_request`.  `method` is a part that no other filter reads. -/
def onHttpRequest (S : Swabber) (e : BanEnv) (curTimeMsec : Int) (method : Bytes)
    (parts : TransactionParts) (db : RegexDb ρ) (s : SwabberState) :
    Except Fault (FilterResponse FilterExtendedResponse × RegexDb ρ × SwabberState) := do
  let ip := parts.ip.str
  let (result, db) ← M.tryMatch db ⟨ip, atsRecord method parts, parts.host, curTimeMsec⟩
  match result with
  | some rule => return (.iRespond {}, db, S.ban e ip (banningReason rule method parts) s)
  | none => return (.goAheadNoComment, db, s)

/-- `RegexManager::generate_response`. -/
def generateResponse : Bytes := bytes "<html><header></header><body>Forbidden</body></html>"

/-! ## Two states and one address -/

section Alike

variable {M} {r : RegexRequest} {d₀ e₀ d e : RegexDb ρ}

theorem retrieve_alike (h : IpDb.Alike r.ip d₀ e₀ d e) (ipState : Option (List (RegexState ρ))) :
    Agree (IpDb.Alike r.ip d₀ e₀) (retrieve r.ip ipState d) (retrieve r.ip ipState e) := by
  have hread : Agree (IpDb.Alike r.ip d₀ e₀) (d.getIpState r.ip) (e.getIpState r.ip) := by
    rw [h.getIpState.1, h.getIpState.2]
    exact ⟨rfl, h.tried⟩
  cases ipState with
  | none => exact hread
  | some states =>
      cases states with
      | nil => exact hread
      | cons s states => exact ⟨rfl, h⟩

/-- The loop over the rules, by induction on the rules that are left. -/
theorem tryMatchLoop_alike (rules : List (RatedRegex ρ)) (ipState : Option (List (RegexState ρ)))
    (h : IpDb.Alike r.ip d₀ e₀ d e) :
    Paired (Agree (IpDb.Alike r.ip d₀ e₀)) (M.tryMatchLoop r rules ipState d)
      (M.tryMatchLoop r rules ipState e) := by
  induction rules generalizing ipState d e with
  | nil =>
      cases ipState with
      | none => exact .ok ⟨rfl, h⟩
      | some states =>
          cases states with
          | nil => exact .ok ⟨rfl, h⟩
          | cons s states => exact .ok ⟨rfl, h.setIpState _⟩
  | cons rule rest ih =>
      rw [tryMatchLoop, tryMatchLoop]
      split
      · exact .ok ⟨rfl, h⟩
      split
      · exact ih ipState h
      split
      · exact .ok ⟨rfl, h⟩
      obtain ⟨states, d₁, e₁, hd, he, h₁⟩ := (retrieve_alike h ipState).parts
      rw [hd, he]
      cases states with
      | none => exact ih none h₁
      | some states =>
          dsimp only
          split
          · exact .error
          · split
            · exact .ok ⟨rfl, h₁.setIpState _⟩
            · exact ih _ h₁

theorem onHttpRequest_alike {S : Swabber} {answers : Bool → Prop} {parts : TransactionParts}
    {s₀ t₀ s t : SwabberState} (b : BanEnv) (hb : answers b.bindTry) (curTimeMsec : Int)
    (method : Bytes) (hdb : IpDb.Alike parts.ip.str d₀ e₀ d e)
    (hswabber : SwabberState.Alike S answers parts.ip.str s₀ t₀ s t) :
    Paired (Agree fun x y => IpDb.Alike parts.ip.str d₀ e₀ x.1 y.1 ∧
        SwabberState.Alike S answers parts.ip.str s₀ t₀ x.2 y.2)
      (M.onHttpRequest S b curTimeMsec method parts d s)
      (M.onHttpRequest S b curTimeMsec method parts e t) := by
  rw [onHttpRequest, onHttpRequest]
  refine Paired.bindAgree (tryMatchLoop_alike (r := ⟨_, _, _, _⟩) _ none hdb) ?_
  intro result d₁ e₁ h₁
  cases result with
  | none => exact .ok ⟨rfl, h₁, hswabber⟩
  | some rule => exact .ok ⟨rfl, h₁, hswabber.ban b hb _⟩

end Alike

end RegexManager

end Banjax
