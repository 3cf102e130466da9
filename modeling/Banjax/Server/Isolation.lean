import Banjax.Challenger.Isolation
import Banjax.Server.Defs

/-!
# The requests of one address, seen from the others

A transaction is compared in two states of the server that agree on its address.  The
filters are called in the same order and answer alike, the client gets the same reply,
and in both states nothing changes that belongs to another address (`serve_alike`).

So the exchanges of some addresses are the same whether or not the requests of all
other addresses are served in between (`exchanges_filter`).
-/

namespace Banjax

open Lib

variable {ρ : Type} [FloatArithmetic ρ]

/-- Two states of the server have been worked on for one address. -/
structure ServerState.Alike (S : Server ρ) (answers : Bool → Prop) (ip : Bytes)
    (s₀ t₀ s t : ServerState ρ) : Prop where
  regex : IpDb.Alike ip s₀.regexManagerIpDb t₀.regexManagerIpDb s.regexManagerIpDb
    t.regexManagerIpDb
  challenger : IpDb.Alike ip s₀.challengerIpDb t₀.challengerIpDb s.challengerIpDb t.challengerIpDb
  swabber : SwabberState.Alike S.swabber answers ip s₀.swabber t₀.swabber s.swabber t.swabber

/-- At every attempt of the request to bind the socket, ZeroMQ gives one of the answers. -/
structure Request.BindsAs (r : Request) (answers : Bool → Prop) : Prop where
  request : ∀ f, answers (r.ban f).bindTry
  response : answers r.banAtResponse.bindTry

/-- What the loop over the filters has done in two states. -/
structure Progress.Alike (S : Server ρ) (answers : Bool → Prop) (ip : Bytes) (s₀ t₀ : ServerState ρ)
    (t u : Progress ρ) : Prop where
  executed : t.executed = u.executed
  noStore : t.noStore = u.noStore
  cacheOff : t.cacheOff = u.cacheOff
  responseInfo : t.responseInfo = u.responseInfo
  fault : t.fault = u.fault
  state : ServerState.Alike S answers ip s₀ t₀ t.state u.state

theorem SwabberState.Alike.banLogged {S : Swabber} {answers : Bool → Prop} {ip : Bytes}
    {s₀ t₀ s t : SwabberState} (h : Alike S answers ip s₀ t₀ s t) {e : BanEnv}
    (he : answers e.bindTry) {log : List Event}
    (hlog : ∀ ip' reason, .ban ip' reason ∈ log → ip' = ip) :
    Alike S answers ip s₀ t₀ (S.banLogged e log s) (S.banLogged e log t) := by
  induction log generalizing s t with
  | nil => exact h
  | cons event log ih =>
      have hrest := fun ip' reason hmem => hlog ip' reason (List.mem_cons_of_mem _ hmem)
      cases event with
      | ban ip' reason =>
          obtain rfl : ip' = ip := hlog ip' reason (List.mem_cons_self ..)
          exact ih (h.ban e he reason) hrest
      | _ => exact ih h hrest

/-- The world a request of the challenger starts in. -/
theorem World.Alike.start {ip : Bytes} {d₀ e₀ d e : IpDb UInt64} (h : IpDb.Alike ip d₀ e₀ d e) :
    World.Alike ip d₀ e₀ ⟨d, []⟩ ⟨e, []⟩ :=
  ⟨h, rfl, nofun⟩

namespace Server

variable {S : Server ρ} {answers : Bool → Prop} {r : Request} {s₀ t₀ s t : ServerState ρ}

/-! ## A transaction -/

theorem onHttpRequest_alike (hr : r.BindsAs answers)
    (h : ServerState.Alike S answers r.parts.ip.str s₀ t₀ s t) (f : FilterName) :
    Paired (Agree (ServerState.Alike S answers r.parts.ip.str s₀ t₀)) (S.onHttpRequest r s f)
      (S.onHttpRequest r t f) := by
  cases f with
  | whiteLister => exact .ok ⟨rfl, h⟩
  | botSniffer => exact .ok ⟨rfl, h⟩
  | regexBanner =>
      refine Paired.bindAgree (RegexManager.onHttpRequest_alike _ (hr.request _) _ _ h.regex
        h.swabber) ?_
      rintro response ⟨db, swabber⟩ ⟨db', swabber'⟩ ⟨hdb, hswabber⟩
      exact .ok ⟨rfl, hdb, h.challenger, hswabber⟩
  | challenger =>
      refine Paired.bindAgree (Challenger.onHttpRequest_alike (.start h.challenger)) ?_
      intro response w v hw
      refine .ok ⟨rfl, h.regex, hw.ipDb, ?_⟩
      dsimp only
      rw [← hw.log]
      exact h.swabber.banLogged (hr.request _) hw.bans
  | denialator =>
      obtain ⟨response, sw, sw', hs, ht, hsw⟩ :=
        (h.swabber.onHttpRequest S.denialator ⟨r.curTimeSec, r.ban .denialator⟩
          (hr.request _)).parts
      rw [onHttpRequest, onHttpRequest, hs, ht]
      exact .ok ⟨rfl, h.regex, h.challenger, hsw⟩

theorem runFilters_alike (hr : r.BindsAs answers) (fs : List FilterName) {t u : Progress ρ}
    (h : Progress.Alike S answers r.parts.ip.str s₀ t₀ t u) :
    Progress.Alike S answers r.parts.ip.str s₀ t₀ (S.runFilters r fs t) (S.runFilters r fs u) := by
  induction fs generalizing t u with
  | nil => exact h
  | cons f fs ih =>
      obtain ⟨he, hn, hc, hri, hf, hstate⟩ := h
      have hexec : t.executed ++ [f] = u.executed ++ [f] := by rw [he]
      have hcall := onHttpRequest_alike hr hstate f
      rw [runFilters, runFilters]
      dsimp only
      generalize S.onHttpRequest r t.state f = x at hcall
      generalize S.onHttpRequest r u.state f = y at hcall
      cases hcall with
      | error => exact ⟨hexec, hn, hc, hri, rfl, hstate⟩
      | ok hagree =>
          obtain ⟨response, s₁, t₁, rfl, rfl, h₁⟩ := hagree.parts
          cases response with
          | goAheadNoComment => exact ih ⟨hexec, hn, hc, hri, hf, h₁⟩
          | serveImmediatelyDontCache => exact ⟨hexec, rfl, hc, hri, hf, h₁⟩
          | serveFresh => exact ih ⟨hexec, rfl, rfl, hri, hf, h₁⟩
          | iRespond d => exact ⟨hexec, hn, hc, rfl, hf, h₁⟩

theorem generateResponse_alike (hr : r.BindsAs answers)
    (h : ServerState.Alike S answers r.parts.ip.str s₀ t₀ s t) (responder : Responder) :
    Paired (Agree (Agree (ServerState.Alike S answers r.parts.ip.str s₀ t₀)))
      (S.generateResponse r s responder) (S.generateResponse r t responder) := by
  cases responder with
  | regexBanner d => exact .ok ⟨rfl, rfl, h⟩
  | denialator d => exact .ok ⟨rfl, rfl, h⟩
  | challenger d =>
      refine Paired.bindAgree (Challenger.generateResponse_alike (.start h.challenger) d) ?_
      intro buf x y hxy
      obtain ⟨d, w, v, rfl, rfl, hw⟩ := hxy.parts
      refine .ok ⟨rfl, rfl, h.regex, hw.ipDb, ?_⟩
      dsimp only
      rw [← hw.log]
      exact h.swabber.banLogged hr.response hw.bans

theorem handleResponse_alike (hr : r.BindsAs answers) {t u : Progress ρ}
    (h : Progress.Alike S answers r.parts.ip.str s₀ t₀ t u) :
    Agree (ServerState.Alike S answers r.parts.ip.str s₀ t₀) (S.handleResponse r t)
      (S.handleResponse r u) := by
  rw [handleResponse, handleResponse, h.fault, h.responseInfo, h.noStore, h.cacheOff]
  cases u.fault with
  | some fault => exact ⟨rfl, h.state⟩
  | none =>
      cases u.responseInfo with
      | none => exact ⟨rfl, h.state⟩
      | some responder =>
          have hgen := generateResponse_alike hr h.state responder
          dsimp only
          generalize S.generateResponse r t.state responder = x at hgen
          generalize S.generateResponse r u.state responder = y at hgen
          cases hgen with
          | error => exact ⟨rfl, h.state⟩
          | ok hagree =>
              obtain ⟨buf, p, q, rfl, rfl, hpq⟩ := hagree.parts
              obtain ⟨d, s₁, t₁, rfl, rfl, h₁⟩ := hpq.parts
              exact ⟨rfl, h₁⟩

theorem serve_alike (hr : r.BindsAs answers)
    (h : ServerState.Alike S answers r.parts.ip.str s₀ t₀ s t) :
    Agree (ServerState.Alike S answers r.parts.ip.str s₀ t₀) (S.serve s r) (S.serve t r) := by
  have hreq : Progress.Alike S answers r.parts.ip.str s₀ t₀ (S.handleRequest s r)
      (S.handleRequest t r) := runFilters_alike hr _ ⟨rfl, rfl, rfl, rfl, rfl, h⟩
  obtain ⟨reply, s₁, t₁, hs, ht, h₁⟩ := (handleResponse_alike hr hreq).parts
  rw [serve, serve]
  dsimp only
  rw [hs, ht, hreq.executed, hreq.responseInfo]
  exact ⟨rfl, h₁⟩

end Server

/-! ## A run -/

/-- No try of a mutex of a database fails. -/
structure ServerState.AllAcquired (s : ServerState ρ) : Prop where
  regex : s.regexManagerIpDb.AllAcquired
  challenger : s.challengerIpDb.AllAcquired
  swabber : s.swabber.ipDb.AllAcquired

/-- Two states of the server agree on the chosen addresses. -/
structure ServerState.Matches (S : Server ρ) (answers : Bool → Prop) (others : Bytes → Bool)
    (s t : ServerState ρ) : Prop where
  regex : s.regexManagerIpDb.Matches others t.regexManagerIpDb
  challenger : s.challengerIpDb.Matches others t.challengerIpDb
  swabber : s.swabber.ipDb.Matches others t.swabber.ipDb
  steady : S.swabber.Steady answers s.swabber
  reach : ∀ b, answers b → S.swabber.reaches b s.swabber = S.swabber.reaches b t.swabber

namespace ServerState.Matches

variable {S : Server ρ} {answers : Bool → Prop} {others : Bytes → Bool} {r : Request}
  {s t : ServerState ρ}

theorem refl (h : s.AllAcquired) (hsteady : S.swabber.Steady answers s.swabber) :
    Matches S answers others s s :=
  ⟨⟨h.regex, h.regex, fun _ _ => rfl⟩, ⟨h.challenger, h.challenger, fun _ _ => rfl⟩,
    ⟨h.swabber, h.swabber, fun _ _ => rfl⟩, hsteady, fun _ _ => rfl⟩

/-- A request of a chosen address. -/
theorem shown (h : Matches S answers others s t) (hr : r.BindsAs answers)
    (hip : others r.parts.ip.str = true) :
    (S.serve s r).1 = (S.serve t r).1 ∧
      Matches S answers others (S.serve s r).2 (S.serve t r).2 := by
  have hstart : Alike S answers r.parts.ip.str s t s t :=
    ⟨.start h.regex.left h.regex.right (h.regex.same _ hip),
      .start h.challenger.left h.challenger.right (h.challenger.same _ hip),
      .start h.swabber.left h.swabber.right (h.swabber.same _ hip), h.steady, h.reach,
      fun _ _ => rfl, fun _ _ => rfl⟩
  obtain ⟨hout, hend⟩ := Server.serve_alike hr hstart
  exact ⟨hout, h.regex.both hend.regex, h.challenger.both hend.challenger,
    h.swabber.both hend.swabber.ipDb, hend.swabber.steady, hend.swabber.reach⟩

/-- A request of another address, in one of the states. -/
theorem hidden (h : Matches S answers others s t) (hr : r.BindsAs answers)
    (hip : others r.parts.ip.str = false) : Matches S answers others (S.serve s r).2 t := by
  have hstart : Alike S answers r.parts.ip.str s s s s :=
    ⟨.start h.regex.left h.regex.left rfl, .start h.challenger.left h.challenger.left rfl,
      .start h.swabber.left h.swabber.left rfl, h.steady, fun _ _ => rfl, fun _ _ => rfl,
      fun _ _ => rfl⟩
  obtain ⟨_, hend⟩ := Server.serve_alike hr hstart
  exact ⟨h.regex.one hip hend.regex, h.challenger.one hip hend.challenger,
    h.swabber.one hip hend.swabber.ipDb, hend.swabber.steady,
    fun b hb => (hend.swabber.leftReach b hb).trans (h.reach b hb)⟩

end ServerState.Matches

namespace Server

/-- The socket is bound or has been released, or ZeroMQ gives the same answer whenever a
request of the run tries to bind it. -/
def SteadySocket (S : Server ρ) (s : ServerState ρ) (requests : List Request) : Prop :=
  S.swabber.reaches true s.swabber = S.swabber.reaches false s.swabber ∨
    ∃ bindTry, ∀ r ∈ requests, r.BindsAs (· = bindTry)

/-- Then there are answers among which it makes no difference which one ZeroMQ gives. -/
theorem SteadySocket.answers {S : Server ρ} {s : ServerState ρ} {requests : List Request}
    (h : S.SteadySocket s requests) : ∃ answers, S.swabber.Steady answers s.swabber ∧
      ∀ r ∈ requests, r.BindsAs answers := by
  rcases h with h | ⟨bindTry, h⟩
  · refine ⟨fun _ => True, ?_, fun r _ => ⟨fun _ => trivial, trivial⟩⟩
    intro b b' _ _
    cases b <;> cases b' <;> simp [h]
  · refine ⟨(· = bindTry), ?_, h⟩
    rintro b b' rfl rfl
    rfl

/-- The exchanges of the chosen addresses do not depend on the requests of all others. -/
theorem exchanges_filter (S : Server ρ) {s : ServerState ρ} (hs : s.AllAcquired)
    (others : Bytes → Bool) {requests : List Request} (hsocket : S.SteadySocket s requests) :
    (S.exchanges s requests).filter (fun x => others x.1.parts.ip.str) =
      S.exchanges s (requests.filter fun r => others r.parts.ip.str) := by
  obtain ⟨answers, hsteady, hbinds⟩ := hsocket.answers
  refine outputs_filter (R := ServerState.Matches S answers others)
    (fun r : Request => others r.parts.ip.str) ?_ ?_ (.refl hs hsteady)
  · intro s t r hr h hip
    exact h.hidden (hbinds r hr) hip
  · intro s t r hr h hip
    exact h.shown (hbinds r hr) hip

end Server

end Banjax
