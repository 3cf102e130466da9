import Banjax.Challenger.Parse
import Banjax.Config.Merge
import Banjax.Swabber.Defs
import Banjax.Transaction.BotSniffer

/-!
# Loading the owners of the sockets

`load_config` of `swabber.cpp` and of `bot_sniffer.cpp`.  The swabber reads its sections one
after the other, so that the last one that gives a field wins.  The sniffer reads the sections
after they have been merged.

Both are handed the socket of the instance before them, and keep it when it is bound to the
endpoint that is now configured.
-/

namespace Banjax

open Lib ChallengeReader

/-- `YAML::Node::as<long>` and `as<unsigned int>`. -/
structure Conversions where
  asLong : Node → Option Int
  asUnsigned : Node → Option UInt32

/-! ## The swabber -/

/-- The members of `Swabber` that are read, with their defaults. -/
structure SwabberConf where
  swabberServer : Bytes := bytes "*"
  swabberPort : Bytes := bytes "22620"
  gracePeriod : Int := 0
deriving DecidableEq

/-- `local_endpoint`. -/
def SwabberConf.localEndpoint (c : SwabberConf) : Bytes :=
  bytes "tcp://" ++ c.swabberServer ++ bytes ":" ++ c.swabberPort

namespace Conversions

variable (A : Conversions)

/-- `as<long>`. -/
def long (field : Bytes) : Option Node → Except ChallengeError Int
  | none => .error (.invalidNode field)
  | some node =>
      match A.asLong node with
      | some n => .ok n
      | none => .error (.badConversion field)

/-- One turn of the loop of `Swabber::load_config`. -/
def readSwabberNode (c : SwabberConf) (curNode : Node) : Except ChallengeError SwabberConf := do
  let gracePeriod ← optional (some curNode) (bytes "grace_period") c.gracePeriod
    (A.long (bytes "grace_period"))
  let swabberPort ← optional (some curNode) (bytes "port") c.swabberPort (text (bytes "port"))
  let swabberServer ← optional (some curNode) (bytes "server") c.swabberServer
    (text (bytes "server"))
  return ⟨swabberServer, swabberPort, gracePeriod⟩

/-- The loop. -/
def readSwabber (swabberConfig : List (Node × Node)) : Except ChallengeError SwabberConf :=
  swabberConfig.foldlM (fun c curNode => A.readSwabberNode c curNode.2) {}

/-- What `Swabber` is configured with. -/
def swabber (swabberConfig : List (Node × Node)) : Except ChallengeError Swabber := do
  let c ← A.readSwabber swabberConfig
  return ⟨c.gracePeriod, c.localEndpoint⟩

end Conversions

/-- The socket at the end of `Swabber::load_config`, from the one it begins with. -/
def Swabber.loadSocket (S : Swabber) (socket : Socket) (bindTry : Bool) : Socket :=
  let socket := if socket.localEndpoint ≠ S.localEndpoint then {} else socket
  (socket.bind S.localEndpoint bindTry).2

/-! ## The sniffer -/

/-- `botbanger_port`.  Without a `key` the constructor throws as well. -/
def Conversions.botbangerPort (A : Conversions) (filterConfig : FilterConfig) : Option Nat := do
  let cfg ← filterConfig.cfg.toOption
  let port ← (lookup cfg (bytes "botbanger_port")).toOption.join
  let key ← (lookup cfg (bytes "key")).toOption.join
  let botbangerPort ← A.asUnsigned port
  let _ ← key.asString
  return botbangerPort.toNat

/-- The endpoint of a sniffer with this port. -/
def BotSniffer.endpointAt (botbangerPort : Nat) : Bytes :=
  BotSniffer.localEndpoint ⟨none, botbangerPort⟩

/-- `BotSniffer::load_config`, with the socket that is handed over. -/
def BotSniffer.load (botbangerPort : Nat) (socket : Option Socket) (bindTry : Bool) : BotSniffer :=
  let socket :=
    if socket.map Socket.localEndpoint ≠ some (endpointAt botbangerPort) then
      some (Socket.bind {} (endpointAt botbangerPort) bindTry).2
    else socket
  ⟨socket, botbangerPort⟩

/-! ## What is loaded -/

theorem Socket.bind_snd (s : Socket) {endpoint : Bytes} (bindTry : Bool) (hne : endpoint ≠ []) :
    (s.bind endpoint bindTry).2.localEndpoint =
      if s.localEndpoint = endpoint ∨ bindTry = true then endpoint else [] := by
  rw [bind, if_neg hne]
  rcases eq_or_ne endpoint s.localEndpoint with rfl | hother
  · simp
  · rw [if_neg hother]
    cases bindTry with
    | true => simp
    | false => simp [hother.symm]

theorem SwabberConf.localEndpoint_ne_nil (c : SwabberConf) : c.localEndpoint ≠ [] := by
  simp [localEndpoint, bytes]

/-- A swabber always has an endpoint. -/
theorem Conversions.swabber_localEndpoint {A : Conversions} {swabberConfig : List (Node × Node)}
    {S : Swabber} (h : A.swabber swabberConfig = .ok S) : S.localEndpoint ≠ [] := by
  obtain ⟨c, -, h⟩ := bind_eq_ok.mp h
  cases h
  exact c.localEndpoint_ne_nil

theorem BotSniffer.localEndpoint_ne_nil (sniffer : BotSniffer) : sniffer.localEndpoint ≠ [] := by
  simp [localEndpoint, bytes]

/-- The swabber ends up bound to its endpoint when it was before, or when the bind succeeds. -/
theorem Swabber.loadSocket_localEndpoint {S : Swabber} (hne : S.localEndpoint ≠ [])
    (socket : Socket) (bindTry : Bool) :
    (S.loadSocket socket bindTry).localEndpoint =
      if socket.localEndpoint = S.localEndpoint ∨ bindTry = true then S.localEndpoint else [] := by
  rw [loadSocket, Socket.bind_snd _ _ hne]
  rcases eq_or_ne socket.localEndpoint S.localEndpoint with heq | hother
  · rw [if_neg (not_not_intro heq)]
  · rw [if_pos hother]
    simp [hother, hne.symm]

/-- And so does the sniffer. -/
theorem BotSniffer.load_socket (botbangerPort : Nat) (socket : Option Socket) (bindTry : Bool) :
    ∃ loaded, (load botbangerPort socket bindTry).socket = some loaded ∧
      loaded.localEndpoint =
        if socket.map Socket.localEndpoint = some (endpointAt botbangerPort) ∨ bindTry = true
        then endpointAt botbangerPort else [] := by
  have hne : endpointAt botbangerPort ≠ [] := localEndpoint_ne_nil _
  rcases eq_or_ne (socket.map Socket.localEndpoint) (some (endpointAt botbangerPort)) with
    hkept | hother
  · obtain ⟨kept, rfl, hendpoint⟩ := Option.map_eq_some_iff.mp hkept
    refine ⟨kept, if_neg (not_not_intro hkept), ?_⟩
    rw [if_pos (.inl hkept), hendpoint]
  · refine ⟨_, if_pos hother, ?_⟩
    rw [Socket.bind_snd _ _ hne]
    simp [hother, hne.symm]

/-! ## What is done with the sockets -/

/-- A socket that is bound to nothing but the endpoint. -/
def BoundTo (endpoint : Bytes) (socket : Option Socket) : Prop :=
  ∀ k, socket = some k → k.localEndpoint = [] ∨ k.localEndpoint = endpoint

theorem boundTo_none (endpoint : Bytes) : BoundTo endpoint none := nofun

theorem boundTo_some {endpoint : Bytes} {k : Socket}
    (h : k.localEndpoint = [] ∨ k.localEndpoint = endpoint) : BoundTo endpoint (some k) := by
  rintro _ ⟨⟩
  exact h

/-- What both of them do in front of a message. -/
theorem Socket.rebind (k : Socket) {endpoint : Bytes} (bindTry : Bool) (hne : endpoint ≠ [])
    (hk : k.localEndpoint = [] ∨ k.localEndpoint = endpoint) :
    let bound := if k.isBound then (true, k) else k.bind endpoint bindTry
    bound.1 = (k.isBound || bindTry) ∧
      bound.2.localEndpoint = if bound.1 = true then endpoint else [] := by
  cases hbound : k.isBound with
  | true =>
      refine ⟨rfl, ?_⟩
      have hsome : k.localEndpoint ≠ [] := by simpa [isBound] using hbound
      exact hk.resolve_left hsome
  | false =>
      have hnone : k.localEndpoint = [] := by simpa [isBound] using hbound
      cases bindTry <;> simp [bind, hnone, hne]

namespace Swabber

variable {S : Swabber} {e : BanEnv} {ip reason : Bytes} {s : SwabberState}

theorem awaitGrace_socket (S : Swabber) (e : BanEnv) (ip reason : Bytes) (s : SwabberState) :
    (S.awaitGrace e ip reason s).2.socket = s.socket ∧
      (S.awaitGrace e ip reason s).2.sent = s.sent := by
  unfold awaitGrace
  split
  · split
    · exact ⟨rfl, rfl⟩
    · split <;> exact ⟨rfl, rfl⟩
  · exact ⟨rfl, rfl⟩

/-- The grace period is over, and the socket is there and bound, or it can be. -/
structure Sends (S : Swabber) (e : BanEnv) (ip reason : Bytes) (s : SwabberState) : Prop where
  grace : (S.awaitGrace e ip reason s).1 = true
  lockTry : e.lockTry = true
  socket : ∃ k, s.socket = some k ∧ (k.isBound || e.bindTry) = true

theorem publish_none (hs : s.socket = none) : S.publish e ip reason s = (false, s) := by
  rw [publish, hs]
  cases e.lockTry <;> rfl

/-- Publishing keeps the socket, and sends a message over it or none. -/
theorem publish_some {k : Socket} (hne : S.localEndpoint ≠ []) (hk : s.socket = some k)
    (hbound : BoundTo S.localEndpoint s.socket) (e : BanEnv) (ip reason : Bytes) :
    ((S.publish e ip reason s).1 = true ↔ e.lockTry = true ∧ (k.isBound || e.bindTry) = true) ∧
      (S.publish e ip reason s).2.socket.isSome = true ∧
      BoundTo S.localEndpoint (S.publish e ip reason s).2.socket ∧
      ((S.publish e ip reason s).1 = true →
        (S.publish e ip reason s).2.socket.map Socket.localEndpoint = some S.localEndpoint) := by
  obtain ⟨hfst, hsnd⟩ := k.rebind e.bindTry hne (hbound k hk)
  rw [← bindSocket] at hfst hsnd
  cases hlock : e.lockTry with
  | false =>
      have hpublish : S.publish e ip reason s = (false, s) := by rw [publish, hlock]; rfl
      rw [hpublish]
      exact ⟨by simp, by rw [hk]; rfl, hbound, nofun⟩
  | true =>
      cases hbind : S.bindSocket e k with
      | mk bound k' =>
          rw [hbind] at hfst hsnd
          have hpublish : (S.publish e ip reason s).1 = bound ∧
              (S.publish e ip reason s).2.socket = some k' := by
            rw [publish, hlock, hk]
            dsimp only
            rw [hbind]
            cases bound <;> exact ⟨rfl, rfl⟩
          rw [hpublish.1, hpublish.2]
          refine ⟨by simp [← hfst], rfl, boundTo_some ?_, fun h => ?_⟩
          · rw [hsnd]
            split
            · exact .inr rfl
            · exact .inl rfl
          · rw [Option.map_some, hsnd, if_pos h]

/-- A ban keeps the socket, bound to nothing but the endpoint, and sends a message over it or
none. -/
theorem ban_socket (hne : S.localEndpoint ≠ []) (hs : BoundTo S.localEndpoint s.socket)
    (e : BanEnv) (ip reason : Bytes) :
    (S.ban e ip reason s).socket.isSome = s.socket.isSome ∧
      BoundTo S.localEndpoint (S.ban e ip reason s).socket ∧
      (S.Sends e ip reason s ∧ (S.ban e ip reason s).sent = s.sent ++ [(swabberBan, ip)] ∧
          (S.ban e ip reason s).socket.map Socket.localEndpoint = some S.localEndpoint ∨
        ¬ S.Sends e ip reason s ∧ (S.ban e ip reason s).sent = s.sent) := by
  obtain ⟨hsocket, hsent⟩ := S.awaitGrace_socket e ip reason s
  rw [ban]
  cases hwait : S.awaitGrace e ip reason s with
  | mk waited u =>
      rw [hwait] at hsocket hsent
      dsimp only at hsocket hsent
      have hgrace : S.Sends e ip reason s → waited = true := fun h => by
        have := h.grace
        rwa [hwait] at this
      cases waited with
      | false =>
          have hnot : ¬ S.Sends e ip reason s := fun h => Bool.false_ne_true (hgrace h)
          exact ⟨by rw [hsocket], hsocket ▸ hs, .inr ⟨hnot, hsent⟩⟩
      | true =>
          dsimp only
          cases hk : s.socket with
          | none =>
              have hnot : ¬ S.Sends e ip reason s := by
                intro h
                obtain ⟨k, hk', -⟩ := h.socket
                rw [hk] at hk'
                cases hk'
              rw [publish_none (hsocket.trans hk)]
              exact ⟨by rw [hsocket, hk], hsocket ▸ hs, .inr ⟨hnot, hsent⟩⟩
          | some k =>
              obtain ⟨hiff, hsome, hends, hover⟩ :=
                publish_some hne (hsocket.trans hk) (hsocket ▸ hs) e ip reason
              have hsends : S.Sends e ip reason s ↔ (S.publish e ip reason u).1 = true := by
                rw [hiff]
                refine ⟨fun h => ⟨h.lockTry, ?_⟩, fun h => ⟨by rw [hwait], h.1, k, hk, h.2⟩⟩
                obtain ⟨k', hk', hok⟩ := h.socket
                rw [hk] at hk'
                cases hk'
                exact hok
              cases hpublish : S.publish e ip reason u with
              | mk sent v =>
                  have hlog := publish_sent hpublish
                  rw [hpublish] at hsome hends hover hsends
                  cases sent with
                  | false =>
                      refine ⟨hsome, hends, .inr ⟨?_, ?_⟩⟩
                      · rw [hsends]
                        exact Bool.false_ne_true
                      · rw [if_neg Bool.false_ne_true] at hlog
                        exact hlog.trans hsent
                  | true =>
                      refine ⟨hsome, hends, .inl ⟨hsends.mpr rfl, ?_, hover rfl⟩⟩
                      rw [if_pos rfl] at hlog
                      rw [← hsent]
                      exact hlog

end Swabber

/-- A close keeps the socket in the same way, and what it sends goes over it. -/
theorem BotSniffer.onHttpClose_socket (sniffer : BotSniffer)
    (hs : BoundTo sniffer.localEndpoint sniffer.socket) (e : Close) (m : TransactionMuncher) :
    (sniffer.onHttpClose e m).sniffer.botbangerPort = sniffer.botbangerPort ∧
      (sniffer.onHttpClose e m).sniffer.socket.isSome = sniffer.socket.isSome ∧
      BoundTo sniffer.localEndpoint (sniffer.onHttpClose e m).sniffer.socket ∧
      ((sniffer.onHttpClose e m).sent = [] ∨
        (sniffer.onHttpClose e m).sniffer.socket.map Socket.localEndpoint =
          some sniffer.localEndpoint) := by
  rw [onHttpClose]
  split
  · next k hlock hk =>
    obtain ⟨hfst, hsnd⟩ := k.rebind e.bindTry sniffer.localEndpoint_ne_nil (hs k hk)
    rw [← bound] at hfst hsnd
    cases hbound : sniffer.bound e.bindTry k with
    | mk bound k' =>
        rw [hbound] at hsnd
        have hk' : BoundTo sniffer.localEndpoint (some k') := by
          refine boundTo_some ?_
          rw [hsnd]
          split
          · exact .inr rfl
          · exact .inl rfl
        cases bound with
        | false => exact ⟨rfl, by rw [hk]; rfl, hk', .inl rfl⟩
        | true =>
            have hover : (some k').map Socket.localEndpoint = some sniffer.localEndpoint := by
              rw [Option.map_some, hsnd, if_pos rfl]
            dsimp only
            rw [if_pos rfl]
            split <;> exact ⟨rfl, by rw [hk]; rfl, hk', .inr hover⟩
  · exact ⟨rfl, rfl, hs, .inl rfl⟩

end Banjax
