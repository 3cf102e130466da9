import Banjax.Server.Sockets

/-!
# The endpoints of the process

A socket that is handed over to an object without a sniffer stays in `botsniffer_socket_reuse`,
bound, and the next reload does not take it from there.  So a sniffer that one reload takes away
and a later one brings back finds its endpoint taken as long as the objects in between live
(`sniffer_blocked`).

That rests on ZeroMQ, which does not bind a second socket of a process to an endpoint
(`Refuses`).  It is assumed of the one endpoint that a result is about.  It does not hold of the
port 0, which stands for any port that is free.
-/

namespace Banjax

open Lib

/-- The endpoint to which a socket is bound. -/
def boundEndpoint (socket : Option Socket) : Option Bytes :=
  socket.bind fun k => if k.isBound then some k.localEndpoint else none

/-- The sockets of an object. -/
inductive SocketKind where
  | swabber
  | sniffer
  | reuse
deriving DecidableEq

/-- Where sockets are. -/
inductive SocketPlace where
  | object (n : Nat) (kind : SocketKind)
  | swabS
  | snifS
deriving DecidableEq

def BanjaxObject.socketOf (b : BanjaxObject) : SocketKind → Option Socket
  | .swabber => b.swabberState.socket
  | .sniffer => b.botSniffer.bind BotSniffer.socket
  | .reuse => b.botsnifferSocketReuse

def ReloaderAt.swabS : ReloaderAt → Option Socket
  | swabberReleased swabS | snifferReleased swabS _ | consumerReleased swabS _ _ => swabS
  | _ => none

def ReloaderAt.snifS : ReloaderAt → Option Socket
  | snifferReleased _ snifS | consumerReleased _ snifS _ => snifS
  | _ => none

/-- The sockets that live in an object. -/
def BanjaxObject.sockets (b : BanjaxObject) : List Socket :=
  b.swabberState.socket.toList ++ b.botsnifferSocketReuse.toList ++
    (b.botSniffer.bind BotSniffer.socket).toList

/-- The sockets in the variables of a reload. -/
def ReloaderAt.sockets (r : ReloaderAt) : List Socket := r.swabS.toList ++ r.snifS.toList

theorem boundEndpoint_eq_some {socket : Option Socket} {endpoint : Bytes} :
    boundEndpoint socket = some endpoint ↔
      ∃ k, socket = some k ∧ k.localEndpoint = endpoint ∧ endpoint ≠ [] := by
  cases socket with
  | none => simp [boundEndpoint]
  | some k =>
      simp only [boundEndpoint, Option.bind_some, Socket.isBound, decide_eq_true_eq,
        Option.some.injEq, exists_eq_left']
      split
      · next hbound => simp; grind
      · next hbound => simp; grind

/-- A socket has stayed bound to what it was, it is not bound, or it has been bound now. -/
def Claims (bindTry : Bool) (endpoint : Bytes) (before after : Option Socket) : Prop :=
  boundEndpoint after = boundEndpoint before ∨ boundEndpoint after = none ∨
    bindTry = true ∧ boundEndpoint after = some endpoint

theorem Socket.claims_rebind (k : Socket) {endpoint : Bytes} (bindTry : Bool)
    (hne : endpoint ≠ []) :
    Claims bindTry endpoint (some k)
      (some (if k.isBound then (true, k) else k.bind endpoint bindTry).2) := by
  cases hbound : k.isBound with
  | true => exact .inl rfl
  | false =>
      have hnone : k.localEndpoint = [] := by simpa [isBound] using hbound
      cases bindTry with
      | true => exact .inr (.inr ⟨rfl, by simp [bind, hnone, hne, boundEndpoint, isBound]⟩)
      | false => exact .inr (.inl (by simp [bind, hnone, hne, boundEndpoint, isBound]))

theorem Swabber.claims_ban {S : Swabber} (hne : S.localEndpoint ≠ []) (e : BanEnv)
    (ip reason : Bytes) (st : SwabberState) :
    Claims e.bindTry S.localEndpoint st.socket (S.ban e ip reason st).socket := by
  obtain ⟨hsocket, -⟩ := S.awaitGrace_socket e ip reason st
  rw [ban]
  cases hwait : S.awaitGrace e ip reason st with
  | mk waited u =>
      rw [hwait] at hsocket
      dsimp only at hsocket
      rw [← hsocket]
      have hpublish : Claims e.bindTry S.localEndpoint u.socket
          (S.publish e ip reason u).2.socket := by
        cases hlock : e.lockTry with
        | false =>
            rw [publish, hlock]
            exact .inl rfl
        | true =>
            cases hk : u.socket with
            | none =>
                rw [publish_none hk, hk]
                exact .inl rfl
            | some k =>
                have hclaims := k.claims_rebind e.bindTry hne
                rw [← bindSocket] at hclaims
                rw [publish, hlock, hk]
                dsimp only
                cases hbind : S.bindSocket e k with
                | mk bound k' =>
                    rw [hbind] at hclaims
                    cases bound <;> exact hclaims
      cases waited with
      | false => exact .inl rfl
      | true =>
          dsimp only
          cases hresult : S.publish e ip reason u with
          | mk sent v =>
              rw [hresult] at hpublish
              cases sent <;> exact hpublish

theorem BotSniffer.claims_onHttpClose (sniffer : BotSniffer) (e : Close)
    (m : TransactionMuncher) :
    Claims e.bindTry sniffer.localEndpoint sniffer.socket
      (sniffer.onHttpClose e m).sniffer.socket := by
  rw [onHttpClose]
  split
  · next k hlock hk =>
    have hclaims := k.claims_rebind e.bindTry sniffer.localEndpoint_ne_nil
    rw [← bound] at hclaims
    rw [hk]
    cases hbound : sniffer.bound e.bindTry k with
    | mk bound k' =>
        rw [hbound] at hclaims
        cases bound with
        | false => exact hclaims
        | true =>
            dsimp only
            rw [if_pos rfl]
            split <;> exact hclaims
  · exact .inl rfl

namespace BanjaxPlugin

variable {A : Conversions} {s t u : BanjaxPlugin} {n : Nat} {b : BanjaxObject} {name : Bytes}

/-- The socket at a place. -/
def socketAt (s : BanjaxPlugin) : SocketPlace → Option Socket
  | .object n kind => (s.banjaxes.get? n).bind fun b => b.socketOf kind
  | .swabS => s.reloader.swabS
  | .snifS => s.reloader.snifS

/-- The endpoint that is bound there. -/
def endpointAt (s : BanjaxPlugin) (place : SocketPlace) : Option Bytes :=
  boundEndpoint (s.socketAt place)

/-- All sockets of the process. -/
def sockets (s : BanjaxPlugin) : List Socket :=
  s.banjaxes.live.flatMap BanjaxObject.sockets ++ s.reloader.sockets

theorem mem_sockets {place : SocketPlace} {k : Socket} (h : s.socketAt place = some k) :
    k ∈ s.sockets := by
  cases place with
  | object n kind =>
      obtain ⟨b, hb, hk⟩ := Option.bind_eq_some_iff.mp h
      refine List.mem_append_left _ (List.mem_flatMap.mpr ⟨b, Slots.mem_live.mpr ⟨n, hb⟩, ?_⟩)
      cases kind <;> simp_all [BanjaxObject.sockets, BanjaxObject.socketOf]
  | swabS =>
      refine List.mem_append_right _ (List.mem_append_left _ ?_)
      exact Option.mem_toList.mpr h
  | snifS =>
      refine List.mem_append_right _ (List.mem_append_right _ ?_)
      exact Option.mem_toList.mpr h

end BanjaxPlugin

/-- A socket that is to be bound to an endpoint, and whether ZeroMQ would do it. -/
structure Binding where
  place : SocketPlace
  endpoint : Bytes
  succeeds : Bool

namespace BanjaxPlugin

variable {A : Conversions} {s t u : BanjaxPlugin} {n : Nat} {b : BanjaxObject} {name : Bytes}

/-- What a move binds, if it comes to that and it is not bound already.  A reload binds the sockets
that it hands over. -/
def binding (A : Conversions) (s : BanjaxPlugin) : PluginMove → Option Binding
  | .ban n _ bindTry _ _ =>
      (s.banjaxes.get? n).map fun b => ⟨.object n .swabber, b.swabber.localEndpoint, bindTry⟩
  | .closeTransaction n e _ =>
      (s.banjaxes.get? n).bind fun b => b.botSniffer.map fun f =>
        ⟨.object n .sniffer, f.localEndpoint, e.bindTry⟩
  | .loadSwabber conf bindTry _ =>
      (A.swabber conf.swabberConf).toOption.map fun S => ⟨.swabS, S.localEndpoint, bindTry⟩
  | .buildFilters bindTry =>
      match s.reloader with
      | .swabberLoaded conf n =>
          ((A.snifferPort conf).toOption.bind id).map fun port =>
            ⟨.object n .reuse, BotSniffer.endpointAt port, bindTry⟩
      | _ => none
  | _ => none

theorem binding_ban (hb : s.banjaxes.get? n = some b) (lockTry bindTry : Bool)
    (ip reason : Bytes) : s.binding A (.ban n lockTry bindTry ip reason) =
      some ⟨.object n .swabber, b.swabber.localEndpoint, bindTry⟩ := by
  rw [binding, hb, Option.map_some]

theorem binding_closeTransaction (hb : s.banjaxes.get? n = some b) {f : BotSniffer}
    (hf : b.botSniffer = some f) (e : Close) (m : TransactionMuncher) :
    s.binding A (.closeTransaction n e m) =
      some ⟨.object n .sniffer, f.localEndpoint, e.bindTry⟩ := by
  rw [binding, hb, Option.bind_some, hf, Option.map_some]

theorem binding_loadSwabber {conf : Conf} {S : Swabber} (hS : A.swabber conf.swabberConf = .ok S)
    (bindTry : Bool) (tries : List Bool) : s.binding A (.loadSwabber conf bindTry tries) =
      some ⟨.swabS, S.localEndpoint, bindTry⟩ := by
  rw [binding, hS]
  rfl

theorem binding_buildFilters {conf : Conf} {port : Nat}
    (hreloader : s.reloader = .swabberLoaded conf n) (hport : A.snifferPort conf = .ok (some port))
    (bindTry : Bool) : s.binding A (.buildFilters bindTry) =
      some ⟨.object n .reuse, BotSniffer.endpointAt port, bindTry⟩ := by
  rw [binding, hreloader]
  dsimp only
  rw [hport]
  rfl

/-- ZeroMQ refuses the endpoint to a second socket: when it would bind one, no socket of the
process is bound there.  The answer to a bind that is not made does not matter, and is taken to be
the one that ZeroMQ would give. -/
def Refuses (A : Conversions) (name : Bytes) (s : BanjaxPlugin) (move : PluginMove) : Prop :=
  ∀ x ∈ s.binding A move, x.succeeds = true → x.endpoint = name →
    s.endpointAt x.place = some name ∨ ∀ k ∈ s.sockets, k.localEndpoint ≠ name

instance (A : Conversions) (name : Bytes) (s : BanjaxPlugin) (move : PluginMove) :
    Decidable (Refuses A name s move) :=
  inferInstanceAs (Decidable (∀ x ∈ s.binding A move, x.succeeds = true → x.endpoint = name →
    s.endpointAt x.place = some name ∨ ∀ k ∈ s.sockets, k.localEndpoint ≠ name))

/-- The place has the endpoint, or nobody has it. -/
def Sole (s : BanjaxPlugin) (place : SocketPlace) (name : Bytes) : Prop :=
  ∀ p, s.endpointAt p = some name → p = place

/-- A bind that succeeds is made at the one place that has the endpoint, or nobody has it. -/
theorem Refuses.sole {move : PluginMove} (h : Refuses A name s move)
    (hexclusive : Exclusive s.endpointAt name) {x : Binding} (hx : s.binding A move = some x)
    (hsucceeds : x.succeeds = true) (hendpoint : x.endpoint = name) : s.Sole x.place name := by
  intro p hp
  rcases h x hx hsucceeds hendpoint with hown | hfree
  · exact hexclusive p x.place hp hown
  · obtain ⟨k, hk, hname, -⟩ := boundEndpoint_eq_some.mp hp
    exact absurd hname (hfree k (mem_sockets hk))

theorem endpointAt_object (hb : s.banjaxes.get? n = some b) (kind : SocketKind) :
    s.endpointAt (.object n kind) = boundEndpoint (b.socketOf kind) := by
  rw [endpointAt, socketAt, hb, Option.bind_some]

/-- Another object of the same number. -/
theorem endpointAt_put (hb : s.banjaxes.get? n = some b) {b' : BanjaxObject}
    (hbanjaxes : t.banjaxes = s.banjaxes.put n b') (m : Nat) (kind : SocketKind) :
    t.endpointAt (.object m kind) =
      if m = n then boundEndpoint (b'.socketOf kind) else s.endpointAt (.object m kind) := by
  rw [endpointAt, socketAt, hbanjaxes, Slots.get?_put hb]
  split
  · rfl
  · rfl

/-- One socket of an object has changed, and if it is bound now, nobody else has the endpoint. -/
theorem exclusive_put (h : Exclusive s.endpointAt name) (hb : s.banjaxes.get? n = some b)
    {b' : BanjaxObject} (hbanjaxes : t.banjaxes = s.banjaxes.put n b')
    (hreloader : t.reloader = s.reloader) (kind : SocketKind)
    (hother : ∀ other, other ≠ kind → b'.socketOf other = b.socketOf other) {bindTry : Bool}
    {endpoint : Bytes} (hsole : bindTry = true → endpoint = name → s.Sole (.object n kind) name)
    (hclaims : Claims bindTry endpoint (b.socketOf kind) (b'.socketOf kind)) :
    Exclusive t.endpointAt name := by
  have hplaces : ∀ p, p ≠ .object n kind → t.endpointAt p = s.endpointAt p := by
    intro p hp
    cases p with
    | object m other =>
        rw [endpointAt_put hb hbanjaxes]
        split
        · next hm =>
          subst hm
          have hne : other ≠ kind := fun heq => hp (by rw [heq])
          rw [hother other hne, endpointAt_object hb]
        · rfl
    | swabS => rw [endpointAt, socketAt, hreloader]; rfl
    | snifS => rw [endpointAt, socketAt, hreloader]; rfl
  have hplace : t.endpointAt (.object n kind) = boundEndpoint (b'.socketOf kind) := by
    rw [endpointAt_put hb hbanjaxes, if_pos rfl]
  refine h.granted (.object n kind) hplaces fun hname p hp hpname => ?_
  rw [hplace] at hname
  rcases hclaims with hsame | hnone | ⟨hbind, hnow⟩
  · rw [hsame, ← endpointAt_object hb] at hname
    exact hp (h p _ hpname hname)
  · rw [hnone] at hname
    cases hname
  · exact hp (hsole hbind (Option.some.inj (hnow.symm.trans hname)) p hpname)

/-- The objects have the endpoints that they had, and the variables have no others. -/
theorem exclusive_kept (h : Exclusive s.endpointAt name)
    (hobjects : ∀ m kind, t.endpointAt (.object m kind) = s.endpointAt (.object m kind))
    (hswabS : t.reloader.swabS = none ∨ t.reloader.swabS = s.reloader.swabS)
    (hsnifS : t.reloader.snifS = none ∨ t.reloader.snifS = s.reloader.snifS) :
    Exclusive t.endpointAt name := by
  have hvar : ∀ before after : Option Socket, after = none ∨ after = before →
      boundEndpoint after = some name → boundEndpoint before = some name := by
    rintro before after (rfl | rfl) hname
    · cases hname
    · exact hname
  refine h.mono fun p hp => ?_
  cases p with
  | object m kind => rwa [hobjects] at hp
  | swabS => exact hvar _ _ hswabS hp
  | snifS => exact hvar _ _ hsnifS hp

/-- A socket of an object has been moved to a variable. -/
theorem exclusive_release (h : Exclusive s.endpointAt name) (hb : s.banjaxes.get? n = some b)
    {b' : BanjaxObject} (hbanjaxes : t.banjaxes = s.banjaxes.put n b') (kind : SocketKind)
    (place : SocketPlace) (hnone : b'.socketOf kind = none)
    (hother : ∀ other, other ≠ kind → b'.socketOf other = b.socketOf other)
    (hmoved : t.endpointAt place = some name → boundEndpoint (b.socketOf kind) = some name)
    (hvars : ∀ p, (∀ m other, p ≠ .object m other) → p ≠ place →
      t.endpointAt p = some name → s.endpointAt p = some name) :
    Exclusive t.endpointAt name := by
  have hsource : ∀ p, (if p = place then SocketPlace.object n kind else p) ≠ p → p = place :=
    fun p hp => by_contra fun hne => hp (if_neg hne)
  refine h.inherited (fun p => if p = place then .object n kind else p) ?_ ?_ ?_
  · intro p hp
    split
    · next heq =>
      rw [heq] at hp
      rw [endpointAt_object hb]
      exact hmoved hp
    · next hne =>
      cases p with
      | object m other =>
          rw [endpointAt_put hb hbanjaxes] at hp
          split at hp
          · next hm =>
            subst hm
            rcases eq_or_ne other kind with rfl | hother'
            · rw [hnone] at hp
              cases hp
            · rw [endpointAt_object hb, ← hother other hother']
              exact hp
          · exact hp
      | swabS | snifS => exact hvars _ nofun hne hp
  · intro p hp
    rw [if_pos (hsource p hp), endpointAt_put hb hbanjaxes, if_pos rfl, hnone]
    rfl
  · intro p q hp hq _
    rw [hsource p hp, hsource q hq]

/-- The socket of the swabber has been taken away. -/
theorem exclusive_releaseSwabberSocket (h : Exclusive s.endpointAt name)
    (hb : s.banjaxes.get? n = some b) : Exclusive (s.releaseSwabberSocket n b).endpointAt name := by
  refine exclusive_release h hb rfl .swabber .swabS rfl (fun other hother => ?_) id
    fun p hp hne hname => ?_
  · cases other <;> first | rfl | exact absurd rfl hother
  · cases p with
    | object m kind => exact absurd rfl (hp m kind)
    | swabS => exact absurd rfl hne
    | snifS => cases hname

/-- And that of the sniffer. -/
theorem exclusive_releaseBotsnifferSocket (h : Exclusive s.endpointAt name)
    {swabS : Option Socket} (hreloader : s.reloader = .swabberReleased swabS)
    (hb : s.banjaxes.get? n = some b) :
    Exclusive (s.releaseBotsnifferSocket n b swabS).endpointAt name := by
  have hswabS : s.reloader.swabS = swabS := by rw [hreloader]; rfl
  rw [BanjaxPlugin.releaseBotsnifferSocket]
  split
  · exact exclusive_kept h (fun _ _ => rfl) (.inr hswabS.symm) (.inl rfl)
  · next f hf =>
    refine exclusive_release h hb rfl .sniffer .snifS rfl (fun other hother => ?_)
      (fun hname => ?_) fun p hp hne hname => ?_
    · cases other <;> first | rfl | exact absurd rfl hother
    · rw [BanjaxObject.socketOf, hf]
      exact hname
    · cases p with
      | object m kind => exact absurd rfl (hp m kind)
      | swabS =>
          rw [endpointAt, socketAt, hswabS]
          exact hname
      | snifS => exact absurd rfl hne

/-- The consumer has nothing to do with the endpoints. -/
theorem endpointAt_kafka (hb : s.banjaxes.get? n = some b) {kafkaConsumer : Bool}
    (hbanjaxes : t.banjaxes = s.banjaxes.put n { b with kafkaConsumer := kafkaConsumer }) (m : Nat)
    (kind : SocketKind) : t.endpointAt (.object m kind) = s.endpointAt (.object m kind) := by
  rw [endpointAt_put hb hbanjaxes]
  split
  · next hm =>
    subst hm
    rw [endpointAt_object hb]
    cases kind <;> rfl
  · rfl

theorem Dropped.exclusive (hd : Dropped s n t) (h : Exclusive s.endpointAt name) :
    Exclusive t.endpointAt name := by
  have hfreed : ∀ p, endpointAt { s with banjaxes := s.banjaxes.free n } p = some name →
      s.endpointAt p = some name := by
    intro p hp
    cases p with
    | object m kind =>
        rw [endpointAt, socketAt, Slots.get?_free] at hp
        split at hp
        · cases hp
        · exact hp
    | swabS | snifS => exact hp
  cases hd with
  | kept => exact h
  | freed | freedConsumer => exact h.mono hfreed

theorem exclusive_init (clock : Int) (name : Bytes) :
    Exclusive (init clock).endpointAt name := by
  intro p q hp
  cases p <;> cases hp

/-- A socket has been made out of the one at another place, and has the endpoint if that one had
it or nobody has. -/
theorem exclusive_load (h : Exclusive s.endpointAt name) (place passed : SocketPlace)
    (source : SocketPlace → SocketPlace)
    (hsource : ∀ p, p ≠ place → t.endpointAt p = some name →
      source p ≠ passed ∧ s.endpointAt (source p) = some name)
    (hpassed : ∀ p, source p ≠ p → t.endpointAt (source p) = none)
    (hinj : ∀ p q, source p ≠ p → source q ≠ q → source p = source q → p = q)
    (hsole : t.endpointAt place = some name → s.Sole passed name) :
    Exclusive t.endpointAt name := by
  have hmid : Exclusive (fun p => if p = place then none else t.endpointAt p) name := by
    refine h.inherited source ?_ ?_ hinj
    · intro p hp
      split at hp
      · cases hp
      · next hne => exact (hsource p hne hp).2
    · intro p hp
      rw [hpassed p hp, ite_self]
  refine hmid.granted place (fun p hp => (if_neg hp).symm) fun hname p hp hmidp => ?_
  rw [if_neg hp] at hmidp
  obtain ⟨hne, hheld⟩ := hsource p hp hmidp
  exact hne (hsole hname _ hheld)

theorem endpointAt_loadSwabber (s : BanjaxPlugin) (S : Swabber) (conf : Conf) (bindTry : Bool)
    (tries : List Bool) (swabS snifS : Option Socket) (kafkaConsumer : Bool) (m : Nat)
    (kind : SocketKind) :
    (s.loadSwabber S conf bindTry tries swabS snifS kafkaConsumer).endpointAt (.object m kind) =
      if m = s.banjaxes.made then
        boundEndpoint (BanjaxObject.socketOf ⟨S,
          { ipDb := ⟨∅, tries⟩, socket := some (S.loadSocket (swabS.getD {}) bindTry) },
          snifS, none, kafkaConsumer⟩ kind)
      else s.endpointAt (.object m kind) := by
  rw [endpointAt, socketAt, loadSwabber, Slots.get?_make]
  split <;> rfl

theorem exclusive_loadSwabber (h : Exclusive s.endpointAt name) {swabS snifS : Option Socket}
    {kafkaConsumer : Bool} (hreloader : s.reloader = .consumerReleased swabS snifS kafkaConsumer)
    {S : Swabber} (hne : S.localEndpoint ≠ []) (conf : Conf) (bindTry : Bool) (tries : List Bool)
    (hbind : bindTry = true → S.localEndpoint = name → s.Sole .swabS name) :
    Exclusive (s.loadSwabber S conf bindTry tries swabS snifS kafkaConsumer).endpointAt name := by
  have hsnifS : s.endpointAt .snifS = boundEndpoint snifS := by
    rw [endpointAt, socketAt, hreloader]
    rfl
  refine exclusive_load h (.object s.banjaxes.made .swabber) .swabS
    (fun p => if p = .object s.banjaxes.made .reuse then .snifS else p) ?_ ?_ ?_ ?_
  · intro p hp hname
    cases p with
    | object m kind =>
        rw [endpointAt_loadSwabber] at hname
        split at hname
        · next hm =>
          subst hm
          cases kind with
          | swabber => exact absurd rfl hp
          | sniffer => cases hname
          | reuse =>
              rw [if_pos rfl]
              exact ⟨nofun, hsnifS.trans hname⟩
        · next hm =>
          have hother : SocketPlace.object m kind ≠ .object s.banjaxes.made .reuse := by
            rintro ⟨⟩
            exact hm rfl
          rw [if_neg hother]
          exact ⟨nofun, hname⟩
    | swabS | snifS => cases hname
  · intro p hp
    rw [if_pos (by_contra fun hne => hp (if_neg hne))]
    rfl
  · intro p q hp hq _
    rw [by_contra fun hne => hp (if_neg hne), by_contra fun hne => hq (if_neg hne)]
  · intro hname
    rw [endpointAt_loadSwabber, if_pos rfl] at hname
    obtain ⟨k, hk, hendpoint, hsome⟩ := boundEndpoint_eq_some.mp hname
    cases hk
    rw [S.loadSocket_localEndpoint hne] at hendpoint
    split at hendpoint
    · next hbound =>
      rcases hbound with hhanded | hnow
      · -- The socket that is handed over had the endpoint.
        have hswabS : s.endpointAt .swabS = some name := by
          rw [endpointAt, socketAt, hreloader, ← hendpoint]
          cases swabS with
          | none => exact absurd hhanded.symm hne
          | some k => exact boundEndpoint_eq_some.mpr ⟨k, rfl, hhanded, hne⟩
        exact fun p hp => h p .swabS hp hswabS
      · exact hbind hnow hendpoint
    · exact absurd hendpoint.symm hsome

theorem exclusive_buildFilters (h : Exclusive s.endpointAt name) {conf : Conf}
    (hb : s.banjaxes.get? n = some b) (port : Option Nat) (bindTry : Bool)
    (hbind : ∀ p, port = some p → bindTry = true → BotSniffer.endpointAt p = name →
      s.Sole (.object n .reuse) name) :
    Exclusive (s.buildFilters n b conf port bindTry).endpointAt name := by
  cases port with
  | none => exact exclusive_kept h (fun _ _ => rfl) (.inl rfl) (.inl rfl)
  | some port =>
      refine exclusive_load h (.object n .sniffer) (.object n .reuse) id ?_
        (fun p hp => absurd rfl hp) (fun p q hp => absurd rfl hp) ?_
      · intro p hp hname
        cases p with
        | object m kind =>
            rw [endpointAt_put hb rfl] at hname
            split at hname
            · next hm =>
              subst hm
              cases kind with
              | sniffer => exact absurd rfl hp
              | reuse => cases hname
              | swabber => exact ⟨nofun, (endpointAt_object hb .swabber).trans hname⟩
            · next hm =>
              refine ⟨?_, hname⟩
              rintro ⟨⟩
              exact hm rfl
        | swabS | snifS => cases hname
      · intro hname
        rw [endpointAt_put hb rfl, if_pos rfl] at hname
        obtain ⟨loaded, hloaded, hendpoint⟩ :=
          BotSniffer.load_socket port b.botsnifferSocketReuse bindTry
        obtain ⟨k, hk, hlocal, hsome⟩ := boundEndpoint_eq_some.mp hname
        obtain rfl : loaded = k := Option.some.inj (hloaded.symm.trans hk)
        rw [hlocal] at hendpoint
        split at hendpoint
        · next hbound =>
          rcases hbound with hhanded | hnow
          · obtain ⟨k, hk, hhanded⟩ := Option.map_eq_some_iff.mp hhanded
            have hreuse : s.endpointAt (.object n .reuse) = some name := by
              rw [endpointAt_object hb]
              exact boundEndpoint_eq_some.mpr ⟨k, hk, hhanded.trans hendpoint.symm, hsome⟩
            exact fun p hp => h p _ hp hreuse
          · exact hbind port rfl hnow hendpoint.symm
        · exact absurd hendpoint hsome

/-- The endpoint is not bound twice. -/
theorem exclusive_takes (h : Exclusive s.endpointAt name) (hkept : Kept A s) {move : PluginMove}
    (hs : Takes A s move t) (hrefuses : Refuses A name s move) :
    Exclusive t.endpointAt name := by
  cases hs with
  | tick | readCurrentState | startTransaction | consume | consumed => exact h
  | @ban n b lockTry bindTry ip reason hopen hb =>
      have hne := (hkept.handed.sockets n b hb).endpoint
      have hclaims := Swabber.claims_ban hne (s.banEnv lockTry bindTry) ip reason b.swabberState
      refine exclusive_put h hb rfl rfl .swabber (fun other hother => ?_)
        (fun hbind hname => hrefuses.sole h (binding_ban hb ..) hbind hname) hclaims
      cases other <;> first | rfl | exact absurd rfl hother
  | @closeTransaction n b t u e m hopen hb hc hd =>
      refine hd.exclusive ?_
      cases hc with
      | silent => exact h
      | @sniffed f closed hf hclosed _ =>
          subst hclosed
          have hclaims := f.claims_onHttpClose e m
          have hbefore : b.socketOf .sniffer = f.socket := by rw [BanjaxObject.socketOf, hf]; rfl
          rw [← hbefore] at hclaims
          refine exclusive_put h hb rfl rfl .sniffer (fun other hother => ?_)
            (fun hbind hname => hrefuses.sole h (binding_closeTransaction hb hf ..) hbind hname)
            hclaims
          cases other <;> first | rfl | exact absurd rfl hother
  | releaseSwabberSocket hreloader hcurrent hb => exact exclusive_releaseSwabberSocket h hb
  | releaseBotsnifferSocket hreloader hcurrent hb =>
      exact exclusive_releaseBotsnifferSocket h hreloader hb
  | releaseKafkaConsumer hreloader hcurrent hb =>
      exact exclusive_kept h (endpointAt_kafka hb rfl) (.inr (by rw [hreloader]; rfl))
        (.inr (by rw [hreloader]; rfl))
  | loadSwabber conf bindTry tries hreloader hS =>
      exact exclusive_loadSwabber h hreloader (Conversions.swabber_localEndpoint hS) conf bindTry
        tries fun hbind hname => hrefuses.sole h (binding_loadSwabber hS ..) hbind hname
  | buildFilters bindTry hreloader hport hb =>
      refine exclusive_buildFilters h hb _ bindTry fun p hp hbind hname => ?_
      subst hp
      exact hrefuses.sole h (binding_buildFilters hreloader hport bindTry) hbind hname
  | loadKafka hreloader hbrokers hb hfree =>
      exact exclusive_kept h (endpointAt_kafka hb rfl) (.inl rfl) (.inl rfl)
  | publishFirst => exact exclusive_kept h (fun _ _ => rfl) (.inl rfl) (.inl rfl)
  | publish hreloader hcurrent hd =>
      exact hd.exclusive (exclusive_kept h (fun _ _ => rfl) (.inl rfl) (.inl rfl))

/-! ## A socket that is left over -/

/-- The object keeps a socket that is bound to the endpoint, and has no use for it. -/
def Keeps (s : BanjaxPlugin) (n : Nat) (endpoint : Bytes) : Prop :=
  s.endpointAt (.object n .reuse) = some endpoint

/-- An object that lives has lived before, and has kept what it kept. -/
def Survives (s t : BanjaxPlugin) (n : Nat) : Prop :=
  (t.banjaxes.get? n).isSome = true →
    (s.banjaxes.get? n).isSome = true ∧ ∀ endpoint, s.Keeps n endpoint → t.Keeps n endpoint

theorem survives_of_eq (hbanjaxes : t.banjaxes = s.banjaxes) : Survives s t n := by
  rw [Survives, hbanjaxes]
  refine fun hlive => ⟨hlive, fun endpoint hkeeps => ?_⟩
  rw [Keeps, endpointAt, socketAt, hbanjaxes]
  exact hkeeps

theorem survives_put {m : Nat} (hb : s.banjaxes.get? m = some b) {b' : BanjaxObject}
    (hbanjaxes : t.banjaxes = s.banjaxes.put m b')
    (hreuse : m = n → b'.botsnifferSocketReuse = b.botsnifferSocketReuse) : Survives s t n := by
  intro hlive
  rw [hbanjaxes, Slots.isSome_put hb] at hlive
  refine ⟨hlive, fun endpoint hkeeps => ?_⟩
  rw [Keeps, endpointAt_put hb hbanjaxes]
  split
  · next hm =>
    subst hm
    rw [Keeps, endpointAt_object hb] at hkeeps
    rw [BanjaxObject.socketOf, hreuse rfl]
    exact hkeeps
  · exact hkeeps

theorem Survives.trans (h : Survives s t n) (h' : Survives t u n) : Survives s u n := by
  intro hlive
  obtain ⟨hlive, hkeeps'⟩ := h' hlive
  obtain ⟨hlive, hkeeps⟩ := h hlive
  exact ⟨hlive, fun endpoint hk => hkeeps' endpoint (hkeeps endpoint hk)⟩

theorem Dropped.survives {m : Nat} (hd : Dropped s m t) : Survives s t n := by
  have hfree : Survives s { s with banjaxes := s.banjaxes.free m } n := by
    intro hlive
    rw [Slots.get?_free] at hlive
    split at hlive
    · cases hlive
    · next hne =>
      refine ⟨hlive, fun endpoint hkeeps => ?_⟩
      rw [Keeps, endpointAt, socketAt, Slots.get?_free, if_neg hne]
      exact hkeeps
  cases hd with
  | kept => exact survives_of_eq rfl
  | freed => exact hfree
  | freedConsumer => exact hfree.trans (survives_of_eq rfl)

/-- An object that is not being made is left alone. -/
theorem Takes.survives (hmade : s.reloader.newBanjax ≠ some n) (hn : n < s.banjaxes.made)
    {move : PluginMove} (hs : Takes A s move t) :
    Survives s t n ∧ t.reloader.newBanjax ≠ some n ∧ n < t.banjaxes.made := by
  cases hs with
  | tick | readCurrentState | startTransaction | consume | consumed =>
      exact ⟨survives_of_eq rfl, hmade, hn⟩
  | ban lockTry bindTry ip reason hopen hb =>
      exact ⟨survives_put hb rfl fun _ => rfl, hmade, (Slots.made_put ..).symm ▸ hn⟩
  | @closeTransaction m b t u e p hopen hb hc hd =>
      have ht : Survives s t n ∧ t.reloader = s.reloader ∧ t.banjaxes.made = s.banjaxes.made := by
        cases hc with
        | silent => exact ⟨survives_of_eq rfl, rfl, rfl⟩
        | sniffed => exact ⟨survives_put hb rfl fun _ => rfl, rfl, Slots.made_put ..⟩
      obtain ⟨hlength, hframe⟩ := hd.frame
      refine ⟨ht.1.trans ((survives_of_eq rfl).trans hd.survives), ?_, ?_⟩
      · rw [hframe]
        show t.reloader.newBanjax ≠ some n
        rw [ht.2.1]
        exact hmade
      · rw [hlength]
        exact ht.2.2.symm ▸ hn
  | releaseSwabberSocket hreloader hcurrent hb =>
      exact ⟨survives_put hb rfl fun _ => rfl, by rintro ⟨⟩, by
        rw [BanjaxPlugin.releaseSwabberSocket, Swabber.releaseSocket]
        exact (Slots.made_put ..).symm ▸ hn⟩
  | @releaseBotsnifferSocket m b swabS hreloader hcurrent hb =>
      rw [BanjaxPlugin.releaseBotsnifferSocket]
      split
      · exact ⟨survives_of_eq rfl, by rintro ⟨⟩, hn⟩
      · exact ⟨survives_put hb rfl fun _ => rfl, by rintro ⟨⟩, (Slots.made_put ..).symm ▸ hn⟩
  | releaseKafkaConsumer hreloader hcurrent hb =>
      exact ⟨survives_put hb rfl fun _ => rfl, by rintro ⟨⟩, (Slots.made_put ..).symm ▸ hn⟩
  | @loadSwabber swabS snifS kafkaConsumer S conf bindTry tries hreloader hS =>
      have hne : n ≠ s.banjaxes.made := Nat.ne_of_lt hn
      refine ⟨fun hlive => ?_, fun hnew => hne (Option.some.inj hnew).symm, ?_⟩
      · rw [BanjaxPlugin.loadSwabber, Slots.get?_make, if_neg hne] at hlive
        refine ⟨hlive, fun endpoint hkeeps => ?_⟩
        rw [Keeps, endpointAt_loadSwabber, if_neg hne]
        exact hkeeps
      · rw [BanjaxPlugin.loadSwabber, Slots.made_make]
        exact Nat.lt_succ_of_lt hn
  | @buildFilters m b conf port bindTry hreloader hport hb =>
      have hne : m ≠ n := fun hm => hmade (by rw [hreloader, hm]; rfl)
      have hnew : some m ≠ some n := fun hm => hne (Option.some.inj hm)
      cases port with
      | none => exact ⟨survives_of_eq rfl, hnew, hn⟩
      | some port =>
          exact ⟨survives_put hb rfl fun hm => absurd hm hne, hnew, (Slots.made_put ..).symm ▸ hn⟩
  | @loadKafka m b conf brokers hreloader hbrokers hb hfree =>
      have hnew : some m ≠ some n := fun hm => hmade (by rw [hreloader]; exact hm)
      exact ⟨survives_put hb rfl fun _ => rfl, hnew, (Slots.made_put ..).symm ▸ hn⟩
  | publishFirst => exact ⟨survives_of_eq rfl, by rintro ⟨⟩, hn⟩
  | publish hreloader hcurrent hd =>
      obtain ⟨hlength, hframe⟩ := hd.frame
      refine ⟨(survives_of_eq rfl).trans hd.survives, ?_, hlength ▸ hn⟩
      rw [hframe]
      rintro ⟨⟩

/-- A close sends nothing over a socket that is not bound when the endpoint is taken. -/
theorem sent_of_taken {f : BotSniffer} (hb : s.banjaxes.get? n = some b)
    (hf : b.botSniffer = some f) (hbound : BoundTo f.localEndpoint f.socket)
    (hunbound : boundEndpoint f.socket = none) (h : Exclusive s.endpointAt f.localEndpoint)
    {place : SocketPlace} (htaken : s.endpointAt place = some f.localEndpoint) {e : Close}
    {p : TransactionMuncher} (hrefuses : Refuses A f.localEndpoint s (.closeTransaction n e p)) :
    (f.onHttpClose e p).sent = [] := by
  obtain ⟨-, -, -, hover⟩ := f.onHttpClose_socket hbound e p
  refine hover.resolve_right fun hover => ?_
  obtain ⟨k, hk, hendpoint⟩ := Option.map_eq_some_iff.mp hover
  have hsome : boundEndpoint (f.onHttpClose e p).sniffer.socket = some f.localEndpoint :=
    boundEndpoint_eq_some.mpr ⟨k, hk, hendpoint, f.localEndpoint_ne_nil⟩
  rcases f.claims_onHttpClose e p with hsame | hnone | ⟨hbind, -⟩
  · rw [hsome, hunbound] at hsame
    cases hsame
  · rw [hsome] at hnone
    cases hnone
  · have hown := hrefuses.sole h (binding_closeTransaction hb hf e p) hbind rfl place htaken
    rw [hown, endpointAt_object hb, BanjaxObject.socketOf, hf] at htaken
    cases hunbound.symm.trans htaken

/-- A sniffer whose endpoint another object keeps is not bound, and logs nothing. -/
structure Blocked (A : Conversions) (s : BanjaxPlugin) (endpoint : Bytes) : Prop where
  unbound : ∀ n b f, s.banjaxes.get? n = some b → b.botSniffer = some f →
    f.localEndpoint = endpoint → boundEndpoint f.socket = none
  silent : ∀ n b f e p t, s.banjaxes.get? n = some b → b.botSniffer = some f →
    f.localEndpoint = endpoint → Refuses A endpoint s (.closeTransaction n e p) →
    step A s (.closeTransaction n e p) = .ok t → t.sent = s.sent

theorem Keeps.blocked {m : Nat} {endpoint : Bytes} (hkeeps : s.Keeps m endpoint)
    (hkept : Kept A s) (h : Exclusive s.endpointAt endpoint) : Blocked A s endpoint := by
  have hunbound : ∀ n b f, s.banjaxes.get? n = some b → b.botSniffer = some f →
      f.localEndpoint = endpoint → boundEndpoint f.socket = none := by
    intro n b f hb hf hendpoint
    have hplace : s.endpointAt (.object n .sniffer) = boundEndpoint f.socket := by
      rw [endpointAt_object hb, BanjaxObject.socketOf, hf]
      rfl
    cases hbound : boundEndpoint f.socket with
    | none => rfl
    | some name =>
        -- Bound to its own endpoint, it would share that with the other object.
        obtain ⟨k, hk, hname, hsome⟩ := boundEndpoint_eq_some.mp hbound
        have hown := ((hkept.handed.sockets n b hb).sniffer f hf).2 k hk
        rw [hname] at hown
        have hsame := hown.resolve_left hsome
        rw [hbound, hsame, hendpoint] at hplace
        cases h _ _ hplace hkeeps
  refine ⟨hunbound, fun n b f e p t hb hf hendpoint hrefuses hstep => ?_⟩
  cases takes_of_step hstep with
  | closeTransaction _ _ hopen hb' hc hd =>
      cases hb.symm.trans hb'
      obtain ⟨-, hframe⟩ := hd.frame
      rw [hframe]
      cases hc with
      | silent => rfl
      | @sniffed g closed hg hclosed _ =>
          cases hf.symm.trans hg
          subst hclosed hendpoint
          have hnil := sent_of_taken hb hf ((hkept.handed.sockets n b hb).sniffer f hf).2
            (hunbound n b f hb hf rfl) h hkeeps hrefuses
          show s.sent ++ List.map _ _ = s.sent
          rw [hnil, List.map_nil, List.append_nil]

section Runs

variable {clock : Int} {moves : List PluginMove} {endpoint : Bytes}

theorem exclusive_of_reaches (h : Reaches (step A) (Refuses A endpoint) (init clock) moves s) :
    Kept A s ∧ Exclusive s.endpointAt endpoint :=
  h.invariant (P := fun _ s => Kept A s ∧ Exclusive s.endpointAt endpoint)
    ⟨⟨referenced_init clock, handed_init clock, built_init clock⟩, exclusive_init clock endpoint⟩
    fun _ _ _ _ _ hs hrefuses hstep =>
      ⟨hs.1.takes (takes_of_step hstep), exclusive_takes hs.2 hs.1 (takes_of_step hstep) hrefuses⟩

/-- When an object has been left with a socket that it does not use, and ZeroMQ refuses its
endpoint to others, no sniffer is bound to the endpoint of that socket and none logs a line over
it, in every state of the run from there on in which the object still lives. -/
theorem sniffer_blocked {more : List PluginMove} {m : Nat}
    (h : Reaches (step A) (Refuses A endpoint) (init clock) moves s)
    (hkeeps : s.Keeps m endpoint) (hmade : s.reloader.newBanjax ≠ some m)
    (hmore : Reaches (step A) (Refuses A endpoint) s more t)
    (hlive : (t.banjaxes.get? m).isSome = true) : Blocked A t endpoint := by
  obtain ⟨hkept, hexclusive⟩ := exclusive_of_reaches h
  have hm : m < s.banjaxes.made := by
    obtain ⟨k, hk, -⟩ := boundEndpoint_eq_some.mp hkeeps
    obtain ⟨b, hb, -⟩ := Option.bind_eq_some_iff.mp hk
    exact Slots.lt_made hb
  have hall : (Kept A t ∧ Exclusive t.endpointAt endpoint) ∧
      (Survives s t m ∧ t.reloader.newBanjax ≠ some m ∧ m < t.banjaxes.made) := by
    refine hmore.invariant (P := fun _ t => (Kept A t ∧ Exclusive t.endpointAt endpoint) ∧
      (Survives s t m ∧ t.reloader.newBanjax ≠ some m ∧ m < t.banjaxes.made))
      ⟨⟨hkept, hexclusive⟩, survives_of_eq rfl, hmade, hm⟩ ?_
    intro _ _ a b _ ⟨⟨hkept, hexclusive⟩, hsurvives, hmade, hm⟩ hrefuses hstep
    have hs := takes_of_step hstep
    obtain ⟨hsurvives', hrest⟩ := hs.survives hmade hm
    exact ⟨⟨hkept.takes hs, exclusive_takes hexclusive hkept hs hrefuses⟩,
      hsurvives.trans hsurvives', hrest⟩
  obtain ⟨⟨hkept, hexclusive⟩, hsurvives, -⟩ := hall
  exact ((hsurvives hlive).2 endpoint hkeeps).blocked hkept hexclusive

end Runs

/-- The endpoint of the sniffer. -/
abbrev sampleEndpoint : Bytes := BotSniffer.endpointAt 22621

/-- One reload takes the sniffer away. -/
def sampleAway : List PluginMove := sampleLoad true true ++ sampleReload false true

/-- The next one brings it back while a transaction is open. -/
def sampleBack : List PluginMove :=
  [.readCurrentState, .startTransaction 1] ++ sampleReload true false

/-- The objects after that: the second one still lives, and the third one has a sniffer. -/
def reloaded (t : BanjaxPlugin) : Bool :=
  decide ((t.banjaxes.get? 1).isSome = true ∧
    (t.banjaxes.get? 2).any (fun b => b.botSniffer.isSome) = true)

theorem sniffer_blocked_reloaded : ∃ s t,
    Reaches (step sampleConversions) (Refuses sampleConversions sampleEndpoint) (init 100)
      sampleAway s ∧
    Reaches (step sampleConversions) (Refuses sampleConversions sampleEndpoint) s sampleBack t ∧
    (t.banjaxes.get? 2).any (fun b => b.botSniffer.isSome) = true ∧
    Blocked sampleConversions t sampleEndpoint := by
  obtain ⟨s, h, hs⟩ := Reaches.of_decide (Q := Refuses sampleConversions sampleEndpoint)
    (step sampleConversions) sampleAway
    (p := fun s => decide (s.endpointAt (.object 1 .reuse) = some sampleEndpoint ∧
      s.reloader.newBanjax = none ∧ (sampleBack.foldlM (fun s x =>
        if Refuses sampleConversions sampleEndpoint s x then
          (step sampleConversions s x).toOption else none) s).any reloaded = true))
    (s := init 100) (by decide +kernel)
  obtain ⟨hkeeps, hmade, hmore⟩ := of_decide_eq_true hs
  obtain ⟨t, hmore, ht⟩ := Reaches.of_decide (Q := Refuses sampleConversions sampleEndpoint)
    (step sampleConversions) _ hmore
  obtain ⟨hlive, hsniffer⟩ := of_decide_eq_true ht
  refine ⟨s, t, h, hmore, hsniffer, ?_⟩
  exact sniffer_blocked h hkeeps (by rw [hmade]; nofun) hmore hlive

end BanjaxPlugin

end Banjax
