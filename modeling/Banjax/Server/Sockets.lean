import Banjax.Server.Handover
import Banjax.Swabber.Grace

/-!
# The sockets across reloads

At any time one object has the socket of the swabber, or the reload has it on its way, and the
same goes for the sniffer.  An object without its socket sends nothing.  So what is sent comes
from the current object, over the endpoint of its configuration (`sends_in_turn`), and a ban by
a transaction that was started before a reload is lost (`ban_sends_iff`).

The databases of the flags are not handed over: a reload starts the grace period anew
(`grace_after_reload`).
-/

namespace Banjax

open Lib

/-- The sockets of an object, which it has or has not. -/
structure BanjaxObject.Holds (b : BanjaxObject) (swabber sniffer : Prop) : Prop where
  endpoint : b.swabber.localEndpoint ≠ []
  swabber : b.swabberState.socket.isSome = true ↔ swabber
  swabberBound : BoundTo b.swabber.localEndpoint b.swabberState.socket
  sniffer : ∀ f, b.botSniffer = some f →
    (f.socket.isSome = true ↔ sniffer) ∧ BoundTo f.localEndpoint f.socket

namespace BanjaxPlugin

variable {A : Conversions} {s t u : BanjaxPlugin} {n : Nat} {b : BanjaxObject}

/-! ## Who has the sockets -/

/-- The object that has the socket of the swabber. -/
def swabberOwner (s : BanjaxPlugin) : Option Nat :=
  match s.reloader with
  | .outside => s.currentState
  | .swabberReleased _ | .snifferReleased _ _ | .consumerReleased _ _ _ => none
  | .swabberLoaded _ n | .filtersBuilt _ n | .kafkaLoaded n => some n

/-- The object that has the socket of the sniffer, if it has a sniffer. -/
def snifferOwner (s : BanjaxPlugin) : Option Nat :=
  match s.reloader with
  | .outside | .swabberReleased _ => s.currentState
  | .snifferReleased _ _ | .consumerReleased _ _ _ | .swabberLoaded _ _ => none
  | .filtersBuilt _ n | .kafkaLoaded n => some n

/-- The objects have the sockets that they own, and a new one has no sniffer yet. -/
structure Handed (s : BanjaxPlugin) : Prop where
  sockets : s.banjaxes.All fun n b => b.Holds (s.swabberOwner = some n) (s.snifferOwner = some n)
  unbuilt : ∀ conf n b, s.reloader = .swabberLoaded conf n → s.banjaxes.get? n = some b →
    b.botSniffer = none

/-- The same objects have the sockets. -/
theorem Handed.congr
    (hall : t.banjaxes.All fun n b =>
      b.Holds (s.swabberOwner = some n) (s.snifferOwner = some n))
    (hswabber : t.swabberOwner = s.swabberOwner) (hsniffer : t.snifferOwner = s.snifferOwner)
    (hbuilt : ∀ conf n, t.reloader ≠ .swabberLoaded conf n) : t.Handed where
  sockets := by
    rw [hswabber, hsniffer]
    exact hall
  unbuilt conf n b ht := (hbuilt conf n ht).elim

/-- An object that a transaction holds has changed. -/
theorem Handed.put (h : s.Handed) (href : s.Referenced) (hopen : n ∈ s.transactions)
    (hb : s.banjaxes.get? n = some b) {b' : BanjaxObject}
    (hb' : b'.Holds (s.swabberOwner = some n) (s.snifferOwner = some n))
    (hbanjaxes : t.banjaxes = s.banjaxes.put n b') (hcurrent : t.currentState = s.currentState)
    (hreloader : t.reloader = s.reloader) : t.Handed where
  sockets := by
    rw [swabberOwner, snifferOwner, hreloader, hcurrent, hbanjaxes]
    exact h.sockets.put hb hb'
  unbuilt conf m c hm hc := by
    rw [hreloader] at hm
    have hne : m ≠ n := by
      rintro rfl
      exact href.not_new hopen (by rw [hm]; rfl)
    rw [hbanjaxes, Slots.get?_put hb, if_neg hne] at hc
    exact h.unbuilt conf m c hm hc

/-- It does not matter how it is said who has them. -/
theorem holds_congr {swabber sniffer swabber' sniffer' : Prop} (h : b.Holds swabber sniffer)
    (hswabber : swabber ↔ swabber') (hsniffer : sniffer ↔ sniffer') :
    b.Holds swabber' sniffer' where
  endpoint := h.endpoint
  swabber := h.swabber.trans hswabber
  swabberBound := h.swabberBound
  sniffer f hf := ⟨(h.sniffer f hf).1.trans hsniffer, (h.sniffer f hf).2⟩

/-- A ban keeps the sockets. -/
theorem holds_ban {swabber sniffer : Prop} (h : b.Holds swabber sniffer) (e : BanEnv)
    (ip reason : Bytes) :
    { b with swabberState := b.swabber.ban e ip reason b.swabberState }.Holds swabber sniffer := by
  obtain ⟨hsome, hbound, -⟩ := Swabber.ban_socket h.endpoint h.swabberBound e ip reason
  exact ⟨h.endpoint, by rw [hsome]; exact h.swabber, hbound, h.sniffer⟩

/-- And so does a close. -/
theorem holds_sniffed {swabber sniffer : Prop} (h : b.Holds swabber sniffer) {f : BotSniffer}
    (hf : b.botSniffer = some f) (e : Close) (m : TransactionMuncher) :
    { b with botSniffer := some (f.onHttpClose e m).sniffer }.Holds swabber sniffer := by
  obtain ⟨howner, hbound⟩ := h.sniffer f hf
  obtain ⟨hport, hsome, hbound', -⟩ := f.onHttpClose_socket hbound e m
  refine ⟨h.endpoint, h.swabber, h.swabberBound, ?_⟩
  rintro _ ⟨⟩
  have hendpoint : (f.onHttpClose e m).sniffer.localEndpoint = f.localEndpoint := by
    rw [BotSniffer.localEndpoint, hport]
    rfl
  exact ⟨by rw [hsome]; exact howner, hendpoint ▸ hbound'⟩

/-- The consumer has nothing to do with the sockets. -/
theorem holds_kafka {swabber sniffer : Prop} (h : b.Holds swabber sniffer) (kafkaConsumer : Bool) :
    { b with kafkaConsumer := kafkaConsumer }.Holds swabber sniffer :=
  ⟨h.endpoint, h.swabber, h.swabberBound, h.sniffer⟩

theorem Handed.closes (h : s.Handed) (href : s.Referenced) (hopen : n ∈ s.transactions)
    (hb : s.banjaxes.get? n = some b) {e : Close} {m : TransactionMuncher}
    (hc : Closes s n b e m t) : t.Handed := by
  cases hc with
  | silent => exact h
  | sniffed hf hclosed _ =>
      subst hclosed
      exact h.put href hopen hb (holds_sniffed (h.sockets n b hb) hf _ m) rfl rfl rfl

theorem Dropped.handed (hd : Dropped s n t) (h : s.Handed) : t.Handed := by
  obtain ⟨-, hframe⟩ := hd.frame
  have hall := hd.all h.sockets
  have hunbuilt : t.banjaxes.All fun m c => ∀ conf, s.reloader = .swabberLoaded conf m →
      c.botSniffer = none :=
    hd.all fun m c hc conf hreloader => h.unbuilt conf m c hreloader hc
  rw [hframe]
  exact ⟨hall, fun conf m c hreloader hc => hunbuilt m c hc conf hreloader⟩

theorem handed_init (clock : Int) : (init clock).Handed := ⟨nofun, nofun⟩

/-- Another object does not own what this one owns, nor what none owns. -/
theorem owner_congr {m : Nat} {owner : Option Nat} (hm : m ≠ n) (howner : owner = none) :
    some n = some m ↔ owner = some m := by
  rw [howner]
  exact iff_of_false (fun h => hm (Option.some.inj h).symm) nofun

theorem Handed.takes (h : s.Handed) (href : s.Referenced) {move : PluginMove}
    (hs : Takes A s move t) : t.Handed := by
  cases hs with
  | tick | readCurrentState | startTransaction | consume | consumed =>
      exact ⟨h.sockets, h.unbuilt⟩
  | ban lockTry bindTry ip reason hopen hb =>
      exact h.put href hopen hb (holds_ban (h.sockets _ _ hb) _ ip reason) rfl rfl rfl
  | @closeTransaction n b t u e m hopen hb hc hd =>
      have ht := h.closes href hopen hb hc
      exact hd.handed ⟨ht.sockets, ht.unbuilt⟩
  | @releaseSwabberSocket n b hreloader hcurrent hb =>
      have hswabber : s.swabberOwner = some n := by rw [swabberOwner, hreloader, hcurrent]
      have hsniffer : s.snifferOwner = s.currentState := by rw [snifferOwner, hreloader]
      refine ⟨Slots.all_put hb (fun m c hm hc => ?_) ?_, by rintro _ _ _ ⟨⟩⟩
      · exact holds_congr (h.sockets m c hc) (by rw [hswabber]; exact owner_congr hm rfl)
          (by rw [hsniffer]; rfl)
      · have hkept := h.sockets n b hb
        rw [hsniffer] at hkept
        exact ⟨hkept.endpoint, iff_of_false Bool.false_ne_true (by rintro ⟨⟩), boundTo_none _,
          hkept.sniffer⟩
  | @releaseBotsnifferSocket n b swabS hreloader hcurrent hb =>
      have hswabber : s.swabberOwner = none := by rw [swabberOwner, hreloader]
      have hsniffer : s.snifferOwner = some n := by rw [snifferOwner, hreloader, hcurrent]
      have hkept := h.sockets n b hb
      rw [hswabber] at hkept
      have hother : ∀ m c, m ≠ n → s.banjaxes.get? m = some c →
          c.Holds ((none : Option Nat) = some m) ((none : Option Nat) = some m) := by
        intro m c hm hc
        exact holds_congr (h.sockets m c hc) (by rw [hswabber])
          (by rw [hsniffer]; exact owner_congr hm rfl)
      rw [releaseBotsnifferSocket]
      split
      · next hnone =>
        refine ⟨fun m c hc => ?_, by rintro _ _ _ ⟨⟩⟩
        rcases eq_or_ne m n with rfl | hm
        · cases hb.symm.trans hc
          exact ⟨hkept.endpoint, hkept.swabber, hkept.swabberBound, by rw [hnone]; rintro _ ⟨⟩⟩
        · exact hother m c hm hc
      · next f hf =>
        refine ⟨Slots.all_put hb hother ?_, by rintro _ _ _ ⟨⟩⟩
        refine ⟨hkept.endpoint, hkept.swabber, hkept.swabberBound, ?_⟩
        rintro _ ⟨⟩
        exact ⟨iff_of_false Bool.false_ne_true (by rintro ⟨⟩), boundTo_none _⟩
  | @releaseKafkaConsumer n b swabS snifS hreloader hcurrent hb =>
      have hswabber : s.swabberOwner = none := by rw [swabberOwner, hreloader]
      have hsniffer : s.snifferOwner = none := by rw [snifferOwner, hreloader]
      have hkept := holds_kafka (h.sockets n b hb) false
      exact Handed.congr (h.sockets.put hb hkept) hswabber.symm hsniffer.symm (by rintro _ _ ⟨⟩)
  | @loadSwabber swabS snifS kafkaConsumer S conf bindTry tries hreloader hS =>
      have hswabber : s.swabberOwner = none := by rw [swabberOwner, hreloader]
      have hsniffer : s.snifferOwner = none := by rw [snifferOwner, hreloader]
      have hne := Conversions.swabber_localEndpoint hS
      refine ⟨Slots.All.make (fun m c hc => ?_) ?_, ?_⟩
      · have hm := Slots.lt_made hc
        exact holds_congr (h.sockets m c hc)
          (by rw [hswabber]; exact (owner_congr (Nat.ne_of_lt hm) rfl).symm)
          (by rw [hsniffer]; exact Iff.rfl)
      · refine ⟨hne, iff_of_true rfl rfl, boundTo_some ?_, by rintro _ ⟨⟩⟩
        rw [S.loadSocket_localEndpoint hne]
        split
        · exact .inr rfl
        · exact .inl rfl
      · rintro _ _ c ⟨⟩ hc
        rw [loadSwabber, Slots.get?_make, if_pos rfl] at hc
        cases hc
        rfl
  | @buildFilters n b conf port bindTry hreloader hport hb =>
      have hswabber : s.swabberOwner = some n := by rw [swabberOwner, hreloader]
      have hsniffer : s.snifferOwner = none := by rw [snifferOwner, hreloader]
      have hkept := h.sockets n b hb
      rw [hswabber] at hkept
      have hother : ∀ m c, m ≠ n → s.banjaxes.get? m = some c →
          c.Holds (some n = some m) (some n = some m) := by
        intro m c hm hc
        exact holds_congr (h.sockets m c hc) (by rw [hswabber])
          (by rw [hsniffer]; exact (owner_congr hm rfl).symm)
      cases port with
      | none =>
          refine ⟨fun m c hc => ?_, by rintro _ _ _ ⟨⟩⟩
          rcases eq_or_ne m n with rfl | hm
          · cases hb.symm.trans hc
            have hnone := h.unbuilt conf m b hreloader hb
            exact ⟨hkept.endpoint, hkept.swabber, hkept.swabberBound, by rw [hnone]; rintro _ ⟨⟩⟩
          · exact hother m c hm hc
      | some port =>
          refine ⟨Slots.all_put hb hother ?_, by rintro _ _ _ ⟨⟩⟩
          refine ⟨hkept.endpoint, hkept.swabber, hkept.swabberBound, ?_⟩
          rintro f ⟨⟩
          obtain ⟨k, hk, hendpoint⟩ :=
            BotSniffer.load_socket port b.botsnifferSocketReuse bindTry
          refine ⟨iff_of_true (by rw [hk]; rfl) rfl, ?_⟩
          rw [hk]
          refine boundTo_some ?_
          rw [hendpoint]
          split
          · exact .inr rfl
          · exact .inl rfl
  | @loadKafka n b conf brokers hreloader hbrokers hb hfree =>
      have hswabber : s.swabberOwner = some n := by rw [swabberOwner, hreloader]
      have hsniffer : s.snifferOwner = some n := by rw [snifferOwner, hreloader]
      have hkept := holds_kafka (h.sockets n b hb) brokers
      exact Handed.congr (h.sockets.put hb hkept) hswabber.symm hsniffer.symm (by rintro _ _ ⟨⟩)
  | @publishFirst n hreloader hcurrent =>
      have hswabber : s.swabberOwner = some n := by rw [swabberOwner, hreloader]
      have hsniffer : s.snifferOwner = some n := by rw [snifferOwner, hreloader]
      exact Handed.congr h.sockets hswabber.symm hsniffer.symm (by rintro _ _ ⟨⟩)
  | @publish n old t hreloader hcurrent hd =>
      have hswabber : s.swabberOwner = some n := by rw [swabberOwner, hreloader]
      have hsniffer : s.snifferOwner = some n := by rw [snifferOwner, hreloader]
      exact hd.handed (Handed.congr h.sockets hswabber.symm hsniffer.symm (by rintro _ _ ⟨⟩))

/-! ## The configurations -/

/-- The object is configured as the files were when it was made. -/
def BuiltOf (A : Conversions) (s : BanjaxPlugin) (n : Nat) (b : BanjaxObject) : Prop :=
  ∃ born conf, s.made[n]? = some (born, conf) ∧ A.swabber conf.swabberConf = .ok b.swabber ∧
    ∀ f, b.botSniffer = some f → A.snifferPort conf = .ok (some f.botbangerPort)

/-- All objects are. -/
structure Built (A : Conversions) (s : BanjaxPlugin) : Prop where
  length : s.made.length = s.banjaxes.made
  objects : s.banjaxes.All (BuiltOf A s)
  loading : ∀ conf n, s.reloader = .swabberLoaded conf n → ∃ born, s.made[n]? = some (born, conf)

theorem built_init (clock : Int) : Built A (init clock) := ⟨rfl, nofun, nofun⟩

/-- An object has changed, but not its configuration. -/
theorem Built.put (h : Built A s) (hb : s.banjaxes.get? n = some b) {b' : BanjaxObject}
    (hbanjaxes : t.banjaxes = s.banjaxes.put n b') (hmade : t.made = s.made)
    (hswabber : b'.swabber = b.swabber)
    (hsniffer : ∀ f, b'.botSniffer = some f → ∃ g, b.botSniffer = some g ∧
      f.botbangerPort = g.botbangerPort)
    (hreloader : ∀ conf m, t.reloader = .swabberLoaded conf m →
      s.reloader = .swabberLoaded conf m) : Built A t where
  length := by rw [hmade, hbanjaxes, Slots.made_put, h.length]
  objects := by
    rw [hbanjaxes]
    refine Slots.all_put hb (fun m c _ hc => ?_) ?_
    · rw [BuiltOf, hmade]
      exact h.objects m c hc
    · obtain ⟨born, conf, hn, hconf, hport⟩ := h.objects n b hb
      refine ⟨born, conf, hmade ▸ hn, hswabber ▸ hconf, fun f hf => ?_⟩
      obtain ⟨g, hg, hsame⟩ := hsniffer f hf
      rw [hsame]
      exact hport g hg
  loading conf m hm := by
    rw [hmade]
    exact h.loading conf m (hreloader conf m hm)

theorem Dropped.built (hd : Dropped s n t) (h : Built A s) : Built A t := by
  obtain ⟨hlength, hframe⟩ := hd.frame
  have hall := hd.all h.objects
  rw [hframe]
  exact ⟨h.length.trans hlength.symm, hall, h.loading⟩

theorem Built.takes (h : Built A s) (hhanded : s.Handed) {move : PluginMove}
    (hs : Takes A s move t) : Built A t := by
  cases hs with
  | tick | readCurrentState | startTransaction | consume | consumed =>
      exact ⟨h.length, h.objects, h.loading⟩
  | ban lockTry bindTry ip reason hopen hb =>
      exact h.put hb rfl rfl rfl (fun f hf => ⟨f, hf, rfl⟩) fun _ _ => id
  | @closeTransaction n b t u e m hopen hb hc hd =>
      have ht : Built A t := by
        cases hc with
        | silent => exact h
        | @sniffed f closed hf hclosed _ =>
            subst hclosed
            refine h.put hb rfl rfl rfl ?_ fun _ _ => id
            rintro _ ⟨⟩
            refine ⟨f, hf, ?_⟩
            exact (f.onHttpClose_socket ((hhanded.sockets n b hb).sniffer f hf).2 _ m).1
      exact hd.built ⟨ht.length, ht.objects, ht.loading⟩
  | releaseSwabberSocket hreloader hcurrent hb =>
      exact h.put hb rfl rfl rfl (fun f hf => ⟨f, hf, rfl⟩) (by rintro _ _ ⟨⟩)
  | @releaseBotsnifferSocket n b swabS hreloader hcurrent hb =>
      rw [releaseBotsnifferSocket]
      split
      · exact ⟨h.length, h.objects, by rintro _ _ ⟨⟩⟩
      · next f hf =>
        refine h.put hb rfl rfl rfl ?_ (by rintro _ _ ⟨⟩)
        rintro _ ⟨⟩
        exact ⟨f, hf, rfl⟩
  | releaseKafkaConsumer hreloader hcurrent hb =>
      exact h.put hb rfl rfl rfl (fun f hf => ⟨f, hf, rfl⟩) (by rintro _ _ ⟨⟩)
  | @loadSwabber swabS snifS kafkaConsumer S conf bindTry tries hreloader hS =>
      have hnew : (s.made ++ [(s.clock, conf)])[s.banjaxes.made]? = some (s.clock, conf) := by
        rw [← h.length, List.getElem?_concat_length]
      refine ⟨?_, Slots.All.make (fun m c hc => ?_) ?_, ?_⟩
      · rw [loadSwabber, List.length_append, h.length, Slots.made_make]
        rfl
      · obtain ⟨born, conf', hm, hbuilt⟩ := h.objects m c hc
        have hlt : m < s.made.length := h.length ▸ Slots.lt_made hc
        exact ⟨born, conf', (List.getElem?_append_left hlt).trans hm, hbuilt⟩
      · exact ⟨s.clock, conf, hnew, hS, by rintro _ ⟨⟩⟩
      · rintro _ _ ⟨⟩
        exact ⟨s.clock, hnew⟩
  | @buildFilters n b conf port bindTry hreloader hport hb =>
      cases port with
      | none => exact ⟨h.length, h.objects, by rintro _ _ ⟨⟩⟩
      | some port =>
          obtain ⟨born, hn⟩ := h.loading conf n hreloader
          obtain ⟨born', conf', hn', hconf, -⟩ := h.objects n b hb
          cases hn.symm.trans hn'
          refine ⟨?_, Slots.all_put hb (fun m c _ hc => h.objects m c hc) ?_, by rintro _ _ ⟨⟩⟩
          · rw [buildFilters, Slots.made_put]
            exact h.length
          · refine ⟨born, conf, hn, hconf, ?_⟩
            rintro _ ⟨⟩
            exact hport
  | loadKafka hreloader hbrokers hb hfree =>
      exact h.put hb rfl rfl rfl (fun f hf => ⟨f, hf, rfl⟩) (by rintro _ _ ⟨⟩)
  | publishFirst hreloader hcurrent => exact ⟨h.length, h.objects, by rintro _ _ ⟨⟩⟩
  | publish hreloader hcurrent hd => exact hd.built ⟨h.length, h.objects, by rintro _ _ ⟨⟩⟩

/-! ## What is sent -/

end BanjaxPlugin

/-- The message was sent over the endpoint for which its object was configured. -/
def Sending.Configured (A : Conversions) (made : List (Int × Conf)) (x : Sending) : Prop :=
  ∃ born conf, made[x.banjax]? = some (born, conf) ∧
    match x.payload with
    | .ban _ => ∃ S, A.swabber conf.swabberConf = .ok S ∧ x.endpoint = S.localEndpoint
    | .line _ => ∃ port, A.snifferPort conf = .ok (some port) ∧
        x.endpoint = BotSniffer.endpointAt port

namespace BanjaxPlugin

variable {A : Conversions} {s t u : BanjaxPlugin} {n : Nat} {b : BanjaxObject}

/-- A transaction whose object has the socket of the swabber has the current object, and there is
no reload. -/
theorem Referenced.swabberOwner (h : s.Referenced) (hopen : n ∈ s.transactions) :
    s.swabberOwner = some n ↔ s.reloader = .outside ∧ s.currentState = some n := by
  have hnew := h.not_new hopen
  rw [BanjaxPlugin.swabberOwner]
  cases hreloader : s.reloader with
  | outside => exact (and_iff_right rfl).symm
  | swabberReleased _ | snifferReleased _ _ | consumerReleased _ _ _ =>
      exact iff_of_false nofun fun h => nomatch h.1
  | swabberLoaded _ m | filtersBuilt _ m | kafkaLoaded m =>
      rw [hreloader] at hnew
      exact iff_of_false hnew fun h => nomatch h.1

/-- And so does one whose object has the socket of the sniffer. -/
theorem Referenced.snifferOwner (h : s.Referenced) (hopen : n ∈ s.transactions)
    (howner : s.snifferOwner = some n) : s.currentState = some n := by
  have hnew := h.not_new hopen
  rw [BanjaxPlugin.snifferOwner] at howner
  cases hreloader : s.reloader with
  | outside | swabberReleased _ => rwa [hreloader] at howner
  | snifferReleased _ _ | consumerReleased _ _ _ | swabberLoaded _ _ =>
      rw [hreloader] at howner
      cases howner
  | filtersBuilt _ m | kafkaLoaded m =>
      rw [hreloader] at howner hnew
      exact absurd howner hnew

/-- The ban by a transaction takes effect: its object is the current one, there is no reload, the
grace period is over, and the socket is bound or can be. -/
structure Effective (s : BanjaxPlugin) (n : Nat) (b : BanjaxObject) (lockTry bindTry : Bool)
    (ip reason : Bytes) : Prop where
  outside : s.reloader = .outside
  current : s.currentState = some n
  grace : (b.swabber.awaitGrace (s.banEnv lockTry bindTry) ip reason b.swabberState).1 = true
  lockTry : lockTry = true
  bound : (b.swabberState.socket.any Socket.isBound || bindTry) = true

theorem effective_iff (h : s.Handed) (href : s.Referenced) (hopen : n ∈ s.transactions)
    (hb : s.banjaxes.get? n = some b) (lockTry bindTry : Bool) (ip reason : Bytes) :
    Effective s n b lockTry bindTry ip reason ↔
      b.swabber.Sends (s.banEnv lockTry bindTry) ip reason b.swabberState := by
  have howner := (h.sockets n b hb).swabber.trans (href.swabberOwner hopen)
  constructor
  · rintro ⟨houtside, hcurrent, hgrace, hlock, hbound⟩
    obtain ⟨k, hk⟩ := Option.isSome_iff_exists.mp (howner.mpr ⟨houtside, hcurrent⟩)
    rw [hk] at hbound
    exact ⟨hgrace, hlock, k, hk, hbound⟩
  · rintro ⟨hgrace, hlock, k, hk, hbound⟩
    obtain ⟨houtside, hcurrent⟩ := howner.mp (by rw [hk]; rfl)
    exact ⟨houtside, hcurrent, hgrace, hlock, by rw [hk]; exact hbound⟩

/-- A ban that takes effect sends its message, and no other one sends anything. -/
theorem sent_ban (h : s.Handed) (href : s.Referenced) (hopen : n ∈ s.transactions)
    (hb : s.banjaxes.get? n = some b) (lockTry bindTry : Bool) (ip reason : Bytes) :
    Effective s n b lockTry bindTry ip reason ∧
        (s.ban n b lockTry bindTry ip reason).sent =
          s.sent ++ [⟨n, b.swabber.localEndpoint, .ban (swabberBan, ip), s.clock⟩] ∨
      ¬ Effective s n b lockTry bindTry ip reason ∧
        (s.ban n b lockTry bindTry ip reason).sent = s.sent := by
  rw [effective_iff h href hopen hb]
  obtain ⟨-, -, hsends⟩ := Swabber.ban_socket (h.sockets n b hb).endpoint
    (h.sockets n b hb).swabberBound (s.banEnv lockTry bindTry) ip reason
  rw [ban]
  dsimp only
  rcases hsends with ⟨hsends, hsent, hsocket⟩ | ⟨hnot, hsent⟩
  · refine .inl ⟨hsends, ?_⟩
    rw [hsent, hsocket, List.drop_left]
    rfl
  · refine .inr ⟨hnot, ?_⟩
    rw [hsent, List.drop_length, List.map_nil, List.append_nil]

/-- The lines of a close, too, come from the current object. -/
theorem sent_close (h : s.Handed) (href : s.Referenced) (hbuilt : Built A s)
    (hopen : n ∈ s.transactions) (hb : s.banjaxes.get? n = some b) {e : Close}
    {m : TransactionMuncher} (hc : Closes s n b e m t) :
    ∃ lines, t.sent = s.sent ++ lines ∧ ∀ x ∈ lines,
      s.currentState = some x.banjax ∧ x.time = s.clock ∧ x.Configured A s.made := by
  cases hc with
  | silent => exact ⟨[], (List.append_nil _).symm, nofun⟩
  | @sniffed f closed hf hclosed _ =>
      refine ⟨_, rfl, fun x hx => ?_⟩
      obtain ⟨sent, hsent, rfl⟩ := List.mem_map.mp hx
      subst hclosed
      obtain ⟨howner, hbound⟩ := (h.sockets n b hb).sniffer f hf
      obtain ⟨born, conf, hn, -, hport⟩ := hbuilt.objects n b hb
      obtain ⟨-, hsome, -, hover⟩ := f.onHttpClose_socket hbound e m
      rcases hover with hnil | hover
      · rw [hnil] at hsent
        cases hsent
      · have hkept := Option.isSome_map (f := Socket.localEndpoint)
          (x := (f.onHttpClose e m).sniffer.socket)
        rw [hover, hsome] at hkept
        refine ⟨href.snifferOwner hopen (howner.mp hkept.symm), rfl, born, conf, hn, ?_⟩
        refine ⟨f.botbangerPort, hport f hf, ?_⟩
        dsimp only
        rw [hover]
        rfl

/-- What a move sends. -/
theorem Takes.sends (h : s.Handed) (href : s.Referenced) (hbuilt : Built A s) {move : PluginMove}
    (hs : Takes A s move t) :
    ∃ new, t.sent = s.sent ++ new ∧ ∀ x ∈ new,
      s.currentState = some x.banjax ∧ x.time = s.clock ∧ x.Configured A s.made := by
  have hnone : ∃ new, s.sent = s.sent ++ new ∧ ∀ x ∈ new,
      s.currentState = some x.banjax ∧ x.time = s.clock ∧ x.Configured A s.made :=
    ⟨[], (List.append_nil _).symm, nofun⟩
  cases hs with
  | tick | readCurrentState | startTransaction | consume | consumed => exact hnone
  | @ban n b lockTry bindTry ip reason hopen hb =>
      rcases sent_ban h href hopen hb lockTry bindTry ip reason with
        ⟨heffective, hsent⟩ | ⟨-, hsent⟩
      · obtain ⟨born, conf, hn, hconf, -⟩ := hbuilt.objects n b hb
        refine ⟨_, hsent, fun x hx => ?_⟩
        rw [List.mem_singleton.mp hx]
        exact ⟨heffective.current, rfl, born, conf, hn, b.swabber, hconf, rfl⟩
      · rw [hsent]
        exact hnone
  | @closeTransaction n b t u e m hopen hb hc hd =>
      obtain ⟨lines, hsent, hlines⟩ := sent_close h href hbuilt hopen hb hc
      obtain ⟨-, hframe⟩ := hd.frame
      rw [hframe]
      exact ⟨lines, hsent, hlines⟩
  | releaseSwabberSocket | releaseKafkaConsumer | loadSwabber | loadKafka | publishFirst =>
      exact hnone
  | @releaseBotsnifferSocket n b =>
      rw [BanjaxPlugin.releaseBotsnifferSocket]
      split <;> exact hnone
  | @buildFilters n b conf port => cases port <;> exact hnone
  | publish hreloader hcurrent hd =>
      obtain ⟨-, hframe⟩ := hd.frame
      rw [hframe]
      exact hnone

/-! ## The order of what is sent -/

/-- The current object is replaced by newer ones only, and what was made is not forgotten. -/
theorem Takes.advances (href : s.Referenced) {move : PluginMove} (hs : Takes A s move t) :
    (∀ c, s.currentState = some c → ∃ c', t.currentState = some c' ∧ c ≤ c') ∧
      ∃ more, t.made = s.made ++ more := by
  have hsame : (∀ c, s.currentState = some c → ∃ c', s.currentState = some c' ∧ c ≤ c') ∧
      ∃ more, s.made = s.made ++ more :=
    ⟨fun c hc => ⟨c, hc, Nat.le_refl c⟩, [], (List.append_nil _).symm⟩
  cases hs with
  | tick | readCurrentState | startTransaction | consume | consumed | ban |
      releaseSwabberSocket | releaseKafkaConsumer | loadKafka => exact hsame
  | @closeTransaction n b t u e m hopen hb hc hd =>
      have ht : t.currentState = s.currentState ∧ t.made = s.made := by
        cases hc <;> exact ⟨rfl, rfl⟩
      obtain ⟨-, hframe⟩ := hd.frame
      rw [hframe]
      show (∀ c, s.currentState = some c → ∃ c', t.currentState = some c' ∧ c ≤ c') ∧
        ∃ more, t.made = s.made ++ more
      rw [ht.1, ht.2]
      exact hsame
  | @releaseBotsnifferSocket n b =>
      rw [BanjaxPlugin.releaseBotsnifferSocket]
      split <;> exact hsame
  | loadSwabber => exact ⟨hsame.1, _, rfl⟩
  | @buildFilters n b conf port => cases port <;> exact hsame
  | @publishFirst n hreloader hcurrent =>
      refine ⟨fun c hc => ?_, hsame.2⟩
      rw [hcurrent] at hc
      cases hc
  | @publish n old t hreloader hcurrent hd =>
      obtain ⟨-, hframe⟩ := hd.frame
      rw [hframe]
      refine ⟨fun c hc => ⟨n, rfl, ?_⟩, hsame.2⟩
      exact Nat.le_of_lt (href.newer n (by rw [hreloader]; rfl) c hc)

/-- What has been sent was sent by one object after the other, over the endpoints they were
configured for. -/
structure InTurn (A : Conversions) (s : BanjaxPlugin) : Prop where
  order : (s.sent.map Sending.banjax).Pairwise (· ≤ ·)
  older : ∀ x ∈ s.sent, ∃ c, s.currentState = some c ∧ x.banjax ≤ c
  configured : ∀ x ∈ s.sent, x.Configured A s.made

theorem configured_append {made : List (Int × Conf)} {x : Sending}
    (h : x.Configured A made) (more : List (Int × Conf)) : x.Configured A (made ++ more) := by
  obtain ⟨born, conf, hn, hx⟩ := h
  refine ⟨born, conf, ?_, hx⟩
  rw [List.getElem?_append_left (List.getElem?_eq_some_iff.mp hn).1]
  exact hn

theorem InTurn.takes (h : InTurn A s) (hhanded : s.Handed) (href : s.Referenced)
    (hbuilt : Built A s) {move : PluginMove} (hs : Takes A s move t) : InTurn A t := by
  obtain ⟨new, hsent, hnew⟩ := hs.sends hhanded href hbuilt
  obtain ⟨hcurrent, more, hmade⟩ := hs.advances href
  refine ⟨?_, fun x hx => ?_, fun x hx => ?_⟩
  · rw [hsent, List.map_append, List.pairwise_append]
    have hsame : (new.map Sending.banjax).Pairwise (· ≤ ·) := by
      refine List.pairwise_map.mpr (List.pairwise_of_forall_mem_list fun x hx y hy => ?_)
      have hxy := (hnew x hx).1.symm.trans (hnew y hy).1
      exact Nat.le_of_eq (Option.some.inj hxy)
    refine ⟨h.order, hsame, fun i hi j hj => ?_⟩
    obtain ⟨x, hx, rfl⟩ := List.mem_map.mp hi
    obtain ⟨y, hy, rfl⟩ := List.mem_map.mp hj
    obtain ⟨c, hc, hle⟩ := h.older x hx
    rw [← Option.some.inj ((hnew y hy).1.symm.trans hc)] at hle
    exact hle
  · rw [hsent] at hx
    rcases List.mem_append.mp hx with hx | hx
    · obtain ⟨c, hc, hle⟩ := h.older x hx
      obtain ⟨c', hc', hle'⟩ := hcurrent c hc
      exact ⟨c', hc', by omega⟩
    · exact hcurrent _ (hnew x hx).1
  · rw [hmade]
    rw [hsent] at hx
    rcases List.mem_append.mp hx with hx | hx
    · exact configured_append (h.configured x hx) more
    · exact configured_append (hnew x hx).2.2 more

section Runs

variable {clock : Int} {moves : List PluginMove} {Q : BanjaxPlugin → PluginMove → Prop}

/-- The invariants of the objects, together. -/
structure Kept (A : Conversions) (s : BanjaxPlugin) : Prop where
  referenced : s.Referenced
  handed : s.Handed
  built : Built A s

theorem Kept.takes (h : Kept A s) {move : PluginMove} (hs : Takes A s move t) : Kept A t :=
  ⟨h.referenced.takes hs, h.handed.takes h.referenced hs, h.built.takes h.handed hs⟩

theorem kept_of_reaches (h : Reaches (step A) Q (init clock) moves s) : Kept A s :=
  h.invariant (P := fun _ s => Kept A s)
    ⟨referenced_init clock, handed_init clock, built_init clock⟩
    fun _ _ _ _ _ hs _ hstep => hs.takes (takes_of_step hstep)

/-- In every run, the messages come from the objects in the order in which they were made, each
over the endpoint of its configuration, and the next ones come from the current object. -/
theorem sends_in_turn (h : Reaches (step A) Q (init clock) moves s) :
    InTurn A s ∧ ∀ move t, step A s move = .ok t →
      ∃ new, t.sent = s.sent ++ new ∧ ∀ x ∈ new, s.currentState = some x.banjax := by
  have hboth : Kept A s ∧ InTurn A s := by
    refine h.invariant (P := fun _ s => Kept A s ∧ InTurn A s) ⟨⟨referenced_init clock,
      handed_init clock, built_init clock⟩, .nil, nofun, nofun⟩ ?_
    intro _ _ a b _ ⟨hkept, hturn⟩ _ hstep
    have hs := takes_of_step hstep
    exact ⟨hkept.takes hs, hturn.takes hkept.handed hkept.referenced hkept.built hs⟩
  refine ⟨hboth.2, fun move t hstep => ?_⟩
  obtain ⟨hkept, -⟩ := hboth
  obtain ⟨new, hsent, hnew⟩ := (takes_of_step hstep).sends hkept.handed hkept.referenced hkept.built
  exact ⟨new, hsent, fun x hx => (hnew x hx).1⟩

/-- In every reachable state, the ban by a transaction is sent when it takes effect, and is lost
otherwise: when the object of the transaction has been replaced, or a reload is going on. -/
theorem ban_sends_iff (h : Reaches (step A) Q (init clock) moves s)
    (hb : s.banjaxes.get? n = some b) (lockTry bindTry : Bool) (ip reason : Bytes)
    (hstep : step A s (.ban n lockTry bindTry ip reason) = .ok t) :
    Effective s n b lockTry bindTry ip reason ∧
        t.sent = s.sent ++ [⟨n, b.swabber.localEndpoint, .ban (swabberBan, ip), s.clock⟩] ∨
      ¬ Effective s n b lockTry bindTry ip reason ∧ t.sent = s.sent := by
  have hkept := kept_of_reaches h
  cases takes_of_step hstep with
  | ban _ _ _ _ hopen hb' =>
      cases hb.symm.trans hb'
      exact sent_ban hkept.handed hkept.referenced hopen hb lockTry bindTry ip reason

end Runs

/-- The second ban is sent, by the object that is replaced then. -/
theorem sends_in_turn_across_reload : ∃ s, Reaches (step sampleConversions) (fun _ _ => True)
    (init 100) sampleMoves s ∧ s.sent.length = 1 ∧ s.currentState = some 1 ∧
      InTurn sampleConversions s := by
  obtain ⟨s, h, hs⟩ := Reaches.of_decide (Q := fun _ _ => True) (step sampleConversions) sampleMoves
    (p := fun s => decide (s.sent.length = 1 ∧ s.currentState = some 1)) (s := init 100)
    (by decide +kernel)
  obtain ⟨hlength, hcurrent⟩ := of_decide_eq_true hs
  exact ⟨s, h, hlength, hcurrent, (sends_in_turn h).1⟩

/-- And the next one by the same transaction is lost. -/
theorem ban_lost_across_reload : ∃ s t, Reaches (step sampleConversions) (fun _ _ => True)
    (init 100) sampleMoves s ∧
      step sampleConversions s (.ban 0 true true (bytes "10.0.0.1") []) = .ok t ∧
      t.sent = s.sent := by
  obtain ⟨s, h, hs⟩ := Reaches.of_decide (Q := fun _ _ => True) (step sampleConversions) sampleMoves
    (p := fun s => decide (s.currentState = some 1 ∧ (s.banjaxes.get? 0).isSome = true ∧
      (step sampleConversions s (.ban 0 true true (bytes "10.0.0.1") [])).toOption.isSome = true))
    (s := init 100) (by decide +kernel)
  obtain ⟨hcurrent, hb, ht⟩ := of_decide_eq_true hs
  obtain ⟨b, hb⟩ := Option.isSome_iff_exists.mp hb
  obtain ⟨t, ht⟩ := ok_of_isSome ht
  refine ⟨s, t, h, ht, ?_⟩
  rcases ban_sends_iff h hb true true (bytes "10.0.0.1") [] ht with ⟨heffective, -⟩ | ⟨-, hsent⟩
  · cases hcurrent.symm.trans heffective.current
  · exact hsent

/-! ## The grace period -/

end BanjaxPlugin

/-- The time of a tick. -/
def PluginMove.now? : PluginMove → Option Int
  | tick now => some now
  | _ => none

namespace BanjaxPlugin

variable {A : Conversions} {s t u : BanjaxPlugin} {n : Nat} {b : BanjaxObject}

/-- The clock does not go back. -/
def Steady (s : BanjaxPlugin) (move : PluginMove) : Prop := ∀ now ∈ move.now?, s.clock ≤ now

instance (s : BanjaxPlugin) (move : PluginMove) : Decidable (s.Steady move) :=
  inferInstanceAs (Decidable (∀ now ∈ move.now?, s.clock ≤ now))

/-- No flag is older than its object, and no ban was sent in the grace period after the object
of the sender was made. -/
structure Fresh (A : Conversions) (s : BanjaxPlugin) : Prop where
  born : ∀ born conf, (born, conf) ∈ s.made → born ≤ s.clock
  flags : s.banjaxes.All fun n b => ∀ born conf, s.made[n]? = some (born, conf) →
    0 < b.swabber.gracePeriod → ∀ ip, b.swabberState.flagOf ip ≠ 0 →
      born ≤ b.swabberState.flagOf ip
  sent : ∀ x ∈ s.sent, ∀ message, x.payload = .ban message → ∀ born conf S,
    s.made[x.banjax]? = some (born, conf) → A.swabber conf.swabberConf = .ok S →
      0 < S.gracePeriod → born + S.gracePeriod ≤ x.time

theorem fresh_init (clock : Int) : Fresh A (init clock) := ⟨nofun, nofun, nofun⟩

/-- A change that keeps the flags. -/
theorem Fresh.congr (h : Fresh A s)
    (hflags : t.banjaxes.All fun n b => ∀ born conf, s.made[n]? = some (born, conf) →
      0 < b.swabber.gracePeriod → ∀ ip, b.swabberState.flagOf ip ≠ 0 →
        born ≤ b.swabberState.flagOf ip)
    (hmade : t.made = s.made) (hclock : t.clock = s.clock)
    (hsent : ∀ x ∈ t.sent, ∀ message, x.payload = .ban message → x ∈ s.sent) : Fresh A t where
  born := by
    rw [hmade, hclock]
    exact h.born
  flags := by
    rw [hmade]
    exact hflags
  sent x hx message hmessage := by
    rw [hmade]
    exact h.sent x (hsent x hx message hmessage) message hmessage

/-- A ban sets no flag but with the time of the clock. -/
theorem flagOf_ban {S : Swabber} (hgrace : 0 < S.gracePeriod) (e : BanEnv) (ip reason : Bytes)
    (st : SwabberState) (ip' : Bytes) (hflag : (S.ban e ip reason st).flagOf ip' ≠ 0) :
    (S.ban e ip reason st).flagOf ip' = st.flagOf ip' ∨
      (S.ban e ip reason st).flagOf ip' = e.now := by
  have hcases := S.ban_cases hgrace e ip reason st
  rcases eq_or_ne ip' ip with rfl | hne
  · rcases hcases.same with hsame | hnone | ⟨-, hnow⟩
    · exact .inl hsame
    · exact absurd hnone hflag
    · exact .inr hnow
  · exact .inl (hcases.other hne)

/-- A ban that sends finds a flag that is old enough. -/
theorem flagOf_of_sends {S : Swabber} (hgrace : 0 < S.gracePeriod) {e : BanEnv}
    {ip reason : Bytes} {st : SwabberState} (h : S.Sends e ip reason st) :
    st.flagOf ip ≠ 0 ∧ S.gracePeriod ≤ e.now - st.flagOf ip := by
  have hwait := h.grace
  cases hawait : S.awaitGrace e ip reason st with
  | mk waited u =>
      rw [hawait] at hwait
      obtain rfl : waited = true := hwait
      obtain ⟨hflag, hold, -⟩ := Swabber.awaitGrace_true hgrace hawait
      exact ⟨hflag, hold⟩

theorem Fresh.takes (h : Fresh A s) (hkept : Kept A s) (hturn : InTurn A s) {move : PluginMove}
    (hs : Takes A s move t) (hsteady : s.Steady move) : Fresh A t := by
  cases hs with
  | tick now =>
      refine ⟨fun born conf hmade => ?_, h.flags, h.sent⟩
      exact (h.born born conf hmade).trans (hsteady now rfl)
  | readCurrentState | startTransaction | consume | consumed => exact ⟨h.born, h.flags, h.sent⟩
  | @ban n b lockTry bindTry ip reason hopen hb =>
      refine ⟨h.born, h.flags.put hb fun born conf hmade hgrace ip' hflag => ?_, ?_⟩
      · rcases flagOf_ban hgrace _ ip reason _ ip' hflag with hsame | hnow
        · rw [hsame] at hflag ⊢
          exact h.flags n b hb born conf hmade hgrace ip' hflag
        · rw [hnow]
          exact h.born born conf (List.mem_of_getElem? hmade)
      · rcases sent_ban hkept.handed hkept.referenced hopen hb lockTry bindTry ip reason with
          ⟨heffective, hsent⟩ | ⟨-, hsent⟩
        · rw [hsent]
          intro x hx message hmessage born conf S hmade hS hgrace
          rcases List.mem_append.mp hx with hx | hx
          · exact h.sent x hx message hmessage born conf S hmade hS hgrace
          · obtain rfl := List.mem_singleton.mp hx
            obtain ⟨born', conf', hn, hconf, -⟩ := hkept.built.objects n b hb
            cases hn.symm.trans hmade
            cases hconf.symm.trans hS
            have hsends := (effective_iff hkept.handed hkept.referenced hopen hb ..).mp heffective
            obtain ⟨hflag, hold⟩ := flagOf_of_sends hgrace hsends
            have hborn := h.flags n b hb born conf hn hgrace ip hflag
            have hold : b.swabber.gracePeriod ≤ s.clock - b.swabberState.flagOf ip := hold
            show born + b.swabber.gracePeriod ≤ s.clock
            omega
        · rw [hsent]
          exact h.sent
  | @closeTransaction n b t u e m hopen hb hc hd =>
      have ht : Fresh A t := by
        cases hc with
        | silent => exact h
        | sniffed =>
            have hflags := h.flags n b hb
            refine h.congr (h.flags.put hb hflags) rfl rfl fun x hx message hmessage => ?_
            rcases List.mem_append.mp hx with hx | hx
            · exact hx
            · obtain ⟨line, -, rfl⟩ := List.mem_map.mp hx
              cases hmessage
      obtain ⟨-, hframe⟩ := hd.frame
      have hflags := hd.all ht.flags
      rw [hframe]
      exact ⟨ht.born, hflags, ht.sent⟩
  | @releaseSwabberSocket n b hreloader hcurrent hb =>
      have hflags := h.flags n b hb
      exact h.congr (h.flags.put hb hflags) rfl rfl fun _ hx _ _ => hx
  | @releaseBotsnifferSocket n b swabS hreloader hcurrent hb =>
      have hflags := h.flags n b hb
      rw [BanjaxPlugin.releaseBotsnifferSocket]
      split
      · exact h.congr h.flags rfl rfl fun _ hx _ _ => hx
      · exact h.congr (h.flags.put hb hflags) rfl rfl fun _ hx _ _ => hx
  | @releaseKafkaConsumer n b swabS snifS hreloader hcurrent hb =>
      have hflags := h.flags n b hb
      exact h.congr (h.flags.put hb hflags) rfl rfl fun _ hx _ _ => hx
  | @loadSwabber swabS snifS kafkaConsumer S conf bindTry tries hreloader hS =>
      refine ⟨fun born conf hmade => ?_, Slots.All.make (fun m c hc => ?_) ?_, ?_⟩
      · rcases List.mem_append.mp hmade with hmade | hmade
        · exact h.born born conf hmade
        · cases List.mem_singleton.mp hmade
          exact le_rfl
      · intro born conf hmade
        have hlt : m < s.made.length := hkept.built.length ▸ Slots.lt_made hc
        exact h.flags m c hc born conf ((List.getElem?_append_left hlt).symm.trans hmade)
      · intro born conf _ _ ip hflag
        exact absurd rfl hflag
      · intro x hx message hmessage born conf S hmade
        obtain ⟨_, _, hn, -⟩ := hturn.configured x hx
        have hlt := (List.getElem?_eq_some_iff.mp hn).1
        exact h.sent x hx message hmessage born conf S
          ((List.getElem?_append_left hlt).symm.trans hmade)
  | @buildFilters n b conf port bindTry hreloader hport hb =>
      have hflags := h.flags n b hb
      cases port with
      | none => exact h.congr h.flags rfl rfl fun _ hx _ _ => hx
      | some port => exact h.congr (h.flags.put hb hflags) rfl rfl fun _ hx _ _ => hx
  | @loadKafka n b conf brokers hreloader hbrokers hb hfree =>
      have hflags := h.flags n b hb
      exact h.congr (h.flags.put hb hflags) rfl rfl fun _ hx _ _ => hx
  | publishFirst => exact h.congr h.flags rfl rfl fun _ hx _ _ => hx
  | publish hreloader hcurrent hd =>
      obtain ⟨-, hframe⟩ := hd.frame
      have hflags := hd.all h.flags
      rw [hframe]
      exact h.congr hflags rfl rfl fun _ hx _ _ => hx

/-- A reload starts the grace period anew: in every run with a clock that does not go back, the
bans that an object sends are at least a grace period younger than the object. -/
theorem grace_after_reload {clock : Int} {moves : List PluginMove}
    (h : Reaches (step A) Steady (init clock) moves s) :
    ∀ x ∈ s.sent, ∀ message, x.payload = .ban message → ∃ born conf S,
      s.made[x.banjax]? = some (born, conf) ∧ A.swabber conf.swabberConf = .ok S ∧
        (0 < S.gracePeriod → born + S.gracePeriod ≤ x.time) := by
  have hall : Kept A s ∧ InTurn A s ∧ Fresh A s := by
    refine h.invariant (P := fun _ s => Kept A s ∧ InTurn A s ∧ Fresh A s)
      ⟨⟨referenced_init clock, handed_init clock, built_init clock⟩, ⟨.nil, nofun, nofun⟩,
        fresh_init clock⟩ ?_
    intro _ _ a b _ ⟨hkept, hturn, hfresh⟩ hsteady hstep
    have hs := takes_of_step hstep
    exact ⟨hkept.takes hs, hturn.takes hkept.handed hkept.referenced hkept.built hs,
      hfresh.takes hkept hturn hs hsteady⟩
  obtain ⟨-, hturn, hfresh⟩ := hall
  intro x hx message hmessage
  obtain ⟨born, conf, hn, hconf⟩ := hturn.configured x hx
  rw [hmessage] at hconf
  obtain ⟨S, hS, -⟩ := hconf
  exact ⟨born, conf, S, hn, hS, hfresh.sent x hx message hmessage born conf S hn hS⟩

theorem grace_across_reload : ∃ s,
    Reaches (step sampleConversions) Steady (init 100) sampleMoves s ∧ s.sent.length = 1 ∧
    ∀ x ∈ s.sent, ∀ message, x.payload = .ban message → ∃ born conf S,
      s.made[x.banjax]? = some (born, conf) ∧
        sampleConversions.swabber conf.swabberConf = .ok S ∧
        (0 < S.gracePeriod → born + S.gracePeriod ≤ x.time) := by
  obtain ⟨s, h, hs⟩ := Reaches.of_decide (Q := Steady) (step sampleConversions) sampleMoves
    (p := fun s => decide (s.sent.length = 1)) (s := init 100) (by decide +kernel)
  exact ⟨s, h, of_decide_eq_true hs, grace_after_reload h⟩

end BanjaxPlugin

end Banjax
