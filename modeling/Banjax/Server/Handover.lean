import Banjax.Server.Plugin

/-!
# Reloads while transactions are open

What holds in every state of the plugin.  The objects that have not been freed are those that
something refers to (`Referenced`), and the consumer is owned by one of them and hands its
messages to one (`Consumed`).  So no thread meets a freed object, if no copy of `current_state`
is under way when it is assigned (`safe_of_reaches`).  The program does not see to that, and a
copy that a reload overtakes meets one (`race_uses_freed`).
-/

namespace Banjax

open Lib

/-- The object that a reload has made. -/
def ReloaderAt.newBanjax : ReloaderAt → Option Nat
  | swabberLoaded _ n | filtersBuilt _ n | kafkaLoaded n => some n
  | _ => none

/-- The move assigns `current_state`. -/
def PluginMove.assigns : PluginMove → Bool
  | publish => true
  | _ => false

namespace BanjaxPlugin

variable {A : Conversions} {s t u : BanjaxPlugin} {n : Nat} {b : BanjaxObject}

/-! ## What a move can do -/

theorem deref_eq_ok : s.deref n = .ok b ↔ s.banjaxes.get? n = some b := by
  rw [deref]
  cases s.banjaxes.get? n <;> simp

/-- The reference was not the last one, or the object is freed, with a consumer that it owns. -/
inductive Dropped (s : BanjaxPlugin) (n : Nat) : BanjaxPlugin → Prop where
  | kept : s.currentState = some n ∨ n ∈ s.transactions → Dropped s n s
  | freed {b : BanjaxObject} : s.currentState ≠ some n → n ∉ s.transactions →
      s.banjaxes.get? n = some b → b.kafkaConsumer = false →
      Dropped s n { s with banjaxes := s.banjaxes.free n }
  | freedConsumer {b : BanjaxObject} : s.currentState ≠ some n → n ∉ s.transactions →
      s.banjaxes.get? n = some b → b.kafkaConsumer = true → s.consuming = false →
      Dropped s n { s with banjaxes := s.banjaxes.free n, consumer := none }

theorem dropped_of_drop (h : s.drop n = .ok t) : Dropped s n t := by
  rw [drop] at h
  split at h
  · next hkept =>
    cases h
    exact .kept hkept
  · next hlast =>
    obtain ⟨hcurrent, htransactions⟩ := not_or.mp hlast
    obtain ⟨b, hb, h⟩ := bind_eq_ok.mp h
    have hb := deref_eq_ok.mp hb
    dsimp only at h
    split at h
    · next hnone =>
      cases h
      exact .freed hcurrent htransactions hb (by simpa using hnone)
    · next hsome =>
      split at h
      · cases h
      · next hfree =>
        cases h
        exact .freedConsumer hcurrent htransactions hb (by simpa using hsome)
          (by simpa using hfree)

/-- What holds of all objects still does. -/
theorem Dropped.all (hd : Dropped s n t) {P : Nat → BanjaxObject → Prop} (h : s.banjaxes.All P) :
    t.banjaxes.All P := by
  cases hd with
  | kept => exact h
  | freed | freedConsumer => exact h.free n

/-- Only the objects and the consumer change. -/
theorem Dropped.frame (hd : Dropped s n t) : t.banjaxes.made = s.banjaxes.made ∧
    t = { s with banjaxes := t.banjaxes, consumer := t.consumer } := by
  cases hd with
  | kept => exact ⟨rfl, rfl⟩
  | freed | freedConsumer => exact ⟨Slots.made_free .., rfl⟩

/-- A close without a sniffer, and one with a sniffer that does not throw. -/
inductive Closes (s : BanjaxPlugin) (n : Nat) (b : BanjaxObject) (e : Close)
    (m : TransactionMuncher) : BanjaxPlugin → Prop where
  | silent : b.botSniffer = none → Closes s n b e m s
  | sniffed {sniffer : BotSniffer} {closed : Closed} : b.botSniffer = some sniffer →
      closed = sniffer.onHttpClose e m → closed.thrown = none →
      Closes s n b e m { s with
        banjaxes := s.banjaxes.put n { b with botSniffer := some closed.sniffer }
        sent := s.sent ++ closed.sent.map fun sent =>
          ⟨n, (closed.sniffer.socket.map Socket.localEndpoint).getD [], .line sent, s.clock⟩ }

theorem closes_of_onHttpClose {e : Close} {m : TransactionMuncher}
    (h : s.onHttpClose n b e m = .ok t) : Closes s n b e m t := by
  rw [onHttpClose] at h
  split at h
  · next hnone =>
    cases h
    exact .silent hnone
  · next sniffer hsniffer =>
    dsimp only at h
    split at h
    · cases h
    · next hthrown =>
      cases h
      exact .sniffed hsniffer rfl hthrown

/-- The moves that are possible in a state, and what they do. -/
inductive Takes (A : Conversions) (s : BanjaxPlugin) : PluginMove → BanjaxPlugin → Prop where
  | tick (now : Int) : Takes A s (.tick now) { s with clock := now }
  | readCurrentState {n : Nat} : s.currentState = some n →
      Takes A s .readCurrentState { s with copies := s.copies ++ [n] }
  | startTransaction {n : Nat} {b : BanjaxObject} : n ∈ s.copies → s.banjaxes.get? n = some b →
      Takes A s (.startTransaction n)
        { s with copies := s.copies.erase n, transactions := s.transactions ++ [n] }
  | ban {n : Nat} {b : BanjaxObject} (lockTry bindTry : Bool) (ip reason : Bytes) :
      n ∈ s.transactions → s.banjaxes.get? n = some b →
      Takes A s (.ban n lockTry bindTry ip reason) (s.ban n b lockTry bindTry ip reason)
  | closeTransaction {n : Nat} {b : BanjaxObject} {t u : BanjaxPlugin} (e : Close)
      (m : TransactionMuncher) : n ∈ s.transactions → s.banjaxes.get? n = some b →
      Closes s n b e m t → Dropped { t with transactions := t.transactions.erase n } n u →
      Takes A s (.closeTransaction n e m) u
  | consume {n : Nat} : s.consumer = some n → s.consuming = false →
      Takes A s .consume { s with consuming := true }
  | consumed {n : Nat} : s.consumer = some n → s.consuming = true →
      Takes A s .consumed { s with consuming := false }
  | releaseSwabberSocket {n : Nat} {b : BanjaxObject} : s.reloader = .outside →
      s.currentState = some n → s.banjaxes.get? n = some b →
      Takes A s .releaseSwabberSocket (s.releaseSwabberSocket n b)
  | releaseBotsnifferSocket {n : Nat} {b : BanjaxObject} {swabS : Option Socket} :
      s.reloader = .swabberReleased swabS → s.currentState = some n →
      s.banjaxes.get? n = some b →
      Takes A s .releaseBotsnifferSocket (s.releaseBotsnifferSocket n b swabS)
  | releaseKafkaConsumer {n : Nat} {b : BanjaxObject} {swabS snifS : Option Socket} :
      s.reloader = .snifferReleased swabS snifS → s.currentState = some n →
      s.banjaxes.get? n = some b →
      Takes A s .releaseKafkaConsumer (s.releaseKafkaConsumer n b swabS snifS)
  | loadSwabber {swabS snifS : Option Socket} {kafkaConsumer : Bool} {S : Swabber} (conf : Conf)
      (bindTry : Bool) (tries : List Bool) :
      s.reloader = .consumerReleased swabS snifS kafkaConsumer →
      A.swabber conf.swabberConf = .ok S →
      Takes A s (.loadSwabber conf bindTry tries)
        (s.loadSwabber S conf bindTry tries swabS snifS kafkaConsumer)
  | buildFilters {n : Nat} {b : BanjaxObject} {conf : Conf} {port : Option Nat} (bindTry : Bool) :
      s.reloader = .swabberLoaded conf n → A.snifferPort conf = .ok port →
      s.banjaxes.get? n = some b →
      Takes A s (.buildFilters bindTry) (s.buildFilters n b conf port bindTry)
  | loadKafka {n : Nat} {b : BanjaxObject} {conf : Conf} {brokers : Bool} :
      s.reloader = .filtersBuilt conf n → conf.hasBrokers = .ok brokers →
      s.banjaxes.get? n = some b → (s.consuming && (brokers || b.kafkaConsumer)) = false →
      Takes A s .loadKafka { s with
        banjaxes := s.banjaxes.put n { b with kafkaConsumer := brokers }
        consumer := if brokers then some n else if b.kafkaConsumer then none else s.consumer
        reloader := .kafkaLoaded n }
  | publishFirst {n : Nat} : s.reloader = .kafkaLoaded n → s.currentState = none →
      Takes A s .publish { s with currentState := some n, reloader := .outside }
  | publish {n old : Nat} {t : BanjaxPlugin} : s.reloader = .kafkaLoaded n →
      s.currentState = some old →
      Dropped { s with currentState := some n, reloader := .outside } old t →
      Takes A s .publish t

theorem takes_of_step {move : PluginMove} (h : step A s move = .ok t) : Takes A s move t := by
  cases move with
  | tick now =>
      cases h
      exact .tick now
  | readCurrentState =>
      rw [step] at h
      split at h
      · next n hcurrent =>
        cases h
        exact .readCurrentState hcurrent
      · cases h
  | startTransaction n =>
      rw [step] at h
      split at h
      · next hcopy =>
        obtain ⟨b, hb, h⟩ := bind_eq_ok.mp h
        cases h
        exact .startTransaction hcopy (deref_eq_ok.mp hb)
      · cases h
  | ban n lockTry bindTry ip reason =>
      rw [step] at h
      split at h
      · next hopen =>
        obtain ⟨b, hb, h⟩ := bind_eq_ok.mp h
        cases h
        exact .ban lockTry bindTry ip reason hopen (deref_eq_ok.mp hb)
      · cases h
  | closeTransaction n e m =>
      rw [step] at h
      split at h
      · next hopen =>
        obtain ⟨b, hb, h⟩ := bind_eq_ok.mp h
        obtain ⟨u, hclose, h⟩ := bind_eq_ok.mp h
        exact .closeTransaction e m hopen (deref_eq_ok.mp hb) (closes_of_onHttpClose hclose)
          (dropped_of_drop h)
      · cases h
  | consume =>
      rw [step] at h
      split at h
      · next n hconsumer hconsuming =>
        obtain ⟨b, -, h⟩ := bind_eq_ok.mp h
        cases h
        exact .consume hconsumer hconsuming
      · cases h
  | consumed =>
      rw [step] at h
      split at h
      · next n hconsumer hconsuming =>
        obtain ⟨b, -, h⟩ := bind_eq_ok.mp h
        cases h
        exact .consumed hconsumer hconsuming
      · cases h
  | releaseSwabberSocket =>
      rw [step] at h
      split at h
      · next n hreloader hcurrent =>
        obtain ⟨b, hb, h⟩ := bind_eq_ok.mp h
        cases h
        exact .releaseSwabberSocket hreloader hcurrent (deref_eq_ok.mp hb)
      · cases h
  | releaseBotsnifferSocket =>
      rw [step] at h
      split at h
      · next swabS n hreloader hcurrent =>
        obtain ⟨b, hb, h⟩ := bind_eq_ok.mp h
        cases h
        exact .releaseBotsnifferSocket hreloader hcurrent (deref_eq_ok.mp hb)
      · cases h
  | releaseKafkaConsumer =>
      rw [step] at h
      split at h
      · next swabS snifS n hreloader hcurrent =>
        obtain ⟨b, hb, h⟩ := bind_eq_ok.mp h
        cases h
        exact .releaseKafkaConsumer hreloader hcurrent (deref_eq_ok.mp hb)
      · cases h
  | loadSwabber conf bindTry tries =>
      rw [step] at h
      split at h
      · next swabS snifS kafkaConsumer hreloader =>
        split at h
        · next S hS =>
          cases h
          exact .loadSwabber conf bindTry tries hreloader hS
        · cases h
      · cases h
  | buildFilters bindTry =>
      rw [step] at h
      split at h
      · next conf n hreloader =>
        obtain ⟨port, hport, h⟩ := bind_eq_ok.mp h
        obtain ⟨b, hb, h⟩ := bind_eq_ok.mp h
        cases h
        exact .buildFilters bindTry hreloader hport (deref_eq_ok.mp hb)
      · cases h
  | loadKafka =>
      rw [step] at h
      split at h
      · next conf n hreloader =>
        obtain ⟨brokers, hbrokers, h⟩ := bind_eq_ok.mp h
        obtain ⟨b, hb, h⟩ := bind_eq_ok.mp h
        rw [loadKafka] at h
        split at h
        · cases h
        · next hfree =>
          cases h
          exact .loadKafka hreloader hbrokers (deref_eq_ok.mp hb) (Bool.not_eq_true _ ▸ hfree)
      · cases h
  | publish =>
      rw [step] at h
      split at h
      · next n hreloader =>
        dsimp only at h
        split at h
        · next old hcurrent => exact .publish hreloader hcurrent (dropped_of_drop h)
        · next hcurrent =>
          cases h
          exact .publishFirst hreloader hcurrent
      · cases h

/-! ## References -/

/-- Something refers to the object. -/
def Refers (s : BanjaxPlugin) (n : Nat) : Prop :=
  s.currentState = some n ∨ n ∈ s.transactions ∨ s.reloader.newBanjax = some n

/-- The objects that have not been freed are those that something refers to.  The transactions
and the copies have no object that is newer than the current one, and a reload makes one that is. -/
structure Referenced (s : BanjaxPlugin) : Prop where
  live : ∀ n, (s.banjaxes.get? n).isSome = true ↔ s.Refers n
  copied : ∀ n ∈ s.copies, ∃ c, s.currentState = some c ∧ n ≤ c
  older : ∀ n ∈ s.transactions, ∃ c, s.currentState = some c ∧ n ≤ c
  newer : ∀ n, s.reloader.newBanjax = some n → ∀ c, s.currentState = some c → c < n

theorem Referenced.get? (h : s.Referenced) (hn : s.Refers n) :
    ∃ b, s.banjaxes.get? n = some b := Option.isSome_iff_exists.mp ((h.live n).mpr hn)

/-- A transaction does not hold the object that a reload has made. -/
theorem Referenced.not_new (h : s.Referenced) (hn : n ∈ s.transactions) :
    s.reloader.newBanjax ≠ some n := by
  intro hnew
  obtain ⟨c, hcurrent, hle⟩ := h.older n hn
  exact absurd (h.newer n hnew c hcurrent) (by omega)

/-- Another value of an object changes no reference. -/
theorem Referenced.congr (h : s.Referenced)
    (hlive : ∀ m, (t.banjaxes.get? m).isSome = (s.banjaxes.get? m).isSome)
    (hcopies : t.copies = s.copies) (hcurrent : t.currentState = s.currentState)
    (htransactions : t.transactions = s.transactions)
    (hnew : t.reloader.newBanjax = s.reloader.newBanjax) : t.Referenced where
  live m := by
    rw [hlive, h.live, Refers, Refers, hcurrent, htransactions, hnew]
  copied m hm := by
    rw [hcopies] at hm
    rw [hcurrent]
    exact h.copied m hm
  older m hm := by
    rw [htransactions] at hm
    rw [hcurrent]
    exact h.older m hm
  newer m hm c hc := by
    rw [hnew] at hm
    rw [hcurrent] at hc
    exact h.newer m hm c hc

/-- A reference that goes leaves no object behind that nothing refers to. -/
theorem Dropped.referenced (hd : Dropped s n t)
    (hlive : ∀ m, (s.banjaxes.get? m).isSome = true ↔ s.Refers m ∨ m = n)
    (hcopied : ∀ m ∈ s.copies, ∃ c, s.currentState = some c ∧ m ≤ c)
    (holder : ∀ m ∈ s.transactions, ∃ c, s.currentState = some c ∧ m ≤ c)
    (hnewer : ∀ m, s.reloader.newBanjax = some m → ∀ c, s.currentState = some c → c < m)
    (hnew : s.reloader.newBanjax ≠ some n) : t.Referenced := by
  have hfreed : s.currentState ≠ some n → n ∉ s.transactions →
      ∀ m, ((s.banjaxes.free n).get? m).isSome = true ↔ s.Refers m := by
    intro hcurrent htransactions m
    rw [Slots.get?_free]
    split
    · next hm =>
      subst hm
      refine iff_of_false Bool.false_ne_true ?_
      rintro (h | h | h)
      · exact hcurrent h
      · exact htransactions h
      · exact hnew h
    · next hm => rw [hlive, or_iff_left hm]
  cases hd with
  | kept hkept =>
      refine ⟨fun m => (hlive m).trans (or_iff_left_of_imp ?_), hcopied, holder, hnewer⟩
      rintro rfl
      exact hkept.imp_right .inl
  | freed hcurrent htransactions _ _ =>
      exact ⟨hfreed hcurrent htransactions, hcopied, holder, hnewer⟩
  | freedConsumer hcurrent htransactions _ _ _ =>
      exact ⟨hfreed hcurrent htransactions, hcopied, holder, hnewer⟩

/-- A close changes no reference but the one of its transaction. -/
theorem Referenced.closes (h : s.Referenced) (hb : s.banjaxes.get? n = some b) {e : Close}
    {m : TransactionMuncher} (hc : Closes s n b e m t) :
    t.Referenced ∧ t.transactions = s.transactions := by
  cases hc with
  | silent => exact ⟨h, rfl⟩
  | sniffed => exact ⟨h.congr (Slots.isSome_put hb _) rfl rfl rfl rfl, rfl⟩

theorem referenced_init (clock : Int) : (init clock).Referenced where
  live n := by
    refine iff_of_false Bool.false_ne_true ?_
    rintro (h | h | h) <;> cases h
  copied n hn := by cases hn
  older n hn := by cases hn
  newer n hn := by cases hn

theorem Referenced.takes (h : s.Referenced) {move : PluginMove} (hs : Takes A s move t) :
    t.Referenced := by
  cases hs with
  | tick | consume | consumed => exact ⟨h.live, h.copied, h.older, h.newer⟩
  | @readCurrentState n hcurrent =>
      refine ⟨h.live, fun m hm => ?_, h.older, h.newer⟩
      rcases List.mem_append.mp hm with hm | hm
      · exact h.copied m hm
      · exact ⟨n, hcurrent, Nat.le_of_eq (List.mem_singleton.mp hm)⟩
  | @startTransaction n b hcopy hb =>
      have hn := (h.live n).mp (Option.isSome_iff_exists.mpr ⟨b, hb⟩)
      refine ⟨fun m => (h.live m).trans ?_, fun m hm => h.copied m (List.mem_of_mem_erase hm),
        fun m hm => ?_, h.newer⟩
      · have hsame : m = n → s.Refers m := fun hm => hm ▸ hn
        simp only [Refers, List.mem_append, List.mem_singleton] at hsame ⊢
        grind
      · rcases List.mem_append.mp hm with hm | hm
        · exact h.older m hm
        · exact List.mem_singleton.mp hm ▸ h.copied n hcopy
  | ban lockTry bindTry ip reason hopen hb =>
      exact h.congr (Slots.isSome_put hb _) rfl rfl rfl rfl
  | @closeTransaction n b t u e m hopen hb hc hd =>
      obtain ⟨ht, htransactions⟩ := h.closes hb hc
      have hn : n ∈ t.transactions := htransactions ▸ hopen
      refine hd.referenced ?_ ht.copied (fun m hm => ht.older m (List.mem_of_mem_erase hm))
        ht.newer ?_
      · intro m
        rw [ht.live m]
        rcases eq_or_ne m n with rfl | hne
        · exact iff_of_true (.inr (.inl hn)) (.inr rfl)
        · simp only [Refers, List.mem_erase_of_ne hne, or_iff_left hne]
      · exact ht.not_new hn
  | releaseSwabberSocket hreloader hcurrent hb =>
      exact h.congr (Slots.isSome_put hb _) rfl rfl rfl (by rw [hreloader]; rfl)
  | @releaseBotsnifferSocket n b swabS hreloader hcurrent hb =>
      have hnew : s.reloader.newBanjax = none := by rw [hreloader]; rfl
      rw [releaseBotsnifferSocket]
      split
      · exact h.congr (fun _ => rfl) rfl rfl rfl hnew.symm
      · exact h.congr (Slots.isSome_put hb _) rfl rfl rfl hnew.symm
  | releaseKafkaConsumer hreloader hcurrent hb =>
      exact h.congr (Slots.isSome_put hb _) rfl rfl rfl (by rw [hreloader]; rfl)
  | @loadSwabber swabS snifS kafkaConsumer S conf bindTry tries hreloader hS =>
      have hnew : s.reloader.newBanjax = none := by rw [hreloader]; rfl
      refine ⟨fun m => ?_, h.copied, h.older, ?_⟩
      · have hlive := h.live m
        simp only [Refers, hnew] at hlive
        simp only [loadSwabber, Slots.get?_make, Refers, ReloaderAt.newBanjax]
        split
        · next hm => exact iff_of_true rfl (.inr (.inr (congrArg some hm.symm)))
        · next hm =>
          have hother : some s.banjaxes.made ≠ some m := fun h => hm (Option.some.inj h).symm
          simp [hlive, hother]
      · rintro _ ⟨⟩ c hcurrent
        obtain ⟨b, hb⟩ := h.get? (.inl hcurrent)
        exact Slots.lt_made hb
  | @buildFilters n b conf port bindTry hreloader hport hb =>
      have hnew : s.reloader.newBanjax = some n := by rw [hreloader]; rfl
      cases port with
      | none => exact h.congr (fun _ => rfl) rfl rfl rfl hnew.symm
      | some port => exact h.congr (Slots.isSome_put hb _) rfl rfl rfl hnew.symm
  | loadKafka hreloader hbrokers hb hfree =>
      exact h.congr (Slots.isSome_put hb _) rfl rfl rfl (by rw [hreloader]; rfl)
  | @publishFirst n hreloader hcurrent =>
      have hnew : s.reloader.newBanjax = some n := by rw [hreloader]; rfl
      refine ⟨fun m => ?_, fun m hm => ?_, fun m hm => ?_, nofun⟩
      · have hlive := h.live m
        simp only [Refers, hnew, hcurrent] at hlive
        simp only [Refers, ReloaderAt.newBanjax]
        grind
      · obtain ⟨c, hc, -⟩ := h.copied m hm
        cases hcurrent.symm.trans hc
      · obtain ⟨c, hc, -⟩ := h.older m hm
        cases hcurrent.symm.trans hc
  | @publish n old t hreloader hcurrent hd =>
      have hnew : s.reloader.newBanjax = some n := by rw [hreloader]; rfl
      have hnewest : ∀ m, (∃ c, s.currentState = some c ∧ m ≤ c) → m ≤ n := by
        rintro m ⟨c, hc, hle⟩
        have := h.newer n hnew c hc
        omega
      refine hd.referenced ?_ (fun m hm => ⟨n, rfl, hnewest m (h.copied m hm)⟩)
        (fun m hm => ⟨n, rfl, hnewest m (h.older m hm)⟩) nofun nofun
      intro m
      have hlive := h.live m
      simp only [Refers, hnew, hcurrent] at hlive
      simp only [Refers, ReloaderAt.newBanjax]
      grind

/-! ## The consumer -/

/-- The object that owns the consumer, if there is one and `reload_config` does not hold it. -/
def consumerOwner (s : BanjaxPlugin) : Option Nat :=
  match s.reloader with
  | .outside | .swabberReleased _ | .snifferReleased _ _ => s.currentState
  | .consumerReleased _ _ _ => none
  | .swabberLoaded _ n | .filtersBuilt _ n | .kafkaLoaded n => some n

/-- The object to which the consumer hands its messages. -/
def consumerTarget (s : BanjaxPlugin) : Option Nat :=
  match s.reloader with
  | .kafkaLoaded n => some n
  | _ => s.currentState

/-- A consumer has one owner, and hands its messages to the current object or to the one that a
reload has given it to. -/
structure Consumed (s : BanjaxPlugin) : Prop where
  owner : s.banjaxes.All fun n b =>
    b.kafkaConsumer = true ↔ s.consumerOwner = some n ∧ s.consumer.isSome = true
  handed : ∀ swabS snifS kafkaConsumer, s.reloader = .consumerReleased swabS snifS kafkaConsumer →
    kafkaConsumer = s.consumer.isSome
  target : ∀ n, s.consumer = some n → s.consumerTarget = some n
  consuming : s.consuming = true → s.consumer.isSome = true

theorem consumerOwner_cases (h : s.consumerOwner = some n) :
    s.currentState = some n ∨ s.reloader.newBanjax = some n := by
  rw [consumerOwner] at h
  split at h
  · exact .inl h
  · exact .inl h
  · exact .inl h
  · cases h
  · next hreloader => exact .inr (by rw [hreloader]; exact h)
  · next hreloader => exact .inr (by rw [hreloader]; exact h)
  · next hreloader => exact .inr (by rw [hreloader]; exact h)

/-- What does not concern the consumer keeps it in order. -/
theorem Consumed.congr (h : s.Consumed)
    (hall : t.banjaxes.All fun n b =>
      b.kafkaConsumer = true ↔ s.consumerOwner = some n ∧ s.consumer.isSome = true)
    (howner : t.consumerOwner = s.consumerOwner) (htarget : t.consumerTarget = s.consumerTarget)
    (hconsumer : t.consumer = s.consumer) (hconsuming : t.consuming = s.consuming)
    (hhanded : ∀ swabS snifS kafkaConsumer,
      t.reloader ≠ .consumerReleased swabS snifS kafkaConsumer) : t.Consumed where
  owner := by
    rw [howner, hconsumer]
    exact hall
  handed swabS snifS kafkaConsumer ht := (hhanded _ _ _ ht).elim
  target := by
    rw [htarget, hconsumer]
    exact h.target
  consuming := by
    rw [hconsuming, hconsumer]
    exact h.consuming

/-- An object that is freed does not own the consumer. -/
theorem Dropped.consumed (hd : Dropped s n t) (h : s.Consumed)
    (howner : s.consumerOwner = some n → s.currentState = some n) : t.Consumed := by
  cases hd with
  | kept => exact h
  | freed => exact ⟨h.owner.free n, h.handed, h.target, h.consuming⟩
  | freedConsumer hcurrent _ hb hconsumer _ =>
      exact absurd (howner ((h.owner _ _ hb).mp hconsumer).1) hcurrent

theorem Closes.consumed {e : Close} {m : TransactionMuncher} (hc : Closes s n b e m t)
    (h : s.Consumed) (hb : s.banjaxes.get? n = some b) :
    t.Consumed ∧ t.reloader = s.reloader ∧ t.currentState = s.currentState := by
  cases hc with
  | silent => exact ⟨h, rfl, rfl⟩
  | sniffed =>
      have howner := h.owner n b hb
      exact ⟨⟨h.owner.put hb howner, h.handed, h.target, h.consuming⟩, rfl, rfl⟩

theorem consumed_init (clock : Int) : (init clock).Consumed where
  owner := nofun
  handed := by
    rintro _ _ _ ⟨⟩
    rfl
  target := nofun
  consuming := nofun

theorem Consumed.takes (h : s.Consumed) (href : s.Referenced) {move : PluginMove}
    (hs : Takes A s move t) : t.Consumed := by
  cases hs with
  | tick | readCurrentState | startTransaction =>
      exact ⟨h.owner, h.handed, h.target, h.consuming⟩
  | consume hconsumer => exact ⟨h.owner, h.handed, h.target, fun _ => by rw [hconsumer]; rfl⟩
  | consumed => exact ⟨h.owner, h.handed, h.target, nofun⟩
  | ban lockTry bindTry ip reason hopen hb =>
      have howner := h.owner _ _ hb
      exact ⟨h.owner.put hb howner, h.handed, h.target, h.consuming⟩
  | @closeTransaction n b t u e m hopen hb hc hd =>
      obtain ⟨ht, hreloader, hcurrent⟩ := hc.consumed h hb
      refine hd.consumed ⟨ht.owner, ht.handed, ht.target, ht.consuming⟩ fun howner => ?_
      refine (consumerOwner_cases howner).resolve_right ?_
      rw [hreloader]
      exact href.not_new hopen
  | releaseSwabberSocket hreloader hcurrent hb =>
      have hkept := h.owner _ _ hb
      have howner : s.consumerOwner = s.currentState := by rw [consumerOwner, hreloader]
      have htarget : s.consumerTarget = s.currentState := by rw [consumerTarget, hreloader]
      exact h.congr (h.owner.put hb hkept) howner.symm htarget.symm rfl rfl nofun
  | @releaseBotsnifferSocket n b swabS hreloader hcurrent hb =>
      have hkept := h.owner n b hb
      have howner : s.consumerOwner = s.currentState := by rw [consumerOwner, hreloader]
      have htarget : s.consumerTarget = s.currentState := by rw [consumerTarget, hreloader]
      rw [releaseBotsnifferSocket]
      split
      · exact h.congr h.owner howner.symm htarget.symm rfl rfl nofun
      · exact h.congr (h.owner.put hb hkept) howner.symm htarget.symm rfl rfl nofun
  | @releaseKafkaConsumer n b swabS snifS hreloader hcurrent hb =>
      have howner : s.consumerOwner = some n := by rw [consumerOwner, hreloader, hcurrent]
      have htarget : s.consumerTarget = s.currentState := by rw [consumerTarget, hreloader]
      have hkept := h.owner n b hb
      refine ⟨Slots.all_put hb (fun m c hm hc => ?_) ?_, ?_, ?_, h.consuming⟩
      · have hother := h.owner m c hc
        rw [howner] at hother
        exact hother.trans (iff_of_false (fun h => hm (Option.some.inj h.1).symm) nofun)
      · exact iff_of_false Bool.false_ne_true nofun
      · rintro _ _ _ ⟨⟩
        rw [howner] at hkept
        exact Bool.eq_iff_iff.mpr (hkept.trans (and_iff_right rfl))
      · exact fun p hp => htarget.symm.trans (h.target p hp)
  | @loadSwabber swabS snifS kafkaConsumer S conf bindTry tries hreloader hS =>
      have howner : s.consumerOwner = none := by rw [consumerOwner, hreloader]
      have htarget : s.consumerTarget = s.currentState := by rw [consumerTarget, hreloader]
      have hhanded := h.handed _ _ _ hreloader
      refine ⟨?_, nofun, fun p hp => htarget.symm.trans (h.target p hp), h.consuming⟩
      refine Slots.All.make (fun m c hc => ?_) ?_
      · have hm := Slots.lt_made hc
        have hother := h.owner m c hc
        rw [howner] at hother
        refine hother.trans (iff_of_false nofun fun h => ?_)
        have := Option.some.inj h.1
        omega
      · rw [hhanded]
        exact (and_iff_right rfl).symm
  | @buildFilters n b conf port bindTry hreloader hport hb =>
      have hkept := h.owner n b hb
      have howner : s.consumerOwner = some n := by rw [consumerOwner, hreloader]
      have htarget : s.consumerTarget = s.currentState := by rw [consumerTarget, hreloader]
      cases port with
      | none => exact h.congr h.owner howner.symm htarget.symm rfl rfl nofun
      | some port => exact h.congr (h.owner.put hb hkept) howner.symm htarget.symm rfl rfl nofun
  | @loadKafka n b conf brokers hreloader hbrokers hb hfree =>
      have howner : s.consumerOwner = some n := by rw [consumerOwner, hreloader]
      have hkept := h.owner n b hb
      have hsome : s.consumer.isSome = b.kafkaConsumer := by
        rw [howner] at hkept
        exact (Bool.eq_iff_iff.mpr (hkept.trans (and_iff_right rfl))).symm
      have hconsumer : (if brokers = true then some n
          else if b.kafkaConsumer = true then none else s.consumer) =
            if brokers = true then some n else none := by
        cases hb : b.kafkaConsumer with
        | true => rfl
        | false =>
            rw [hb] at hsome
            have hnone : s.consumer = none :=
              Option.not_isSome_iff_eq_none.mp (by rw [hsome]; nofun)
            rw [if_neg Bool.false_ne_true, hnone]
      rw [hconsumer]
      refine ⟨Slots.all_put hb (fun m c hm hc => ?_) ?_, nofun, fun p hp => ?_,
        fun hconsuming => ?_⟩
      · have hother := h.owner m c hc
        rw [howner] at hother
        have hne : ¬ some n = some m := fun h => hm (Option.some.inj h).symm
        exact hother.trans (iff_of_false (fun h => hne h.1) fun h => hne h.1)
      · show brokers = true ↔ some n = some n ∧ _
        cases brokers <;> simp
      · split at hp
        · exact hp
        · cases hp
      · have hconsuming : s.consuming = true := hconsuming
        have hkafka := hsome.symm.trans (h.consuming hconsuming)
        rw [hconsuming, hkafka, Bool.or_true] at hfree
        cases hfree
  | @publishFirst n hreloader hcurrent =>
      have howner : s.consumerOwner = some n := by rw [consumerOwner, hreloader]
      have htarget : s.consumerTarget = some n := by rw [consumerTarget, hreloader]
      exact h.congr h.owner howner.symm htarget.symm rfl rfl nofun
  | @publish n old t hreloader hcurrent hd =>
      have howner : s.consumerOwner = some n := by rw [consumerOwner, hreloader]
      have htarget : s.consumerTarget = some n := by rw [consumerTarget, hreloader]
      exact hd.consumed (h.congr h.owner howner.symm htarget.symm rfl rfl nofun) id

/-! ## The copies -/

/-- No copy of `current_state` is under way when it is assigned. -/
def Unraced (s : BanjaxPlugin) (move : PluginMove) : Prop :=
  move.assigns = true → s.copies = []

instance (s : BanjaxPlugin) (move : PluginMove) : Decidable (s.Unraced move) :=
  inferInstanceAs (Decidable (move.assigns = true → s.copies = []))

/-- What the copies have read is still the current object. -/
def Copied (s : BanjaxPlugin) : Prop := ∀ n ∈ s.copies, s.currentState = some n

theorem Dropped.copied (hd : Dropped s n t) (h : s.Copied) : t.Copied := by
  obtain ⟨-, hframe⟩ := hd.frame
  rw [hframe]
  exact h

theorem Copied.takes (h : s.Copied) {move : PluginMove} (hs : Takes A s move t)
    (hunraced : s.Unraced move) : t.Copied := by
  cases hs with
  | @readCurrentState n hcurrent =>
      intro m hm
      rcases List.mem_append.mp hm with hm | hm
      · exact h m hm
      · exact List.mem_singleton.mp hm ▸ hcurrent
  | startTransaction => exact fun m hm => h m (List.mem_of_mem_erase hm)
  | closeTransaction e m hopen hb hc hd =>
      refine hd.copied ?_
      cases hc <;> exact h
  | releaseBotsnifferSocket =>
      rw [BanjaxPlugin.releaseBotsnifferSocket]
      split <;> exact h
  | @buildFilters n b conf port => cases port <;> exact h
  | publishFirst =>
      intro m hm
      rw [hunraced rfl] at hm
      cases hm
  | publish hreloader hcurrent hd =>
      refine hd.copied fun m hm => ?_
      rw [hunraced rfl] at hm
      cases hm
  | tick | ban | consume | consumed | releaseSwabberSocket | releaseKafkaConsumer | loadSwabber |
      loadKafka => exact h

/-! ## Whole runs -/

section Runs

variable {clock : Int} {moves : List PluginMove} {Q : BanjaxPlugin → PluginMove → Prop}

theorem consumed_of_reaches (h : Reaches (step A) Q (init clock) moves s) :
    s.Referenced ∧ s.Consumed :=
  h.invariant (P := fun _ s => s.Referenced ∧ s.Consumed)
    ⟨referenced_init clock, consumed_init clock⟩ fun _ _ _ _ _ hs _ hstep =>
      ⟨hs.1.takes (takes_of_step hstep), hs.2.takes hs.1 (takes_of_step hstep)⟩

/-- A thread that has a reference finds the object. -/
theorem Referenced.deref_bind (h : s.Referenced) (hn : s.Refers n)
    {f : BanjaxObject → Except PluginFault BanjaxPlugin} {fault : PluginFault}
    (hf : ∀ b, s.banjaxes.get? n = some b → f b ≠ .error fault) :
    (s.deref n >>= f) ≠ .error fault := by
  obtain ⟨b, hb⟩ := h.get? hn
  rw [deref_eq_ok.mpr hb, ok_bind]
  exact hf b hb

theorem Consumed.refers (h : s.Consumed) (hn : s.consumer = some n) : s.Refers n := by
  have htarget := h.target n hn
  rw [consumerTarget] at htarget
  split at htarget
  · next m hreloader =>
    cases htarget
    exact .inr (.inr (by rw [hreloader]; rfl))
  · exact .inl htarget

theorem drop_ne_useAfterFree (hb : s.banjaxes.get? n = some b) :
    s.drop n ≠ .error .useAfterFree := by
  rw [drop, deref_eq_ok.mpr hb]
  split
  · nofun
  · rw [ok_bind]
    dsimp only
    split
    · nofun
    · split <;> nofun

theorem onHttpClose_ne_useAfterFree (e : Close) (m : TransactionMuncher) :
    s.onHttpClose n b e m ≠ .error .useAfterFree := by
  rw [onHttpClose]
  split
  · nofun
  · dsimp only
    split <;> nofun

theorem snifferPort_ne_useAfterFree (conf : Conf) :
    A.snifferPort conf ≠ .error .useAfterFree := by
  rw [Conversions.snifferPort]
  split
  · nofun
  · split <;> nofun

theorem hasBrokers_ne_useAfterFree (conf : Conf) : conf.hasBrokers ≠ .error .useAfterFree := by
  rw [Conf.hasBrokers]
  split <;> nofun

/-- No thread meets an object that has been freed. -/
theorem step_ne_useAfterFree (h : s.Referenced) (hc : s.Consumed) (hcopied : s.Copied)
    (move : PluginMove) : step A s move ≠ .error .useAfterFree := by
  cases move with
  | tick now => nofun
  | readCurrentState =>
      rw [step]
      split <;> nofun
  | startTransaction n =>
      rw [step]
      split
      · next hcopy => exact h.deref_bind (.inl (hcopied n hcopy)) fun b hb => nofun
      · nofun
  | ban n lockTry bindTry ip reason =>
      rw [step]
      split
      · next hopen => exact h.deref_bind (.inr (.inl hopen)) fun b hb => nofun
      · nofun
  | closeTransaction n e m =>
      rw [step]
      split
      · next hopen =>
        refine h.deref_bind (.inr (.inl hopen)) fun b hb => ?_
        cases hclose : s.onHttpClose n b e m with
        | error fault =>
            rw [error_bind]
            exact hclose ▸ onHttpClose_ne_useAfterFree e m
        | ok t =>
            obtain ⟨ht, htransactions⟩ := h.closes hb (closes_of_onHttpClose hclose)
            obtain ⟨c, hc⟩ := ht.get? (.inr (.inl (htransactions ▸ hopen)))
            rw [ok_bind]
            exact drop_ne_useAfterFree hc
      · nofun
  | consume | consumed =>
      rw [step]
      split
      · next n hconsumer _ => exact h.deref_bind (hc.refers hconsumer) fun b hb => nofun
      · nofun
  | releaseSwabberSocket | releaseBotsnifferSocket | releaseKafkaConsumer =>
      rw [step]
      split
      · next hcurrent => exact h.deref_bind (.inl hcurrent) fun b hb => nofun
      · nofun
  | loadSwabber conf bindTry tries =>
      rw [step]
      split
      · split <;> nofun
      · nofun
  | buildFilters bindTry =>
      rw [step]
      split
      · next conf n hreloader =>
        have hnew : s.Refers n := .inr (.inr (by rw [hreloader]; rfl))
        cases hport : A.snifferPort conf with
        | error fault =>
            have hne := snifferPort_ne_useAfterFree (A := A) conf
            rw [hport] at hne
            exact fun h => hne (congrArg _ (Except.error.inj h))
        | ok port => exact h.deref_bind hnew fun b hb => nofun
      · nofun
  | loadKafka =>
      rw [step]
      split
      · next conf n hreloader =>
        have hnew : s.Refers n := .inr (.inr (by rw [hreloader]; rfl))
        cases hbrokers : conf.hasBrokers with
        | error fault =>
            have hne := hasBrokers_ne_useAfterFree conf
            rw [hbrokers] at hne
            exact fun h => hne (congrArg _ (Except.error.inj h))
        | ok brokers =>
            refine h.deref_bind hnew fun b hb => ?_
            rw [loadKafka]
            split <;> nofun
      · nofun
  | publish =>
      rw [step]
      split
      · next n hreloader =>
        dsimp only
        split
        · next old hcurrent =>
          obtain ⟨b, hb⟩ := h.get? (.inl hcurrent)
          exact drop_ne_useAfterFree hb
        · nofun
      · nofun

/-- The object owns the consumer. -/
def Owns (s : BanjaxPlugin) (n : Nat) : Prop :=
  ∃ b, s.banjaxes.get? n = some b ∧ b.kafkaConsumer = true

/-- `reload_config` holds the consumer. -/
def Carried (s : BanjaxPlugin) : Prop :=
  ∃ swabS snifS, s.reloader = .consumerReleased swabS snifS true

/-- What is freed is not used, what is not used is freed, and the consumer has one owner as long
as it lives. -/
structure Safe (A : Conversions) (s : BanjaxPlugin) : Prop where
  access : ∀ move, step A s move ≠ .error .useAfterFree
  live : ∀ n, (s.banjaxes.get? n).isSome = true ↔ s.Refers n
  consumer : ∀ n, s.consumer = some n → (s.banjaxes.get? n).isSome = true
  unique : ∀ n m, s.Owns n → s.Owns m → n = m
  carried : s.Carried → ∀ n, ¬ s.Owns n
  owned : s.consumer.isSome = true ↔ (∃ n, s.Owns n) ∨ s.Carried

theorem Consumed.owns_iff (h : s.Consumed) (href : s.Referenced) (n : Nat) :
    s.Owns n ↔ s.consumerOwner = some n ∧ s.consumer.isSome = true := by
  constructor
  · rintro ⟨b, hb, hconsumer⟩
    exact (h.owner n b hb).mp hconsumer
  · intro howner
    have hn : s.Refers n := (consumerOwner_cases howner.1).imp_right .inr
    obtain ⟨b, hb⟩ := href.get? hn
    exact ⟨b, hb, (h.owner n b hb).mpr howner⟩

theorem Consumed.carried_iff (h : s.Consumed) :
    s.Carried ↔ s.consumer.isSome = true ∧ ∃ swabS snifS kafkaConsumer,
      s.reloader = .consumerReleased swabS snifS kafkaConsumer := by
  constructor
  · rintro ⟨swabS, snifS, hreloader⟩
    exact ⟨(h.handed _ _ _ hreloader).symm, _, _, _, hreloader⟩
  · rintro ⟨hsome, swabS, snifS, kafkaConsumer, hreloader⟩
    refine ⟨swabS, snifS, ?_⟩
    rw [hreloader, h.handed _ _ _ hreloader, hsome]

theorem Consumed.owned (h : s.Consumed) (href : s.Referenced) :
    s.consumer.isSome = true ↔ (∃ n, s.Owns n) ∨ s.Carried := by
  constructor
  · intro hsome
    obtain ⟨n, hn⟩ := Option.isSome_iff_exists.mp hsome
    have htarget := h.target n hn
    have howns : ∀ m, s.consumerOwner = some m → (∃ m, s.Owns m) ∨ s.Carried :=
      fun m hm => .inl ⟨m, (h.owns_iff href m).mpr ⟨hm, hsome⟩⟩
    cases hreloader : s.reloader with
    | outside | swabberReleased _ | snifferReleased _ _ =>
        rw [consumerTarget, hreloader] at htarget
        exact howns n (by rw [consumerOwner, hreloader]; exact htarget)
    | consumerReleased swabS snifS kafkaConsumer =>
        exact .inr (h.carried_iff.mpr ⟨hsome, _, _, _, hreloader⟩)
    | swabberLoaded _ m | filtersBuilt _ m | kafkaLoaded m =>
        exact howns m (by rw [consumerOwner, hreloader])
  · rintro (⟨n, hn⟩ | hcarried)
    · exact ((h.owns_iff href n).mp hn).2
    · exact (h.carried_iff.mp hcarried).1

theorem copied_of_reaches (h : Reaches (step A) Unraced (init clock) moves s) : s.Copied :=
  h.invariant (P := fun _ s => s.Copied) nofun
    fun _ _ _ _ _ hs hunraced hstep => hs.takes (takes_of_step hstep) hunraced

/-- In every run of transactions, reloads and the consumer in which no copy of `current_state` is
under way when it is assigned, in whatever order the steps come, no object is used after it has
been freed, none is left over, and the consumer has one owner. -/
theorem safe_of_reaches (h : Reaches (step A) Unraced (init clock) moves s) : Safe A s where
  access := step_ne_useAfterFree (consumed_of_reaches h).1 (consumed_of_reaches h).2
    (copied_of_reaches h)
  live := (consumed_of_reaches h).1.live
  consumer n hn :=
    ((consumed_of_reaches h).1.live n).mpr ((consumed_of_reaches h).2.refers hn)
  unique n m hn hm := by
    obtain ⟨href, hconsumed⟩ := consumed_of_reaches h
    have hn := ((hconsumed.owns_iff href n).mp hn).1
    have hm := ((hconsumed.owns_iff href m).mp hm).1
    exact Option.some.inj (hn.symm.trans hm)
  carried hcarried n hn := by
    obtain ⟨href, hconsumed⟩ := consumed_of_reaches h
    obtain ⟨-, swabS, snifS, kafkaConsumer, hreloader⟩ := hconsumed.carried_iff.mp hcarried
    have howner := ((hconsumed.owns_iff href n).mp hn).1
    rw [consumerOwner, hreloader] at howner
    cases howner
  owned := (consumed_of_reaches h).2.owned (consumed_of_reaches h).1

end Runs

/-- Numbers in the decimal notation. -/
def sampleConversions : Conversions where
  asLong node := node.asString.map fun s => (readDigits 10 0 s).1
  asUnsigned node := node.asString.map fun s => UInt32.ofInt (readDigits 10 0 s).1

/-- A grace period, brokers, and a sniffer or none. -/
def sampleConf (sniffer : Bool) : Conf :=
  { Conf.init with
    swabberConf := [(.scalar (bytes "swabber"),
      .map [(.scalar (bytes "grace_period"), .scalar (bytes "10"))])]
    filterConfigMap := fun f =>
      if sniffer = true ∧ f = .botSniffer then
        some ⟨[(.scalar (bytes "bot_sniffer"), .map [
          (.scalar (bytes "botbanger_port"), .scalar (bytes "22621")),
          (.scalar (bytes "key"), .scalar (bytes "k"))])], 0⟩
      else none
    kafkaConf := .map [(.scalar (bytes "metadata.broker.list"), .scalar (bytes "b"))] }

/-- An object is made.  The bind of its sniffer succeeds or not. -/
def sampleLoad (sniffer bindTry : Bool) : List PluginMove :=
  [.loadSwabber (sampleConf sniffer) true [], .buildFilters bindTry, .loadKafka, .publish]

def sampleReload (sniffer bindTry : Bool) : List PluginMove :=
  [.releaseSwabberSocket, .releaseBotsnifferSocket, .releaseKafkaConsumer] ++
    sampleLoad sniffer bindTry

/-- A transaction bans an address, and stays open over a reload. -/
def sampleMoves : List PluginMove :=
  sampleLoad true true ++ [.readCurrentState, .startTransaction 0,
    .ban 0 true true (bytes "10.0.0.1") [], .consume, .tick 120, .consumed,
    .ban 0 true true (bytes "10.0.0.1") []] ++ sampleReload false true

theorem safe_across_reload : ∃ s, Reaches (step sampleConversions) Unraced (init 100)
    sampleMoves s ∧ Safe sampleConversions s := by
  obtain ⟨s, h, -⟩ := Reaches.of_decide (Q := Unraced) (step sampleConversions)
    sampleMoves (p := fun _ => true) (s := init 100) (by decide +kernel)
  exact ⟨s, h, safe_of_reaches h⟩

/-- A reload that overtakes the copy of a transaction frees the object that the copy has read. -/
theorem race_uses_freed : ∃ s, Reaches (step sampleConversions) (fun _ _ => True) (init 100)
    (sampleLoad false true ++ [.readCurrentState] ++ sampleReload false true) s ∧
      step sampleConversions s (.startTransaction 0) = .error .useAfterFree := by
  obtain ⟨s, h, hs⟩ := Reaches.of_decide (Q := fun _ _ => True) (step sampleConversions)
    (sampleLoad false true ++ [.readCurrentState] ++ sampleReload false true)
    (p := fun s => decide (0 ∈ s.copies ∧ (s.banjaxes.get? 0).isNone = true)) (s := init 100)
    (by decide +kernel)
  obtain ⟨hcopy, hfreed⟩ := of_decide_eq_true hs
  refine ⟨s, h, ?_⟩
  rw [step, if_pos hcopy, deref, Option.isNone_iff_eq_none.mp hfreed]
  rfl

end BanjaxPlugin

end Banjax
