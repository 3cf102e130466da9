import Banjax.Kafka.Consume

/-!
# Reloading while commands come in

The thread of `KafkaConsumer` and a thread that calls `reload_config`, step by step.  The
consumer loads its configuration under the mutex, and then asks for messages until the
configuration is no longer valid.  For each message it tries the mutex and hands the
message on.  The reloader waits for the mutex and exchanges the configuration and the
instance.

Messages are not redelivered.  Every step of either thread is one move, and a run is any
order of the moves.  The log has the messages that were received, the calls of
`kafka_message_consume` with the instance they were made of, and the returns of
`reload_config`.

A message is lost when the reloader holds the mutex at the moment at which the consumer
tries it.  In a run in which that does not happen, none is lost or doubled
(`delivers_of_free`).
-/

namespace Banjax

open Lib

namespace Reload

/-- Who holds `stored_config_lock`. -/
inductive Party where
  | consumer
  | reloader
deriving DecidableEq, Repr

/-- Where the thread of the consumer is. -/
inductive ConsumerAt where
  /-- In front of `TSMutexLock`. -/
  | top
  /-- Reading the configuration, with the mutex. -/
  | loading
  /-- At the test of `config_valid`. -/
  | polling
  /-- In `consume`. -/
  | waiting
  /-- In front of `TSMutexLockTry`, with a message. -/
  | received (message : KafkaMessage)
  /-- In front of the call, with the mutex. -/
  | holding (message : KafkaMessage)
  /-- In front of `TSMutexUnlock`. -/
  | done

/-- Where the thread of the reloader is.  An instance is known by a number. -/
inductive ReloaderAt where
  | outside
  | locked (config : Node) (banjax : Nat)
  | configStored (banjax : Nat)
  | banjaxStored (banjax : Nat)
  | invalidated (banjax : Nat)

/-- What is noted of a run. -/
inductive Event where
  /-- `consume` returned the message. -/
  | received (message : KafkaMessage)
  /-- `kafka_message_consume` of the instance was called. -/
  | handed (json : Json) (banjax : Nat)
  /-- `reload_config` returned, with the instance. -/
  | installed (banjax : Nat)

/-- The members of the consumer and the two threads. -/
structure Sys where
  lock : Option Party
  storedConfig : Node
  banjax : Nat
  configValid : Bool
  /-- The configuration that the subscription was made with. -/
  subscription : Option Node
  consumer : ConsumerAt
  reloader : ReloaderAt
  log : List Event

/-- A new consumer, whose `config_valid` has not been set. -/
def Sys.init (config : Node) (banjax : Nat) (configValid : Bool) : Sys where
  lock := none
  storedConfig := config
  banjax := banjax
  configValid := configValid
  subscription := none
  consumer := .top
  reloader := .outside
  log := [.installed banjax]

/-- The steps of the consumer, and then those of the reloader. -/
inductive Move where
  | lockToLoad
  | load
  | poll
  | receive (message : KafkaMessage)
  | tryLock
  | handOn
  | unlock
  | lockToReload (config : Node) (banjax : Nat)
  | storeConfig
  | storeBanjax
  | invalidate
  | release

/-- The call that a message leads to. -/
def calls (message : KafkaMessage) (banjax : Nat) : List Event :=
  message.json.toList.map fun json => .handed json banjax

/-- A thread cannot take the step. -/
inductive Blocked where
  | blocked

/-- The state after a move. -/
def step (s : Sys) : Move → Except Blocked Sys
  | .lockToLoad =>
      match s.consumer, s.lock with
      | .top, none => .ok { s with lock := some .consumer, consumer := .loading }
      | _, _ => .error .blocked
  | .load =>
      match s.consumer with
      | .loading =>
          .ok { s with
            subscription := some s.storedConfig, configValid := true, lock := none,
            consumer := .polling }
      | _ => .error .blocked
  | .poll =>
      match s.consumer with
      | .polling => .ok { s with consumer := if s.configValid then .waiting else .top }
      | _ => .error .blocked
  | .receive message =>
      match s.consumer with
      | .waiting =>
          .ok { s with consumer := .received message, log := s.log ++ [.received message] }
      | _ => .error .blocked
  | .tryLock =>
      match s.consumer with
      | .received message =>
          match s.lock with
          | none => .ok { s with lock := some .consumer, consumer := .holding message }
          -- `failed to get lock; skipping.`
          | some _ => .ok { s with consumer := .polling }
      | _ => .error .blocked
  | .handOn =>
      match s.consumer with
      | .holding message =>
          .ok { s with log := s.log ++ calls message s.banjax, consumer := .done }
      | _ => .error .blocked
  | .unlock =>
      match s.consumer with
      | .done => .ok { s with lock := none, consumer := .polling }
      | _ => .error .blocked
  | .lockToReload config banjax =>
      match s.reloader, s.lock with
      | .outside, none => .ok { s with lock := some .reloader, reloader := .locked config banjax }
      | _, _ => .error .blocked
  | .storeConfig =>
      match s.reloader with
      | .locked config banjax =>
          .ok { s with storedConfig := config, reloader := .configStored banjax }
      | _ => .error .blocked
  | .storeBanjax =>
      match s.reloader with
      | .configStored banjax => .ok { s with banjax := banjax, reloader := .banjaxStored banjax }
      | _ => .error .blocked
  | .invalidate =>
      match s.reloader with
      | .banjaxStored banjax =>
          .ok { s with configValid := false, reloader := .invalidated banjax }
      | _ => .error .blocked
  | .release =>
      match s.reloader with
      | .invalidated banjax =>
          .ok { s with lock := none, reloader := .outside, log := s.log ++ [.installed banjax] }
      | _ => .error .blocked

/-- The moves that are possible in a state, and what they do. -/
inductive Takes (s : Sys) : Move → Sys → Prop where
  | lockToLoad : s.consumer = .top → s.lock = none →
      Takes s .lockToLoad { s with lock := some .consumer, consumer := .loading }
  | load : s.consumer = .loading →
      Takes s .load { s with
        subscription := some s.storedConfig, configValid := true, lock := none,
        consumer := .polling }
  | poll : s.consumer = .polling →
      Takes s .poll { s with consumer := if s.configValid then .waiting else .top }
  | receive (message : KafkaMessage) : s.consumer = .waiting →
      Takes s (.receive message)
        { s with consumer := .received message, log := s.log ++ [.received message] }
  | tryLock (message : KafkaMessage) : s.consumer = .received message → s.lock = none →
      Takes s .tryLock { s with lock := some .consumer, consumer := .holding message }
  | skip (message : KafkaMessage) : s.consumer = .received message → s.lock ≠ none →
      Takes s .tryLock { s with consumer := .polling }
  | handOn (message : KafkaMessage) : s.consumer = .holding message →
      Takes s .handOn { s with log := s.log ++ calls message s.banjax, consumer := .done }
  | unlock : s.consumer = .done → Takes s .unlock { s with lock := none, consumer := .polling }
  | lockToReload (config : Node) (banjax : Nat) : s.reloader = .outside → s.lock = none →
      Takes s (.lockToReload config banjax)
        { s with lock := some .reloader, reloader := .locked config banjax }
  | storeConfig (config : Node) (banjax : Nat) : s.reloader = .locked config banjax →
      Takes s .storeConfig { s with storedConfig := config, reloader := .configStored banjax }
  | storeBanjax (banjax : Nat) : s.reloader = .configStored banjax →
      Takes s .storeBanjax { s with banjax := banjax, reloader := .banjaxStored banjax }
  | invalidate (banjax : Nat) : s.reloader = .banjaxStored banjax →
      Takes s .invalidate { s with configValid := false, reloader := .invalidated banjax }
  | release (banjax : Nat) : s.reloader = .invalidated banjax →
      Takes s .release
        { s with lock := none, reloader := .outside, log := s.log ++ [.installed banjax] }

theorem takes_of_step {s t : Sys} {move : Move} (h : step s move = .ok t) : Takes s move t := by
  cases move with
  | lockToLoad =>
      simp only [step] at h
      split at h
      · next hc hl =>
        cases h
        exact .lockToLoad hc hl
      · cases h
  | load =>
      simp only [step] at h
      split at h
      · next hc =>
        cases h
        exact .load hc
      · cases h
  | poll =>
      simp only [step] at h
      split at h
      · next hc =>
        cases h
        exact .poll hc
      · cases h
  | receive message =>
      simp only [step] at h
      split at h
      · next hc =>
        cases h
        exact .receive message hc
      · cases h
  | tryLock =>
      simp only [step] at h
      split at h
      · next message hc =>
        split at h
        · next hl =>
          cases h
          exact .tryLock message hc hl
        · next hl =>
          cases h
          exact .skip message hc (by simp [hl])
      · cases h
  | handOn =>
      simp only [step] at h
      split at h
      · next message hc =>
        cases h
        exact .handOn message hc
      · cases h
  | unlock =>
      simp only [step] at h
      split at h
      · next hc =>
        cases h
        exact .unlock hc
      · cases h
  | lockToReload config banjax =>
      simp only [step] at h
      split at h
      · next hr hl =>
        cases h
        exact .lockToReload config banjax hr hl
      · cases h
  | storeConfig =>
      simp only [step] at h
      split at h
      · next config banjax hr =>
        cases h
        exact .storeConfig config banjax hr
      · cases h
  | storeBanjax =>
      simp only [step] at h
      split at h
      · next banjax hr =>
        cases h
        exact .storeBanjax banjax hr
      · cases h
  | invalidate =>
      simp only [step] at h
      split at h
      · next banjax hr =>
        cases h
        exact .invalidate banjax hr
      · cases h
  | release =>
      simp only [step] at h
      split at h
      · next banjax hr =>
        cases h
        exact .release banjax hr
      · cases h

/-! ## What should hold of every run -/

/-- The JSON value of a message that was received. -/
def Event.receivedJson : Event → Option Json
  | .received message => message.json
  | _ => none

/-- The JSON value of a call. -/
def Event.handedJson : Event → Option Json
  | .handed json _ => some json
  | _ => none

/-- The instance of a reload. -/
def Event.installedBanjax : Event → Option Nat
  | .installed banjax => some banjax
  | _ => none

/-- The message that has been received and not handed on yet. -/
def Sys.pending (s : Sys) : Option Json :=
  match s.consumer with
  | .received message => message.json
  | .holding message => message.json
  | _ => none

/-- The messages received without an error have been handed on, each of them once and in
their order, except for the one the consumer is at.  Each was handed to the instance that
was installed last. -/
structure Delivers (s : Sys) : Prop where
  once : s.log.filterMap Event.handedJson ++ s.pending.toList = s.log.filterMap Event.receivedJson
  latest : ∀ before after json banjax, s.log = before ++ .handed json banjax :: after →
    (before.filterMap Event.installedBanjax).getLast? = some banjax

/-! ## The mutex -/

/-- The consumer has the mutex. -/
def ConsumerAt.inside : ConsumerAt → Bool
  | loading | holding _ | done => true
  | _ => false

/-- The reloader has the mutex. -/
def ReloaderAt.inside : ReloaderAt → Bool
  | outside => false
  | _ => true

/-- The instance that the reloader has stored and not returned with yet. -/
def ReloaderAt.stored : ReloaderAt → Option Nat
  | banjaxStored banjax | invalidated banjax => some banjax
  | _ => none

/-- The threads that are inside have the mutex, and the instance is the one that was
installed last or the one the reloader has stored. -/
structure Guarded (s : Sys) : Prop where
  consumer : s.consumer.inside = true → s.lock = some .consumer
  reloader : s.reloader.inside = true → s.lock = some .reloader
  stored : ∀ banjax, s.reloader.stored = some banjax → s.banjax = banjax
  installed : s.reloader.stored = none →
    (s.log.filterMap Event.installedBanjax).getLast? = some s.banjax

variable {s t : Sys}

/-- While the consumer is inside, the reloader is not. -/
theorem Guarded.exclusive (h : Guarded s) (hc : s.consumer.inside = true) :
    s.reloader = .outside := by
  cases hr : s.reloader with
  | outside => rfl
  | locked _ _ | configStored _ | banjaxStored _ | invalidated _ =>
      have hlock := (h.consumer hc).symm.trans (h.reloader (by rw [hr]; rfl))
      cases hlock

theorem guarded_init (config : Node) (banjax : Nat) (configValid : Bool) :
    Guarded (.init config banjax configValid) := ⟨nofun, nofun, nofun, fun _ => rfl⟩

/-- Calls and messages do not install. -/
theorem installed_calls (message : KafkaMessage) (banjax : Nat) :
    (calls message banjax).filterMap Event.installedBanjax = [] := by
  rw [calls]
  cases message.json <;> rfl

/-- Every move keeps the mutex in order. -/
theorem Guarded.takes (h : Guarded s) {move : Move} (hs : Takes s move t) : Guarded t := by
  -- A mutex that is free is not the reloader's, and neither is one the consumer has.
  have hfree : s.lock = none → s.reloader.inside = false := by
    intro hl
    cases hr : s.reloader.inside with
    | false => rfl
    | true => simp [h.reloader hr] at hl
  cases hs with
  | lockToLoad _ hl => exact ⟨fun _ => rfl, by simp [hfree hl], h.stored, h.installed⟩
  | load hc =>
      have hr := h.exclusive (by rw [hc]; rfl)
      exact ⟨nofun, by simp [hr, ReloaderAt.inside], h.stored, h.installed⟩
  | poll _ =>
      refine ⟨?_, h.reloader, h.stored, h.installed⟩
      dsimp only
      split <;> simp [ConsumerAt.inside]
  | receive message _ =>
      refine ⟨nofun, h.reloader, h.stored, fun hr => ?_⟩
      have := h.installed hr
      simpa [Event.installedBanjax] using this
  | tryLock message _ hl => exact ⟨fun _ => rfl, by simp [hfree hl], h.stored, h.installed⟩
  | skip message _ _ => exact ⟨nofun, h.reloader, h.stored, h.installed⟩
  | handOn message hc =>
      refine ⟨fun _ => h.consumer (by rw [hc]; rfl), h.reloader, h.stored, fun hr => ?_⟩
      rw [List.filterMap_append, installed_calls, List.append_nil]
      exact h.installed hr
  | unlock hc =>
      have hr := h.exclusive (by rw [hc]; rfl)
      exact ⟨nofun, by simp [hr, ReloaderAt.inside], h.stored, h.installed⟩
  | lockToReload config banjax hr hl =>
      have hc : s.consumer.inside = true → False := fun hc => by simp [h.consumer hc] at hl
      exact ⟨fun hin => (hc hin).elim, fun _ => rfl, nofun, fun _ => h.installed (by rw [hr]; rfl)⟩
  | storeConfig config banjax hr =>
      have hl := h.reloader (by rw [hr]; rfl)
      exact ⟨h.consumer, fun _ => hl, nofun, fun _ => h.installed (by rw [hr]; rfl)⟩
  | storeBanjax banjax hr =>
      have hl := h.reloader (by rw [hr]; rfl)
      exact ⟨h.consumer, fun _ => hl, fun _ hb => Option.some.inj hb, nofun⟩
  | invalidate banjax hr =>
      have hl := h.reloader (by rw [hr]; rfl)
      have hb := h.stored banjax (by rw [hr]; rfl)
      exact ⟨h.consumer, fun _ => hl, fun _ hb' => hb.trans (Option.some.inj hb'), nofun⟩
  | release banjax hr =>
      have hl := h.reloader (by rw [hr]; rfl)
      have hb := h.stored banjax (by rw [hr]; rfl)
      refine ⟨fun hc => ?_, nofun, nofun, fun _ => ?_⟩
      · simp [h.consumer hc] at hl
      · simp [Event.installedBanjax, hb]

/-! ## Runs -/

theorem delivers_init (config : Node) (banjax : Nat) (configValid : Bool) :
    Delivers (.init config banjax configValid) where
  once := rfl
  latest := by
    intro before after json b h
    have hmem : Event.handed json b ∈ [Event.installed banjax] := by
      rw [show [Event.installed banjax] = before ++ .handed json b :: after from h]
      simp
    simp at hmem

/-- A move that leaves the log and the message of the consumer alone. -/
theorem Delivers.of_same (h : Delivers s) (hlog : t.log = s.log)
    (hpending : t.pending = s.pending) :
    Delivers t := by
  refine ⟨?_, ?_⟩
  · rw [hlog, hpending]
    exact h.once
  · intro before after json banjax hsplit
    exact h.latest before after json banjax (hlog.symm.trans hsplit)

/-- New entries in the log, where a call is of the instance installed last. -/
theorem Delivers.latest_append (h : Delivers s) {extra : List Event}
    (hextra : ∀ before after json banjax, extra = before ++ .handed json banjax :: after →
      ((s.log ++ before).filterMap Event.installedBanjax).getLast? = some banjax)
    (before after : List Event) (json : Json) (banjax : Nat)
    (hsplit : s.log ++ extra = before ++ .handed json banjax :: after) :
    (before.filterMap Event.installedBanjax).getLast? = some banjax := by
  rcases List.append_eq_append_iff.mp hsplit with ⟨mid, rfl, hmid⟩ | ⟨mid, hlog, hmid⟩
  · exact hextra mid after json banjax hmid
  · cases mid with
    | nil =>
        rw [List.append_nil] at hlog
        have := hextra [] after json banjax (by simpa using hmid.symm)
        rwa [List.append_nil, hlog] at this
    | cons e mid =>
        obtain ⟨rfl, -⟩ := List.cons_eq_cons.mp hmid
        exact h.latest before mid json banjax hlog

/-- The mutex is free whenever the consumer tries it with a message to hand on. -/
def FreeTryLock (s : Sys) (move : Move) : Prop :=
  match move with
  | .tryLock => s.pending = none ∨ s.lock = none
  | _ => True

/-- Every move but a failed try keeps the messages in order. -/
theorem Delivers.takes (h : Delivers s) (hguard : Guarded s) {move : Move} (hs : Takes s move t)
    (hfree : FreeTryLock s move) : Delivers t := by
  cases hs with
  | lockToLoad hc _ => exact h.of_same rfl (by simp [Sys.pending, hc])
  | load hc => exact h.of_same rfl (by simp [Sys.pending, hc])
  | poll hc =>
      refine h.of_same rfl ?_
      simp only [Sys.pending, hc]
      cases s.configValid <;> rfl
  | receive message hc =>
      have hpending : s.pending = none := by simp [Sys.pending, hc]
      have honce := h.once
      rw [hpending, Option.toList_none, List.append_nil] at honce
      refine ⟨?_, h.latest_append ?_⟩
      · rw [List.filterMap_append, List.filterMap_append, honce]
        cases hj : message.json <;>
          simp [Event.handedJson, Event.receivedJson, Sys.pending, hj]
      · intro before after json banjax hsplit
        have hmem : Event.handed json banjax ∈ [Event.received message] := by simp [hsplit]
        simp at hmem
  | tryLock message hc _ => exact h.of_same rfl (by simp [Sys.pending, hc])
  | skip message _ hl =>
      have hpending : s.pending = none := hfree.resolve_right hl
      exact h.of_same rfl hpending.symm
  | handOn message hc =>
      have hr := hguard.exclusive (by rw [hc]; rfl)
      have hinstalled := hguard.installed (by rw [hr]; rfl)
      have hpending : s.pending = message.json := by simp [Sys.pending, hc]
      have honce := h.once
      rw [hpending] at honce
      refine ⟨?_, h.latest_append ?_⟩
      · rw [List.filterMap_append, List.filterMap_append, ← honce]
        cases hj : message.json <;>
          simp [calls, Event.handedJson, Event.receivedJson, Sys.pending, hj]
      · intro before after json banjax hsplit
        rw [calls] at hsplit
        cases hj : message.json with
        | none =>
            rw [hj] at hsplit
            simp at hsplit
        | some j =>
            rw [hj] at hsplit
            cases before with
            | nil =>
                cases hsplit
                rwa [List.append_nil]
            | cons e before => simp at hsplit
  | unlock hc => exact h.of_same rfl (by simp [Sys.pending, hc])
  | lockToReload config banjax _ _ => exact h.of_same rfl rfl
  | storeConfig config banjax _ => exact h.of_same rfl rfl
  | storeBanjax banjax _ => exact h.of_same rfl rfl
  | invalidate banjax _ => exact h.of_same rfl rfl
  | release banjax _ =>
      refine ⟨?_, h.latest_append ?_⟩
      · rw [List.filterMap_append, List.filterMap_append]
        change _ ++ [] ++ s.pending.toList = _ ++ []
        rw [List.append_nil, List.append_nil]
        exact h.once
      · intro before after json b hsplit
        have hmem : Event.handed json b ∈ [Event.installed banjax] := by simp [hsplit]
        simp at hmem

/-- In a run in which the consumer never tries a mutex that the reloader has, no message
is lost or doubled, and each goes to the instance installed last. -/
theorem delivers_of_free {config : Node} {banjax : Nat} {configValid : Bool} {moves : List Move}
    {s : Sys} (h : Reaches step FreeTryLock (.init config banjax configValid) moves s) :
    Delivers s := by
  have hboth : Guarded s ∧ Delivers s := by
    refine h.invariant (P := fun _ s => Guarded s ∧ Delivers s)
      ⟨guarded_init config banjax configValid, delivers_init config banjax configValid⟩ ?_
    rintro _ move a b _ ⟨hguard, hdelivers⟩ hfree hs
    have htakes := takes_of_step hs
    exact ⟨hguard.takes htakes, hdelivers.takes hguard htakes hfree⟩
  exact hboth.2

/-- A message with a command. -/
def sampleMessage : KafkaMessage := ⟨.noError, some Instance.sampleCommand⟩

/-- A command, and then a reload. -/
theorem delivers_around_reload :
    ∃ moves s, Reaches step FreeTryLock (.init .null 0 false) moves s ∧ Delivers s ∧
      s.log.filterMap Event.handedJson = [Instance.sampleCommand] ∧ s.banjax = 1 := by
  have loaded : Reaches step FreeTryLock (.init .null 0 false) _ _ :=
    ((Reaches.nil.snoc (x := Move.lockToLoad) trivial rfl).snoc (x := Move.load) trivial rfl).snoc
      (x := Move.poll) trivial rfl
  have handed := ((loaded.snoc (x := Move.receive sampleMessage) trivial rfl).snoc
    (x := Move.tryLock) (.inr rfl) rfl).snoc (x := Move.handOn) trivial rfl
  have unlocked := handed.snoc (x := Move.unlock) trivial rfl
  have stored := ((unlocked.snoc (x := Move.lockToReload .null 1) trivial rfl).snoc
    (x := Move.storeConfig) trivial rfl).snoc (x := Move.storeBanjax) trivial rfl
  have released := (stored.snoc (x := Move.invalidate) trivial rfl).snoc
    (x := Move.release) trivial rfl
  exact ⟨_, _, released, delivers_of_free released, rfl, rfl⟩

/-- The reloader takes the mutex between the receipt of a command and the try: the command
is lost. -/
theorem reload_loses_command :
    ¬ ∀ (config : Node) (banjax : Nat) (configValid : Bool) (moves : List Move) (s : Sys),
        Reaches step (fun _ _ => True) (.init config banjax configValid) moves s → Delivers s := by
  intro h
  have loaded : Reaches step (fun _ _ => True) (.init .null 0 false) _ _ :=
    ((Reaches.nil.snoc (x := Move.lockToLoad) trivial rfl).snoc (x := Move.load) trivial rfl).snoc
      (x := Move.poll) trivial rfl
  have received := loaded.snoc (x := Move.receive sampleMessage) trivial rfl
  have skipped := (received.snoc (x := Move.lockToReload .null 1) trivial rfl).snoc
    (x := Move.tryLock) trivial rfl
  have honce := (h _ _ _ _ _ skipped).once
  cases honce

end Reload

end Banjax
