import Banjax.Lib.Run
import Banjax.Lib.Slots
import Banjax.Swabber.Load

/-!
# The plugin

`BanjaxPlugin` of `banjax.cpp`, with the `Banjax` objects it makes, the transactions that hold
them and the thread of `KafkaConsumer`.  A reload takes the sockets and the consumer away from
the current object, makes a new one with them, and then makes that the current one.  A
transaction goes on with the object it was started with, and the object is freed with the last
reference to it.

Every step of a thread is one move, and a run is any order of the moves.  A move through a
reference to a freed object is a fault of its own.

`current_state` is a plain `shared_ptr` that `reload_config` assigns and
`handle_transaction_start` copies, with no lock between the threads.  A copy is two moves here:
it reads the pointer, and then it counts the reference.  Only the assignment is one move.
-/

namespace Banjax

open Lib

/-! ## The objects -/

/-- A `Banjax`, with its databases, its swabber and what it owns. -/
structure BanjaxObject where
  swabber : Swabber
  swabberState : SwabberState
  botsnifferSocketReuse : Option Socket
  botSniffer : Option BotSniffer
  /-- It owns the consumer. -/
  kafkaConsumer : Bool

/-- Where `reload_config` is, with its variables.  The constructor of the plugin makes the first
object in the same way, and has nothing to hand over. -/
inductive ReloaderAt where
  | outside
  | swabberReleased (swabS : Option Socket)
  | snifferReleased (swabS snifS : Option Socket)
  | consumerReleased (swabS snifS : Option Socket) (kafkaConsumer : Bool)
  | swabberLoaded (conf : Conf) (newBanjax : Nat)
  | filtersBuilt (conf : Conf) (newBanjax : Nat)
  | kafkaLoaded (newBanjax : Nat)

/-- What is sent over a socket. -/
inductive Payload where
  | ban (message : Bytes × Bytes)
  | line (sent : Sent)

/-- A message, with the object that has sent it, the endpoint of the socket and the time. -/
structure Sending where
  banjax : Nat
  endpoint : Bytes
  payload : Payload
  time : Int

structure BanjaxPlugin where
  banjaxes : Slots BanjaxObject
  currentState : Option Nat
  /-- What has been read of `current_state`, by copies that have not counted it yet. -/
  copies : List Nat
  /-- The objects that the open transactions hold. -/
  transactions : List Nat
  reloader : ReloaderAt
  /-- `banjax` of the consumer, while there is a consumer. -/
  consumer : Option Nat
  /-- The consumer is in `kafka_message_consume`, and holds its mutex. -/
  consuming : Bool
  clock : Int
  /-- What has been sent so far. -/
  sent : List Sending
  /-- When every object was made, and of which configuration. -/
  made : List (Int × Conf)

/-- A step of a thread. -/
inductive PluginMove where
  | tick (now : Int)
  /-- `handle_transaction_start`: the pointer is read, and the reference is counted. -/
  | readCurrentState
  | startTransaction (banjax : Nat)
  /-- A filter calls `ban` in a transaction that holds the object. -/
  | ban (banjax : Nat) (lockTry bindTry : Bool) (ip reason : Bytes)
  /-- The close of a transaction with these parts, and the end of its data. -/
  | closeTransaction (banjax : Nat) (e : Close) (m : TransactionMuncher)
  /-- The consumer enters `kafka_message_consume`, and leaves it. -/
  | consume
  | consumed
  /-- The steps of a reload. -/
  | releaseSwabberSocket
  | releaseBotsnifferSocket
  | releaseKafkaConsumer
  | loadSwabber (conf : Conf) (bindTry : Bool) (tries : List Bool)
  | buildFilters (bindTry : Bool)
  | loadKafka
  | publish

/-- Why there is no next state. -/
inductive PluginFault where
  /-- The thread cannot take the step. -/
  | blocked
  /-- The configuration, or an exception, stops the server. -/
  | stopped
  | useAfterFree
deriving DecidableEq

namespace BanjaxPlugin

/-- The plugin in its constructor. -/
def init (clock : Int) : BanjaxPlugin where
  banjaxes := ⟨[]⟩
  currentState := none
  copies := []
  transactions := []
  reloader := .consumerReleased none none false
  consumer := none
  consuming := false
  clock := clock
  sent := []
  made := []

variable (s : BanjaxPlugin)

/-- A reference to an object. -/
def deref (n : Nat) : Except PluginFault BanjaxObject :=
  match s.banjaxes.get? n with
  | some b => .ok b
  | none => .error .useAfterFree

/-- One reference to the object has gone.  The destructor of the object waits for the thread of
a consumer that it owns. -/
def drop (n : Nat) : Except PluginFault BanjaxPlugin := do
  if s.currentState = some n ∨ n ∈ s.transactions then return s
  else
    let b ← s.deref n
    let s := { s with banjaxes := s.banjaxes.free n }
    if !b.kafkaConsumer then return s
    else if s.consuming then .error .blocked
    else return { s with consumer := none }

/-! ## Transactions -/

/-- What a `ban` meets. -/
def banEnv (lockTry bindTry : Bool) : BanEnv where
  now := s.clock
  lockTry := lockTry
  bindTry := bindTry

/-- `Swabber::ban` of an object. -/
def ban (n : Nat) (b : BanjaxObject) (lockTry bindTry : Bool) (ip reason : Bytes) : BanjaxPlugin :=
  let st := b.swabber.ban (s.banEnv lockTry bindTry) ip reason b.swabberState
  let endpoint := (st.socket.map Socket.localEndpoint).getD []
  { s with
    banjaxes := s.banjaxes.put n { b with swabberState := st }
    sent := s.sent ++ (st.sent.drop b.swabberState.sent.length).map
      fun message => ⟨n, endpoint, .ban message, s.clock⟩ }

/-- `BotSniffer::on_http_close` of an object.  An exception leaves the handler of the event. -/
def onHttpClose (n : Nat) (b : BanjaxObject) (e : Close) (m : TransactionMuncher) :
    Except PluginFault BanjaxPlugin :=
  match b.botSniffer with
  | none => .ok s
  | some sniffer =>
      let closed := sniffer.onHttpClose e m
      let endpoint := (closed.sniffer.socket.map Socket.localEndpoint).getD []
      match closed.thrown with
      | some _ => .error .stopped
      | none =>
          .ok { s with
            banjaxes := s.banjaxes.put n { b with botSniffer := some closed.sniffer }
            sent := s.sent ++ closed.sent.map fun sent => ⟨n, endpoint, .line sent, s.clock⟩ }

/-- The end of a transaction. -/
def closeTransaction (n : Nat) (e : Close) (m : TransactionMuncher) :
    Except PluginFault BanjaxPlugin := do
  let b ← s.deref n
  let s ← s.onHttpClose n b e m
  { s with transactions := s.transactions.erase n }.drop n

/-! ## Reloads -/

/-- `release_swabber_socket`. -/
def releaseSwabberSocket (n : Nat) (b : BanjaxObject) : BanjaxPlugin :=
  let (socket, st) := Swabber.releaseSocket b.swabberState
  { s with
    banjaxes := s.banjaxes.put n { b with swabberState := st }
    reloader := .swabberReleased socket }

/-- `release_botsniffer_socket`. -/
def releaseBotsnifferSocket (n : Nat) (b : BanjaxObject) (swabS : Option Socket) : BanjaxPlugin :=
  match b.botSniffer with
  | none => { s with reloader := .snifferReleased swabS none }
  | some sniffer =>
      { s with
        banjaxes := s.banjaxes.put n { b with botSniffer := some { sniffer with socket := none } }
        reloader := .snifferReleased swabS sniffer.socket }

/-- `release_kafka_consumer`. -/
def releaseKafkaConsumer (n : Nat) (b : BanjaxObject) (swabS snifS : Option Socket) :
    BanjaxPlugin :=
  { s with
    banjaxes := s.banjaxes.put n { b with kafkaConsumer := false }
    reloader := .consumerReleased swabS snifS b.kafkaConsumer }

/-- The members of a new object, and `Swabber::load_config`.  A socket that is handed over is
closed in front of the bind, or it needs none. -/
def loadSwabber (S : Swabber) (conf : Conf) (bindTry : Bool) (tries : List Bool)
    (swabS snifS : Option Socket) (kafkaConsumer : Bool) : BanjaxPlugin :=
  let socket := S.loadSocket (swabS.getD {}) bindTry
  { s with
    banjaxes := s.banjaxes.make
      ⟨S, { ipDb := ⟨∅, tries⟩, socket := some socket }, snifS, none, kafkaConsumer⟩
    reloader := .swabberLoaded conf s.banjaxes.made
    made := s.made ++ [(s.clock, conf)] }

/-- `build_filters`.  Of the filters only the sniffer has a socket. -/
def buildFilters (n : Nat) (b : BanjaxObject) (conf : Conf) (port : Option Nat) (bindTry : Bool) :
    BanjaxPlugin :=
  match port with
  | none => { s with reloader := .filtersBuilt conf n }
  | some port =>
      let sniffer := BotSniffer.load port b.botsnifferSocketReuse bindTry
      { s with
        banjaxes := s.banjaxes.put n
          { b with botsnifferSocketReuse := none, botSniffer := some sniffer }
        reloader := .filtersBuilt conf n }

/-- The end of `read_configuration`.  A reload of the consumer waits for its mutex, and the
destructor for its thread. -/
def loadKafka (n : Nat) (b : BanjaxObject) (brokers : Bool) : Except PluginFault BanjaxPlugin :=
  if s.consuming && (brokers || b.kafkaConsumer) then .error .blocked
  else
    .ok { s with
      banjaxes := s.banjaxes.put n { b with kafkaConsumer := brokers }
      consumer := if brokers then some n else if b.kafkaConsumer then none else s.consumer
      reloader := .kafkaLoaded n }

end BanjaxPlugin

/-- The port of the sniffer, if there is one. -/
def Conversions.snifferPort (A : Conversions) (conf : Conf) : Except PluginFault (Option Nat) :=
  match conf.filterConfigMap .botSniffer with
  | none => .ok none
  | some filterConfig =>
      match A.botbangerPort filterConfig with
      | some port => .ok (some port)
      | none => .error .stopped

/-- `kafka_conf["metadata.broker.list"]`. -/
def Conf.hasBrokers (conf : Conf) : Except PluginFault Bool :=
  match ChallengeReader.lookup (some conf.kafkaConf) (bytes "metadata.broker.list") with
  | .ok brokers => .ok brokers.isSome
  | .error _ => .error .stopped

namespace BanjaxPlugin

/-- The state after a move. -/
def step (A : Conversions) (s : BanjaxPlugin) : PluginMove → Except PluginFault BanjaxPlugin
  | .tick now => .ok { s with clock := now }
  | .readCurrentState =>
      match s.currentState with
      | some n => .ok { s with copies := s.copies ++ [n] }
      | none => .error .blocked
  | .startTransaction n =>
      if n ∈ s.copies then do
        let _ ← s.deref n
        return { s with copies := s.copies.erase n, transactions := s.transactions ++ [n] }
      else .error .blocked
  | .ban n lockTry bindTry ip reason =>
      if n ∈ s.transactions then do return s.ban n (← s.deref n) lockTry bindTry ip reason
      else .error .blocked
  | .closeTransaction n e m =>
      if n ∈ s.transactions then s.closeTransaction n e m else .error .blocked
  | .consume =>
      match s.consumer, s.consuming with
      | some n, false => do
          let _ ← s.deref n
          return { s with consuming := true }
      | _, _ => .error .blocked
  | .consumed =>
      match s.consumer, s.consuming with
      | some n, true => do
          let _ ← s.deref n
          return { s with consuming := false }
      | _, _ => .error .blocked
  | .releaseSwabberSocket =>
      match s.reloader, s.currentState with
      | .outside, some n => do return s.releaseSwabberSocket n (← s.deref n)
      | _, _ => .error .blocked
  | .releaseBotsnifferSocket =>
      match s.reloader, s.currentState with
      | .swabberReleased swabS, some n => do return s.releaseBotsnifferSocket n (← s.deref n) swabS
      | _, _ => .error .blocked
  | .releaseKafkaConsumer =>
      match s.reloader, s.currentState with
      | .snifferReleased swabS snifS, some n => do
          return s.releaseKafkaConsumer n (← s.deref n) swabS snifS
      | _, _ => .error .blocked
  | .loadSwabber conf bindTry tries =>
      match s.reloader with
      | .consumerReleased swabS snifS kafkaConsumer =>
          match A.swabber conf.swabberConf with
          | .ok S => .ok (s.loadSwabber S conf bindTry tries swabS snifS kafkaConsumer)
          | .error _ => .error .stopped
      | _ => .error .blocked
  | .buildFilters bindTry =>
      match s.reloader with
      | .swabberLoaded conf n => do
          let port ← A.snifferPort conf
          return s.buildFilters n (← s.deref n) conf port bindTry
      | _ => .error .blocked
  | .loadKafka =>
      match s.reloader with
      | .filtersBuilt conf n => do
          let brokers ← conf.hasBrokers
          s.loadKafka n (← s.deref n) brokers
      | _ => .error .blocked
  | .publish =>
      match s.reloader with
      | .kafkaLoaded n =>
          let published := { s with currentState := some n, reloader := .outside }
          match s.currentState with
          | some old => published.drop old
          | none => .ok published
      | _ => .error .blocked

end BanjaxPlugin

end Banjax
