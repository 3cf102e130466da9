import Banjax.Lib.Bytes
import Banjax.Lib.Run

/-!
# Reading the configuration

`process_config` goes through the sections of a file and calls itself for every included
file.  `read_configuration` then gives every configured filter its priority, and
`build_filters` puts the filters into the task queues in that order.

YAML nodes are immutable trees here.  A section of a filter is kept as the pair of its
key and its value, and the files come from a `Reader`, which stands for the file system
and for the conversion of a scalar to an integer.  The recursion over included files is
bounded by a fuel, since a file may include itself.
-/

namespace Banjax

open Lib

/-! ## YAML -/

/-- `YAML::Node`. -/
inductive Node where
  | null
  | scalar (text : Bytes)
  | sequence (elements : List Node)
  | map (entries : List (Node × Node))

namespace Node

/-- `as<std::string>`. -/
def asString : Node → Option Bytes
  | scalar text => some text
  | _ => none

/-- `size`. -/
def size : Node → Nat
  | sequence elements => elements.length
  | map entries => entries.length
  | _ => 0

/-- What an iterator finds as `first` and `second`.  The elements of a sequence have
neither. -/
def pairs : Node → List (Option (Node × Node))
  | map entries => entries.map some
  | sequence elements => elements.map fun _ => none
  | _ => []

/-- What a loop over the node finds as a node.  The entries of a map are none. -/
def items : Node → List (Option Node)
  | sequence elements => elements.map some
  | map entries => entries.map fun _ => none
  | _ => []

/-- `operator[]`, at a name. -/
def find? (name : Bytes) : Node → Option Node
  | map entries => (entries.find? fun entry => entry.1.asString = some name).map Prod.snd
  | _ => none

/-- `operator[]` throws `BadSubscript`. -/
def isScalar : Node → Bool
  | scalar _ => true
  | _ => false

end Node

/-- What `YAML::LoadFile` throws. -/
inductive LoadError where
  | badFile
  | parser

/-- The configuration directory, `YAML::LoadFile` and `YAML::Node::as<int>`. -/
structure Reader where
  banjaxConfigDir : Bytes
  loadFile : Bytes → Except LoadError Node
  asInt : Node → Option Int32

/-- The ways in which the configuration stops the server. -/
inductive Abort where
  | loading (location : Bytes) (error : LoadError)
  | badFormat
  | unknownNode (name : Bytes)
  | doublePriorities
  | badSubscript
  | doublyAssigned (priority : Int)
  /-- The addition of two `int` overflows. -/
  | signedOverflow
  /-- Not an end of the program, but the end of the fuel. -/
  | outOfFuel

/-! ## Filters -/

/-- The names of `filter_list.h`. -/
inductive FilterName where
  | regexBanner
  | challenger
  | botSniffer
  | whiteLister
  | denialator
deriving DecidableEq, Repr

namespace FilterName

/-- `REGEX_BANNER_FILTER_NAME` and the others. -/
def name : FilterName → Bytes
  | regexBanner => bytes "regex_banner"
  | challenger => bytes "challenger"
  | botSniffer => bytes "bot_sniffer"
  | whiteLister => bytes "white_lister"
  | denialator => bytes "denialator"

/-- `all_filters_names`. -/
def all : List FilterName := [regexBanner, challenger, botSniffer, whiteLister, denialator]

/-- The order in which a map with these keys is iterated. -/
def alphabetical : List FilterName :=
  [botSniffer, challenger, denialator, regexBanner, whiteLister]

/-- `is_filter`, with the filter that is found. -/
def ofName? (s : Bytes) : Option FilterName := all.find? fun f => f.name = s

theorem mem_alphabetical (f : FilterName) : f ∈ alphabetical := by cases f <;> decide

theorem alphabetical_nodup : alphabetical.Nodup := by decide

end FilterName

/-- `FilterConfig`. -/
structure FilterConfig where
  configNodeList : List (Node × Node) := []
  priority : Int := 0

/-- What `process_config` writes. -/
structure Conf where
  filterConfigMap : FilterName → Option FilterConfig
  swabberConf : List (Node × Node)
  priorities : Node
  kafkaConf : Node
  reportStatusIntervalSeconds : Int32
  removeExpiredChallengesIntervalSeconds : Int32

namespace Conf

/-- The members of a new `Banjax`. -/
def init : Conf := ⟨fun _ => none, [], .null, .null, 0, 0⟩

/-- What every call of `process_config` does first. -/
def reset (st : Conf) : Conf :=
  { st with
    kafkaConf := .null
    reportStatusIntervalSeconds := 0
    removeExpiredChallengesIntervalSeconds := 0 }

def setFilter (st : Conf) (f : FilterName) (conf : FilterConfig) : Conf :=
  { st with filterConfigMap := Function.update st.filterConfigMap f (some conf) }

/-- A section of a filter, with `current_sequential_priority`. -/
def addFilter (st : Conf) (f : FilterName) (it : Node × Node) (current : Int) : Conf × Int :=
  match st.filterConfigMap f with
  | none => (st.setFilter f ⟨[it], current⟩, current + 1)
  | some conf =>
      (st.setFilter f { conf with configNodeList := conf.configNodeList ++ [it] }, current)

section addFilter

variable (st : Conf) (f : FilterName) (it : Node × Node) (n : Int)

@[simp] theorem addFilter_priorities : (st.addFilter f it n).1.priorities = st.priorities := by
  rw [addFilter]
  split <;> rfl

@[simp] theorem addFilter_kafkaConf : (st.addFilter f it n).1.kafkaConf = st.kafkaConf := by
  rw [addFilter]
  split <;> rfl

@[simp] theorem addFilter_reportStatus :
    (st.addFilter f it n).1.reportStatusIntervalSeconds = st.reportStatusIntervalSeconds := by
  rw [addFilter]
  split <;> rfl

@[simp] theorem addFilter_removeExpired :
    (st.addFilter f it n).1.removeExpiredChallengesIntervalSeconds =
      st.removeExpiredChallengesIntervalSeconds := by
  rw [addFilter]
  split <;> rfl

end addFilter

end Conf

/-! ## `process_config` -/

namespace Reader

variable (R : Reader)

def intOf (node : Node) : Except Abort Int32 :=
  match R.asInt node with
  | some n => .ok n
  | none => .error .badFormat

/-- One section of a file, other than `include`, with `current_sequential_priority`. -/
def readSection (nodeName : Bytes) (it : Node × Node) (s : Conf × Int) :
    Except Abort (Conf × Int) :=
  match FilterName.ofName? nodeName with
  | some f => .ok (s.1.addFilter f it s.2)
  | none =>
      if nodeName = bytes "swabber" then
        .ok ({ s.1 with swabberConf := s.1.swabberConf ++ [it] }, s.2)
      else if nodeName = bytes "priority" then
        if s.1.priorities.size ≠ 0 then .error .doublePriorities
        else .ok ({ s.1 with priorities := it.2 }, s.2)
      else if nodeName = bytes "kafka" then .ok ({ s.1 with kafkaConf := it.2 }, s.2)
      else if nodeName = bytes "report_status_interval_seconds" then do
        let n ← R.intOf it.2
        return ({ s.1 with reportStatusIntervalSeconds := n }, s.2)
      else if nodeName = bytes "remove_expired_challenges_interval_seconds" then do
        let n ← R.intOf it.2
        return ({ s.1 with removeExpiredChallengesIntervalSeconds := n }, s.2)
      else .error (.unknownNode nodeName)

/-- `YAML::LoadFile` of a file in the configuration directory. -/
def load (file : Bytes) : Except Abort Node :=
  let location := R.banjaxConfigDir ++ bytes "/" ++ file
  match R.loadFile location with
  | .ok node => .ok node
  | .error e => .error (.loading location e)

/-- The file of one entry of an `include` list. -/
def loadIncluded (sub : Option Node) : Except Abort Node :=
  match sub.bind Node.asString with
  | some file => R.load file
  | none => .error .badFormat

/-- One entry of a file.  The included files are processed by `recurse`. -/
def processEntry (recurse : Node → Conf → Except Abort Conf) (s : Conf × Int)
    (it : Option (Node × Node)) : Except Abort (Conf × Int) :=
  match it with
  | none => .error .badFormat
  | some it =>
      match it.1.asString with
      | none => .error .badFormat
      | some nodeName =>
          if nodeName = bytes "include" then do
            let st ← it.2.items.foldlM (fun st sub => do recurse (← R.loadIncluded sub) st) s.1
            return (st, s.2)
          else R.readSection nodeName it s

/-- `process_config`. -/
def processConfig : Nat → Node → Conf → Except Abort Conf
  | 0, _, _ => .error .outOfFuel
  | fuel + 1, cfg, st => do
      let s ← cfg.pairs.foldlM (R.processEntry (processConfig fuel)) (st.reset, 0)
      return s.1

/-! ## `read_configuration` -/

/-- `priority_map`, in the order of its iteration. -/
abbrev PriorityMap := List (Int × FilterName)

/-- `operator+` of `int`. -/
def addInt (a b : Int) : Except Abort Int :=
  if -2 ^ 31 ≤ a + b ∧ a + b < 2 ^ 31 then .ok (a + b) else .error .signedOverflow

/-- `max_priority`. -/
def maxPriority (priorities : Node) : Except Abort Int :=
  match priorities.pairs with
  | [] => .ok 0
  | none :: _ => .error .badFormat
  | some first :: rest => do
      let n ← R.intOf first.2
      rest.foldlM (fun m it => do
        let n ← match it with
          | some it => R.intOf it.2
          | none => .error .badFormat
        return max m n.toInt) n.toInt

/-- The priority of a filter: the explicit one, or its number after the largest
explicit one. -/
def filterPriority (priorities : Node) (maxPriority : Int) (f : FilterName) (conf : FilterConfig) :
    Except Abort Int :=
  if priorities.isScalar then .error .badSubscript
  else
    match priorities.find? f.name with
    | some node => do
        let n ← R.intOf node
        return n.toInt
    | none => do addInt conf.priority (← addInt maxPriority 1)

/-- One round of the loop over `filter_config_map`. -/
def assignPriority (st : Conf) (maxPriority : Int) (pm : PriorityMap) (f : FilterName) :
    Except Abort PriorityMap :=
  match st.filterConfigMap f with
  | none => .ok pm
  | some conf => do
      let p ← R.filterPriority st.priorities maxPriority f conf
      if p ∈ pm.map Prod.fst then .error (.doublyAssigned p)
      else return pm.orderedInsert (fun a b => a.1 ≤ b.1) (p, f)

/-- `priority_map`. -/
def assignPriorities (st : Conf) : Except Abort PriorityMap := do
  let m ← R.maxPriority st.priorities
  FilterName.alphabetical.foldlM (R.assignPriority st m) []

/-- `read_configuration`, up to `build_filters`. -/
def readConfiguration (fuel : Nat) : Except Abort (Conf × PriorityMap) := do
  let cfg ← R.load (bytes "banjax.conf")
  let st ← R.processConfig fuel cfg Conf.init
  let pm ← R.assignPriorities st
  return (st, pm)

end Reader

/-! ## `build_filters` -/

/-- `BanjaxFilter::ExecutionQueue`. -/
inductive ExecutionQueue where
  | httpStart
  | httpRequest
  | httpReadCache
  | httpSendToOrigin
  | httpResponse
  | httpClose
deriving DecidableEq, Repr

/-- `queued_tasks`: the queue on which a filter has its task. -/
def FilterName.queued : FilterName → ExecutionQueue
  | botSniffer => .httpClose
  | _ => .httpRequest

/-- `build_filters`: the task queue, once the filters have been constructed. -/
def buildFilters (pm : Reader.PriorityMap) (queue : ExecutionQueue) : List FilterName :=
  pm.foldl (fun tasks p => if p.2.queued = queue then tasks ++ [p.2] else tasks) []

end Banjax
