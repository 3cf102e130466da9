import Banjax.Challenger.Dynamic

/-!
# Commands from Kafka

`KafkaConsumer::msg_consume` of `kafka.cpp` and `Banjax::kafka_message_consume` of
`banjax.cpp`.  A message is a JSON value; a command is an object with a `name` and a
`value`, both strings.

A call ends normally or with an exception, and what it did before the exception stays
done: the result is the instance after the call together with the way in which it ended.
Nothing on the way from `parse_single_challenge` up to the thread of the consumer catches
what it throws, so a command for a challenge that cannot be read ends the program.  The
configuration is looked at when it is loaded, but not at the fields that matter here
(`contained_iff`).
-/

namespace Banjax

open Lib

/-! ## JSON -/

/-- `json`, once it has been parsed. -/
inductive Json where
  | null
  | boolean (value : Bool)
  | number (text : Bytes)
  | string (text : Bytes)
  | array (elements : List Json)
  | object (members : List (Bytes × Json))

/-- The `json::exception`s of reading a value. -/
inductive JsonError where
  | typeError
  | outOfRange

namespace Json

/-- `at`. -/
def member (name : Bytes) : Json → Except JsonError Json
  | object members =>
      match members.lookup name with
      | some value => .ok value
      | none => .error .outOfRange
  | _ => .error .typeError

/-- `get<std::string>`. -/
def getString : Json → Except JsonError Bytes
  | string text => .ok text
  | _ => .error .typeError

/-- `from_json` of a `name_value`. -/
def nameValue (j : Json) : Except JsonError (Bytes × Bytes) := do
  let name ← (← j.member (bytes "name")).getString
  let value ← (← j.member (bytes "value")).getString
  return (name, value)

/-- The message is one of the two commands. -/
def IsCommand (j : Json) : Prop :=
  ∃ name value, j.nameValue = .ok (name, value) ∧
    (name = bytes "challenge_host" ∨ name = bytes "challenge_ip")

end Json

/-! ## `kafka_message_consume` -/

/-- A message of `report_if_ip_in_database`. -/
structure IpReport where
  valueIp : Bytes
  /-- The number of failures, or `null`. -/
  valueChallengerDb : Option UInt64
deriving DecidableEq

/-- The parts of a `Banjax` instance that a command reaches. -/
structure Instance where
  challenger : Option LiveChallenger
  /-- Whether there is a Kafka producer to report to. -/
  kafkaProducer : Bool
  challengerIpDb : IpDb UInt64
  /-- The messages sent so far. -/
  sent : List IpReport := []

namespace Instance

variable (R : ChallengeReader)

/-- `report_if_ip_in_database`. -/
def reportIfIpInDatabase (B : Instance) (ip : Bytes) : Instance :=
  if B.kafkaProducer then
    let (state, db) := B.challengerIpDb.getIpState ip
    { B with challengerIpDb := db, sent := B.sent ++ [⟨ip, state⟩] }
  else B

/-- The end of a call of the challenger. -/
def finish (B : Instance) : Except ChallengeError LiveChallenger →
    Instance × Except ChallengeError Unit
  | .ok M => ({ B with challenger := some M }, .ok ())
  | .error e => (B, .error e)

/-- `kafka_message_consume`, at a time. -/
def kafkaMessageConsume (now : Int) (message : Json) (B : Instance) :
    Instance × Except ChallengeError Unit :=
  match message.nameValue with
  | .error _ => (B, .ok ())
  | .ok (name, value) =>
      match B.challenger with
      | none => (B, .ok ())
      | some M =>
          if name = bytes "challenge_host" then B.finish (M.loadSingleHostChallenge R now value)
          else if name = bytes "challenge_ip" then
            (B.reportIfIpInDatabase value).finish (M.loadSingleIpChallenge R now value)
          else (B, .ok ())

end Instance

/-! ## `msg_consume` -/

/-- `RdKafka::ErrorCode`, as far as the consumer tells them apart. -/
inductive ErrorCode where
  | noError
  | timedOut
  | partitionEof
  | unknownTopic
  | unknownPartition
  | other
deriving DecidableEq, Repr

/-- `RdKafka::Message`. -/
structure KafkaMessage where
  err : ErrorCode
  /-- What `json::parse` makes of the payload. -/
  payload : Option Json

/-- The JSON value that is handed on, if there is one. -/
def KafkaMessage.json (message : KafkaMessage) : Option Json :=
  match message.err with
  | .noError => message.payload
  | _ => none

/-- `msg_consume`.  `lockTry` says whether the mutex is free. -/
def Instance.msgConsume (R : ChallengeReader) (now : Int) (lockTry : Bool) (message : KafkaMessage)
    (B : Instance) : Instance × Except ChallengeError Unit :=
  if !lockTry then (B, .ok ())
  else
    match message.json with
    | none => (B, .ok ())
    | some json => B.kafkaMessageConsume R now json

namespace Instance

/-! ## Which commands end normally -/

/-- The call returns normally and lets no exception out of the consumer, and the
challenger stays as it was when the message is no command or its challenge cannot be
built. -/
structure Contained (R : ChallengeReader) (now : Int) (message : Json) (B : Instance) : Prop where
  returns : (B.kafkaMessageConsume R now message).2 = .ok ()
  caught : ∀ lockTry, (B.msgConsume R now lockTry ⟨.noError, some message⟩).2 = .ok ()
  unchanged : ¬ message.IsCommand ∨
      (∃ M, B.challenger = some M ∧ ¬ Succeeds (M.dynamicChallenge R)) →
    (B.kafkaMessageConsume R now message).1.challenger = B.challenger

variable (R : ChallengeReader) (now : Int) {message : Json} {B : Instance}

@[simp] theorem reportIfIpInDatabase_challenger (B : Instance) (ip : Bytes) :
    (B.reportIfIpInDatabase ip).challenger = B.challenger := by
  rw [reportIfIpInDatabase]
  split <;> rfl

/-- What is no command changes nothing. -/
theorem kafkaMessageConsume_other (h : ¬ message.IsCommand) :
    B.kafkaMessageConsume R now message = (B, .ok ()) := by
  rw [kafkaMessageConsume]
  cases hname : message.nameValue with
  | error e => rfl
  | ok nv =>
      obtain ⟨name, value⟩ := nv
      cases B.challenger with
      | none => rfl
      | some M =>
          have hhost : name ≠ bytes "challenge_host" :=
            fun heq => h ⟨name, value, hname, .inl heq⟩
          have hip : name ≠ bytes "challenge_ip" := fun heq => h ⟨name, value, hname, .inr heq⟩
          dsimp only
          rw [if_neg hhost, if_neg hip]

/-- The ways in which a call of the challenger ends for a command. -/
theorem kafkaMessageConsume_command (h : message.IsCommand) {M : LiveChallenger}
    (hM : B.challenger = some M) :
    (∃ spec, M.dynamicChallenge R = .ok spec ∧ (B.kafkaMessageConsume R now message).2 = .ok ()) ∨
    ∃ e, M.dynamicChallenge R = .error e ∧ (B.kafkaMessageConsume R now message).2 = .error e ∧
      (B.kafkaMessageConsume R now message).1.challenger = B.challenger := by
  obtain ⟨name, value, hname, hcommand⟩ := h
  rw [kafkaMessageConsume, hname, hM]
  dsimp only
  rcases hcommand with rfl | rfl
  · rw [if_pos rfl, LiveChallenger.loadSingleHostChallenge]
    cases M.dynamicChallenge R with
    | ok spec => exact .inl ⟨spec, rfl, rfl⟩
    | error e => exact .inr ⟨e, rfl, rfl, hM⟩
  · rw [if_neg (by decide), if_pos rfl, LiveChallenger.loadSingleIpChallenge]
    cases M.dynamicChallenge R with
    | ok spec => exact .inl ⟨spec, rfl, rfl⟩
    | error e =>
        refine .inr ⟨e, rfl, rfl, ?_⟩
        exact (reportIfIpInDatabase_challenger B value).trans hM

/-- Without a challenger nothing happens. -/
theorem kafkaMessageConsume_none (h : B.challenger = none) :
    B.kafkaMessageConsume R now message = (B, .ok ()) := by
  rw [kafkaMessageConsume]
  cases message.nameValue with
  | error e => rfl
  | ok nv => rw [h]

/-- A call that changes nothing is contained. -/
theorem contained_of_same (h : B.kafkaMessageConsume R now message = (B, .ok ())) :
    Contained R now message B where
  returns := by rw [h]
  caught lockTry := by
    cases lockTry with
    | false => rfl
    | true =>
        change (B.kafkaMessageConsume R now message).2 = .ok ()
        rw [h]
  unchanged _ := by rw [h]

/-- A command is contained exactly when the configured challenge is well formed, and any
other message always is. -/
theorem contained_iff (message : Json) (B : Instance) :
    Contained R now message B ↔
      (message.IsCommand → ∀ M, B.challenger = some M →
        R.WellFormed (ChallengeReader.field (some M.cfg) "dynamic_challenger_config")) := by
  constructor
  · intro h hcommand M hM
    rw [← LiveChallenger.dynamicChallenge_ok_iff]
    rcases kafkaMessageConsume_command R now hcommand hM with ⟨spec, hspec, _⟩ | ⟨e, _, herror, _⟩
    · exact ⟨spec, hspec⟩
    · rw [h.returns] at herror
      cases herror
  · intro h
    by_cases hcommand : message.IsCommand
    · cases hM : B.challenger with
      | none => exact contained_of_same R now (kafkaMessageConsume_none R now hM)
      | some M =>
          have hbuilt := LiveChallenger.dynamicChallenge_ok_iff.mpr (h hcommand M hM)
          rcases kafkaMessageConsume_command R now hcommand hM with ⟨_, _, hok⟩ | ⟨e, herror, _⟩
          · refine ⟨hok, ?_, ?_⟩
            · intro lockTry
              cases lockTry with
              | false => rfl
              | true => exact hok
            · rintro (hnot | ⟨M', hM', hnot⟩)
              · exact absurd hcommand hnot
              · cases hM.symm.trans hM'
                exact absurd hbuilt hnot
          · rw [herror] at hbuilt
            exact absurd hbuilt (succeeds_error e)
    · exact contained_of_same R now (kafkaMessageConsume_other R now hcommand)

/-- A configuration without anything about commands. -/
def sampleNoKafka : Node :=
  sampleMap [("key", sampleScalar "secret"), ("difficulty", sampleScalar "8")]

/-- The command `challenge_host`. -/
def sampleCommand : Json :=
  .object [(bytes "name", .string (bytes "challenge_host")),
    (bytes "value", .string (bytes "example.net"))]

/-- A configuration without `dynamic_challenger_config` is accepted, and the first command
then throws out of the consumer. -/
theorem command_not_contained :
    ¬ ∀ (R : ChallengeReader) (C : Crypto) (uninitialized : UInt32) (cfg : Node)
        (M : LiveChallenger) (now : Int) (message : Json) (B : Instance),
        R.loadConfig C uninitialized cfg = .ok M → B.challenger = some M →
        Contained R now message B := by
  intro h
  have hload : ∃ M, sampleReader.loadConfig prefixCrypto 0 sampleNoKafka = .ok M ∧
      M.cfg = sampleNoKafka := ⟨_, rfl, rfl⟩
  obtain ⟨M, hload, hcfg⟩ := hload
  have hthrows := (h sampleReader prefixCrypto 0 sampleNoKafka M 0 sampleCommand
    ⟨some M, false, IpDb.empty, []⟩ hload rfl).returns
  have herror : M.dynamicChallenge sampleReader = .error (.invalidNode (bytes "name")) := by
    rw [LiveChallenger.dynamicChallenge, hcfg]
    rfl
  have hcommand : sampleCommand.IsCommand := ⟨_, _, rfl, .inl rfl⟩
  rcases kafkaMessageConsume_command sampleReader 0 hcommand
    (show (Instance.mk (some M) false IpDb.empty []).challenger = some M from rfl) with
    ⟨spec, hspec, _⟩ | ⟨e, _, hexception, _⟩
  · rw [herror] at hspec
    cases hspec
  · rw [hthrows] at hexception
    cases hexception

end Instance

end Banjax
