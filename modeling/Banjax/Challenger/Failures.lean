import Banjax.Challenger.Defs
import Banjax.Lib.Tally

/-!
# The failure record

`report_failure` and `report_success` of `challenger.cpp`, and the reports of
`banjax.cpp` that read the record.

The record of an address is a counter in the failure database.  `report_failure`
raises it, and at the threshold of the challenge it bans the address and drops the
record.  `report_success` does not drop the record but sets it to one.  In the
terms of `Tally` the counter is cleared to one (`run_simulates`), and so an address
that has had a success is banned one failure early.
-/

namespace Banjax

open Lib

/-! ## Reports -/

namespace Challenger

variable (M : Challenger)

/-- The message of both versions of `report_pass_or_failure`.  It includes the
failure record, which takes the mutex of the database. -/
def reportMessage (passedName failedName site ip : Bytes) (passed : Bool) (w : World) : World :=
  if !M.kafkaProducer then w
  else
    let (state, ipDb) := w.ipDb.getIpState ip
    { w with ipDb := ipDb }.emit (.report (if passed then passedName else failedName) site ip state)

/-- `report_pass_or_failure`. -/
def reportPassOrFailure (site ip : Bytes) (passed : Bool) (w : World) : World :=
  M.reportMessage (bytes "ip_passed_challenge") (bytes "ip_failed_challenge") site ip passed w

/-- `report_pass_or_failure2`. -/
def reportPassOrFailure2 (site ip : Bytes) (passed : Bool) (w : World) : World :=
  M.reportMessage (bytes "ip_passed_challenge2") (bytes "ip_failed_challenge2") site ip passed w

end Challenger

/-- The event is a report. -/
def Event.isReport : Event → Bool
  | .report .. => true
  | _ => false

/-- The second world is the first after some reports: the records are the same. -/
structure World.Quiet (w w' : World) : Prop where
  db : w'.ipDb.db = w.ipDb.db
  acquired : w.ipDb.AllAcquired → w'.ipDb.AllAcquired
  log : ∃ es, w'.log = w.log ++ es ∧ ∀ e ∈ es, e.isReport = true

theorem World.Quiet.refl (w : World) : w.Quiet w :=
  ⟨rfl, id, [], (List.append_nil _).symm, by simp⟩

theorem World.Quiet.trans {w₁ w₂ w₃ : World} (h : w₁.Quiet w₂) (h' : w₂.Quiet w₃) :
    w₁.Quiet w₃ := by
  obtain ⟨es, hes, hrep⟩ := h.log
  obtain ⟨es', hes', hrep'⟩ := h'.log
  refine ⟨h'.db.trans h.db, h'.acquired ∘ h.acquired, es ++ es', ?_, ?_⟩
  · rw [hes', hes, List.append_assoc]
  · intro e he
    rcases List.mem_append.mp he with he | he
    · exact hrep e he
    · exact hrep' e he

theorem Challenger.reportMessage_quiet (M : Challenger) (passedName failedName site ip : Bytes)
    (passed : Bool) (w : World) :
    w.Quiet (M.reportMessage passedName failedName site ip passed w) := by
  rw [Challenger.reportMessage]
  split
  · exact .refl w
  · obtain ⟨state, ipDb, hget⟩ : ∃ state ipDb, w.ipDb.getIpState ip = (state, ipDb) := ⟨_, _, rfl⟩
    rw [hget]
    refine ⟨?_, ?_, [_], rfl, by simp [Event.isReport]⟩
    · exact IpDb.getIpState_db hget
    · exact fun h => IpDb.AllAcquired.getIpState h hget

/-! ## Failures and successes -/

/-- The reason `report_failure` gives for a ban. -/
def banningReason (failedChallenge : HostChallengeSpec) (parts : TransactionParts)
    (failures : UInt64) : Bytes :=
  bytes "failed challenge " ++ failedChallenge.name ++ bytes " for host " ++ parts.host ++
    bytes " " ++ decimal failures.toNat ++ bytes " times, " ++ encapsulateInQuotes parts.url ++
    bytes ", " ++ parts.host ++ bytes ", " ++ encapsulateInQuotes parts.ua

/-- `report_failure`: whether the address was banned, and the world after it. -/
def reportFailure (failedChallenge : HostChallengeSpec) (parts : TransactionParts) (w : World) :
    Bool × World :=
  let clientIp := parts.ip.str
  match w.ipDb.getIpState clientIp with
  -- We failed to read, so we cannot judge.
  | (none, ipDb) => (false, { w with ipDb := ipDb })
  | (some ipState, ipDb) =>
      let ipState := ipState + 1
      let w := { w with ipDb := ipDb }.emit (.failure clientIp)
      if failedChallenge.failToleranceThreshold.toUInt64 ≤ ipState then
        let w := w.emit (.ban clientIp (banningReason failedChallenge parts ipState))
        (true, { w with ipDb := (w.ipDb.dropIp clientIp).2 })
      else (false, { w with ipDb := (w.ipDb.setIpState clientIp ipState).2 })

/-- `report_success`. -/
def reportSuccess (clientIp : Bytes) (w : World) : World :=
  { w with ipDb := (w.ipDb.setIpState clientIp 1).2 }.emit (.success clientIp)

/-- Whatever the mutex does, a failure is logged as such, perhaps with a ban, or not
at all. -/
theorem reportFailure_log_extends (challenge : HostChallengeSpec) (parts : TransactionParts)
    (w : World) :
    ∃ es, (reportFailure challenge parts w).2.log = w.log ++ es ∧
      ∀ e ∈ es, e = .failure parts.ip.str ∨ ∃ reason, e = .ban parts.ip.str reason := by
  rw [reportFailure]
  obtain ⟨state, ipDb, hget⟩ : ∃ state ipDb, w.ipDb.getIpState parts.ip.str = (state, ipDb) :=
    ⟨_, _, rfl⟩
  rw [hget]
  cases state with
  | none => exact ⟨[], (List.append_nil _).symm, by simp⟩
  | some ipState =>
      dsimp only
      split
      · exact ⟨[_, _], List.append_assoc .., by simp⟩
      · exact ⟨[_], rfl, by simp⟩

/-! ## What they do when every mutex is free -/

/-- The failure record of an address. -/
def World.record (w : World) (ip : Bytes) : UInt64 := w.ipDb.stateOf ip

/-- A challenge bans at this record. -/
def HostChallengeSpec.bansAt (challenge : HostChallengeSpec) (record : UInt64) : Prop :=
  challenge.failToleranceThreshold.toUInt64 ≤ record + 1

instance (challenge : HostChallengeSpec) (record : UInt64) : Decidable (challenge.bansAt record) :=
  inferInstanceAs (Decidable (_ ≤ _))

section Acquired

variable {w : World} (h : w.ipDb.AllAcquired)

include h

theorem reportFailure_fst (challenge : HostChallengeSpec) (parts : TransactionParts) :
    (reportFailure challenge parts w).1 = decide (challenge.bansAt (w.record parts.ip.str)) := by
  rw [reportFailure, IpDb.getIpState_acquired h]
  dsimp only
  split
  · next hb => exact (decide_eq_true hb).symm
  · next hb => exact (decide_eq_false hb).symm

theorem reportFailure_log (challenge : HostChallengeSpec) (parts : TransactionParts) :
    (reportFailure challenge parts w).2.log = w.log ++
      if challenge.bansAt (w.record parts.ip.str) then
        [.failure parts.ip.str, .ban parts.ip.str
          (banningReason challenge parts (w.record parts.ip.str + 1))]
      else [.failure parts.ip.str] := by
  rw [reportFailure, IpDb.getIpState_acquired h]
  dsimp only
  split
  · next hb =>
    rw [if_pos (show challenge.bansAt (w.record parts.ip.str) from hb)]
    simp [World.record]
  · next hb =>
    rw [if_neg (show ¬ challenge.bansAt (w.record parts.ip.str) from hb)]
    rfl

theorem reportFailure_acquired (challenge : HostChallengeSpec) (parts : TransactionParts) :
    (reportFailure challenge parts w).2.ipDb.AllAcquired := by
  rw [reportFailure, IpDb.getIpState_acquired h]
  dsimp only
  split
  · exact h.tried.dropIp _
  · exact h.tried.setIpState _ _

theorem reportFailure_record (challenge : HostChallengeSpec) (parts : TransactionParts)
    (ip : Bytes) :
    (reportFailure challenge parts w).2.record ip =
      if ip = parts.ip.str then
        if challenge.bansAt (w.record ip) then 0 else w.record ip + 1
      else w.record ip := by
  rw [reportFailure, IpDb.getIpState_acquired h]
  dsimp only
  split
  · next hb =>
    refine (IpDb.stateOf_dropIp h.tried _ _).trans ?_
    by_cases hip : ip = parts.ip.str
    · subst hip
      rw [if_pos rfl, if_pos rfl, if_pos (show challenge.bansAt (w.record parts.ip.str) from hb)]
      rfl
    · rw [if_neg hip, if_neg hip]
      rfl
  · next hb =>
    refine (IpDb.stateOf_setIpState h.tried _ _ _).trans ?_
    by_cases hip : ip = parts.ip.str
    · subst hip
      rw [if_pos rfl, if_pos rfl, if_neg (show ¬ challenge.bansAt (w.record parts.ip.str) from hb)]
      rfl
    · rw [if_neg hip, if_neg hip]
      rfl

theorem reportSuccess_acquired (ip : Bytes) : (reportSuccess ip w).ipDb.AllAcquired :=
  h.setIpState ip 1

theorem reportSuccess_record (ip ip' : Bytes) :
    (reportSuccess ip w).record ip' = if ip' = ip then 1 else w.record ip' :=
  IpDb.stateOf_setIpState h ip ip' 1

end Acquired

@[simp] theorem reportSuccess_log (ip : Bytes) (w : World) :
    (reportSuccess ip w).log = w.log ++ [.success ip] := rfl

/-- A record below the largest one does not overflow when it is raised. -/
theorem toNat_raise {record : UInt64} (h : record.toNat < 2 ^ 64 - 1) :
    (record + 1).toNat = record.toNat + 1 := by
  rw [UInt64.toNat_add, UInt64.toNat_one]
  omega

theorem bansAt_iff (challenge : HostChallengeSpec) {record : UInt64}
    (h : record.toNat < 2 ^ 64 - 1) :
    challenge.bansAt record ↔ challenge.failToleranceThreshold.toNat ≤ record.toNat + 1 := by
  rw [HostChallengeSpec.bansAt, UInt64.le_iff_toNat_le, toNat_raise h, UInt32.toNat_toUInt64]

/-! ## Reading the log -/

namespace Event

/-- The event is a ban of the address. -/
def isBanOf (ip : Bytes) : Event → Bool
  | .ban ip' _ => ip' = ip
  | _ => false

/-- The event is a success of the address. -/
def isSuccessOf (ip : Bytes) : Event → Bool
  | .success ip' => ip' = ip
  | _ => false

end Event

/-- The failures of the address since the last event that resets the count. -/
def failuresSince (ip : Bytes) (resets : Event → Bool) (log : List Event) : Nat :=
  log.foldl (fun n e => if e = .failure ip then n + 1 else if resets e then 0 else n) 0

@[simp] theorem failuresSince_snoc (ip : Bytes) (resets : Event → Bool) (log : List Event)
    (e : Event) :
    failuresSince ip resets (log ++ [e]) =
      if e = .failure ip then failuresSince ip resets log + 1
      else if resets e then 0 else failuresSince ip resets log := by
  rw [failuresSince, List.foldl_append]
  rfl

theorem World.Quiet.record {w w' : World} (h : w.Quiet w') (ip : Bytes) :
    w'.record ip = w.record ip := by
  rw [World.record, World.record, IpDb.stateOf, IpDb.stateOf, h.db]

end Banjax
