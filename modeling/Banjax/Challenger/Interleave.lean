import Banjax.Challenger.Failures
import Banjax.Lib.Race

/-!
# Concurrent failures

`report_failure` is not one step.  It reads the record under the mutex, lets the mutex
go, and later writes the record or drops it under the mutex again.  `callStep` is one
of these two halves, and `reportFailure_eq_steps` says that they make up the whole.

The calls of several transactions may take their steps in any order.  Below the
threshold they are the parties of `Lib.Race` at one counter (`run_simulates_race`),
so all failures are counted exactly when no call steps between the two steps of
another.
-/

namespace Banjax

open Lib

/-! ## The steps of a call -/

/-- How far a call of `report_failure` is. -/
inductive CallPhase where
  | entered
  /-- The record has been read and raised. -/
  | raised (ipState : UInt64)
  | returned (banned : Bool)
deriving DecidableEq, Repr

namespace Challenger

/-- One step of a call: up to the end of `get_ip_state`, or from there to the end. -/
def callStep (failedChallenge : HostChallengeSpec) (clientIp : Bytes) :
    CallPhase → IpDb UInt64 → CallPhase × IpDb UInt64
  | .entered, ipDb =>
      match ipDb.getIpState clientIp with
      | (none, ipDb) => (.returned false, ipDb)
      | (some ipState, ipDb) => (.raised (ipState + 1), ipDb)
  | .raised ipState, ipDb =>
      if failedChallenge.failToleranceThreshold.toUInt64 ≤ ipState then
        (.returned true, (ipDb.dropIp clientIp).2)
      else (.returned false, (ipDb.setIpState clientIp ipState).2)
  | .returned banned, ipDb => (.returned banned, ipDb)

/-- A call that is not interrupted takes its two steps. -/
theorem reportFailure_eq_steps (challenge : HostChallengeSpec) (parts : TransactionParts)
    (w : World) :
    let (phase, ipDb) := callStep challenge parts.ip.str .entered w.ipDb
    callStep challenge parts.ip.str phase ipDb =
      (.returned (reportFailure challenge parts w).1,
        (reportFailure challenge parts w).2.ipDb) := by
  rw [callStep, reportFailure]
  obtain ⟨state, ipDb, hget⟩ : ∃ state ipDb, w.ipDb.getIpState parts.ip.str = (state, ipDb) :=
    ⟨_, _, rfl⟩
  rw [hget]
  cases state with
  | none => rfl
  | some ipState =>
      dsimp only
      rw [callStep]
      split <;> rfl

/-! ## Interleavings -/

variable {k : Nat}

/-- The database, and the calls that work on it. -/
structure Calls (k : Nat) where
  ipDb : IpDb UInt64
  phase : Fin k → CallPhase

/-- One step of one call. -/
def Calls.step (challenge : HostChallengeSpec) (ip : Bytes) (s : Calls k) (i : Fin k) : Calls k :=
  let (phase, ipDb) := callStep challenge ip (s.phase i) s.ipDb
  ⟨ipDb, Function.update s.phase i phase⟩

/-- The calls after a schedule. -/
def Calls.run (challenge : HostChallengeSpec) (ip : Bytes) (ipDb : IpDb UInt64)
    (schedule : List (Fin k)) : Calls k :=
  schedule.foldl (Calls.step challenge ip) ⟨ipDb, fun _ => .entered⟩

theorem Calls.run_snoc (challenge : HostChallengeSpec) (ip : Bytes) (ipDb : IpDb UInt64)
    (schedule : List (Fin k)) (i : Fin k) :
    Calls.run challenge ip ipDb (schedule ++ [i]) =
      Calls.step challenge ip (Calls.run challenge ip ipDb schedule) i := by
  rw [Calls.run, List.foldl_append]
  rfl

/-- The phase of a call is that of a party. -/
inductive PhaseMatches : CallPhase → Race.Phase → Prop where
  | fresh : PhaseMatches .entered .fresh
  | holding {ipState : UInt64} {n : Nat} : ipState.toNat = n + 1 →
      PhaseMatches (.raised ipState) (.holding n)
  | finished {banned : Bool} : PhaseMatches (.returned banned) .finished

/-- The record is the counter and the calls are the parties. -/
structure Matches (ip : Bytes) (s : Calls k) (r : Race.State (Fin k)) : Prop where
  acquired : s.ipDb.AllAcquired
  record : (s.ipDb.stateOf ip).toNat = r.value
  phases : ∀ i, PhaseMatches (s.phase i) (r.phase i)

/-- Below the threshold a step of a call is a step of a party. -/
theorem Matches.step {challenge : HostChallengeSpec} {ip : Bytes} {s : Calls k}
    {r : Race.State (Fin k)} (h : Matches ip s r) (i : Fin k)
    (hvalue : r.value < challenge.failToleranceThreshold.toNat)
    (hheld : ∀ n, r.phase i = .holding n → n + 1 < challenge.failToleranceThreshold.toNat) :
    Matches ip (s.step challenge ip i) (Race.step r i) := by
  have hthreshold := challenge.failToleranceThreshold.toNat_lt
  -- The phases after the step, when the party of the call has followed it.
  have hothers : ∀ {p : CallPhase} {q : Race.Phase}, PhaseMatches p q →
      ∀ j, PhaseMatches (Function.update s.phase i p j) (Function.update r.phase i q j) := by
    intro p q hpq j
    by_cases hj : j = i
    · subst hj
      simpa using hpq
    · simpa [hj] using h.phases j
  obtain ⟨p, hp⟩ : ∃ p, s.phase i = p := ⟨_, rfl⟩
  obtain ⟨q, hq⟩ : ∃ q, r.phase i = q := ⟨_, rfl⟩
  have hphase := h.phases i
  rw [hp, hq] at hphase
  rw [Calls.step, hp]
  cases hphase with
  | fresh =>
      rw [Race.step_fresh hq, callStep, IpDb.getIpState_acquired h.acquired]
      have hraise : (s.ipDb.stateOf ip + 1).toNat = r.value + 1 := by
        rw [toNat_raise (by rw [h.record]; omega), h.record]
      exact ⟨h.acquired.tried, h.record, hothers (.holding hraise)⟩
  | @holding ipState n hstate =>
      have hn := hheld n hq
      have hbelow : ¬ challenge.failToleranceThreshold.toUInt64 ≤ ipState := by
        rw [UInt64.le_iff_toNat_le, UInt32.toNat_toUInt64]
        omega
      rw [Race.step_holding hq, callStep, if_neg hbelow]
      refine ⟨h.acquired.setIpState ip ipState, ?_, hothers .finished⟩
      rw [IpDb.stateOf_setIpState h.acquired, if_pos rfl, hstate]
  | @finished banned =>
      rw [Race.step_finished hq, callStep]
      dsimp only
      rw [← hp, Function.update_eq_self]
      exact h

/-- A schedule of calls that stay below the threshold is a schedule of parties. -/
theorem run_simulates_race (challenge : HostChallengeSpec) (ip : Bytes) {ipDb : IpDb UInt64}
    (hacq : ipDb.AllAcquired) (schedule : List (Fin k))
    (hbelow : (ipDb.stateOf ip).toNat + (schedule.length + 1) / 2 <
      challenge.failToleranceThreshold.toNat) :
    Matches ip (Calls.run challenge ip ipDb schedule)
      (Race.run (ipDb.stateOf ip).toNat schedule) := by
  induction schedule using List.reverseRecOn with
  | nil => exact ⟨hacq, rfl, fun _ => .fresh⟩
  | append_singleton schedule i ih =>
      rw [List.length_append, List.length_singleton] at hbelow
      obtain ⟨hvalue, hheld⟩ := Race.value_le (ipDb.stateOf ip).toNat schedule
      rw [Calls.run_snoc, Race.run_snoc]
      refine (ih (by omega)).step i (by omega) ?_
      intro n hn
      have := hheld i n hn
      omega

/-- Concurrent calls of `report_failure` count every failure exactly when none of them
is interrupted by another.  There are `k` calls for one address, every one of them
takes its two steps, and all of them together stay below the threshold. -/
theorem concurrent_failures (challenge : HostChallengeSpec) (ip : Bytes) (ipDb : IpDb UInt64)
    (hacq : ipDb.AllAcquired) (schedule : List (Fin k)) (hsteps : ∀ i, schedule.count i = 2)
    (hbelow : (ipDb.stateOf ip).toNat + k < challenge.failToleranceThreshold.toNat) :
    ((Calls.run challenge ip ipDb schedule).ipDb.stateOf ip).toNat =
        (ipDb.stateOf ip).toNat + k ↔ Race.Serial schedule := by
  have hcomplete : Race.Complete schedule := fun i _ => hsteps i
  have hlen : schedule.length = 2 * k := by
    have hall : schedule.toFinset = Finset.univ := by
      rw [Finset.eq_univ_iff_forall]
      intro i
      rw [List.mem_toFinset, ← List.count_pos_iff, hsteps]
      omega
    rw [hcomplete.length_eq, hall, Finset.card_univ, Fintype.card_fin]
  have hmatch := run_simulates_race challenge ip hacq schedule (by omega)
  rw [hmatch.record, ← Race.value_eq_iff_serial _ hcomplete, hlen,
    Nat.mul_div_cancel_left k (by omega)]

/-- Two calls, one after the other. -/
theorem concurrent_failures_serial :
    ((Calls.run (sampleCaptcha 5) (bytes "10.0.0.1") .empty [(1 : Fin 2), 1, 0, 0]).ipDb.stateOf
      (bytes "10.0.0.1")).toNat = 0 + 2 :=
  (concurrent_failures (sampleCaptcha 5) (bytes "10.0.0.1") .empty IpDb.empty_allAcquired
    [(1 : Fin 2), 1, 0, 0] (by decide) (by decide)).mpr ⟨[1, 0], rfl⟩

/-- Two calls that both read before either writes: one failure is lost. -/
theorem concurrent_failures_lost :
    (∀ i : Fin 2, [(0 : Fin 2), 1, 0, 1].count i = 2) ∧
      0 + 2 < (sampleCaptcha 5).failToleranceThreshold.toNat ∧
      ((Calls.run (sampleCaptcha 5) (bytes "10.0.0.1") .empty
        [(0 : Fin 2), 1, 0, 1]).ipDb.stateOf (bytes "10.0.0.1")).toNat = 1 := by
  refine ⟨by decide, by decide, ?_⟩
  decide +kernel

end Challenger

end Banjax
