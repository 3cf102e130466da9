import Banjax.Swabber.Defs

/-!
# The grace period over whole runs

Requests to ban addresses, one after the other, in which every lock and every bind
may fail.  A flag that is found was set by an earlier request for the same address
(`storedBy_of_flagOf`), so a message is published only when such a request is a
grace period old.  A request that publishes nothing takes no flag back and moves
none, so asking again does not start the period anew.

The socket may be released at any point of the run.
-/

namespace Banjax

open Lib

/-- A call of the swabber. -/
inductive SwabberCall where
  | ban (e : BanEnv) (ip reason : Bytes)
  | releaseSocket

namespace Swabber

variable (S : Swabber)

/-- The state after a call. -/
def call (s : SwabberState) : SwabberCall → SwabberState
  | .ban e ip reason => S.ban e ip reason s
  | .releaseSocket => (releaseSocket s).2

/-- The state after a run of calls. -/
def runCalls (s : SwabberState) (calls : List SwabberCall) : SwabberState := calls.foldl S.call s

theorem runCalls_snoc (s : SwabberState) (calls : List SwabberCall) (x : SwabberCall) :
    S.runCalls s (calls ++ [x]) = S.call (S.runCalls s calls) x := by
  rw [runCalls, List.foldl_append]
  rfl

/-- A request of the run for this address found it without a flag and stored one. -/
def StoredBy (s : SwabberState) (calls : List SwabberCall) (ip : Bytes) (flag : Int) : Prop :=
  ∃ (earlier later : List SwabberCall) (e : BanEnv) (reason : Bytes),
    calls = earlier ++ .ban e ip reason :: later ∧ e.now = flag ∧
      (S.runCalls s earlier).flagOf ip = 0 ∧
      (S.runCalls s (earlier ++ [.ban e ip reason])).flagOf ip = flag

/-! ## What a request does to the flags -/

section Flags

variable {S} {e : BanEnv} {ip : Bytes} {s s' : SwabberState}

/-- No request changes the flag of another address. -/
theorem BanCases.other (h : S.BanCases e ip s s') {ip' : Bytes} (hne : ip' ≠ ip) :
    s'.flagOf ip' = s.flagOf ip' := by
  cases h with
  | kept hdb _ => exact IpDb.stateOf_congr hdb ip'
  | flagged _ hdb _ => exact (IpDb.stateOf_of_insert hdb ip').trans (if_neg hne)
  | published _ _ hdb _ =>
      rcases hdb with hdb | hdb
      · exact IpDb.stateOf_congr hdb ip'
      · exact (IpDb.stateOf_of_erase hdb ip').trans (if_neg hne)

/-- A request that publishes nothing leaves every flag as it is. -/
theorem BanCases.unpublished (h : S.BanCases e ip s s') (hsent : s'.sent = s.sent) {ip' : Bytes}
    (hflag : s.flagOf ip' ≠ 0) : s'.flagOf ip' = s.flagOf ip' := by
  cases h with
  | kept hdb _ => exact IpDb.stateOf_congr hdb ip'
  | flagged hzero hdb _ =>
      have hne : ip' ≠ ip := by
        rintro rfl
        exact hflag hzero
      exact (IpDb.stateOf_of_insert hdb ip').trans (if_neg hne)
  | published _ _ _ hpub => simp [hpub] at hsent

/-- What a request leaves of the flag of its address: the old one, none, or a new
one where there was none. -/
theorem BanCases.same (h : S.BanCases e ip s s') :
    s'.flagOf ip = s.flagOf ip ∨ s'.flagOf ip = 0 ∨ s.flagOf ip = 0 ∧ s'.flagOf ip = e.now := by
  cases h with
  | kept hdb _ => exact .inl (IpDb.stateOf_congr hdb ip)
  | flagged hzero hdb _ =>
      exact .inr (.inr ⟨hzero, (IpDb.stateOf_of_insert hdb ip).trans (if_pos rfl)⟩)
  | published _ _ hdb _ =>
      rcases hdb with hdb | hdb
      · exact .inl (IpDb.stateOf_congr hdb ip)
      · exact .inr (.inl ((IpDb.stateOf_of_erase hdb ip).trans (if_pos rfl)))

end Flags

/-! ## Whole runs -/

theorem StoredBy.snoc {S : Swabber} {s : SwabberState} {calls : List SwabberCall} {ip : Bytes}
    {flag : Int} (h : S.StoredBy s calls ip flag) (x : SwabberCall) :
    S.StoredBy s (calls ++ [x]) ip flag := by
  obtain ⟨earlier, later, e, reason, rfl, hnow, hbefore, hafter⟩ := h
  exact ⟨earlier, later ++ [x], e, reason, by simp, hnow, hbefore, hafter⟩

/-- Every flag that a run leaves was stored by a request of the run. -/
theorem storedBy_of_flagOf (hgrace : 0 < S.gracePeriod) (s : SwabberState)
    (hempty : s.ipDb.db = ∅) (calls : List SwabberCall) (ip : Bytes)
    (hflag : (S.runCalls s calls).flagOf ip ≠ 0) :
    S.StoredBy s calls ip ((S.runCalls s calls).flagOf ip) := by
  induction calls using List.reverseRecOn with
  | nil =>
      have hzero : s.flagOf ip = 0 := by
        rw [SwabberState.flagOf, IpDb.stateOf, hempty]
        rfl
      exact absurd hzero hflag
  | append_singleton calls x ih =>
      rw [runCalls_snoc] at hflag ⊢
      cases x with
      | releaseSocket => exact (ih hflag).snoc _
      | ban e ip' reason =>
          have hcases := S.ban_cases hgrace e ip' reason (S.runCalls s calls)
          -- The flag was there before the last request, or the last request stored it.
          by_cases hip : ip = ip'
          · subst hip
            rcases hcases.same with hsame | hnone | ⟨hzero, hnew⟩
            · rw [call, hsame] at hflag ⊢
              exact (ih hflag).snoc _
            · exact absurd hnone hflag
            · exact ⟨calls, [], e, reason, rfl, hnew.symm, hzero, by rw [runCalls_snoc]⟩
          · rw [call, hcases.other hip] at hflag ⊢
            exact (ih hflag).snoc _

/-- The safety of the grace period.  In every run of requests, whatever the locks and
the socket do: a message is published for the address that was asked for, and only
when the flag stored by an earlier request for this address is still there and a
grace period old; a request that publishes nothing leaves all flags as they are; and
no request touches the flag of another address. -/
theorem grace_safety (hgrace : 0 < S.gracePeriod) (s₀ : SwabberState)
    (hempty : s₀.ipDb.db = ∅) (calls : List SwabberCall) (e : BanEnv) (ip reason : Bytes) :
    let s := S.runCalls s₀ calls
    let s' := S.ban e ip reason s
    (s'.sent ≠ s.sent → s'.sent = s.sent ++ [(swabberBan, ip)] ∧
      ∃ flag, S.StoredBy s₀ calls ip flag ∧ s.flagOf ip = flag ∧ flag ≠ 0 ∧
        S.gracePeriod ≤ e.now - flag) ∧
    (s'.sent = s.sent → ∀ ip', s.flagOf ip' ≠ 0 → s'.flagOf ip' = s.flagOf ip') ∧
    (∀ ip', ip' ≠ ip → s'.flagOf ip' = s.flagOf ip') := by
  intro s s'
  have hcases : S.BanCases e ip s s' := S.ban_cases hgrace e ip reason s
  refine ⟨?_, ?_, ?_⟩
  · intro hsent
    cases hcases with
    | kept _ h => exact absurd h hsent
    | flagged _ _ h => exact absurd h hsent
    | published hflag hover _ h =>
        exact ⟨h, s.flagOf ip, S.storedBy_of_flagOf hgrace s₀ hempty calls ip hflag, rfl, hflag,
          hover⟩
  · intro hsent ip' hflag
    exact hcases.unpublished hsent hflag
  · intro ip' hne
    exact hcases.other hne

/-- A swabber with a grace period of ten seconds. -/
def sampleSwabber : Swabber where
  gracePeriod := 10
  localEndpoint := bytes "tcp://*:22620"

/-- No flags, a free database and a bound socket. -/
def sampleState : SwabberState where
  ipDb := .empty
  socket := some ⟨bytes "tcp://*:22620"⟩

/-- The third request publishes, on the flag of the first one. -/
theorem grace_safety_third :
    ∃ flag, sampleSwabber.StoredBy sampleState
      [.ban { now := 100 } (bytes "10.0.0.1") [], .ban { now := 105 } (bytes "10.0.0.1") []]
      (bytes "10.0.0.1") flag ∧ flag ≠ 0 ∧ sampleSwabber.gracePeriod ≤ 110 - flag := by
  have h := sampleSwabber.grace_safety (by decide) sampleState rfl
    [.ban { now := 100 } (bytes "10.0.0.1") [], .ban { now := 105 } (bytes "10.0.0.1") []]
    { now := 110 } (bytes "10.0.0.1") []
  obtain ⟨-, flag, hstored, -, hne, hover⟩ := h.1 (by decide +kernel)
  exact ⟨flag, hstored, hne, hover⟩

end Swabber

end Banjax
