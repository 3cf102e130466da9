import Banjax.Challenger.Failures

/-!
# Runs of the failure record

Sequences of `report_failure` and `report_success` calls for any addresses, with
every mutex free.  The calls of one address are the marks of a `Tally` that is
cleared to one, and the record and the log follow that tally whatever the other
addresses do (`run_simulates`).

The documentation of `report_success` says that a success wipes the record.  A
record that is wiped bans at the failure number `N` after it, the record of the
code one failure earlier.  `bans_exactly_iff` says on which runs this shows.
-/

namespace Banjax

open Lib

/-- A call on the failure record. -/
inductive Call where
  | failure (failedChallenge : HostChallengeSpec) (parts : TransactionParts)
  | success (clientIp : Bytes)

namespace Call

/-- The world after the call. -/
def perform (w : World) : Call → World
  | .failure failedChallenge parts => (reportFailure failedChallenge parts w).2
  | .success clientIp => reportSuccess clientIp w

/-- What the call is for the record of an address. -/
def mark (ip : Bytes) : Call → Option Mark
  | .failure _ parts => if parts.ip.str = ip then some .fail else none
  | .success clientIp => if clientIp = ip then some .clear else none

/-- A failure of the address is one of a challenge with the threshold. -/
def HasThreshold (ip : Bytes) (N : Nat) : Call → Prop
  | .failure failedChallenge parts =>
      parts.ip.str = ip → failedChallenge.failToleranceThreshold.toNat = N
  | .success _ => True

end Call

/-- The world after a run of calls. -/
def afterCalls (xs : List Call) : World := xs.foldl Call.perform World.init

@[simp] theorem afterCalls_snoc (xs : List Call) (x : Call) :
    afterCalls (xs ++ [x]) = x.perform (afterCalls xs) := by
  rw [afterCalls, List.foldl_append]
  rfl

/-- The marks of an address in a run. -/
def marksOf (ip : Bytes) (xs : List Call) : List Mark := xs.filterMap (Call.mark ip)

theorem marksOf_snoc (ip : Bytes) (xs : List Call) (x : Call) :
    marksOf ip (xs ++ [x]) = marksOf ip xs ++ (x.mark ip).toList := by
  rw [marksOf, List.filterMap_append]
  cases h : x.mark ip <;> simp [marksOf, h]

/-- The events that start the count of an address anew. -/
def restarts (ip : Bytes) (e : Event) : Bool := e.isBanOf ip || e.isSuccessOf ip

/-! ## The record follows the tally -/

/-- The record and the log of the address are those of the tally. -/
structure Simulates (ip : Bytes) (s : Tally) (w : World) : Prop where
  acquired : w.ipDb.AllAcquired
  record : (w.record ip).toNat = s.count
  log : failuresSince ip (restarts ip) w.log = s.elapsed

/-- A failure of another address leaves the tally alone. -/
theorem simulates_other_failure {ip : Bytes} {s : Tally} {w : World} (h : Simulates ip s w)
    {challenge : HostChallengeSpec} {parts : TransactionParts} (hip : parts.ip.str ≠ ip) :
    Simulates ip s (reportFailure challenge parts w).2 := by
  refine ⟨reportFailure_acquired h.acquired _ _, ?_, ?_⟩
  · rw [reportFailure_record h.acquired, if_neg (Ne.symm hip)]
    exact h.record
  · rw [reportFailure_log h.acquired]
    split
    · rw [List.append_cons, failuresSince_snoc]
      simpa [restarts, Event.isBanOf, Event.isSuccessOf, hip] using h.log
    · simpa [restarts, Event.isBanOf, Event.isSuccessOf, hip] using h.log

theorem simulates_other_success {ip ip' : Bytes} {s : Tally} {w : World} (h : Simulates ip s w)
    (hip : ip' ≠ ip) : Simulates ip s (reportSuccess ip' w) := by
  refine ⟨reportSuccess_acquired h.acquired _, ?_, ?_⟩
  · rw [reportSuccess_record h.acquired, if_neg (Ne.symm hip)]
    exact h.record
  · simpa [restarts, Event.isBanOf, Event.isSuccessOf, hip] using h.log

/-- A success clears the tally to one. -/
theorem simulates_success {ip : Bytes} {s : Tally} {w : World} (N : Nat) (h : Simulates ip s w) :
    Simulates ip (s.next N 1 .clear) (reportSuccess ip w) := by
  refine ⟨reportSuccess_acquired h.acquired _, ?_, ?_⟩
  · rw [reportSuccess_record h.acquired, if_pos rfl]
    rfl
  · simp [restarts, Event.isBanOf, Event.isSuccessOf, Tally.next]

/-- Under the tally the record is far from overflow, and a failure bans when the
tally fires. -/
theorem bansAt_iff_fires {ip : Bytes} {s : Tally} {w : World} {N : Nat} (h : Simulates ip s w)
    (hs : s.count ≤ max 1 (N - 1)) {challenge : HostChallengeSpec}
    (hN : challenge.failToleranceThreshold.toNat = N) :
    challenge.bansAt (w.record ip) ↔ N ≤ s.count + 1 := by
  have hlt := challenge.failToleranceThreshold.toNat_lt
  rw [bansAt_iff challenge (by rw [h.record]; omega), h.record, hN]

theorem simulates_failure {s : Tally} {w : World} {N : Nat} {challenge : HostChallengeSpec}
    {parts : TransactionParts} (h : Simulates parts.ip.str s w) (hs : s.count ≤ max 1 (N - 1))
    (hN : challenge.failToleranceThreshold.toNat = N) :
    Simulates parts.ip.str (s.next N 1 .fail) (reportFailure challenge parts w).2 := by
  have hfires := bansAt_iff_fires h hs hN
  have hlt := challenge.failToleranceThreshold.toNat_lt
  refine ⟨reportFailure_acquired h.acquired _ _, ?_, ?_⟩
  · rw [reportFailure_record h.acquired, if_pos rfl, Tally.next]
    split
    · next hb =>
      rw [if_pos (hfires.mp hb)]
      rfl
    · next hb =>
      rw [if_neg fun hc => hb (hfires.mpr hc), toNat_raise (by rw [h.record]; omega), h.record]
  · rw [reportFailure_log h.acquired, Tally.next]
    split
    · next hb =>
      rw [if_pos (hfires.mp hb), List.append_cons, failuresSince_snoc]
      simp [restarts, Event.isBanOf]
    · next hb =>
      rw [if_neg fun hc => hb (hfires.mpr hc)]
      simp [h.log]

/-- Along a run the record of an address follows the tally of its own marks. -/
theorem run_simulates {ip : Bytes} {N : Nat} (hN : 1 ≤ N) (xs : List Call)
    (hxs : ∀ x ∈ xs, x.HasThreshold ip N) :
    Simulates ip (Tally.run N 1 (marksOf ip xs)) (afterCalls xs) := by
  induction xs using List.reverseRecOn with
  | nil => exact ⟨IpDb.empty_allAcquired, rfl, rfl⟩
  | append_singleton xs x ih =>
      have hsim := ih fun y hy => hxs y (List.mem_append_left _ hy)
      have hx := hxs x (by simp)
      rw [afterCalls_snoc, marksOf_snoc]
      cases x with
      | failure challenge parts =>
          by_cases hip : parts.ip.str = ip
          · subst hip
            have hcount := Tally.count_le (r := 1) hN (marksOf parts.ip.str xs)
            rw [Call.mark, if_pos rfl, Option.toList_some, Tally.run_snoc]
            exact simulates_failure hsim hcount (hx rfl)
          · rw [Call.mark, if_neg hip, Option.toList_none, List.append_nil]
            exact simulates_other_failure hsim hip
      | success ip' =>
          by_cases hip : ip' = ip
          · subst hip
            rw [Call.mark, if_pos rfl, Option.toList_some, Tally.run_snoc]
            exact simulates_success N hsim
          · rw [Call.mark, if_neg hip, Option.toList_none, List.append_nil]
            exact simulates_other_success hsim hip

/-! ## Bans -/

/-- The calls between the two worlds have asked for a ban of the address. -/
def AsksBan (ip : Bytes) (w w' : World) : Prop :=
  ∃ reason, Event.ban ip reason ∈ w'.log.drop w.log.length

/-- A failure returns true and asks for a ban when the tally fires. -/
theorem reportFailure_bans_iff {s : Tally} {w : World} {N : Nat} {challenge : HostChallengeSpec}
    {parts : TransactionParts} (h : Simulates parts.ip.str s w) (hs : s.count ≤ max 1 (N - 1))
    (hN : challenge.failToleranceThreshold.toNat = N) :
    ((reportFailure challenge parts w).1 = true ↔ N ≤ s.count + 1) ∧
      (AsksBan parts.ip.str w (reportFailure challenge parts w).2 ↔ N ≤ s.count + 1) := by
  rw [reportFailure_fst h.acquired, AsksBan, reportFailure_log h.acquired, List.drop_left,
    ← bansAt_iff_fires h hs hN]
  by_cases hb : challenge.bansAt (w.record parts.ip.str)
  · simp [hb]
  · simp [hb]

/-- Every failure of the address in the run returns true and asks for a ban exactly
when it is the failure number `N` since the start, the last success or the last ban
of the address. -/
def BansExactly (ip : Bytes) (N : Nat) (xs : List Call) : Prop :=
  ∀ ys challenge parts zs, xs = ys ++ .failure challenge parts :: zs → parts.ip.str = ip →
    let w := afterCalls ys
    let out := reportFailure challenge parts w
    let isLast := failuresSince ip (restarts ip) w.log + 1 = N
    (out.1 = true ↔ isLast) ∧ (AsksBan ip w out.2 ↔ isLast)

theorem bansExactly_iff_exact {ip : Bytes} {N : Nat} (hN : 1 ≤ N) (xs : List Call)
    (hxs : ∀ x ∈ xs, x.HasThreshold ip N) :
    BansExactly ip N xs ↔ Tally.Exact N 1 (marksOf ip xs) := by
  -- What both sides say of one failure of the address.
  have one : ∀ ys challenge parts zs, xs = ys ++ .failure challenge parts :: zs →
      parts.ip.str = ip →
      (((reportFailure challenge parts (afterCalls ys)).1 = true ↔
          N ≤ (Tally.run N 1 (marksOf ip ys)).count + 1) ∧
        (AsksBan ip (afterCalls ys) (reportFailure challenge parts (afterCalls ys)).2 ↔
          N ≤ (Tally.run N 1 (marksOf ip ys)).count + 1)) ∧
      failuresSince ip (restarts ip) (afterCalls ys).log =
        (Tally.run N 1 (marksOf ip ys)).elapsed := by
    intro ys challenge parts zs hcut hip
    subst hcut hip
    have hsim := run_simulates hN ys fun x hx => hxs x (by simp [hx])
    have hthr : challenge.failToleranceThreshold.toNat = N :=
      hxs (.failure challenge parts) (by simp) rfl
    exact ⟨reportFailure_bans_iff hsim (Tally.count_le hN _) hthr, hsim.log⟩
  constructor
  · intro h us vs hcut
    -- A cut of the marks is a cut of the calls.
    obtain ⟨l₁, l₂, hl, rfl, h₂⟩ := List.filterMap_eq_append_iff.mp hcut
    obtain ⟨k₁, x, k₂, rfl, hnone, hx, rfl⟩ := List.filterMap_eq_cons_iff.mp h₂
    cases x with
    | success ip' =>
        rw [Call.mark] at hx
        split at hx <;> cases hx
    | failure challenge parts =>
        have hip : parts.ip.str = ip := by
          by_contra hne
          rw [Call.mark, if_neg hne] at hx
          cases hx
        have hcalls : xs = (l₁ ++ k₁) ++ .failure challenge parts :: k₂ := by
          rw [hl, List.append_assoc]
        have hmarks : marksOf ip (l₁ ++ k₁) = List.filterMap (Call.mark ip) l₁ := by
          rw [marksOf, List.filterMap_append, List.filterMap_eq_nil_iff.mpr hnone, List.append_nil]
        obtain ⟨⟨hret, _⟩, hlog⟩ := one _ _ _ _ hcalls hip
        have hexact := (h _ _ _ _ hcalls hip).1
        rw [hret, hlog, hmarks] at hexact
        exact hexact
  · intro h ys challenge parts zs hcut hip
    obtain ⟨⟨hret, hban⟩, hlog⟩ := one _ _ _ _ hcut hip
    have hexact := h (marksOf ip ys) (marksOf ip zs) (by
      rw [hcut, marksOf, List.filterMap_append, List.filterMap_cons, Call.mark, if_pos hip]
      rfl)
    dsimp only
    rw [hret, hban, hlog]
    exact ⟨hexact, hexact⟩

/-- The bans are those of a record that a success wipes exactly when the threshold
is one or the address has no success with `N - 1` failures right behind it. -/
theorem bans_exactly_iff {ip : Bytes} {N : Nat} (hN : 1 ≤ N) (xs : List Call)
    (hxs : ∀ x ∈ xs, x.HasThreshold ip N) :
    BansExactly ip N xs ↔
      N = 1 ∨ ¬ (Mark.clear :: List.replicate (N - 1) .fail) <:+: marksOf ip xs := by
  rw [bansExactly_iff_exact hN xs hxs, Tally.exact_iff hN]
  rcases Nat.lt_or_eq_of_le hN with hlt | rfl
  · have hreach : Tally.reach N 1 = N - 1 := max_eq_right (by omega)
    rw [hreach]
    constructor
    · rintro (h | h)
      · omega
      · exact Or.inr h
    · rintro (h | h)
      · omega
      · exact Or.inr h
  · exact iff_of_true (Or.inl rfl) (Or.inl rfl)

/-- Two failures of one address with a success of another between them. -/
theorem bans_exactly_two_failures :
    BansExactly (bytes "10.0.0.1") 2
        [.failure (sampleCaptcha 2) (sampleParts ⟨10, 0, 0, 1⟩ [] []), .success (bytes "10.0.0.2"),
          .failure (sampleCaptcha 2) (sampleParts ⟨10, 0, 0, 1⟩ [] [])] ↔
      2 = 1 ∨ ¬ (Mark.clear :: List.replicate (2 - 1) .fail) <:+: [.fail, .fail] :=
  bans_exactly_iff (by decide) _ (by simp [Call.HasThreshold, sampleCaptcha])

/-- With the threshold two, the first failure after a success is a ban. -/
theorem ban_at_first_failure :
    ¬ BansExactly (bytes "10.0.0.1") 2
      [.success (bytes "10.0.0.1"), .failure (sampleCaptcha 2) (sampleParts ⟨10, 0, 0, 1⟩ [] [])] := by
  intro h
  have hlast := (h [.success (bytes "10.0.0.1")] _ _ [] rfl (by decide)).1.mp (by decide +kernel)
  exact absurd hlast (by decide +kernel)

end Banjax
