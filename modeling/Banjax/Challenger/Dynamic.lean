import Banjax.Challenger.Parse
import Banjax.Lib.Expiry

/-!
# Challenges added by commands

`load_config` of the challenger, and the two tables that Kafka commands fill:
`load_single_host_challenge`, `load_single_ip_challenge` and `remove_expired_challenges`
of `challenger.cpp`.

A challenge remembers when it was made, which is when its command was processed.  The
seconds of `time_t` are integers.  The difference of two times is compared with
`dynamic_expiry_seconds`, an `unsigned int` that is widened to the signed type of the
difference.

Each table goes through the commands that concern it and the sweeps, one operation after
the other (`run_tables`).  It shows the times of `Lib.Expiry`, so what a sweep leaves is
what the last commands say (`dynamic_lifecycle`).
-/

namespace Banjax

open Lib

/-- A challenge with its `time_added`. -/
structure Dated where
  challenge : HostChallengeSpec
  timeAdded : Int
deriving DecidableEq

/-- The members of the challenger that the configuration and the commands write. -/
structure LiveChallenger where
  cfg : Node
  hashedKey : Vector UInt8 32
  numberOfTrailingZeros : UInt32
  hostChallengesStatic : Table (List HostChallengeSpec)
  dynamicExpirySeconds : UInt32
  hostToChallengeDynamic : Table Dated := ∅
  ipToChallengeDynamic : Table Dated := ∅

namespace ChallengeReader

variable (R : ChallengeReader)

/-! ## `load_config` -/

/-- The ways in which `load_config` does not return. -/
inductive LoadFailure where
  /-- The exception is thrown again. -/
  | thrown (error : ChallengeError)
  /-- `throw;` without an exception, which ends the program. -/
  | terminate

/-- An exception of the outer block of `load_config`. -/
def rethrow {α : Type} : Except ChallengeError α → Except LoadFailure α
  | .ok a => .ok a
  | .error e => .error (.thrown e)

/-- `operator[]` at a number. -/
def nth (i : Nat) : Node → Option Node
  | .sequence elements => elements[i]?
  | .map entries =>
      (entries.find? fun entry => (R.asUnsigned entry.1).map UInt32.toNat = some i).map Prod.snd
  | _ => none

/-- `host_challenges_static[cur_domain].push_back(...)`. -/
def pushBack (table : Table (List HostChallengeSpec)) (domain : Bytes) (spec : HostChallengeSpec) :
    Table (List HostChallengeSpec) :=
  table.insert domain ((table.lookup domain).getD [] ++ [spec])

/-- One entry of `challenges`. -/
def loadChallenge (table : Table (List HostChallengeSpec)) (ch : Option Node) :
    Except ChallengeError (Table (List HostChallengeSpec)) := do
  let spec ← R.parseSingleChallenge ch
  match ← lookup ch (bytes "domains") with
  | none => .error (.invalidNode (bytes "domains"))
  | some domains =>
      (List.range domains.size).foldlM (fun table i => do
        let domain ← text (bytes "domains") (R.nth i domains)
        return pushBack table domain spec) table

/-- The block of `load_config` about the commands.  A bad expiry, or a scalar in place of
`dynamic_challenger_config`, is passed over; `uninitialized` is what the member then
holds. -/
def loadDynamic (uninitialized : UInt32) (cfg : Node) : Except LoadFailure UInt32 :=
  match lookup (some cfg) (bytes "dynamic_expiry_seconds") >>=
      R.unsigned (bytes "dynamic_expiry_seconds") with
  | .error _ => .ok uninitialized
  | .ok expiry =>
      match field (some cfg) "dynamic_challenger_config" with
      | none => .error .terminate
      | some (.scalar _) => .ok expiry
      | some config =>
          if (field (some config) "challenge_type").isSome then .ok expiry else .error .terminate

/-- `load_config`. -/
def loadConfig (C : Crypto) (uninitialized : UInt32) (cfg : Node) :
    Except LoadFailure LiveChallenger := do
  let challenges ← rethrow (lookup (some cfg) (bytes "challenges"))
  let items := (challenges.map Node.items).getD []
  let table ← rethrow (items.foldlM R.loadChallenge (∅ : Table (List HostChallengeSpec)))
  let key ← rethrow (lookup (some cfg) (bytes "key") >>= text (bytes "key"))
  let zeros ← rethrow (lookup (some cfg) (bytes "difficulty") >>= R.unsigned (bytes "difficulty"))
  let expiry ← R.loadDynamic uninitialized cfg
  return {
    cfg := cfg
    hashedKey := C.sha256 key
    numberOfTrailingZeros := zeros
    hostChallengesStatic := table
    dynamicExpirySeconds := expiry }

end ChallengeReader

namespace LiveChallenger

/-! ## The commands and the sweep -/

/-- A command, or a call of `remove_expired_challenges`. -/
inductive Action where
  | challengeHost (domain : Bytes)
  | challengeIp (ip : Bytes)
  | removeExpired
deriving DecidableEq, Repr

variable (R : ChallengeReader)

/-- The challenge that the commands add. -/
def dynamicChallenge (M : LiveChallenger) : Except ChallengeError HostChallengeSpec := do
  R.parseSingleChallenge (← ChallengeReader.lookup (some M.cfg) (bytes "dynamic_challenger_config"))

/-- `load_single_host_challenge`. -/
def loadSingleHostChallenge (now : Int) (domain : Bytes) (M : LiveChallenger) :
    Except ChallengeError LiveChallenger := do
  let challengeSpec ← M.dynamicChallenge R
  return { M with
    hostToChallengeDynamic := M.hostToChallengeDynamic.insert domain ⟨challengeSpec, now⟩ }

/-- `load_single_ip_challenge`. -/
def loadSingleIpChallenge (now : Int) (ip : Bytes) (M : LiveChallenger) :
    Except ChallengeError LiveChallenger := do
  let challengeSpec ← M.dynamicChallenge R
  return { M with ipToChallengeDynamic := M.ipToChallengeDynamic.insert ip ⟨challengeSpec, now⟩ }

/-- `current_timestamp - time_added > dynamic_expiry_seconds`. -/
def isExpired (expiry : UInt32) (now : Int) (entry : Dated) : Bool :=
  expiry.toNat < now - entry.timeAdded

/-- The loop over one of the tables, which erases while it goes on. -/
def eraseExpired (expiry : UInt32) (now : Int) (table : Table Dated) : Table Dated :=
  table.entries.foldl
    (fun table entry => if isExpired expiry now entry.2 then table.erase entry.1 else table) table

/-- `remove_expired_challenges`. -/
def removeExpiredChallenges (now : Int) (M : LiveChallenger) : LiveChallenger :=
  { M with
    hostToChallengeDynamic :=
      eraseExpired M.dynamicExpirySeconds now M.hostToChallengeDynamic
    ipToChallengeDynamic := eraseExpired M.dynamicExpirySeconds now M.ipToChallengeDynamic }

/-- A command that is processed, or a sweep, at a time. -/
def act (M : LiveChallenger) (a : Int × Action) : Except ChallengeError LiveChallenger :=
  match a.2 with
  | .challengeHost domain => M.loadSingleHostChallenge R a.1 domain
  | .challengeIp ip => M.loadSingleIpChallenge R a.1 ip
  | .removeExpired => .ok (M.removeExpiredChallenges a.1)

/-! ## The loop that erases -/

/-- Whether the time of a challenge lets it stay. -/
def alive (expiry : UInt32) (now timeAdded : Int) : Bool := now - timeAdded ≤ expiry.toNat

theorem isExpired_eq (expiry : UInt32) (now : Int) (entry : Dated) :
    isExpired expiry now entry = !alive expiry now entry.timeAdded := by
  rw [isExpired, alive, ← decide_not]
  congr 1
  exact propext not_le.symm

/-- The part of the loop that is left erases the expired keys among its entries. -/
theorem lookup_foldl_erase (expired : Dated → Bool) (entries : List (Sigma fun _ : Bytes => Dated))
    (table : Table Dated) (key : Bytes) :
    (entries.foldl (fun table entry => if expired entry.2 then table.erase entry.1 else table)
        table).lookup key =
      if ∃ entry ∈ entries, entry.1 = key ∧ expired entry.2 = true then none
      else table.lookup key := by
  induction entries generalizing table with
  | nil => simp
  | cons entry entries ih =>
      rw [List.foldl_cons, ih]
      by_cases hrest : ∃ e ∈ entries, e.1 = key ∧ expired e.2 = true
      · rw [if_pos hrest, if_pos (by
          obtain ⟨e, he, hkey⟩ := hrest
          exact ⟨e, List.mem_cons_of_mem _ he, hkey⟩)]
      · rw [if_neg hrest]
        cases hex : expired entry.2 with
        | false =>
            rw [if_neg (by simp), if_neg]
            rintro ⟨e, he, hkey, hexp⟩
            rcases List.mem_cons.mp he with rfl | he
            · simp [hex] at hexp
            · exact hrest ⟨e, he, hkey, hexp⟩
        | true =>
            rw [if_pos rfl]
            by_cases hkey : entry.1 = key
            · rw [if_pos ⟨entry, List.mem_cons_self .., hkey, hex⟩, hkey, AList.lookup_erase]
            · rw [AList.lookup_erase_ne (Ne.symm hkey), if_neg]
              rintro ⟨e, he, hkey', hexp⟩
              rcases List.mem_cons.mp he with rfl | he
              · exact hkey hkey'
              · exact hrest ⟨e, he, hkey', hexp⟩

/-- What the loop leaves. -/
theorem lookup_eraseExpired (expiry : UInt32) (now : Int) (table : Table Dated) (key : Bytes) :
    (eraseExpired expiry now table).lookup key =
      (table.lookup key).filter fun entry => alive expiry now entry.timeAdded := by
  rw [eraseExpired, lookup_foldl_erase]
  cases h : table.lookup key with
  | none => simp
  | some entry =>
      have hmem : (⟨key, entry⟩ : Sigma fun _ : Bytes => Dated) ∈ table.entries :=
        AList.mem_lookup_iff.mp h
      have huniq : ∀ e ∈ table.entries, e.1 = key → e.2 = entry := by
        rintro ⟨k, e⟩ he rfl
        exact Option.some.inj ((AList.mem_lookup_iff.mpr he).symm.trans h)
      cases halive : alive expiry now entry.timeAdded with
      | false =>
          rw [if_pos ⟨_, hmem, rfl, by rw [isExpired_eq, halive]; rfl⟩]
          simp [Option.filter, halive]
      | true =>
          rw [if_neg]
          · simp [Option.filter, halive]
          · rintro ⟨e, he, hkey, hexp⟩
            rw [huniq e he hkey, isExpired_eq, halive] at hexp
            cases hexp

/-! ## One table -/

/-- An operation on a table, with the challenge that a command adds. -/
def tableStep (expiry : UInt32) (spec : HostChallengeSpec) (table : Table Dated) :
    Int × Expiry.Op Bytes → Table Dated
  | (now, .touch key) => table.insert key ⟨spec, now⟩
  | (now, .sweep) => eraseExpired expiry now table

/-- The table has the times, each with the challenge. -/
def Shows (spec : HostChallengeSpec) (table : Table Dated) (times : Bytes → Option Int) : Prop :=
  ∀ key, table.lookup key = (times key).map (Dated.mk spec)

theorem Shows.step {spec : HostChallengeSpec} {table : Table Dated} {times : Bytes → Option Int}
    (h : Shows spec table times) (expiry : UInt32) (op : Int × Expiry.Op Bytes) :
    Shows spec (tableStep expiry spec table op) (Expiry.step (alive expiry) times op) := by
  obtain ⟨now, k | _⟩ := op
  · intro key
    by_cases hkey : key = k
    · subst hkey
      simp [tableStep, Expiry.step]
    · rw [tableStep, AList.lookup_insert_ne hkey, h key, Expiry.step, Function.update_of_ne hkey]
  · intro key
    rw [tableStep, lookup_eraseExpired, h key]
    change _ = ((times key).filter (alive expiry now)).map (Dated.mk spec)
    cases times key with
    | none => rfl
    | some t =>
        cases halive : alive expiry now t with
        | false => simp [Option.filter, halive]
        | true => simp [Option.filter, halive]

theorem shows_run (spec : HostChallengeSpec) (expiry : UInt32)
    (ops : List (Int × Expiry.Op Bytes)) :
    Shows spec (ops.foldl (tableStep expiry spec) ∅) (Expiry.run (alive expiry) ops) := by
  induction ops using List.reverseRecOn with
  | nil => exact fun key => rfl
  | append_singleton ops op ih =>
      rw [List.foldl_append, Expiry.run_append]
      exact ih.step expiry op

/-- No key is removed, and an entry is the old one or that of one of the commands. -/
structure Refreshed (ops : List (Int × Expiry.Op Bytes)) (table table' : Table Dated) : Prop where
  kept : ∀ key, (table.lookup key).isSome → (table'.lookup key).isSome
  entries : ∀ key entry, table'.lookup key = some entry →
    table.lookup key = some entry ∨ (entry.timeAdded, .touch key) ∈ ops

/-- Without a sweep, entries are only added and refreshed. -/
theorem refreshed_foldl (expiry : UInt32) (spec : HostChallengeSpec)
    {ops : List (Int × Expiry.Op Bytes)} (hops : ∀ op ∈ ops, op.2 ≠ .sweep) (table : Table Dated) :
    Refreshed ops table (ops.foldl (tableStep expiry spec) table) := by
  induction ops generalizing table with
  | nil => exact ⟨fun _ h => h, fun _ _ h => .inl h⟩
  | cons op ops ih =>
      have hrest := ih (fun op hop => hops op (List.mem_cons_of_mem _ hop))
        (tableStep expiry spec table op)
      obtain ⟨now, k | _⟩ := op
      · refine ⟨?_, ?_⟩
        · intro key h
          apply hrest.kept
          by_cases hkey : key = k
          · subst hkey
            rw [tableStep, AList.lookup_insert]
            rfl
          · rwa [tableStep, AList.lookup_insert_ne hkey]
        · intro key entry h
          rcases hrest.entries key entry h with hold | hnew
          · by_cases hkey : key = k
            · subst hkey
              rw [tableStep, AList.lookup_insert] at hold
              cases hold
              exact .inr (List.mem_cons_self ..)
            · rw [tableStep, AList.lookup_insert_ne hkey] at hold
              exact .inl hold
          · exact .inr (List.mem_cons_of_mem _ hnew)
      · exact absurd rfl (hops _ (List.mem_cons_self ..))

/-! ## Both tables -/

/-- The two tables. -/
inductive Side where
  | host
  | ip

/-- The command that fills a table. -/
def Side.command : Side → Bytes → Action
  | host => .challengeHost
  | ip => .challengeIp

/-- What an action does to a table. -/
def Side.op : Side → Int × Action → Option (Int × Expiry.Op Bytes)
  | host, (now, .challengeHost domain) => some (now, .touch domain)
  | ip, (now, .challengeIp address) => some (now, .touch address)
  | _, (now, .removeExpired) => some (now, .sweep)
  | _, _ => none

/-- The operations of a run on a table. -/
def Side.ops (side : Side) (acts : List (Int × Action)) : List (Int × Expiry.Op Bytes) :=
  acts.filterMap side.op

/-- The challenger after the operations on its tables. -/
def withOps (M : LiveChallenger) (spec : HostChallengeSpec)
    (hostOps ipOps : List (Int × Expiry.Op Bytes)) : LiveChallenger :=
  { M with
    hostToChallengeDynamic :=
      hostOps.foldl (tableStep M.dynamicExpirySeconds spec) M.hostToChallengeDynamic
    ipToChallengeDynamic :=
      ipOps.foldl (tableStep M.dynamicExpirySeconds spec) M.ipToChallengeDynamic }

variable {R} {M : LiveChallenger} {spec : HostChallengeSpec}

/-- With a challenge that can be read, no action fails, and each does its operations. -/
theorem act_eq (hspec : M.dynamicChallenge R = .ok spec) (a : Int × Action) :
    M.act R a = .ok (M.withOps spec (Side.host.op a).toList (Side.ip.op a).toList) := by
  obtain ⟨now, domain | ip | _⟩ := a
  · rw [act]
    dsimp only
    rw [loadSingleHostChallenge, hspec]
    rfl
  · rw [act]
    dsimp only
    rw [loadSingleIpChallenge, hspec]
    rfl
  · rfl

/-- Each table goes through its own operations. -/
theorem run_tables (hspec : M.dynamicChallenge R = .ok spec) (acts : List (Int × Action)) :
    acts.foldlM (act R) M = .ok (M.withOps spec (Side.host.ops acts) (Side.ip.ops acts)) := by
  induction acts generalizing M with
  | nil => rfl
  | cons a acts ih =>
      have hspec' : (M.withOps spec (Side.host.op a).toList
        (Side.ip.op a).toList).dynamicChallenge R = .ok spec := hspec
      rw [List.foldlM_cons, act_eq hspec, ok_bind, ih hspec']
      cases hhost : Side.host.op a <;> cases hip : Side.ip.op a <;>
        simp [withOps, Side.ops, hhost, hip]

/-! ## The life of a challenge -/

/-- The time of the last time a command was processed. -/
def lastCommand (command : Action) (acts : List (Int × Action)) : Option Int :=
  ((acts.filter fun a => a.2 = command).getLast?).map Prod.fst

theorem lastCommand_append (command : Action) (acts : List (Int × Action)) (a : Int × Action) :
    lastCommand command (acts ++ [a]) =
      if a.2 = command then some a.1 else lastCommand command acts := by
  rw [lastCommand, List.filter_append]
  by_cases h : a.2 = command
  · simp [h]
  · simp [h, lastCommand]

/-- The last touch of a key is its last command. -/
theorem lastTouch_ops (side : Side) (key : Bytes) (acts : List (Int × Action)) :
    Expiry.lastTouch key (side.ops acts) = lastCommand (side.command key) acts := by
  induction acts using List.reverseRecOn with
  | nil => rfl
  | append_singleton acts a ih =>
      rw [Side.ops, List.filterMap_append, lastCommand_append, ← ih]
      cases side with
      | host =>
          obtain ⟨now, domain | ip | _⟩ := a
          · simp [Side.op, Side.ops, Side.command, Expiry.lastTouch_append, Expiry.touched]
          · simp [List.filterMap_cons, Side.op, Side.ops, Side.command]
          · simp [Side.op, Side.ops, Side.command, Expiry.lastTouch_append, Expiry.touched]
      | ip =>
          obtain ⟨now, domain | ip | _⟩ := a
          · simp [List.filterMap_cons, Side.op, Side.ops, Side.command]
          · simp [Side.op, Side.ops, Side.command, Expiry.lastTouch_append, Expiry.touched]
          · simp [Side.op, Side.ops, Side.command, Expiry.lastTouch_append, Expiry.touched]

/-- What was dead at an earlier time is dead. -/
theorem alive_earlier (expiry : UInt32) {s now : Int} (t : Int) (hs : s ≤ now)
    (h : alive expiry now t = true) : alive expiry s t = true := by
  simp only [alive, decide_eq_true_eq] at h ⊢
  omega

/-- A table right after a sweep has the keys with a recent last command. -/
theorem lookup_after_sweep {ops : List (Int × Expiry.Op Bytes)} {now : Int}
    (spec : HostChallengeSpec) (expiry : UInt32) (hops : ∀ op ∈ ops, op.1 ≤ now) (key : Bytes)
    (entry : Dated) :
    (tableStep expiry spec (ops.foldl (tableStep expiry spec) ∅) (now, .sweep)).lookup key =
        some entry ↔
      ∃ t, Expiry.lastTouch key ops = some t ∧ now - expiry.toNat ≤ t ∧ entry = ⟨spec, t⟩ := by
  have hshows := shows_run spec expiry (ops ++ [(now, .sweep)])
  rw [List.foldl_append] at hshows
  rw [show tableStep expiry spec (ops.foldl (tableStep expiry spec) ∅) (now, .sweep) =
      [(now, .sweep)].foldl (tableStep expiry spec) (ops.foldl (tableStep expiry spec) ∅) from rfl,
    hshows key, Expiry.run_sweep ops now (fun s t => alive_earlier expiry t) hops]
  cases Expiry.lastTouch key ops with
  | none => simp
  | some t =>
      have halive : alive expiry now t = true ↔ now - expiry.toNat ≤ t := by
        simp only [alive, decide_eq_true_eq]
        omega
      constructor
      · intro h
        obtain ⟨t', ht', rfl⟩ := Option.map_eq_some_iff.mp h
        obtain ⟨ht, hdead⟩ := Option.filter_eq_some_iff.mp ht'
        cases ht
        exact ⟨t, rfl, halive.mp hdead, rfl⟩
      · rintro ⟨t', ht', hle, rfl⟩
        cases ht'
        simp [Option.filter, halive.mpr hle]

/-- The commands can be processed exactly when the configured challenge is well formed. -/
theorem dynamicChallenge_ok_iff :
    Succeeds (M.dynamicChallenge R) ↔
      R.WellFormed (ChallengeReader.field (some M.cfg) "dynamic_challenger_config") := by
  by_cases hscalar : ∃ s, M.cfg = .scalar s
  · obtain ⟨s, hs⟩ := hscalar
    rw [dynamicChallenge, hs]
    constructor
    · intro h
      exact absurd h (succeeds_error ChallengeError.badSubscript)
    · intro h
      obtain ⟨node, hname, _⟩ := h.name
      cases hname
  · have h : ∀ s, some M.cfg ≠ some (.scalar s) := fun s hs => hscalar ⟨s, Option.some.inj hs⟩
    rw [dynamicChallenge, ChallengeReader.lookup_eq h, ok_bind,
      ChallengeReader.parseSingleChallenge_ok_iff]

theorem mem_ops_time {side : Side} {acts : List (Int × Action)} {now : Int}
    (h : ∀ a ∈ acts, a.1 ≤ now) : ∀ op ∈ side.ops acts, op.1 ≤ now := by
  intro op hop
  obtain ⟨a, ha, hop⟩ := List.mem_filterMap.mp hop
  have htime : op.1 = a.1 := by
    obtain ⟨t, _ | _ | _⟩ := a <;> cases side <;> simp [Side.op] at hop <;> rw [← hop]
  rw [htime]
  exact h a ha

theorem ops_ne_sweep {side : Side} {acts : List (Int × Action)}
    (h : ∀ a ∈ acts, a.2 ≠ .removeExpired) : ∀ op ∈ side.ops acts, op.2 ≠ .sweep := by
  intro op hop
  obtain ⟨a, ha, hop⟩ := List.mem_filterMap.mp hop
  have hne := h a ha
  obtain ⟨t, _ | _ | _⟩ := a <;> cases side <;> simp [Side.op] at hop hne <;> simp [← hop]

/-- The times do not decrease. -/
def Chronological (acts : List (Int × Action)) : Prop := acts.Pairwise fun a b => a.1 ≤ b.1

/-- The commands and the sweeps in any order, at times that do not decrease.  Right after
a sweep the tables have the keys whose last commands are not older than the expiry; until
the next one, entries are only added and refreshed.  Neither table depends on the commands
for the other, and the static table stays. -/
theorem dynamic_lifecycle (hhost : M.hostToChallengeDynamic = ∅) (hip : M.ipToChallengeDynamic = ∅)
    (hvalid : R.WellFormed (ChallengeReader.field (some M.cfg) "dynamic_challenger_config"))
    (acts : List (Int × Action)) (now : Int)
    (hordered : Chronological (acts ++ [(now, .removeExpired)])) :
    ∃ spec M₁, M.dynamicChallenge R = .ok spec ∧ acts.foldlM (act R) M = .ok M₁ ∧
      (∀ domain entry,
        (M₁.removeExpiredChallenges now).hostToChallengeDynamic.lookup domain = some entry ↔
          ∃ t, lastCommand (.challengeHost domain) acts = some t ∧
            now - M.dynamicExpirySeconds.toNat ≤ t ∧ entry = ⟨spec, t⟩) ∧
      (∀ ip entry,
        (M₁.removeExpiredChallenges now).ipToChallengeDynamic.lookup ip = some entry ↔
          ∃ t, lastCommand (.challengeIp ip) acts = some t ∧
            now - M.dynamicExpirySeconds.toNat ≤ t ∧ entry = ⟨spec, t⟩) ∧
      (∀ more, (∀ a ∈ more, a.2 ≠ .removeExpired) → ∃ M₂, more.foldlM (act R) M₁ = .ok M₂ ∧
        Refreshed (Side.host.ops more) M₁.hostToChallengeDynamic M₂.hostToChallengeDynamic ∧
        Refreshed (Side.ip.ops more) M₁.ipToChallengeDynamic M₂.ipToChallengeDynamic) ∧
      (∀ acts', Side.host.ops acts' = Side.host.ops acts → ∃ M', acts'.foldlM (act R) M = .ok M' ∧
        M'.hostToChallengeDynamic = M₁.hostToChallengeDynamic) ∧
      (∀ acts', Side.ip.ops acts' = Side.ip.ops acts → ∃ M', acts'.foldlM (act R) M = .ok M' ∧
        M'.ipToChallengeDynamic = M₁.ipToChallengeDynamic) ∧
      M₁.hostChallengesStatic = M.hostChallengesStatic ∧
      (M₁.removeExpiredChallenges now).hostChallengesStatic = M.hostChallengesStatic := by
  obtain ⟨spec, hspec⟩ := dynamicChallenge_ok_iff.mpr hvalid
  have htimes : ∀ a ∈ acts, a.1 ≤ now := fun a ha =>
    (List.pairwise_append.mp hordered).2.2 a ha _ (List.mem_singleton_self _)
  refine ⟨spec, _, hspec, run_tables hspec acts, ?_, ?_, ?_, ?_, ?_, rfl, rfl⟩
  · intro domain entry
    rw [← show Side.host.command domain = .challengeHost domain from rfl, ← lastTouch_ops,
      ← lookup_after_sweep spec M.dynamicExpirySeconds (mem_ops_time htimes) domain entry, ← hhost]
    rfl
  · intro ip entry
    rw [← show Side.ip.command ip = .challengeIp ip from rfl, ← lastTouch_ops,
      ← lookup_after_sweep spec M.dynamicExpirySeconds (mem_ops_time htimes) ip entry, ← hip]
    rfl
  · intro more hmore
    have hspec₁ : (M.withOps spec (Side.host.ops acts) (Side.ip.ops acts)).dynamicChallenge R =
      .ok spec := hspec
    refine ⟨_, run_tables hspec₁ more, ?_, ?_⟩
    · exact refreshed_foldl _ spec (ops_ne_sweep hmore) _
    · exact refreshed_foldl _ spec (ops_ne_sweep hmore) _
  · intro acts' hops
    refine ⟨_, run_tables hspec acts', ?_⟩
    simp only [withOps, hops]
  · intro acts' hops
    refine ⟨_, run_tables hspec acts', ?_⟩
    simp only [withOps, hops]

end LiveChallenger

/-! ## A small configuration -/

/-- A reader whose numbers are in decimal, without files. -/
def sampleReader : ChallengeReader where
  banjaxDir := bytes "/etc/banjax"
  readFile _ := []
  asUnsigned
    | .scalar text =>
        if text ≠ [] && text.all isDigit then some (readDigits 10 0 text).1.toUInt32 else none
    | _ => none

/-- A configuration with the fields. -/
def sampleMap (fields : List (String × Node)) : Node :=
  .map (fields.map fun entry => (.scalar (bytes entry.1), entry.2))

/-- A scalar. -/
def sampleScalar (text : String) : Node := .scalar (bytes text)

/-- A challenge that can be read. -/
def sampleDynamicConfig : Node := sampleMap [
  ("name", sampleScalar "from kafka"),
  ("challenge_type", sampleScalar "captcha"),
  ("validity_period", sampleScalar "60")]

theorem sampleDynamicConfig_wellFormed : sampleReader.WellFormed (some sampleDynamicConfig) where
  name := ⟨_, rfl, _, rfl⟩
  challengeType := ⟨_, rfl, _, rfl⟩
  validityPeriod := ⟨_, rfl, rfl⟩
  noOfFailsToBan := nofun
  challenge := nofun
  passwordHash := nofun
  magicWord := nofun
  magicWordExceptions := nofun
  whiteListedIps := nofun

/-- A new challenger whose commands expire after three seconds. -/
def sampleLive : LiveChallenger where
  cfg := sampleMap [("dynamic_challenger_config", sampleDynamicConfig)]
  hashedKey := zeroKey
  numberOfTrailingZeros := 0
  hostChallengesStatic := ∅
  dynamicExpirySeconds := 3

namespace LiveChallenger

/-- The host of the first command has expired at the sweep, and that of the third has
not. -/
theorem dynamic_lifecycle_sample :
    ∃ spec M₁, [(0, Action.challengeHost (bytes "a.example")),
          (5, .challengeIp (bytes "10.0.0.1")), (7, .challengeHost (bytes "b.example"))].foldlM
        (act sampleReader) sampleLive = .ok M₁ ∧
      (M₁.removeExpiredChallenges 8).hostToChallengeDynamic.lookup (bytes "a.example") = none ∧
      (M₁.removeExpiredChallenges 8).hostToChallengeDynamic.lookup (bytes "b.example") =
        some ⟨spec, 7⟩ := by
  obtain ⟨spec, M₁, _, hrun, hhosts, _⟩ := dynamic_lifecycle (R := sampleReader) (M := sampleLive)
    rfl rfl sampleDynamicConfig_wellFormed
    [(0, .challengeHost (bytes "a.example")), (5, .challengeIp (bytes "10.0.0.1")),
      (7, .challengeHost (bytes "b.example"))] 8 (by unfold Chronological; simp)
  refine ⟨spec, M₁, hrun, ?_, (hhosts _ _).mpr ⟨7, by decide, by decide, rfl⟩⟩
  rw [Option.eq_none_iff_forall_ne_some]
  intro entry hentry
  obtain ⟨t, hlast, hle, _⟩ := (hhosts _ _).mp hentry
  have ht : lastCommand (.challengeHost (bytes "a.example"))
      [(0, .challengeHost (bytes "a.example")), (5, .challengeIp (bytes "10.0.0.1")),
        (7, .challengeHost (bytes "b.example"))] = some 0 := by decide
  cases ht.symm.trans hlast
  exact absurd hle (by decide)

end LiveChallenger

end Banjax
