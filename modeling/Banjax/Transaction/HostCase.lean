import Banjax.Challenger.Dynamic
import Banjax.Server.Loaders
import Banjax.Transaction.BotSniffer

/-!
# The case of host names

The muncher turns the `Host` header to lower case, so that a mixed-case name does not get past
the filters.  Two requests that differ in the case of the header come to the filters as the
same request (`retrieveParts_respell`).

The hosts on the other side are not turned.  The domains of a challenge, the host of a command,
the hosts of the white list and the hosts that a rule skips are keys exactly as they are
spelled, and a lookup compares bytes.  So the entry of a host is found when the host is spelled
in lower case, and a host with an upper-case letter is in the table for nobody
(`host_found_iff`).
-/

namespace Banjax

open Lib ChallengeReader

/-- The two texts differ at most in the case of their letters. -/
def SameUpToCase (h d : Bytes) : Prop := h.map lower = d.map lower

/-- A table in which a filter looks the host of a request up. -/
inductive HostTable where
  /-- `host_challenges_static`. -/
  | challenges (table : Table (List HostChallengeSpec))
  /-- `host_to_challenge_dynamic`. -/
  | dynamic (table : Table Dated)
  /-- `per_host_white_list`. -/
  | whiteList (w : GlobalWhiteList)
  /-- `hosts_to_skip`. -/
  | hostsToSkip {ρ : Type} (rule : RatedRegex ρ)

namespace HostTable

/-- The hosts that have an entry. -/
def hosts : HostTable → List Bytes
  | challenges table => table.keys
  | dynamic table => table.keys
  | whiteList w => WhiteLister.hosts w
  | hostsToSkip rule => rule.hostsToSkip

/-- `find` of the host is not the end of the table. -/
def hit (host : Bytes) : HostTable → Bool
  | challenges table => (table.lookup host).isSome
  | dynamic table => (table.lookup host).isSome
  | whiteList w => (w.perHostWhiteList.lookup host).isSome
  | hostsToSkip rule => host ∈ rule.hostsToSkip

/-- What `find` of the host points at is the entry of `d`. -/
def Finds (table : HostTable) (host d : Bytes) : Prop :=
  table.hit host = true ∧ table.hosts.find? (· = host) = some d

/-- A host is found when it is there. -/
theorem hit_iff (table : HostTable) (host : Bytes) :
    table.hit host = true ↔ host ∈ table.hosts := by
  cases table with
  | challenges table =>
      rw [hit, AList.lookup_isSome]
      exact AList.mem_keys
  | dynamic table =>
      rw [hit, AList.lookup_isSome]
      exact AList.mem_keys
  | whiteList w =>
      rw [hit, List.lookup_isSome_iff]
      simp [hosts, WhiteLister.hosts]
  | hostsToSkip rule => simp [hit, hosts]

/-- The entry that is found is the one with the bytes of the host. -/
theorem finds_iff (table : HostTable) (host d : Bytes) :
    table.Finds host d ↔ host ∈ table.hosts ∧ host = d := by
  rw [Finds, hit_iff]
  apply and_congr_right
  intro hmem
  constructor
  · intro hfound
    have hd := List.find?_some hfound
    exact (of_decide_eq_true hd).symm
  · rintro rfl
    cases hfound : table.hosts.find? (· = host) with
    | none =>
        have hno := List.find?_eq_none.mp hfound host hmem
        exact absurd (decide_eq_true rfl) hno
    | some key =>
        have hkey := List.find?_some hfound
        rw [of_decide_eq_true hkey]

end HostTable

/-! ## The keys of the challenges -/

theorem mem_pushBack {table : Table (List HostChallengeSpec)} {domain d : Bytes}
    {spec : HostChallengeSpec} : d ∈ pushBack table domain spec ↔ d = domain ∨ d ∈ table := by
  rw [pushBack, AList.mem_insert]

/-- A domain that is there stays. -/
theorem mem_loadChallenge {R : ChallengeReader} {table table' : Table (List HostChallengeSpec)}
    {ch : Option Node} (h : R.loadChallenge table ch = .ok table') {d : Bytes} (hd : d ∈ table) :
    d ∈ table' := by
  obtain ⟨spec, -, h⟩ := bind_eq_ok.mp h
  obtain ⟨node, -, h⟩ := bind_eq_ok.mp h
  cases node with
  | none => cases h
  | some domains =>
      refine foldlM_keeps (P := fun table => d ∈ table) ?_ hd h
      intro s i t ht hs
      obtain ⟨domain, -, ht⟩ := bind_eq_ok.mp ht
      cases ht
      exact mem_pushBack.mpr (.inr hs)

/-- The domains of a challenge become keys, spelled as they are. -/
theorem mem_of_domain {R : ChallengeReader} {table table' : Table (List HostChallengeSpec)}
    {ch : Option Node} (h : R.loadChallenge table ch = .ok table') {domains : Node}
    (hdomains : field ch "domains" = some domains) {i : Nat} (hi : i < domains.size) {d : Bytes}
    (hd : R.nth i domains = some (.scalar d)) : d ∈ table' := by
  obtain ⟨spec, -, h⟩ := bind_eq_ok.mp h
  obtain ⟨node, hnode, h⟩ := bind_eq_ok.mp h
  cases (lookup_eq_ok hnode).symm.trans hdomains
  refine foldlM_establishes (P := fun table => d ∈ table) ?_ ?_ (List.mem_range.mpr hi) h
  · intro s j t ht hs
    obtain ⟨domain, -, ht⟩ := bind_eq_ok.mp ht
    cases ht
    exact mem_pushBack.mpr (.inr hs)
  · intro s t ht
    rw [hd] at ht
    cases ht
    exact mem_pushBack.mpr (.inl rfl)

theorem rethrow_eq_ok {α : Type} {x : Except ChallengeError α} {a : α}
    (h : rethrow x = .ok a) : x = .ok a := by
  cases x with
  | error e => cases h
  | ok b =>
      cases h
      rfl

theorem mem_hostChallengesStatic {R : ChallengeReader} {C : Crypto} {uninitialized : UInt32}
    {cfg : Node} {M : LiveChallenger} (h : R.loadConfig C uninitialized cfg = .ok M)
    {challenges : Node} (hchallenges : field (some cfg) "challenges" = some challenges)
    {ch : Option Node} (hch : ch ∈ challenges.items) {domains : Node}
    (hdomains : field ch "domains" = some domains) {i : Nat} (hi : i < domains.size) {d : Bytes}
    (hd : R.nth i domains = some (.scalar d)) : d ∈ M.hostChallengesStatic := by
  obtain ⟨node, hnode, h⟩ := bind_eq_ok.mp h
  obtain ⟨table, htable, h⟩ := bind_eq_ok.mp h
  obtain ⟨_, -, h⟩ := bind_eq_ok.mp h
  obtain ⟨_, -, h⟩ := bind_eq_ok.mp h
  obtain ⟨_, -, h⟩ := bind_eq_ok.mp h
  cases h
  cases (lookup_eq_ok (rethrow_eq_ok hnode)).symm.trans hchallenges
  have htable : challenges.items.foldlM R.loadChallenge ∅ = .ok table := rethrow_eq_ok htable
  refine foldlM_establishes (P := fun table => d ∈ table) ?_ ?_ hch htable
  · exact fun _ _ _ ht hs => mem_loadChallenge ht hs
  · exact fun _ _ ht => mem_of_domain ht hdomains hi hd

/-! ## Both sides -/

/-- The host is given to one of the four loaders, and this is the table that the loader
fills. -/
inductive Supplied (d : Bytes) : HostTable → Prop where
  /-- One of the domains of a challenge. -/
  | domain {R : ChallengeReader} {C : Crypto} {uninitialized : UInt32} {cfg : Node}
      {M : LiveChallenger} {challenges domains : Node} {ch : Option Node} {i : Nat} :
      R.loadConfig C uninitialized cfg = .ok M →
      field (some cfg) "challenges" = some challenges → ch ∈ challenges.items →
      field ch "domains" = some domains → i < domains.size →
      R.nth i domains = some (.scalar d) → Supplied d (.challenges M.hostChallengesStatic)
  /-- The host of a command. -/
  | command {R : ChallengeReader} {now : Int} {M M' : LiveChallenger} :
      M.loadSingleHostChallenge R now d = .ok M' → Supplied d (.dynamic M'.hostToChallengeDynamic)
  /-- The host of an entry of the white list. -/
  | whiteListed {cfg ips : Node} {whiteList : GlobalWhiteList} {entries : List (Node × Node)} :
      WhiteLister.loadConfig cfg = .ok whiteList →
      field (some cfg) "white_listed_ips" = some ips → some (.map entries) ∈ ips.items →
      field (some (.map entries)) "host" = some (.scalar d) →
      Supplied d (.whiteList whiteList)
  /-- One of the hosts that a rule skips. -/
  | skipped {ρ : Type} [FloatArithmetic ρ] {R : ChallengeReader} {cfg skip : Node}
      {rules : List (RatedRegex ρ)} {rule : RatedRegex ρ} {node : Option Node} {hosts : List Bytes}
      {i : Nat} :
      RegexManager.loadConfig R cfg = .ok rules → cfg.items[i]? = some node →
      rules[i]? = some rule → field node "hosts_to_skip" = some skip → IsTexts skip hosts →
      d ∈ hosts → Supplied d (.hostsToSkip rule)

/-- Every loader keeps the host as it is spelled. -/
theorem Supplied.mem {d : Bytes} {table : HostTable} (h : Supplied d table) :
    d ∈ table.hosts := by
  cases h with
  | domain hload hchallenges hch hdomains hi hd =>
      exact mem_hostChallengesStatic hload hchallenges hch hdomains hi hd
  | command hload =>
      obtain ⟨spec, -, hload⟩ := bind_eq_ok.mp hload
      cases hload
      exact (AList.mem_insert _).mpr (.inl rfl)
  | whiteListed hload hips hentry hhost =>
      exact WhiteLister.mem_hosts_loadConfig hload hips hentry hhost
  | skipped hload hnode hrule hskip hhosts hd =>
      obtain ⟨rule, hfound, hread⟩ := RegexManager.loadRules_getElem? hload hnode
      rw [List.length_nil, Nat.zero_add, hrule] at hfound
      cases hfound
      rw [HostTable.hosts, RegexManager.loadRule_hosts hread hskip hhosts]
      exact hd

/-! ## The `HOST` part -/

namespace TransactionMuncher

variable {ats : Ats} {requested : BitVec 64} {m m' : TransactionMuncher}

theorem needRequestHeader_ok (h : m.needRequestHeader ats = .ok m') : m' = m.holdRequest := by
  rw [needRequestHeader] at h
  split at h
  · cases h; rfl
  · cases h

/-- The branch for `HOST` puts the header there in lower case, unless it is there. -/
theorem retrieveFields_host (h : has requested .host = true) :
    (m.retrieveFields ats requested).part .host = some ((m.part .host).getD ats.hostText) := by
  simp [retrieveFields, h]

/-- The inner call leaves the header in lower case. -/
theorem host_of_retrieveHostAndUrl (hvalid : has m.validParts .host = false)
    (hhost : m.part .host = none) (h : retrieveHostAndUrl ats m = .ok m') :
    m'.part .host = some ats.hostText := by
  have hsome : missing m.validParts hostAndUrl ≠ 0#64 := missing_ne_zero hvalid (by decide)
  have hwant : has (missing m.validParts hostAndUrl) .host = true := by
    rw [has_missing, hvalid]
    decide
  have hplain : has (missing m.validParts hostAndUrl) .urlWithHost = false := by
    rw [has_missing, show has hostAndUrl .urlWithHost = false by decide, Bool.and_false]
  rw [retrieveHostAndUrl, retrieveWith, if_neg hsome] at h
  obtain ⟨m₁, hm₁, h⟩ := bind_eq_ok.mp h
  cases needRequestHeader_ok hm₁
  dsimp only at h
  rw [hplain, if_neg (by simp), ok_bind] at h
  cases h
  rw [updateValidityStatus_part, addValid_part, retrieveFields_host hwant,
    retrieveAddress_other _ _ _ .host (by decide), holdRequest_part, hhost]
  rfl

/-- The first call leaves the header in lower case. -/
theorem host_of_retrieveParts (hwant : has requested .host = true)
    (h : retrieveParts ats requested .create = .ok m) : m.part .host = some ats.hostText := by
  have hsome : missing create.validParts requested ≠ 0#64 := missing_ne_zero (by decide) hwant
  have hmiss : has (missing create.validParts requested) .host = true := by
    rw [has_missing, hwant]
    decide
  have hfirst : (create.holdRequest.retrieveAddress ats
      (missing create.validParts requested)).part .host = none := by
    rw [retrieveAddress_other _ _ _ .host (by decide)]
    rfl
  rw [retrieveParts, retrieveWith, if_neg hsome] at h
  obtain ⟨m₁, hm₁, h⟩ := bind_eq_ok.mp h
  cases needRequestHeader_ok hm₁
  dsimp only at h
  by_cases hurl : has (missing create.validParts requested) .urlWithHost = true
  · -- The host is there already, from the inner call.
    rw [if_pos hurl] at h
    cases hcall : retrieveHostAndUrl ats
        (retrieveAddress ats (missing create.validParts requested) create.holdRequest) with
    | error e => rw [hcall] at h; cases h
    | ok m₂ =>
        have hhost := host_of_retrieveHostAndUrl (by simp [create]) hfirst hcall
        rw [hcall] at h
        cases h
        rw [updateValidityStatus_part, addValid_part, retrieveFields_host hmiss,
          retrieveUrlWithHost_other hhost (by decide), hhost]
        rfl
  · rw [if_neg hurl] at h
    cases h
    rw [updateValidityStatus_part, addValid_part, retrieveFields_host hmiss, hfirst]
    rfl

end TransactionMuncher

/-! ## The case of the header -/

/-- The same answers, with the `Host` header spelled in another way. -/
def Ats.respell (f : Bytes → Bytes) (ats : Ats) : Ats := { ats with host := ats.host.map f }

section Respell

variable {f : Bytes → Bytes} (hf : ∀ h, SameUpToCase (f h) h) (ats : Ats)

include hf

theorem Ats.hostText_respell : (ats.respell f).hostText = ats.hostText := by
  unfold Ats.hostText Ats.respell
  cases ats.host with
  | none => rfl
  | some host => exact hf host

theorem TransactionMuncher.retrieveWith_respell
    (again : TransactionMuncher → Except PartsError TransactionMuncher) :
    retrieveWith again (ats.respell f) = retrieveWith again ats := by
  funext requested m
  have hfields : retrieveFields (ats.respell f) = retrieveFields ats := by
    unfold retrieveFields
    rw [Ats.hostText_respell hf]
    rfl
  rw [retrieveWith, hfields]
  rfl

/-- The parts of a request do not depend on the case of its `Host` header. -/
theorem TransactionMuncher.retrieveParts_respell :
    retrieveParts (ats.respell f) = retrieveParts ats := by
  funext requested m
  have hagain : retrieveHostAndUrl (ats.respell f) = retrieveHostAndUrl ats := by
    rw [retrieveHostAndUrl, retrieveWith_respell hf]
    rfl
  rw [retrieveParts, retrieveWith_respell hf, hagain]
  rfl

end Respell

/-- The host of a request is compared with the spelling of the table.  The entry of a host is
found under every spelling of the `Host` header when the host is in lower case, and under none
of them when it is not.  The header itself may be spelled in any way. -/
theorem host_found_iff {d : Bytes} {table : HostTable} (hsupplied : Supplied d table) :
    (∀ (ats : Ats) (h : Bytes), ats.host = some h → SameUpToCase h d →
      ∀ (requested : BitVec 64) (m : TransactionMuncher), has requested .host = true →
        TransactionMuncher.retrieveParts ats requested .create = .ok m →
        ((∃ host, m.part .host = some host ∧ table.Finds host d) ↔ d.map lower = d)) ∧
    ∀ (f : Bytes → Bytes), (∀ h, SameUpToCase (f h) h) → ∀ (ats : Ats),
      TransactionMuncher.retrieveParts (ats.respell f) = TransactionMuncher.retrieveParts ats ∧
      TransactionMuncher.retrieveResponseParts (ats.respell f) =
        TransactionMuncher.retrieveResponseParts ats := by
  refine ⟨?_, fun f hf ats => ⟨TransactionMuncher.retrieveParts_respell hf ats, rfl⟩⟩
  intro ats h hhost hsame requested m hwant hrun
  have htext : ats.hostText = d.map lower := by
    rw [Ats.hostText, hhost]
    exact hsame
  rw [TransactionMuncher.host_of_retrieveParts hwant hrun, htext]
  constructor
  · rintro ⟨host, hpart, hfinds⟩
    cases hpart
    exact ((table.finds_iff _ _).mp hfinds).2
  · intro hlower
    refine ⟨_, rfl, (table.finds_iff _ _).mpr ⟨?_, hlower⟩⟩
    rw [hlower]
    exact hsupplied.mem

/-- The answers for a request with the `Host` header. -/
def sampleAtsFor (host : String) : Ats :=
  { TransactionData.sampleAts with host := some (bytes host) }

/-- A command challenges a host. -/
theorem supplied_sample (host : String) :
    ∃ M : LiveChallenger, Supplied (bytes host) (.dynamic M.hostToChallengeDynamic) := by
  have hwell : sampleReader.WellFormed
      (field (some sampleLive.cfg) "dynamic_challenger_config") := sampleDynamicConfig_wellFormed
  obtain ⟨spec, hspec⟩ := LiveChallenger.dynamicChallenge_ok_iff.mpr hwell
  have hload : ∃ M, sampleLive.loadSingleHostChallenge sampleReader 0 (bytes host) = .ok M := by
    rw [LiveChallenger.loadSingleHostChallenge, hspec]
    exact ⟨_, rfl⟩
  obtain ⟨M, hM⟩ := hload
  exact ⟨M, .command hM⟩

theorem retrieveParts_sample (host : String) :
    ∃ m, TransactionMuncher.retrieveParts (sampleAtsFor host) TransactionPart.host.flag .create =
      .ok m := by
  refine ⟨_, rfl⟩

/-- The header is spelled in another way than the host, and the host is found. -/
theorem host_found_iff_sample :
    ∃ (M : LiveChallenger) (m : TransactionMuncher) (host : Bytes),
      Supplied (bytes "b.example") (.dynamic M.hostToChallengeDynamic) ∧
      TransactionMuncher.retrieveParts (sampleAtsFor "B.Example") TransactionPart.host.flag
        .create = .ok m ∧
      m.part .host = some host ∧
      (HostTable.dynamic M.hostToChallengeDynamic).Finds host (bytes "b.example") := by
  obtain ⟨M, hM⟩ := supplied_sample "b.example"
  obtain ⟨m, hm⟩ := retrieveParts_sample "B.Example"
  obtain ⟨host, hhost, hfinds⟩ := ((host_found_iff hM).1 (sampleAtsFor "B.Example")
    (bytes "B.Example") rfl (by unfold SameUpToCase; decide) _ m (by decide) hm).mpr (by decide)
  exact ⟨M, m, host, hM, hm, hhost, hfinds⟩

/-- A command challenges `Example.net`, and no request for `Example.net` finds the
challenge. -/
theorem challenged_host_not_found :
    ∃ (M : LiveChallenger) (m : TransactionMuncher),
      Supplied (bytes "Example.net") (.dynamic M.hostToChallengeDynamic) ∧
      TransactionMuncher.retrieveParts (sampleAtsFor "Example.net") TransactionPart.host.flag
        .create = .ok m ∧
      ¬ ∃ host, m.part .host = some host ∧
        (HostTable.dynamic M.hostToChallengeDynamic).Finds host (bytes "Example.net") := by
  obtain ⟨M, hM⟩ := supplied_sample "Example.net"
  obtain ⟨m, hm⟩ := retrieveParts_sample "Example.net"
  refine ⟨M, m, hM, hm, ?_⟩
  rintro ⟨host, hhost, hfinds⟩
  rw [TransactionMuncher.host_of_retrieveParts (by decide) hm] at hhost
  cases hhost
  exact absurd ((HostTable.finds_iff _ _ _).mp hfinds).2 (by decide)

end Banjax
