import Banjax.Challenger.Parse
import Banjax.Regex.Defs

/-!
# The other loaders

`load_config` of the white lister and of the regex banner.  Both go through a node of the
configuration and keep what they read in the order in which it comes.
-/

namespace Banjax

open Lib ChallengeReader

/-! ## The white lister -/

namespace GlobalWhiteList

/-- `insert(ip_range)`. -/
def insert (w : GlobalWhiteList) (ipRange : SubnetRange) : GlobalWhiteList :=
  { w with whiteList := w.whiteList ++ [ipRange] }

/-- `per_host_white_list[host].insert(ip_range)`. -/
def insertRange (host : Bytes) (ipRange : SubnetRange) :
    List (Bytes × List SubnetRange) → List (Bytes × List SubnetRange)
  | [] => [(host, [ipRange])]
  | entry :: table =>
      if entry.1 = host then (host, insertNew entry.2 ipRange) :: table
      else entry :: insertRange host ipRange table

/-- `insert(host, ip_range)`. -/
def insertFor (w : GlobalWhiteList) (host : Bytes) (ipRange : SubnetRange) : GlobalWhiteList :=
  { w with perHostWhiteList := insertRange host ipRange w.perHostWhiteList }

end GlobalWhiteList

namespace WhiteLister

/-- One entry of `white_listed_ips`: a range, or a host and a range. -/
def loadEntry (whiteList : GlobalWhiteList) :
    Option Node → Except ChallengeError GlobalWhiteList
  | none => .error (.invalidNode (bytes "white_listed_ips"))
  | some (.map entries) => do
      let host ← text (bytes "host") (← lookup (some (.map entries)) (bytes "host"))
      let range ← makeMaskForRange
        (← text (bytes "ip_range") (← lookup (some (.map entries)) (bytes "ip_range")))
      return whiteList.insertFor host range
  | some entry => do
      return whiteList.insert (← makeMaskForRange (← text (bytes "white_listed_ips") (some entry)))

/-- `WhiteLister::load_config`. -/
def loadConfig (cfg : Node) : Except ChallengeError GlobalWhiteList := do
  let whiteListedIps ← lookup (some cfg) (bytes "white_listed_ips")
  ((whiteListedIps.map Node.items).getD []).foldlM loadEntry ⟨[], []⟩

/-- The hosts that have a list of their own. -/
def hosts (whiteList : GlobalWhiteList) : List Bytes := whiteList.perHostWhiteList.map Prod.fst

theorem mem_hosts_insertRange (host h : Bytes) (range : SubnetRange)
    (table : List (Bytes × List SubnetRange)) :
    h ∈ (GlobalWhiteList.insertRange host range table).map Prod.fst ↔
      h = host ∨ h ∈ table.map Prod.fst := by
  induction table with
  | nil => simp [GlobalWhiteList.insertRange]
  | cons entry table ih =>
      rw [GlobalWhiteList.insertRange]
      split
      · next hentry => simp [hentry]
      · rw [List.map_cons, List.mem_cons, ih, List.map_cons, List.mem_cons]
        tauto

/-- What one entry adds. -/
theorem loadEntry_cases {whiteList whiteList' : GlobalWhiteList} {entry : Option Node}
    (h : loadEntry whiteList entry = .ok whiteList') :
    (∀ entries, entry ≠ some (.map entries)) ∧ (∃ range, whiteList' = whiteList.insert range) ∨
    ∃ entries host range, entry = some (.map entries) ∧
      field (some (.map entries)) "host" = some (.scalar host) ∧
      whiteList' = whiteList.insertFor host range := by
  unfold loadEntry at h
  split at h
  · cases h
  · next entries =>
    obtain ⟨node, hnode, h⟩ := bind_eq_ok.mp h
    obtain ⟨host, hhost, h⟩ := bind_eq_ok.mp h
    obtain ⟨_, -, h⟩ := bind_eq_ok.mp h
    obtain ⟨_, -, h⟩ := bind_eq_ok.mp h
    obtain ⟨range, -, h⟩ := bind_eq_ok.mp h
    cases h
    cases hnode
    refine .inr ⟨entries, host, range, rfl, ?_, rfl⟩
    cases hfound : Node.find? (bytes "host") (.map entries) with
    | none => rw [hfound] at hhost; cases hhost
    | some node =>
        rw [hfound, text_eq_ok] at hhost
        rw [field, Option.bind_some, hfound, hhost]
  · next entry hentry =>
    obtain ⟨_, -, h⟩ := bind_eq_ok.mp h
    obtain ⟨range, -, h⟩ := bind_eq_ok.mp h
    cases h
    refine .inl ⟨fun entries he => hentry entries ?_, range, rfl⟩
    exact Option.some.inj he

/-- A host of the configuration is a host of the list, spelled as it is. -/
theorem mem_hosts_loadConfig {cfg ips : Node} {whiteList : GlobalWhiteList}
    (h : loadConfig cfg = .ok whiteList) (hips : field (some cfg) "white_listed_ips" = some ips)
    {entries : List (Node × Node)} (hentry : some (.map entries) ∈ ips.items) {host : Bytes}
    (hhost : field (some (.map entries)) "host" = some (.scalar host)) :
    host ∈ hosts whiteList := by
  obtain ⟨node, hnode, h⟩ := bind_eq_ok.mp h
  cases (lookup_eq_ok hnode).symm.trans hips
  have h : ips.items.foldlM loadEntry ⟨[], []⟩ = .ok whiteList := h
  refine foldlM_establishes (P := fun w => host ∈ hosts w) ?_ ?_ hentry h
  · intro s x t ht hs
    rcases loadEntry_cases ht with ⟨-, range, rfl⟩ | ⟨_, host', range, -, -, rfl⟩
    · exact hs
    · exact (mem_hosts_insertRange host' host range _).mpr (.inr hs)
  · intro s t ht
    rcases loadEntry_cases ht with ⟨hmap, -⟩ | ⟨_, host', range, hmap, hhost', rfl⟩
    · exact absurd rfl (hmap entries)
    · cases hmap
      rw [hhost] at hhost'
      cases hhost'
      exact (mem_hosts_insertRange host host range _).mpr (.inl rfl)

end WhiteLister

/-! ## The regex banner -/

namespace RegexManager

variable {ρ : Type} [FloatArithmetic ρ] (R : ChallengeReader)

/-- One rule, with its number. -/
def loadRule (id : Nat) (node : Option Node) : Except ChallengeError (RatedRegex ρ) := do
  let curRule ← text (bytes "rule") (← lookup node (bytes "rule"))
  let observationInterval ← R.unsigned (bytes "interval") (← lookup node (bytes "interval"))
  let threshold ← R.unsigned (bytes "hits_per_interval")
    (← lookup node (bytes "hits_per_interval"))
  let hostsToSkip ← optional node (bytes "hosts_to_skip") [] (texts (bytes "hosts_to_skip"))
  let regex ← text (bytes "regex") (← lookup node (bytes "regex"))
  return .load id curRule regex observationInterval threshold hostsToSkip

/-- `RegexManager::load_config`. -/
def loadConfig (cfg : Node) : Except ChallengeError (List (RatedRegex ρ)) :=
  cfg.items.foldlM (fun rules node => do return rules ++ [← loadRule R rules.length node]) []

/-- The hosts of a rule are those of its node, spelled as they are. -/
theorem loadRule_hosts {R : ChallengeReader} {id : Nat} {node : Option Node} {rule : RatedRegex ρ}
    (h : loadRule R id node = .ok rule) {skip : Node}
    (hskip : field node "hosts_to_skip" = some skip) {hosts : List Bytes}
    (hhosts : IsTexts skip hosts) : rule.hostsToSkip = hosts := by
  have hne : ∀ s, node ≠ some (.scalar s) := by
    rintro s rfl
    cases hskip
  simp only [loadRule, lookup_eq hne, ok_bind] at h
  obtain ⟨_, -, h⟩ := bind_eq_ok.mp h
  obtain ⟨_, -, h⟩ := bind_eq_ok.mp h
  obtain ⟨_, -, h⟩ := bind_eq_ok.mp h
  obtain ⟨hosts', hoptional, h⟩ := bind_eq_ok.mp h
  obtain ⟨_, -, h⟩ := bind_eq_ok.mp h
  cases h
  rw [ChallengeReader.optional, lookup_eq hne, hskip, ok_bind] at hoptional
  exact Except.ok.inj (hoptional.symm.trans (texts_eq_ok.mpr hhosts))

/-- The loop only adds rules. -/
theorem loadRules_prefix {R : ChallengeReader} {rules : List (RatedRegex ρ)}
    {nodes : List (Option Node)} {before : List (RatedRegex ρ)}
    (h : nodes.foldlM (fun rules node => do return rules ++ [← loadRule R rules.length node])
      before = .ok rules) : before <+: rules := by
  induction nodes generalizing before with
  | nil => cases h; exact List.prefix_rfl
  | cons node nodes ih =>
      rw [List.foldlM_cons] at h
      obtain ⟨next, hnext, h⟩ := bind_eq_ok.mp h
      obtain ⟨rule, -, hnext⟩ := bind_eq_ok.mp hnext
      cases hnext
      exact (List.prefix_append before [rule]).trans (ih h)

/-- The rules come in the order of their nodes, after those that are already there. -/
theorem loadRules_getElem? {R : ChallengeReader} {rules : List (RatedRegex ρ)}
    {nodes : List (Option Node)} {before : List (RatedRegex ρ)}
    (h : nodes.foldlM (fun rules node => do return rules ++ [← loadRule R rules.length node])
      before = .ok rules) {i : Nat} {node : Option Node} (hnode : nodes[i]? = some node) :
    ∃ rule, rules[before.length + i]? = some rule ∧
      loadRule R (before.length + i) node = .ok rule := by
  induction nodes generalizing before i with
  | nil => cases hnode
  | cons first nodes ih =>
      rw [List.foldlM_cons] at h
      obtain ⟨next, hnext, hrest⟩ := bind_eq_ok.mp h
      obtain ⟨rule, hrule, hnext⟩ := bind_eq_ok.mp hnext
      cases hnext
      cases i with
      | zero =>
          cases hnode
          obtain ⟨more, rfl⟩ := loadRules_prefix hrest
          exact ⟨rule, by simp, hrule⟩
      | succ i =>
          have hfound := ih hrest hnode
          rw [List.length_append, List.length_singleton, Nat.add_assoc, Nat.add_comm 1] at hfound
          exact hfound

end RegexManager

end Banjax
