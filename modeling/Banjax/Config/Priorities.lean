import Banjax.Config.Outline
import Banjax.Lib.Table

/-!
# The order of the filters

A filter runs at its explicit priority, or else after all explicit ones and in the order
in which the sections of the filters appear.  `read_configuration` adds the number that
`process_config` gave the filter to the largest explicit priority.  The number starts anew
in every file, so that it orders the filters of one file only, and the first filters of two
files end up with the same priority, which stops the server.

`implicit_order_iff` says when the filters do run in the order of their sections: the ranks
of those without an explicit priority have to increase over all the files.  Without any
explicit priority this means that all filters first appear in one file
(`orderly_iff_one_file`).
-/

namespace Banjax

open Lib

namespace Reader

variable (R : Reader)

/-- The explicit priority of a filter. -/
def explicit (priorities : Node) (f : FilterName) : Option Int :=
  ((priorities.find? f.name).bind R.asInt).map Int32.toInt

/-- The list of explicit priorities, if there is one, has integers only. -/
def IntegerPriorities : Node → Prop
  | .null => True
  | .scalar _ => False
  | .sequence elements => elements = []
  | .map entries => ∀ entry ∈ entries, (R.asInt entry.2).isSome

/-- The priority that a configured filter gets. -/
def Assigned (st : Conf) (m : Int) (q : Int × FilterName) : Prop :=
  ∃ conf, st.filterConfigMap q.2 = some conf ∧
    R.filterPriority st.priorities m q.2 conf = .ok q.1

/-! ## Explicit priorities -/

variable {R}

theorem isSome_of_find? {p : Node} (h : R.IntegerPriorities p) {name : Bytes} {node : Node}
    (hf : p.find? name = some node) : (R.asInt node).isSome := by
  cases p with
  | map entries =>
      obtain ⟨entry, hentry, rfl⟩ := Option.map_eq_some_iff.mp hf
      exact h entry (List.mem_of_find?_eq_some hentry)
  | null => cases hf
  | scalar text => cases hf
  | sequence elements => cases hf

/-- The loop for the largest priority. -/
theorem foldlM_max {entries : List (Node × Node)} (h : ∀ entry ∈ entries, (R.asInt entry.2).isSome)
    {m : Int} (hlow : -2 ^ 31 ≤ m) (hhigh : m < 2 ^ 31) :
    ∃ m', (entries.map some).foldlM (fun m it => do
        let n ← match it with
          | some it => R.intOf it.2
          | none => .error .badFormat
        return max m n.toInt) m = .ok m' ∧
      (-2 ^ 31 ≤ m' ∧ m' < 2 ^ 31) ∧ m ≤ m' ∧
      ∀ entry ∈ entries, ∀ k ∈ R.asInt entry.2, k.toInt ≤ m' := by
  induction entries generalizing m with
  | nil => exact ⟨m, rfl, ⟨hlow, hhigh⟩, le_rfl, nofun⟩
  | cons entry entries ih =>
      obtain ⟨k, hk⟩ := Option.isSome_iff_exists.mp (h entry (List.mem_cons_self ..))
      have hmax : max m k.toInt < 2 ^ 31 := max_lt hhigh k.toInt_lt
      obtain ⟨m', hrun, hrange, hle, hall⟩ := ih (m := max m k.toInt)
        (fun e he => h e (List.mem_cons_of_mem _ he)) (hlow.trans (le_max_left ..)) hmax
      refine ⟨m', ?_, hrange, (le_max_left ..).trans hle, ?_⟩
      · rw [List.map_cons, List.foldlM_cons]
        dsimp only
        rw [intOf_eq_ok.mpr hk]
        exact hrun
      · intro e he j hj
        rcases List.mem_cons.mp he with rfl | he
        · cases hk.symm.trans hj
          exact (le_max_right ..).trans hle
        · exact hall e he j hj

/-- The largest explicit priority. -/
theorem maxPriority_spec {p : Node} (h : R.IntegerPriorities p) :
    ∃ m, R.maxPriority p = .ok m ∧ -2 ^ 31 ≤ m ∧ m < 2 ^ 31 ∧
      ∀ f k, R.explicit p f = some k → k ≤ m := by
  cases p with
  | null => exact ⟨0, rfl, by decide, by decide, nofun⟩
  | scalar text => cases h
  | sequence elements =>
      have hnil : elements = [] := h
      subst hnil
      exact ⟨0, rfl, by decide, by decide, nofun⟩
  | map entries =>
      cases entries with
      | nil => exact ⟨0, rfl, by decide, by decide, nofun⟩
      | cons first rest =>
          obtain ⟨k, hk⟩ := Option.isSome_iff_exists.mp (h first (List.mem_cons_self ..))
          obtain ⟨m, hrun, ⟨hlow, hhigh⟩, hle, hall⟩ := foldlM_max
            (fun e he => h e (List.mem_cons_of_mem _ he)) k.le_toInt k.toInt_lt
          refine ⟨m, ?_, hlow, hhigh, ?_⟩
          · rw [maxPriority, Node.pairs, List.map_cons]
            dsimp only
            rw [intOf_eq_ok.mpr hk]
            exact hrun
          · intro f j hj
            obtain ⟨i, hi, rfl⟩ := Option.map_eq_some_iff.mp hj
            obtain ⟨node, hnode, hint⟩ := Option.bind_eq_some_iff.mp hi
            obtain ⟨entry, hentry, rfl⟩ := Option.map_eq_some_iff.mp hnode
            rcases List.mem_cons.mp (List.mem_of_find?_eq_some hentry) with rfl | hmem
            · cases hk.symm.trans hint
              exact hle
            · exact hall entry hmem i hint

theorem isScalar_eq_false {p : Node} (h : R.IntegerPriorities p) : p.isScalar = false := by
  cases p with
  | scalar text => cases h
  | _ => rfl

/-- A filter with an explicit priority gets it. -/
theorem filterPriority_explicit {p : Node} (h : R.IntegerPriorities p) {m k : Int} {f : FilterName}
    (hf : R.explicit p f = some k) (conf : FilterConfig) : R.filterPriority p m f conf = .ok k := by
  obtain ⟨i, hi, rfl⟩ := Option.map_eq_some_iff.mp hf
  obtain ⟨node, hnode, hint⟩ := Option.bind_eq_some_iff.mp hi
  rw [filterPriority, isScalar_eq_false h, if_neg (by decide), hnode]
  dsimp only
  rw [intOf_eq_ok.mpr hint]
  rfl

/-- A filter without one comes after the largest, unless the sum overflows. -/
theorem filterPriority_implicit {p : Node} (h : R.IntegerPriorities p) {m k : Int}
    (hm : -2 ^ 31 ≤ m) {f : FilterName} (hf : R.explicit p f = none) {conf : FilterConfig} {r : Nat}
    (hr : conf.priority = r) :
    R.filterPriority p m f conf = .ok k ↔ k = m + 1 + r ∧ m + 1 + r < 2 ^ 31 := by
  have hnone : p.find? f.name = none := by
    cases hn : p.find? f.name with
    | none => rfl
    | some node =>
        obtain ⟨i, hi⟩ := Option.isSome_iff_exists.mp (isSome_of_find? h hn)
        simp [explicit, hn, hi] at hf
  rw [filterPriority, isScalar_eq_false h, if_neg (by decide), hnone]
  dsimp only
  rw [bind_eq_ok]
  simp only [addInt, hr]
  constructor
  · rintro ⟨a, ha, hk⟩
    split at ha
    · cases ha
      split at hk
      · cases hk
        omega
      · cases hk
    · cases ha
  · rintro ⟨rfl, hlt⟩
    refine ⟨m + 1, if_pos (by omega), ?_⟩
    rw [if_pos (by omega)]
    exact congrArg Except.ok (by omega)

/-! ## The loop over the filters -/

theorem Assigned.unique {st : Conf} {m a b : Int} {f : FilterName} (ha : R.Assigned st m (a, f))
    (hb : R.Assigned st m (b, f)) : a = b := by
  obtain ⟨c, hc, hca⟩ := ha
  obtain ⟨d, hd, hdb⟩ := hb
  cases hc.symm.trans hd
  exact Except.ok.inj (hca.symm.trans hdb)

/-- One round, for a filter that is configured. -/
theorem assignPriority_eq {st : Conf} {m p : Int} {f : FilterName} (h : R.Assigned st m (p, f))
    (pm : PriorityMap) : R.assignPriority st m pm f =
      if p ∈ pm.map Prod.fst then .error (.doublyAssigned p)
      else .ok (pm.orderedInsert (fun a b => a.1 ≤ b.1) (p, f)) := by
  obtain ⟨conf, hconf, hp⟩ := h
  rw [assignPriority, hconf]
  dsimp only
  rw [hp]
  rfl

/-- The table that the loop leaves, and the filters for which it did not stop. -/
theorem foldlM_assign {st : Conf} {m : Int} {fs : List FilterName} {pm pm' : PriorityMap}
    (hinc : Increasing pm) (h : fs.foldlM (R.assignPriority st m) pm = .ok pm') :
    Increasing pm' ∧ (∀ q, q ∈ pm' ↔ q ∈ pm ∨ q.2 ∈ fs ∧ R.Assigned st m q) ∧
      ∀ f ∈ fs, st.filterConfigMap f ≠ none → ∃ p, R.Assigned st m (p, f) := by
  induction fs generalizing pm with
  | nil =>
      cases h
      exact ⟨hinc, by simp, nofun⟩
  | cons f fs ih =>
      rw [List.foldlM_cons] at h
      obtain ⟨pm₁, hround, hrest⟩ := bind_eq_ok.mp h
      cases hconf : st.filterConfigMap f with
      | none =>
          rw [assignPriority, hconf] at hround
          cases hround
          obtain ⟨hinc', hmem, hall⟩ := ih hinc hrest
          have hnot : ∀ p, ¬ R.Assigned st m (p, f) := by
            rintro p ⟨conf, hc, _⟩
            cases hconf.symm.trans hc
          refine ⟨hinc', ?_, ?_⟩
          · rintro ⟨p, g⟩
            rw [hmem, List.mem_cons]
            constructor
            · rintro (hq | ⟨hg, ha⟩)
              · exact .inl hq
              · exact .inr ⟨.inr hg, ha⟩
            · rintro (hq | ⟨rfl | hg, ha⟩)
              · exact .inl hq
              · exact absurd ha (hnot p)
              · exact .inr ⟨hg, ha⟩
          · intro g hg hne
            rcases List.mem_cons.mp hg with rfl | hg
            · exact absurd hconf hne
            · exact hall g hg hne
      | some conf =>
          have hround' := hround
          rw [assignPriority, hconf] at hround'
          obtain ⟨p, hp, _⟩ := bind_eq_ok.mp hround'
          have hassigned : R.Assigned st m (p, f) := ⟨conf, hconf, hp⟩
          rw [assignPriority_eq hassigned] at hround
          split at hround
          · cases hround
          next hfree =>
          cases hround
          obtain ⟨hinc', hmem, hall⟩ := ih (hinc.orderedInsert f hfree) hrest
          refine ⟨hinc', ?_, ?_⟩
          · rintro ⟨k, g⟩
            rw [hmem, List.mem_orderedInsert, List.mem_cons]
            constructor
            · rintro ((hq | hq) | ⟨hg, ha⟩)
              · cases hq
                exact .inr ⟨.inl rfl, hassigned⟩
              · exact .inl hq
              · exact .inr ⟨.inr hg, ha⟩
            · rintro (hq | ⟨rfl | hg, ha⟩)
              · exact .inl (.inr hq)
              · exact .inl (.inl (by rw [ha.unique hassigned]))
              · exact .inr ⟨hg, ha⟩
          · intro g hg hne
            rcases List.mem_cons.mp hg with rfl | hg
            · exact ⟨p, hassigned⟩
            · exact hall g hg hne

/-- Whatever the configuration is, the priorities differ and each filter has one. -/
theorem readConfiguration_priorities {fuel : Nat} {st : Conf} {pm : PriorityMap}
    (h : R.readConfiguration fuel = .ok (st, pm)) :
    Increasing pm ∧ (pm.map Prod.snd).Nodup := by
  obtain ⟨cfg, _, h⟩ := bind_eq_ok.mp h
  obtain ⟨st', _, h⟩ := bind_eq_ok.mp h
  obtain ⟨pm', hpm, h⟩ := bind_eq_ok.mp h
  cases h
  obtain ⟨m, _, hpm⟩ := bind_eq_ok.mp hpm
  obtain ⟨hinc, hmem, _⟩ := foldlM_assign List.Pairwise.nil hpm
  refine ⟨hinc, List.Nodup.map_on ?_ (hinc.imp fun hlt heq => absurd hlt (by simp [heq]))⟩
  rintro ⟨a, f⟩ ha ⟨b, g⟩ hb rfl
  have hassigned : ∀ c, (c, f) ∈ pm → R.Assigned st m (c, f) := by
    intro c hc
    rcases (hmem _).mp hc with hc | ⟨_, hc⟩
    · cases hc
    · exact hc
  rw [(hassigned a ha).unique (hassigned b hb)]

/-- The loop does not stop when the priorities exist and differ. -/
theorem foldlM_assign_exists {st : Conf} {m : Int} {fs : List FilterName} (hnodup : fs.Nodup)
    (htotal : ∀ f ∈ fs, st.filterConfigMap f ≠ none → ∃ p, R.Assigned st m (p, f))
    (hdiff : ∀ p f g, R.Assigned st m (p, f) → R.Assigned st m (p, g) → f = g)
    (pm : PriorityMap) (hpm : ∀ q ∈ pm, R.Assigned st m q ∧ q.2 ∉ fs) :
    ∃ pm', fs.foldlM (R.assignPriority st m) pm = .ok pm' := by
  induction fs generalizing pm with
  | nil => exact ⟨pm, rfl⟩
  | cons f fs ih =>
      obtain ⟨hf, hnodup'⟩ := List.nodup_cons.mp hnodup
      have htotal' := fun g hg => htotal g (List.mem_cons_of_mem _ hg)
      have hkept : ∀ q ∈ pm, R.Assigned st m q ∧ q.2 ∉ fs :=
        fun q hq => ⟨(hpm q hq).1, fun hmem => (hpm q hq).2 (List.mem_cons_of_mem _ hmem)⟩
      rw [List.foldlM_cons]
      cases hconf : st.filterConfigMap f with
      | none =>
          obtain ⟨pm', hpm'⟩ := ih hnodup' htotal' pm hkept
          refine ⟨pm', ?_⟩
          rw [assignPriority, hconf]
          exact hpm'
      | some conf =>
          obtain ⟨p, hp⟩ := htotal f (List.mem_cons_self ..) (by simp [hconf])
          have hfree : p ∉ pm.map Prod.fst := by
            intro hmem
            obtain ⟨q, hq, rfl⟩ := List.mem_map.mp hmem
            exact (hpm q hq).2 (hdiff _ _ _ (hpm q hq).1 hp ▸ List.mem_cons_self ..)
          rw [assignPriority_eq hp, if_neg hfree, ok_bind]
          refine ih hnodup' htotal' _ ?_
          intro q hq
          rcases (List.mem_orderedInsert _).mp hq with rfl | hq
          · exact ⟨hp, hf⟩
          · exact hkept q hq

/-! ## The order -/

variable (R)

/-- The filter has no explicit priority. -/
def isImplicit (o : Outline) (f : FilterName) : Bool := (R.explicit o.priorities f).isNone

/-- The filters run after all explicit ones and in the order of their first sections. -/
structure KeepsOrder (o : Outline) (pm : PriorityMap) : Prop where
  /-- The priorities are distinct, and the map is iterated in their order. -/
  increasing : Increasing pm
  configured : ∀ f, f ∈ pm.map Prod.snd ↔ f ∈ o.names
  order : ∃ explicitOnes : List FilterName, (∀ f ∈ explicitOnes, R.isImplicit o f = false) ∧
    pm.map Prod.snd = explicitOnes ++ o.names.filter (R.isImplicit o) ∧
    ∀ queue, buildFilters pm queue =
      (explicitOnes ++ o.names.filter (R.isImplicit o)).filter (·.queued = queue)

/-- The explicit priorities are distinct, they leave room for the others, and the ranks of
the filters without one increase. -/
structure Orderly (o : Outline) : Prop where
  explicit_inj : ∀ f ∈ o.names, ∀ g ∈ o.names, R.isImplicit o f = false →
    R.explicit o.priorities f = R.explicit o.priorities g → f = g
  room : ∀ m, R.maxPriority o.priorities = .ok m → ∀ x ∈ o.firsts,
    R.isImplicit o x.filter = true → m + 1 + x.rank < 2 ^ 31
  ranks : (o.firsts.filter fun x => R.isImplicit o x.filter).Pairwise fun x y => x.rank < y.rank

variable {R}

theorem buildFilters_eq (pm : PriorityMap) (queue : ExecutionQueue) :
    buildFilters pm queue = (pm.map Prod.snd).filter (·.queued = queue) := by
  have hfold : ∀ tasks : List FilterName,
      pm.foldl (fun tasks p => if p.2.queued = queue then tasks ++ [p.2] else tasks) tasks =
        tasks ++ (pm.map Prod.snd).filter (·.queued = queue) := by
    induction pm with
    | nil => simp
    | cons p pm ih =>
        intro tasks
        rw [List.foldl_cons, ih]
        by_cases hq : p.2.queued = queue <;> simp [hq]
  exact hfold []

variable (R) in
/-- What is known when the priorities are assigned. -/
structure Ready (st : Conf) (o : Outline) (m : Int) : Prop where
  tracks : Tracks (st, []) o
  integers : R.IntegerPriorities o.priorities
  max : R.maxPriority o.priorities = .ok m
  low : -2 ^ 31 ≤ m
  le_max : ∀ f k, R.explicit o.priorities f = some k → k ≤ m

/-- The priorities of the configured filters. -/
theorem Ready.assigned_iff {st : Conf} {o : Outline} {m : Int} (h : R.Ready st o m) {x : First}
    (hx : x ∈ o.firsts) (p : Int) : R.Assigned st m (p, x.filter) ↔
      R.explicit o.priorities x.filter = some p ∨
        R.isImplicit o x.filter = true ∧ p = m + 1 + x.rank ∧ m + 1 + x.rank < 2 ^ 31 := by
  obtain ⟨conf, hconf, hrank⟩ := h.tracks.ranked x hx
  have hprio : st.priorities = o.priorities := h.tracks.priorities
  have hiff : R.Assigned st m (p, x.filter) ↔
      R.filterPriority o.priorities m x.filter conf = .ok p := by
    constructor
    · rintro ⟨c, hc, hp⟩
      cases hconf.symm.trans hc
      exact hprio ▸ hp
    · intro hp
      exact ⟨conf, hconf, hprio.symm ▸ hp⟩
  rw [hiff, isImplicit]
  cases hex : R.explicit o.priorities x.filter with
  | some k =>
      rw [filterPriority_explicit h.integers hex conf]
      simp
  | none =>
      rw [filterPriority_implicit h.integers h.low hex hrank]
      simp

theorem Ready.names_of_assigned {st : Conf} {o : Outline} {m : Int} (h : R.Ready st o m)
    {q : Int × FilterName} (hq : R.Assigned st m q) : ∃ x ∈ o.firsts, x.filter = q.2 := by
  obtain ⟨conf, hconf, _⟩ := hq
  by_contra hno
  have hnot : q.2 ∉ o.names := fun hmem => hno (List.mem_map.mp hmem)
  cases hconf.symm.trans (h.tracks.unseen q.2 hnot)

theorem Ready.assignPriorities_eq {st : Conf} {o : Outline} {m : Int} (h : R.Ready st o m) :
    R.assignPriorities st = FilterName.alphabetical.foldlM (R.assignPriority st m) [] := by
  have hprio : st.priorities = o.priorities := h.tracks.priorities
  rw [assignPriorities, hprio, h.max]
  rfl

/-- The map has the priorities of the configured filters. -/
theorem Ready.map_spec {st : Conf} {o : Outline} {m : Int} (h : R.Ready st o m) {pm : PriorityMap}
    (hpm : R.assignPriorities st = .ok pm) :
    Increasing pm ∧ (∀ q, q ∈ pm ↔ R.Assigned st m q) ∧
      ∀ x ∈ o.firsts, ∃ p, R.Assigned st m (p, x.filter) := by
  rw [h.assignPriorities_eq] at hpm
  obtain ⟨hinc, hmem, hall⟩ := foldlM_assign List.Pairwise.nil hpm
  refine ⟨hinc, ?_, ?_⟩
  · intro q
    rw [hmem]
    simp [FilterName.mem_alphabetical]
  · intro x hx
    obtain ⟨conf, hconf, _⟩ := h.tracks.ranked x hx
    have hne : st.filterConfigMap x.filter ≠ none := Option.ne_none_iff_exists'.mpr ⟨conf, hconf⟩
    exact hall x.filter (FilterName.mem_alphabetical _) hne

theorem isImplicit_iff {o : Outline} {f : FilterName} :
    R.isImplicit o f = true ↔ R.explicit o.priorities f = none := Option.isNone_iff_eq_none

theorem exists_explicit {o : Outline} {f : FilterName} (h : R.isImplicit o f = false) :
    ∃ k, R.explicit o.priorities f = some k := by
  cases hex : R.explicit o.priorities f with
  | none => simp [isImplicit, hex] at h
  | some k => exact ⟨k, rfl⟩

/-- Orderly priorities are assigned once each. -/
theorem Ready.assigned_inj {st : Conf} {o : Outline} {m : Int} (h : R.Ready st o m)
    (ho : R.Orderly o) {p : Int} {f g : FilterName} (hf : R.Assigned st m (p, f))
    (hg : R.Assigned st m (p, g)) : f = g := by
  obtain ⟨x, hx, rfl⟩ := h.names_of_assigned hf
  obtain ⟨y, hy, rfl⟩ := h.names_of_assigned hg
  rcases (h.assigned_iff hx p).mp hf with hex | ⟨hix, hpx, _⟩
  · rcases (h.assigned_iff hy p).mp hg with hey | ⟨_, hpy, _⟩
    · exact ho.explicit_inj _ (List.mem_map_of_mem hx) _ (List.mem_map_of_mem hy)
        (by simp [isImplicit, hex]) (hex.trans hey.symm)
    · have hle := h.le_max _ p hex
      omega
  · rcases (h.assigned_iff hy p).mp hg with hey | ⟨hiy, hpy, _⟩
    · have hle := h.le_max _ p hey
      omega
    · have hranks : ((o.firsts.filter fun x => R.isImplicit o x.filter).map First.rank).Nodup := by
        rw [List.Nodup, List.pairwise_map]
        exact ho.ranks.imp fun hlt => hlt.ne
      have hxy := List.inj_on_of_nodup_map hranks (List.mem_filter.mpr ⟨hx, hix⟩)
        (List.mem_filter.mpr ⟨hy, hiy⟩) (by omega)
      rw [hxy]

/-- The implicit filters at the end of an increasing map. -/
theorem Ready.implicit_entries {st : Conf} {o : Outline} {m : Int} (h : R.Ready st o m)
    {pm : PriorityMap} (hpm : R.assignPriorities st = .ok pm) {q : Int × FilterName} :
    q ∈ pm ∧ R.isImplicit o q.2 = true ↔
      q ∈ (o.firsts.filter fun x => R.isImplicit o x.filter).map
        fun x => (m + 1 + x.rank, x.filter) := by
  obtain ⟨_, hmem, htotal⟩ := h.map_spec hpm
  constructor
  · rintro ⟨hq, himp⟩
    have hassigned := (hmem q).mp hq
    obtain ⟨x, hx, hxq⟩ := h.names_of_assigned hassigned
    obtain ⟨p, f⟩ := q
    subst hxq
    rcases (h.assigned_iff hx p).mp hassigned with hex | ⟨_, hp, _⟩
    · rw [isImplicit_iff.mp himp] at hex
      cases hex
    · exact List.mem_map.mpr ⟨x, List.mem_filter.mpr ⟨hx, himp⟩, by rw [hp]⟩
  · intro hq
    obtain ⟨x, hx, rfl⟩ := List.mem_map.mp hq
    obtain ⟨hx, himp⟩ := List.mem_filter.mp hx
    refine ⟨?_, himp⟩
    obtain ⟨p, hp⟩ := htotal x hx
    rcases (h.assigned_iff hx p).mp hp with hex | ⟨_, rfl, _⟩
    · rw [isImplicit_iff.mp himp] at hex
      cases hex
    · exact (hmem _).mpr hp

theorem implicit_names (o : Outline) :
    o.names.filter (R.isImplicit o) =
      (o.firsts.filter fun x => R.isImplicit o x.filter).map First.filter := by
  rw [Outline.names, List.filter_map]
  rfl

/-- The explicit entries come before the others. -/
theorem Ready.explicit_le {st : Conf} {o : Outline} {m : Int} (h : R.Ready st o m)
    {q : Int × FilterName} (hq : R.Assigned st m q) (hex : R.isImplicit o q.2 = false) :
    q.1 ≤ m := by
  obtain ⟨x, hx, hxq⟩ := h.names_of_assigned hq
  obtain ⟨p, f⟩ := q
  subst hxq
  rcases (h.assigned_iff hx p).mp hq with hk | ⟨himp, _⟩
  · exact h.le_max _ p hk
  · rw [hex] at himp
    cases himp

/-- Orderly configurations keep the order. -/
theorem Ready.keepsOrder {st : Conf} {o : Outline} {m : Int} (h : R.Ready st o m)
    (ho : R.Orderly o) : ∃ pm, R.assignPriorities st = .ok pm ∧ R.KeepsOrder o pm := by
  have htotal : ∀ f ∈ FilterName.alphabetical, st.filterConfigMap f ≠ none →
      ∃ p, R.Assigned st m (p, f) := by
    intro f _ hconf
    have hf : f ∈ o.names := by
      by_contra hnot
      exact hconf (h.tracks.unseen f hnot)
    obtain ⟨x, hx, rfl⟩ := List.mem_map.mp hf
    cases himp : R.isImplicit o x.filter with
    | false =>
        obtain ⟨k, hk⟩ := exists_explicit himp
        exact ⟨k, (h.assigned_iff hx k).mpr (.inl hk)⟩
    | true =>
        exact ⟨_, (h.assigned_iff hx _).mpr (.inr ⟨himp, rfl, ho.room m h.max x hx himp⟩)⟩
  obtain ⟨pm, hpm⟩ := foldlM_assign_exists FilterName.alphabetical_nodup htotal
    (fun _ _ _ hf hg => h.assigned_inj ho hf hg) [] nofun
  rw [← h.assignPriorities_eq] at hpm
  obtain ⟨hinc, hmem, hall⟩ := h.map_spec hpm
  -- The explicit entries, and the others in the order of their ranks.
  have hsplit : pm = pm.filter (fun q => !R.isImplicit o q.2) ++
      (o.firsts.filter fun x => R.isImplicit o x.filter).map
        fun x => (m + 1 + x.rank, x.filter) := by
    refine hinc.ext (List.pairwise_append.mpr ⟨hinc.sublist List.filter_sublist, ?_, ?_⟩) ?_
    · rw [List.pairwise_map]
      exact ho.ranks.imp fun hlt => by omega
    · intro q hq q' hq'
      obtain ⟨hq, hex⟩ := List.mem_filter.mp hq
      obtain ⟨x, _, rfl⟩ := List.mem_map.mp hq'
      have hle := h.explicit_le ((hmem q).mp hq) (by simpa using hex)
      dsimp only
      omega
    · intro q
      rw [List.mem_append, List.mem_filter, ← h.implicit_entries hpm]
      cases R.isImplicit o q.2 <;> simp
  have hnames : pm.map Prod.snd = (pm.filter fun q => !R.isImplicit o q.2).map Prod.snd ++
      o.names.filter (R.isImplicit o) := by
    refine (congrArg (List.map Prod.snd) hsplit).trans ?_
    rw [List.map_append, List.map_map, implicit_names]
    rfl
  refine ⟨pm, hpm, hinc, ?_, _, ?_, hnames, ?_⟩
  · intro f
    constructor
    · intro hf
      obtain ⟨q, hq, rfl⟩ := List.mem_map.mp hf
      obtain ⟨x, hx, hxq⟩ := h.names_of_assigned ((hmem q).mp hq)
      exact List.mem_map.mpr ⟨x, hx, hxq⟩
    · intro hf
      obtain ⟨x, hx, rfl⟩ := List.mem_map.mp hf
      obtain ⟨p, hp⟩ := hall x hx
      exact List.mem_map.mpr ⟨(p, x.filter), (hmem _).mpr hp, rfl⟩
  · intro f hf
    obtain ⟨q, hq, rfl⟩ := List.mem_map.mp hf
    simpa using (List.mem_filter.mp hq).2
  · intro queue
    rw [buildFilters_eq, hnames]

/-- Only orderly configurations do. -/
theorem Ready.orderly {st : Conf} {o : Outline} {m : Int} (h : R.Ready st o m) {pm : PriorityMap}
    (hpm : R.assignPriorities st = .ok pm) (hk : R.KeepsOrder o pm) : R.Orderly o := by
  obtain ⟨hinc, hmem, hall⟩ := h.map_spec hpm
  obtain ⟨explicitOnes, hexplicit, hnames, _⟩ := hk.order
  refine ⟨?_, ?_, ?_⟩
  · intro f hf g hg hex heq
    obtain ⟨x, hx, rfl⟩ := List.mem_map.mp hf
    obtain ⟨y, hy, rfl⟩ := List.mem_map.mp hg
    obtain ⟨k, hk⟩ := exists_explicit hex
    have hfk := (hmem _).mpr ((h.assigned_iff hx k).mpr (.inl hk))
    have hgk := (hmem _).mpr ((h.assigned_iff hy k).mpr (.inl (heq ▸ hk)))
    exact hinc.key_inj hfk hgk
  · intro m' hm' x hx himp
    cases h.max.symm.trans hm'
    obtain ⟨p, hp⟩ := hall x hx
    rcases (h.assigned_iff hx p).mp hp with hex | ⟨_, _, hroom⟩
    · rw [isImplicit_iff.mp himp] at hex
      cases hex
    · exact hroom
  · -- The implicit filters are the last ones of the map, in the order of their priorities.
    obtain ⟨front, back, rfl, _, hback⟩ := List.map_eq_append_iff.mp hnames
    let key : FilterName → Int :=
      fun f => m + 1 + ((st.filterConfigMap f).map FilterConfig.priority).getD 0
    have hkey : ∀ x ∈ o.firsts, key x.filter = m + 1 + x.rank := by
      intro x hx
      obtain ⟨conf, hconf, hrank⟩ := h.tracks.ranked x hx
      rw [← hrank]
      exact congrArg (fun c => m + 1 + (Option.map FilterConfig.priority c).getD 0) hconf
    have hvalues : ∀ q ∈ back, q.1 = key q.2 := by
      intro q hq
      have himp : q.2 ∈ o.names.filter (R.isImplicit o) := hback ▸ List.mem_map_of_mem hq
      obtain ⟨x, hx, rfl⟩ := List.mem_map.mp ((h.implicit_entries hpm).mp
        ⟨List.mem_append_right _ hq, (List.mem_filter.mp himp).2⟩)
      exact (hkey x (List.mem_filter.mp hx).1).symm
    have hinc' : Increasing back := (List.pairwise_append.mp hinc).2.1
    have hpairs := hinc'.values hvalues
    rw [hback, implicit_names, List.pairwise_map] at hpairs
    refine hpairs.imp_of_mem ?_
    intro x y hx hy hlt
    rw [hkey x (List.mem_filter.mp hx).1, hkey y (List.mem_filter.mp hy).1] at hlt
    omega

/-- When all filters first appear in one file, their ranks are their places. -/
theorem ranks_of_one_file {o : Outline} (hcounts : o.CountsRanks)
    (hfile : ∀ x ∈ o.firsts, ∀ y ∈ o.firsts, x.file = y.file) {front back : List First}
    (heq : o.firsts = front ++ back) :
    front.Pairwise (fun x y => x.rank < y.rank) ∧ ∀ x ∈ front, x.rank < front.length := by
  induction front using List.reverseRecOn generalizing back with
  | nil => exact ⟨.nil, nofun⟩
  | append_singleton front y ih =>
      rw [List.append_assoc] at heq
      obtain ⟨hpair, hlt⟩ := ih heq
      have hrank : y.rank = front.length := by
        rw [hcounts front y back heq, List.countP_eq_length]
        intro x hx
        simpa using hfile x (by simp [heq, hx]) y (by simp [heq])
      refine ⟨List.pairwise_append.mpr ⟨hpair, List.pairwise_singleton .., ?_⟩, ?_⟩
      · intro x hx z hz
        rw [List.mem_singleton.mp hz, hrank]
        exact hlt x hx
      · intro x hx
        rw [List.length_append, List.length_singleton]
        rcases List.mem_append.mp hx with hx | hx
        · exact Nat.lt_succ_of_lt (hlt x hx)
        · rw [List.mem_singleton.mp hx, hrank]
          exact Nat.lt_succ_self _

/-- The first filter of another file has rank 0, as the very first filter has. -/
theorem one_file_of_ranks {o : Outline} (hcounts : o.CountsRanks)
    (hranks : o.firsts.Pairwise fun x y => x.rank < y.rank) {front back : List First}
    (heq : o.firsts = front ++ back) : ∀ x ∈ front, ∀ y ∈ front, x.file = y.file := by
  induction front using List.reverseRecOn generalizing back with
  | nil => exact nofun
  | append_singleton front z ih =>
      rw [List.append_assoc] at heq
      have hfront := ih heq
      have hz : ∀ x ∈ front, x.file = z.file := by
        intro x hx
        by_contra hne
        have hzero : z.rank = 0 := by
          rw [hcounts front z back heq, List.countP_eq_zero]
          intro y hy
          simpa [hfront y hy x hx] using hne
        rw [heq, List.pairwise_append] at hranks
        have hlt := hranks.2.2 x hx z (List.mem_cons_self ..)
        omega
      intro x hx y hy
      rcases List.mem_append.mp hx with hx | hx
      · rcases List.mem_append.mp hy with hy | hy
        · exact hfront x hx y hy
        · rw [List.mem_singleton.mp hy]
          exact hz x hx
      · rw [List.mem_singleton.mp hx]
        rcases List.mem_append.mp hy with hy | hy
        · exact (hz y hy).symm
        · rw [List.mem_singleton.mp hy]

/-- Without explicit priorities, only filters that first appear in one and the same file
are in order. -/
theorem orderly_iff_one_file {fuel : Nat} {cfg : Node} {st : Conf}
    (hproc : R.processConfig fuel cfg Conf.init = .ok st)
    (hnone : (outline (R.reading fuel cfg)).priorities = .null) :
    R.Orderly (outline (R.reading fuel cfg)) ↔
      ∀ x ∈ (outline (R.reading fuel cfg)).firsts, ∀ y ∈ (outline (R.reading fuel cfg)).firsts,
        x.file = y.file := by
  have hcounts := countsRanks_outline (R.reading fuel cfg)
  have hnodup := (tracks_of_processConfig hproc).names_nodup
  generalize outline (R.reading fuel cfg) = o at *
  have himp : ∀ f, R.isImplicit o f = true := by
    intro f
    rw [isImplicit, hnone]
    rfl
  have hall : (o.firsts.filter fun x => R.isImplicit o x.filter) = o.firsts :=
    List.filter_eq_self.mpr fun x _ => himp x.filter
  constructor
  · intro ho
    have hranks := ho.ranks
    rw [hall] at hranks
    exact one_file_of_ranks hcounts hranks (List.append_nil _).symm
  · intro hfile
    obtain ⟨hpair, hlt⟩ := ranks_of_one_file hcounts hfile (List.append_nil _).symm
    refine ⟨fun f _ _ _ hex => absurd (himp f) (by simp [hex]), ?_, by rw [hall]; exact hpair⟩
    intro m hm x hx _
    rw [hnone] at hm
    cases hm
    have hlen : o.firsts.length ≤ 5 := by
      have hsub :=
        (List.subperm_of_subset hnodup fun f _ => FilterName.mem_alphabetical f).length_le
      rwa [Outline.names, List.length_map] at hsub
    have hrank := hlt x hx
    omega

/-- The configured filters get distinct priorities and run after all explicit ones in the
order of their first sections exactly when the explicit priorities are distinct and leave
room, and the ranks of the other filters increase over the whole reading. -/
theorem implicit_order_iff {fuel : Nat} {cfg : Node} {st : Conf}
    (hload : R.load (bytes "banjax.conf") = .ok cfg)
    (hproc : R.processConfig fuel cfg Conf.init = .ok st)
    (hint : R.IntegerPriorities (outline (R.reading fuel cfg)).priorities) :
    (∃ pm, R.readConfiguration fuel = .ok (st, pm) ∧
        R.KeepsOrder (outline (R.reading fuel cfg)) pm) ↔
      R.Orderly (outline (R.reading fuel cfg)) := by
  obtain ⟨m, hmax, hlow, _, hle⟩ := maxPriority_spec hint
  have hready : R.Ready st (outline (R.reading fuel cfg)) m :=
    ⟨tracks_of_processConfig hproc, hint, hmax, hlow, hle⟩
  have hread : ∀ pm, R.readConfiguration fuel = .ok (st, pm) ↔ R.assignPriorities st = .ok pm := by
    intro pm
    rw [readConfiguration, hload, ok_bind, hproc, ok_bind, bind_eq_ok]
    constructor
    · rintro ⟨a, ha, he⟩
      cases he
      exact ha
    · intro ha
      exact ⟨pm, ha, rfl⟩
  constructor
  · rintro ⟨pm, hpm, hk⟩
    exact hready.orderly ((hread pm).mp hpm) hk
  · intro ho
    obtain ⟨pm, hpm, hk⟩ := hready.keepsOrder ho
    exact ⟨pm, (hread pm).mpr hpm, hk⟩

/-- Two files, of which the first may include the second. -/
def sampleFiles (main included : Node) : Reader where
  banjaxConfigDir := bytes "/etc/banjax"
  loadFile location :=
    if location = bytes "/etc/banjax/banjax.conf" then .ok main
    else if location = bytes "/etc/banjax/banjax.d/site.conf" then .ok included
    else .error .badFile
  asInt _ := none

/-- A section without any content. -/
def sampleSection (name : String) : Node × Node := (.scalar (bytes name), .null)

/-- The entry that includes the second file. -/
def sampleInclude : Node × Node :=
  (.scalar (bytes "include"), .sequence [.scalar (bytes "banjax.d/site.conf")])

/-- The filters of the first file, with an included file that goes on with one of them. -/
def sampleMerged : Node :=
  .map [sampleSection "white_lister", sampleInclude, sampleSection "challenger"]

theorem implicit_order_merged :
    ∃ st pm, (sampleFiles sampleMerged (.map [sampleSection "white_lister"])).readConfiguration 2 =
        .ok (st, pm) ∧
      pm.map Prod.snd = [.whiteLister, .challenger] := by
  have hfirsts : (outline ((sampleFiles sampleMerged
      (.map [sampleSection "white_lister"])).reading 2 sampleMerged)).firsts =
      [⟨0, 0, .whiteLister⟩, ⟨0, 1, .challenger⟩] := rfl
  obtain ⟨pm, hread, hk⟩ := (implicit_order_iff
    (R := sampleFiles sampleMerged (.map [sampleSection "white_lister"]))
    (show load _ (bytes "banjax.conf") = .ok sampleMerged from rfl)
    (show processConfig _ 2 sampleMerged Conf.init = .ok _ from rfl) trivial).mpr (by
      refine ⟨nofun, ?_, ?_⟩
      · rintro m ⟨⟩
        rw [hfirsts]
        decide
      · rw [hfirsts]
        decide)
  obtain ⟨explicitOnes, hexplicit, hnames, _⟩ := hk.order
  cases explicitOnes with
  | nil => exact ⟨_, pm, hread, hnames⟩
  | cons f fs => cases hexplicit f (List.mem_cons_self ..)

/-- The first filters of two files get the same priority. -/
theorem doubly_assigned_by_include :
    ∃ st, (sampleFiles (.map [sampleSection "challenger", sampleInclude])
          (.map [sampleSection "regex_banner"])).processConfig 2
          (.map [sampleSection "challenger", sampleInclude]) Conf.init = .ok st ∧
      st.priorities = .null ∧
      (sampleFiles (.map [sampleSection "challenger", sampleInclude])
        (.map [sampleSection "regex_banner"])).readConfiguration 2 = .error (.doublyAssigned 1) :=
  ⟨_, rfl, rfl, rfl⟩

end Reader

end Banjax
