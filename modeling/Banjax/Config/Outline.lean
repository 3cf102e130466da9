import Banjax.Config.Reading

/-!
# Where the filters first appear

The outline of a reading lists the filters in the order in which their sections first
appear, each with the file it appears in and its rank there, which is the number of filters
that first appear in the same file before it.  Files are numbered as they are entered, so
that a file that is included twice counts twice.

`tracks_of_processConfig` says that `process_config` numbers every filter by its rank.
-/

namespace Banjax

open Lib

/-- The first section of a filter. -/
structure First where
  file : Nat
  rank : Nat
  filter : FilterName
deriving DecidableEq

/-- What a reading has shown so far. -/
structure Outline where
  /-- The files that are being read, innermost first. -/
  opened : List Nat := []
  /-- How many files have been entered. -/
  files : Nat := 0
  firsts : List First := []
  priorities : Node := .null

namespace Outline

/-- The number of filters that first appear in the file. -/
def rankIn (o : Outline) (file : Nat) : Nat := o.firsts.countP (·.file = file)

/-- The filters, in the order in which they first appear. -/
def names (o : Outline) : List FilterName := o.firsts.map First.filter

/-- A section of a filter. -/
def appear (o : Outline) (f : FilterName) : Outline :=
  let file := o.opened.headD 0
  if f ∈ o.names then o else { o with firsts := o.firsts ++ [⟨file, o.rankIn file, f⟩] }

def step (o : Outline) : Item → Outline
  | .enter => { o with opened := o.files :: o.opened, files := o.files + 1 }
  | .leave => { o with opened := o.opened.tail }
  | .sect nodeName it =>
      match FilterName.ofName? nodeName with
      | some f => o.appear f
      | none => if nodeName = bytes "priority" then { o with priorities := it.2 } else o
  | .fails _ => o

end Outline

/-- The outline of a reading. -/
def outline (items : List Item) : Outline := items.foldl Outline.step {}

/-- The rank of a filter counts the earlier filters of its file. -/
def Outline.CountsRanks (o : Outline) : Prop :=
  ∀ front x back, o.firsts = front ++ x :: back → x.rank = front.countP (·.file = x.file)

theorem Outline.CountsRanks.appear {o : Outline} (h : o.CountsRanks) (f : FilterName) :
    (o.appear f).CountsRanks := by
  rw [Outline.appear]
  split
  · exact h
  intro front x back heq
  -- The new filter is the last one, and the others are as they were.
  rcases List.eq_nil_or_concat back with rfl | ⟨back, y, rfl⟩
  · obtain ⟨rfl, hx⟩ := List.append_inj' heq rfl
    cases hx
    rfl
  · rw [List.concat_eq_append, ← List.cons_append, ← List.append_assoc] at heq
    exact h front x back (List.append_inj' heq rfl).1

theorem countsRanks_outline (items : List Item) : (outline items).CountsRanks := by
  induction items using List.reverseRecOn with
  | nil =>
      intro front x back heq
      exact absurd heq.symm (List.append_ne_nil_of_right_ne_nil _ (List.cons_ne_nil _ _))
  | append_singleton items item ih =>
      rw [outline, List.foldl_append]
      cases item with
      | enter => exact ih
      | leave => exact ih
      | sect nodeName it =>
          rw [List.foldl_cons, List.foldl_nil, Outline.step]
          cases FilterName.ofName? nodeName with
          | some f => exact ih.appear f
          | none =>
              dsimp only
              split
              · exact ih
              · exact ih
      | fails a => exact ih

/-- The configuration numbers every filter by its rank, and each file that is being read
counts the filters that first appear in it. -/
structure Tracks (s : Conf × List Int) (o : Outline) : Prop where
  counters : s.2 = o.opened.map fun file => (o.rankIn file : Int)
  opened_nodup : o.opened.Nodup
  opened_lt : ∀ file ∈ o.opened, file < o.files
  firsts_lt : ∀ x ∈ o.firsts, x.file < o.files
  priorities : s.1.priorities = o.priorities
  names_nodup : o.names.Nodup
  unseen : ∀ f, f ∉ o.names → s.1.filterConfigMap f = none
  ranked : ∀ x ∈ o.firsts, ∃ conf, s.1.filterConfigMap x.filter = some conf ∧
    conf.priority = x.rank

theorem tracks_init : Tracks (Conf.init, []) {} where
  counters := rfl
  opened_nodup := .nil
  opened_lt := nofun
  firsts_lt := nofun
  priorities := rfl
  names_nodup := .nil
  unseen _ _ := rfl
  ranked := nofun

theorem Outline.rankIn_fresh {o : Outline} {file : Nat} (h : ∀ x ∈ o.firsts, x.file < file) :
    o.rankIn file = 0 := by
  rw [rankIn, List.countP_eq_zero]
  intro x hx
  simpa using (h x hx).ne

theorem Tracks.enter {s : Conf × List Int} {o : Outline} (h : Tracks s o) :
    Tracks (s.1.reset, 0 :: s.2) (o.step .enter) where
  counters := by
    rw [h.counters]
    exact congrArg (· :: _) (congrArg Nat.cast (Outline.rankIn_fresh h.firsts_lt)).symm
  opened_nodup := List.nodup_cons.mpr ⟨fun hm => absurd (h.opened_lt _ hm) (lt_irrefl _),
    h.opened_nodup⟩
  opened_lt := by
    intro file hfile
    rcases List.mem_cons.mp hfile with rfl | hfile
    · exact Nat.lt_succ_self _
    · exact Nat.lt_succ_of_lt (h.opened_lt file hfile)
  firsts_lt x hx := Nat.lt_succ_of_lt (h.firsts_lt x hx)
  priorities := h.priorities
  names_nodup := h.names_nodup
  unseen := h.unseen
  ranked := h.ranked

theorem Tracks.leave {s : Conf × List Int} {o : Outline} (h : Tracks s o) :
    Tracks (s.1, s.2.tail) (o.step .leave) where
  counters := by
    rw [h.counters]
    exact (List.map_tail ..).symm
  opened_nodup := h.opened_nodup.sublist (List.tail_sublist _)
  opened_lt file hfile := h.opened_lt file (List.mem_of_mem_tail hfile)
  firsts_lt := h.firsts_lt
  priorities := h.priorities
  names_nodup := h.names_nodup
  unseen := h.unseen
  ranked := h.ranked

/-- A section that touches neither the filters nor the priorities. -/
theorem Tracks.other {st st' : Conf} {stack : List Int} {o : Outline} (h : Tracks (st, stack) o)
    (hmap : st'.filterConfigMap = st.filterConfigMap) (hprio : st'.priorities = st.priorities) :
    Tracks (st', stack) o where
  counters := h.counters
  opened_nodup := h.opened_nodup
  opened_lt := h.opened_lt
  firsts_lt := h.firsts_lt
  priorities := hprio.trans h.priorities
  names_nodup := h.names_nodup
  unseen f hf := by
    rw [hmap]
    exact h.unseen f hf
  ranked x hx := by
    rw [hmap]
    exact h.ranked x hx

theorem Tracks.priority {st : Conf} {stack : List Int} {o : Outline} (h : Tracks (st, stack) o)
    (node : Node) : Tracks ({ st with priorities := node }, stack) { o with priorities := node } :=
  ⟨h.counters, h.opened_nodup, h.opened_lt, h.firsts_lt, rfl, h.names_nodup, h.unseen, h.ranked⟩

/-- A further section of a filter. -/
theorem Tracks.repeated {st : Conf} {n : Int} {stack : List Int} {o : Outline}
    (h : Tracks (st, n :: stack) o) {f : FilterName} (hf : f ∈ o.names) (it : Node × Node) :
    Tracks ((st.addFilter f it n).1, (st.addFilter f it n).2 :: stack) o := by
  obtain ⟨x, hx, rfl⟩ := List.mem_map.mp hf
  obtain ⟨conf, hconf, hrank⟩ := h.ranked x hx
  have hadd : st.addFilter x.filter it n = (st.setFilter x.filter
      { conf with configNodeList := conf.configNodeList ++ [it] }, n) := by
    rw [Conf.addFilter, hconf]
  rw [hadd]
  refine ⟨h.counters, h.opened_nodup, h.opened_lt, h.firsts_lt, h.priorities, h.names_nodup,
    ?_, ?_⟩
  · intro g hg
    have hne : g ≠ x.filter := fun he => hg (he ▸ hf)
    exact (Function.update_of_ne hne ..).trans (h.unseen g hg)
  · intro y hy
    by_cases he : y.filter = x.filter
    · have hyx : y = x := List.inj_on_of_nodup_map h.names_nodup hy hx he
      subst hyx
      exact ⟨_, Function.update_self .., hrank⟩
    · obtain ⟨c, hc, hcr⟩ := h.ranked y hy
      exact ⟨c, (Function.update_of_ne he ..).trans hc, hcr⟩

theorem Outline.rankIn_snoc (o : Outline) (x : First) (file : Nat) :
    { o with firsts := o.firsts ++ [x] }.rankIn file =
      o.rankIn file + if x.file = file then 1 else 0 := by
  rw [rankIn, List.countP_append, rankIn]
  simp [List.countP_cons]

/-- The first section of a filter. -/
theorem Tracks.first {st : Conf} {n : Int} {stack : List Int} {o : Outline}
    (h : Tracks (st, n :: stack) o) {f : FilterName} (hf : f ∉ o.names) (it : Node × Node) :
    Tracks ((st.addFilter f it n).1, (st.addFilter f it n).2 :: stack)
      { o with firsts := o.firsts ++ [⟨o.opened.headD 0, o.rankIn (o.opened.headD 0), f⟩] } := by
  have hadd : st.addFilter f it n = (st.setFilter f ⟨[it], n⟩, n + 1) := by
    rw [Conf.addFilter, h.unseen f hf]
  obtain ⟨file, rest, hopened, hn, hstack⟩ : ∃ file rest, o.opened = file :: rest ∧
      n = o.rankIn file ∧ stack = rest.map fun file => (o.rankIn file : Int) := by
    have hc := h.counters
    cases ho : o.opened with
    | nil =>
        rw [ho] at hc
        cases hc
    | cons file rest =>
        rw [ho] at hc
        exact ⟨file, rest, rfl, (List.cons.inj hc).1, (List.cons.inj hc).2⟩
  have hnodup := h.opened_nodup
  rw [hopened, List.nodup_cons] at hnodup
  have hhead : o.opened.headD 0 = file := by
    rw [hopened]
    rfl
  rw [hadd, hhead]
  refine ⟨?_, h.opened_nodup, h.opened_lt, ?_, h.priorities, ?_, ?_, ?_⟩
  · -- Only the innermost file counts the new filter.
    simp only [Outline.rankIn_snoc]
    rw [hopened, List.map_cons, if_pos rfl, hn, hstack]
    refine congrArg₂ List.cons (Nat.cast_succ _).symm (List.map_congr_left ?_)
    intro other hother
    have hne : file ≠ other := fun he => hnodup.1 (he ▸ hother)
    rw [if_neg hne, Nat.add_zero]
  · intro x hx
    rcases List.mem_append.mp hx with hx | hx
    · exact h.firsts_lt x hx
    · cases List.mem_singleton.mp hx
      exact h.opened_lt file (hopened ▸ List.mem_cons_self ..)
  · rw [Outline.names, List.map_append]
    refine List.nodup_append.mpr ⟨h.names_nodup, List.nodup_singleton _, ?_⟩
    rintro g hg _ hmem rfl
    exact hf ((List.mem_singleton.mp hmem : g = f) ▸ hg)
  · intro g hg
    rw [Outline.names, List.map_append, List.mem_append, not_or] at hg
    have hne : g ≠ f := fun he => hg.2 (he ▸ List.mem_singleton_self _)
    exact (Function.update_of_ne hne ..).trans (h.unseen g hg.1)
  · intro x hx
    rcases List.mem_append.mp hx with hx | hx
    · obtain ⟨c, hc, hcr⟩ := h.ranked x hx
      have hne : x.filter ≠ f := fun he => hf (he ▸ List.mem_map_of_mem hx)
      exact ⟨c, (Function.update_of_ne hne ..).trans hc, hcr⟩
    · cases List.mem_singleton.mp hx
      exact ⟨_, Function.update_self .., hn⟩

/-- A section of a filter. -/
theorem Tracks.appear {st : Conf} {n : Int} {stack : List Int} {o : Outline}
    (h : Tracks (st, n :: stack) o) (f : FilterName) (it : Node × Node) :
    Tracks ((st.addFilter f it n).1, (st.addFilter f it n).2 :: stack) (o.appear f) := by
  rw [Outline.appear]
  split
  · next hf => exact h.repeated hf it
  · next hf => exact h.first hf it

theorem tracks_step {R : Reader} {s t : Conf × List Int} {o : Outline} {item : Item}
    (h : Tracks s o) (hs : R.step s item = .ok t) : Tracks t (o.step item) := by
  cases item with
  | enter =>
      cases hs
      exact h.enter
  | leave =>
      cases hs
      exact h.leave
  | sect nodeName it =>
      obtain ⟨n, stack, u, hstack, hu, rfl⟩ := Reader.step_sect hs
      obtain ⟨st, rest⟩ := s
      cases hstack
      cases hu with
      | filter hf =>
          rw [Outline.step, hf]
          exact h.appear _ it
      | swabber hname =>
          subst hname
          exact h.other rfl rfl
      | priority hname _ =>
          subst hname
          exact h.priority it.2
      | kafka hname =>
          subst hname
          exact h.other rfl rfl
      | reportStatus hname _ =>
          subst hname
          exact h.other rfl rfl
      | removeExpired hname _ =>
          subst hname
          exact h.other rfl rfl
  | fails a => cases hs

/-- `process_config` numbers every filter by its rank. -/
theorem tracks_of_processConfig {R : Reader} {fuel : Nat} {cfg : Node} {st : Conf}
    (h : R.processConfig fuel cfg Conf.init = .ok st) :
    Tracks (st, []) (outline (R.reading fuel cfg)) := by
  have hrun := Reader.foldlM_reading_ok h []
  have hreach : Reaches R.step (fun _ _ => True) (Conf.init, []) (R.reading fuel cfg) (st, []) :=
    .of_foldlM (fun _ _ _ _ _ _ => trivial) hrun
  refine hreach.invariant (P := fun items s => Tracks s (outline items)) tracks_init ?_
  intro items item a b _ ha _ hs
  rw [outline, List.foldl_append]
  exact tracks_step ha hs

end Banjax
