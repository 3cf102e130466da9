import Banjax.Config.Defs

/-!
# The depth-first reading of the files

The recursion of `process_config` is unfolded into one list, the depth-first reading of
the files: a file is entered, its sections are read and the files it includes are read
where they are included, and it is left.  `step` is what one item of the reading does.
Each file that is being read has a `current_sequential_priority` of its own, so that the
steps work on a stack of them.

`foldlM_reading` says that the steps of the reading compute `process_config`.
-/

namespace Banjax

open Lib

/-- An item of a reading. -/
inductive Item where
  | enter
  | leave
  | sect (nodeName : Bytes) (it : Node × Node)
  | fails (a : Abort)

namespace Reader

variable (R : Reader)

/-- The reading of one entry of a file. -/
def entryItems (recurse : Node → List Item) (it : Option (Node × Node)) : List Item :=
  match it with
  | none => [.fails .badFormat]
  | some it =>
      match it.1.asString with
      | none => [.fails .badFormat]
      | some nodeName =>
          if nodeName = bytes "include" then
            it.2.items.flatMap fun sub =>
              match R.loadIncluded sub with
              | .error a => [.fails a]
              | .ok node => recurse node
          else [.sect nodeName it]

/-- The reading of a file. -/
def reading : Nat → Node → List Item
  | 0, _ => [.fails .outOfFuel]
  | fuel + 1, cfg => .enter :: (cfg.pairs.flatMap (R.entryItems (reading fuel)) ++ [.leave])

/-- One item, on the configuration and the numbers of the files that are being read,
innermost first.  No reading has a section outside of a file. -/
def step (s : Conf × List Int) : Item → Except Abort (Conf × List Int)
  | .enter => .ok (s.1.reset, 0 :: s.2)
  | .leave => .ok (s.1, s.2.tail)
  | .sect nodeName it =>
      match s.2 with
      | [] => .error .badFormat
      | n :: stack => do
          let t ← R.readSection nodeName it (s.1, n)
          return (t.1, t.2 :: stack)
  | .fails a => .error a

/-- The ways to read a section that do not stop the server. -/
inductive Section (nodeName : Bytes) (it : Node × Node) (st : Conf) (n : Int) :
    Conf × Int → Prop where
  | filter {f : FilterName} : FilterName.ofName? nodeName = some f →
      Section nodeName it st n (st.addFilter f it n)
  | swabber : nodeName = bytes "swabber" →
      Section nodeName it st n ({ st with swabberConf := st.swabberConf ++ [it] }, n)
  | priority : nodeName = bytes "priority" → st.priorities.size = 0 →
      Section nodeName it st n ({ st with priorities := it.2 }, n)
  | kafka : nodeName = bytes "kafka" → Section nodeName it st n ({ st with kafkaConf := it.2 }, n)
  | reportStatus {k : Int32} : nodeName = bytes "report_status_interval_seconds" →
      R.asInt it.2 = some k →
      Section nodeName it st n ({ st with reportStatusIntervalSeconds := k }, n)
  | removeExpired {k : Int32} : nodeName = bytes "remove_expired_challenges_interval_seconds" →
      R.asInt it.2 = some k →
      Section nodeName it st n ({ st with removeExpiredChallengesIntervalSeconds := k }, n)

variable {R}

theorem intOf_eq_ok {node : Node} {k : Int32} : R.intOf node = .ok k ↔ R.asInt node = some k := by
  rw [intOf]
  cases R.asInt node with
  | none => simp
  | some m => simp

theorem section_of_readSection {nodeName : Bytes} {it : Node × Node} {st : Conf} {n : Int}
    {t : Conf × Int} (h : R.readSection nodeName it (st, n) = .ok t) :
    R.Section nodeName it st n t := by
  rw [readSection] at h
  cases hf : FilterName.ofName? nodeName with
  | some f =>
      rw [hf] at h
      cases h
      exact .filter hf
  | none =>
      rw [hf] at h
      dsimp only at h
      split at h
      · next hname =>
        cases h
        exact .swabber hname
      split at h
      · next hname =>
        split at h
        · cases h
        · next hsize =>
          cases h
          exact .priority hname (not_not.mp hsize)
      split at h
      · next hname =>
        cases h
        exact .kafka hname
      split at h
      · next hname =>
        obtain ⟨k, hk, ht⟩ := bind_eq_ok.mp h
        cases ht
        exact .reportStatus hname (intOf_eq_ok.mp hk)
      split at h
      · next hname =>
        obtain ⟨k, hk, ht⟩ := bind_eq_ok.mp h
        cases ht
        exact .removeExpired hname (intOf_eq_ok.mp hk)
      · cases h

theorem readSection_of_section {nodeName : Bytes} {it : Node × Node} {st : Conf} {n : Int}
    {t : Conf × Int} (h : R.Section nodeName it st n t) :
    R.readSection nodeName it (st, n) = .ok t := by
  cases h with
  | filter hf => rw [readSection, hf]
  | swabber hname =>
      subst hname
      rfl
  | priority hname hsize =>
      subst hname
      exact if_neg (not_not.mpr hsize)
  | kafka hname =>
      subst hname
      rfl
  | reportStatus hname hk =>
      subst hname
      exact bind_eq_ok.mpr ⟨_, intOf_eq_ok.mpr hk, rfl⟩
  | removeExpired hname hk =>
      subst hname
      exact bind_eq_ok.mpr ⟨_, intOf_eq_ok.mpr hk, rfl⟩

/-- The item of a section. -/
theorem step_sect {nodeName : Bytes} {it : Node × Node} {s t : Conf × List Int}
    (h : R.step s (.sect nodeName it) = .ok t) :
    ∃ n stack u, s.2 = n :: stack ∧ R.Section nodeName it s.1 n u ∧ t = (u.1, u.2 :: stack) := by
  obtain ⟨st, stack⟩ := s
  cases stack with
  | nil => cases h
  | cons n stack =>
      obtain ⟨u, hu, ht⟩ := bind_eq_ok.mp h
      exact ⟨n, stack, u, rfl, section_of_readSection hu, (Except.ok.inj ht).symm⟩

theorem foldlM_entryItems {fuel : Nat}
    (ih : ∀ cfg st stack, (R.reading fuel cfg).foldlM R.step (st, stack) =
      (R.processConfig fuel cfg st).map (·, stack))
    (it : Option (Node × Node)) (st : Conf) (n : Int) (stack : List Int) :
    (R.entryItems (R.reading fuel) it).foldlM R.step (st, n :: stack) =
      (R.processEntry (R.processConfig fuel) (st, n) it).map fun t => (t.1, t.2 :: stack) := by
  cases it with
  | none => rfl
  | some it =>
      simp only [entryItems, processEntry]
      cases it.1.asString with
      | none => rfl
      | some nodeName =>
          dsimp only
          split
          · generalize it.2.items = subs
            induction subs generalizing st with
            | nil => rfl
            | cons sub subs ihs =>
                rw [List.flatMap_cons, List.foldlM_append, List.foldlM_cons]
                cases R.loadIncluded sub with
                | error a => rfl
                | ok node =>
                    dsimp only
                    rw [ih, ok_bind]
                    cases R.processConfig fuel node st with
                    | error a => rfl
                    | ok st' => exact ihs st'
          · rw [List.foldlM_cons, step]
            dsimp only
            cases R.readSection nodeName it (st, n) with
            | error a => rfl
            | ok t => rfl

/-- The reading computes `process_config`. -/
theorem foldlM_reading (fuel : Nat) (cfg : Node) (st : Conf) (stack : List Int) :
    (R.reading fuel cfg).foldlM R.step (st, stack) =
      (R.processConfig fuel cfg st).map (·, stack) := by
  induction fuel generalizing cfg st stack with
  | zero => rfl
  | succ fuel ih =>
      rw [reading, processConfig, List.foldlM_cons, step, ok_bind, List.foldlM_append]
      dsimp only
      generalize st.reset = u
      generalize (0 : Int) = n
      induction cfg.pairs generalizing u n with
      | nil => rfl
      | cons it its ihs =>
          rw [List.flatMap_cons, List.foldlM_append, List.foldlM_cons, foldlM_entryItems ih]
          cases R.processEntry (R.processConfig fuel) (u, n) it with
          | error a => rfl
          | ok t => exact ihs t.1 t.2

/-- More fuel does not change a result. -/
theorem processConfig_mono {fuel : Nat} {cfg : Node} {st st' : Conf}
    (h : R.processConfig fuel cfg st = .ok st') : R.processConfig (fuel + 1) cfg st = .ok st' := by
  induction fuel generalizing cfg st st' with
  | zero => cases h
  | succ fuel ih =>
      obtain ⟨s, hs, ht⟩ := bind_eq_ok.mp h
      refine bind_eq_ok.mpr ⟨s, foldlM_ok_mono ?_ hs, ht⟩
      intro u it v hentry
      cases it with
      | none => cases hentry
      | some it =>
          rw [processEntry] at hentry ⊢
          cases hname : it.1.asString with
          | none =>
              rw [hname] at hentry
              cases hentry
          | some nodeName =>
              rw [hname] at hentry
              dsimp only at hentry ⊢
              split
              · next hinc =>
                rw [if_pos hinc] at hentry
                obtain ⟨w, hw, hv⟩ := bind_eq_ok.mp hentry
                refine bind_eq_ok.mpr ⟨w, foldlM_ok_mono ?_ hw, hv⟩
                intro a sub b hb
                obtain ⟨node, hnode, hrec⟩ := bind_eq_ok.mp hb
                exact bind_eq_ok.mpr ⟨node, hnode, ih hrec⟩
              · next hinc =>
                rw [if_neg hinc] at hentry
                exact hentry

theorem foldlM_reading_ok {fuel : Nat} {cfg : Node} {st st' : Conf}
    (h : R.processConfig fuel cfg st = .ok st') (stack : List Int) :
    (R.reading fuel cfg).foldlM R.step (st, stack) = .ok (st', stack) := by
  rw [foldlM_reading, h]
  rfl

end Reader

end Banjax
