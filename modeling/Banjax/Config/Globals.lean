import Banjax.Config.Reading

/-!
# Included files and global settings

`kafka` and the two intervals are single settings of the program.  An included file should
count as if it stood in the place of its `include` entry, so that the files together mean
what the one file means that is obtained by splicing them (`splice`).

They do not.  Every call of `process_config` first resets the three settings, which is meant
for a reload, and so the call for an included file forgets what was set in front of it.
`globals_spliced_iff` says when nothing is lost: a setting that is not at its default has no
file entered after it.
-/

namespace Banjax

open Lib

/-! ## One setting -/

/-- A setting of the program: its key, how its value is read, and where it is kept. -/
structure Setting (α : Type) where
  key : Bytes
  parse : Node → Option α
  default : α
  get : Conf → α

namespace Setting

variable {α : Type} (S : Setting α)

/-- The values of the setting in a reading. -/
def values (items : List Item) : List α :=
  items.filterMap fun item =>
    match item with
    | .sect nodeName it => if nodeName = S.key then S.parse it.2 else none
    | _ => none

/-- The value that occurs in the reading, or the default. -/
def occurring (items : List Item) : α := (S.values items).headD S.default

/-- The sections of the setting in a reading. -/
def sections (items : List Item) : List Item :=
  items.filter fun item =>
    match item with
    | .sect nodeName _ => nodeName = S.key
    | _ => false

/-- A value other than the default has no file entered after it. -/
def Survives (items : List Item) : Prop :=
  ∀ front it back, items = front ++ .sect S.key it :: back → .enter ∈ back →
    S.parse it.2 = some S.default

/-- The setting is reset when a file is entered and set by its own sections only. -/
structure GovernedBy (R : Reader) : Prop where
  reset : ∀ st : Conf, S.get st.reset = S.default
  own : ∀ {it st n t}, R.Section S.key it st n t → S.parse it.2 = some (S.get t.1)
  other : ∀ {nodeName it st n t}, R.Section nodeName it st n t → nodeName ≠ S.key →
    S.get t.1 = S.get st

variable {S} {R : Reader}

theorem sections_append (items items' : List Item) :
    S.sections (items ++ items') = S.sections items ++ S.sections items' := List.filter_append ..

theorem values_append (items items' : List Item) :
    S.values (items ++ items') = S.values items ++ S.values items' := List.filterMap_append ..

theorem values_of_sections {items : List Item} (h : S.sections items = []) :
    S.values items = [] := by
  rw [values, List.filterMap_eq_nil_iff]
  intro item hitem
  have hnot := List.filter_eq_nil_iff.mp h item hitem
  cases item with
  | sect nodeName it => exact if_neg (by simpa using hnot)
  | enter => rfl
  | leave => rfl
  | fails a => rfl

/-- One item that is not a section of the setting. -/
theorem get_step (hS : S.GovernedBy R) {item : Item} (hun : S.sections [item] = [])
    {s t : Conf × List Int} (h : R.step s item = .ok t) :
    (item ≠ .enter ∧ S.get t.1 = S.get s.1) ∨ (item = .enter ∧ S.get t.1 = S.default) := by
  cases item with
  | enter =>
      cases h
      exact .inr ⟨rfl, hS.reset s.1⟩
  | leave =>
      cases h
      exact .inl ⟨nofun, rfl⟩
  | sect nodeName it =>
      obtain ⟨n, stack, u, _, hu, rfl⟩ := Reader.step_sect h
      have hname : nodeName ≠ S.key := by simpa using List.filter_eq_nil_iff.mp hun
      exact .inl ⟨nofun, hS.other hu hname⟩
  | fails a => cases h

/-- A reading without the setting. -/
theorem get_of_unset (hS : S.GovernedBy R) {items : List Item} (hun : S.sections items = [])
    {s t : Conf × List Int} (h : items.foldlM R.step s = .ok t) :
    (.enter ∉ items ∧ S.get t.1 = S.get s.1) ∨ (.enter ∈ items ∧ S.get t.1 = S.default) := by
  induction items generalizing s with
  | nil =>
      cases h
      exact .inl ⟨nofun, rfl⟩
  | cons item items ih =>
      rw [List.foldlM_cons] at h
      obtain ⟨u, hu, ht⟩ := bind_eq_ok.mp h
      obtain ⟨hitem, hitems⟩ := List.append_eq_nil_iff.mp
        ((sections_append [item] items).symm.trans hun)
      rcases ih hitems ht with ⟨hnone, hget⟩ | ⟨hmem, hget⟩
      · rcases get_step hS hitem hu with ⟨hne, hkept⟩ | ⟨rfl, hreset⟩
        · refine .inl ⟨?_, hget.trans hkept⟩
          rw [List.mem_cons, not_or]
          exact ⟨Ne.symm hne, hnone⟩
        · exact .inr ⟨List.mem_cons_self .., hget.trans hreset⟩
      · exact .inr ⟨List.mem_cons_of_mem _ hmem, hget⟩

/-- The one section of a setting, with the value it has in the end. -/
theorem get_of_set (hS : S.GovernedBy R) {front back : List Item} {it : Node × Node}
    (hback : S.sections back = []) {s t : Conf × List Int}
    (h : (front ++ .sect S.key it :: back).foldlM R.step s = .ok t) :
    ∃ v, S.parse it.2 = some v ∧
      ((.enter ∉ back ∧ S.get t.1 = v) ∨ (.enter ∈ back ∧ S.get t.1 = S.default)) := by
  rw [List.foldlM_append] at h
  obtain ⟨u, _, hu⟩ := bind_eq_ok.mp h
  rw [List.foldlM_cons] at hu
  obtain ⟨w, hw, ht⟩ := bind_eq_ok.mp hu
  obtain ⟨n, stack, x, _, hx, rfl⟩ := Reader.step_sect hw
  exact ⟨S.get x.1, hS.own hx, get_of_unset hS hback ht⟩

/-- A reading has no section of the setting, or a first one. -/
theorem sections_split (items : List Item) :
    S.sections items = [] ∨ ∃ front it back, items = front ++ .sect S.key it :: back := by
  cases hsec : S.sections items with
  | nil => exact .inl rfl
  | cons item rest =>
      have hmem : item ∈ S.sections items := hsec ▸ List.mem_cons_self ..
      obtain ⟨hin, hkey⟩ := List.mem_filter.mp hmem
      cases item with
      | sect nodeName it =>
          have hname : nodeName = S.key := by simpa using hkey
          obtain ⟨front, back, rfl⟩ := List.append_of_mem hin
          exact .inr ⟨front, it, back, by rw [hname]⟩
      | enter => simp at hkey
      | leave => simp at hkey
      | fails a => simp at hkey

theorem sections_sect (front back : List Item) (it : Node × Node) :
    S.sections (front ++ .sect S.key it :: back) =
      S.sections front ++ .sect S.key it :: S.sections back := by
  rw [sections_append]
  simp [sections]

/-- A section that occurs once is at one place only. -/
theorem eq_of_first {front front' back back' : List Item} {it it' : Node × Node}
    (hfront : S.sections front = []) (hfront' : S.sections front' = [])
    (h : front ++ .sect S.key it :: back = front' ++ .sect S.key it' :: back') :
    it = it' ∧ back = back' := by
  induction front generalizing front' with
  | nil =>
      cases front' with
      | nil =>
          cases h
          exact ⟨rfl, rfl⟩
      | cons item front' =>
          cases h
          simp [sections] at hfront'
  | cons item front ih =>
      obtain ⟨_, hrest⟩ := List.append_eq_nil_iff.mp
        ((sections_append [item] front).symm.trans hfront)
      cases front' with
      | nil =>
          cases h
          simp [sections] at hfront
      | cons item' front' =>
          obtain ⟨_, hrest'⟩ := List.append_eq_nil_iff.mp
            ((sections_append [item'] front').symm.trans hfront')
          exact ih hrest hrest' (List.cons.inj h).2

/-- Around the only section of a setting there are no others. -/
theorem unset_of_once {front back : List Item} {it : Node × Node}
    (honce : (S.sections (front ++ .sect S.key it :: back)).length ≤ 1) :
    S.sections front = [] ∧ S.sections back = [] := by
  rw [sections_sect, List.length_append, List.length_cons] at honce
  exact ⟨List.eq_nil_of_length_eq_zero (by omega), List.eq_nil_of_length_eq_zero (by omega)⟩

/-- Nothing is lost when the setting is read after the last file has been entered. -/
theorem survives_of_unset (front back : List Item) (hfront : S.sections front = [])
    (hback : .enter ∉ back) : S.Survives (front ++ back) := by
  intro front' it' back' heq hmem
  rcases List.append_eq_append_iff.mp heq with ⟨cs, rfl, rfl⟩ | ⟨cs, rfl, hcs⟩
  · exact absurd (List.mem_append_right _ (List.mem_cons_of_mem _ hmem)) hback
  · cases cs with
    | nil =>
        rw [← show Item.sect S.key it' :: back' = back from hcs] at hback
        exact absurd (List.mem_cons_of_mem _ hmem) hback
    | cons item cs =>
        cases (List.cons.inj hcs).1
        rw [sections_sect] at hfront
        exact absurd hfront (by simp)

/-- After a reading in which a setting occurs at most once, it has the value that occurs
exactly when the value survives. -/
theorem get_eq_occurring_iff (hS : S.GovernedBy R) {items : List Item}
    (honce : (S.sections items).length ≤ 1) (henter : .enter ∈ items) {s t : Conf × List Int}
    (h : items.foldlM R.step s = .ok t) :
    S.get t.1 = S.occurring items ↔ S.Survives items := by
  rcases sections_split (S := S) items with hnone | ⟨front, it, back, rfl⟩
  · rcases get_of_unset hS hnone h with ⟨hno, _⟩ | ⟨_, hget⟩
    · exact absurd henter hno
    · rw [occurring, values_of_sections hnone]
      refine ⟨fun _ => ?_, fun _ => hget⟩
      rintro front it back rfl
      rw [sections_sect] at hnone
      exact absurd hnone (by simp)
  · obtain ⟨hfront, hback⟩ := unset_of_once honce
    obtain ⟨v, hv, hcases⟩ := get_of_set hS hback h
    have hocc : S.occurring (front ++ .sect S.key it :: back) = v := by
      rw [occurring, values_append, values_of_sections hfront]
      simp [values, hv]
    rw [hocc]
    constructor
    · intro hget front' it' back' heq hmem
      obtain ⟨hfront', _⟩ := unset_of_once (heq ▸ honce)
      obtain ⟨rfl, rfl⟩ := eq_of_first hfront hfront' heq
      rcases hcases with ⟨hno, _⟩ | ⟨_, hdefault⟩
      · exact absurd hmem hno
      · rw [hv, ← hget, hdefault]
    · intro hsurvives
      rcases hcases with ⟨_, hget⟩ | ⟨hmem, hget⟩
      · exact hget
      · rw [hget, ← Option.some.injEq, ← hv]
        exact (hsurvives front it back rfl hmem).symm

end Setting

/-! ## The three settings -/

namespace Reader

variable (R : Reader)

def kafka : Setting Node := ⟨bytes "kafka", some, .null, Conf.kafkaConf⟩

def reportStatus : Setting Int32 :=
  ⟨bytes "report_status_interval_seconds", R.asInt, 0, Conf.reportStatusIntervalSeconds⟩

def removeExpired : Setting Int32 :=
  ⟨bytes "remove_expired_challenges_interval_seconds", R.asInt, 0,
    Conf.removeExpiredChallengesIntervalSeconds⟩

variable {R}

theorem kafka_governed : kafka.GovernedBy R where
  reset _ := rfl
  own h := by
    cases readSection_of_section h
    rfl
  other h hne := by
    cases h with
    | filter _ => exact Conf.addFilter_kafkaConf ..
    | kafka hname => exact absurd hname hne
    | _ => rfl

theorem reportStatus_governed : R.reportStatus.GovernedBy R where
  reset _ := rfl
  own h := by
    obtain ⟨k, hk, ht⟩ := bind_eq_ok.mp (readSection_of_section h)
    cases ht
    exact intOf_eq_ok.mp hk
  other h hne := by
    cases h with
    | filter _ => exact Conf.addFilter_reportStatus ..
    | reportStatus hname _ => exact absurd hname hne
    | _ => rfl

theorem removeExpired_governed : R.removeExpired.GovernedBy R where
  reset _ := rfl
  own h := by
    obtain ⟨k, hk, ht⟩ := bind_eq_ok.mp (readSection_of_section h)
    cases ht
    exact intOf_eq_ok.mp hk
  other h hne := by
    cases h with
    | filter _ => exact Conf.addFilter_removeExpired ..
    | removeExpired hname _ => exact absurd hname hne
    | _ => rfl

end Reader

/-! ## The spliced file -/

/-- The sections of a reading. -/
def Item.sects (items : List Item) : List Item :=
  items.filter fun item =>
    match item with
    | .sect _ _ => true
    | _ => false

/-- The one file with all the sections of a reading. -/
def splice (items : List Item) : Node :=
  .map (items.filterMap fun item =>
    match item with
    | .sect _ it => some it
    | _ => none)

namespace Reader

variable {R : Reader}

/-- Every section stands under its own name, and none of them is an `include`. -/
def WellNamed (items : List Item) : Prop :=
  ∀ nodeName it, .sect nodeName it ∈ items →
    it.1.asString = some nodeName ∧ nodeName ≠ bytes "include"

theorem wellNamed_entryItems {recurse : Node → List Item}
    (ih : ∀ cfg, WellNamed (recurse cfg)) (it : Option (Node × Node)) :
    WellNamed (R.entryItems recurse it) := by
  intro nodeName' it' hmem
  cases it with
  | none => simp [entryItems] at hmem
  | some it =>
      rw [entryItems] at hmem
      cases hname : it.1.asString with
      | none => simp [hname] at hmem
      | some nodeName =>
          rw [hname] at hmem
          dsimp only at hmem
          split at hmem
          · obtain ⟨sub, _, hsub⟩ := List.mem_flatMap.mp hmem
            cases hload : R.loadIncluded sub with
            | error a => simp [hload] at hsub
            | ok node =>
                rw [hload] at hsub
                exact ih node nodeName' it' hsub
          · next hne =>
            cases List.mem_singleton.mp hmem
            exact ⟨hname, hne⟩

theorem wellNamed_reading (fuel : Nat) (cfg : Node) : WellNamed (R.reading fuel cfg) := by
  induction fuel generalizing cfg with
  | zero => simp [WellNamed, reading]
  | succ fuel ih =>
      intro nodeName it hmem
      rw [reading, List.mem_cons, List.mem_append] at hmem
      rcases hmem with hmem | hmem | hmem
      · cases hmem
      · obtain ⟨entry, _, hentry⟩ := List.mem_flatMap.mp hmem
        exact wellNamed_entryItems ih entry nodeName it hentry
      · cases List.mem_singleton.mp hmem

/-- The reading of the spliced file. -/
theorem reading_splice (n : Nat) {items : List Item} (h : WellNamed items) :
    R.reading (n + 1) (splice items) = .enter :: (Item.sects items ++ [.leave]) := by
  rw [reading, splice, Node.pairs, List.flatMap_map, Item.sects]
  congr 2
  induction items with
  | nil => rfl
  | cons item items ih =>
      have hrest := ih fun nodeName it hmem => h nodeName it (List.mem_cons_of_mem _ hmem)
      cases item with
      | sect nodeName it =>
          obtain ⟨hname, hne⟩ := h nodeName it (List.mem_cons_self ..)
          rw [List.filterMap_cons, List.filter_cons_of_pos rfl]
          dsimp only
          rw [List.flatMap_cons, hrest, entryItems, hname]
          dsimp only
          rw [if_neg hne]
          rfl
      | enter => exact hrest
      | leave => exact hrest
      | fails a => exact hrest

/-- Whether a section is accepted depends on the priorities only. -/
theorem Section.transfer {nodeName : Bytes} {it : Node × Node} {st st' : Conf} {n : Int}
    {t : Conf × Int} (h : R.Section nodeName it st n t) (heq : st'.priorities = st.priorities)
    (n' : Int) : ∃ t', R.Section nodeName it st' n' t' ∧ t'.1.priorities = t.1.priorities := by
  cases h with
  | filter hf => exact ⟨_, .filter hf, by simpa using heq⟩
  | swabber hname => exact ⟨_, .swabber hname, heq⟩
  | priority hname hsize => exact ⟨_, .priority hname (heq ▸ hsize), rfl⟩
  | kafka hname => exact ⟨_, .kafka hname, heq⟩
  | reportStatus hname hk => exact ⟨_, .reportStatus hname hk, heq⟩
  | removeExpired hname hk => exact ⟨_, .removeExpired hname hk, heq⟩

/-- The sections of a reading are accepted without its files. -/
theorem foldlM_sects {items : List Item} {s t : Conf × List Int} (st : Conf) (n : Int)
    (stack : List Int) (h : items.foldlM R.step s = .ok t) (heq : st.priorities = s.1.priorities) :
    ∃ t', (Item.sects items).foldlM R.step (st, n :: stack) = .ok t' := by
  induction items generalizing s st n with
  | nil => exact ⟨_, rfl⟩
  | cons item items ih =>
      rw [List.foldlM_cons] at h
      obtain ⟨u, hu, ht⟩ := bind_eq_ok.mp h
      cases item with
      | enter =>
          cases hu
          exact ih st n ht heq
      | leave =>
          cases hu
          exact ih st n ht heq
      | sect nodeName it =>
          obtain ⟨_, _, x, _, hx, rfl⟩ := step_sect hu
          obtain ⟨y, hy, hprio⟩ := hx.transfer heq n
          obtain ⟨t', ht'⟩ := ih y.1 y.2 ht hprio
          refine ⟨t', ?_⟩
          rw [Item.sects, List.filter_cons_of_pos rfl, List.foldlM_cons]
          refine bind_eq_ok.mpr ⟨_, ?_, ht'⟩
          exact bind_eq_ok.mpr ⟨y, readSection_of_section hy, rfl⟩
      | fails a => cases hu

/-- The values of a setting are those of its sections. -/
theorem values_sects {α : Type} (S : Setting α) (items : List Item) :
    S.values (.enter :: (Item.sects items ++ [.leave])) = S.values items := by
  have hsects : S.values (Item.sects items) = S.values items := by
    rw [Setting.values, Setting.values, Item.sects, List.filterMap_filter]
    congr 1
    funext item
    cases item <;> rfl
  rw [← List.singleton_append, Setting.values_append, Setting.values_append, hsects]
  simp [Setting.values]

theorem sections_sects {α : Type} (S : Setting α) (items : List Item) :
    S.sections (.enter :: (Item.sects items ++ [.leave])) = S.sections items := by
  have hsects : S.sections (Item.sects items) = S.sections items := by
    rw [Setting.sections, Setting.sections, Item.sects, List.filter_filter]
    congr 1
    funext item
    cases item <;> simp
  rw [← List.singleton_append, Setting.sections_append, Setting.sections_append, hsects]
  simp [Setting.sections]

theorem enter_notMem_sects (items : List Item) : .enter ∉ Item.sects items := by
  intro hmem
  cases (List.mem_filter.mp hmem).2

/-- Nothing is lost in a single file. -/
theorem survives_sects {α : Type} (S : Setting α) (items : List Item) :
    S.Survives (.enter :: (Item.sects items ++ [.leave])) := by
  refine Setting.survives_of_unset [.enter] (Item.sects items ++ [.leave])
    (by simp [Setting.sections]) ?_
  intro hmem
  rcases List.mem_append.mp hmem with hsects | hleave
  · exact enter_notMem_sects items hsects
  · cases List.mem_singleton.mp hleave

/-- One setting of the spliced file. -/
theorem get_splice {α : Type} {S : Setting α} (hS : S.GovernedBy R) {items : List Item}
    (honce : (S.sections items).length ≤ 1) {s t : Conf × List Int}
    (h : (.enter :: (Item.sects items ++ [.leave])).foldlM R.step s = .ok t) :
    S.get t.1 = S.occurring items := by
  have hocc : S.occurring (.enter :: (Item.sects items ++ [.leave])) = S.occurring items := by
    rw [Setting.occurring, Setting.occurring, values_sects]
  rw [← hocc]
  exact (Setting.get_eq_occurring_iff hS (by rw [sections_sects]; exact honce)
    (List.mem_cons_self ..) h).mpr (survives_sects S items)

variable (R)

/-- The keys of the three settings occur at most once. -/
structure GlobalsOnce (items : List Item) : Prop where
  kafka : (kafka.sections items).length ≤ 1
  reportStatus : (R.reportStatus.sections items).length ≤ 1
  removeExpired : (R.removeExpired.sections items).length ≤ 1

/-- No file is entered after a setting that is not at its default. -/
structure GlobalsSurvive (items : List Item) : Prop where
  kafka : kafka.Survives items
  reportStatus : R.reportStatus.Survives items
  removeExpired : R.removeExpired.Survives items

/-- The values of the three settings that occur, or the defaults. -/
def occurringGlobals (items : List Item) : Node × Int32 × Int32 :=
  (kafka.occurring items, R.reportStatus.occurring items, R.removeExpired.occurring items)

end Reader

/-- The three settings. -/
def Conf.globals (st : Conf) : Node × Int32 × Int32 :=
  (st.kafkaConf, st.reportStatusIntervalSeconds, st.removeExpiredChallengesIntervalSeconds)

namespace Reader

variable {R : Reader}

/-- The spliced file is accepted with the files and gives the settings the values that
occur in them.  The files give them the same values exactly when no file is entered after a
setting that is not at its default. -/
theorem globals_spliced_iff {fuel : Nat} {cfg : Node} {st₀ st : Conf}
    (h : R.processConfig fuel cfg st₀ = .ok st) (honce : R.GlobalsOnce (R.reading fuel cfg)) :
    ∃ st', (∀ n, R.processConfig (n + 1) (splice (R.reading fuel cfg)) st₀ = .ok st') ∧
      st'.globals = R.occurringGlobals (R.reading fuel cfg) ∧
      (st.globals = st'.globals ↔ R.GlobalsSurvive (R.reading fuel cfg)) := by
  have hrun := foldlM_reading_ok h []
  have henter : .enter ∈ R.reading fuel cfg := by
    cases fuel with
    | zero => cases h
    | succ fuel => exact List.mem_cons_self ..
  obtain ⟨⟨st', stack⟩, hst'⟩ := foldlM_sects st₀.reset 0 [] hrun rfl
  have hsplice : (.enter :: (Item.sects (R.reading fuel cfg) ++ [.leave])).foldlM R.step (st₀, []) =
      .ok (st', stack.tail) := by
    rw [List.foldlM_cons, step, ok_bind, List.foldlM_append, hst']
    rfl
  have hglobals : st'.globals = R.occurringGlobals (R.reading fuel cfg) :=
    Prod.ext (get_splice kafka_governed honce.kafka hsplice)
      (Prod.ext (get_splice reportStatus_governed honce.reportStatus hsplice)
        (get_splice removeExpired_governed honce.removeExpired hsplice))
  refine ⟨st', ?_, hglobals, ?_⟩
  · intro n
    have hread := foldlM_reading (R := R) (n + 1) (splice (R.reading fuel cfg)) st₀ []
    rw [reading_splice n (wellNamed_reading fuel cfg), hsplice] at hread
    cases hp : R.processConfig (n + 1) (splice (R.reading fuel cfg)) st₀ with
    | error a =>
        rw [hp] at hread
        cases hread
    | ok u =>
        rw [hp] at hread
        exact congrArg Except.ok (congrArg Prod.fst (Except.ok.inj hread)).symm
  · have hk := Setting.get_eq_occurring_iff kafka_governed honce.kafka henter hrun
    have hr := Setting.get_eq_occurring_iff reportStatus_governed honce.reportStatus henter hrun
    have hx := Setting.get_eq_occurring_iff removeExpired_governed honce.removeExpired henter hrun
    rw [hglobals]
    constructor
    · intro heq
      obtain ⟨h₁, h₂⟩ := Prod.ext_iff.mp heq
      obtain ⟨h₂, h₃⟩ := Prod.ext_iff.mp h₂
      exact ⟨hk.mp h₁, hr.mp h₂, hx.mp h₃⟩
    · intro hs
      exact Prod.ext (hk.mpr hs.kafka) (Prod.ext (hr.mpr hs.reportStatus) (hx.mpr hs.removeExpired))

/-- A status interval of 30 seconds, and a file that includes another one, in this order
or the other. -/
def sampleSettings (settingFirst : Bool) : Node :=
  let setting := (.scalar (bytes "report_status_interval_seconds"), .scalar (bytes "30"))
  let included := (.scalar (bytes "include"), .sequence [.scalar (bytes "banjax.d/empty.conf")])
  .map (if settingFirst then [setting, included] else [included, setting])

/-- The included file is empty. -/
def sampleReader : Reader where
  banjaxConfigDir := bytes "/etc/banjax"
  loadFile location :=
    if location = bytes "/etc/banjax/banjax.d/empty.conf" then .ok .null else .error .badFile
  asInt node := if node.asString = some (bytes "30") then some 30 else none

/-- The interval survives behind the included file. -/
theorem globals_spliced_setting_last :
    ∃ st st', sampleReader.processConfig 2 (sampleSettings false) .init = .ok st ∧
      (∀ n, sampleReader.processConfig (n + 1)
        (splice (sampleReader.reading 2 (sampleSettings false))) .init = .ok st') ∧
      st.globals = st'.globals := by
  obtain ⟨st', hsplice, _, hiff⟩ := globals_spliced_iff
    (show sampleReader.processConfig 2 (sampleSettings false) .init = .ok _ from rfl)
    ⟨by decide, by decide, by decide⟩
  have hlast : ∀ {α : Type} (S : Setting α),
      S.Survives (sampleReader.reading 2 (sampleSettings false)) := fun S =>
    Setting.survives_of_unset [.enter, .enter, .leave] _ (by simp [Setting.sections]) (by simp)
  exact ⟨_, st', rfl, hsplice, hiff.mpr ⟨hlast _, hlast _, hlast _⟩⟩

/-- The interval is lost in front of the included file. -/
theorem globals_lost_in_front_of_include :
    ∃ st, sampleReader.processConfig 2 (sampleSettings true) .init = .ok st ∧
      sampleReader.GlobalsOnce (sampleReader.reading 2 (sampleSettings true)) ∧
      (sampleReader.occurringGlobals (sampleReader.reading 2 (sampleSettings true))).2.1 = 30 ∧
      st.reportStatusIntervalSeconds = 0 ∧
      st.globals ≠
        sampleReader.occurringGlobals (sampleReader.reading 2 (sampleSettings true)) := by
  refine ⟨_, rfl, ⟨by decide, by decide, by decide⟩, by decide, by decide, ?_⟩
  intro heq
  have hlost := congrArg (·.2.1) heq
  revert hlost
  decide

end Reader

end Banjax
