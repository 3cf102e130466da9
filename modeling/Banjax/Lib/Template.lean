import Banjax.Lib.Search

/-!
# Templates

A page is made of a template by replacing the names of its slots one after the other, each at the
first place where it occurs.  What has been put in for one slot may hold the name of another one,
and is then replaced in its place.

A text in which no occurrence of a name begins, whatever follows the text, is passed over
(`Unmet`).  Where everything but the slot is such a text, the replacement fills the slot
(`replaceFirst_render`).  With one value of which nothing is known it does so exactly when the
name does not occur in that value and what lies between it and the slot
(`replaceFirst_render_iff`).
-/

namespace Lib

/-! ## Texts without a name -/

section Names

variable {name s t new : Bytes}

/-- No occurrence of the name begins in the text, whatever follows the text. -/
def Unmet (name s : Bytes) : Prop := ∀ u ∈ s.tails, u ≠ [] → ¬ name <+: u ∧ ¬ u <+: name

instance (name s : Bytes) : Decidable (Unmet name s) := inferInstanceAs (Decidable (∀ _ ∈ _, _))

theorem unmet_cons {c : UInt8} :
    Unmet name (c :: s) ↔ (¬ name <+: c :: s ∧ ¬ c :: s <+: name) ∧ Unmet name s := by
  rw [Unmet, List.tails_cons, List.forall_mem_cons]
  exact and_congr_left' (forall_prop_of_true (List.cons_ne_nil c s))

/-- The name does not begin where the text begins. -/
theorem Unmet.not_prefix_append {c : UInt8} (h : Unmet name (c :: s)) (rest : Bytes) :
    ¬ name <+: c :: (s ++ rest) := by
  intro hname
  rcases List.prefix_or_prefix_of_prefix hname (List.prefix_append (c :: s) rest) with hin | hout
  · exact (unmet_cons.mp h).1.1 hin
  · exact (unmet_cons.mp h).1.2 hout

theorem Unmet.append (hs : Unmet name s) (ht : Unmet name t) : Unmet name (s ++ t) := by
  induction s with
  | nil => exact ht
  | cons c s ih =>
      refine unmet_cons.mpr ⟨⟨hs.not_prefix_append t, fun hout => ?_⟩, ih (unmet_cons.mp hs).2⟩
      exact (unmet_cons.mp hs).1.2 ((List.prefix_append (c :: s) t).trans hout)

/-- A text without the first byte of the name. -/
theorem unmet_of_notMem {c : UInt8} (hname : name.head? = some c) (h : c ∉ s) : Unmet name s := by
  intro u hu hne
  obtain ⟨tail, rfl⟩ := List.head?_eq_some_iff.mp hname
  obtain ⟨d, v, rfl⟩ := List.exists_cons_of_ne_nil hne
  have hd : d ∈ s := ((List.mem_tails _ _).mp hu).subset (List.mem_cons_self ..)
  have hcd : c ≠ d := fun he => h (he ▸ hd)
  refine ⟨fun hin => hcd ?_, fun hout => hcd ?_⟩
  · exact (List.cons_prefix_cons.mp hin).1
  · exact (List.cons_prefix_cons.mp hout).1.symm

/-- The search passes over such a text. -/
theorem Unmet.find?_append (h : Unmet name s) (rest : Bytes) :
    find? name (s ++ rest) = (find? name rest).map (· + s.length) := by
  induction s with
  | nil => simp
  | cons c s ih =>
      rw [List.cons_append, find?, if_neg (h.not_prefix_append rest), ih (unmet_cons.mp h).2,
        Option.map_map]
      rfl

theorem replaceFirst_of_find? {n : Nat} (h : find? name s = some n) :
    replaceFirst s name new = s.take n ++ new ++ s.drop (n + name.length) := by
  rw [replaceFirst, h]

theorem replaceFirst_of_none (h : find? name s = none) : replaceFirst s name new = s := by
  rw [replaceFirst, h]

/-- A replacement behind the text. -/
theorem replaceFirst_append {rest : Bytes}
    (h : find? name (s ++ rest) = (find? name rest).map (· + s.length)) :
    replaceFirst (s ++ rest) name new = s ++ replaceFirst rest name new := by
  cases hfind : find? name rest with
  | none =>
      rw [hfind] at h
      rw [replaceFirst_of_none h, replaceFirst_of_none hfind]
  | some n =>
      rw [hfind, Option.map_some, Nat.add_comm] at h
      rw [replaceFirst_of_find? h, replaceFirst_of_find? hfind, List.take_length_add_append,
        Nat.add_assoc, List.drop_length_add_append, List.append_assoc, List.append_assoc,
        List.append_assoc]

theorem find?_self (hne : name ≠ []) (rest : Bytes) : find? name (name ++ rest) = some 0 := by
  obtain ⟨c, tail, rfl⟩ := List.exists_cons_of_ne_nil hne
  exact if_pos (List.prefix_append (c :: tail) rest)

/-- A name that stands in front is replaced. -/
theorem replaceFirst_self (hne : name ≠ []) (rest : Bytes) :
    replaceFirst (name ++ rest) name new = new ++ rest := by
  rw [replaceFirst_of_find? (find?_self hne rest), Nat.zero_add, List.drop_left]
  rfl

/-! ## Texts with a name -/

/-- What is found does not depend on what follows. -/
theorem find?_append_of_some {n : Nat} (h : find? name s = some n) (rest : Bytes) :
    find? name (s ++ rest) = some n := by
  induction s generalizing n with
  | nil =>
      rw [find?] at h
      split at h
      · next hname =>
        cases h
        subst hname
        cases rest <;> rw [List.nil_append, find?] <;> simp
      · cases h
  | cons c s ih =>
      rw [find?] at h
      rw [List.cons_append, find?]
      split at h
      · next hname =>
        cases h
        exact if_pos (hname.trans (List.prefix_append (c :: s) rest))
      · next hname =>
        obtain ⟨m, hm, rfl⟩ := Option.map_eq_some_iff.mp h
        have hlong : ¬ name <+: c :: (s ++ rest) := by
          intro hlong
          rcases List.prefix_or_prefix_of_prefix hlong (List.prefix_append (c :: s) rest) with
            hin | hout
          · exact hname hin
          · have hroom := length_le_of_find? hm
            have hle := hout.length_le
            rw [List.length_cons] at hle
            omega
        rw [if_neg hlong, ih hm]
        rfl

/-- The name stands where it is found. -/
theorem getElem?_of_find? {n : Nat} (hne : name ≠ []) (h : find? name s = some n) :
    s[n]? = name.head? := by
  induction s generalizing n with
  | nil =>
      rw [find?, if_neg hne] at h
      cases h
  | cons c s ih =>
      rw [find?] at h
      split at h
      · next hname =>
        cases h
        obtain ⟨d, tail, rfl⟩ := List.exists_cons_of_ne_nil hne
        rw [(List.cons_prefix_cons.mp hname).1]
        rfl
      · obtain ⟨m, hm, rfl⟩ := Option.map_eq_some_iff.mp h
        rw [List.getElem?_cons_succ, ih hm]

/-- A name without a part that both begins and ends it. -/
def Borderless (name : Bytes) : Prop :=
  ∀ u ∈ name.tails, u ≠ [] → u ≠ name → ¬ u <+: name

instance (name : Bytes) : Decidable (Borderless name) :=
  inferInstanceAs (Decidable (∀ _ ∈ _, _))

/-- A name that does not occur in the text is not found before the end of it, when it stands there
or nothing does. -/
theorem find?_append_of_notInfix (hborder : Borderless name) {rest : Bytes}
    (hrest : rest = [] ∨ name <+: rest) (h : ¬ name <:+: s) :
    find? name (s ++ rest) = (find? name rest).map (· + s.length) := by
  induction s with
  | nil => simp
  | cons c s ih =>
      rw [List.infix_cons_iff, not_or] at h
      have hlong : ¬ name <+: c :: (s ++ rest) := by
        intro hlong
        rcases List.prefix_or_prefix_of_prefix hlong (List.prefix_append (c :: s) rest) with
          hin | hout
        · exact h.1 hin
        -- The name begins in the text and ends in what follows it.
        · obtain ⟨u, rfl⟩ := hout
          have hu : u <+: rest := (List.prefix_append_right_inj _).mp hlong
          have hne : u ≠ [] := by
            rintro rfl
            exact h.1 (by rw [List.append_nil])
          rcases hrest with rfl | hrest
          · exact hne (List.prefix_nil.mp hu)
          · have hfront : u <+: c :: s ++ u :=
              List.prefix_of_prefix_length_le hu hrest
                (by simp only [List.length_append, List.length_cons]; omega)
            have hwhole : u ≠ c :: s ++ u := by
              intro heq
              have hlen := congrArg List.length heq
              rw [List.length_append, List.length_cons] at hlen
              omega
            exact hborder u ((List.mem_tails _ _).mpr (List.suffix_append _ u)) hne hwhole hfront
      rw [List.cons_append, find?, if_neg hlong, ih h.2, Option.map_map]
      rfl

/-- A replacement leaves a text in front as it is exactly when the name does not occur there. -/
theorem replaceFirst_append_iff (hne : name ≠ []) (hborder : Borderless name)
    (hnew : new ≠ []) (hhead : new.head? ≠ name.head?) {rest : Bytes}
    (hrest : rest = [] ∨ name <+: rest) :
    replaceFirst (s ++ rest) name new = s ++ replaceFirst rest name new ↔ ¬ name <:+: s := by
  constructor
  · intro heq hin
    obtain ⟨n, hn⟩ := Option.isSome_iff_exists.mp (find?_isSome.mpr hin)
    have hroom := length_le_of_find? hn
    have hlt : n < s.length := by
      have := List.length_pos_of_ne_nil hne
      omega
    have hkept : (s ++ replaceFirst rest name new)[n]? = name.head? := by
      rw [List.getElem?_append_left hlt, getElem?_of_find? hne hn]
    rw [← heq, replaceFirst_of_find? (find?_append_of_some hn rest)] at hkept
    refine hhead ?_
    rw [← hkept, List.append_assoc, List.take_append_of_le_length (by omega),
      List.getElem?_append_right (by simp), List.length_take, Nat.min_eq_left (by omega),
      Nat.sub_self, List.getElem?_append_left (List.length_pos_of_ne_nil hnew),
      List.head?_eq_getElem?]
  · intro hout
    exact replaceFirst_append (find?_append_of_notInfix hborder hrest hout)

end Names

/-! ## Templates -/

/-- A piece of a template. -/
inductive Piece (ι : Type) where
  | text (s : Bytes)
  | slot (i : ι)
deriving DecidableEq

section Templates

variable {ι : Type}

/-- The text of a piece, with these values in its slot. -/
def Piece.render (v : ι → Bytes) : Piece ι → Bytes
  | text s => s
  | slot i => v i

/-- The text of a template, with these values in its slots. -/
def render (v : ι → Bytes) (ps : List (Piece ι)) : Bytes := ps.flatMap (Piece.render v)

/-- The slot of a piece. -/
def Piece.slot? : Piece ι → Option ι
  | text _ => none
  | slot i => some i

/-- The slots of a template. -/
def slots (ps : List (Piece ι)) : List ι := ps.filterMap Piece.slot?

variable {v : ι → Bytes} {i j : ι} {name new : Bytes} {ps : List (Piece ι)}

theorem render_nil : render v [] = [] := rfl

theorem render_cons (p : Piece ι) : render v (p :: ps) = p.render v ++ render v ps := rfl

theorem render_append (qs : List (Piece ι)) :
    render v (ps ++ qs) = render v ps ++ render v qs := List.flatMap_append ..

theorem mem_slots : i ∈ slots ps ↔ .slot i ∈ ps := by
  rw [slots, List.mem_filterMap]
  constructor
  · rintro ⟨p, hp, hi⟩
    cases p with
    | text s => cases hi
    | slot j =>
        cases hi
        exact hp
  · exact fun h => ⟨_, h, rfl⟩

/-- The first slot of a template with each slot once does not come again. -/
theorem slot_notMem (h : (slots (.slot i :: ps)).Nodup) : .slot i ∉ ps :=
  fun hi => (List.nodup_cons.mp h).1 (mem_slots.mpr hi)

theorem nodup_tail {p : Piece ι} (h : (slots (p :: ps)).Nodup) : (slots ps).Nodup := by
  cases p with
  | text s => exact h
  | slot i => exact (List.nodup_cons.mp h).2

variable [DecidableEq ι]

theorem Piece.render_update {p : Piece ι} (h : p ≠ .slot i) :
    p.render (Function.update v i new) = p.render v := by
  cases p with
  | text s => rfl
  | slot j =>
      have hj : j ≠ i := fun he => h (he ▸ rfl)
      exact Function.update_of_ne hj ..

theorem render_update (h : .slot i ∉ ps) : render (Function.update v i new) ps = render v ps := by
  induction ps with
  | nil => rfl
  | cons p ps ih =>
      rw [List.mem_cons, not_or] at h
      rw [render_cons, render_cons, ih h.2, Piece.render_update (Ne.symm h.1)]

/-- The replacement fills a slot that comes first. -/
theorem replaceFirst_render_slot (hne : name ≠ []) (hv : v i = name)
    (hslots : (slots (.slot i :: ps)).Nodup) :
    replaceFirst (render v (.slot i :: ps)) name new =
      render (Function.update v i new) (.slot i :: ps) := by
  have hnew : Piece.render (Function.update v i new) (.slot i) = new := Function.update_self ..
  have hold : Piece.render v (.slot i) = name := hv
  rw [render_cons, render_cons, hold, hnew, replaceFirst_self hne,
    render_update (slot_notMem hslots)]

/-- The replacement fills a slot when nothing else can be taken for its name. -/
theorem replaceFirst_render (hne : name ≠ []) (hv : v i = name) (hslots : (slots ps).Nodup)
    (hunmet : ∀ p ∈ ps, p ≠ .slot i → Unmet name (p.render v)) :
    replaceFirst (render v ps) name new = render (Function.update v i new) ps := by
  induction ps with
  | nil => rw [render_nil, render_nil, replaceFirst_of_none (by rw [find?, if_neg hne])]
  | cons p ps ih =>
      by_cases hp : p = .slot i
      · subst hp
        exact replaceFirst_render_slot hne hv hslots
      · have hpass := (hunmet p (List.mem_cons_self ..) hp).find?_append (render v ps)
        rw [render_cons, render_cons, replaceFirst_append hpass, Piece.render_update hp,
          ih (nodup_tail hslots) fun q hq => hunmet q (List.mem_cons_of_mem _ hq)]

/-- What comes from the slot `j` on, up to the slot `i`, unless that one comes first. -/
def exposed (i j : ι) : List (Piece ι) → List (Piece ι)
  | [] => []
  | p :: ps =>
      if p = .slot i then []
      else if p = .slot j then p :: ps.takeWhile fun q => decide (q ≠ .slot i)
      else exposed i j ps

theorem slot_notMem_exposed (i j : ι) (ps : List (Piece ι)) : .slot i ∉ exposed i j ps := by
  induction ps with
  | nil => exact List.not_mem_nil
  | cons p ps ih =>
      rw [exposed]
      split
      · exact List.not_mem_nil
      · next hp =>
        split
        · rw [List.mem_cons, not_or]
          refine ⟨Ne.symm hp, fun hi => ?_⟩
          have hne := List.mem_takeWhile_imp hi
          exact absurd rfl (of_decide_eq_true hne)
        · exact ih

/-- The slot, and what comes before it. -/
theorem exists_split (i : ι) (ps : List (Piece ι)) :
    ∃ back, ps = (ps.takeWhile fun q => decide (q ≠ .slot i)) ++ back ∧
      (back = [] ∨ ∃ tail, back = .slot i :: tail) := by
  refine ⟨ps.dropWhile fun q => decide (q ≠ .slot i), (List.takeWhile_append_dropWhile ..).symm, ?_⟩
  cases hback : ps.dropWhile fun q => decide (q ≠ .slot i) with
  | nil => exact .inl rfl
  | cons q tail =>
      have hq := List.head?_dropWhile_not (fun q => decide (q ≠ .slot i)) ps
      rw [hback] at hq
      exact .inr ⟨tail, by simpa using hq⟩

/-- The slot behind a piece of which nothing is known. -/
theorem replaceFirst_render_behind (hne : name ≠ []) (hborder : Borderless name) (hnew : new ≠ [])
    (hhead : new.head? ≠ name.head?) (hv : v i = name) {p : Piece ι} (hp : p ≠ .slot i)
    (hslots : (slots ps).Nodup) (hunmet : ∀ q ∈ ps, q ≠ .slot i → Unmet name (q.render v)) :
    replaceFirst (render v (p :: ps)) name new = render (Function.update v i new) (p :: ps) ↔
      ¬ name <:+: render v (p :: ps.takeWhile fun q => decide (q ≠ .slot i)) := by
  obtain ⟨back, hps, hback⟩ := exists_split i ps
  generalize hfront : (ps.takeWhile fun q => decide (q ≠ .slot i)) = front at hps ⊢
  have hnot : .slot i ∉ p :: front := by
    rw [List.mem_cons, not_or]
    refine ⟨Ne.symm hp, fun hi => ?_⟩
    rw [← hfront] at hi
    have hne := List.mem_takeWhile_imp hi
    exact absurd rfl (of_decide_eq_true hne)
  have hbackSlots : (slots back).Nodup := by
    rw [hps, slots, List.filterMap_append] at hslots
    exact (List.nodup_append.mp hslots).2.1
  have hbackUnmet : ∀ q ∈ back, q ≠ .slot i → Unmet name (q.render v) :=
    fun q hq => hunmet q (by rw [hps]; exact List.mem_append_right _ hq)
  have hstart : render v back = [] ∨ name <+: render v back := by
    rcases hback with rfl | ⟨tail, rfl⟩
    · exact .inl rfl
    · refine .inr ?_
      rw [render_cons, Piece.render, hv]
      exact List.prefix_append ..
  rw [hps, ← List.cons_append, render_append, render_append, render_update hnot,
    ← replaceFirst_render hne hv hbackSlots hbackUnmet]
  exact replaceFirst_append_iff hne hborder hnew hhead hstart

/-- The replacement fills the slot `i` exactly when the value of the slot `j`, of which nothing is
known, has not brought the name before the slot. -/
theorem replaceFirst_render_iff (hne : name ≠ []) (hborder : Borderless name)
    (hnew : new ≠ []) (hhead : new.head? ≠ name.head?) (hv : v i = name)
    (hslots : (slots ps).Nodup)
    (hunmet : ∀ p ∈ ps, p ≠ .slot i → p ≠ .slot j → Unmet name (p.render v)) :
    replaceFirst (render v ps) name new = render (Function.update v i new) ps ↔
      ¬ name <:+: render v (exposed i j ps) := by
  have hempty : ¬ name <:+: [] := fun h => hne (List.infix_nil.mp h)
  induction ps with
  | nil =>
      rw [render_nil, render_nil, replaceFirst_of_none (by rw [find?, if_neg hne])]
      exact iff_of_true rfl hempty
  | cons p ps ih =>
      rw [exposed]
      split
      · next hp =>
        subst hp
        exact iff_of_true (replaceFirst_render_slot hne hv hslots) hempty
      · next hp =>
        split
        · next hpj =>
          subst hpj
          have hrest := nodup_tail hslots
          have hlast : ∀ q ∈ ps, q ≠ .slot i → Unmet name (q.render v) := by
            intro q hq hqi
            refine hunmet q (List.mem_cons_of_mem _ hq) hqi ?_
            rintro rfl
            exact slot_notMem hslots hq
          exact replaceFirst_render_behind hne hborder hnew hhead hv hp hrest hlast
        · next hpj =>
          have hpass := (hunmet p (List.mem_cons_self ..) hp hpj).find?_append (render v ps)
          rw [render_cons, render_cons, replaceFirst_append hpass, Piece.render_update hp,
            List.append_cancel_left_eq]
          exact ih (nodup_tail hslots) fun q hq => hunmet q (List.mem_cons_of_mem _ hq)

end Templates

end Lib
