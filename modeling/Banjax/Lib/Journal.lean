import Mathlib.Tactic
import Banjax.Lib.Run

/-!
# Journals of a tree

A tree has items or a value at its paths.  A journal writes it: an entry adds items at a path,
or sets the value there, or clears the path with everything below it.

`given` is what a journal gives at a path when nothing is cleared: all the items in their order
and the last value.  The tree that is written has all that exactly when a clearing entry never
comes after something that it takes away for good (`replay_eq_given_iff`).
-/

namespace Lib.Journal

variable {κ α β : Type} [DecidableEq κ]

/-- What an entry does at its path. -/
inductive Leaf (α β : Type) where
  | clear
  | items (xs : List α)
  | value (b : β)

/-- An entry: a path, and what is done there. -/
abbrev Entry (κ α β : Type) := List κ × Leaf α β

/-- What a tree has at a path. -/
@[ext]
structure Content (α β : Type) where
  items : List α := []
  value : Option β := none

/-- The items of both, and the value of the second if it has one. -/
def Content.append (c d : Content α β) : Content α β := ⟨c.items ++ d.items, d.value.or c.value⟩

@[simp] theorem Content.append_nothing (c : Content α β) : c.append {} = c := by
  simp [Content.append]

/-- The path is the one of a clearing entry, or below it. -/
def clears (p : List κ) : Entry κ α β → Bool
  | (q, .clear) => q.isPrefixOf p
  | _ => false

/-- What the entry gives at the path. -/
def gift (p : List κ) : Entry κ α β → Content α β
  | (q, .items xs) => if q = p then ⟨xs, none⟩ else {}
  | (q, .value b) => if q = p then ⟨[], some b⟩ else {}
  | _ => {}

/-- The content of a path after an entry. -/
def write (p : List κ) (c : Content α β) (entry : Entry κ α β) : Content α β :=
  if clears p entry then {} else c.append (gift p entry)

/-- The content of a path after a journal. -/
def replay (journal : List (Entry κ α β)) (content : List κ → Content α β) (p : List κ) :
    Content α β :=
  journal.foldl (write p) (content p)

/-- Everything that a journal gives at a path: all the items, and the last value. -/
def given (journal : List (Entry κ α β)) (p : List κ) : Content α β where
  items := journal.flatMap fun entry => (gift p entry).items
  value := (journal.filterMap fun entry => (gift p entry).value).getLast?

/-! ## What is given -/

@[simp] theorem given_nil (p : List κ) : given ([] : List (Entry κ α β)) p = {} := rfl

theorem given_append (j k : List (Entry κ α β)) (p : List κ) :
    given (j ++ k) p = (given j p).append (given k p) := by
  ext1
  · simp [given, Content.append]
  · simp [given, Content.append, List.getLast?_append]

theorem given_singleton (entry : Entry κ α β) (p : List κ) : given [entry] p = gift p entry := by
  ext1
  · simp [given]
  · cases h : (gift p entry).value <;> simp [given, h]

theorem gift_of_clears {p : List κ} {entry : Entry κ α β} (h : clears p entry = true) :
    gift p entry = {} := by
  obtain ⟨q, leaf⟩ := entry
  cases leaf with
  | clear => rfl
  | items xs => cases h
  | value b => cases h

/-! ## What is left -/

@[simp] theorem replay_nil (content : List κ → Content α β) (p : List κ) :
    replay [] content p = content p := rfl

theorem replay_append (j k : List (Entry κ α β)) (content : List κ → Content α β) :
    replay (j ++ k) content = replay k (replay j content) := by
  funext p
  simp [replay]

theorem replay_singleton (entry : Entry κ α β) (content : List κ → Content α β) (p : List κ) :
    replay [entry] content p = write p (content p) entry := rfl

theorem write_of_clears {p : List κ} {entry : Entry κ α β} (h : clears p entry = true)
    (c : Content α β) : write p c entry = {} := if_pos h

theorem write_of_not_clears {p : List κ} {entry : Entry κ α β} (h : ¬ clears p entry = true)
    (c : Content α β) : write p c entry = c.append (gift p entry) := if_neg h

/-- No items stand in front of an entry that clears the path. -/
def ItemsKept (journal : List (Entry κ α β)) (p : List κ) : Prop :=
  ∀ pre entry post, journal = pre ++ entry :: post → clears p entry = true →
    (given pre p).items = []

/-- When a value stands in front of an entry that clears the path, one comes again after it. -/
def ValueKept (journal : List (Entry κ α β)) (p : List κ) : Prop :=
  ∀ pre entry post, journal = pre ++ entry :: post → clears p entry = true →
    (given pre p).value.isSome → (given post p).value.isSome

section Kept

variable {j k : List (Entry κ α β)} {p : List κ} {entry : Entry κ α β}

theorem ItemsKept.front (h : ItemsKept (j ++ k) p) : ItemsKept j p := by
  rintro pre e post rfl he
  exact h pre e (post ++ k) (by simp) he

theorem ItemsKept.back (h : ItemsKept (j ++ k) p) : ItemsKept k p := by
  rintro pre e post rfl he
  have hitems := h (j ++ pre) e post (by simp) he
  rw [given_append] at hitems
  exact (List.append_eq_nil_iff.mp hitems).2

/-- Nothing is in front of a journal that clears the path. -/
theorem ItemsKept.eq_nil (h : ItemsKept (j ++ k) p) (hentry : entry ∈ k)
    (hclears : clears p entry = true) : (given j p).items = [] := by
  obtain ⟨pre, post, rfl⟩ := List.append_of_mem hentry
  have hitems := h (j ++ pre) entry post (by simp) hclears
  rw [given_append] at hitems
  exact (List.append_eq_nil_iff.mp hitems).1

theorem isSome_append_of_front (c : Content α β) {d : Content α β} (h : c.value.isSome) :
    (c.append d).value.isSome := by
  rw [Content.append, Option.isSome_or, h, Bool.or_true]

theorem isSome_append_of_back {c d : Content α β} (h : d.value.isSome) :
    (c.append d).value.isSome := by
  rw [Content.append, Option.isSome_or, h, Bool.true_or]

theorem ValueKept.back (h : ValueKept (j ++ k) p) : ValueKept k p := by
  rintro pre e post rfl he hsome
  apply h (j ++ pre) e post (by simp) he
  rw [given_append]
  exact isSome_append_of_back hsome

/-- A journal without values at the path takes the value away when it clears the path. -/
theorem ValueKept.eq_none (h : ValueKept (j ++ k) p) (hentry : entry ∈ k)
    (hclears : clears p entry = true) (hnone : (given k p).value = none) :
    (given j p).value = none := by
  obtain ⟨pre, post, rfl⟩ := List.append_of_mem hentry
  by_contra hne
  have hsome : (given (j ++ pre) p).value.isSome := by
    rw [given_append]
    exact isSome_append_of_front _ (Option.isSome_iff_ne_none.mpr hne)
  have hpost := h (j ++ pre) entry post (by simp) hclears hsome
  rw [given_append, ← List.singleton_append, given_append] at hnone
  have hback := isSome_append_of_back (c := given pre p)
    (isSome_append_of_back (c := given [entry] p) hpost)
  rw [hnone] at hback
  cases hback

/-- A journal without values at the path leaves the value otherwise. -/
theorem ValueKept.front (h : ValueKept (j ++ k) p) (hnone : (given k p).value = none) :
    ValueKept j p := by
  rintro pre e post rfl he hsome
  have hpost := h pre e (post ++ k) (by simp) he hsome
  rw [given_append, Content.append, hnone, Option.none_or] at hpost
  exact hpost

theorem ValueKept.of_eq_none (h : (given j p).value = none) : ValueKept j p := by
  rintro pre e post rfl _ hsome
  rw [given_append] at h
  have hall := isSome_append_of_front (given pre p) (d := given (e :: post) p) hsome
  rw [h] at hall
  cases hall

end Kept

theorem replay_snoc (j : List (Entry κ α β)) (entry : Entry κ α β)
    (content : List κ → Content α β) (p : List κ) :
    replay (j ++ [entry]) content p = write p (replay j content p) entry := by
  rw [replay_append, replay_singleton]

theorem given_snoc (j : List (Entry κ α β)) (entry : Entry κ α β) (p : List κ) :
    given (j ++ [entry]) p = (given j p).append (gift p entry) := by
  rw [given_append, given_singleton]

/-- The empty tree. -/
def nothing : List κ → Content α β := fun _ => {}

/-- All the items are left when none of them stands in front of an entry that clears. -/
theorem replay_items_iff (journal : List (Entry κ α β)) (p : List κ) :
    (replay journal nothing p).items = (given journal p).items ↔ ItemsKept journal p := by
  induction journal using List.reverseRecOn with
  | nil => simp [nothing, ItemsKept]
  | append_singleton j entry ih =>
      rw [replay_snoc, given_snoc]
      by_cases hclears : clears p entry = true
      · rw [write_of_clears hclears, gift_of_clears hclears, Content.append_nothing]
        constructor
        · intro hnil pre e post hsplit he
          rcases split_snoc hsplit with ⟨rfl, -, -⟩ | ⟨post', -, rfl⟩
          · exact hnil.symm
          · rw [given_append] at hnil
            exact (List.append_eq_nil_iff.mp hnil.symm).1
        · intro h
          exact (h j entry [] rfl hclears).symm
      · rw [write_of_not_clears hclears, Content.append, Content.append, List.append_left_inj, ih]
        constructor
        · intro h pre e post hsplit he
          rcases split_snoc hsplit with ⟨-, rfl, -⟩ | ⟨post', -, hj⟩
          · exact absurd he hclears
          · exact h pre e post' hj he
        · exact ItemsKept.front

/-- The last value is left when none stands in front of an entry that clears, unless one comes
again. -/
theorem replay_value_iff (journal : List (Entry κ α β)) (p : List κ) :
    (replay journal nothing p).value = (given journal p).value ↔ ValueKept journal p := by
  induction journal using List.reverseRecOn with
  | nil => simp [nothing, ValueKept]
  | append_singleton j entry ih =>
      rw [replay_snoc]
      by_cases hclears : clears p entry = true
      · rw [write_of_clears hclears, given_snoc, gift_of_clears hclears, Content.append_nothing]
        constructor
        · intro hnone
          apply ValueKept.of_eq_none
          rw [given_snoc, gift_of_clears hclears, Content.append_nothing]
          exact hnone.symm
        · intro h
          have hnone := h.eq_none (List.mem_singleton_self entry) hclears
            (by rw [given_singleton, gift_of_clears hclears])
          exact hnone.symm
      · rw [write_of_not_clears hclears]
        cases hvalue : (gift p entry).value with
        | some b =>
            -- The entry gives the last value itself.
            rw [given_snoc, Content.append, Content.append, hvalue]
            refine iff_of_true rfl ?_
            intro pre e post hsplit he hsome
            rcases split_snoc hsplit with ⟨-, rfl, -⟩ | ⟨post', rfl, -⟩
            · exact absurd he hclears
            · rw [given_snoc]
              exact isSome_append_of_back (by rw [hvalue]; rfl)
        | none =>
            rw [given_snoc, Content.append, Content.append, hvalue, Option.none_or, Option.none_or,
              ih]
            constructor
            · intro h pre e post hsplit he hsome
              rcases split_snoc hsplit with ⟨-, rfl, -⟩ | ⟨post', rfl, hj⟩
              · exact absurd he hclears
              · rw [given_snoc]
                exact isSome_append_of_front _ (h pre e post' hj he hsome)
            · intro h
              exact h.front (by rw [given_singleton, hvalue])

/-- A tree has everything that its journal gives when nothing is cleared that does not come
again, and only then. -/
theorem replay_eq_given_iff (journal : List (Entry κ α β)) (p : List κ) :
    replay journal nothing p = given journal p ↔ ItemsKept journal p ∧ ValueKept journal p := by
  rw [Content.ext_iff, replay_items_iff, replay_value_iff]

/-! ## Journals of subtrees -/

/-- The journal of a subtree, as a part of the tree. -/
def under (key : κ) (journal : List (Entry κ α β)) : List (Entry κ α β) :=
  journal.map fun entry => (key :: entry.1, entry.2)

theorem clears_under {key k : κ} {p : List κ} {entry : Entry κ α β} :
    clears (k :: p) (key :: entry.1, entry.2) = true ↔ key = k ∧ clears p entry = true := by
  obtain ⟨q, leaf⟩ := entry
  cases leaf <;> simp [clears]

theorem clears_under_nil (key : κ) (entry : Entry κ α β) :
    clears [] (key :: entry.1, entry.2) = false := by
  obtain ⟨q, leaf⟩ := entry
  cases leaf <;> simp [clears]

theorem write_under (key k : κ) (p : List κ) (c : Content α β) (entry : Entry κ α β) :
    write (k :: p) c (key :: entry.1, entry.2) = if key = k then write p c entry else c := by
  obtain ⟨q, leaf⟩ := entry
  by_cases hkey : key = k
  · subst hkey
    cases leaf <;> simp [write, clears, gift]
  · cases leaf <;> simp [write, clears, gift, hkey]

theorem write_under_nil (key : κ) (c : Content α β) (entry : Entry κ α β) :
    write [] c (key :: entry.1, entry.2) = c := by
  obtain ⟨q, leaf⟩ := entry
  cases leaf <;> simp [write, clears, gift]

@[simp] theorem replay_under_nil (key : κ) (journal : List (Entry κ α β))
    (content : List κ → Content α β) : replay (under key journal) content [] = content [] := by
  rw [replay, under, List.foldl_map]
  simp only [write_under_nil, List.foldl_fixed]

/-- A subtree is written as a tree. -/
theorem replay_under_self (key : κ) (journal : List (Entry κ α β))
    (content : List κ → Content α β) (p : List κ) :
    replay (under key journal) content (key :: p) =
      replay journal (fun p => content (key :: p)) p := by
  rw [replay, under, List.foldl_map]
  simp only [write_under, if_pos]
  rfl

/-- The other subtrees are as they were. -/
theorem replay_under_of_ne {key k : κ} (h : key ≠ k) (journal : List (Entry κ α β))
    (content : List κ → Content α β) (p : List κ) :
    replay (under key journal) content (k :: p) = content (k :: p) := by
  rw [replay, under, List.foldl_map]
  simp only [write_under, if_neg h, List.foldl_fixed]

end Lib.Journal
