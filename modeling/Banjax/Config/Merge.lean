import Banjax.Config.Defs
import Banjax.Lib.Journal

/-!
# Merging the sections of a filter

`merge_nodes` of `banjax_filter.h`, with which the constructor of a filter merges the sections
that the files have for it.

A section is read as a journal of what it gives at the paths of its keys: the elements of a
sequence, a scalar, or a null.  Merging a section writes its journal to what has been merged
before (`mergeNodes_written`).  There a null does not stand for nothing: it clears its path, with
all that earlier sections have given there and below.  So the sections merge without loss when no
null comes after something that does not come again (`mergesWithoutLoss_iff`), and then the merges
may be grouped in any way.
-/

namespace Banjax

open Lib Lib.Journal

/-! ## `merge_nodes` -/

namespace Node

/-- A property of the values of a map is one of the map. -/
@[elab_as_elim]
theorem ind {P : Node → Prop} (null : P .null) (scalar : ∀ text, P (.scalar text))
    (sequence : ∀ elements, P (.sequence elements))
    (map : ∀ entries : List (Node × Node), (∀ entry ∈ entries, P entry.2) → P (.map entries))
    (node : Node) : P node :=
  match node with
  | .null => null
  | .scalar text => scalar text
  | .sequence elements => sequence elements
  | .map entries => map entries fun entry _ => ind null scalar sequence map entry.2
termination_by sizeOf node
decreasing_by
  have := List.sizeOf_lt_of_mem ‹entry ∈ entries›
  cases entry
  simp at *
  omega

/-- `Scalar`. -/
def scalarText : Node → Bytes
  | scalar text => text
  | _ => []

/-- The entries of a node once `operator[]` has made it a map.  A sequence becomes a map with
its positions as keys.  A node that is not there is `none`. -/
def asEntries : Option Node → Except Abort (List (Node × Node))
  | some (map entries) => .ok entries
  | some (sequence elements) =>
      .ok (elements.mapIdx fun i element => (scalar (decimal i), element))
  | some (scalar _) => .error .badSubscript
  | _ => .ok []

/-- `operator[] =`, on the entries. -/
def assign (key : Bytes) (value : Node) : List (Node × Node) → List (Node × Node)
  | [] => [(scalar key, value)]
  | entry :: entries =>
      if entry.1.asString = some key then (entry.1, value) :: entries
      else entry :: assign key value entries

/-- `result[key] = child`, with the entries of the result.  When the child is not there, the
entry is not there either. -/
def store (result : Option Node) (entries : List (Node × Node)) (key : Bytes) :
    Option Node → Option Node
  | none => result.map fun _ => .map entries
  | some child => some (.map (assign key child entries))

end Node

mutual

/-- `merge_nodes`. -/
def mergeNodes (a : Option Node) : Node → Except Abort (Option Node)
  | .map entries => mergeEntries a entries
  | .sequence elements =>
      match a with
      | some (.sequence front) => .ok (some (.sequence (front ++ elements)))
      | _ => .ok (some (.sequence elements))
  | .scalar text => .ok (some (.scalar text))
  | .null => .ok (some .null)

/-- The loop of `merge_nodes` over the entries of a map. -/
def mergeEntries (result : Option Node) : List (Node × Node) → Except Abort (Option Node)
  | [] => .ok result
  | (key, value) :: rest => do
      let entries ← Node.asEntries result
      let child ← mergeNodes (Node.find? key.scalarText (.map entries)) value
      mergeEntries (Node.store result entries key.scalarText child) rest

end

/-- The constructor of `BanjaxFilter`, from a `cfg` that is null. -/
def mergeSections (sections : List Node) : Except Abort (Option Node) :=
  sections.foldlM mergeNodes (some .null)

/-- `cfg` of a filter. -/
def FilterConfig.cfg (filterConfig : FilterConfig) : Except Abort (Option Node) :=
  mergeSections (filterConfig.configNodeList.map Prod.snd)

/-! ## Paths of keys -/

/-- The kinds of the nodes that are not null. -/
inductive Kind where
  | scalar
  | sequence
  | map
deriving DecidableEq

namespace Node

/-- The kinds of the paths below a key. -/
def kindsUnder (kind : List Bytes → Kind) (key : Bytes) : List Bytes → Kind := fun path =>
  kind (key :: path)

/-- Every path of keys has one kind, wherever it is not null. -/
inductive HasKinds : (List Bytes → Kind) → Node → Prop where
  | null {kind : List Bytes → Kind} : HasKinds kind .null
  | scalar {kind : List Bytes → Kind} {text : Bytes} :
      kind [] = .scalar → HasKinds kind (.scalar text)
  | sequence {kind : List Bytes → Kind} {elements : List Node} :
      kind [] = .sequence → HasKinds kind (.sequence elements)
  | map {kind : List Bytes → Kind} {entries : List (Node × Node)} :
      kind [] = .map →
      (∀ entry ∈ entries, HasKinds (kindsUnder kind entry.1.scalarText) entry.2) →
      HasKinds kind (.map entries)

/-- The keys of every map are scalars, and no key comes twice. -/
inductive Plain : Node → Prop where
  | null : Plain .null
  | scalar {text : Bytes} : Plain (.scalar text)
  | sequence {elements : List Node} : Plain (.sequence elements)
  | map {entries : List (Node × Node)} :
      (∀ entry ∈ entries, entry.1.asString = some entry.1.scalarText) →
      (entries.map fun entry => entry.1.scalarText).Nodup →
      (∀ entry ∈ entries, Plain entry.2) → Plain (.map entries)

mutual

/-- What a section gives, in the order of the file. -/
def journal : Node → List (Entry Bytes Node Bytes)
  | null => [([], .clear)]
  | scalar text => [([], .value text)]
  | sequence elements => [([], .items elements)]
  | map entries => entriesJournal entries

/-- What the entries of a map give. -/
def entriesJournal : List (Node × Node) → List (Entry Bytes Node Bytes)
  | [] => []
  | (key, value) :: rest => under key.scalarText (journal value) ++ entriesJournal rest

end

/-- The elements or the scalar at a path. -/
def contentAt : Option Node → List Bytes → Content Node Bytes
  | some (scalar text), [] => ⟨[], some text⟩
  | some (sequence elements), [] => ⟨elements, none⟩
  | some node, key :: path => contentAt (node.find? key) path
  | _, _ => {}

/-- The path goes through a null. -/
def nullAbove : Option Node → List Bytes → Bool
  | some null, _ => true
  | some node, key :: path => nullAbove (node.find? key) path
  | _, _ => false

section Content

variable (key : Bytes) (path : List Bytes) (entries : List (Node × Node))

@[simp] theorem contentAt_none : contentAt none path = {} := by
  cases path <;> rfl

@[simp] theorem contentAt_null : contentAt (some null) path = {} := by
  cases path with
  | nil => rfl
  | cons key path => exact contentAt_none path

@[simp] theorem contentAt_map_nil : contentAt (some (map entries)) [] = {} := rfl

@[simp] theorem contentAt_cons (node : Node) :
    contentAt (some node) (key :: path) = contentAt (node.find? key) path := by
  cases node <;> rfl

@[simp] theorem nullAbove_none : nullAbove none path = false := by
  cases path <;> rfl

@[simp] theorem nullAbove_null : nullAbove (some null) path = true := by
  cases path <;> rfl

@[simp] theorem nullAbove_map_nil : nullAbove (some (map entries)) [] = false := rfl

@[simp] theorem nullAbove_map_cons :
    nullAbove (some (map entries)) (key :: path) =
      nullAbove (Node.find? key (map entries)) path := rfl

end Content

/-- There is nothing at a path that goes through a null. -/
theorem contentAt_of_nullAbove {node : Option Node} {path : List Bytes}
    (h : nullAbove node path = true) : contentAt node path = {} := by
  induction path generalizing node with
  | nil =>
      cases node with
      | none => rfl
      | some node => cases node <;> first | rfl | cases h
  | cons key path ih =>
      cases node with
      | none => simp
      | some node =>
          cases node with
          | null => simp [find?]
          | scalar text => simp [find?]
          | sequence elements => simp [find?]
          | map entries => exact ih h

/-! ## Assigning an entry -/

section Assign

variable {key k : Bytes} {value : Node} {entries : List (Node × Node)} {entry : Node × Node}

@[simp] theorem find?_nil : Node.find? k (map []) = none := rfl

theorem find?_cons : Node.find? k (map (entry :: entries)) =
    if entry.1.asString = some k then some entry.2 else Node.find? k (map entries) := by
  by_cases h : entry.1.asString = some k
  · simp [find?, h]
  · simp [find?, h]

theorem find?_assign_self : Node.find? key (map (assign key value entries)) = some value := by
  induction entries with
  | nil => simp [assign, find?_cons, asString]
  | cons entry entries ih =>
      rw [assign]
      split
      · next h => rw [find?_cons, if_pos h]
      · next h => rw [find?_cons, if_neg h, ih]

theorem find?_assign_of_ne (h : k ≠ key) :
    Node.find? k (map (assign key value entries)) = Node.find? k (map entries) := by
  induction entries with
  | nil => simp [assign, find?_cons, asString, h.symm]
  | cons entry entries ih =>
      rw [assign]
      split
      · next hkey =>
        have hne : ¬ entry.1.asString = some k := by
          rw [hkey]
          exact fun he => h (Option.some.inj he).symm
        rw [find?_cons, find?_cons, if_neg hne, if_neg hne]
      · rw [find?_cons, find?_cons, ih]

/-- The entries are the old ones and the new one. -/
theorem mem_assign (h : entry ∈ assign key value entries) :
    entry ∈ entries ∨ entry.1.asString = some key ∧ entry.2 = value := by
  induction entries with
  | nil =>
      cases List.mem_singleton.mp h
      exact .inr ⟨rfl, rfl⟩
  | cons first entries ih =>
      rw [assign] at h
      split at h
      · next hkey =>
        rcases List.mem_cons.mp h with rfl | h
        · exact .inr ⟨hkey, rfl⟩
        · exact .inl (List.mem_cons_of_mem _ h)
      · rcases List.mem_cons.mp h with rfl | h
        · exact .inl List.mem_cons_self
        · exact (ih h).imp_left (List.mem_cons_of_mem _)

theorem scalarText_of_asString {node : Node} (h : node.asString = some k) :
    node.scalarText = k := by
  cases node <;> cases h
  rfl

/-- An entry that is found is one of the entries. -/
theorem mem_of_find? (h : Node.find? key (map entries) = some value) :
    ∃ entry ∈ entries, entry.1.scalarText = key ∧ entry.2 = value := by
  obtain ⟨entry, hentry, rfl⟩ := Option.map_eq_some_iff.mp h
  have hkey := List.find?_some hentry
  have hname := scalarText_of_asString (of_decide_eq_true hkey)
  exact ⟨entry, List.mem_of_find?_eq_some hentry, hname, rfl⟩

/-- The keys are the old ones, and the new one if it is not one of them. -/
theorem keys_assign
    (h : ∀ entry ∈ entries, entry.1.asString = some entry.1.scalarText) :
    ((assign key value entries).map fun entry => entry.1.scalarText) =
      if key ∈ entries.map fun entry => entry.1.scalarText then
        entries.map fun entry => entry.1.scalarText
      else (entries.map fun entry => entry.1.scalarText) ++ [key] := by
  induction entries with
  | nil => simp [assign, scalarText]
  | cons entry entries ih =>
      have hfirst := h entry List.mem_cons_self
      rw [assign, hfirst]
      by_cases hkey : entry.1.scalarText = key
      · simp [hkey]
      · have hne : key ≠ entry.1.scalarText := fun he => hkey he.symm
        have hsome : ¬ some entry.1.scalarText = some key := fun he => hkey (Option.some.inj he)
        rw [if_neg hsome, List.map_cons, ih fun e he => h e (List.mem_cons_of_mem _ he)]
        simp only [List.map_cons, List.mem_cons, hne, false_or]
        split <;> simp

end Assign

/-! ## What has been merged -/

/-- What can stand in `cfg`, once sections of these kinds have been merged. -/
structure Settled (kind : List Bytes → Kind) (node : Option Node) : Prop where
  kinds : ∀ n, node = some n → HasKinds kind n
  plain : ∀ n, node = some n → Plain n

theorem Settled.none {kind : List Bytes → Kind} : Settled kind none := ⟨nofun, nofun⟩

theorem settled_some {kind : List Bytes → Kind} {node : Node} :
    Settled kind (some node) ↔ HasKinds kind node ∧ Plain node := by
  constructor
  · intro h
    exact ⟨h.kinds node rfl, h.plain node rfl⟩
  · rintro ⟨hkinds, hplain⟩
    constructor
    · rintro n ⟨⟩
      exact hkinds
    · rintro n ⟨⟩
      exact hplain

section Settled

variable {kind : List Bytes → Kind} {node : Option Node} {entries : List (Node × Node)}
  {key : Bytes} {value : Node}

theorem Settled.find? (h : Settled kind (some (map entries))) :
    Settled (kindsUnder kind key) (Node.find? key (map entries)) := by
  cases hfound : Node.find? key (map entries) with
  | none => exact .none
  | some value =>
      obtain ⟨entry, hentry, rfl, rfl⟩ := mem_of_find? hfound
      obtain ⟨hkinds, hplain⟩ := settled_some.mp h
      cases hkinds with
      | map _ hkinds =>
          cases hplain with
          | map _ _ hplain => exact settled_some.mpr ⟨hkinds entry hentry, hplain entry hentry⟩

theorem Settled.assign (h : Settled kind (some (map entries)))
    (hvalue : Settled (kindsUnder kind key) (some value)) :
    Settled kind (some (map (Node.assign key value entries))) := by
  obtain ⟨hkinds, hplain⟩ := settled_some.mp h
  obtain ⟨hvalueKinds, hvaluePlain⟩ := settled_some.mp hvalue
  cases hkinds with
  | map hmap hkinds =>
      cases hplain with
      | map hkeys hnodup hplain =>
          refine settled_some.mpr ⟨.map hmap ?_, .map ?_ ?_ ?_⟩
          · intro entry hentry
            rcases mem_assign hentry with hold | ⟨hkey, rfl⟩
            · exact hkinds entry hold
            · rw [scalarText_of_asString hkey]
              exact hvalueKinds
          · intro entry hentry
            rcases mem_assign hentry with hold | ⟨hkey, rfl⟩
            · exact hkeys entry hold
            · rw [scalarText_of_asString hkey]
              exact hkey
          · rw [keys_assign hkeys]
            split
            · exact hnodup
            · next hnew =>
              exact List.nodup_append.mpr ⟨hnodup, List.nodup_singleton _,
                fun a ha b hb he => hnew (List.mem_singleton.mp hb ▸ he ▸ ha)⟩
          · intro entry hentry
            rcases mem_assign hentry with hold | ⟨hkey, rfl⟩
            · exact hplain entry hold
            · exact hvaluePlain

/-- Where the sections have maps, `operator[]` finds a map or makes one of nothing. -/
theorem Settled.asEntries (h : Settled kind node) (hmap : kind [] = .map) :
    ∃ entries, Node.asEntries node = .ok entries ∧ Settled kind (some (map entries)) ∧
      (∀ path, contentAt node path = contentAt (some (map entries)) path) ∧
      ∀ path, nullAbove (some (map entries)) path = true → nullAbove node path = true := by
  have hempty : Settled kind (some (map [])) :=
    settled_some.mpr ⟨.map hmap (by simp), .map (by simp) (by simp) (by simp)⟩
  have hnothing : ∀ path, contentAt (some (map [])) path = {} := by
    intro path
    cases path <;> simp
  cases node with
  | none => exact ⟨[], rfl, hempty, by simp [hnothing], fun path => by cases path <;> simp⟩
  | some node =>
      have hkinds := h.kinds node rfl
      cases hkinds with
      | null => exact ⟨[], rfl, hempty, by simp [hnothing], by simp⟩
      | scalar hkind => rw [hmap] at hkind; cases hkind
      | sequence hkind => rw [hmap] at hkind; cases hkind
      | map _ _ => exact ⟨_, rfl, h, fun _ => rfl, fun _ h => h⟩

end Settled

/-- The node `c` is `a` with a journal written to it. -/
structure Written (kind : List Bytes → Kind) (a : Option Node)
    (journal : List (Entry Bytes Node Bytes)) (c : Option Node) : Prop where
  settled : Settled kind c
  /-- What is there stays there. -/
  isSome : a.isSome = true → c.isSome = true
  content : contentAt c = replay journal (contentAt a)
  /-- A null is an old one or one of the journal. -/
  nulls : ∀ path, nullAbove c path = true →
    nullAbove a path = true ∨ ∃ entry ∈ journal, clears path entry = true

section Written

variable {kind : List Bytes → Kind} {a b c : Option Node} {j k : List (Entry Bytes Node Bytes)}

theorem Written.refl (h : Settled kind a) : Written kind a [] a :=
  ⟨h, id, rfl, fun _ h => .inl h⟩

theorem Written.trans (h : Written kind a j b) (h' : Written kind b k c) :
    Written kind a (j ++ k) c where
  settled := h'.settled
  isSome ha := h'.isSome (h.isSome ha)
  content := by rw [h'.content, h.content, replay_append]
  nulls path hc := by
    rcases h'.nulls path hc with hb | ⟨entry, hentry, hclears⟩
    · rcases h.nulls path hb with ha | ⟨entry, hentry, hclears⟩
      · exact .inl ha
      · exact .inr ⟨entry, List.mem_append_left _ hentry, hclears⟩
    · exact .inr ⟨entry, List.mem_append_right _ hentry, hclears⟩

/-- The child that is stored is what is found at its key. -/
theorem find?_store {entries : List (Node × Node)} {key : Bytes} {child : Option Node}
    (h : (Node.find? key (map entries)).isSome = true → child.isSome = true) (path : List Bytes) :
    contentAt (store a entries key child) (key :: path) = contentAt child path ∧
    nullAbove (store a entries key child) (key :: path) = nullAbove child path := by
  cases child with
  | none =>
      have hnone : Node.find? key (map entries) = none := by
        cases hfound : Node.find? key (map entries) with
        | none => rfl
        | some value => cases h (by rw [hfound]; rfl)
      cases a with
      | none => simp [store]
      | some a => simp [store, hnone]
  | some child => simp [store, find?_assign_self]

/-- Nothing else changes. -/
theorem find?_store_of_ne {entries : List (Node × Node)} {key k : Bytes} {child : Option Node}
    (hk : k ≠ key) (ha : ∀ path, contentAt a path = contentAt (some (map entries)) path)
    (path : List Bytes) :
    contentAt (store a entries key child) (k :: path) = contentAt a (k :: path) ∧
    (nullAbove (store a entries key child) (k :: path) = true →
      nullAbove (some (map entries)) (k :: path) = true) := by
  rw [ha]
  cases child with
  | none =>
      cases a with
      | none =>
          have hnothing := ha (k :: path)
          rw [contentAt_none] at hnothing
          exact ⟨by rw [← hnothing]; simp [store], by simp [store]⟩
      | some a => exact ⟨rfl, id⟩
  | some child => simp [store, find?_assign_of_ne hk]

/-- One entry of a map writes the journal of its value under its key. -/
theorem Written.store {entries : List (Node × Node)} {key : Bytes} {child : Option Node}
    (hentries : Settled kind (some (map entries)))
    (hcontent : ∀ path, contentAt a path = contentAt (some (map entries)) path)
    (hnulls : ∀ path, nullAbove (some (map entries)) path = true → nullAbove a path = true)
    (h : Written (kindsUnder kind key) (Node.find? key (map entries)) j child) :
    Written kind a (under key j) (Node.store a entries key child) where
  settled := by
    cases child with
    | none =>
        cases a with
        | none => exact .none
        | some a => exact hentries
    | some child => exact hentries.assign h.settled
  isSome ha := by
    cases child with
    | none =>
        cases a with
        | none => cases ha
        | some a => rfl
    | some child => rfl
  content := by
    funext path
    cases path with
    | nil =>
        rw [replay_under_nil, hcontent, contentAt_map_nil]
        cases child with
        | none => cases a <;> rfl
        | some child => rfl
    | cons k path =>
        by_cases hk : k = key
        · subst hk
          rw [(find?_store h.isSome path).1, h.content, replay_under_self]
          congr 1
          funext q
          rw [hcontent, contentAt_cons]
        · rw [(find?_store_of_ne hk hcontent path).1, replay_under_of_ne fun he => hk he.symm]
  nulls path hnull := by
    cases path with
    | nil =>
        cases child with
        | none => cases a <;> cases hnull
        | some child => cases hnull
    | cons k path =>
        by_cases hk : k = key
        · subst hk
          rw [(find?_store h.isSome path).2] at hnull
          rcases h.nulls path hnull with hold | ⟨entry, hentry, hclears⟩
          · exact .inl (hnulls _ hold)
          · refine .inr ⟨_, List.mem_map_of_mem hentry, ?_⟩
            exact clears_under.mpr ⟨rfl, hclears⟩
        · exact .inl (hnulls _ ((find?_store_of_ne hk hcontent path).2 hnull))

end Written

/-! ## Merging -/

section Leaves

variable {kind : List Bytes → Kind} {a : Option Node}

/-- Nothing is below a path that has elements or a scalar. -/
theorem Settled.below_leaf (h : Settled kind a) (hkind : kind [] ≠ .map) (key : Bytes)
    (path : List Bytes) : contentAt a (key :: path) = {} := by
  cases a with
  | none => simp
  | some node =>
      cases h.kinds node rfl with
      | map hmap _ => exact absurd hmap hkind
      | _ => simp [Node.find?]

theorem Settled.items_of_scalar (h : Settled kind a) (hkind : kind [] = .scalar) :
    (contentAt a []).items = [] := by
  cases a with
  | none => rfl
  | some node =>
      cases h.kinds node rfl with
      | sequence hsequence => rw [hkind] at hsequence; cases hsequence
      | _ => rfl

theorem nullAbove_scalar (text : Bytes) (path : List Bytes) :
    nullAbove (some (scalar text)) path = false := by
  cases path with
  | nil => rfl
  | cons key path => exact nullAbove_none path

theorem nullAbove_sequence (elements : List Node) (path : List Bytes) :
    nullAbove (some (sequence elements)) path = false := by
  cases path with
  | nil => rfl
  | cons key path => exact nullAbove_none path

/-- A scalar takes the place of the one before. -/
theorem written_scalar (h : Settled kind a) {text : Bytes} (hkind : kind [] = .scalar) :
    Written kind a [([], .value text)] (some (scalar text)) where
  settled := settled_some.mpr ⟨.scalar hkind, .scalar⟩
  isSome _ := rfl
  content := by
    funext path
    cases path with
    | nil =>
        ext1
        · simp [replay_singleton, write, clears, gift, Content.append, h.items_of_scalar hkind,
            contentAt]
        · simp [replay_singleton, write, clears, gift, Content.append, contentAt]
    | cons key path =>
        have hbelow := h.below_leaf (by rw [hkind]; decide) key path
        simp [replay_singleton, write, clears, gift, hbelow, Node.find?]
  nulls path hnull := by
    rw [nullAbove_scalar] at hnull
    cases hnull

/-- The elements of a sequence come after the ones before. -/
theorem written_sequence (h : Settled kind a) {elements : List Node}
    (hkind : kind [] = .sequence) :
    ∃ c, mergeNodes a (sequence elements) = .ok c ∧
      Written kind a [([], .items elements)] c := by
  have hmerge : mergeNodes a (sequence elements) =
      .ok (some (sequence ((contentAt a []).items ++ elements))) := by
    cases a with
    | none => rfl
    | some node => cases node <;> rfl
  have hvalue : (contentAt a []).value = none := by
    cases a with
    | none => rfl
    | some node =>
        cases h.kinds node rfl with
        | scalar hscalar => rw [hkind] at hscalar; cases hscalar
        | _ => rfl
  refine ⟨_, hmerge, settled_some.mpr ⟨.sequence hkind, .sequence⟩, fun _ => rfl, ?_, ?_⟩
  · funext path
    cases path with
    | nil => simp [replay_singleton, write, clears, gift, Content.append, contentAt, hvalue]
    | cons key path =>
        have hbelow := h.below_leaf (by rw [hkind]; decide) key path
        simp [replay_singleton, write, clears, gift, hbelow, Node.find?]
  · intro path hnull
    rw [nullAbove_sequence] at hnull
    cases hnull

end Leaves

/-- The entries of a map are written one after the other. -/
theorem mergeEntries_written {kind : List Bytes → Kind} (hmap : kind [] = .map)
    {entries : List (Node × Node)}
    (h : ∀ entry ∈ entries, ∀ {kind : List Bytes → Kind} {a : Option Node}, Settled kind a →
      HasKinds kind entry.2 →
        ∃ c, mergeNodes a entry.2 = .ok c ∧ Written kind a entry.2.journal c)
    (hkinds : ∀ entry ∈ entries, HasKinds (kindsUnder kind entry.1.scalarText) entry.2)
    {a : Option Node} (ha : Settled kind a) :
    ∃ c, mergeEntries a entries = .ok c ∧ Written kind a (entriesJournal entries) c := by
  induction entries generalizing a with
  | nil => exact ⟨a, by rw [mergeEntries], .refl ha⟩
  | cons entry rest ih =>
      obtain ⟨key, value⟩ := entry
      obtain ⟨entries, hentries, hsettled, hcontent, hnulls⟩ := ha.asEntries hmap
      obtain ⟨child, hchild, hwritten⟩ := h (key, value) List.mem_cons_self hsettled.find?
        (hkinds (key, value) List.mem_cons_self)
      have hstored := Written.store hsettled hcontent hnulls hwritten
      obtain ⟨c, hc, hrest⟩ := ih (fun entry hentry => h entry (List.mem_cons_of_mem _ hentry))
        (fun entry hentry => hkinds entry (List.mem_cons_of_mem _ hentry)) hstored.settled
      refine ⟨c, ?_, hstored.trans hrest⟩
      rw [mergeEntries, hentries, ok_bind, hchild, ok_bind]
      exact hc

/-- A section is written to what has been merged before. -/
theorem mergeNodes_written (b : Node) : ∀ {kind : List Bytes → Kind} {a : Option Node},
    Settled kind a → HasKinds kind b →
      ∃ c, mergeNodes a b = .ok c ∧ Written kind a b.journal c := by
  induction b using Node.ind with
  | null =>
      intro kind a ha hb
      refine ⟨some null, by rw [mergeNodes], settled_some.mpr ⟨.null, .null⟩, fun _ => rfl, ?_, ?_⟩
      · funext path
        simp [journal, replay_singleton, write, clears]
      · intro path _
        exact .inr ⟨_, List.mem_singleton_self _, rfl⟩
  | scalar text =>
      intro kind a ha hb
      cases hb with
      | scalar hkind => exact ⟨_, by rw [mergeNodes], written_scalar ha hkind⟩
  | sequence elements =>
      intro kind a ha hb
      cases hb with
      | sequence hkind => exact written_sequence ha hkind
  | map entries ih =>
      intro kind a ha hb
      cases hb with
      | map hmap hkinds =>
          rw [mergeNodes]
          exact mergeEntries_written hmap ih hkinds ha

/-- The sections are written one after the other. -/
theorem mergeSections_written {kind : List Bytes → Kind} {sections : List Node}
    (hkinds : ∀ b ∈ sections, HasKinds kind b) {a : Option Node} (ha : Settled kind a) :
    ∃ c, sections.foldlM mergeNodes a = .ok c ∧ Written kind a (sections.flatMap journal) c := by
  induction sections generalizing a with
  | nil => exact ⟨a, rfl, .refl ha⟩
  | cons b rest ih =>
      obtain ⟨a', ha', hwritten⟩ := mergeNodes_written b ha (hkinds b List.mem_cons_self)
      obtain ⟨c, hc, hrest⟩ := ih (fun b hb => hkinds b (List.mem_cons_of_mem _ hb))
        hwritten.settled
      refine ⟨c, ?_, hwritten.trans hrest⟩
      rw [List.foldlM_cons, ha', ok_bind]
      exact hc

/-! ## Merging what has been merged -/

section Plain

variable {entries : List (Node × Node)} {entry : Node × Node} {path : List Bytes}

theorem find?_of_mem (hkeys : ∀ entry ∈ entries, entry.1.asString = some entry.1.scalarText)
    (hnodup : (entries.map fun entry => entry.1.scalarText).Nodup) (h : entry ∈ entries) :
    Node.find? entry.1.scalarText (map entries) = some entry.2 := by
  induction entries with
  | nil => cases h
  | cons first entries ih =>
      rw [find?_cons, hkeys first List.mem_cons_self]
      rw [List.map_cons, List.nodup_cons] at hnodup
      rcases List.mem_cons.mp h with rfl | h
      · rw [if_pos rfl]
      · have hne : ¬ some first.1.scalarText = some entry.1.scalarText := by
          intro he
          rw [Option.some.inj he] at hnodup
          exact hnodup.1 (List.mem_map_of_mem h)
        rw [if_neg hne]
        exact ih (fun e he => hkeys e (List.mem_cons_of_mem _ he)) hnodup.2 h

theorem find?_eq_none {key : Bytes} (h : key ∉ entries.map fun entry => entry.1.scalarText) :
    Node.find? key (map entries) = none := by
  cases hfound : Node.find? key (map entries) with
  | none => rfl
  | some value =>
      obtain ⟨entry, hentry, rfl, -⟩ := mem_of_find? hfound
      exact absurd (List.mem_map_of_mem hentry) h

theorem mem_entriesJournal {e : Entry Bytes Node Bytes} :
    e ∈ entriesJournal entries ↔
      ∃ entry ∈ entries, e ∈ under entry.1.scalarText entry.2.journal := by
  induction entries with
  | nil => simp [entriesJournal]
  | cons first entries ih =>
      obtain ⟨key, value⟩ := first
      rw [entriesJournal, List.mem_append, ih]
      simp

/-- The nulls of a node are those of its journal. -/
theorem Plain.nullAbove_iff {node : Node} (h : Plain node) (path : List Bytes) :
    nullAbove (some node) path = true ↔ ∃ e ∈ node.journal, clears path e = true := by
  induction node using Node.ind generalizing path with
  | null => simp [journal, clears]
  | scalar text => simp [nullAbove_scalar, journal, clears]
  | sequence elements => simp [nullAbove_sequence, journal, clears]
  | map entries ih =>
      cases h with
      | map hkeys hnodup hplain =>
          rw [journal]
          constructor
          · intro hnull
            cases path with
            | nil => cases hnull
            | cons key path =>
                rw [nullAbove_map_cons] at hnull
                cases hfound : Node.find? key (.map entries) with
                | none => rw [hfound, nullAbove_none] at hnull; cases hnull
                | some value =>
                    obtain ⟨entry, hentry, rfl, rfl⟩ := mem_of_find? hfound
                    rw [hfound] at hnull
                    obtain ⟨e, he, hclears⟩ :=
                      (ih entry hentry (hplain entry hentry) path).mp hnull
                    exact ⟨_, mem_entriesJournal.mpr ⟨entry, hentry, List.mem_map_of_mem he⟩,
                      clears_under.mpr ⟨rfl, hclears⟩⟩
          · rintro ⟨e, he, hclears⟩
            obtain ⟨entry, hentry, hunder⟩ := mem_entriesJournal.mp he
            obtain ⟨e', he', rfl⟩ := List.mem_map.mp hunder
            cases path with
            | nil => rw [clears_under_nil] at hclears; cases hclears
            | cons key path =>
                obtain ⟨rfl, hchild⟩ := clears_under.mp hclears
                rw [nullAbove_map_cons, find?_of_mem hkeys hnodup hentry]
                exact (ih entry hentry (hplain entry hentry) path).mpr ⟨e', he', hchild⟩

/-- Under a key, a map without double keys writes what it has there. -/
theorem replay_entries (hkeys : ∀ entry ∈ entries, entry.1.asString = some entry.1.scalarText)
    (hnodup : (entries.map fun entry => entry.1.scalarText).Nodup)
    (content : List Bytes → Content Node Bytes) (key : Bytes) (path : List Bytes) :
    replay (entriesJournal entries) content (key :: path) =
      match Node.find? key (.map entries) with
      | none => content (key :: path)
      | some value => replay value.journal (fun path => content (key :: path)) path := by
  induction entries generalizing content with
  | nil => rfl
  | cons first entries ih =>
      obtain ⟨k, value⟩ := first
      have hfirst := hkeys (k, value) List.mem_cons_self
      have hrest : ∀ entry ∈ entries, entry.1.asString = some entry.1.scalarText :=
        fun entry hentry => hkeys entry (List.mem_cons_of_mem _ hentry)
      rw [List.map_cons, List.nodup_cons] at hnodup
      rw [entriesJournal, replay_append, ih hrest hnodup.2, find?_cons, hfirst]
      by_cases hk : k.scalarText = key
      · subst hk
        rw [if_pos rfl, find?_eq_none hnodup.1]
        exact replay_under_self _ _ _ _
      · rw [if_neg fun he => hk (Option.some.inj he)]
        simp only [replay_under_of_ne hk]

theorem replay_entries_nil (content : List Bytes → Content Node Bytes) :
    replay (entriesJournal entries) content [] = content [] := by
  induction entries generalizing content with
  | nil => rfl
  | cons first entries ih =>
      obtain ⟨key, value⟩ := first
      rw [entriesJournal, replay_append, ih, replay_under_nil]

/-- A node takes away what its nulls stand above, and adds what it has elsewhere. -/
theorem Plain.replay_journal {node : Node} (h : Plain node)
    (content : List Bytes → Content Node Bytes) (path : List Bytes) :
    replay node.journal content path =
      if nullAbove (some node) path = true then {}
      else (content path).append (contentAt (some node) path) := by
  induction node using Node.ind generalizing content path with
  | null => simp [journal, replay_singleton, write, clears]
  | scalar text =>
      rw [nullAbove_scalar, journal, replay_singleton]
      cases path with
      | nil => rfl
      | cons key path => simp [write, clears, gift, Node.find?]
  | sequence elements =>
      rw [nullAbove_sequence, journal, replay_singleton]
      cases path with
      | nil => rfl
      | cons key path => simp [write, clears, gift, Node.find?]
  | map entries ih =>
      cases h with
      | map hkeys hnodup hplain =>
          rw [journal]
          cases path with
          | nil => simp [replay_entries_nil]
          | cons key path =>
              rw [replay_entries hkeys hnodup, nullAbove_map_cons, contentAt_cons]
              cases hfound : Node.find? key (.map entries) with
              | none => simp
              | some value =>
                  obtain ⟨entry, hentry, rfl, rfl⟩ := mem_of_find? hfound
                  exact ih entry hentry (hplain entry hentry) _ path

end Plain

end Node

/-! ## The sections of a filter -/

open Node

/-- Every path of keys has the same kind in all the sections. -/
def SameKinds (sections : List Node) : Prop :=
  ∃ kind : List Bytes → Kind, ∀ b ∈ sections, HasKinds kind b

/-- What the sections give, in the order of the files. -/
def sectionsJournal (sections : List Node) : List (Entry Bytes Node Bytes) :=
  sections.flatMap journal

/-- A way to merge sections two by two. -/
inductive Grouping where
  | single (b : Node) (plain : Plain b)
  | join (front back : Grouping)

namespace Grouping

/-- The sections that are merged. -/
def sections : Grouping → List Node
  | single b _ => [b]
  | join front back => front.sections ++ back.sections

/-- What they are merged to. -/
def merge : Grouping → Except Abort (Option Node)
  | single b _ => .ok (some b)
  | join front back => do
      let a ← front.merge
      match ← back.merge with
      | none => .ok none
      | some b => mergeNodes a b

end Grouping

/-- The node has what the journal gives, as far as the journal keeps it. -/
structure Reflects (node : Option Node) (journal : List (Entry Bytes Node Bytes)) : Prop where
  items : ∀ path, ItemsKept journal path →
    (contentAt node path).items = (given journal path).items
  value : ∀ path, ValueKept journal path →
    (contentAt node path).value = (given journal path).value
  nulls : ∀ path, nullAbove node path = true → ∃ e ∈ journal, clears path e = true

theorem reflects_single {b : Node} (h : Plain b) : Reflects (some b) b.journal := by
  have hreplay : ∀ path, contentAt (some b) path = replay b.journal nothing path := by
    intro path
    rw [h.replay_journal]
    split
    · next hnull => exact contentAt_of_nullAbove hnull
    · simp [nothing, Content.append]
  constructor
  · intro path hkept
    rw [hreplay]
    exact (replay_items_iff _ path).mpr hkept
  · intro path hkept
    rw [hreplay]
    exact (replay_value_iff _ path).mpr hkept
  · intro path hnull
    exact (h.nullAbove_iff path).mp hnull

section Join

variable {a : Option Node} {b : Node} {j k : List (Entry Bytes Node Bytes)} {path : List Bytes}

/-- What the merge of two nodes has at a path. -/
def joined (a : Option Node) (b : Node) (path : List Bytes) : Content Node Bytes :=
  if nullAbove (some b) path = true then {}
  else (contentAt a path).append (contentAt (some b) path)

theorem Reflects.items_joined (ha : Reflects a j) (hb : Reflects (some b) k)
    (hkept : ItemsKept (j ++ k) path) :
    (joined a b path).items = (given (j ++ k) path).items := by
  have hback := hb.items path hkept.back
  rw [joined, given_append]
  split
  · next hnull =>
    obtain ⟨e, he, hclears⟩ := hb.nulls path hnull
    rw [contentAt_of_nullAbove hnull] at hback
    rw [Content.append, hkept.eq_nil he hclears, ← hback]
    rfl
  · rw [Content.append, Content.append, ha.items path hkept.front, hback]

theorem Reflects.value_joined (ha : Reflects a j) (hb : Reflects (some b) k)
    (hkept : ValueKept (j ++ k) path) :
    (joined a b path).value = (given (j ++ k) path).value := by
  have hback := hb.value path hkept.back
  rw [joined, given_append]
  cases hvalue : (given k path).value with
  | some text =>
      -- The value is one of the back, so no null of the back is above it.
      rw [hvalue] at hback
      split
      · next hnull =>
        rw [contentAt_of_nullAbove hnull] at hback
        cases hback
      · rw [Content.append, Content.append, hback, hvalue, Option.some_or, Option.some_or]
  | none =>
      rw [hvalue] at hback
      by_cases hclear : ∃ e ∈ k, clears path e = true
      · -- The back has no value to come again, so the front has none to lose.
        obtain ⟨e, he, hclears⟩ := hclear
        have hfront := hkept.eq_none he hclears hvalue
        have hold := ha.value path (.of_eq_none hfront)
        have hgiven : ((given j path).append (given k path)).value = none := by
          rw [Content.append, hvalue, hfront, Option.none_or]
        rw [hgiven]
        split
        · rfl
        · rw [Content.append, hback, hold, hfront, Option.none_or]
      · have hnull : ¬ nullAbove (some b) path = true := fun h => hclear (hb.nulls path h)
        rw [if_neg hnull, Content.append, Content.append, hback, hvalue,
          ha.value path (hkept.front hvalue)]

theorem Reflects.join {kind : List Bytes → Kind} {c : Option Node} (ha : Reflects a j)
    (hb : Reflects (some b) k) (hplain : Plain b) (hc : Written kind a b.journal c) :
    Reflects c (j ++ k) := by
  have hcontent : ∀ path, contentAt c path = joined a b path := by
    intro path
    rw [hc.content, hplain.replay_journal, joined]
  constructor
  · intro path hkept
    rw [hcontent]
    exact ha.items_joined hb hkept
  · intro path hkept
    rw [hcontent]
    exact ha.value_joined hb hkept
  · intro path hnull
    rcases hc.nulls path hnull with hold | hnew
    · obtain ⟨e, he, hclears⟩ := ha.nulls path hold
      exact ⟨e, List.mem_append_left _ he, hclears⟩
    · obtain ⟨e, he, hclears⟩ := hb.nulls path ((hplain.nullAbove_iff path).mpr hnew)
      exact ⟨e, List.mem_append_right _ he, hclears⟩

end Join

/-- However sections are grouped, the result has what they give, as far as it is kept. -/
theorem Grouping.reflects {kind : List Bytes → Kind} (g : Grouping)
    (hkinds : ∀ b ∈ g.sections, HasKinds kind b) :
    ∃ c, g.merge = .ok (some c) ∧ Settled kind (some c) ∧
      Reflects (some c) (sectionsJournal g.sections) := by
  induction g with
  | single b hplain =>
      refine ⟨b, rfl, settled_some.mpr ⟨hkinds b (List.mem_singleton_self b), hplain⟩, ?_⟩
      have hjournal : sectionsJournal [b] = b.journal := by simp [sectionsJournal]
      rw [sections, hjournal]
      exact reflects_single hplain
  | join front back ihFront ihBack =>
      rw [sections] at hkinds
      obtain ⟨a, ha, hsettled, hfront⟩ := ihFront fun b hb =>
        hkinds b (List.mem_append_left _ hb)
      obtain ⟨b, hb, hb', hback⟩ := ihBack fun b hb => hkinds b (List.mem_append_right _ hb)
      obtain ⟨hbKinds, hplain⟩ := settled_some.mp hb'
      obtain ⟨c, hc, hwritten⟩ := mergeNodes_written b hsettled hbKinds
      obtain ⟨c, rfl⟩ := Option.isSome_iff_exists.mp (hwritten.isSome rfl)
      refine ⟨c, ?_, hwritten.settled, ?_⟩
      · rw [merge, ha, ok_bind, hb, ok_bind]
        exact hc
      · have hjournal : sectionsJournal (front.sections ++ back.sections) =
            sectionsJournal front.sections ++ sectionsJournal back.sections := by
          simp [sectionsJournal]
        rw [sections, hjournal]
        exact hfront.join hback hplain hwritten

/-- The sections merge without loss: at every path, `cfg` has all the elements that the sections
have there, in the order of the files, and the last scalar; and it has the same when the merges
are grouped in another way. -/
structure MergesWithoutLoss (sections : List Node) : Prop where
  complete : ∃ cfg, mergeSections sections = .ok cfg ∧
    contentAt cfg = given (sectionsJournal sections)
  associative : ∀ g : Grouping, g.sections = sections →
    ∃ c, g.merge = .ok c ∧ contentAt c = given (sectionsJournal sections)

/-- Sections merge without loss when no null comes after elements at its path or below it, nor
after a scalar that does not come again, and only then. -/
theorem mergesWithoutLoss_iff {sections : List Node} (hkinds : SameKinds sections) :
    MergesWithoutLoss sections ↔
      ∀ path, ItemsKept (sectionsJournal sections) path ∧
        ValueKept (sectionsJournal sections) path := by
  obtain ⟨kind, hkinds⟩ := hkinds
  obtain ⟨cfg, hcfg, hwritten⟩ := mergeSections_written hkinds
    (settled_some.mpr ⟨.null, .null⟩)
  have hcontent : contentAt cfg = replay (sectionsJournal sections) nothing := by
    rw [hwritten.content]
    congr 1
    funext path
    exact contentAt_null path
  constructor
  · intro h path
    obtain ⟨cfg', hcfg', hgiven⟩ := h.complete
    have hsame : cfg' = cfg := Except.ok.inj (hcfg'.symm.trans hcfg)
    apply (replay_eq_given_iff _ path).mp
    rw [← hcontent, ← hsame, hgiven]
  · intro h
    constructor
    · refine ⟨cfg, hcfg, ?_⟩
      funext path
      rw [hcontent]
      exact (replay_eq_given_iff _ path).mpr (h path)
    · rintro g rfl
      obtain ⟨c, hc, -, hreflects⟩ := g.reflects hkinds
      refine ⟨some c, hc, ?_⟩
      funext path
      exact Content.ext (hreflects.items path (h path).1) (hreflects.value path (h path).2)

/-- The section of a file for the white lister: a list of addresses, or a key without one. -/
def sampleSectionOf (addresses : Option (List String)) : Node :=
  .map [(.scalar (bytes "white_listed_ips"),
    match addresses with
    | some addresses => .sequence (addresses.map fun address => .scalar (bytes address))
    | none => .null)]

theorem sameKinds_sample (files : List (Option (List String))) :
    SameKinds (files.map sampleSectionOf) := by
  refine ⟨fun path => if path = [] then .map else .sequence, ?_⟩
  intro b hb
  obtain ⟨addresses, -, rfl⟩ := List.mem_map.mp hb
  refine .map rfl ?_
  intro entry hentry
  cases List.mem_singleton.mp hentry
  cases addresses with
  | none => exact .null
  | some addresses => exact .sequence rfl

/-- Three files, of which the first has a key without a list. -/
def sampleSections : List Node :=
  [none, some ["10.0.0.1"], some ["10.0.0.2"]].map sampleSectionOf

/-- The one null is the first entry, so that nothing stands in front of it. -/
theorem sampleSections_first {path : List Bytes} {pre post : List (Entry Bytes Node Bytes)}
    {entry : Entry Bytes Node Bytes} (h : sectionsJournal sampleSections = pre ++ entry :: post)
    (hclears : clears path entry = true) : pre = [] := by
  cases pre with
  | nil => rfl
  | cons first pre =>
      have htail : (sectionsJournal sampleSections).tail = pre ++ entry :: post := by
        rw [h]
        rfl
      have hmem : entry ∈ (sectionsJournal sampleSections).tail := by
        rw [htail]
        exact List.mem_append_right _ List.mem_cons_self
      rcases List.mem_cons.mp hmem with rfl | hmem
      · cases hclears
      · cases List.mem_singleton.mp hmem
        cases hclears

/-- The lists of the other files are all there. -/
theorem mergesWithoutLoss_sample :
    ∃ cfg, mergeSections sampleSections = .ok cfg ∧
      (contentAt cfg [bytes "white_listed_ips"]).items.map Node.scalarText =
        [bytes "10.0.0.1", bytes "10.0.0.2"] := by
  have hkept : ∀ path, ItemsKept (sectionsJournal sampleSections) path ∧
      ValueKept (sectionsJournal sampleSections) path := by
    intro path
    constructor
    · intro pre entry post hsplit hclears
      cases sampleSections_first hsplit hclears
      rfl
    · intro pre entry post hsplit hclears hsome
      cases sampleSections_first hsplit hclears
      cases hsome
  obtain ⟨cfg, hcfg, hcontent⟩ :=
    ((mergesWithoutLoss_iff (sameKinds_sample _)).mpr hkept).complete
  refine ⟨cfg, hcfg, ?_⟩
  rw [hcontent]
  decide

/-- A later file that has the key without a list takes the list of an earlier file away. -/
theorem merge_loses_white_list :
    SameKinds ([some ["10.0.0.1"], none].map sampleSectionOf) ∧
    (∃ cfg, mergeSections ([some ["10.0.0.1"], none].map sampleSectionOf) = .ok cfg ∧
      (contentAt cfg [bytes "white_listed_ips"]).items = []) ∧
    ¬ MergesWithoutLoss ([some ["10.0.0.1"], none].map sampleSectionOf) := by
  have hmerge : mergeSections ([some ["10.0.0.1"], none].map sampleSectionOf) =
      .ok (some (sampleSectionOf none)) := rfl
  refine ⟨sameKinds_sample _, ⟨_, hmerge, by decide⟩, ?_⟩
  intro h
  obtain ⟨cfg, hcfg, hcontent⟩ := h.complete
  cases hmerge.symm.trans hcfg
  have hitems := congrArg Content.items (congrFun hcontent [bytes "white_listed_ips"])
  exact absurd (congrArg List.length hitems) (by decide)

end Banjax
