import Banjax.Challenger.Dynamic

/-!
# Which challenges are accepted

`parse_single_challenge` with the table it looks the type of a challenge up in.  The table is
filled from `CHALLENGE_LIST` when the challenger is built, and it is looked up with
`operator[]`, which makes an entry for a name that it does not find.

So a challenge of an unknown type is not refused.  It becomes a proof of work, and the name stays
in the table.  Everything else about a challenge is as documented, whatever has been read before
(`acceptsExactly_iff`): the type of a known name, and the words of `magic_word`.
-/

namespace Banjax

open Lib

namespace ChallengeReader

variable (R : ChallengeReader)

/-! ## The table of types -/

/-- `CHALLENGE_LIST`, with the type that each name stands for. -/
def challengeList : List (Bytes × ChallengeType) :=
  [(bytes "sha_inverse", .shaInverse), (bytes "captcha", .captcha), (bytes "auth", .auth)]

/-- `challenge_type`, as the constructor fills it. -/
def initialTypes : Table ChallengeType :=
  challengeList.foldl (fun types entry => types.insert entry.1 entry.2) ∅

/-- `challenge_type[name]`.  A new entry has the first type. -/
def subscript (types : Table ChallengeType) (name : Bytes) : ChallengeType × Table ChallengeType :=
  match types.lookup name with
  | some type => (type, types)
  | none => (.shaInverse, types.insert name .shaInverse)

/-- The fields up to the type. -/
def readType (ch : Option Node) : Except ChallengeError (Bytes × Bytes) := do
  let name ← text (bytes "name") (← lookup ch (bytes "name"))
  let requestedChallengeType ← text (bytes "challenge_type") (← lookup ch (bytes "challenge_type"))
  return (name, requestedChallengeType)

/-- The fields behind the type. -/
def parseRest (name : Bytes) (challengeType : ChallengeType) (ch : Option Node) :
    Except ChallengeError HostChallengeSpec := do
  let validityPeriod ← R.unsigned (bytes "validity_period") (← lookup ch (bytes "validity_period"))
  let threshold ← optional ch (bytes "no_of_fails_to_ban") 0
    (R.unsigned (bytes "no_of_fails_to_ban"))
  let challengeFile ← optional ch (bytes "challenge") [] (text (bytes "challenge"))
  let passwordHash ← optional ch (bytes "password_hash") [] (text (bytes "password_hash"))
  let words ← optional ch (bytes "magic_word") [] magicWords
  let exceptions ← optional ch (bytes "magic_word_exceptions") []
    (texts (bytes "magic_word_exceptions"))
  let whiteList ← optional ch (bytes "white_listed_ips") [] whiteListedIps
  return {
    name := name
    challengeType := challengeType
    challengeStream := R.challengeStream challengeType challengeFile
    failToleranceThreshold := threshold
    challengeValidityPeriod := validityPeriod.toUInt64
    passwordHash := passwordHash
    magicWords := words
    magicWordExceptions := exceptions
    whiteListedIps := whiteList }

/-- `parse_single_challenge`, with the table of types before and after.  An exception leaves the
table as it is then. -/
def parseIn (types : Table ChallengeType) (ch : Option Node) :
    Except ChallengeError HostChallengeSpec × Table ChallengeType :=
  match readType ch with
  | .error e => (.error e, types)
  | .ok (name, requestedChallengeType) =>
      let (challengeType, types) := subscript types requestedChallengeType
      (R.parseRest name challengeType ch, types)

/-- The table after some challenges have been read. -/
def typesAfter (before : List (Option Node)) : Table ChallengeType :=
  before.foldl (fun types ch => (R.parseIn types ch).2) initialTypes

theorem parseSingleChallenge_eq (ch : Option Node) :
    R.parseSingleChallenge ch =
      (readType ch >>= fun fields => R.parseRest fields.1 (challengeTypeOf fields.2) ch) := by
  simp only [parseSingleChallenge, readType, parseRest, bind_assoc, pure_bind]

/-! ## What the table holds -/

/-- The names of the list have their types, and any other name has the first one. -/
structure Sound (types : Table ChallengeType) : Prop where
  listed : ∀ entry ∈ challengeList, types.lookup entry.1 = some entry.2
  others : ∀ name type, types.lookup name = some type → type = challengeTypeOf name

/-- The lookup of a name that may just have been added. -/
theorem lookup_insert_eq_some {types : Table ChallengeType} {name added : Bytes}
    {type type' : ChallengeType} (h : (types.insert added type).lookup name = some type') :
    name = added ∧ type' = type ∨ types.lookup name = some type' := by
  by_cases hname : name = added
  · subst hname
    rw [AList.lookup_insert] at h
    exact .inl ⟨rfl, (Option.some.inj h).symm⟩
  · rw [AList.lookup_insert_ne hname] at h
    exact .inr h

theorem sound_initialTypes : Sound initialTypes where
  listed := by decide
  others := by
    intro name type h
    -- One insertion after the other, the last one first.
    rcases lookup_insert_eq_some h with ⟨rfl, rfl⟩ | h
    · rfl
    rcases lookup_insert_eq_some h with ⟨rfl, rfl⟩ | h
    · rfl
    rcases lookup_insert_eq_some h with ⟨rfl, rfl⟩ | h
    · rfl
    rw [AList.lookup_empty] at h
    cases h

theorem challengeTypeOf_of_mem {entry : Bytes × ChallengeType} (h : entry ∈ challengeList) :
    challengeTypeOf entry.1 = entry.2 := by
  revert entry
  decide

/-- A name that is not in the list is one of the first type. -/
theorem challengeTypeOf_of_notMem {name : Bytes} (h : name ∉ challengeList.map Prod.fst) :
    challengeTypeOf name = .shaInverse := by
  have hcaptcha : name ≠ bytes "captcha" := fun he => h (by rw [he]; decide)
  have hauth : name ≠ bytes "auth" := fun he => h (by rw [he]; decide)
  rw [challengeTypeOf, if_neg hcaptcha, if_neg hauth]

theorem Sound.mem_list {types : Table ChallengeType} (h : Sound types) {name : Bytes}
    (hname : name ∈ challengeList.map Prod.fst) : types.lookup name ≠ none := by
  obtain ⟨entry, hentry, rfl⟩ := List.mem_map.mp hname
  rw [h.listed entry hentry]
  exact Option.some_ne_none _

/-- Looking a name up in a sound table gives what `challengeTypeOf` says, and keeps the table
sound. -/
theorem Sound.subscript {types : Table ChallengeType} (h : Sound types) (name : Bytes) :
    (subscript types name).1 = challengeTypeOf name ∧ Sound (subscript types name).2 := by
  rw [ChallengeReader.subscript]
  cases hlookup : types.lookup name with
  | some type => exact ⟨h.others name type hlookup, h⟩
  | none =>
      have hnew : name ∉ challengeList.map Prod.fst := fun hname => h.mem_list hname hlookup
      have htype := challengeTypeOf_of_notMem hnew
      refine ⟨htype.symm, ?_, ?_⟩
      · intro entry hentry
        have hne : entry.1 ≠ name := fun he => hnew (he ▸ List.mem_map_of_mem hentry)
        rw [AList.lookup_insert_ne hne]
        exact h.listed entry hentry
      · intro name' type' h'
        rcases lookup_insert_eq_some h' with ⟨rfl, rfl⟩ | h'
        · exact htype.symm
        · exact h.others name' type' h'

/-- The table changes when the name is new. -/
theorem subscript_snd_eq_iff (types : Table ChallengeType) (name : Bytes) :
    (subscript types name).2 = types ↔ types.lookup name ≠ none := by
  rw [ChallengeReader.subscript]
  cases hlookup : types.lookup name with
  | some type => simp
  | none =>
      constructor
      · intro h
        have hsame : types.insert name ChallengeType.shaInverse = types := h
        have hfound := AList.lookup_insert types (a := name) (b := ChallengeType.shaInverse)
        rw [hsame, hlookup] at hfound
        cases hfound
      · intro h
        exact absurd rfl h

section Run

variable {R} {types : Table ChallengeType}

/-- A sound table is as good as the list. -/
theorem parseIn_fst (h : Sound types) (ch : Option Node) :
    (R.parseIn types ch).1 = R.parseSingleChallenge ch := by
  rw [parseIn, parseSingleChallenge_eq]
  cases readType ch with
  | error e => rfl
  | ok fields =>
      obtain ⟨name, requested⟩ := fields
      dsimp only
      rw [(h.subscript requested).1]
      rfl

theorem parseIn_sound (h : Sound types) (ch : Option Node) : Sound (R.parseIn types ch).2 := by
  rw [parseIn]
  cases readType ch with
  | error e => exact h
  | ok fields => exact (h.subscript fields.2).2

theorem sound_typesAfter (before : List (Option Node)) : Sound (R.typesAfter before) := by
  have hrun : ∀ types, Sound types →
      Sound (before.foldl (fun types ch => (R.parseIn types ch).2) types) := by
    induction before with
    | nil => exact fun types h => h
    | cons ch before ih => exact fun types h => ih _ (parseIn_sound h ch)
  exact hrun _ sound_initialTypes

end Run

/-! ## What `magic_word` denotes -/

/-- An entry of the list: a word, or a type and a word.  What stands behind them is not read. -/
def EntryDenotes (entry : Node) (w : MagicWord) : Prop :=
  (∃ s, entry = .scalar s ∧ w = .substr s) ∨
    ∃ word rest,
      entry = .sequence (.scalar (bytes "regexp") :: .scalar word :: rest) ∧ w = .regexp word ∨
      entry = .sequence (.scalar (bytes "substr") :: .scalar word :: rest) ∧ w = .substr word

/-- A word, or a list of entries. -/
def Denotes (node : Node) (w : MagicWord) : Prop :=
  (∃ s, node = .scalar s ∧ w = .substr s) ∨
    ∃ entries, node = .sequence entries ∧ ∃ entry ∈ entries, EntryDenotes entry w

theorem magicWord_pair_eq_ok {a b : Node} {rest : List Node} {w : MagicWord} :
    magicWord (.sequence (a :: b :: rest)) = .ok w ↔
      EntryDenotes (.sequence (a :: b :: rest)) w := by
  constructor
  · intro h
    rw [magicWord] at h
    obtain ⟨type, htype, h⟩ := bind_eq_ok.mp h
    obtain ⟨word, hword, h⟩ := bind_eq_ok.mp h
    cases text_eq_ok.mp htype
    cases text_eq_ok.mp hword
    split at h
    · next hregexp =>
      cases h
      exact .inr ⟨word, rest, .inl ⟨by rw [hregexp], rfl⟩⟩
    · split at h
      · next hsubstr =>
        cases h
        exact .inr ⟨word, rest, .inr ⟨by rw [hsubstr], rfl⟩⟩
      · cases h
  · rintro (⟨s, hs, -⟩ | ⟨word, rest', ⟨hentry, rfl⟩ | ⟨hentry, rfl⟩⟩)
    · cases hs
    · cases hentry
      rfl
    · cases hentry
      rfl

theorem magicWord_eq_ok {entry : Node} {w : MagicWord} :
    magicWord entry = .ok w ↔ EntryDenotes entry w := by
  cases entry with
  | null => simp [magicWord, text, Node.asString, EntryDenotes]
  | scalar s => simp [magicWord, text, Node.asString, EntryDenotes, pure, Except.pure, eq_comm]
  | map entries => simp [magicWord, text, Node.asString, EntryDenotes]
  | sequence elements =>
      cases elements with
      | nil => simp [magicWord, text, EntryDenotes]
      | cons a more =>
          cases more with
          | nil => cases a <;> simp [magicWord, text, Node.asString, EntryDenotes]
          | cons b rest => exact magicWord_pair_eq_ok

/-- The words that are inserted one after the other. -/
theorem mem_foldlM_insertNew {entries : List Node} {set out : List MagicWord}
    (h : entries.foldlM (fun storage entry => do return insertNew storage (← magicWord entry)) set =
      .ok out) (w : MagicWord) :
    w ∈ out ↔ w ∈ set ∨ ∃ entry ∈ entries, EntryDenotes entry w := by
  induction entries generalizing set with
  | nil =>
      cases h
      simp
  | cons entry entries ih =>
      rw [List.foldlM_cons] at h
      obtain ⟨next, hnext, h⟩ := bind_eq_ok.mp h
      obtain ⟨word, hword, hnext⟩ := bind_eq_ok.mp hnext
      cases hnext
      have hinsert : w ∈ insertNew set word ↔ w ∈ set ∨ w = word := by
        rw [insertNew]
        split
        · next hmem =>
          constructor
          · exact .inl
          · rintro (h | rfl)
            · exact h
            · exact hmem
        · simp
      have hentry : w = word ↔ EntryDenotes entry w := by
        rw [← magicWord_eq_ok, hword]
        exact ⟨fun h => by rw [h], fun h => (Except.ok.inj h).symm⟩
      rw [ih h, hinsert, hentry, or_assoc]
      simp

/-- The words read are the words denoted. -/
theorem mem_magicWords {node : Node} {words : List MagicWord}
    (h : magicWords (some node) = .ok words) (w : MagicWord) : w ∈ words ↔ Denotes node w := by
  cases node with
  | sequence entries =>
      rw [magicWords] at h
      rw [mem_foldlM_insertNew h]
      simp [Denotes]
  | scalar s =>
      cases h
      simp [Denotes]
  | null => cases h
  | map entries => cases h

/-! ## Which challenges are accepted -/

theorem text_eq_ok_iff {name : Bytes} {node : Option Node} {s : Bytes} :
    text name node = .ok s ↔ node = some (.scalar s) := by
  cases node with
  | none => simp [text]
  | some node => rw [text_eq_ok, Option.some_inj]

/-- The name and the type are read when both of them are texts. -/
theorem readType_eq_ok {ch : Option Node} {name requested : Bytes} :
    readType ch = .ok (name, requested) ↔
      field ch "name" = some (.scalar name) ∧
        field ch "challenge_type" = some (.scalar requested) := by
  by_cases hscalar : ∃ s, ch = some (.scalar s)
  · obtain ⟨s, rfl⟩ := hscalar
    constructor
    · intro h
      cases h
    · rintro ⟨h, -⟩
      cases h
  have h : ∀ s, ch ≠ some (.scalar s) := fun s hs => hscalar ⟨s, hs⟩
  simp only [readType, lookup_eq h, ok_bind]
  constructor
  · intro hrun
    obtain ⟨n, hname, hrun⟩ := bind_eq_ok.mp hrun
    obtain ⟨t, htype, hrun⟩ := bind_eq_ok.mp hrun
    cases hrun
    exact ⟨text_eq_ok_iff.mp hname, text_eq_ok_iff.mp htype⟩
  · rintro ⟨hname, htype⟩
    rw [text_eq_ok_iff.mpr hname, text_eq_ok_iff.mpr htype]
    rfl

/-- The type and the words of a challenge that has been read. -/
theorem parseSingleChallenge_fields {R : ChallengeReader} {ch : Option Node}
    {spec : HostChallengeSpec} (h : R.parseSingleChallenge ch = .ok spec) :
    (∃ s, field ch "challenge_type" = some (.scalar s) ∧ spec.challengeType = challengeTypeOf s) ∧
    ∀ w, w ∈ spec.magicWords ↔ ∃ node, field ch "magic_word" = some node ∧ Denotes node w := by
  rw [parseSingleChallenge_eq] at h
  obtain ⟨⟨name, requested⟩, hfields, h⟩ := bind_eq_ok.mp h
  obtain ⟨-, htype⟩ := readType_eq_ok.mp hfields
  rw [parseRest] at h
  obtain ⟨_, -, h⟩ := bind_eq_ok.mp h
  obtain ⟨_, -, h⟩ := bind_eq_ok.mp h
  obtain ⟨_, -, h⟩ := bind_eq_ok.mp h
  obtain ⟨_, -, h⟩ := bind_eq_ok.mp h
  obtain ⟨_, -, h⟩ := bind_eq_ok.mp h
  obtain ⟨words, hwords, h⟩ := bind_eq_ok.mp h
  obtain ⟨_, -, h⟩ := bind_eq_ok.mp h
  obtain ⟨_, -, h⟩ := bind_eq_ok.mp h
  cases h
  refine ⟨⟨requested, htype, rfl⟩, ?_⟩
  intro w
  obtain ⟨node, hlookup, hwords⟩ := bind_eq_ok.mp hwords
  rw [lookup_eq_ok hlookup]
  cases node with
  | none =>
      cases hwords
      simp
  | some node =>
      have hmem := mem_magicWords hwords w
      simp [hmem]

/-- The documented behaviour on one challenge, read with the given table. -/
structure AcceptsExactly (types : Table ChallengeType) (ch : Option Node) : Prop where
  /-- Only a name of the list is accepted, and it has its type. -/
  type : ∀ spec, (R.parseIn types ch).1 = .ok spec → ∃ entry ∈ challengeList,
    field ch "challenge_type" = some (.scalar entry.1) ∧ spec.challengeType = entry.2
  /-- The words are those that are denoted. -/
  words : ∀ spec, (R.parseIn types ch).1 = .ok spec →
    ∀ w, w ∈ spec.magicWords ↔ ∃ node, field ch "magic_word" = some node ∧ Denotes node w
  /-- An entry that denotes nothing is an error. -/
  rejects : ∀ entries, field ch "magic_word" = some (.sequence entries) →
    (∃ entry ∈ entries, ∀ w, ¬ EntryDenotes entry w) → ∃ e, (R.parseIn types ch).1 = .error e
  /-- The table stays as it is. -/
  table : (R.parseIn types ch).2 = types

theorem parseIn_snd_eq_iff {R : ChallengeReader} {types : Table ChallengeType}
    {ch : Option Node} :
    (R.parseIn types ch).2 = types ↔
      ∀ name requested, field ch "name" = some (.scalar name) →
        field ch "challenge_type" = some (.scalar requested) → types.lookup requested ≠ none := by
  rw [parseIn]
  cases hread : readType ch with
  | error e =>
      refine ⟨fun _ name requested hname htype => ?_, fun _ => rfl⟩
      rw [readType_eq_ok.mpr ⟨hname, htype⟩] at hread
      cases hread
  | ok fields =>
      obtain ⟨name, requested⟩ := fields
      obtain ⟨hname, htype⟩ := readType_eq_ok.mp hread
      refine (subscript_snd_eq_iff types requested).trans
        ⟨?_, fun h => h name requested hname htype⟩
      intro h name' requested' _ htype'
      rw [htype] at htype'
      cases htype'
      exact h

/-- A challenge is dealt with as documented unless its type is a text that is not in the list,
and that is new in the table or stands in a challenge that can be read otherwise. -/
theorem acceptsExactly_iff (before : List (Option Node)) (ch : Option Node) :
    R.AcceptsExactly (R.typesAfter before) ch ↔
      ¬ ∃ name requested, field ch "name" = some (.scalar name) ∧
        field ch "challenge_type" = some (.scalar requested) ∧
        requested ∉ challengeList.map Prod.fst ∧
        ((R.typesAfter before).lookup requested = none ∨ R.WellFormed ch) := by
  have hsound := sound_typesAfter (R := R) before
  have hparse := parseIn_fst (R := R) hsound ch
  generalize R.typesAfter before = types at hsound hparse
  constructor
  · rintro ⟨htypes, -, -, htable⟩ ⟨name, requested, hname, hrequested, hunknown, hnew | hwell⟩
    · exact parseIn_snd_eq_iff.mp htable name requested hname hrequested hnew
    · obtain ⟨spec, hspec⟩ := (parseSingleChallenge_ok_iff ch).mpr hwell
      obtain ⟨entry, hentry, hlisted, -⟩ := htypes spec (hparse.trans hspec)
      rw [hrequested] at hlisted
      cases hlisted
      exact hunknown (List.mem_map_of_mem hentry)
  · intro h
    refine ⟨?_, ?_, ?_, ?_⟩
    · intro spec hspec
      rw [hparse] at hspec
      obtain ⟨⟨s, hs, htype⟩, -⟩ := parseSingleChallenge_fields hspec
      have hwell := (parseSingleChallenge_ok_iff ch).mp ⟨spec, hspec⟩
      obtain ⟨node, hname, name, rfl⟩ := hwell.name
      have hlisted : s ∈ challengeList.map Prod.fst := by
        by_contra hunknown
        exact h ⟨name, s, hname, hs, hunknown, .inr hwell⟩
      obtain ⟨entry, hentry, rfl⟩ := List.mem_map.mp hlisted
      exact ⟨entry, hentry, hs, htype.trans (challengeTypeOf_of_mem hentry)⟩
    · intro spec hspec
      rw [hparse] at hspec
      exact (parseSingleChallenge_fields hspec).2
    · rintro entries hentries ⟨entry, hmem, hnone⟩
      rw [hparse]
      cases hspec : R.parseSingleChallenge ch with
      | error e => exact ⟨e, rfl⟩
      | ok spec =>
          have hwell := (parseSingleChallenge_ok_iff ch).mp ⟨spec, hspec⟩
          rcases hwell.magicWord _ hentries with ⟨s, hs⟩ | ⟨entries', he, hwords⟩
          · cases hs
          · cases he
            obtain ⟨w, hw⟩ := (succeeds_magicWord entry).mpr (hwords entry hmem)
            exact absurd (magicWord_eq_ok.mp hw) (hnone w)
    · rw [parseIn_snd_eq_iff]
      intro name requested hname hrequested hnew
      refine h ⟨name, requested, hname, hrequested, ?_, .inl hnew⟩
      exact fun hlisted => hsound.mem_list hlisted hnew

/-- A challenge with a misspelled type. -/
def misspelled : Node := sampleMap [
  ("name", sampleScalar "login"),
  ("challenge_type", sampleScalar "Captcha"),
  ("validity_period", sampleScalar "60")]

/-- It is accepted as a proof of work, and its type is in the table from then on. -/
theorem not_acceptsExactly_misspelled :
    ¬ sampleReader.AcceptsExactly (sampleReader.typesAfter []) (some misspelled) ∧
    (sampleReader.parseIn initialTypes (some misspelled)).1.toOption.map
      HostChallengeSpec.challengeType = some .shaInverse ∧
    initialTypes.lookup (bytes "Captcha") = none ∧
    (sampleReader.parseIn initialTypes (some misspelled)).2.lookup (bytes "Captcha") =
      some .shaInverse := by
  refine ⟨?_, by decide +kernel, by decide +kernel, by decide +kernel⟩
  intro h
  have hnew := parseIn_snd_eq_iff.mp h.table (bytes "login") (bytes "Captcha") rfl rfl
  exact hnew (by decide +kernel)

end ChallengeReader

end Banjax
