import Banjax.Challenger.Defs
import Banjax.Lib.Search

/-!
# Magic words and query strings

`needs_authentication` looks for the magic words in the whole URL and for the exceptions in front
of its query, with two different searches.

A text of a word occurs where `find` finds it.  `std::search` has another way to say that it found
nothing, the end of the range, which is also where it finds an empty pattern in an empty range;
for other patterns both searches agree (`searchFinds_iff`).  So a query can add a magic word and
cannot add an exception (`needsAuthentication_query`).
-/

namespace Banjax

open Lib

namespace Challenger

variable (M : Challenger)

/-- `?`. -/
def questionMark : UInt8 := 63

/-- The part of a URL in front of its query. -/
def pathOf (url : Bytes) : Bytes := url.takeWhile (· ≠ questionMark)

theorem pathOf_eq_self {url : Bytes} (h : questionMark ∉ url) : pathOf url = url := by
  rw [pathOf, List.takeWhile_eq_self_iff]
  intro c hc
  exact decide_eq_true fun he => h (he ▸ hc)

/-- The range in which the exceptions are looked for. -/
theorem take_queryStart (url : Bytes) :
    (match find? (bytes "?") url with
      | some queryStart => url.take queryStart
      | none => url) = pathOf url := by
  have hmark : bytes "?" = [questionMark] := by decide
  rw [hmark]
  by_cases h : questionMark ∈ url
  · obtain ⟨path, query, rfl, hpath⟩ := List.eq_append_cons_of_mem h
    rw [find?_byte hpath, pathOf, takeWhile_eq_of_notMem hpath]
    exact List.take_left
  · rw [find?_byte_eq_none h, pathOf_eq_self h]

theorem needsAuthentication_eq (url : Bytes) (challenge : HostChallengeSpec) :
    M.needsAuthentication url challenge =
      (challenge.magicWords.any (fun word => M.magicWordIsMatch word url) &&
        !challenge.magicWordExceptions.any (searchFinds (pathOf url))) := by
  rw [needsAuthentication, ← take_queryStart]
  cases challenge.magicWords.any fun word => M.magicWordIsMatch word url with
  | false => rfl
  | true => cases find? (bytes "?") url <;> rfl

/-- `std::search` finds a text where it occurs, unless the text is empty. -/
theorem searchFinds_iff {text pattern : Bytes} (h : pattern ≠ []) :
    searchFinds text pattern = true ↔ pattern <:+: text := by
  rw [← find?_isSome, searchFinds]
  cases hfind : find? pattern text with
  | none => simp
  | some n =>
      have hle := length_le_of_find? hfind
      have hpos := List.length_pos_of_ne_nil h
      have hn : n ≠ text.length := by omega
      simp [hn]

/-- All the magic words are plain texts. -/
def AllSubstr (challenge : HostChallengeSpec) : Prop :=
  ∀ word ∈ challenge.magicWords, ∃ text, word = .substr text

variable {M} {challenge : HostChallengeSpec}

/-- Some magic word is a part of the URL. -/
theorem any_isMatch_iff (h : AllSubstr challenge) (url : Bytes) :
    (challenge.magicWords.any fun word => M.magicWordIsMatch word url) = true ↔
      ∃ text, .substr text ∈ challenge.magicWords ∧ text <:+: url := by
  rw [List.any_eq_true]
  constructor
  · rintro ⟨word, hword, hmatch⟩
    obtain ⟨text, rfl⟩ := h word hword
    exact ⟨text, hword, find?_isSome.mp hmatch⟩
  · rintro ⟨text, hword, hfound⟩
    exact ⟨_, hword, find?_isSome.mpr hfound⟩

/-- A query does not move the end of the path. -/
theorem pathOf_query {url : Bytes} (h : questionMark ∉ url) (query : Bytes) :
    pathOf (url ++ bytes "?" ++ query) = pathOf url := by
  have hmark : bytes "?" = [questionMark] := by decide
  rw [pathOf_eq_self h, hmark, List.append_assoc]
  exact takeWhile_eq_of_notMem h query

/-- A URL that is protected stays protected with any query, and it is protected when a magic word
occurs in it and no exception occurs in front of the query. -/
theorem needsAuthentication_query (M : Challenger) (h : AllSubstr challenge) :
    (∀ url query, questionMark ∉ url → M.needsAuthentication url challenge = true →
      M.needsAuthentication (url ++ bytes "?" ++ query) challenge = true) ∧
    ((∀ pattern ∈ challenge.magicWordExceptions, pattern ≠ []) → ∀ url,
      (M.needsAuthentication url challenge = true ↔
        (∃ text, .substr text ∈ challenge.magicWords ∧ text <:+: url) ∧
        ∀ pattern ∈ challenge.magicWordExceptions, ¬ pattern <:+: pathOf url)) := by
  constructor
  · intro url query hurl hneeds
    rw [needsAuthentication_eq, Bool.and_eq_true, any_isMatch_iff h] at hneeds ⊢
    obtain ⟨⟨text, hword, hfound⟩, hexceptions⟩ := hneeds
    rw [pathOf_query hurl]
    refine ⟨⟨text, hword, ?_⟩, hexceptions⟩
    rw [List.append_assoc]
    exact hfound.trans (List.prefix_append _ _).isInfix
  · intro hne url
    rw [needsAuthentication_eq, Bool.and_eq_true, any_isMatch_iff h, Bool.not_eq_true',
      List.any_eq_false]
    apply and_congr_right
    intro _
    refine forall₂_congr ?_
    intro pattern hpattern
    rw [searchFinds_iff (hne pattern hpattern)]

/-- Pages that are protected, apart from those with an exception. -/
def sampleExceptions : HostChallengeSpec :=
  { sampleAuth (bytes "protected") 2 with magicWordExceptions := [bytes "exception"] }

/-- The exception counts in the path, and not in the query. -/
theorem needsAuthentication_query_sample :
    (sampleChallenger []).needsAuthentication (bytes "protected/exception") sampleExceptions =
      false ∧
    (sampleChallenger []).needsAuthentication (bytes "protected?foo=exception")
      sampleExceptions = true := by
  have hsubstr : AllSubstr sampleExceptions := by
    intro word hword
    exact ⟨_, List.mem_singleton.mp hword⟩
  have hne : ∀ pattern ∈ sampleExceptions.magicWordExceptions, pattern ≠ [] := by
    decide +kernel
  obtain ⟨hquery, hexact⟩ := needsAuthentication_query (sampleChallenger []) hsubstr
  refine ⟨Bool.eq_false_iff.mpr fun h => ?_, ?_⟩
  · exact ((hexact hne _).mp h).2 _ (List.mem_singleton_self _) (by decide +kernel)
  · exact hquery (bytes "protected") (bytes "foo=exception") (by decide +kernel) (by decide +kernel)

end Challenger

end Banjax
