import Banjax.Token.Print
import Banjax.Token.View

/-!
# A jar with foreign cookies

The jar of a browser holds the cookies of the whole site.  Its text is cut at the `;`s, and
whatever stands between two of them is up to somebody else.

`Cookie::consume` takes a segment to its `;` in all cases but one.  A name token that is
followed by anything but an `=` is an error, and the answer to an error is the one at the end
of the jar.  The loop of `check_cookie` then stops, and the challenge cookie behind such a
segment is not seen (`deflectCookie_segments_iff`).  An empty segment, which has no name
either, is passed over.
-/

namespace Banjax

open Lib

/-- The text of a jar: its segments joined with `;`. -/
def joinSegments (segments : List Bytes) : Bytes := List.intercalate [59] segments

/-- A segment that a cookie header can hold: no `;`, and no byte that ends a line or a
string. -/
def IsSegment (seg : Bytes) : Prop := ∀ c ∈ seg, c ≠ 59 ∧ c ≠ 0 ∧ c ≠ 13 ∧ c ≠ 10

instance (seg : Bytes) : Decidable (IsSegment seg) := inferInstanceAs (Decidable (∀ c ∈ seg, _))

/-- The name token of a segment. -/
def nameToken (seg : Bytes) : Bytes := (seg.dropWhile isSpace).takeWhile Cookie.isNameByte

/-- What follows the name token of a segment and the blanks after it. -/
def afterName (seg : Bytes) : Bytes :=
  ((seg.dropWhile isSpace).dropWhile Cookie.isNameByte).dropWhile isSpace

theorem afterName_suffix (seg : Bytes) : afterName seg <:+ seg :=
  (List.dropWhile_suffix _).trans ((List.dropWhile_suffix _).trans (List.dropWhile_suffix _))

/-- The name token is followed by something that is no `=`. -/
def Malformed (seg : Bytes) : Prop := ∃ c ∈ (afterName seg).head?, c ≠ 61

instance (seg : Bytes) : Decidable (Malformed seg) :=
  decidable_of_iff ((afterName seg).head?.all (· = 61) = false) (by
    rw [Malformed]
    cases (afterName seg).head? <;> simp)

/-! ## A segment and the `;` after it -/

theorem dropWhile_append_stop {p : UInt8 → Bool} {c : UInt8} (h : p c = false) (s rest : Bytes) :
    (s ++ c :: rest).dropWhile p = s.dropWhile p ++ c :: rest := by
  induction s with
  | nil => rw [List.nil_append, List.dropWhile_cons_of_neg (by simp [h])]; rfl
  | cons d s ih =>
      rw [List.cons_append]
      cases hd : p d with
      | true => rw [List.dropWhile_cons_of_pos hd, List.dropWhile_cons_of_pos hd, ih]
      | false =>
          rw [List.dropWhile_cons_of_neg (by simp [hd]), List.dropWhile_cons_of_neg (by simp [hd])]
          rfl

theorem takeWhile_append_stop {p : UInt8 → Bool} {c : UInt8} (h : p c = false) (s rest : Bytes) :
    (s ++ c :: rest).takeWhile p = s.takeWhile p := by
  induction s with
  | nil => rw [List.nil_append, List.takeWhile_cons_of_neg (by simp [h])]; rfl
  | cons d s ih =>
      rw [List.cons_append]
      cases hd : p d with
      | true => rw [List.takeWhile_cons_of_pos hd, List.takeWhile_cons_of_pos hd, ih]
      | false =>
          rw [List.takeWhile_cons_of_neg (by simp [hd]), List.takeWhile_cons_of_neg (by simp [hd])]

namespace Cookie

/-- The value of a segment ends at its `;`. -/
theorem consumeValue_foreign (name : Bytes) {s : Bytes} (h : IsSegment s) (rest : Bytes) :
    ∃ value, consumeValue name (s ++ 59 :: rest) = (some ⟨name, value⟩, rest) := by
  have htrim : (s ++ 59 :: rest).dropWhile isSpace = s.dropWhile isSpace ++ 59 :: rest :=
    dropWhile_append_stop rfl s rest
  have hsub : IsSegment (s.dropWhile isSpace) := fun c hc =>
    h c ((List.dropWhile_suffix _).mem hc)
  rw [consumeValue, htrim]
  generalize s.dropWhile isSpace = u at hsub
  have htoken : valueToken (u ++ 59 :: rest) = u := by
    induction u with
    | nil => rfl
    | cons c u ih =>
        have hc := hsub c (List.mem_cons_self ..)
        rw [List.cons_append, valueToken, if_neg (by simp [hc.1, hc.2.1, hc.2.2.1]),
          ih (fun d hd => hsub d (List.mem_cons_of_mem _ hd))]
  refine ⟨u.rdropWhile isSpace, ?_⟩
  rw [htoken, List.drop_left]
  rfl

/-- The part of the view after the name token, for a segment that is not blank. -/
theorem consume_segment {seg : Bytes} (h : IsSegment seg) (hne : seg.dropWhile isSpace ≠ [])
    (rest : Bytes) :
    consume (seg ++ 59 :: rest) = consumeRest (nameToken seg) (afterName seg ++ 59 :: rest) := by
  have htrim : (seg ++ 59 :: rest).dropWhile isSpace = seg.dropWhile isSpace ++ 59 :: rest :=
    dropWhile_append_stop rfl seg rest
  have hsub : IsSegment (seg.dropWhile isSpace) := fun c hc =>
    h c ((List.dropWhile_suffix _).mem hc)
  have hhead := List.head?_dropWhile_not isSpace seg
  rw [consume_eq, htrim, nameToken, afterName]
  generalize seg.dropWhile isSpace = s at hne hsub hhead
  -- A first byte that belongs to no name is an `=`.
  have hfirst : s.takeWhile isNameByte = [] → (s ++ 59 :: rest).head? = some 61 := by
    intro hempty
    cases s with
    | nil => exact absurd rfl hne
    | cons c s =>
        have hbyte : ¬ isNameByte c = true := by
          intro hbyte
          rw [List.takeWhile_cons_of_pos hbyte] at hempty
          cases hempty
        have hc := hsub c (List.mem_cons_self ..)
        have hspace : isSpace c = false := by simpa using hhead
        rw [isNameByte_iff] at hbyte
        have : c = 61 := by
          by_contra h61
          exact hbyte ⟨hc.1, h61, hspace, hc.2.1⟩
        rw [this]
        rfl
  dsimp only
  rw [takeWhile_append_stop rfl, dropWhile_append_stop rfl, dropWhile_append_stop rfl,
    if_neg (by simp), if_neg]
  rw [Bool.and_eq_true, decide_eq_true_eq, decide_eq_true_eq]
  rintro ⟨hempty, hne61⟩
  exact hne61 (hfirst hempty)

/-- A segment that is not malformed is read up to its `;`. -/
theorem consume_foreign {seg : Bytes} (h : IsSegment seg) (hwell : ¬ Malformed seg)
    (rest : Bytes) :
    ∃ value, consume (seg ++ 59 :: rest) = (some ⟨nameToken seg, value⟩, rest) := by
  by_cases hblank : seg.dropWhile isSpace = []
  · refine ⟨[], ?_⟩
    rw [consume_eq, dropWhile_append_stop rfl, nameToken, hblank]
    rfl
  · rw [consume_segment h hblank]
    have hsub : IsSegment (afterName seg) := fun c hc => h c ((afterName_suffix seg).mem hc)
    cases hafter : afterName seg with
    | nil => exact ⟨[], rfl⟩
    | cons c s =>
        have hc : c = 61 := by
          by_contra hc
          exact hwell ⟨c, by rw [hafter]; rfl, hc⟩
        subst hc
        rw [hafter] at hsub
        have hsigns : (s ++ 59 :: rest).dropWhile (· = 61) = s.dropWhile (· = 61) ++ 59 :: rest :=
          dropWhile_append_stop rfl s rest
        rw [List.cons_append, consumeRest, if_neg (by decide), if_pos rfl, hsigns]
        exact consumeValue_foreign _ (fun d hd => hsub d (List.mem_cons_of_mem _
          ((List.dropWhile_suffix _).mem hd))) rest

/-- A malformed segment ends the reading. -/
theorem consume_malformed {seg : Bytes} (h : IsSegment seg) (hmal : Malformed seg)
    (rest : Bytes) : (consume (seg ++ 59 :: rest)).1 = none := by
  obtain ⟨c, hc, hne⟩ := hmal
  have hblank : seg.dropWhile isSpace ≠ [] := by
    intro hblank
    rw [afterName, hblank] at hc
    cases hc
  have hmem : c ∈ seg := (afterName_suffix seg).mem (List.mem_of_mem_head? hc)
  rw [consume_segment h hblank]
  cases hafter : afterName seg with
  | nil => rw [hafter] at hc; cases hc
  | cons d s =>
      rw [hafter] at hc
      cases hc
      have hd := h c hmem
      rw [List.cons_append, consumeRest, if_neg (by simp [hd.1, hd.2.1]), if_neg hne]

end Cookie

/-! ## The whole jar -/

/-- A value that a trim leaves alone and that does not begin with an `=`. -/
structure IsCookieValue (v : Bytes) : Prop where
  ne_nil : v ≠ []
  isSegment : IsSegment v
  head : ∀ c ∈ v.head?, c ≠ 61 ∧ isSpace c = false
  last : ∀ c ∈ v.getLast?, isSpace c = false

/-- The segment of the challenge cookie, with the blanks around it. -/
def deflectSegment (lead : Blanks) (v : Bytes) (trail : Blanks) : Bytes :=
  lead.val ++ (bytes "deflect=" ++ (v ++ trail.val))

theorem joinSegments_cons (seg : Bytes) {segments : List Bytes} (h : segments ≠ []) :
    joinSegments (seg :: segments) = seg ++ 59 :: joinSegments segments := by
  cases segments with
  | nil => exact absurd rfl h
  | cons next segments => simp [joinSegments, List.intercalate, List.intersperse]

theorem printable_deflect {v : Bytes} (h : IsCookieValue v) :
    Cookie.Printable ⟨bytes "deflect", v⟩ where
  name_ne_nil := show bytes "deflect" ≠ [] by decide
  name_bytes :=
    show ∀ c ∈ bytes "deflect", c ≠ 59 ∧ c ≠ 61 ∧ isSpace c = false ∧ c ≠ 0 by decide +kernel
  value_bytes := fun c hc => ⟨(h.isSegment c hc).1, (h.isSegment c hc).2.1⟩
  value_line := fun hline => (h.isSegment 13 (hline.subset (List.mem_cons_self ..))).2.2.1 rfl
  value_head := h.head
  value_last := h.last

/-- The challenge cookie is found when its segment comes first. -/
theorem deflectCookie_first {lead trail : Blanks} {v : Bytes} (later : List Bytes)
    (h : IsCookieValue v) :
    deflectCookie (joinSegments (deflectSegment lead v trail :: later)) = some v := by
  obtain ⟨rest, hrest, hjar⟩ : ∃ rest, (rest = [] ∨ rest.head? = some 59) ∧
      joinSegments (deflectSegment lead v trail :: later) =
        deflectSegment lead v trail ++ rest := by
    cases later with
    | nil => exact ⟨[], Or.inl rfl, by simp [joinSegments, List.intercalate]⟩
    | cons seg later => exact ⟨_, Or.inr rfl, joinSegments_cons _ (List.cons_ne_nil _ _)⟩
  have hfound := deflectCookie_jar [] ⟨_, printable_deflect h, lead, ⟨[], by simp⟩, ⟨[], by simp⟩⟩
    trail (by simp) rfl h.ne_nil (show EndsValue rest from hrest.imp_right Or.inl)
  rw [hjar, deflectSegment]
  simpa [Segment.text, bytes] using hfound

/-- The loop of `check_cookie` reaches the challenge cookie and takes its value exactly when
no segment in front of it is malformed. -/
theorem deflectCookie_segments_iff {earlier later : List Bytes} {lead trail : Blanks} {v : Bytes}
    (hearlier : ∀ seg ∈ earlier, IsSegment seg ∧ nameToken seg ≠ bytes "deflect")
    (hv : IsCookieValue v) :
    deflectCookie (joinSegments (earlier ++ deflectSegment lead v trail :: later)) = some v ↔
      ∀ seg ∈ earlier, ¬ Malformed seg := by
  induction earlier with
  | nil =>
      rw [List.nil_append, deflectCookie_first later hv]
      simp
  | cons seg earlier ih =>
      obtain ⟨hseg, hname⟩ := hearlier seg (List.mem_cons_self ..)
      have ih := ih (fun s hs => hearlier s (List.mem_cons_of_mem _ hs))
      rw [List.cons_append, joinSegments_cons seg (by simp), List.forall_mem_cons]
      by_cases hmal : Malformed seg
      · have hnone := Cookie.consume_malformed hseg hmal
          (joinSegments (earlier ++ deflectSegment lead v trail :: later))
        rw [deflectCookie, findDeflect]
        split
        · simp [hmal]
        · next c rest hc => rw [hc] at hnone; cases hnone
      · obtain ⟨value, hconsume⟩ := Cookie.consume_foreign hseg hmal
          (joinSegments (earlier ++ deflectSegment lead v trail :: later))
        rw [deflectCookie_of_consume hconsume hname, ih]
        simp [hmal]

/-- A token, after a space. -/
def sampleTokenSegment : Bytes :=
  deflectSegment ⟨[32], isSpace_of_mem_space⟩ (bytes "tok") ⟨[], isSpace_of_mem_nil⟩

theorem isCookieValue_sample : IsCookieValue (bytes "tok") where
  ne_nil := by decide +kernel
  isSegment := by decide +kernel
  head := by decide +kernel
  last := by decide +kernel

/-- A pair, a lone name and an empty segment in front of the challenge cookie. -/
theorem deflectCookie_segments_found :
    deflectCookie (joinSegments
      ([bytes "a = b", bytes " c ", []] ++ sampleTokenSegment :: [bytes "d e"])) =
      some (bytes "tok") :=
  (deflectCookie_segments_iff (by decide +kernel) isCookieValue_sample).mpr (by decide +kernel)

/-- A name with an inner space hides the challenge cookie behind it. -/
theorem deflectCookie_segments_hidden :
    (∀ seg ∈ [bytes "a b"], IsSegment seg ∧ nameToken seg ≠ bytes "deflect") ∧
    IsCookieValue (bytes "tok") ∧
    deflectCookie (joinSegments ([bytes "a b"] ++ sampleTokenSegment :: [])) = none :=
  ⟨by decide +kernel, isCookieValue_sample, by decide +kernel⟩

end Banjax
