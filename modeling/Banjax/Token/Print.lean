import Banjax.Token.Jar

/-!
# Printing a cookie jar

The text of a jar as a client sends it: `name=value` pairs with a `;` between
them, blanks after each `;`, and perhaps blanks around the `=`.  Reading the text
with `Cookie::consume` gives the pairs back in their order and then nothing
(`yields_jarText`).

A pair is `Printable` when its text says where it ends.  The name has no byte that
ends a name.  The value has no byte that ends a value, and it begins and ends with
a byte that the trims leave alone.

`deflectCookie_jar` is the form in which a check of a challenge uses this: what
follows the cookie named `deflect` may be anything that ends its value.
-/

namespace Banjax

open Lib

/-- Any amount of whitespace. -/
def Blanks : Type := { s : Bytes // ∀ c ∈ s, isSpace c = true }

theorem isSpace_of_mem_nil : ∀ c ∈ ([] : Bytes), isSpace c = true := List.forall_mem_nil _

theorem isSpace_of_mem_space : ∀ c ∈ ([32] : Bytes), isSpace c = true := by decide +kernel

namespace Cookie

/-- A pair that can be printed and read back. -/
structure Printable (cookie : Cookie) : Prop where
  name_ne_nil : cookie.name ≠ []
  name_bytes : ∀ c ∈ cookie.name, c ≠ 59 ∧ c ≠ 61 ∧ isSpace c = false ∧ c ≠ 0
  value_bytes : ∀ c ∈ cookie.value, c ≠ 59 ∧ c ≠ 0
  value_line : ¬ [13, 10] <:+: cookie.value
  value_head : ∀ c ∈ cookie.value.head?, c ≠ 61 ∧ isSpace c = false
  value_last : ∀ c ∈ cookie.value.getLast?, isSpace c = false

/-- The pairs that repeated calls of `Cookie::consume` return before the first
call that returns none. -/
def Yields : Bytes → List Cookie → Prop
  | cookieJar, [] => (consume cookieJar).1 = none
  | cookieJar, cookie :: cookies =>
      ∃ rest, consume cookieJar = (some cookie, rest) ∧ Yields rest cookies

end Cookie

/-- A pair with the blanks it is printed with. -/
structure Segment where
  cookie : Cookie
  printable : cookie.Printable
  /-- Before the name. -/
  gap : Blanks
  /-- Between the name and the `=`. -/
  before : Blanks
  /-- Between the `=` and the value. -/
  after : Blanks

/-- The text of a pair. -/
def Segment.text (p : Segment) : Bytes :=
  p.gap.val ++ (p.cookie.name ++ (p.before.val ++ 61 :: (p.after.val ++ p.cookie.value)))

/-- The text of a jar: the pairs joined with `;`. -/
def jarText : List Segment → Bytes
  | [] => []
  | [p] => p.text
  | p :: ps => p.text ++ 59 :: jarText ps

/-- What ends a value: the end of the text, a `;`, a NUL or the end of the line. -/
def EndsValue (rest : Bytes) : Prop :=
  rest = [] ∨ rest.head? = some 59 ∨ rest.head? = some 0 ∨ [13, 10] <+: rest

namespace Cookie

/-! ## The value -/

theorem valueToken_eq_nil {rest : Bytes} (h : EndsValue rest) : valueToken rest = [] := by
  cases rest with
  | nil => rfl
  | cons c rest =>
      rw [valueToken]
      rcases h with h | h | h | h
      · cases h
      · simp at h
        simp [h]
      · simp at h
        simp [h]
      · obtain ⟨s, hs⟩ := h
        cases hs
        rfl

/-- The loop passes over a printable value. -/
theorem valueToken_append (rest : Bytes) : ∀ value : Bytes, (∀ c ∈ value, c ≠ 59 ∧ c ≠ 0) →
    ¬ [13, 10] <:+: value → (∀ c ∈ value.getLast?, isSpace c = false) →
    valueToken (value ++ rest) = value ++ valueToken rest := by
  intro value
  induction value with
  | nil => intros; rfl
  | cons c value ih =>
      intro hbytes hline hlast
      have hc := hbytes c (List.mem_cons_self ..)
      -- A carriage return is not the last byte, and the byte after it is no line feed.
      have heol : ¬ (c = 13 ∧ (value ++ rest).head? = some 10) := by
        rintro ⟨rfl, hhead⟩
        cases value with
        | nil => exact absurd (hlast 13 rfl) (by decide)
        | cons d value =>
            have hd : d = 10 := by simpa using hhead
            exact hline ⟨[], value, by rw [hd]; rfl⟩
      have htail : valueToken (value ++ rest) = value ++ valueToken rest := by
        apply ih
        · intro d hd
          exact hbytes d (List.mem_cons_of_mem _ hd)
        · intro hinner
          exact hline (hinner.trans (List.suffix_cons c value).isInfix)
        · intro d hd
          cases value with
          | nil => cases hd
          | cons e value => exact hlast d (by rw [List.getLast?_cons_cons]; exact hd)
      rw [List.cons_append, valueToken, if_neg (by simpa [hc.1, hc.2] using heol), htail]
      rfl

theorem valueToken_blanks (blanks : Blanks) {rest : Bytes} (h : EndsValue rest) :
    ∀ c ∈ valueToken (blanks.val ++ rest), isSpace c = true := by
  obtain ⟨blanks, hblanks⟩ := blanks
  dsimp only
  induction blanks with
  | nil =>
      rw [List.nil_append, valueToken_eq_nil h]
      intro c hc
      cases hc
  | cons b blanks ih =>
      intro c hc
      rw [List.cons_append, valueToken] at hc
      split at hc
      · cases hc
      · rcases List.mem_cons.mp hc with rfl | hc
        · exact hblanks c (List.mem_cons_self ..)
        · exact ih (fun d hd => hblanks d (List.mem_cons_of_mem _ hd)) c hc

/-- The trim of a prefix stops at the first byte that is not a blank. -/
theorem dropWhile_blanks (blanks : Blanks) {s : Bytes} (h : ∀ c ∈ s.head?, isSpace c = false) :
    (blanks.val ++ s).dropWhile isSpace = s := by
  rw [List.dropWhile_append_of_pos blanks.property]
  cases s with
  | nil => rfl
  | cons c s => rw [List.dropWhile_cons_of_neg (by rw [h c rfl]; simp)]

/-- The trim of a suffix stops at the last byte of a printable value. -/
theorem rdropWhile_value {value : Bytes} (blanks : Bytes)
    (h : ∀ c ∈ value.getLast?, isSpace c = false) (hblanks : ∀ c ∈ blanks, isSpace c = true) :
    (value ++ blanks).rdropWhile isSpace = value := by
  have hself : value.rdropWhile isSpace = value := by
    rw [List.rdropWhile_eq_self_iff]
    intro hne
    rw [h _ (List.getLast?_eq_some_getLast hne)]
    simp
  rw [List.rdropWhile, List.reverse_append, List.dropWhile_append_of_pos
    (fun c hc => hblanks c (List.mem_reverse.mp hc))]
  exact hself

/-- The value of a printable pair, with the blanks on both sides of it trimmed. -/
theorem consumeValue_fst {cookie : Cookie} (h : cookie.Printable) (hne : cookie.value ≠ [])
    (after trail : Blanks) {rest : Bytes} (hrest : EndsValue rest) :
    (consumeValue cookie.name (after.val ++ (cookie.value ++ (trail.val ++ rest)))).1 =
      some cookie := by
  have htrim : (after.val ++ (cookie.value ++ (trail.val ++ rest))).dropWhile isSpace =
      cookie.value ++ (trail.val ++ rest) := by
    apply dropWhile_blanks
    intro c hc
    rw [List.head?_append_of_ne_nil _ hne] at hc
    exact (h.value_head c hc).2
  rw [consumeValue, htrim, valueToken_append _ _ h.value_bytes h.value_line h.value_last,
    rdropWhile_value _ h.value_last (valueToken_blanks trail hrest)]

/-- The value of a printable pair that is followed by the next one or by nothing,
and the view after it. -/
theorem consumeValue_segment {cookie : Cookie} (h : cookie.Printable) (after : Blanks)
    {rest : Bytes} (hrest : rest = [] ∨ rest.head? = some 59) :
    consumeValue cookie.name (after.val ++ (cookie.value ++ rest)) = (some cookie, rest.tail) := by
  have hhead : ∀ c ∈ (cookie.value ++ rest).head?, isSpace c = false := by
    intro c hc
    cases hv : cookie.value with
    | nil =>
        rw [hv, List.nil_append] at hc
        rcases hrest with rfl | hrest
        · cases hc
        · rw [hrest] at hc
          cases hc
          rfl
    | cons d value =>
        rw [hv] at hc
        exact (h.value_head c (by rw [hv]; exact hc)).2
  have hends : EndsValue rest := by
    rcases hrest with hrest | hrest
    · exact Or.inl hrest
    · exact Or.inr (Or.inl hrest)
  have htoken : valueToken (cookie.value ++ rest) = cookie.value := by
    rw [valueToken_append _ _ h.value_bytes h.value_line h.value_last, valueToken_eq_nil hends,
      List.append_nil]
  have htrim := rdropWhile_value [] h.value_last (by simp)
  rw [List.append_nil] at htrim
  rw [consumeValue, dropWhile_blanks after hhead, htoken, htrim, List.drop_left]
  rcases hrest with rfl | hrest
  · rfl
  · rw [if_pos hrest]

/-! ## The name -/

theorem isNameByte_iff {c : UInt8} :
    isNameByte c = true ↔ c ≠ 59 ∧ c ≠ 61 ∧ isSpace c = false ∧ c ≠ 0 := by
  simp [isNameByte, and_assoc]

/-- The name of a printable pair ends at the blanks or at the `=` after it. -/
theorem takeWhile_name {name : Bytes} (h : ∀ c ∈ name, isNameByte c = true) (before : Blanks)
    (s : Bytes) : (name ++ (before.val ++ 61 :: s)).takeWhile isNameByte = name := by
  obtain ⟨before, hbefore⟩ := before
  rw [List.takeWhile_append_of_pos h]
  cases before with
  | nil => simp [isNameByte]
  | cons b before =>
      have hb : isSpace b = true := hbefore b (List.mem_cons_self ..)
      have hstop : isNameByte b = false := by simp [isNameByte, hb]
      simp [hstop]

/-- A name and its `=` are read off, and the value follows. -/
theorem consume_name {cookie : Cookie} (h : cookie.Printable) (gap before : Blanks) {s : Bytes}
    (hs : s.head? ≠ some 61) :
    consume (gap.val ++ (cookie.name ++ (before.val ++ 61 :: s))) =
      consumeValue cookie.name s := by
  have hbytes : ∀ c ∈ cookie.name, isNameByte c = true := fun c hc =>
    isNameByte_iff.mpr (h.name_bytes c hc)
  have hne : cookie.name ++ (before.val ++ 61 :: s) ≠ [] := by simp [h.name_ne_nil]
  have htrim : (gap.val ++ (cookie.name ++ (before.val ++ 61 :: s))).dropWhile isSpace =
      cookie.name ++ (before.val ++ 61 :: s) := by
    apply dropWhile_blanks
    intro c hc
    rw [List.head?_append_of_ne_nil _ h.name_ne_nil] at hc
    exact (h.name_bytes c (List.mem_of_mem_head? hc)).2.2.1
  have heq : (before.val ++ 61 :: s).dropWhile isSpace = 61 :: s := by
    apply dropWhile_blanks
    intro c hc
    cases hc
    rfl
  have hsigns : s.dropWhile (· = 61) = s := by
    cases s with
    | nil => rfl
    | cons c s =>
        rw [List.dropWhile_cons_of_neg]
        simpa using hs
  unfold consume
  dsimp only
  rw [htrim, if_neg hne, takeWhile_name hbytes, if_neg (by simp [h.name_ne_nil]), List.drop_left,
    heq]
  dsimp only
  rw [if_neg (by decide), if_pos rfl, hsigns]

/-! ## Whole jars -/

/-- The byte after the `=` of a printed pair is not another `=`. -/
theorem head_value_ne {cookie : Cookie} (h : cookie.Printable) (after : Blanks) (rest : Bytes)
    (hrest : rest.head? ≠ some 61) : (after.val ++ (cookie.value ++ rest)).head? ≠ some 61 := by
  obtain ⟨after, hafter⟩ := after
  intro hhead
  cases after with
  | nil =>
      cases hv : cookie.value with
      | nil =>
          rw [hv] at hhead
          exact hrest hhead
      | cons d value =>
          rw [hv] at hhead
          exact (h.value_head 61 (by rw [hv]; exact hhead)).1 rfl
  | cons b after =>
      have hb : isSpace b = true := hafter b (List.mem_cons_self ..)
      have : b = 61 := by simpa using hhead
      rw [this] at hb
      exact absurd hb (by decide)

/-- One call reads one pair of the text. -/
theorem consume_text (p : Segment) (rest : Bytes) (hrest : rest = [] ∨ rest.head? = some 59) :
    consume (p.text ++ rest) = (some p.cookie, rest.tail) := by
  have hhead : rest.head? ≠ some 61 := by
    rcases hrest with rfl | hrest
    · simp
    · simp [hrest]
  rw [Segment.text, List.append_assoc, List.append_assoc, List.append_assoc, List.cons_append,
    List.append_assoc, consume_name p.printable _ _ (head_value_ne p.printable _ _ hhead),
    consumeValue_segment p.printable _ hrest]

/-- Reading the printed jar gives the pairs back, in their order, and then none. -/
theorem yields_jarText : ∀ ps : List Segment, Yields (jarText ps) (ps.map Segment.cookie)
  | [] => rfl
  | [p] => by
      have h := consume_text p [] (Or.inl rfl)
      rw [List.append_nil] at h
      exact ⟨[], h, rfl⟩
  | p :: q :: ps =>
      ⟨jarText (q :: ps), consume_text p _ (Or.inr rfl), yields_jarText (q :: ps)⟩

end Cookie

/-! ## The first cookie of a name -/

/-- One round of the loop passes over a pair of another name. -/
theorem deflectCookie_cons (p : Segment) (rest : Bytes) (h : p.cookie.name ≠ bytes "deflect") :
    deflectCookie (p.text ++ 59 :: rest) = deflectCookie rest := by
  have hlen := Cookie.consume_length_lt (Cookie.consume_text p (59 :: rest) (Or.inr rfl))
  rw [deflectCookie, findDeflect, Cookie.consume_text p _ (Or.inr rfl)]
  dsimp only
  rw [if_neg h]
  exact findDeflect_eq hlen

/-- The loop finds the value of a cookie named `deflect` behind printed pairs of
other names.  The cookie may be followed by blanks and by whatever ends a value. -/
theorem deflectCookie_jar (ps : List Segment) (d : Segment) (trail : Blanks) {rest : Bytes}
    (hps : ∀ p ∈ ps, p.cookie.name ≠ bytes "deflect") (hd : d.cookie.name = bytes "deflect")
    (hne : d.cookie.value ≠ []) (hrest : EndsValue rest) :
    deflectCookie (ps.flatMap (fun p => p.text ++ [59]) ++ (d.text ++ (trail.val ++ rest))) =
      some d.cookie.value := by
  induction ps with
  | nil =>
      have hhead : (d.after.val ++ (d.cookie.value ++ (trail.val ++ rest))).head? ≠ some 61 := by
        have hvalue : (d.cookie.value ++ (trail.val ++ rest)).head? = d.cookie.value.head? :=
          List.head?_append_of_ne_nil _ hne
        have := Cookie.head_value_ne d.printable d.after [] (by simp)
        cases hafter : d.after.val with
        | nil => simpa [hafter, hvalue] using this
        | cons b after => simpa [hafter] using this
      have hfst := Cookie.consumeValue_fst d.printable hne d.after trail hrest
      rw [List.flatMap_nil, List.nil_append, deflectCookie, findDeflect, Segment.text,
        List.append_assoc, List.append_assoc, List.append_assoc, List.cons_append,
        List.append_assoc, Cookie.consume_name d.printable _ _ hhead]
      split
      · next hc => rw [hc] at hfst; cases hfst
      · next c r hc =>
        rw [hc] at hfst
        cases hfst
        rw [if_pos hd]
  | cons p ps ih =>
      rw [List.flatMap_cons, List.append_assoc, List.append_assoc, List.singleton_append,
        deflectCookie_cons p _ (hps p (List.mem_cons_self ..))]
      exact ih (fun q hq => hps q (List.mem_cons_of_mem _ hq))

end Banjax
