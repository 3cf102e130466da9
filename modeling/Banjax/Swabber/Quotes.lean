import Banjax.Filter
import Banjax.Lib.Run
import Banjax.Lib.Search

/-!
# Fields in quotes

`encapsulate_in_quotes` of `util.cpp`, as the loop that it is: the quotes of the text are found
one after the other, and each is replaced with a backslash and a quote while the text grows.  The
loop computes `encapsulateInQuotes` (`replaceQuotes_eq`).

A reader of the log stops at the first quote that has no backslash in front of it.  Every quote of
the text has one, so the reader never stops too early.  But a backslash of the text is left as it
is, and when the text ends in one it stands in front of the closing quote.  A field is closed by its
own quote exactly when its text does not end in a backslash (`closedByOwnQuote_iff`).
-/

namespace Banjax

open Lib

namespace Quotes

/-- `"`. -/
def quote : UInt8 := 34

/-- `\`. -/
def backslash : UInt8 := 92

/-! ## The loop -/

/-- `encapsulated_log_string.find("\"", start_pos)`. -/
def findQuote (text : Bytes) (startPos : Nat) : Option Nat :=
  (find? [quote] (text.drop startPos)).map (· + startPos)

theorem findQuote_lt {text : Bytes} {startPos pos : Nat} (h : findQuote text startPos = some pos) :
    startPos ≤ pos ∧ pos < text.length := by
  obtain ⟨n, hn, rfl⟩ := Option.map_eq_some_iff.mp h
  have hle := length_le_of_find? hn
  rw [List.length_drop, List.length_singleton] at hle
  omega

/-- The loop of `encapsulate_in_quotes`. -/
def replaceQuotes (text : Bytes) (startPos : Nat) : Bytes :=
  match h : findQuote text startPos with
  | none => text
  | some pos => replaceQuotes (text.take pos ++ [backslash, quote] ++ text.drop (pos + 1)) (pos + 2)
termination_by text.length - startPos
decreasing_by
  have hlt := findQuote_lt h
  simp
  omega

/-- The quotes of a text with a backslash in front of each. -/
def escape (text : Bytes) : Bytes :=
  text.flatMap fun c => if c = quote then [backslash, quote] else [c]

theorem escape_quote (text : Bytes) :
    escape (quote :: text) = backslash :: quote :: escape text := rfl

theorem escape_cons {c : UInt8} (h : c ≠ quote) (text : Bytes) :
    escape (c :: text) = c :: escape text := by
  rw [escape, List.flatMap_cons, if_neg h]
  rfl

theorem escape_append (a b : Bytes) : escape (a ++ b) = escape a ++ escape b :=
  List.flatMap_append

theorem escape_eq_self {text : Bytes} (h : quote ∉ text) : escape text = text := by
  induction text with
  | nil => rfl
  | cons c text ih =>
      rw [List.mem_cons, not_or] at h
      rw [escape_cons (fun he => h.1 he.symm), ih h.2]

/-- What is behind the position is still to be escaped. -/
theorem replaceQuotes_append (front text : Bytes) :
    replaceQuotes (front ++ text) front.length = front ++ escape text := by
  -- Each round takes the text up to its first quote to the front.
  induction hlen : text.length using Nat.strong_induction_on generalizing front text with
  | _ n ih =>
      rw [replaceQuotes]
      by_cases hmem : quote ∈ text
      · obtain ⟨before, after, rfl, hbefore⟩ := List.eq_append_cons_of_mem hmem
        have hfind : findQuote (front ++ (before ++ quote :: after)) front.length =
            some (before.length + front.length) := by
          rw [findQuote, List.drop_left, find?_byte hbefore]
          rfl
        have hgrown : (front ++ (before ++ quote :: after)).take (before.length + front.length) ++
              [backslash, quote] ++
              (front ++ (before ++ quote :: after)).drop (before.length + front.length + 1) =
            (front ++ before ++ [backslash, quote]) ++ after := by
          have hlength : before.length + front.length = (front ++ before).length := by
            rw [List.length_append, Nat.add_comm]
          rw [hlength, ← List.append_assoc, List.take_left, ← List.drop_drop, List.drop_left]
          simp
        have hnext := ih after.length (by rw [← hlen]; simp; omega)
          (front ++ before ++ [backslash, quote]) after rfl
        have hpos : (front ++ before ++ [backslash, quote]).length =
            before.length + front.length + 2 := by
          simp
          omega
        split
        · next h => rw [hfind] at h; cases h
        · next pos h =>
          cases hfind.symm.trans h
          rw [hgrown, ← hpos, hnext, escape_append, escape_eq_self hbefore, escape_quote]
          simp
      · have hfind : findQuote (front ++ text) front.length = none := by
          rw [findQuote, List.drop_left, find?_byte_eq_none hmem]
          rfl
        split
        · rw [escape_eq_self hmem]
        · next h => rw [hfind] at h; cases h

/-- `encapsulate_in_quotes`. -/
def encapsulate (unprocessedLogString : Bytes) : Bytes :=
  [quote] ++ replaceQuotes unprocessedLogString 0 ++ [quote]

theorem encapsulate_eq (text : Bytes) : encapsulate text = quote :: (escape text ++ [quote]) := by
  have hloop := replaceQuotes_append [] text
  rw [List.nil_append, List.nil_append, List.length_nil] at hloop
  rw [encapsulate, hloop]
  rfl

/-- The loop computes what the log lines are made of. -/
theorem encapsulateInQuotes_eq (text : Bytes) : encapsulateInQuotes text = encapsulate text :=
  (encapsulate_eq text).symm

/-! ## The readers -/

/-- The text without the backslash in front of each quote. -/
def unescape : Bytes → Bytes
  | 92 :: 34 :: rest => 34 :: unescape rest
  | c :: rest => c :: unescape rest
  | [] => []

/-- A reader behind the opening quote: the field up to the first quote that has no backslash in
front of it, and what is left of the line. -/
def readField : Bytes → Option (Bytes × Bytes)
  | 92 :: 34 :: rest => (readField rest).map fun field => (34 :: field.1, field.2)
  | 34 :: rest => some ([], rest)
  | c :: rest => (readField rest).map fun field => (c :: field.1, field.2)
  | [] => none

theorem unescape_cons {c : UInt8} {rest : Bytes} (h : c = backslash → rest.head? ≠ some quote) :
    unescape (c :: rest) = c :: unescape rest := by
  rw [unescape]
  intro rest' hc hrest
  exact h hc (by rw [hrest]; rfl)

theorem readField_cons {c : UInt8} {rest : Bytes} (hc : c ≠ quote)
    (h : c = backslash → rest.head? ≠ some quote) :
    readField (c :: rest) = (readField rest).map fun field => (c :: field.1, field.2) := by
  rw [readField]
  · intro rest' hc hrest
    exact h hc (by rw [hrest]; rfl)
  · exact hc

theorem escape_ne_nil (c : UInt8) (text : Bytes) : escape (c :: text) ≠ [] := by
  by_cases hc : c = quote
  · subst hc
    exact List.cons_ne_nil _ _
  · rw [escape_cons hc]
    exact List.cons_ne_nil _ _

/-- The first byte is never a quote. -/
theorem head?_escape (text : Bytes) : (escape text).head? ≠ some quote := by
  cases text with
  | nil => nofun
  | cons c text =>
      by_cases hc : c = quote
      · subst hc
        rw [escape_quote, List.head?_cons]
        decide
      · rw [escape_cons hc]
        exact fun h => hc (Option.some.inj h)

theorem unescape_escape (text : Bytes) : unescape (escape text) = text := by
  induction text with
  | nil => rfl
  | cons c text ih =>
      by_cases hc : c = quote
      · subst hc
        rw [escape_quote]
        exact congrArg (quote :: ·) ih
      · rw [escape_cons hc, unescape_cons fun _ => head?_escape text, ih]

/-- Every quote of the text has a backslash in front of it. -/
theorem getLast?_of_escape_eq {text pre post : Bytes} (h : escape text = pre ++ quote :: post) :
    pre.getLast? = some backslash := by
  induction text generalizing pre with
  | nil => cases pre <;> cases h
  | cons c text ih =>
      by_cases hc : c = quote
      · subst hc
        rw [escape_quote] at h
        cases pre with
        | nil => exact absurd (List.cons.inj h).1 (by decide)
        | cons b pre =>
            obtain ⟨rfl, htail⟩ := List.cons.inj h
            cases pre with
            | nil => rfl
            | cons b' pre =>
                have hlast := ih (List.cons.inj htail).2
                rw [List.getLast?_cons_cons, List.getLast?_cons, hlast]
                rfl
      · rw [escape_cons hc] at h
        cases pre with
        | nil => exact absurd (List.cons.inj h).1 hc
        | cons b pre =>
            have hlast := ih (List.cons.inj h).2
            rw [List.getLast?_cons, hlast]
            rfl

theorem getLast?_escape (text : Bytes) : (escape text).getLast? = text.getLast? := by
  induction text using List.reverseRecOn with
  | nil => rfl
  | append_singleton text c _ =>
      rw [escape_append, List.getLast?_append, List.getLast?_append]
      by_cases hc : c = quote
      · subst hc
        rfl
      · rw [escape_cons hc]
        rfl

/-- The reader finds the end of a text that does not end in a backslash. -/
theorem readField_escape {text : Bytes} (h : text.getLast? ≠ some backslash) (rest : Bytes) :
    readField (escape text ++ quote :: rest) = some (text, rest) := by
  induction text with
  | nil => rfl
  | cons c text ih =>
      have hlast : text.getLast? ≠ some backslash := by
        intro hlast
        rw [List.getLast?_cons, hlast] at h
        exact h rfl
      by_cases hc : c = quote
      · subst hc
        rw [escape_quote, List.cons_append, List.cons_append]
        show (readField (escape text ++ quote :: rest)).map _ = _
        rw [ih hlast]
        rfl
      · have hnext : c = backslash → (escape text ++ quote :: rest).head? ≠ some quote := by
          rintro rfl
          cases text with
          | nil => exact absurd rfl h
          | cons b text =>
              rw [List.head?_append_of_ne_nil _ (escape_ne_nil b text)]
              exact head?_escape (b :: text)
        rw [escape_cons hc, List.cons_append, readField_cons hc hnext, ih hlast]
        rfl

/-! ## Closed fields -/

/-- The text in quotes is a field that ends at its own quote. -/
structure ClosedByOwnQuote (text : Bytes) : Prop where
  opens : (encapsulate text).head? = some quote
  closes : (encapsulate text).getLast? = some quote
  /-- The last quote is the only one behind the first that has no backslash in front of it. -/
  only : ∀ pre post, encapsulate text = pre ++ quote :: post → pre ≠ [] →
    (pre.getLast? ≠ some backslash ↔ post = [])
  /-- The text comes back without the quotes around it and the backslashes. -/
  unescaped : unescape (encapsulate text).tail.dropLast = text
  /-- A reader recovers the text, whatever follows in the line. -/
  scanned : ∀ rest, readField (encapsulate text ++ rest).tail = some (text, rest)

/-- A field is closed by its own quote when its text does not end in a backslash, and only then. -/
theorem closedByOwnQuote_iff (text : Bytes) :
    ClosedByOwnQuote text ↔ text.getLast? ≠ some backslash := by
  constructor
  · intro h hlast
    have hsplit : encapsulate text = (quote :: escape text) ++ quote :: [] := encapsulate_eq text
    have hpre : (quote :: escape text).getLast? = some backslash := by
      rw [List.getLast?_cons, getLast?_escape, hlast]
      rfl
    exact (h.only _ _ hsplit (List.cons_ne_nil _ _)).mpr rfl hpre
  · intro hlast
    refine ⟨?_, ?_, ?_, ?_, ?_⟩
    · rw [encapsulate_eq]
      rfl
    · rw [encapsulate_eq, ← List.cons_append, List.getLast?_concat]
    · intro pre post hsplit hpre
      rw [encapsulate_eq] at hsplit
      cases pre with
      | nil => exact absurd rfl hpre
      | cons first pre =>
          obtain ⟨rfl, htail⟩ := List.cons.inj hsplit
          rw [List.getLast?_cons]
          rcases split_snoc htail with ⟨rfl, -, rfl⟩ | ⟨post', rfl, hinner⟩
          · -- The closing quote.
            refine iff_of_true ?_ rfl
            rw [getLast?_escape]
            cases hend : text.getLast? with
            | none => decide
            | some c =>
                intro hc
                exact hlast (hend.trans hc)
          · rw [getLast?_of_escape_eq hinner]
            exact iff_of_false (fun h => h rfl) (by simp)
    · rw [encapsulate_eq, List.tail_cons, List.dropLast_concat, unescape_escape]
    · intro rest
      rw [encapsulate_eq, List.cons_append, List.tail_cons, List.append_assoc]
      exact readField_escape hlast rest

/-- A user agent that ends in a backslash takes the rest of the line into its field. -/
theorem backslash_hides_quote :
    encapsulate (bytes "curl\\") = bytes "\"curl\\\"" ∧
    readField (encapsulate (bytes "curl\\") ++ bytes ", flagged").tail = none ∧
    ¬ ClosedByOwnQuote (bytes "curl\\") := by
  have hread : readField (encapsulate (bytes "curl\\") ++ bytes ", flagged").tail = none := by
    rw [encapsulate_eq]
    decide +kernel
  refine ⟨?_, hread, ?_⟩
  · rw [encapsulate_eq]
    decide +kernel
  · intro h
    rw [h.scanned] at hread
    cases hread

end Quotes

end Banjax
