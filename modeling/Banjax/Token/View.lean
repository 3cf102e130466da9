import Banjax.Lib.Access
import Banjax.Token.Jar

/-!
# `consume` on a view

`Cookie::consume` again, access by access, on a `string_view` that lies in a larger
buffer.  `Jar` has what it computes on a whole `std::string`; here is what it reads.

Every loop but one asks for the end of the view before it reads.  The loop over the `=`
signs shortens the view first and then looks at its front, so when the signs run up to
the end of the view it looks at the byte behind it, and from there it depends on the
buffer whether the call returns.  These are the only inputs on which `consume` leaves its
view (`readsOnlyView_iff`).  The byte behind a `std::string` is its terminator, so the
jar of a request is read to its end (`jarLoop_terminates`).
-/

namespace Banjax

open Lib Lib.ViewM

namespace Cookie

/-! ## The helpers -/

/-- `trim_space_prefix`. -/
def trimSpacePrefix : Nat → View UInt8 → ViewM (View UInt8)
  | 0, _ => stuck
  | fuel + 1, s =>
      if s.data = [] then pure s
      else do
        let c ← s.index 0
        if isSpace c then do
          let s ← s.removePrefix 1
          trimSpacePrefix fuel s
        else pure s

/-- `trim_space_suffix`. -/
def trimSpaceSuffix : Nat → View UInt8 → ViewM (View UInt8)
  | 0, _ => stuck
  | fuel + 1, s =>
      if s.data = [] then pure s
      else do
        let c ← s.index (s.size - 1)
        if isSpace c then do
          let s ← s.removeSuffix 1
          trimSpaceSuffix fuel s
        else pure s

/-- `is_eol_at`. -/
def isEolAt (s : View UInt8) (pos : Nat) : ViewM Bool :=
  if s.size < pos + 1 then pure false
  else do
    let s ← s.removePrefix pos
    return [13, 10].isPrefixOf s.data

/-! ## The call -/

/-- The end of the name token. -/
def findNameEnd : Nat → View UInt8 → Nat → ViewM Nat
  | 0, _, _ => stuck
  | fuel + 1, s, nameEnd =>
      if nameEnd < s.size then do
        let c ← s.index nameEnd
        if isNameByte c then findNameEnd fuel s (nameEnd + 1) else pure nameEnd
      else pure nameEnd

/-- The end of the value token. -/
def findValueEnd : Nat → View UInt8 → Nat → ViewM Nat
  | 0, _, _ => stuck
  | fuel + 1, s, valEnd =>
      if valEnd < s.size then do
        let c ← s.index valEnd
        if c ≠ 59 && c ≠ 0 then do
          let eol ← isEolAt s valEnd
          if eol then pure valEnd else findValueEnd fuel s (valEnd + 1)
        else pure valEnd
      else pure valEnd

/-- `do cookie_s.remove_prefix(1); while (cookie_s[0] == '=')`. -/
def skipSigns : Nat → View UInt8 → ViewM (View UInt8)
  | 0, _ => stuck
  | fuel + 1, s => do
      let s ← s.removePrefix 1
      let c ← s.index 0
      if c = 61 then skipSigns fuel s else pure s

/-- The value token and the `;` after it. -/
def consumeValueView (fuel : Nat) (name : Bytes) (s : View UInt8) :
    ViewM (Option Cookie × View UInt8) := do
  let s ← trimSpacePrefix fuel s
  let valEnd ← findValueEnd fuel s 0
  let value ← trimSpaceSuffix fuel (s.substr 0 valEnd)
  let s ← s.removePrefix valEnd
  if s.data = [] then pure (some ⟨name, value.data⟩, s)
  else do
    let front ← s.index 0
    if front = 59 then do
      let s ← s.removePrefix 1
      pure (some ⟨name, value.data⟩, s)
    else pure (some ⟨name, value.data⟩, s)

/-- What follows the name token and the blanks after it. -/
def consumeAfter (fuel : Nat) (name : Bytes) (s : View UInt8) :
    ViewM (Option Cookie × View UInt8) :=
  if s.data = [] then pure (some ⟨name, []⟩, s)
  else do
    let c ← s.index 0
    if c = 0 || c = 59 then do
      let s ← s.removePrefix 1
      pure (some ⟨name, []⟩, s)
    else if c = 61 then do
      let s ← skipSigns fuel s
      consumeValueView fuel name s
    else pure (none, s)

/-- What follows the name token. -/
def consumeNamed (fuel : Nat) (s : View UInt8) (nameEnd : Nat) :
    ViewM (Option Cookie × View UInt8) :=
  let name := (s.substr 0 nameEnd).data
  if nameEnd = s.size then do
    let s ← s.removePrefix nameEnd
    pure (some ⟨name, []⟩, s)
  else do
    let s ← trimSpacePrefix fuel (s.substr nameEnd (s.size - nameEnd))
    consumeAfter fuel name s

/-- `Cookie::consume`.  `fuel` bounds the rounds of each loop. -/
def consumeView (fuel : Nat) (s : View UInt8) : ViewM (Option Cookie × View UInt8) := do
  let s ← trimSpacePrefix fuel s
  if s.data = [] then pure (none, s)
  else do
    let nameEnd ← findNameEnd fuel s 0
    if nameEnd = 0 then do
      let front ← s.index 0
      if front ≠ 61 then
        if front = 59 then do
          let s ← s.removePrefix 1
          pure (some {}, s)
        else pure (none, s)
      else consumeNamed fuel s nameEnd
    else consumeNamed fuel s nameEnd

/-! ## What the helpers return -/

variable {slack fuel : Nat}

theorem returns_trimSpacePrefix {s : View UInt8} (h : s.data.length < fuel) :
    Returns slack (trimSpacePrefix fuel s) ⟨s.data.dropWhile isSpace, s.tail⟩ := by
  induction fuel generalizing s with
  | zero => omega
  | succ fuel ih =>
      obtain ⟨data, tail⟩ := s
      cases data with
      | nil => exact returns_pure
      | cons c data =>
          rw [trimSpacePrefix, if_neg (List.cons_ne_nil _ _)]
          refine returns_bind (View.returns_index _ (a := c) rfl) ?_
          by_cases hc : isSpace c = true
          · rw [if_pos hc, List.dropWhile_cons_of_pos hc]
            refine returns_bind (View.returns_removePrefix _ (by simp)) ?_
            exact ih (s := ⟨data, tail⟩) (by simpa using h)
          · rw [if_neg hc, List.dropWhile_cons_of_neg hc]
            exact returns_pure

/-- The element at a position, and what is behind it. -/
theorem drop_eq_cons {data rest : Bytes} {pos : Nat} {c : UInt8} (h : data.drop pos = c :: rest) :
    pos < data.length ∧ data[pos]? = some c ∧ data.drop (pos + 1) = rest := by
  have hget : data[pos]? = some c := by
    have hdrop : (data.drop pos)[0]? = data[pos + 0]? := List.getElem?_drop
    rw [h] at hdrop
    exact hdrop.symm
  refine ⟨(List.getElem?_eq_some_iff.mp hget).1, hget, ?_⟩
  rw [← List.tail_drop, h, List.tail_cons]

theorem returns_findNameEnd (s : View UInt8) {pos : Nat} (hpos : pos ≤ s.data.length)
    (h : s.data.length < pos + fuel) :
    Returns slack (findNameEnd fuel s pos)
      (pos + ((s.data.drop pos).takeWhile isNameByte).length) := by
  induction fuel generalizing pos with
  | zero => omega
  | succ fuel ih =>
      rw [findNameEnd]
      cases hdrop : s.data.drop pos with
      | nil =>
          have hend : ¬ pos < s.size := not_lt.mpr (List.drop_eq_nil_iff.mp hdrop)
          rw [if_neg hend]
          exact returns_pure
      | cons c rest =>
          obtain ⟨hlt, hget, hrest⟩ := drop_eq_cons hdrop
          rw [if_pos (show pos < s.size from hlt)]
          refine returns_bind (View.returns_index _ hget) ?_
          by_cases hc : isNameByte c = true
          · rw [if_pos hc, List.takeWhile_cons_of_pos hc, ← hrest, List.length_cons,
              ← Nat.add_assoc, Nat.add_right_comm]
            exact ih hlt (by omega)
          · rw [if_neg hc, List.takeWhile_cons_of_neg hc]
            exact returns_pure

theorem returns_isEolAt (s : View UInt8) {pos : Nat} (h : pos < s.data.length) :
    Returns slack (isEolAt s pos) ([13, 10].isPrefixOf (s.data.drop pos)) := by
  rw [isEolAt, if_neg (by rw [View.size]; omega)]
  exact returns_bind (View.returns_removePrefix _ (by omega)) returns_pure

/-- The condition of the value loop on a byte and what follows it. -/
theorem valueToken_cons (c : UInt8) (rest : Bytes) :
    valueToken (c :: rest) =
      if (decide (c ≠ 59) && decide (c ≠ 0)) && !([13, 10].isPrefixOf (c :: rest)) then
        c :: valueToken rest
      else [] := by
  have heol : [13, 10].isPrefixOf (c :: rest) =
      (decide (c = 13) && decide (rest.head? = some 10)) := by
    cases rest with
    | nil => simp [List.isPrefixOf]
    | cons d rest => simp [List.isPrefixOf, Bool.beq_eq_decide_eq, eq_comm]
  rw [valueToken, heol]
  split
  · next h =>
    simp only [Bool.or_eq_true, Bool.and_eq_true, decide_eq_true_eq] at h
    rw [if_neg]
    simp only [Bool.and_eq_true, Bool.not_eq_true', Bool.and_eq_false_iff, decide_eq_true_eq,
      decide_eq_false_iff_not]
    tauto
  · next h =>
    simp only [Bool.or_eq_true, Bool.and_eq_true, decide_eq_true_eq] at h
    rw [if_pos]
    simp only [Bool.and_eq_true, Bool.not_eq_true', Bool.and_eq_false_iff, decide_eq_true_eq,
      decide_eq_false_iff_not]
    tauto

theorem returns_findValueEnd (s : View UInt8) {pos : Nat} (hpos : pos ≤ s.data.length)
    (h : s.data.length < pos + fuel) :
    Returns slack (findValueEnd fuel s pos) (pos + (valueToken (s.data.drop pos)).length) := by
  induction fuel generalizing pos with
  | zero => omega
  | succ fuel ih =>
      rw [findValueEnd]
      cases hdrop : s.data.drop pos with
      | nil =>
          have hend : ¬ pos < s.size := not_lt.mpr (List.drop_eq_nil_iff.mp hdrop)
          rw [if_neg hend]
          exact returns_pure
      | cons c rest =>
          obtain ⟨hlt, hget, hrest⟩ := drop_eq_cons hdrop
          rw [if_pos (show pos < s.size from hlt), valueToken_cons]
          refine returns_bind (View.returns_index _ hget) ?_
          by_cases hc : (decide (c ≠ 59) && decide (c ≠ 0)) = true
          · rw [if_pos hc, hc, Bool.true_and]
            refine returns_bind (returns_isEolAt s hlt) ?_
            rw [hdrop]
            by_cases heol : [13, 10].isPrefixOf (c :: rest) = true
            · rw [if_pos heol, heol]
              exact returns_pure
            · rw [if_neg heol, Bool.eq_false_of_not_eq_true heol, Bool.not_false, if_pos rfl,
                ← hrest, List.length_cons, ← Nat.add_assoc, Nat.add_right_comm]
              exact ih hlt (by omega)
          · rw [if_neg hc, if_neg (by simp only [Bool.and_eq_true] at hc ⊢; tauto)]
            exact returns_pure

/-- Trimming the end, one byte at a time. -/
theorem returns_trimSpaceSuffix {s : View UInt8} (h : s.data.length < fuel) :
    ∃ tail, Returns slack (trimSpaceSuffix fuel s) ⟨s.data.rdropWhile isSpace, tail⟩ := by
  induction fuel generalizing s with
  | zero => omega
  | succ fuel ih =>
      obtain ⟨data, tail⟩ := s
      rw [trimSpaceSuffix]
      rcases List.eq_nil_or_concat data with rfl | ⟨data, c, rfl⟩
      · exact ⟨tail, returns_pure⟩
      · rw [List.concat_eq_append] at h ⊢
        have hlast : (data ++ [c])[(View.mk (data ++ [c]) tail).size - 1]? = some c := by
          simp [View.size]
        rw [if_neg (by simp)]
        by_cases hc : isSpace c = true
        · have hcut : (data ++ [c]).take ((View.mk (data ++ [c]) tail).size - 1) = data := by
            simp [View.size]
          obtain ⟨tail', ih⟩ := ih (s := ⟨data,
            (data ++ [c]).drop ((View.mk (data ++ [c]) tail).size - 1) ++ tail⟩)
            (by simp at h; exact h)
          refine ⟨tail', returns_bind (View.returns_index _ hlast) ?_⟩
          rw [if_pos hc, List.rdropWhile_concat_pos _ _ _ hc]
          refine returns_bind (View.returns_removeSuffix _ (by simp)) ?_
          rw [hcut]
          exact ih
        · refine ⟨tail, returns_bind (View.returns_index _ hlast) ?_⟩
          rw [if_neg hc, List.rdropWhile_concat_neg _ _ _ hc]
          exact returns_pure

/-- The signs are skipped up to the first byte that is none.  It has to be looked at, in
the view or behind it. -/
theorem returns_skipSigns {data tail : Bytes}
    (h : data.dropWhile (· = 61) ≠ [] ∨ 0 < slack ∧ ∃ b, tail.head? = some b ∧ b ≠ 61)
    (hfuel : data.length < fuel) :
    Returns slack (skipSigns fuel ⟨61 :: data, tail⟩) ⟨data.dropWhile (· = 61), tail⟩ := by
  induction fuel generalizing data with
  | zero => omega
  | succ fuel ih =>
      rw [skipSigns]
      refine returns_bind (View.returns_removePrefix _ (by simp)) ?_
      rw [List.drop_succ_cons, List.drop_zero]
      cases data with
      | nil =>
          obtain ⟨hslack, b, hb, hne⟩ := h.resolve_left (by simp)
          obtain ⟨k, rfl⟩ : ∃ k, slack = k + 1 := ⟨slack - 1, by omega⟩
          refine returns_bind (View.returns_index_nil hb) ?_
          rw [if_neg hne]
          exact returns_pure
      | cons c data =>
          refine returns_bind (View.returns_index _ (a := c) rfl) ?_
          by_cases hc : c = 61
          · subst hc
            rw [List.dropWhile_cons_of_pos (by decide)] at h ⊢
            rw [if_pos rfl]
            exact ih h (by simpa using hfuel)
          · rw [if_neg hc, List.dropWhile_cons_of_neg (by simpa using hc)]
            exact returns_pure

/-! ## What the call returns -/

theorem length_valueToken_le (s : Bytes) : (valueToken s).length ≤ s.length := by
  induction s with
  | nil => exact le_rfl
  | cons c s ih =>
      rw [valueToken]
      split
      · exact Nat.zero_le _
      · exact Nat.succ_le_succ ih

theorem take_valueToken (s : Bytes) : s.take (valueToken s).length = valueToken s := by
  induction s with
  | nil => rfl
  | cons c s ih =>
      rw [valueToken]
      split
      · rfl
      · rw [List.length_cons, List.take_succ_cons, ih]

theorem returns_consumeValueView (name : Bytes) {s : View UInt8} (h : s.data.length < fuel) :
    Returns slack (consumeValueView fuel name s)
      ((consumeValue name s.data).1, ⟨(consumeValue name s.data).2, s.tail⟩) := by
  have htrim : (s.data.dropWhile isSpace).length ≤ s.data.length := List.length_dropWhile_le ..
  rw [consumeValue, consumeValueView]
  refine returns_bind (returns_trimSpacePrefix h) ?_
  generalize s.data.dropWhile isSpace = data at htrim ⊢
  have hend := length_valueToken_le data
  refine returns_bind (returns_findValueEnd ⟨data, s.tail⟩ (Nat.zero_le _) (by simp; omega)) ?_
  rw [Nat.zero_add, List.drop_zero, View.substr, List.drop_zero, take_valueToken]
  obtain ⟨tail, hvalue⟩ : ∃ tail, Returns slack (trimSpaceSuffix fuel
      ⟨valueToken data, data.drop (0 + (valueToken data).length) ++ s.tail⟩)
      ⟨(valueToken data).rdropWhile isSpace, tail⟩ :=
    returns_trimSpaceSuffix (by dsimp only; omega)
  refine returns_bind hvalue ?_
  refine returns_bind (View.returns_removePrefix ⟨data, s.tail⟩ hend) ?_
  dsimp only
  generalize data.drop (valueToken data).length = rest
  cases rest with
  | nil => exact returns_pure
  | cons c rest =>
      rw [if_neg (List.cons_ne_nil _ _)]
      refine returns_bind (View.returns_index _ (a := c) rfl) ?_
      by_cases hc : c = 59
      · rw [if_pos hc, if_pos (by simpa using hc)]
        exact returns_bind (View.returns_removePrefix _ (by simp)) returns_pure
      · rw [if_neg hc, if_neg (by simpa using hc)]
        exact returns_pure

/-- What follows the name token and the blanks after it, on the bytes alone. -/
def consumeRest (name : Bytes) : Bytes → Option Cookie × Bytes
  | [] => (some ⟨name, []⟩, [])
  | c :: s =>
      if c = 0 || c = 59 then (some ⟨name, []⟩, s)
      else if c = 61 then consumeValue name (s.dropWhile (· = 61))
      else (none, c :: s)

theorem drop_takeWhile (p : UInt8 → Bool) (s : Bytes) :
    s.drop (s.takeWhile p).length = s.dropWhile p := by
  have h := List.takeWhile_append_dropWhile (p := p) (l := s)
  calc s.drop (s.takeWhile p).length
      = (s.takeWhile p ++ s.dropWhile p).drop (s.takeWhile p).length := by rw [h]
    _ = s.dropWhile p := List.drop_left ..

theorem take_takeWhile (p : UInt8 → Bool) (s : Bytes) :
    s.take (s.takeWhile p).length = s.takeWhile p := by
  have h := List.takeWhile_append_dropWhile (p := p) (l := s)
  calc s.take (s.takeWhile p).length
      = (s.takeWhile p ++ s.dropWhile p).take (s.takeWhile p).length := by rw [h]
    _ = s.takeWhile p := List.take_left ..

/-- `consume`, with the blanks in front gone. -/
theorem consume_eq (s : Bytes) :
    consume s =
      let s := s.dropWhile isSpace
      if s = [] then (none, s)
      else if s.takeWhile isNameByte = [] && s.head? ≠ some 61 then
        if s.head? = some 59 then (some {}, s.tail) else (none, s)
      else consumeRest (s.takeWhile isNameByte) ((s.dropWhile isNameByte).dropWhile isSpace) := by
  unfold consume
  simp only [drop_takeWhile]
  generalize s.dropWhile isSpace = s
  split
  · rfl
  · split
    · rfl
    · cases (s.dropWhile isNameByte).dropWhile isSpace <;> rfl

/-- After blanks, a name token and blanks, there are `=` signs up to the end of the view. -/
def SignsToEnd (s : Bytes) : Prop :=
  ((s.dropWhile isSpace).dropWhile isNameByte).dropWhile isSpace ≠ [] ∧
    ∀ c ∈ ((s.dropWhile isSpace).dropWhile isNameByte).dropWhile isSpace, c = 61

instance (s : Bytes) : Decidable (SignsToEnd s) := inferInstanceAs (Decidable (_ ∧ _))

/-- There is something to look at that ends the signs: in the view, or behind it. -/
def Stops (slack : Nat) (s tail : Bytes) : Prop :=
  ¬ SignsToEnd s ∨ 0 < slack ∧ ∃ b, tail.head? = some b ∧ b ≠ 61

/-- The blanks after the name are trimmed, and the rest of the view follows. -/
theorem consumeNamed_eq (data tail : Bytes)
    (h : (data.takeWhile isNameByte).length ≠ data.length) :
    consumeNamed fuel ⟨data, tail⟩ (data.takeWhile isNameByte).length =
      (trimSpacePrefix fuel ⟨data.dropWhile isNameByte, tail⟩ >>=
        consumeAfter fuel (data.takeWhile isNameByte)) := by
  have hle : (data.takeWhile isNameByte).length ≤ data.length :=
    (List.takeWhile_prefix _).length_le
  have hend : (data.takeWhile isNameByte).length +
      (data.length - (data.takeWhile isNameByte).length) = data.length := by omega
  have htake : ∀ n, (data.drop n).take (data.length - n) = data.drop n := fun n =>
    List.take_of_length_le (by rw [List.length_drop])
  rw [consumeNamed, View.substr, View.substr, View.size]
  dsimp only
  rw [if_neg h, List.drop_zero, take_takeWhile, htake, hend, List.drop_length, List.nil_append,
    drop_takeWhile]

theorem returns_consumeAfter (name : Bytes) {data tail : Bytes}
    (hstops : ¬ (data ≠ [] ∧ ∀ c ∈ data, c = 61) ∨
      0 < slack ∧ ∃ b, tail.head? = some b ∧ b ≠ 61)
    (hfuel : data.length < fuel) :
    Returns slack (consumeAfter fuel name ⟨data, tail⟩)
      ((consumeRest name data).1, ⟨(consumeRest name data).2, tail⟩) := by
  rw [consumeAfter]
  cases data with
  | nil => exact returns_pure
  | cons c data =>
      rw [if_neg (List.cons_ne_nil _ _), consumeRest]
      refine returns_bind (View.returns_index _ (a := c) rfl) ?_
      by_cases hend : (decide (c = 0) || decide (c = 59)) = true
      · rw [if_pos hend, if_pos hend]
        exact returns_bind (View.returns_removePrefix _ (by simp)) returns_pure
      rw [if_neg hend, if_neg hend]
      by_cases hc : c = 61
      · subst hc
        rw [if_pos rfl, if_pos rfl]
        have hskip : (data.dropWhile (· = 61)).length ≤ data.length := List.length_dropWhile_le ..
        rw [List.length_cons] at hfuel
        refine returns_bind (returns_skipSigns ?_ (by omega)) ?_
        · refine hstops.imp_left (fun h hnil => h ⟨List.cons_ne_nil _ _, ?_⟩)
          simpa using hnil
        · exact returns_consumeValueView name (by dsimp only; omega)
      · rw [if_neg hc, if_neg hc]
        exact returns_pure

theorem returns_consumeNamed {data tail t : Bytes}
    (ht : t = (data.dropWhile isNameByte).dropWhile isSpace)
    (hstops : ¬ (t ≠ [] ∧ ∀ c ∈ t, c = 61) ∨ 0 < slack ∧ ∃ b, tail.head? = some b ∧ b ≠ 61)
    (hfuel : data.length < fuel) :
    Returns slack (consumeNamed fuel ⟨data, tail⟩ (data.takeWhile isNameByte).length)
      ((consumeRest (data.takeWhile isNameByte) t).1,
        ⟨(consumeRest (data.takeWhile isNameByte) t).2, tail⟩) := by
  have hdrop := drop_takeWhile isNameByte data
  have hrest : (data.dropWhile isNameByte).length ≤ data.length := List.length_dropWhile_le ..
  have hlen : t.length ≤ (data.dropWhile isNameByte).length := ht ▸ List.length_dropWhile_le ..
  by_cases hsize : (data.takeWhile isNameByte).length = data.length
  · -- The name goes up to the end of the view.
    have hnil : t = [] := by rw [ht, ← hdrop, hsize, List.drop_length]; rfl
    rw [consumeNamed, View.substr, List.drop_zero, take_takeWhile]
    dsimp only
    rw [if_pos (show _ = View.size ⟨data, tail⟩ from hsize), hnil]
    refine returns_bind (View.returns_removePrefix _ hsize.le) ?_
    rw [hsize, List.drop_length]
    exact returns_pure
  · rw [consumeNamed_eq data tail hsize]
    refine returns_bind (returns_trimSpacePrefix (by dsimp only; omega)) ?_
    dsimp only
    rw [← ht]
    exact returns_consumeAfter _ hstops (by omega)

/-- On a view that `Stops`, the call returns what it computes on the bytes of the view. -/
theorem returns_consumeView {data tail : Bytes} (hstops : Stops slack data tail)
    (hfuel : data.length < fuel) :
    Returns slack (consumeView fuel ⟨data, tail⟩) ((consume data).1, ⟨(consume data).2, tail⟩) := by
  have htrim : (data.dropWhile isSpace).length ≤ data.length := List.length_dropWhile_le ..
  rw [consumeView, consume_eq]
  refine returns_bind (returns_trimSpacePrefix hfuel) ?_
  unfold Stops SignsToEnd at hstops
  dsimp only
  generalize data.dropWhile isSpace = s at htrim hstops ⊢
  cases s with
  | nil => exact returns_pure
  | cons c s =>
      rw [if_neg (List.cons_ne_nil _ _), if_neg (List.cons_ne_nil _ _)]
      have hlen : (c :: s).length < fuel := by omega
      have hnamed := returns_consumeNamed (t := ((c :: s).dropWhile isNameByte).dropWhile isSpace)
        rfl hstops hlen
      refine returns_bind (returns_findNameEnd _ (Nat.zero_le _) (by dsimp only; omega)) ?_
      rw [Nat.zero_add, List.drop_zero]
      by_cases hempty : (c :: s).takeWhile isNameByte = []
      · rw [if_pos (by rw [hempty]; rfl)]
        refine returns_bind (View.returns_index _ (a := c) rfl) ?_
        by_cases hc : c = 61
        · rw [if_neg (by simpa using hc), if_neg (by simp [hc])]
          exact hnamed
        · have hbail : (decide ((c :: s).takeWhile isNameByte = []) &&
              decide ((c :: s).head? ≠ some 61)) = true := by simp [hempty, hc]
          rw [if_pos hc, if_pos hbail]
          by_cases hsemi : c = 59
          · rw [if_pos hsemi, if_pos (by simpa using hsemi)]
            exact returns_bind (View.returns_removePrefix _ (by simp)) returns_pure
          · rw [if_neg hsemi, if_neg (by simpa using hsemi)]
            exact returns_pure
      · rw [if_neg (by simpa using hempty), if_neg (by simp [hempty])]
        exact hnamed

/-! ## Leaving the view -/

/-- Signs up to the end: the loop looks behind the view, if it looks at all. -/
theorem not_returns_skipSigns {data tail : Bytes} (h : ∀ c ∈ data, c = 61) (r : View UInt8) :
    ¬ Returns 0 (skipSigns fuel ⟨61 :: data, tail⟩) r := by
  induction data generalizing fuel with
  | nil =>
      intro hr
      cases fuel with
      | zero => obtain ⟨log, hrun, -⟩ := hr; cases hrun
      | succ fuel =>
          have hr := hr.after (View.returns_removePrefix _ (by simp))
          obtain ⟨c, hc, -⟩ := hr.of_bind
          exact View.not_returns_index_nil tail c hc
  | cons c data ih =>
      intro hr
      cases fuel with
      | zero => obtain ⟨log, hrun, -⟩ := hr; cases hrun
      | succ fuel =>
          obtain rfl : c = 61 := h c (List.mem_cons_self ..)
          have hr := hr.after (View.returns_removePrefix _ (by simp))
          have hr := hr.after (View.returns_index _ (a := 61) rfl)
          rw [if_pos rfl] at hr
          exact ih (fun c hc => h c (List.mem_cons_of_mem _ hc)) hr

theorem not_returns_consumeNamed {data tail t : Bytes}
    (ht : t = (data.dropWhile isNameByte).dropWhile isSpace) (hne : t ≠ [])
    (hsigns : ∀ c ∈ t, c = 61) (hfuel : data.length < fuel) (r : Option Cookie × View UInt8) :
    ¬ Returns 0 (consumeNamed fuel ⟨data, tail⟩ (data.takeWhile isNameByte).length) r := by
  intro hr
  have hrest : (data.dropWhile isNameByte).length ≤ data.length := List.length_dropWhile_le ..
  have hsize : (data.takeWhile isNameByte).length ≠ data.length := by
    intro hsize
    apply hne
    rw [ht, ← drop_takeWhile isNameByte, hsize, List.drop_length]
    rfl
  rw [consumeNamed_eq data tail hsize] at hr
  have hr := hr.after (returns_trimSpacePrefix (by dsimp only; omega))
  dsimp only at hr
  rw [← ht, consumeAfter] at hr
  cases t with
  | nil => exact hne rfl
  | cons c t =>
      obtain rfl : c = 61 := hsigns c (List.mem_cons_self ..)
      rw [if_neg (List.cons_ne_nil _ _)] at hr
      have hr := hr.after (View.returns_index _ (a := 61) rfl)
      rw [if_neg (by decide), if_pos rfl] at hr
      obtain ⟨v, hv, -⟩ := hr.of_bind
      exact not_returns_skipSigns (fun c hc => hsigns c (List.mem_cons_of_mem _ hc)) v hv

theorem not_returns_consumeView {data tail : Bytes} (h : SignsToEnd data)
    (hfuel : data.length < fuel) (r : Option Cookie × View UInt8) :
    ¬ Returns 0 (consumeView fuel ⟨data, tail⟩) r := by
  intro hr
  have htrim : (data.dropWhile isSpace).length ≤ data.length := List.length_dropWhile_le ..
  have hhead := List.head?_dropWhile_not isSpace data
  have hr := hr.after (returns_trimSpacePrefix hfuel)
  unfold SignsToEnd at h
  dsimp only at hr
  generalize data.dropWhile isSpace = s at htrim h hhead hr
  cases s with
  | nil => exact h.1 rfl
  | cons c s =>
      have hlen : (c :: s).length < fuel := by omega
      have hnamed : ¬ Returns 0 (consumeNamed fuel ⟨c :: s, tail⟩
          ((c :: s).takeWhile isNameByte).length) r :=
        not_returns_consumeNamed rfl h.1 h.2 hlen r
      rw [if_neg (List.cons_ne_nil _ _)] at hr
      have hr := hr.after (returns_findNameEnd _ (Nat.zero_le _) (by dsimp only; omega))
      rw [Nat.zero_add, List.drop_zero] at hr
      by_cases hempty : (c :: s).takeWhile isNameByte = []
      · -- No name, so that the first byte is the first sign.
        have hbyte : isNameByte c = false := by
          by_contra hbyte
          rw [List.takeWhile_cons_of_pos (by simpa using hbyte)] at hempty
          cases hempty
        have hc : c = 61 := by
          apply h.2
          rw [List.dropWhile_cons_of_neg (by simpa using hbyte),
            List.dropWhile_cons_of_neg (by simpa using hhead)]
          exact List.mem_cons_self ..
        rw [if_pos (by rw [hempty]; rfl)] at hr
        have hr := hr.after (View.returns_index _ (a := c) rfl)
        rw [if_neg (by simpa using hc)] at hr
        exact hnamed hr
      · rw [if_neg (by simpa using hempty)] at hr
        exact hnamed hr

/-- The call reads the bytes of its view and nothing else: with enough fuel it returns, every
access is in the view as it is then, and the result is the same whatever is behind it. -/
def ReadsOnlyView (s : Bytes) : Prop :=
  ∃ (n : Nat) (cookie : Option Cookie) (rest : Bytes), ∀ fuel ≥ n, ∀ tail : Bytes,
    Returns 0 (consumeView fuel ⟨s, tail⟩) (cookie, ⟨rest, tail⟩)

/-- The call stays in its view unless `=` signs run up to the end of it. -/
theorem readsOnlyView_iff (s : Bytes) : ReadsOnlyView s ↔ ¬ SignsToEnd s := by
  constructor
  · rintro ⟨n, cookie, rest, h⟩ hsigns
    have hfuel : s.length < n + s.length + 1 := by omega
    exact not_returns_consumeView hsigns hfuel _ (h (n + s.length + 1) (by omega) [61])
  · intro h
    refine ⟨s.length + 1, (consume s).1, (consume s).2, ?_⟩
    intro fuel hfuel tail
    exact returns_consumeView (Or.inl h) hfuel

/-- A name with an empty value at the end of the view. -/
theorem not_readsOnlyView : ¬ ReadsOnlyView (bytes "a=") := by
  rintro ⟨n, cookie, rest, h⟩
  have hsigns : SignsToEnd (bytes "a=") := by decide +kernel
  exact not_returns_consumeView hsigns (show 2 < n + 3 by omega) _ (h (n + 3) (by omega) [61])

/-! ## Progress -/

theorem consumeValue_suffix (name s : Bytes) : (consumeValue name s).2 <:+ s := by
  have htrim : s.dropWhile isSpace <:+ s := List.dropWhile_suffix _
  rw [consumeValue]
  dsimp only
  split
  · exact (List.tail_suffix _).trans ((List.drop_suffix _ _).trans htrim)
  · exact (List.drop_suffix _ _).trans htrim

theorem consumeRest_suffix (name s : Bytes) : (consumeRest name s).2 <:+ s := by
  cases s with
  | nil => exact List.suffix_rfl
  | cons c s =>
      have htail : s <:+ c :: s := List.suffix_cons c s
      rw [consumeRest]
      split
      · exact htail
      · split
        · exact (consumeValue_suffix ..).trans ((List.dropWhile_suffix _).trans htail)
        · exact List.suffix_rfl

/-- What is left of the view is its end. -/
theorem consume_suffix (s : Bytes) : (consume s).2 <:+ s := by
  have htrim : s.dropWhile isSpace <:+ s := List.dropWhile_suffix _
  rw [consume_eq]
  dsimp only
  generalize s.dropWhile isSpace = t at htrim
  refine List.IsSuffix.trans ?_ htrim
  split
  · exact List.suffix_rfl
  · split
    · split
      · exact List.tail_suffix _
      · exact List.suffix_rfl
    · exact (consumeRest_suffix ..).trans
        ((List.dropWhile_suffix _).trans (List.dropWhile_suffix _))

end Cookie

/-! ## The loop over a header -/

/-- The loop of `check_cookie`: the number of its rounds, and the value of the first cookie
named `deflect`. -/
def jarLoop (fuel : Nat) : Nat → View UInt8 → ViewM (Nat × Option Bytes)
  | 0, _ => stuck
  | rounds + 1, cookieJar => do
      let (cookie, cookieJar) ← Cookie.consumeView fuel cookieJar
      match cookie with
      | none => pure (0, none)
      | some cookie =>
          if cookie.name = bytes "deflect" then pure (1, some cookie.value)
          else do
            let (n, value) ← jarLoop fuel rounds cookieJar
            pure (n + 1, value)

/-- A header value is a `std::string`, which is followed by its terminator. -/
def headerView (header : Bytes) : View UInt8 := ⟨header, [0]⟩

theorem returns_consumeView_header {fuel : Nat} {s : Bytes} (h : s.length < fuel) :
    Returns 1 (Cookie.consumeView fuel (headerView s))
      ((Cookie.consume s).1, headerView (Cookie.consume s).2) :=
  Cookie.returns_consumeView (Or.inr ⟨Nat.one_pos, 0, rfl, by decide⟩) h

/-- A cookie of another name is passed over. -/
theorem deflectCookie_of_consume {s rest : Bytes} {c : Cookie}
    (h : Cookie.consume s = (some c, rest)) (hname : c.name ≠ bytes "deflect") :
    deflectCookie s = deflectCookie rest := by
  rw [deflectCookie, findDeflect, h]
  dsimp only
  rw [if_neg hname]
  exact findDeflect_eq (Cookie.consume_length_lt h)

theorem returns_jarLoop (s : Bytes) :
    ∃ n ≤ s.length, ∀ fuel rounds, s.length < fuel → s.length < rounds →
      Returns 1 (jarLoop fuel rounds (headerView s)) (n, deflectCookie s) := by
  -- On the length of the view, which every round shortens.
  induction hlen : s.length using Nat.strongRecOn generalizing s with
  | ind k ih =>
      subst hlen
      cases hconsume : Cookie.consume s with
      | mk cookie rest =>
          have hcall : ∀ fuel, s.length < fuel →
              Returns 1 (Cookie.consumeView fuel (headerView s)) (cookie, headerView rest) := by
            intro fuel hfuel
            have h := returns_consumeView_header hfuel
            rwa [hconsume] at h
          cases cookie with
          | none =>
              have hnone : deflectCookie s = none := by rw [deflectCookie, findDeflect, hconsume]
              refine ⟨0, Nat.zero_le _, ?_⟩
              intro fuel rounds hfuel hrounds
              obtain ⟨m, rfl⟩ : ∃ m, rounds = m + 1 := ⟨rounds - 1, by omega⟩
              rw [hnone]
              exact returns_bind (hcall fuel hfuel) returns_pure
          | some cookie =>
              have hlt := Cookie.consume_length_lt hconsume
              by_cases hname : cookie.name = bytes "deflect"
              · have hfound : deflectCookie s = some cookie.value := by
                  rw [deflectCookie, findDeflect, hconsume]
                  exact if_pos hname
                refine ⟨1, by omega, ?_⟩
                intro fuel rounds hfuel hrounds
                obtain ⟨m, rfl⟩ : ∃ m, rounds = m + 1 := ⟨rounds - 1, by omega⟩
                rw [hfound]
                refine returns_bind (hcall fuel hfuel) ?_
                dsimp only
                rw [if_pos hname]
                exact returns_pure
              · obtain ⟨n, hn, hloop⟩ := ih rest.length hlt rest rfl
                refine ⟨n + 1, by omega, ?_⟩
                intro fuel rounds hfuel hrounds
                obtain ⟨m, rfl⟩ : ∃ m, rounds = m + 1 := ⟨rounds - 1, by omega⟩
                rw [deflectCookie_of_consume hconsume hname]
                refine returns_bind (hcall fuel hfuel) ?_
                dsimp only
                rw [if_neg hname]
                exact returns_bind (hloop fuel m (by omega) (by omega)) returns_pure

/-- On the value of a header every call returns, whatever the bytes of the value are.  A call
that returns a cookie leaves a proper end of its view, and so the loop makes at most as many
rounds as the header has bytes. -/
theorem jarLoop_terminates (header : Bytes) :
    (∀ s : Bytes, ∃ cookie rest,
      (∀ fuel > s.length,
        Returns 1 (Cookie.consumeView fuel (headerView s)) (cookie, headerView rest)) ∧
      (cookie ≠ none → rest <:+ s ∧ rest.length < s.length)) ∧
    ∃ n ≤ header.length, ∀ fuel > header.length,
      Returns 1 (jarLoop fuel fuel (headerView header)) (n, deflectCookie header) := by
  constructor
  · intro s
    refine ⟨_, _, fun fuel hfuel => returns_consumeView_header hfuel, ?_⟩
    intro hcookie
    obtain ⟨cookie, hsome⟩ := Option.ne_none_iff_exists'.mp hcookie
    exact ⟨Cookie.consume_suffix s, Cookie.consume_length_lt (Prod.ext hsome rfl)⟩
  · obtain ⟨n, hn, hloop⟩ := returns_jarLoop header
    exact ⟨n, hn, fun fuel hfuel => hloop fuel fuel hfuel hfuel⟩

end Banjax
