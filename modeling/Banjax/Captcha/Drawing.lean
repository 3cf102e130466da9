import Banjax.Captcha.File

/-!
# The accesses of a drawing

All accesses of `captcha` are inside their arrays but one: a pixel of a letter reads `swr` at
its column in the picture, and the picture has 200 columns.  A letter starts where the one
before it ends, so that five wide letters reach behind the last column.  Whether they do
depends on the letters only (`captcha_cases`).

Where they do not, the picture has two colours.  The reader of the file then gets the picture
itself (`captcha_file`).
-/

namespace Banjax.Captcha

open Lib

/-! ## The arrays -/

/-- The picture has two colours. -/
def Bilevel (im : Image) : Prop := ∀ c ∈ im.toList, c = 0 ∨ c = 0xff

theorem readAt_eq {α : Type} {overrun : Int → Overrun} {array : List α} {n : Nat} {a : α}
    (ha : array[n]? = some a) : readAt overrun array n = .ok a := by
  rw [readAt, if_pos (by omega), Int.toNat_natCast, ha]

/-- A read inside the array gives one of its elements. -/
theorem readAt_ok {α : Type} (overrun : Int → Overrun) (array : List α) {i : Int} (hi : 0 ≤ i)
    (hlt : i < array.length) : ∃ a ∈ array, readAt overrun array i = .ok a := by
  obtain ⟨n, rfl⟩ := Int.eq_ofNat_of_zero_le hi
  have hn : n < array.length := by omega
  exact ⟨array[n], List.getElem_mem hn, readAt_eq (List.getElem?_eq_getElem hn)⟩

theorem readAt_error {α : Type} (overrun : Int → Overrun) {array : List α} {i : Int}
    (hi : array.length ≤ i) : readAt overrun array i = .error (overrun i) := by
  obtain ⟨n, rfl⟩ := Int.eq_ofNat_of_zero_le (a := i) (by omega)
  rw [readAt, if_pos (by omega), Int.toNat_natCast, List.getElem?_eq_none (by omega)]

theorem image_read_ok (im : Image) {i : Int} (hi : 0 ≤ i) (hlt : i < 14000) :
    ∃ c, im.read i = .ok c :=
  ⟨_, if_pos ⟨hi, hlt⟩⟩

theorem image_write_ok (im : Image) {i : Int} (c : UInt8) (hi : 0 ≤ i) (hlt : i < 14000) :
    im.write i c = .ok (im.setIfInBounds i.toNat c) :=
  if_pos ⟨hi, hlt⟩

theorem plot_ok (im : Image) {x : Int} (c : UInt8) (hx : 0 ≤ x) : ∃ im', im.plot x c = .ok im' := by
  rw [Image.plot]
  split
  · exact ⟨_, image_write_ok im c hx (by omega)⟩
  · exact ⟨_, rfl⟩

theorem Bilevel.set {im : Image} (h : Bilevel im) (i : Nat) {c : UInt8} (hc : c = 0 ∨ c = 0xff) :
    Bilevel (im.setIfInBounds i c) := by
  intro b hb
  rw [Vector.toList_setIfInBounds] at hb
  rcases List.mem_or_eq_of_mem_set hb with hb | rfl
  · exact h b hb
  · exact hc

/-- Writes inside the picture. -/
theorem writeAll_ok (im : Image) (places : List Int) (c : UInt8)
    (h : ∀ i ∈ places, 0 ≤ i ∧ i < 14000) :
    ∃ im', im.writeAll places c = .ok im' ∧
      ((c = 0 ∨ c = 0xff) → Bilevel im → Bilevel im') := by
  induction places generalizing im with
  | nil => exact ⟨im, rfl, fun _ hb => hb⟩
  | cons i places ih =>
      obtain ⟨hi, hlt⟩ := h i (List.mem_cons_self ..)
      obtain ⟨im', hrest, hbi⟩ := ih (im.setIfInBounds i.toNat c)
        fun j hj => h j (List.mem_cons_of_mem _ hj)
      refine ⟨im', ?_, fun hc hb => hbi hc (hb.set _ hc)⟩
      rw [Image.writeAll, List.foldlM_cons, image_write_ok im c hi hlt, ok_bind]
      exact hrest

/-! ## The wave -/

/-- An index of the wave, made smaller than its length. -/
theorem wrap_bounds {sk : Int} (h : 0 ≤ sk) :
    0 ≤ (if 200 ≤ sk then sk.tmod 200 else sk) ∧ (if 200 ≤ sk then sk.tmod 200 else sk) < 200 := by
  split
  · exact ⟨Int.tmod_nonneg _ h, Int.tmod_lt_of_pos _ (by decide)⟩
  · exact ⟨h, by omega⟩

/-- The wave moves a pixel by at most seven rows and one column. -/
theorem sw_bounds : ∀ a ∈ sw, -7 ≤ a.tdiv 16 ∧ a.tdiv 16 ≤ 7 ∧ -1 ≤ a.tdiv 70 ∧ a.tdiv 70 ≤ 1 := by
  decide +kernel

theorem length_sw : sw.length = 200 := by decide +kernel

theorem sw_ok {sk : Int} (h : 0 ≤ sk) :
    ∃ a ∈ sw, readAt .readTable sw (if 200 ≤ sk then sk.tmod 200 else sk) = .ok a := by
  obtain ⟨h0, hlt⟩ := wrap_bounds h
  exact readAt_ok .readTable sw h0 (by rw [length_sw]; exact hlt)

/-- `swr` is read behind its end. -/
def ReadsBehind {α : Type} (m : Except Overrun α) : Prop :=
  ∃ i : Int, 200 ≤ i ∧ m = .error (.readSwr i)

theorem ReadsBehind.bind {α β : Type} {m : Except Overrun α} (h : ReadsBehind m)
    (f : α → Except Overrun β) : ReadsBehind (m >>= f) := by
  obtain ⟨i, hi, rfl⟩ := h
  exact ⟨i, hi, rfl⟩

/-! ## A letter -/

/-- The rows and columns of the pixels of a script. -/
def cells : List Int → Nat → Nat → List (Nat × Nat)
  | [], _, _ => []
  | p :: script, row, col =>
      if p = -101 then []
      else if p < 0 then
        if p = -100 then cells script (row + 1) 0 else cells script row (col + (-p).toNat)
      else (row, col) :: cells script row (col + 1)

/-- The last column of a letter. -/
def lastColumn (script : List Int) : Nat := ((cells script 0 0).map Prod.snd).foldl max 0

/-- The last columns of the letters. -/
def lastColumns : List Nat :=
  [22, 23, 19, 24, 22, 16, 22, 24, 9, 11, 26, 11, 39, 25, 22, 23, 23, 18, 15, 15, 25, 25, 37,
    28, 25]

/-- A letter of the font: its script ends, has a pixel and less than 200 rows. -/
structure Drawable (script : List Int) : Prop where
  ends : -101 ∈ script
  inked : cells script 0 0 ≠ []
  rows : ∀ cell ∈ cells script 0 0, cell.1 < 200

/-- The pen is at a row and a column of a letter. -/
structure Pen.At (pos row col : Nat) (s : Pen) : Prop where
  r : s.r = 3200 + pos + 200 * row
  i : s.i = s.r + col
  row : s.row = row
  sk1 : 0 ≤ s.sk1
  sk2 : 0 ≤ s.sk2

theorem Pen.start_at (noise : Noise) (pos : Nat) (im : Image) :
    (Pen.start noise pos im).At pos 0 0 where
  r := by
    dsimp only [Pen.start]
    omega
  i := (Int.add_zero _).symm
  row := rfl
  sk1 := by
    dsimp only [Pen.start]
    omega
  sk2 := by
    dsimp only [Pen.start]
    omega

section Letter

variable {swr : Vector UInt8 200} {s1 : UInt8} {pos row col : Nat} {s : Pen}

/-- A pixel in front of the last column of the picture. -/
theorem Pen.At.pixel (h : s.At pos row col) (swr : Vector UInt8 200) (p : Int) (hrow : row < 200)
    (hcol : pos + col < 200) :
    ∃ t, s.pixel swr pos p = .ok t ∧ t.At pos row (col + 1) ∧
      t.mpos = max s.mpos ((pos + col : Nat) : Int) := by
  obtain ⟨a, ha, hread1⟩ := sw_ok h.sk1
  obtain ⟨b, hb, hread2⟩ := sw_ok h.sk2
  have hplace : (pos : Int) + s.i - s.r = ((pos + col : Nat) : Int) := by rw [h.i]; omega
  obtain ⟨step1, -, hstep1⟩ := readAt_ok .readSwr swr.toList (i := ((pos + col : Nat) : Int))
    (by omega) (by simp; omega)
  obtain ⟨step2, -, hstep2⟩ := readAt_ok .readSwr swr.toList (i := (row : Int))
    (by omega) (by simp; omega)
  have hx : 0 ≤ s.i + a.tdiv 16 * 200 + b.tdiv 70 := by
    have := sw_bounds a ha
    have := sw_bounds b hb
    rw [h.i, h.r]
    omega
  obtain ⟨im, him⟩ := plot_ok s.im (16 * p).toNat.toUInt8 hx
  have hwrap1 := (wrap_bounds h.sk1).1
  have hwrap2 := (wrap_bounds h.sk2).1
  refine ⟨{ s with
      im := im
      i := s.i + 1
      sk1 := (if 200 ≤ s.sk1 then s.sk1.tmod 200 else s.sk1) + (((step1 &&& 0x1).toNat : Int) + 1)
      sk2 := (if 200 ≤ s.sk2 then s.sk2.tmod 200 else s.sk2) + ((step2 &&& 0x1).toNat : Int)
      mpos := if ((pos + col : Nat) : Int) < s.mpos then s.mpos else ((pos + col : Nat) : Int) },
    ?_, ⟨h.r, ?_, h.row, ?_, ?_⟩, ?_⟩
  · rw [Pen.pixel]
    simp only [hread1, hread2, hplace, hstep1, h.row, hstep2, him, ok_bind]
    rfl
  · dsimp only
    rw [h.i]
    omega
  · exact Int.add_nonneg hwrap1 (by omega)
  · exact Int.add_nonneg hwrap2 (by omega)
  · dsimp only
    split <;> omega

/-- A pixel behind the last column. -/
theorem Pen.At.pixel_error (h : s.At pos row col) (p : Int) (hcol : 200 ≤ pos + col) :
    ReadsBehind (s.pixel swr pos p) := by
  obtain ⟨a, -, hread⟩ := sw_ok h.sk1
  have hplace : (pos : Int) + s.i - s.r = ((pos + col : Nat) : Int) := by rw [h.i]; omega
  have hstep : readAt .readSwr swr.toList ((pos + col : Nat) : Int) = .error (.readSwr _) :=
    readAt_error .readSwr (by simp; omega)
  refine ⟨((pos + col : Nat) : Int), by omega, ?_⟩
  rw [Pen.pixel]
  simp only [hread, hplace, hstep, ok_bind, error_bind]

/-- The columns of the picture in which a script has pixels. -/
def columns (pos : Nat) (script : List Int) (row col : Nat) : List Nat :=
  (cells script row col).map fun cell => pos + cell.2

/-- The loop draws all pixels, or it meets one behind the last column. -/
theorem Pen.draw_cases (swr : Vector UInt8 200) (s1 : UInt8) {script : List Int} {m : Nat}
    (hend : -101 ∈ script)
    (hrows : ∀ cell ∈ cells script row col, cell.1 < 200) (h : s.At pos row col)
    (hm : s.mpos = m) :
    (∃ t, Pen.draw swr s1 pos script s = .ok t ∧
        t.mpos = ((columns pos script row col).foldl max m : Nat) ∧
        ∀ x ∈ columns pos script row col, x < 200) ∨
      (ReadsBehind (Pen.draw swr s1 pos script s) ∧
        ∃ x ∈ columns pos script row col, 200 ≤ x) := by
  induction script generalizing row col s m with
  | nil => cases hend
  | cons p script ih =>
      rw [columns, cells] at *
      rw [Pen.draw]
      split at hrows
      · next hp =>
          rw [if_pos hp, if_pos hp]
          exact .inl ⟨s, rfl, hm, by simp⟩
      · next hp =>
          have hrest : -101 ∈ script := (List.mem_cons.mp hend).resolve_left (Ne.symm hp)
          rw [if_neg hp, if_neg hp, Pen.turn]
          split at hrows
          · next hneg =>
              rw [if_pos hneg, if_pos hneg]
              split at hrows
              · next hrow =>
                  rw [if_pos hrow, if_pos hrow, ok_bind]
                  refine ih hrest hrows ⟨?_, ?_, ?_, ?_, h.sk2⟩ hm
                  · dsimp only
                    rw [h.r]
                    omega
                  · dsimp only
                    omega
                  · dsimp only
                    rw [h.row]
                    omega
                  · dsimp only
                    omega
              · next hrow =>
                  rw [if_neg hrow, if_neg hrow, ok_bind]
                  refine ih hrest hrows ⟨h.r, ?_, h.row, h.sk1, h.sk2⟩ hm
                  dsimp only
                  rw [h.i]
                  omega
          · next hneg =>
              rw [if_neg hneg, if_neg hneg]
              by_cases hcol : pos + col < 200
              · obtain ⟨t, hpixel, ht, hmpos⟩ := h.pixel swr p
                  (hrows _ (List.mem_cons_self ..)) hcol
                rw [hpixel, ok_bind, List.map_cons, List.foldl_cons]
                rcases ih hrest (fun cell hcell => hrows cell (List.mem_cons_of_mem _ hcell)) ht
                    (m := max m (pos + col)) (by rw [hmpos, hm]; omega) with
                  ⟨u, hdraw, hu, hall⟩ | ⟨hdraw, x, hx, hlarge⟩
                · refine .inl ⟨u, hdraw, hu, ?_⟩
                  rintro x hx
                  rcases List.mem_cons.mp hx with rfl | hx
                  · exact hcol
                  · exact hall x hx
                · exact .inr ⟨hdraw, x, List.mem_cons_of_mem _ hx, hlarge⟩
              · rw [List.map_cons]
                exact .inr ⟨(h.pixel_error p (by omega)).bind _, _, List.mem_cons_self .., by omega⟩

end Letter

/-! ### The font -/

theorem drawable_of_mem : ∀ script ∈ lt, Drawable script := by
  have hall : ∀ script ∈ lt, -101 ∈ script ∧ cells script 0 0 ≠ [] ∧
      ∀ cell ∈ cells script 0 0, cell.1 < 200 := by
    decide +kernel
  exact fun script h => ⟨(hall script h).1, (hall script h).2.1, (hall script h).2.2⟩

theorem lastColumns_eq : lt.map lastColumn = lastColumns := by decide +kernel

theorem foldl_max_add (pos k : Nat) (l : List Nat) :
    (l.map (pos + ·)).foldl max (pos + k) = pos + l.foldl max k := by
  induction l generalizing k with
  | nil => rfl
  | cons x l ih => rw [List.map_cons, List.foldl_cons, List.foldl_cons, Nat.add_max_add_left, ih]

theorem foldl_max_lt_iff (n k : Nat) (l : List Nat) :
    l.foldl max k < n ↔ k < n ∧ ∀ x ∈ l, x < n := by
  induction l generalizing k with
  | nil => simp
  | cons x l ih =>
      rw [List.foldl_cons, ih, max_lt_iff, List.forall_mem_cons, and_assoc]

/-- The width of a letter of the font. -/
def width (n : UInt8) : Nat := lastColumns.getD n.toNat 0

/-- A letter is drawn, and the next one starts at its last column, or it does not fit. -/
theorem letter_cases (noise : Noise) {n : UInt8} (hn : n.toNat < 25) (pos : Nat) (im : Image) :
    (∃ im', letter noise n pos im = .ok (((pos + width n : Nat) : Int), im') ∧
        pos + width n < 200) ∨
      (ReadsBehind (letter noise n pos im) ∧ 200 ≤ pos + width n) := by
  have hlen : lt.length = 25 := rfl
  obtain ⟨script, hscript⟩ : ∃ script, lt[n.toNat]? = some script :=
    ⟨_, List.getElem?_eq_getElem (by omega)⟩
  have hwidth : width n = lastColumn script := by
    rw [width, ← lastColumns_eq, List.getD_eq_getElem?_getD, List.getElem?_map, hscript]
    rfl
  have hdraw := drawable_of_mem script (List.mem_of_getElem? hscript)
  have hcols : (columns pos script 0 0).foldl max pos = pos + width n := by
    rw [columns, hwidth, lastColumn, ← foldl_max_add, List.map_map]
    rfl
  have hfits : (∀ x ∈ columns pos script 0 0, x < 200) ↔ pos + width n < 200 := by
    rw [← hcols, foldl_max_lt_iff]
    refine ⟨fun h => ⟨?_, h⟩, fun h => h.2⟩
    obtain ⟨cell, hcell⟩ := List.exists_mem_of_ne_nil _ hdraw.inked
    have := h (pos + cell.2) (List.mem_map.mpr ⟨cell, hcell, rfl⟩)
    omega
  rw [letter, readAt_eq hscript, ok_bind]
  rcases Pen.draw_cases noise.swr noise.s1 (m := pos) hdraw.ends hdraw.rows
      (Pen.start_at noise pos im) rfl with
    ⟨t, hrun, hmpos, hall⟩ | ⟨hrun, x, hx, hlarge⟩
  · rw [hrun, ok_bind]
    refine .inl ⟨t.im, ?_, hfits.mp hall⟩
    rw [hmpos, hcols]
    rfl
  · refine .inr ⟨hrun.bind _, ?_⟩
    by_contra hlt
    exact absurd (hfits.mpr (by omega) x hx) (by omega)

/-- Letters one behind the other. -/
theorem letters_cases (noise : Noise) (l : List UInt8) (hl : ∀ n ∈ l, n.toNat < 25) (pos : Nat)
    (im : Image) :
    (∃ s, l.foldlM (fun (s : Int × Image) n => letter noise n s.1 s.2) ((pos : Int), im) = .ok s ∧
        (l ≠ [] → pos + (l.map width).sum < 200)) ∨
      (ReadsBehind
          (l.foldlM (fun (s : Int × Image) n => letter noise n s.1 s.2) ((pos : Int), im)) ∧
        200 ≤ pos + (l.map width).sum) := by
  induction l generalizing pos im with
  | nil => exact .inl ⟨_, rfl, by simp⟩
  | cons n l ih =>
      rw [List.foldlM_cons, List.map_cons, List.sum_cons, ← Nat.add_assoc]
      rcases letter_cases noise (hl n (List.mem_cons_self ..)) pos im with
        ⟨im', hletter, hfits⟩ | ⟨hletter, hlarge⟩
      · rw [hletter, ok_bind]
        rcases ih (fun k hk => hl k (List.mem_cons_of_mem _ hk)) (pos + width n) im' with
          ⟨s, hrest, hsum⟩ | herror
        · refine .inl ⟨s, hrest, fun _ => ?_⟩
          cases l with
          | nil => simpa using hfits
          | cons k l => exact hsum (by simp)
        · exact .inr herror
      · exact .inr ⟨hletter.bind _, by omega⟩

/-! ## The rest of the picture -/

theorem dots_ok (dr : Vector UInt32 100) (im : Image) : ∃ im', dots dr im = .ok im' := by
  rw [dots]
  generalize dr.toList = values
  induction values generalizing im with
  | nil => exact ⟨im, rfl⟩
  | cons v values ih =>
      have hv : (v % (200 * 67)).toNat < 13400 := by
        rw [UInt32.toNat_mod]
        exact Nat.mod_lt _ (by decide)
      obtain ⟨im', hdot, -⟩ := writeAll_ok im [((v % (200 * 67)).toNat : Int),
        (v % (200 * 67)).toNat + 1, (v % (200 * 67)).toNat + 2, (v % (200 * 67)).toNat + 200,
        (v % (200 * 67)).toNat + 201, (v % (200 * 67)).toNat + 202] 0xff (by
          simp only [List.mem_cons, List.not_mem_nil, or_false]
          rintro i (rfl | rfl | rfl | rfl | rfl | rfl) <;> omega)
      rw [List.foldlM_cons, hdot, ok_bind]
      exact ih im'

/-- Two loops, one inside the other, that move a pointer by one at every turn. -/
theorem pointer_loops (turn : Int × Image → Except Overrun (Int × Image)) {P : Image → Prop}
    (rows cols : Nat) (im : Image) (h0 : P im)
    (hturn : ∀ i < cols * rows, ∀ im, P im →
      ∃ im', turn ((i : Int), im) = .ok ((i : Int) + 1, im') ∧ P im') :
    ∃ s, (List.range rows).foldlM (fun s _ => (List.range cols).foldlM (fun s _ => turn s) s)
      ((0 : Int), im) = .ok s ∧ P s.2 := by
  obtain ⟨t, hrun, -, ht⟩ := foldlM_range
    (fun s (_ : Nat) => (List.range cols).foldlM (fun s (_ : Nat) => turn s) s)
    (P := fun y s => s.1 = (cols * y : Nat) ∧ P s.2) (s := ((0 : Int), im)) rows ⟨rfl, h0⟩ (by
      rintro y hy ⟨i, im⟩ ⟨hi, hP⟩
      obtain rfl : i = (cols * y : Nat) := hi
      obtain ⟨t, hrow, hti, htP⟩ := foldlM_range (fun s (_ : Nat) => turn s)
        (P := fun x s => s.1 = (cols * y + x : Nat) ∧ P s.2) (s := (((cols * y : Nat) : Int), im))
        cols ⟨rfl, hP⟩ (by
          rintro x hx ⟨i, im⟩ ⟨hi, hP⟩
          obtain rfl : i = (cols * y + x : Nat) := hi
          have hlt : cols * y + x < cols * rows := by
            have := Nat.mul_le_mul_left cols (show y + 1 ≤ rows from hy)
            rw [Nat.mul_succ] at this
            omega
          obtain ⟨im', hrun, hP'⟩ := hturn _ hlt im hP
          exact ⟨_, hrun, by push_cast; omega, hP'⟩)
      exact ⟨t, hrow, by rw [hti, Nat.mul_succ], htP⟩)
  exact ⟨t, hrun, ht⟩

theorem blur_ok (im : Image) : ∃ im', blur im = .ok im' := by
  obtain ⟨s, hrun, -⟩ := pointer_loops blurAt (P := fun _ => True) 68 198 im trivial (by
    intro i hi im _
    obtain ⟨c11, h11⟩ := image_read_ok im (i := i) (by omega) (by omega)
    obtain ⟨c12, h12⟩ := image_read_ok im (i := (i : Int) + 1) (by omega) (by omega)
    obtain ⟨c21, h21⟩ := image_read_ok im (i := (i : Int) + 200) (by omega) (by omega)
    obtain ⟨c22, h22⟩ := image_read_ok im (i := (i : Int) + 201) (by omega) (by omega)
    rw [blurAt, h11, ok_bind, h12, ok_bind, h21, ok_bind, h22, ok_bind,
      image_write_ok im _ (by omega) (by omega), ok_bind]
    exact ⟨_, rfl, trivial⟩)
  exact ⟨s.2, by rw [blur, hrun]; rfl⟩

theorem edge_ok {om : Image} (hb : Bilevel om) (c0 c1 : UInt8) {o : Int} (ho : 0 ≤ o)
    (hlt : o + 1 < 14000) : ∃ om', edge c0 c1 o om = .ok om' ∧ Bilevel om' := by
  obtain ⟨om', hwrite, hbi⟩ := writeAll_ok om [o, o + 1] 0 (by
    simp only [List.mem_cons, List.not_mem_nil, or_false]
    rintro i (rfl | rfl) <;> omega)
  rw [edge]
  split
  · exact ⟨om', hwrite, hbi (.inl rfl) hb⟩
  · split
    · exact ⟨om', hwrite, hbi (.inl rfl) hb⟩
    · exact ⟨om, rfl, hb⟩

theorem filter_ok (im : Image) : ∃ im', filter im = .ok im' ∧ Bilevel im' := by
  have hwhite : Bilevel blank := by
    intro c hc
    rw [blank, Vector.toList_replicate] at hc
    exact .inr (List.eq_of_mem_replicate hc)
  obtain ⟨s, hrun, hb⟩ := pointer_loops (filterAt im) (P := Bilevel) 70 192 _ hwhite (by
    intro i hi om hom
    obtain ⟨c0, h0⟩ := image_read_ok im (i := i) (by omega) (by omega)
    obtain ⟨c1, h1⟩ := image_read_ok im (i := (i : Int) + 1) (by omega) (by omega)
    obtain ⟨om', hedge, hbi⟩ := edge_ok hom c0 c1 (o := i) (by omega) (by omega)
    rw [filterAt]
    simp only [h0, h1, hedge, ok_bind]
    exact ⟨om', rfl, hbi⟩)
  exact ⟨s.2, by rw [filter, hrun]; rfl, hb⟩

theorem line_ok (swr : Vector UInt8 200) (s1 : UInt8) {im : Image} (hb : Bilevel im) :
    ∃ im', line swr s1 im = .ok im' ∧ Bilevel im' := by
  obtain ⟨s, hrun, -, hbi⟩ := foldlM_range (lineAt swr)
    (P := fun _ s => 0 ≤ s.1 ∧ Bilevel s.2) (s := ((s1.toNat : Int), im)) 199 ⟨by omega, hb⟩ (by
      rintro x hx ⟨sk1, im⟩ ⟨hsk, hb⟩
      obtain ⟨a, ha, hread⟩ := sw_ok hsk
      obtain ⟨step, -, hstep⟩ := readAt_ok .readSwr swr.toList (i := (x : Int)) (by omega)
        (by simp; omega)
      have hskew := sw_bounds a ha
      obtain ⟨im', hwrite, hbi⟩ := writeAll_ok im [200 * (45 + a.tdiv 16) + x,
        200 * (45 + a.tdiv 16) + x + 1, 200 * (45 + a.tdiv 16) + x + 200,
        200 * (45 + a.tdiv 16) + x + 201] 0 (by
          simp only [List.mem_cons, List.not_mem_nil, or_false]
          rintro i (rfl | rfl | rfl | rfl) <;> omega)
      rw [lineAt]
      simp only [hread, hstep, hwrite, ok_bind]
      exact ⟨_, rfl, Int.add_nonneg (wrap_bounds hsk).1 (by omega), hbi (.inl rfl) hb⟩)
  exact ⟨s.2, by rw [line, hrun]; rfl, hbi⟩

/-! ## The whole -/

/-- The letters of a picture, unless they are too wide. -/
theorem drawLetters_cases (noise : Noise) {l : List UInt8} (hl : ∀ n ∈ l, n.toNat < 25)
    (hne : l ≠ []) (im : Image) :
    (∃ im', drawLetters noise l im = .ok im' ∧ 30 + (l.map width).sum < 200) ∨
      (ReadsBehind (drawLetters noise l im) ∧ 200 ≤ 30 + (l.map width).sum) := by
  have hletters := letters_cases noise l hl 30 im
  rw [Nat.cast_ofNat] at hletters
  rw [drawLetters]
  rcases hletters with ⟨s, hrun, hfits⟩ | ⟨hrun, hlarge⟩
  · rw [hrun, ok_bind]
    exact .inl ⟨s.2, rfl, hfits hne⟩
  · exact .inr ⟨hrun.bind _, hlarge⟩

/-- The picture of some letters, unless they are too wide. -/
theorem picture_cases (noise : Noise) {l : List UInt8} (hl : ∀ n ∈ l, n.toNat < 25) (hne : l ≠ []) :
    (∃ im, picture noise l = .ok im ∧ Bilevel im ∧ 30 + (l.map width).sum < 200) ∨
      (ReadsBehind (picture noise l) ∧ 200 ≤ 30 + (l.map width).sum) := by
  rw [picture]
  rcases drawLetters_cases noise hl hne blank with ⟨im, hrun, hfits⟩ | ⟨hrun, hlarge⟩
  · obtain ⟨im₁, hdots⟩ := dots_ok noise.dr im
    obtain ⟨im₂, hblur⟩ := blur_ok im₁
    obtain ⟨im₃, hfilter, hb⟩ := filter_ok im₂
    obtain ⟨im₄, hline, hb'⟩ := line_ok noise.swr noise.s1 hb
    refine .inl ⟨im₄, ?_, hb', hfits⟩
    rw [hrun, ok_bind, hdots, ok_bind, hblur, ok_bind, hfilter, ok_bind, hline]
  · exact .inr ⟨hrun.bind _, hlarge⟩

/-- The columns of the letters that random bytes choose. -/
def span (random : Vector UInt8 5) : Nat := (random.toList.map fun b => width (b % 25)).sum

/-- What `captcha` does when it chooses the letters. -/
theorem captcha_cases (random : Vector UInt8 5) (noise memory : Noise) :
    (∃ im, captcha random noise memory (Vector.replicate 6 0) = .ok (im, captchaText random) ∧
        Bilevel im ∧ span random < 170) ∨
      (ReadsBehind (captcha random noise memory (Vector.replicate 6 0)) ∧
        170 ≤ span random) := by
  have hmod : ∀ b : UInt8, (b % 25).toNat = b.toNat % 25 := fun b => by rw [UInt8.toNat_mod]; rfl
  have hl : ∀ n ∈ random.toList.map (· % 25), n.toNat < 25 := by
    intro n hn
    obtain ⟨b, _, rfl⟩ := List.mem_map.mp hn
    rw [hmod]
    exact Nat.mod_lt _ (by decide)
  have hne : random.toList.map (· % 25) ≠ [] := by simp
  have htext : (random.toList.map (· % 25)).mapM (fun n => readAt .readTable letters n.toNat) =
      .ok (captchaText random) := by
    rw [captchaText, List.mapM_map]
    refine mapM_eq_ok fun b _ => ?_
    have hlen : letters.length = 26 := by decide +kernel
    have hlt : b.toNat % 25 < letters.length := by omega
    rw [Function.comp_apply, hmod, List.getD_eq_getElem?_getD, List.getElem?_eq_getElem hlt]
    exact readAt_eq (List.getElem?_eq_getElem hlt)
  have hspan : ((random.toList.map (· % 25)).map width).sum = span random := by
    rw [span, List.map_map]
    rfl
  rw [captcha, if_pos rfl, if_pos rfl]
  rcases picture_cases noise hl hne with ⟨im, hpic, hb, hfits⟩ | ⟨hpic, hlarge⟩
  · refine .inl ⟨im, ?_, hb, by omega⟩
    rw [hpic, ok_bind, htext]
    rfl
  · exact .inr ⟨hpic.bind _, by omega⟩

/-- `captcha` stays inside its arrays exactly when its letters have less than 170 columns,
whatever the other random bytes are.  Otherwise it reads `swr` behind its end. -/
theorem captcha_inBounds_iff (random : Vector UInt8 5) (noise memory : Noise) :
    ((∃ im text, captcha random noise memory (Vector.replicate 6 0) = .ok (im, text)) ↔
        span random < 170) ∧
      (¬ span random < 170 → ∃ i : Int, 200 ≤ i ∧
        captcha random noise memory (Vector.replicate 6 0) = .error (.readSwr i)) := by
  rcases captcha_cases random noise memory with ⟨im, hrun, -, hfits⟩ | ⟨hbehind, hlarge⟩
  · exact ⟨iff_of_true ⟨im, _, hrun⟩ hfits, fun h => absurd hfits h⟩
  · refine ⟨iff_of_false ?_ (by omega), fun _ => hbehind⟩
    rintro ⟨im, text, hok⟩
    obtain ⟨i, -, hrun⟩ := hbehind
    rw [hrun] at hok
    cases hok

/-! ## The file of a captcha -/

/-- A picture with two colours loses nothing. -/
theorem Bilevel.greys {im : Image} (h : Bilevel im) :
    (im.toList.map fun c : UInt8 => grey (shade (c >>> 4))) = im.toList.map grey := by
  refine List.map_congr_left fun c hc => ?_
  rcases h c hc with rfl | rfl
  · rfl
  · rfl

/-- The file that is made of the picture of a captcha shows that picture. -/
theorem captcha_file {random : Vector UInt8 5} (noise memory : Noise)
    (buffer : Vector UInt8 gifsize) (hfits : span random < 170) :
    ∃ im gif, captcha random noise memory (Vector.replicate 6 0) = .ok (im, captchaText random) ∧
      makegif im buffer = .ok gif ∧ Gif.decode gif = some ⟨200, 70, im.toList.map grey⟩ := by
  rcases captcha_cases random noise memory with ⟨im, hrun, hb, -⟩ | ⟨-, hlarge⟩
  · exact ⟨im, gifOf im, hrun, makegif_eq im buffer, by rw [decode_gifOf, hb.greys]⟩
  · omega

/-- Random bytes that are all zero. -/
def silence : Noise := ⟨Vector.replicate 200 0, Vector.replicate 100 0, 0, 0⟩

theorem captcha_file_silence :
    ∃ im gif, captcha #v[0, 1, 2, 3, 5] silence silence (Vector.replicate 6 0) =
        .ok (im, captchaText #v[0, 1, 2, 3, 5]) ∧
      makegif im (Vector.replicate gifsize 0) = .ok gif ∧
      Gif.decode gif = some ⟨200, 70, im.toList.map grey⟩ :=
  captcha_file silence silence (Vector.replicate gifsize 0) (by decide +kernel)

/-- Five wide letters do not fit. -/
example (noise memory : Noise) :
    ReadsBehind (captcha #v[12, 12, 12, 12, 12] noise memory (Vector.replicate 6 0)) := by
  rcases captcha_cases #v[12, 12, 12, 12, 12] noise memory with ⟨_, _, _, hfits⟩ | h
  · exact absurd hfits (by decide +kernel)
  · exact h.1

end Banjax.Captcha
