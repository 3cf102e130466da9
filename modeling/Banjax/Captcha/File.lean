import Banjax.Captcha.Defs
import Banjax.Lib.Gif

/-!
# The file of a captcha

`makegif` fills its buffer from the front: the head, 70 blocks of 250 bytes, and the end.
Every access is inside its array (`makegif_eq`).

The codes have five bits, and a clear code stands in front of every pixel.  A reader of GIF
gets the pixels back, each as the grey of its four high bits (`makegif_decodes`).
-/

namespace Banjax.Captcha

open Lib

/-! ## What is written -/

/-- The four high bits of a pixel. -/
def nibble (im : Image) (i : Nat) : UInt8 := im.toList.getD i 0 >>> 4

/-- The bytes of four pixels. -/
def packAt (im : Image) (i : Nat) : Bytes :=
  pack (nibble im i) (nibble im (i + 1)) (nibble im (i + 2)) (nibble im (i + 3))

/-- The data of a block: the quads of a row. -/
def rowData (im : Image) (y : Nat) : Bytes :=
  (List.range 50).flatMap fun x => packAt im (4 * (50 * y + x))

/-- The blocks of the rows. -/
def rowBlocks (im : Image) : List Bytes := (List.range 70).map (rowData im)

/-- The end of the data, of the image and of the file. -/
def gifTail : Bytes := [0x01, 0x11, 0x00, 0x3b]

/-- What `makegif` writes. -/
def gifOf (im : Image) : Bytes := gifHead ++ (rowBlocks im).flatMap (250 :: ·) ++ gifTail

theorem length_packAt (im : Image) (i : Nat) : (packAt im i).length = 5 := rfl

theorem length_quads (im : Image) (y k : Nat) :
    ((List.range k).flatMap fun x => packAt im (4 * (50 * y + x))).length = 5 * k := by
  induction k with
  | zero => rfl
  | succ k ih =>
      rw [List.range_succ, List.flatMap_append, List.length_append, ih, List.flatMap_singleton,
        length_packAt, Nat.mul_succ]

theorem length_rowData (im : Image) (y : Nat) : (rowData im y).length = 250 := length_quads im y 50

theorem length_blocks (im : Image) (k : Nat) :
    (((List.range k).map (rowData im)).flatMap (250 :: ·)).length = 251 * k := by
  induction k with
  | zero => rfl
  | succ k ih =>
      rw [List.range_succ, List.map_append, List.flatMap_append, List.length_append, ih,
        List.map_singleton, List.flatMap_singleton, List.length_cons, length_rowData, Nat.mul_succ]

theorem length_gifHead : gifHead.length = 72 := by decide +kernel

theorem length_gifOf (im : Image) : (gifOf im).length = gifsize := by
  rw [gifOf, List.length_append, List.length_append, length_gifHead, rowBlocks, length_blocks]
  rfl

/-! ## Writing it -/

/-- Bytes that are stored behind a front make it longer. -/
theorem store_front {gif front : Bytes} (data : Bytes) (hfront : gif.take front.length = front)
    (hfits : front.length + data.length ≤ gif.length) :
    ∃ gif', store gif front.length data = .ok gif' ∧ gif'.length = gif.length ∧
      gif'.take (front ++ data).length = front ++ data := by
  refine ⟨_, if_pos hfits, ?_, ?_⟩
  · simp
    omega
  · rw [hfront, List.take_left]

/-- The writer has written a front and read the image up to a pixel. -/
structure Written (front : Bytes) (i : Nat) (s : GifWriter) : Prop where
  size : s.gif.length = gifsize
  prefixed : s.gif.take front.length = front
  place : s.p = front.length
  pixel : s.i = i

theorem read_ok {im : Image} {i : Nat} (h : i < 14000) :
    im.read i = .ok (im.toList.getD i 0) := by
  rw [Image.read, if_pos ⟨by omega, by omega⟩, Int.toNat_natCast]

theorem Written.quad {front : Bytes} {i : Nat} {s : GifWriter} (h : Written front i s) (im : Image)
    (hi : i + 4 ≤ 14000) (hfits : front.length + 5 ≤ gifsize) :
    ∃ t, s.quad im = .ok t ∧ Written (front ++ packAt im i) (i + 4) t := by
  obtain ⟨gif, hstore, hsize, hfront⟩ := store_front (packAt im i) h.prefixed
    (by rw [h.size, length_packAt]; exact hfits)
  have h1 : im.read ((i : Int) + 1) = _ := read_ok (i := i + 1) (by omega)
  have h2 : im.read ((i : Int) + 2) = _ := read_ok (i := i + 2) (by omega)
  have h3 : im.read ((i : Int) + 3) = _ := read_ok (i := i + 3) (by omega)
  refine ⟨⟨gif, i + 4, front.length + 5⟩, ?_, ?_⟩
  · rw [GifWriter.quad, h.pixel, h.place, read_ok (by omega), h1, h2, h3]
    simp only [ok_bind]
    rw [← nibble, ← nibble, ← nibble, ← nibble, ← packAt, hstore]
    rfl
  · exact ⟨hsize.trans h.size, hfront, by simp [length_packAt], by simp⟩

/-- A row: the length of the block, and the block. -/
theorem Written.row {front : Bytes} {y : Nat} {s : GifWriter} (h : Written front (200 * y) s)
    (im : Image) (hy : y < 70) (hfits : front.length + 251 ≤ gifsize) :
    ∃ t, s.row im = .ok t ∧ Written (front ++ 250 :: rowData im y) (200 * (y + 1)) t := by
  obtain ⟨gif, hstore, hsize, hfront⟩ := store_front [250] h.prefixed
    (by rw [h.size]; exact (Nat.le_add_right _ 250).trans hfits)
  have hstart : Written (front ++ [250]) (200 * y) ⟨gif, s.i, s.p + 1⟩ :=
    ⟨hsize.trans h.size, hfront, by simp [h.place], h.pixel⟩
  obtain ⟨t, hrun, ht⟩ := foldlM_range (fun (s : GifWriter) (_ : Nat) => s.quad im)
    (P := fun k s => Written (front ++ [250] ++
      (List.range k).flatMap fun x => packAt im (4 * (50 * y + x))) (200 * y + 4 * k) s)
    50 (by simpa using hstart) fun k hk s hs => by
      obtain ⟨t, hquad, ht⟩ := hs.quad im (by omega) (by
        rw [List.length_append, List.length_append, length_quads]
        simp
        omega)
      refine ⟨t, hquad, ?_⟩
      have hplace : 200 * y + 4 * k = 4 * (50 * y + k) := by omega
      rw [List.range_succ, List.flatMap_append, ← List.append_assoc, List.flatMap_singleton,
        ← hplace]
      exact ht
  refine ⟨t, ?_, ?_⟩
  · rw [GifWriter.row, h.place, hstore, ok_bind, ← h.place]
    exact hrun
  · rw [rowData, ← List.singleton_append, ← List.append_assoc]
    exact ht

/-- `makegif` stays inside its arrays, and fills the buffer whatever it held. -/
theorem makegif_eq (im : Image) (buffer : Vector UInt8 gifsize) :
    makegif im buffer = .ok (gifOf im) := by
  have hempty : buffer.toList.take ([] : Bytes).length = [] := rfl
  obtain ⟨gif, hstore, hsize, hfront⟩ := store_front gifHead hempty
    (by rw [Vector.length_toList, length_gifHead]; decide)
  have hstart : Written gifHead 0 ⟨gif, 0, 72⟩ :=
    ⟨hsize.trans buffer.length_toList, hfront, length_gifHead.symm, rfl⟩
  obtain ⟨t, hrun, ht⟩ := foldlM_range (fun (s : GifWriter) (_ : Nat) => s.row im)
    (P := fun y s => Written (gifHead ++ ((List.range y).map (rowData im)).flatMap (250 :: ·))
      (200 * y) s)
    70 (by simpa using hstart) fun y hy s hs => by
      obtain ⟨t, hrow, ht⟩ := hs.row im hy (by
        rw [List.length_append, length_blocks, length_gifHead]
        simp only [gifsize]
        omega)
      refine ⟨t, hrow, ?_⟩
      rw [List.range_succ, List.map_append, List.flatMap_append, ← List.append_assoc,
        List.map_singleton, List.flatMap_singleton]
      exact ht
  have hlen : (gifHead ++ (rowBlocks im).flatMap (250 :: ·)).length = gifsize - 4 := by
    rw [List.length_append, rowBlocks, length_blocks, length_gifHead]
    rfl
  obtain ⟨gif', hstore', hsize', hfront'⟩ := store_front gifTail ht.prefixed
    (by rw [ht.size]; exact hlen ▸ by decide)
  have hhead : store buffer.toList 0 gifHead = .ok gif := hstore
  rw [makegif, hhead, ok_bind]
  rw [hrun, ok_bind, ← gifTail, ← hlen]
  have hall : gif'.length = (gifOf im).length := by rw [hsize', ht.size, length_gifOf]
  have hfront : gif'.take (gifOf im).length = gifOf im := hfront'
  rw [← hall, List.take_length] at hfront
  exact hstore'.trans (congrArg _ hfront)

/-! ## Reading it -/

/-- The colour of a pixel that is given by its four high bits. -/
def shade (n : UInt8) : UInt8 := if n = 15 then 0xff else 16 * n

/-- The grey of a pixel. -/
def grey (c : UInt8) : Gif.Colour := (c, c, c)

theorem nibble_lt (c : UInt8) : (c >>> 4).toNat < 2 ^ 4 := by
  have := c.toNat_lt
  rw [UInt8.toNat_shiftRight]
  simp [Nat.shiftRight_eq_div_pow]
  omega

/-- The numbers the five bytes of four pixels stand for. -/
theorem pack_toNat {a b c d : UInt8} (ha : a.toNat < 16) (hb : b.toNat < 16) (hc : c.toNat < 16)
    (hd : d.toNat < 16) :
    (pack a b c d).map UInt8.toNat =
      [16 + 32 * (a.toNat % 8), a.toNat / 8 + 64 + 128 * (b.toNat % 2), b.toNat / 2,
        1 + 2 * c.toNat, 4 + 8 * d.toNat] := by
  have hbyte : ∀ (P : UInt8 → Prop), (∀ n < 16, P n.toUInt8) → ∀ c : UInt8, c.toNat < 16 → P c := by
    intro P hP c hc
    simpa [Nat.toUInt8] using hP c.toNat hc
  have h0 := hbyte (fun a => ((16 : UInt8) ||| (a <<< 5)).toNat = 16 + 32 * (a.toNat % 8))
    (by decide) a ha
  have h1 := hbyte (fun a => ∀ n < 16, ((a >>> 3) ||| (64 : UInt8) ||| (n.toUInt8 <<< 7)).toNat =
    a.toNat / 8 + 64 + 128 * (n.toUInt8.toNat % 2)) (by decide) a ha b.toNat hb
  have h2 := hbyte (fun b => (b >>> 1).toNat = b.toNat / 2) (by decide) b hb
  have h3 := hbyte (fun c => ((1 : UInt8) ||| (c <<< 1)).toNat = 1 + 2 * c.toNat) (by decide) c hc
  have h4 := hbyte (fun d => ((4 : UInt8) ||| (d <<< 3)).toNat = 4 + 8 * d.toNat) (by decide) d hd
  simp only [Nat.toUInt8, UInt8.ofNat_toNat] at h1
  simp only [pack, List.map_cons, List.map_nil, h0, h1, h2, h3, h4]

/-- The bits of five bytes are those of eight codes. -/
theorem pack_bits {a b c d : UInt8} (ha : a.toNat < 16) (hb : b.toNat < 16) (hc : c.toNat < 16)
    (hd : d.toNat < 16) :
    (pack a b c d).flatMap (fun c => lowBits 8 c.toNat) =
      (Gif.clearEach 4 [a.toNat, b.toNat, c.toNat, d.toNat]).flatMap (lowBits 5) := by
  rw [← List.flatMap_map, pack_toNat ha hb hc hd]
  apply flatMap_lowBits_congr
  · simp only [List.mem_cons, List.not_mem_nil, or_false]
    rintro e (rfl | rfl | rfl | rfl | rfl) <;> omega
  · simp only [Gif.clearEach, Gif.clearCode, List.flatMap_cons, List.flatMap_nil, List.cons_append,
      List.nil_append, List.mem_cons, List.not_mem_nil, or_false]
    rintro e (rfl | rfl | rfl | rfl | rfl | rfl | rfl | rfl) <;> omega
  · rfl
  · simp only [Gif.clearEach, Gif.clearCode, List.flatMap_cons, List.flatMap_nil, List.cons_append,
      List.nil_append, Nat.ofDigits_cons, Nat.ofDigits_nil]
    omega

/-- The rows one after the other. -/
theorem flatMap_range_mul {α : Type} (f : Nat → List α) (n k : Nat) :
    ((List.range k).flatMap fun y => (List.range n).flatMap fun x => f (n * y + x)) =
      (List.range (n * k)).flatMap f := by
  induction k with
  | zero => rfl
  | succ k ih =>
      rw [List.range_succ, List.flatMap_append, ih, List.flatMap_singleton, Nat.mul_succ,
        List.range_add, List.flatMap_append, List.flatMap_map]

/-- The places of four neighbours. -/
theorem flatMap_range_four {α : Type} (f : Nat → α) (n : Nat) :
    ((List.range n).flatMap fun k => [f (4 * k), f (4 * k + 1), f (4 * k + 2), f (4 * k + 3)]) =
      (List.range (4 * n)).map f := by
  induction n with
  | zero => rfl
  | succ n ih =>
      rw [List.range_succ, List.flatMap_append, ih, List.flatMap_singleton, Nat.mul_succ,
        List.range_add, List.map_append]
      rfl

/-- The pixels that are packed, from the first to the last. -/
theorem nibbles_eq (im : Image) :
    (List.range 14000).map (nibble im) = im.toList.map fun c : UInt8 => c >>> 4 := by
  apply List.ext_getElem
  · simp
  · intro i hi hi'
    have hlt : i < im.toList.length := by simpa using hi
    simp [nibble, List.getD_eq_getElem?_getD, List.getElem?_eq_getElem hlt]

/-- The bits of the data of all blocks. -/
theorem bits_rowBlocks (im : Image) :
    (rowBlocks im).flatten.flatMap (fun c => lowBits 8 c.toNat) =
      (Gif.clearEach 4 (im.toList.map fun c : UInt8 => (c >>> 4).toNat)).flatMap (lowBits 5) := by
  have hdata : (rowBlocks im).flatten = (List.range 3500).flatMap fun k => packAt im (4 * k) := by
    rw [rowBlocks, ← List.flatMap_def]
    exact flatMap_range_mul (fun k => packAt im (4 * k)) 50 70
  have hpixels : (im.toList.map fun c : UInt8 => (c >>> 4).toNat) =
      (List.range 3500).flatMap fun k =>
        [(nibble im (4 * k)).toNat, (nibble im (4 * k + 1)).toNat, (nibble im (4 * k + 2)).toNat,
          (nibble im (4 * k + 3)).toNat] := by
    have hmap := congrArg (List.map UInt8.toNat) (nibbles_eq im)
    rw [List.map_map, List.map_map] at hmap
    exact hmap.symm.trans (flatMap_range_four (UInt8.toNat ∘ nibble im) 3500).symm
  rw [hdata, hpixels, Gif.clearEach, List.flatMap_assoc, List.flatMap_assoc, List.flatMap_assoc]
  refine List.flatMap_congr fun k _ => ?_
  exact pack_bits (nibble_lt _) (nibble_lt _) (nibble_lt _) (nibble_lt _)

/-- The colours of the head. -/
theorem colours_gifHead (c : UInt8) :
    (Gif.colours ((gifHead.drop 13).take 48))[(c >>> 4).toNat]? =
      some (grey (shade (c >>> 4))) := by
  have hall : ∀ n < 16, (Gif.colours ((gifHead.drop 13).take 48))[n]? =
      some (grey (shade n.toUInt8)) := by
    decide +kernel
  have := hall _ (nibble_lt c)
  rwa [Nat.toUInt8, UInt8.ofNat_toNat] at this

/-- The data in front of the end of the file. -/
theorem subBlocks_gifOf (im : Image) :
    Gif.subBlocks ((rowBlocks im).flatMap (250 :: ·) ++ gifTail) =
      some ((rowBlocks im).flatten ++ [0x11], [0x3b]) := by
  apply Gif.subBlocks_flatMap _ (by decide)
  · intro block hblock
    obtain ⟨y, _, rfl⟩ := List.mem_map.mp hblock
    exact length_rowData im y
  · have hblock : ([0x11] : Bytes).length = (1 : UInt8).toNat := rfl
    exact (Gif.subBlocks_cons [0, 0x3b] (by decide) hblock).trans
      (congrArg _ (Gif.subBlocks_nil _))

/-- The pixels of the data. -/
theorem decodeCodes_rowBlocks (im : Image) :
    Gif.decodeCodes 4 (.start 4)
        (((rowBlocks im).flatten ++ [0x11]).flatMap fun c : UInt8 => lowBits 8 c.toNat) =
      some (im.toList.map fun c : UInt8 => (c >>> 4).toNat) := by
  have hend : lowBits 8 (0x11 : UInt8).toNat =
      lowBits 5 (Gif.endCode 4) ++ [false, false, false] := by decide
  rw [List.flatMap_append, bits_rowBlocks, List.flatMap_singleton, hend]
  apply Gif.decodeCodes_clearEach 4 none _ _ (by decide)
  intro p hp
  obtain ⟨c, _, rfl⟩ := List.mem_map.mp hp
  exact nibble_lt c

/-- A reader of GIF gets a picture of the right size, whose pixels are the high bits of those of
the image. -/
theorem decode_gifOf (im : Image) :
    Gif.decode (gifOf im) =
      some ⟨200, 70, im.toList.map fun c : UInt8 => grey (shade (c >>> 4))⟩ := by
  have hhead : gifHead = bytes "GIF89a" ++ ([0xc8, 0, 0x46, 0, 0x83, 0, 0] ++
      ((gifHead.drop 13).take 48 ++ ([0x2c, 0, 0, 0, 0, 0xc8, 0, 0x46, 0, 0] ++ [4]))) := by
    decide +kernel
  have hfile : gifOf im = bytes "GIF89a" ++ ([0xc8, 0, 0x46, 0, 0x83, 0, 0] ++
      ((gifHead.drop 13).take 48 ++ ([0x2c, 0, 0, 0, 0, 0xc8, 0, 0x46, 0, 0] ++
        ([4] ++ ((rowBlocks im).flatMap (250 :: ·) ++ gifTail))))) := by
    rw [gifOf]
    conv_lhs => rw [hhead]
    simp only [List.append_assoc]
  have hpixels : (im.toList.map fun c : UInt8 => (c >>> 4).toNat).mapM
      (fun i => (Gif.colours ((gifHead.drop 13).take 48))[i]?) =
        some (im.toList.map fun c : UInt8 => grey (shade (c >>> 4))) := by
    rw [List.mapM_map]
    exact mapM_eq_some fun c _ => colours_gifHead c
  rw [hfile]
  exact Gif.decode_parts (.inr rfl) rfl (by decide) (by decide +kernel) rfl rfl rfl rfl
    (subBlocks_gifOf im) (decodeCodes_rowBlocks im) hpixels (by simp; decide)

/-- `makegif` writes every byte of its buffer: for every image there is a file of the size of the
buffer that it gives whatever the buffer held, and the file shows the image in sixteen greys. -/
theorem makegif_decodes (im : Image) :
    ∃ gif, (∀ buffer : Vector UInt8 gifsize, makegif im buffer = .ok gif) ∧
      gif.length = gifsize ∧
      Gif.decode gif = some ⟨200, 70, im.toList.map fun c : UInt8 => grey (shade (c >>> 4))⟩ :=
  ⟨gifOf im, makegif_eq im, length_gifOf im, decode_gifOf im⟩

end Banjax.Captcha
