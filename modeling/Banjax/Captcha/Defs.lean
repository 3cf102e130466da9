import Banjax.Captcha.Font
import Banjax.Challenger.Response

/-!
# Drawing a captcha

`captcha` and `makegif` of `libcaptcha.c`.  Five letters are drawn one behind the other, bent
along a sine wave.  Dots are put over them, the picture is blurred, only its edges are kept,
and a line is drawn through them.

The functions work on arrays with pointers and indices that they hardly check.  A pointer is
its distance from the start of the image here, an `int` is a number, and every access is
checked, so that a result `.ok` says that no access was out of bounds, and an `Overrun` which
one was.
-/

namespace Banjax.Captcha

open Lib

/-! ## Arrays -/

/-- An access outside of its array, with the index. -/
inductive Overrun where
  | readIm (i : Int)
  | writeIm (i : Int)
  | readSwr (i : Int)
  /-- The wave, the font or the letters. -/
  | readTable (i : Int)
  /-- A script that does not end. -/
  | readScript
  | writeGif (p : Nat)
deriving DecidableEq, Repr

/-- `im[70*200]`. -/
abbrev Image := Vector UInt8 14000

/-- `memset(im,0xff,200*70)`. -/
def blank : Image := Vector.replicate 14000 0xff

/-- A read at an index. -/
def readAt {α : Type} (overrun : Int → Overrun) (array : List α) (i : Int) : Except Overrun α :=
  if 0 ≤ i then
    match array[i.toNat]? with
    | some a => .ok a
    | none => .error (overrun i)
  else .error (overrun i)

/-- `im[i]`. -/
def Image.read (im : Image) (i : Int) : Except Overrun UInt8 :=
  if 0 ≤ i ∧ i < 14000 then .ok (im.toList.getD i.toNat 0) else .error (.readIm i)

/-- `im[i] = c`. -/
def Image.write (im : Image) (i : Int) (c : UInt8) : Except Overrun Image :=
  if 0 ≤ i ∧ i < 14000 then .ok (im.setIfInBounds i.toNat c) else .error (.writeIm i)

/-- A write that is left out behind the end of the image. -/
def Image.plot (im : Image) (x : Int) (c : UInt8) : Except Overrun Image :=
  if x < 70 * 200 then im.write x c else .ok im

/-- Writes of one byte at several places. -/
def Image.writeAll (im : Image) (places : List Int) (c : UInt8) : Except Overrun Image :=
  places.foldlM (fun im i => im.write i c) im

/-! ## Random bytes -/

/-- What a picture is made with besides its letters. -/
structure Noise where
  swr : Vector UInt8 200
  dr : Vector UInt32 100
  s1 : UInt8
  s2 : UInt8

/-! ## A letter -/

/-- The variables of `letter`. -/
structure Pen where
  im : Image
  r : Int
  i : Int
  sk1 : Int
  sk2 : Int
  mpos : Int
  row : Int

/-- One turn of the loop of `letter` at a pixel. -/
def Pen.pixel (swr : Vector UInt8 200) (pos p : Int) (s : Pen) : Except Overrun Pen := do
  let sk1 := if 200 ≤ s.sk1 then s.sk1.tmod 200 else s.sk1
  let skew := (← readAt .readTable sw sk1).tdiv 16
  let step1 ← readAt .readSwr swr.toList (pos + s.i - s.r)
  let sk1 := sk1 + (((step1 &&& 0x1).toNat : Int) + 1)
  let sk2 := if 200 ≤ s.sk2 then s.sk2.tmod 200 else s.sk2
  let skewh := (← readAt .readTable sw sk2).tdiv 70
  let step2 ← readAt .readSwr swr.toList s.row
  let sk2 := sk2 + ((step2 &&& 0x1).toNat : Int)
  let x := s.i + skew * 200 + skewh
  let mpos := if pos + s.i - s.r < s.mpos then s.mpos else pos + s.i - s.r
  let im ← s.im.plot x (16 * p).toNat.toUInt8
  return { s with im, i := s.i + 1, sk1, sk2, mpos }

/-- One turn of the loop of `letter`. -/
def Pen.turn (swr : Vector UInt8 200) (s1 : UInt8) (pos p : Int) (s : Pen) : Except Overrun Pen :=
  if p < 0 then
    if p = -100 then
      .ok { s with r := s.r + 200, i := s.r + 200, sk1 := s1.toNat + pos, row := s.row + 1 }
    else .ok { s with i := s.i + -p }
  else s.pixel swr pos p

/-- The loop of `letter`. -/
def Pen.draw (swr : Vector UInt8 200) (s1 : UInt8) (pos : Int) :
    List Int → Pen → Except Overrun Pen
  | [], _ => .error .readScript
  | p :: script, s =>
      if p = -101 then .ok s
      else do
        let s ← s.turn swr s1 pos p
        Pen.draw swr s1 pos script s

/-- The variables of `letter` at its start. -/
def Pen.start (noise : Noise) (pos : Int) (im : Image) : Pen where
  im := im
  r := 200 * 16 + pos
  i := 200 * 16 + pos
  sk1 := noise.s1.toNat + pos
  sk2 := noise.s2.toNat + pos
  mpos := pos
  row := 0

/-- `letter`: where the next letter starts, and the image. -/
def letter (noise : Noise) (n : UInt8) (pos : Int) (im : Image) :
    Except Overrun (Int × Image) := do
  let script ← readAt .readTable lt n.toNat
  let pen ← Pen.draw noise.swr noise.s1 pos script (.start noise pos im)
  return (pen.mpos, pen.im)

/-! ## The picture -/

/-- `dots`. -/
def dots (dr : Vector UInt32 100) (im : Image) : Except Overrun Image :=
  dr.toList.foldlM (fun im v =>
    let i : Int := (v % (200 * 67)).toNat
    im.writeAll [i, i + 1, i + 2, i + 200, i + 201, i + 202] 0xff) im

/-- One turn of the loops of `blur`, at the pointer `i`. -/
def blurAt (s : Int × Image) : Except Overrun (Int × Image) := do
  let (i, im) := s
  let c11 ← im.read i
  let c12 ← im.read (i + 1)
  let c21 ← im.read (i + 200)
  let c22 ← im.read (i + 201)
  let im ← im.write i ((c11.toNat + c12.toNat + c21.toNat + c22.toNat) / 4).toUInt8
  return (i + 1, im)

/-- `blur`. -/
def blur (im : Image) : Except Overrun Image := do
  let (_, im) ← (List.range 68).foldlM
    (fun s _ => (List.range 198).foldlM (fun s _ => blurAt s) s) ((0 : Int), im)
  return im

/-- The pixels of an edge between `c0` and `c1`. -/
def edge (c0 c1 : UInt8) (o : Int) (om : Image) : Except Overrun Image :=
  if 0xf0 < c0 ∧ c1 < 0xf0 then om.writeAll [o, o + 1] 0
  else if c0 < 0xf0 ∧ 0xf0 < c1 then om.writeAll [o, o + 1] 0
  else .ok om

/-- One turn of the loops of `filter`, at the pointers `i` and `o`, which move together. -/
def filterAt (im : Image) (s : Int × Image) : Except Overrun (Int × Image) := do
  let (i, om) := s
  let c0 ← im.read i
  let c1 ← im.read (i + 1)
  let om ← edge c0 c1 i om
  return (i + 1, om)

/-- `filter`. -/
def filter (im : Image) : Except Overrun Image := do
  let (_, om) ← (List.range 70).foldlM
    (fun s _ => (List.range 192).foldlM (fun s _ => filterAt im s) s)
    ((0 : Int), blank)
  return om

/-- One turn of the loop of `line`. -/
def lineAt (swr : Vector UInt8 200) (s : Int × Image) (x : Nat) :
    Except Overrun (Int × Image) := do
  let (sk1, im) := s
  let sk1 := if 200 ≤ sk1 then sk1.tmod 200 else sk1
  let skew := (← readAt .readTable sw sk1).tdiv 16
  let step ← readAt .readSwr swr.toList x
  let i := 200 * (45 + skew) + x
  let im ← im.writeAll [i, i + 1, i + 200, i + 201] 0
  return (sk1 + (((step &&& 0x3).toNat : Int) + 1), im)

/-- `line`. -/
def line (swr : Vector UInt8 200) (s1 : UInt8) (im : Image) : Except Overrun Image := do
  let (_, im) ← (List.range 199).foldlM (lineAt swr) ((s1.toNat : Int), im)
  return im

/-- The calls of `letter`, one behind the other. -/
def drawLetters (noise : Noise) (l : List UInt8) (im : Image) : Except Overrun Image := do
  let (_, im) ← l.foldlM (fun (s : Int × Image) n => letter noise n s.1 s.2) (30, im)
  return im

/-- The picture of five letters that are given by their numbers. -/
def picture (noise : Noise) (l : List UInt8) : Except Overrun Image := do
  let im ← drawLetters noise l blank
  let im ← dots noise.dr im
  let im ← blur im
  let im ← filter im
  line noise.swr noise.s1 im

/-- `captcha`: the image and the five letters, from what `/dev/urandom` gives.  When a text is
given the program reads no random bytes, and `memory` is what its variables hold. -/
def captcha (random : Vector UInt8 5) (noise memory : Noise) (l : Vector UInt8 6) :
    Except Overrun (Image × Bytes) := do
  let unseen := l = Vector.replicate 6 0
  let numbers := if unseen then random.toList.map (· % 25) else (l.toList.take 5).map (· - 97)
  let masked := { memory with s1 := memory.s1 &&& 0x7f, s2 := memory.s2 &&& 0x3f }
  let im ← picture (if unseen then noise else masked) numbers
  let text ← numbers.mapM fun n => readAt .readTable letters n.toNat
  return (im, text)

/-! ## The file -/

/-- `gifsize`. -/
def gifsize : Nat := 17646

/-- The head of the file: the tag, the size, the colours, the image and the size of its codes. -/
def gifHead : Bytes :=
  bytes "GIF89a" ++ [0xc8, 0, 0x46, 0] ++ [0x83] ++ [0, 0] ++
    [0x00, 0x00, 0x00, 0x10, 0x10, 0x10, 0x20, 0x20, 0x20, 0x30, 0x30, 0x30,
      0x40, 0x40, 0x40, 0x50, 0x50, 0x50, 0x60, 0x60, 0x60, 0x70, 0x70, 0x70,
      0x80, 0x80, 0x80, 0x90, 0x90, 0x90, 0xa0, 0xa0, 0xa0, 0xb0, 0xb0, 0xb0,
      0xc0, 0xc0, 0xc0, 0xd0, 0xd0, 0xd0, 0xe0, 0xe0, 0xe0, 0xff, 0xff, 0xff] ++
    bytes "," ++ [0, 0, 0, 0] ++ [0xc8, 0, 0x46, 0] ++ [0] ++ [0x04]

/-- `gif`, and the pointers `i` and `p`. -/
structure GifWriter where
  gif : Bytes
  i : Int
  p : Nat

/-- Bytes written to the file at an index. -/
def store (gif : Bytes) (p : Nat) (data : Bytes) : Except Overrun Bytes :=
  if p + data.length ≤ gif.length then
    .ok (gif.take p ++ data ++ gif.drop (p + data.length))
  else .error (.writeGif p)

/-- The five bytes of four pixels, each behind a clear code. -/
def pack (a b c d : UInt8) : Bytes :=
  [(16 : UInt8) ||| (a <<< 5), (a >>> 3) ||| (64 : UInt8) ||| (b <<< 7), b >>> 1,
    (1 : UInt8) ||| (c <<< 1), (4 : UInt8) ||| (d <<< 3)]

/-- The inner loop of `makegif`. -/
def GifWriter.quad (im : Image) (s : GifWriter) : Except Overrun GifWriter := do
  let a := (← im.read s.i) >>> 4
  let b := (← im.read (s.i + 1)) >>> 4
  let c := (← im.read (s.i + 2)) >>> 4
  let d := (← im.read (s.i + 3)) >>> 4
  let gif ← store s.gif s.p (pack a b c d)
  return ⟨gif, s.i + 4, s.p + 5⟩

/-- The outer loop of `makegif`. -/
def GifWriter.row (im : Image) (s : GifWriter) : Except Overrun GifWriter := do
  let gif ← store s.gif s.p [250]
  (List.range 50).foldlM (fun s _ => s.quad im) ⟨gif, s.i, s.p + 1⟩

/-- `makegif`, into a buffer that holds anything. -/
def makegif (im : Image) (buffer : Vector UInt8 gifsize) : Except Overrun Bytes := do
  let gif ← store buffer.toList 0 gifHead
  let s ← (List.range 70).foldlM (fun s _ => GifWriter.row im s) ⟨gif, 0, 13 + 48 + 10 + 1⟩
  store s.gif (gifsize - 4) [0x01, 0x11, 0x00, 0x3b]

end Banjax.Captcha
