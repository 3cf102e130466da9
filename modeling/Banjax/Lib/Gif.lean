import Banjax.Lib.Bits
import Banjax.Lib.Bytes
import Mathlib.Data.Nat.Digits.Lemmas

/-!
# Reading a GIF

A reader of the GIF format, for files with one image that uses the global colour table and
is not interlaced.  The pixels are codes of variable width, which are packed into bytes least
significant bit first and cut into sub-blocks of at most 255 bytes (`subBlocks`).  They are
undone with the table of LZW (`decodeCodes`).

An encoder that does not compress puts a clear code in front of every pixel.  The table then
stays as it is at the start, and so does the width (`decodeCodes_clearEach`).
-/

namespace Lib

/-! ## Bits, least significant first -/

/-- The `w` low bits of `n`, least significant first. -/
def lowBits (w n : Nat) : List Bool := (toBits w n).reverse

/-- The number whose bits are given, least significant first. -/
def ofLowBits (l : List Bool) : Nat := ofBits l.reverse

@[simp] theorem length_lowBits (w n : Nat) : (lowBits w n).length = w := by simp [lowBits]

theorem ofLowBits_lowBits {w n : Nat} (h : n < 2 ^ w) : ofLowBits (lowBits w n) = n := by
  rw [ofLowBits, lowBits, List.reverse_reverse, ofBits_toBits, Nat.mod_eq_of_lt h]

/-- The low digit comes first. -/
theorem lowBits_push {w d : Nat} (a n : Nat) (hd : d < 2 ^ w) :
    lowBits (w + a) (d + 2 ^ w * n) = lowBits w d ++ lowBits a n := by
  rw [lowBits, Nat.add_comm w a, Nat.add_comm d, Nat.mul_comm, toBits_push a n hd,
    List.reverse_append]
  rfl

/-- The digits of a number, each as its bits, are the bits of the number. -/
theorem flatMap_lowBits (w : Nat) (digits : List Nat) (h : ∀ d ∈ digits, d < 2 ^ w) :
    digits.flatMap (lowBits w) = lowBits (w * digits.length) (Nat.ofDigits (2 ^ w) digits) := by
  induction digits with
  | nil => rfl
  | cons d digits ih =>
      rw [List.flatMap_cons, ih fun e he => h e (List.mem_cons_of_mem _ he), List.length_cons,
        Nat.mul_succ, Nat.add_comm, Nat.ofDigits_cons,
        lowBits_push _ _ (h d (List.mem_cons_self ..))]

/-- Two ways to cut a number into digits. -/
theorem flatMap_lowBits_congr {w v : Nat} {ds es : List Nat} (hd : ∀ d ∈ ds, d < 2 ^ w)
    (he : ∀ e ∈ es, e < 2 ^ v) (hlen : w * ds.length = v * es.length)
    (hval : Nat.ofDigits (2 ^ w) ds = Nat.ofDigits (2 ^ v) es) :
    ds.flatMap (lowBits w) = es.flatMap (lowBits v) := by
  rw [flatMap_lowBits w ds hd, flatMap_lowBits v es he, hlen, hval]

namespace Gif

/-! ## LZW -/

/-- The state of the decoder. -/
structure Lzw where
  /-- How many bits the next code has. -/
  width : Nat
  /-- The pixels each code stands for. -/
  table : List (List Nat)
  /-- The pixels of the last code, unless it was a clear code. -/
  last : Option (List Nat)

/-- The clear code. -/
def clearCode (m : Nat) : Nat := 2 ^ m

/-- The code at the end. -/
def endCode (m : Nat) : Nat := 2 ^ m + 1

/-- A state with the table of the start.  The clear code and the end code have entries that are
not looked at. -/
def Lzw.fresh (m : Nat) (last : Option (List Nat)) : Lzw where
  width := m + 1
  table := (List.range (2 ^ m)).map ([·]) ++ [[], []]
  last := last

/-- The state after a clear code. -/
def Lzw.start (m : Nat) : Lzw := .fresh m none

/-- The pixels of a code, where the table may be one entry behind. -/
def Lzw.entry (s : Lzw) (last : List Nat) (code : Nat) : Option (List Nat) :=
  if code = s.table.length then some (last ++ last.take 1) else s.table[code]?

/-- The table with one more entry, and codes that are one bit longer when it is full. -/
def Lzw.grow (s : Lzw) (entry pixels : List Nat) : Lzw :=
  if s.table.length < 4096 then
    { width := if s.table.length + 1 = 2 ^ s.width ∧ s.width < 12 then s.width + 1 else s.width
      table := s.table ++ [entry]
      last := some pixels }
  else { s with last := some pixels }

/-- A code that stands for pixels. -/
def Lzw.step (m : Nat) (s : Lzw) (code : Nat) : Option (List Nat × Lzw) :=
  match s.last with
  | none => if code < 2 ^ m then some ([code], { s with last := some [code] }) else none
  | some last => do
      let pixels ← s.entry last code
      return (pixels, s.grow (last ++ pixels.take 1) pixels)

/-- The pixels of a stream of bits, up to the end code. -/
def decodeCodes (m : Nat) (s : Lzw) (stream : List Bool) : Option (List Nat) :=
  if _h : 0 < s.width ∧ s.width ≤ stream.length then
    let code := ofLowBits (stream.take s.width)
    let rest := stream.drop s.width
    if code = clearCode m then decodeCodes m (.start m) rest
    else if code = endCode m then some []
    else do
      let (pixels, s) ← s.step m code
      let more ← decodeCodes m s rest
      return pixels ++ more
  else none
termination_by stream.length
decreasing_by all_goals simp; omega

/-! ### A clear code for every pixel -/

theorem decodeCodes_cons (m : Nat) (s : Lzw) {code : Nat} (rest : List Bool) (hw : 0 < s.width)
    (hcode : code < 2 ^ s.width) :
    decodeCodes m s (lowBits s.width code ++ rest) =
      if code = clearCode m then decodeCodes m (.start m) rest
      else if code = endCode m then some []
      else (s.step m code).bind fun t => (decodeCodes m t.2 rest).bind fun more =>
        some (t.1 ++ more) := by
  have hlen : (lowBits s.width code).length = s.width := length_lowBits ..
  rw [decodeCodes, dif_pos ⟨hw, by simp⟩]
  dsimp only
  rw [List.take_left' hlen, List.drop_left' hlen, ofLowBits_lowBits hcode]
  rfl

/-- A clear code and a pixel. -/
theorem decodeCodes_pixel (m : Nat) (last : Option (List Nat)) {p : Nat} (rest : List Bool)
    (hp : p < 2 ^ m) :
    decodeCodes m (.fresh m last)
        (lowBits (m + 1) (clearCode m) ++ (lowBits (m + 1) p ++ rest)) =
      (decodeCodes m (.fresh m (some [p])) rest).map (p :: ·) := by
  have hpow : clearCode m < 2 ^ (m + 1) := Nat.pow_lt_pow_right (by decide) (by omega)
  have hclear := decodeCodes_cons m (.fresh m last) (lowBits (m + 1) p ++ rest)
    (Nat.succ_pos m) hpow
  have hpixel := decodeCodes_cons m (.start m) rest (Nat.succ_pos m) (hp.trans hpow)
  have hne : p ≠ clearCode m := Nat.ne_of_lt hp
  have hne' : p ≠ endCode m := Nat.ne_of_lt (Nat.lt_succ_of_lt hp)
  have hstep : (Lzw.start m).step m p = some ([p], .fresh m (some [p])) := by
    simp [Lzw.step, Lzw.start, Lzw.fresh, hp]
  rw [if_pos rfl] at hclear
  rw [if_neg hne, if_neg hne', hstep] at hpixel
  refine hclear.trans (hpixel.trans ?_)
  rw [Option.bind_some]
  cases decodeCodes m (.fresh m (some [p])) rest with
  | none => rfl
  | some more => rfl

/-- The codes of an encoder that puts a clear code in front of every pixel. -/
def clearEach (m : Nat) (pixels : List Nat) : List Nat :=
  pixels.flatMap fun p => [clearCode m, p]

/-- Such codes, up to the end code and whatever follows, give the pixels back. -/
theorem decodeCodes_clearEach (m : Nat) (last : Option (List Nat)) (pixels : List Nat)
    (rest : List Bool) (hm : 0 < m) (hp : ∀ p ∈ pixels, p < 2 ^ m) :
    decodeCodes m (.fresh m last)
        ((clearEach m pixels).flatMap (lowBits (m + 1)) ++ (lowBits (m + 1) (endCode m) ++ rest)) =
      some pixels := by
  induction pixels generalizing last with
  | nil =>
      have hend : endCode m < 2 ^ (m + 1) := by
        have : 1 < 2 ^ m := Nat.one_lt_two_pow (by omega)
        rw [endCode, Nat.pow_succ]
        omega
      refine (decodeCodes_cons m (.fresh m last) rest (Nat.succ_pos m) hend).trans ?_
      have hne : endCode m ≠ clearCode m := Nat.succ_ne_self _
      rw [if_neg hne, if_pos rfl]
  | cons p pixels ih =>
      have hrest := ih (some [p]) fun q hq => hp q (List.mem_cons_of_mem _ hq)
      have hcons : (clearEach m (p :: pixels)).flatMap (lowBits (m + 1)) =
          lowBits (m + 1) (clearCode m) ++ (lowBits (m + 1) p ++
            (clearEach m pixels).flatMap (lowBits (m + 1))) := by
        simp [clearEach]
      rw [hcons, List.append_assoc, List.append_assoc,
        decodeCodes_pixel m last _ (hp p (List.mem_cons_self ..)), hrest]
      rfl

/-! ## The file -/

/-- The data of the sub-blocks up to an empty one, and what follows. -/
def subBlocks : Bytes → Option (Bytes × Bytes)
  | [] => none
  | n :: s =>
      if n = 0 then some ([], s)
      else if s.length < n.toNat then none
      else do
        let (data, rest) ← subBlocks (s.drop n.toNat)
        return (s.take n.toNat ++ data, rest)
termination_by s => s.length
decreasing_by simp

theorem subBlocks_nil (rest : Bytes) : subBlocks (0 :: rest) = some ([], rest) := by
  rw [subBlocks, if_pos rfl]

theorem subBlocks_cons {n : UInt8} {block : Bytes} (s : Bytes) (hn : n ≠ 0)
    (hlen : block.length = n.toNat) :
    subBlocks (n :: (block ++ s)) = (subBlocks s).map fun t => (block ++ t.1, t.2) := by
  rw [subBlocks, if_neg hn, if_neg (by simp; omega), ← hlen, List.take_left, List.drop_left]
  cases subBlocks s <;> rfl

/-- Blocks of one length. -/
theorem subBlocks_flatMap {n : UInt8} (blocks : List Bytes) {s data rest : Bytes} (hn : n ≠ 0)
    (hlen : ∀ block ∈ blocks, block.length = n.toNat) (hs : subBlocks s = some (data, rest)) :
    subBlocks (blocks.flatMap (n :: ·) ++ s) = some (blocks.flatten ++ data, rest) := by
  induction blocks with
  | nil => exact hs
  | cons block blocks ih =>
      rw [List.flatMap_cons, List.append_assoc, List.cons_append,
        subBlocks_cons _ hn (hlen block (List.mem_cons_self ..)),
        ih fun b hb => hlen b (List.mem_cons_of_mem _ hb)]
      simp

/-- The first `n` bytes and the rest. -/
def cut (n : Nat) (s : Bytes) : Option (Bytes × Bytes) :=
  if s.length < n then none else some (s.take n, s.drop n)

theorem cut_append {n : Nat} {a : Bytes} (s : Bytes) (h : a.length = n) :
    cut n (a ++ s) = some (a, s) := by
  rw [cut, if_neg (by simp; omega), List.take_left' h, List.drop_left' h]

/-- A colour: red, green and blue. -/
abbrev Colour := UInt8 × UInt8 × UInt8

/-- The colours of a table. -/
def colours : Bytes → List Colour
  | r :: g :: b :: s => (r, g, b) :: colours s
  | _ => []

/-- An image, row by row. -/
structure Picture where
  width : Nat
  height : Nat
  pixels : List Colour
deriving DecidableEq

/-- The picture in a file. -/
def decode (file : Bytes) : Option Picture := do
  let (signature, file) ← cut 6 file
  guard (signature = bytes "GIF87a" ∨ signature = bytes "GIF89a")
  -- The screen: its size, the flags, the background and the aspect ratio.
  let (screen, file) ← cut 7 file
  let flags := (screen.getD 4 0).toNat
  guard (flags.testBit 7)
  let (table, file) ← cut (3 * 2 ^ (flags % 8 + 1)) file
  -- The image: a comma, its place, its size, which is that of the screen, and the flags.
  let (image, file) ← cut 10 file
  guard (image.take 5 = [0x2c, 0, 0, 0, 0] ∧ (image.drop 5).take 4 = screen.take 4 ∧
    image.getD 9 0 = 0)
  let (codeSize, file) ← cut 1 file
  let m := (codeSize.getD 0 0).toNat
  let (data, file) ← subBlocks file
  guard (file = [0x3b])
  let indices ← decodeCodes m (.start m) (data.flatMap fun c => lowBits 8 c.toNat)
  let pixels ← indices.mapM fun i => (colours table)[i]?
  let width := ofLeBytes (screen.take 2)
  let height := ofLeBytes ((screen.drop 2).take 2)
  guard (pixels.length = width * height)
  return ⟨width, height, pixels⟩

/-- The picture of a file that is given by its parts. -/
theorem decode_parts {signature screen table image blocks data : Bytes} {m : UInt8}
    {indices : List Nat} {pixels : List Colour}
    (hsignature : signature = bytes "GIF87a" ∨ signature = bytes "GIF89a")
    (hscreen : screen.length = 7) (hflag : (screen.getD 4 0).toNat.testBit 7 = true)
    (htable : table.length = 3 * 2 ^ ((screen.getD 4 0).toNat % 8 + 1))
    (himage : image.length = 10) (hplace : image.take 5 = [0x2c, 0, 0, 0, 0])
    (hsize : (image.drop 5).take 4 = screen.take 4) (hflags : image.getD 9 0 = 0)
    (hdata : subBlocks blocks = some (data, [0x3b]))
    (hcodes : decodeCodes m.toNat (.start m.toNat) (data.flatMap fun c => lowBits 8 c.toNat) =
      some indices)
    (hpixels : (indices.mapM fun i => (colours table)[i]?) = some pixels)
    (hlen : pixels.length = ofLeBytes (screen.take 2) * ofLeBytes ((screen.drop 2).take 2)) :
    decode (signature ++ (screen ++ (table ++ (image ++ ([m] ++ blocks))))) =
      some ⟨ofLeBytes (screen.take 2), ofLeBytes ((screen.drop 2).take 2), pixels⟩ := by
  have hsix : signature.length = 6 := by
    rcases hsignature with rfl | rfl
    · decide +kernel
    · decide +kernel
  have hcode : cut 1 ([m] ++ blocks) = some ([m], blocks) := cut_append blocks rfl
  have hm : ([m].getD 0 0).toNat = m.toNat := rfl
  rw [decode, cut_append _ hsix]
  simp only [Option.bind_eq_bind, Option.bind_some]
  rw [guard, if_pos hsignature, cut_append _ hscreen]
  simp only [Option.pure_def, Option.bind_some]
  rw [guard, if_pos hflag, cut_append _ htable]
  simp only [Option.pure_def, Option.bind_some]
  rw [cut_append _ himage]
  simp only [Option.bind_some]
  rw [guard, if_pos ⟨hplace, hsize, hflags⟩, hcode]
  simp only [Option.pure_def, Option.bind_some]
  rw [hdata, hm]
  simp only [Option.bind_some]
  rw [guard, if_pos trivial, hcodes]
  simp only [Option.pure_def, Option.bind_some]
  rw [hpixels, Option.bind_some, guard, if_pos hlen]
  rfl

end Gif

end Lib
