import Mathlib.Tactic

/-!
# The letters of a captcha

The tables of `libcaptcha.c`.  A letter is drawn from the script of its table: a number from 0
on is a pixel, a number below 0 skips so many pixels, `-100` starts the next row and `-101` is
the end.  `sw` is a sine wave, along which the letters are bent.
-/

namespace Banjax.Captcha

/-- `lt0`. -/
def lt0 : List Int :=
  [.neg 100, .neg 100, .neg 100, .neg 100, .neg 100, .neg 100, .neg 100, .neg 100, .neg 100,
    .neg 100, .neg 100, .neg 100, .neg 100, .neg 100, .neg 100, .neg 100, .neg 100, .neg 4, 11,
    7, 5, 3, 1, 0, 0, 0, 1, 3, 7, 13, .neg 100, .neg 2, 11, 3, 0, 0, 0, 0, 0, 0, 0, 0, 0, 0, 0,
    0, 9, .neg 100, .neg 1, 7, 0, 0, 0, 0, 0, 0, 3, 9, 11, 9, 3, 0, 0, 0, 0, 13, .neg 100, 9, 0,
    0, 0, 0, 0, 0, 3, .neg 5, 3, 0, 0, 0, 7, .neg 100, 5, 0, 0, 0, 0, 0, 1, 13, .neg 5, 9, 0, 0,
    0, 1, .neg 100, 7, 0, 0, 0, 0, 1, 13, .neg 6, 13, 0, 0, 0, 0, .neg 100, .neg 1, 9, 1, 0, 5,
    13, .neg 8, 0, 0, 0, 0, 13, .neg 100, .neg 14, 0, 0, 0, 0, 11, .neg 100, .neg 14, 0, 0, 0, 0,
    11, .neg 100, .neg 14, 0, 0, 0, 0, 11, .neg 100, .neg 12, 13, 5, 0, 0, 0, 0, 11, .neg 100,
    .neg 8, 13, 9, 5, 1, 0, 0, 0, 0, 0, 0, 11, .neg 100, .neg 4, 13, 7, 3, 1, 0, 0, 0, 0, 1, 1,
    0, 0, 0, 0, 11, .neg 100, .neg 2, 13, 5, 0, 0, 0, 0, 0, 5, 9, 13, .neg 2, 0, 0, 0, 0, 11,
    .neg 100, .neg 1, 13, 1, 0, 0, 0, 0, 7, .neg 6, 0, 0, 0, 0, 11, .neg 100, 13, 1, 0, 0, 0, 0,
    13, .neg 7, 0, 0, 0, 0, 11, .neg 100, 5, 0, 0, 0, 0, 5, .neg 8, 0, 0, 0, 0, 11, .neg 100, 0,
    0, 0, 0, 0, 11, .neg 8, 0, 0, 0, 0, 11, .neg 100, 0, 0, 0, 0, 0, 13, .neg 7, 13, 0, 0, 0, 0,
    11, .neg 100, 1, 0, 0, 0, 0, .neg 7, 9, 0, 0, 0, 0, 0, 9, .neg 3, 9, .neg 100, 5, 0, 0, 0, 0,
    3, 13, .neg 3, 11, 3, 0, 0, 0, 0, 0, 0, 0, 9, 13, 3, 5, .neg 100, 13, 0, 0, 0, 0, 0, 0, 1, 1,
    0, 0, 0, 1, 11, 9, 0, 0, 0, 0, 0, 0, 1, 13, .neg 100, .neg 1, 11, 1, 0, 0, 0, 0, 0, 0, 0, 0,
    5, .neg 3, 9, 0, 0, 0, 0, 0, 11, .neg 100, .neg 2, 13, 7, 3, 0, 0, 0, 3, 7, 13, .neg 5, 9, 0,
    1, 3, 9, .neg 100, .neg 100, .neg 100, .neg 100, .neg 100, .neg 100, .neg 100, .neg 100,
    .neg 100, .neg 100, .neg 101]

/-- `lt1`. -/
def lt1 : List Int :=
  [.neg 100, .neg 100, .neg 4, 13, 5, 0, 3, .neg 100, .neg 3, 11, 1, 0, 0, 0, 7, .neg 100,
    .neg 2, 7, 0, 0, 0, 0, 0, 3, .neg 100, 13, 3, 0, 0, 0, 0, 0, 0, 5, .neg 100, 1, 0, 0, 0, 0,
    0, 0, 0, 9, .neg 100, 1, 0, 0, 0, 0, 0, 0, 0, 13, .neg 100, 13, 3, 0, 0, 0, 0, 0, 1,
    .neg 100, .neg 2, 5, 0, 0, 0, 0, 5, .neg 100, .neg 3, 0, 0, 0, 0, 9, .neg 100, .neg 3, 0, 0,
    0, 0, 11, .neg 100, .neg 3, 0, 0, 0, 0, 11, .neg 100, .neg 3, 0, 0, 0, 0, 9, .neg 100,
    .neg 3, 0, 0, 0, 0, 11, .neg 100, .neg 3, 0, 0, 0, 0, 11, .neg 100, .neg 3, 0, 0, 0, 0, 11,
    .neg 100, .neg 3, 0, 0, 0, 0, 3, 13, 9, 5, 3, 1, 0, 0, 1, 3, 5, 9, .neg 100, .neg 3, 0, 0, 0,
    0, 0, 0, 0, 0, 0, 0, 0, 0, 0, 0, 0, 0, 1, 13, .neg 100, .neg 3, 0, 0, 0, 0, 0, 5, 13, .neg 2,
    13, 11, 9, 5, 0, 0, 0, 0, 1, 13, .neg 100, .neg 3, 0, 0, 0, 0, 1, .neg 8, 13, 1, 0, 0, 0, 5,
    .neg 100, .neg 3, 3, 0, 0, 0, 5, .neg 9, 13, 0, 0, 0, 0, 11, .neg 100, .neg 3, 0, 0, 0, 0, 9,
    .neg 10, 7, 0, 0, 0, 5, .neg 100, .neg 3, 1, 0, 0, 0, 11, .neg 10, 13, 0, 0, 0, 0, .neg 100,
    .neg 3, 3, 0, 0, 0, 11, .neg 11, 3, 0, 0, 0, 11, .neg 100, .neg 3, 1, 0, 0, 0, 11, .neg 11,
    7, 0, 0, 0, 7, .neg 100, .neg 3, 0, 0, 0, 0, 11, .neg 11, 9, 0, 0, 0, 3, .neg 100, .neg 3, 0,
    0, 0, 0, 11, .neg 11, 11, 0, 0, 0, 1, .neg 100, .neg 3, 0, 0, 0, 0, 11, .neg 11, 11, 0, 0, 0,
    1, .neg 100, .neg 3, 0, 0, 0, 0, 11, .neg 11, 11, 0, 0, 0, 0, .neg 100, .neg 3, 0, 0, 0, 0,
    11, .neg 11, 9, 0, 0, 0, 0, .neg 100, .neg 3, 0, 0, 0, 0, 11, .neg 11, 7, 0, 0, 0, 3,
    .neg 100, .neg 3, 0, 0, 0, 0, 11, .neg 11, 3, 0, 0, 0, 7, .neg 100, .neg 3, 0, 0, 0, 0, 11,
    .neg 11, 0, 0, 0, 0, 11, .neg 100, .neg 3, 0, 0, 0, 0, 11, .neg 10, 9, 0, 0, 0, 3, .neg 100,
    .neg 3, 0, 0, 0, 0, 9, .neg 10, 3, 0, 0, 0, 11, .neg 100, .neg 3, 0, 0, 0, 0, 3, .neg 9, 11,
    0, 0, 0, 5, .neg 100, .neg 2, 13, 0, 0, 0, 0, 0, 9, .neg 7, 11, 1, 0, 0, 3, .neg 100, .neg 2,
    7, 0, 0, 0, 0, 0, 0, 7, 13, .neg 2, 13, 9, 3, 0, 0, 0, 3, 13, .neg 100, .neg 2, 13, 0, 0, 5,
    13, 11, 1, 0, 0, 0, 0, 0, 0, 0, 0, 0, 7, .neg 100, .neg 3, 9, 11, .neg 4, 7, 3, 1, 0, 0, 1,
    5, 9, 13, .neg 100, .neg 100, .neg 100, .neg 100, .neg 100, .neg 100, .neg 100, .neg 100,
    .neg 100, .neg 100, .neg 101]

/-- `lt2`. -/
def lt2 : List Int :=
  [.neg 100, .neg 100, .neg 100, .neg 100, .neg 100, .neg 100, .neg 100, .neg 100, .neg 100,
    .neg 100, .neg 100, .neg 100, .neg 100, .neg 100, .neg 100, .neg 100, .neg 100, .neg 6, 13,
    7, 3, 1, 0, 0, 1, 3, 7, 13, .neg 100, .neg 5, 9, 0, 0, 0, 0, 0, 0, 0, 0, 0, 0, 5, 13,
    .neg 100, .neg 3, 13, 3, 0, 0, 0, 5, 13, 13, 7, 0, 0, 0, 0, 0, 1, 13, .neg 100, .neg 2, 13,
    1, 0, 0, 0, 9, .neg 4, 7, 0, 0, 0, 0, 0, 1, .neg 100, .neg 1, 13, 1, 0, 0, 0, 9, .neg 6, 5,
    0, 0, 0, 0, 0, 13, .neg 100, .neg 1, 5, 0, 0, 0, 3, .neg 8, 1, 0, 0, 0, 3, .neg 100, 13, 0,
    0, 0, 0, 11, .neg 8, 13, 3, 0, 3, .neg 100, 7, 0, 0, 0, 1, .neg 100, 5, 0, 0, 0, 5, .neg 100,
    3, 0, 0, 0, 9, .neg 100, 1, 0, 0, 0, 11, .neg 100, 0, 0, 0, 0, 11, .neg 100, 0, 0, 0, 0, 11,
    .neg 100, 0, 0, 0, 0, 11, .neg 100, 0, 0, 0, 0, 9, .neg 100, 1, 0, 0, 0, 5, .neg 100, 5, 0,
    0, 0, 0, 13, .neg 100, 11, 0, 0, 0, 0, 7, .neg 100, .neg 1, 3, 0, 0, 0, 0, 13, .neg 100,
    .neg 1, 11, 0, 0, 0, 0, 3, .neg 12, 9, .neg 100, .neg 2, 7, 0, 0, 0, 0, 3, 13, .neg 8, 9, 1,
    3, .neg 100, .neg 3, 5, 0, 0, 0, 0, 1, 9, .neg 5, 9, 3, 0, 0, 11, .neg 100, .neg 4, 5, 0, 0,
    0, 0, 0, 0, 1, 1, 1, 0, 0, 0, 0, 11, .neg 100, .neg 5, 9, 1, 0, 0, 0, 0, 0, 0, 0, 0, 0, 3,
    13, .neg 100, .neg 7, 11, 7, 3, 1, 0, 1, 3, 7, 11, .neg 100, .neg 100, .neg 100, .neg 100,
    .neg 100, .neg 100, .neg 100, .neg 100, .neg 100, .neg 101]

/-- `lt3`. -/
def lt3 : List Int :=
  [.neg 100, .neg 100, .neg 100, .neg 100, .neg 18, 11, 3, 0, .neg 100, .neg 16, 13, 3, 0, 0, 0,
    .neg 100, .neg 14, 9, 3, 0, 0, 0, 0, 0, .neg 100, .neg 13, 3, 0, 0, 0, 0, 0, 0, 0, .neg 100,
    .neg 13, 0, 0, 0, 0, 0, 0, 0, 0, .neg 100, .neg 13, 9, 1, 0, 0, 0, 0, 0, 0, .neg 100,
    .neg 15, 13, 5, 0, 0, 0, 0, .neg 100, .neg 17, 1, 0, 0, 0, .neg 100, .neg 17, 3, 0, 0, 0,
    .neg 100, .neg 17, 1, 0, 0, 0, .neg 100, .neg 17, 0, 0, 0, 0, .neg 100, .neg 16, 13, 0, 0, 0,
    0, .neg 100, .neg 16, 13, 0, 0, 0, 0, .neg 100, .neg 6, 11, 5, 3, 1, 0, 0, 1, 5, 9, 13, 13,
    0, 0, 0, 0, .neg 100, .neg 4, 13, 3, 0, 0, 0, 0, 0, 0, 0, 0, 0, 0, 3, 0, 0, 0, 0, .neg 100,
    .neg 3, 13, 1, 0, 0, 0, 0, 5, 11, .neg 1, 13, 11, 3, 0, 0, 0, 0, 0, 0, .neg 100, .neg 2, 13,
    1, 0, 0, 0, 0, 7, .neg 6, 11, 0, 0, 0, 0, 0, .neg 100, .neg 2, 3, 0, 0, 0, 0, 9, .neg 8, 11,
    0, 0, 0, 0, .neg 100, .neg 1, 9, 0, 0, 0, 0, 7, .neg 9, 11, 0, 0, 0, 0, .neg 100, .neg 1, 1,
    0, 0, 0, 0, 13, .neg 9, 11, 0, 0, 0, 0, .neg 100, 11, 0, 0, 0, 0, 3, .neg 10, 11, 0, 0, 0, 0,
    .neg 100, 5, 0, 0, 0, 0, 13, .neg 10, 11, 0, 0, 0, 0, .neg 100, 3, 0, 0, 0, 3, .neg 11, 11,
    0, 0, 0, 0, .neg 100, 0, 0, 0, 0, 7, .neg 11, 11, 0, 0, 0, 0, .neg 100, 0, 0, 0, 0, 11,
    .neg 11, 11, 0, 0, 0, 0, .neg 100, 0, 0, 0, 0, 11, .neg 11, 11, 0, 0, 0, 0, .neg 100, 0, 0,
    0, 0, 11, .neg 11, 11, 0, 0, 0, 0, .neg 100, 1, 0, 0, 0, 9, .neg 11, 11, 0, 0, 0, 0,
    .neg 100, 3, 0, 0, 0, 7, .neg 11, 11, 0, 0, 0, 0, .neg 100, 7, 0, 0, 0, 3, .neg 11, 11, 0, 0,
    0, 0, .neg 100, 13, 0, 0, 0, 0, 13, .neg 10, 13, 0, 0, 0, 0, .neg 100, .neg 1, 3, 0, 0, 0, 5,
    .neg 11, 0, 0, 0, 0, .neg 100, .neg 1, 13, 0, 0, 0, 0, 11, .neg 10, 0, 0, 0, 0, .neg 100,
    .neg 2, 7, 0, 0, 0, 1, 13, .neg 8, 13, 0, 0, 0, 0, 13, .neg 100, .neg 3, 5, 0, 0, 0, 1, 11,
    .neg 7, 5, 0, 0, 0, 0, 9, .neg 100, .neg 4, 5, 0, 0, 0, 0, 3, 9, 13, .neg 1, 13, 11, 1, 0, 0,
    0, 0, 0, 0, 0, 5, .neg 100, .neg 5, 9, 1, 0, 0, 0, 0, 0, 0, 0, 0, 3, 0, 0, 0, 0, 0, 0, 0, 1,
    13, .neg 100, .neg 7, 9, 3, 1, 0, 0, 3, 7, 13, .neg 1, 11, 1, 0, 1, 5, 7, 11, .neg 100,
    .neg 18, 13, .neg 100, .neg 100, .neg 100, .neg 100, .neg 100, .neg 100, .neg 100, .neg 100,
    .neg 101]

/-- `lt5`. -/
def lt5 : List Int :=
  [.neg 100, .neg 100, .neg 100, .neg 100, .neg 9, 13, 9, 3, 1, 0, 1, 5, 13, .neg 100, .neg 8, 7,
    0, 0, 0, 0, 0, 0, 0, 3, .neg 100, .neg 7, 3, 0, 0, 0, 0, 0, 0, 0, 0, 1, .neg 100, .neg 6, 5,
    0, 0, 0, 0, 0, 0, 0, 0, 0, 3, .neg 100, .neg 5, 13, 0, 0, 3, 13, 9, 1, 0, 0, 0, 0, 11,
    .neg 100, .neg 5, 9, 0, 0, 13, .neg 2, 13, 5, 0, 1, 9, .neg 100, .neg 5, 5, 0, 0, .neg 100,
    .neg 5, 1, 0, 1, .neg 100, .neg 5, 1, 0, 0, .neg 100, .neg 5, 0, 0, 0, .neg 100, .neg 5, 0,
    0, 0, 13, .neg 100, .neg 5, 0, 0, 0, 9, .neg 100, .neg 5, 0, 0, 0, 7, .neg 100, .neg 5, 0, 0,
    0, 5, .neg 100, .neg 3, 13, 7, 0, 0, 0, 0, 9, .neg 1, 13, 11, 13, .neg 100, 3, 0, 0, 0, 0, 0,
    0, 0, 0, 0, 0, 0, 0, 0, 9, .neg 100, 3, 0, 0, 0, 0, 0, 0, 0, 0, 0, 0, 0, 0, 0, 9, .neg 100,
    .neg 1, 11, 13, .neg 1, 7, 0, 0, 0, 0, 5, .neg 1, 13, 11, 13, .neg 100, .neg 5, 0, 0, 0, 0,
    11, .neg 100, .neg 5, 0, 0, 0, 0, 11, .neg 100, .neg 5, 0, 0, 0, 0, 11, .neg 100, .neg 5, 0,
    0, 0, 0, 11, .neg 100, .neg 5, 0, 0, 0, 0, 11, .neg 100, .neg 5, 0, 0, 0, 0, 11, .neg 100,
    .neg 5, 0, 0, 0, 0, 11, .neg 100, .neg 5, 0, 0, 0, 0, 11, .neg 100, .neg 5, 0, 0, 0, 0, 11,
    .neg 100, .neg 5, 0, 0, 0, 0, 11, .neg 100, .neg 5, 0, 0, 0, 0, 11, .neg 100, .neg 5, 0, 0,
    0, 0, 11, .neg 100, .neg 5, 0, 0, 0, 0, 11, .neg 100, .neg 5, 0, 0, 0, 0, 11, .neg 100,
    .neg 5, 0, 0, 0, 0, 11, .neg 100, .neg 5, 0, 0, 0, 0, 7, .neg 100, .neg 3, 13, 5, 0, 0, 0, 0,
    0, 7, 13, .neg 100, .neg 1, 5, 0, 0, 0, 0, 0, 0, 0, 0, 0, 0, 0, 1, 11, .neg 100, .neg 1, 7,
    1, 0, 0, 0, 0, 0, 0, 0, 0, 1, 3, 7, 13, .neg 100, .neg 100, .neg 100, .neg 100, .neg 100,
    .neg 100, .neg 100, .neg 100, .neg 100, .neg 100, .neg 101]

/-- `lt7`. -/
def lt7 : List Int :=
  [.neg 100, .neg 100, .neg 100, .neg 100, .neg 4, 13, 7, 1, 9, .neg 100, .neg 2, 13, 7, 0, 0, 0,
    3, .neg 100, .neg 1, 7, 0, 0, 0, 0, 0, 5, .neg 100, 1, 0, 0, 0, 0, 0, 0, 7, .neg 100, 3, 0,
    0, 0, 0, 0, 0, 7, .neg 100, 13, 7, 0, 0, 0, 0, 0, 9, .neg 100, .neg 2, 5, 0, 0, 0, 0, 9,
    .neg 100, .neg 2, 11, 0, 0, 0, 0, 9, .neg 100, .neg 3, 0, 0, 0, 0, 9, .neg 100, .neg 3, 0, 0,
    0, 0, 11, .neg 100, .neg 3, 0, 0, 0, 0, 11, .neg 100, .neg 3, 0, 0, 0, 0, 11, .neg 100,
    .neg 3, 0, 0, 0, 0, 11, .neg 100, .neg 3, 0, 0, 0, 0, 11, .neg 100, .neg 3, 0, 0, 0, 0, 11,
    .neg 5, 11, 5, 1, 0, 1, 7, .neg 100, .neg 3, 0, 0, 0, 0, 11, .neg 3, 13, 3, 0, 0, 0, 0, 0, 0,
    3, .neg 100, .neg 3, 0, 0, 0, 0, 11, .neg 2, 7, 0, 0, 0, 0, 0, 0, 0, 0, 0, 9, .neg 100,
    .neg 3, 0, 0, 0, 0, 11, 11, 3, 0, 5, 11, .neg 1, 13, 9, 1, 0, 0, 0, 3, .neg 100, .neg 3, 0,
    0, 0, 0, 3, 0, 1, 11, .neg 6, 1, 0, 0, 0, 13, .neg 100, .neg 3, 0, 0, 0, 0, 0, 5, .neg 8, 11,
    0, 0, 0, 11, .neg 100, .neg 3, 0, 0, 0, 0, 11, .neg 10, 0, 0, 0, 7, .neg 100, .neg 3, 0, 0,
    0, 0, 13, .neg 10, 0, 0, 0, 7, .neg 100, .neg 3, 0, 0, 0, 0, 11, .neg 10, 0, 0, 0, 7,
    .neg 100, .neg 3, 0, 0, 0, 0, 11, .neg 10, 0, 0, 0, 7, .neg 100, .neg 3, 0, 0, 0, 0, 13,
    .neg 10, 0, 0, 0, 9, .neg 100, .neg 3, 0, 0, 0, 0, 13, .neg 10, 0, 0, 0, 9, .neg 100, .neg 3,
    0, 0, 0, 0, .neg 11, 0, 0, 0, 11, .neg 100, .neg 3, 0, 0, 0, 1, .neg 11, 0, 0, 0, 13,
    .neg 100, .neg 3, 0, 0, 0, 1, .neg 11, 0, 0, 0, 13, .neg 100, .neg 3, 0, 0, 0, 3, .neg 11, 0,
    0, 0, .neg 100, .neg 3, 0, 0, 0, 3, .neg 11, 0, 0, 0, .neg 100, .neg 3, 0, 0, 0, 3, .neg 11,
    0, 0, 0, .neg 100, .neg 3, 0, 0, 0, 3, .neg 10, 13, 0, 0, 0, 13, .neg 100, .neg 3, 0, 0, 0,
    1, .neg 10, 13, 0, 0, 0, 11, .neg 100, .neg 2, 9, 0, 0, 0, 0, .neg 10, 11, 0, 0, 0, 5,
    .neg 100, .neg 1, 7, 0, 0, 0, 0, 0, 5, 13, .neg 7, 13, 3, 0, 0, 0, 0, 7, .neg 100, 5, 0, 0,
    0, 0, 0, 0, 0, 0, 3, .neg 5, 1, 0, 0, 0, 0, 0, 0, 1, 3, 11, .neg 100, .neg 100, .neg 100,
    .neg 100, .neg 100, .neg 100, .neg 100, .neg 100, .neg 100, .neg 100, .neg 101]

/-- `lt8`. -/
def lt8 : List Int :=
  [.neg 100, .neg 100, .neg 100, .neg 100, .neg 3, 5, 1, 0, 3, 11, .neg 100, .neg 2, 7, 0, 0, 0,
    0, 0, 11, .neg 100, .neg 2, 1, 0, 0, 0, 0, 0, 5, .neg 100, .neg 2, 0, 0, 0, 0, 0, 0, 5,
    .neg 100, .neg 2, 5, 0, 0, 0, 0, 0, 11, .neg 100, .neg 3, 7, 0, 0, 3, 9, .neg 100, .neg 4,
    13, .neg 100, .neg 100, .neg 100, .neg 100, .neg 100, .neg 100, .neg 100, .neg 4, 11, 3, 0,
    9, .neg 100, .neg 2, 9, 3, 0, 0, 0, 9, .neg 100, 11, 1, 0, 0, 0, 0, 0, 7, .neg 100, 1, 0, 0,
    0, 0, 0, 0, 7, .neg 100, 1, 0, 0, 0, 0, 0, 0, 9, .neg 100, .neg 1, 11, 0, 0, 0, 0, 0, 9,
    .neg 100, .neg 2, 7, 0, 0, 0, 0, 11, .neg 100, .neg 3, 0, 0, 0, 0, 13, .neg 100, .neg 3, 1,
    0, 0, 0, .neg 100, .neg 3, 1, 0, 0, 0, 13, .neg 100, .neg 3, 1, 0, 0, 0, 13, .neg 100,
    .neg 3, 0, 0, 0, 0, 11, .neg 100, .neg 3, 0, 0, 0, 0, 11, .neg 100, .neg 3, 0, 0, 0, 0, 11,
    .neg 100, .neg 3, 0, 0, 0, 0, 11, .neg 100, .neg 3, 0, 0, 0, 0, 11, .neg 100, .neg 3, 0, 0,
    0, 0, 11, .neg 100, .neg 3, 0, 0, 0, 0, 11, .neg 100, .neg 3, 0, 0, 0, 0, 11, .neg 100,
    .neg 2, 13, 0, 0, 0, 0, 7, .neg 100, .neg 2, 13, 0, 0, 0, 0, 1, .neg 100, .neg 2, 7, 0, 0, 0,
    0, 0, 9, .neg 100, 7, 0, 0, 0, 0, 0, 0, 0, 0, 3, .neg 100, 9, 5, 1, 1, 0, 0, 1, 1, 3, 5,
    .neg 100, .neg 100, .neg 100, .neg 100, .neg 100, .neg 100, .neg 100, .neg 100, .neg 100,
    .neg 100, .neg 101]

/-- `lt9`. -/
def lt9 : List Int :=
  [.neg 100, .neg 100, .neg 100, .neg 100, .neg 6, 5, 0, 1, 5, 13, .neg 100, .neg 5, 5, 0, 0, 0,
    0, 1, .neg 100, .neg 5, 1, 0, 0, 0, 0, 0, 13, .neg 100, .neg 5, 0, 0, 0, 0, 0, 0, .neg 100,
    .neg 5, 5, 0, 0, 0, 0, 3, .neg 100, .neg 6, 7, 1, 0, 5, 13, .neg 100, .neg 100, .neg 100,
    .neg 100, .neg 100, .neg 100, .neg 100, .neg 100, .neg 6, 13, 7, 3, 0, 13, .neg 100, .neg 5,
    7, 0, 0, 0, 0, 11, .neg 100, .neg 3, 7, 1, 0, 0, 0, 0, 0, 11, .neg 100, .neg 2, 13, 0, 0, 0,
    0, 0, 0, 0, 11, .neg 100, .neg 3, 11, 3, 0, 0, 0, 0, 0, 11, .neg 100, .neg 5, 9, 0, 0, 0, 0,
    11, .neg 100, .neg 6, 1, 0, 0, 0, 11, .neg 100, .neg 6, 3, 0, 0, 0, 11, .neg 100, .neg 6, 5,
    0, 0, 0, 11, .neg 100, .neg 6, 5, 0, 0, 0, 11, .neg 100, .neg 6, 5, 0, 0, 0, 11, .neg 100,
    .neg 6, 5, 0, 0, 0, 11, .neg 100, .neg 6, 3, 0, 0, 0, 11, .neg 100, .neg 6, 3, 0, 0, 0, 11,
    .neg 100, .neg 6, 1, 0, 0, 0, 11, .neg 100, .neg 6, 1, 0, 0, 0, 13, .neg 100, .neg 6, 1, 0,
    0, 0, 13, .neg 100, .neg 6, 1, 0, 0, 0, 13, .neg 100, .neg 6, 1, 0, 0, 0, 13, .neg 100,
    .neg 6, 1, 0, 0, 0, 13, .neg 100, .neg 6, 1, 0, 0, 0, .neg 100, .neg 6, 1, 0, 0, 0, .neg 100,
    .neg 6, 1, 0, 0, 1, .neg 100, .neg 6, 1, 0, 0, 3, .neg 100, .neg 6, 0, 0, 0, 5, .neg 100,
    .neg 6, 0, 0, 0, 7, .neg 100, .neg 6, 0, 0, 0, 11, .neg 100, 11, 0, 0, 0, 5, 5, 0, 0, 5,
    .neg 100, 3, 0, 0, 0, 0, 0, 0, 3, .neg 100, 0, 0, 0, 0, 0, 0, 0, 13, .neg 100, 1, 0, 0, 0, 0,
    0, 11, .neg 100, 13, 3, 0, 0, 3, 11, .neg 100, .neg 100, .neg 101]

/-- `lt10`. -/
def lt10 : List Int :=
  [.neg 100, .neg 100, .neg 100, .neg 100, .neg 6, 9, 1, 13, .neg 100, .neg 3, 13, 5, 0, 0, 0,
    11, .neg 100, .neg 1, 13, 5, 0, 0, 0, 0, 0, 11, .neg 100, 13, 1, 0, 0, 0, 0, 0, 0, 11,
    .neg 100, 3, 0, 0, 0, 0, 0, 0, 0, 11, .neg 100, 11, 3, 0, 0, 0, 0, 0, 0, 11, .neg 100,
    .neg 2, 13, 0, 0, 0, 0, 0, 11, .neg 100, .neg 3, 9, 0, 0, 0, 0, 11, .neg 100, .neg 4, 0, 0,
    0, 0, 11, .neg 100, .neg 4, 0, 0, 0, 0, 11, .neg 100, .neg 4, 0, 0, 0, 0, 11, .neg 100,
    .neg 4, 0, 0, 0, 0, 11, .neg 100, .neg 4, 0, 0, 0, 0, 11, .neg 100, .neg 4, 0, 0, 0, 0, 11,
    .neg 100, .neg 4, 0, 0, 0, 0, 11, .neg 100, .neg 4, 0, 0, 0, 0, 11, .neg 7, 3, 0, 0, 0, 0, 0,
    0, 0, 0, 0, 3, .neg 100, .neg 4, 0, 0, 0, 0, 11, .neg 7, 5, 0, 0, 0, 0, 0, 0, 0, 1, 7, 13,
    .neg 100, .neg 4, 0, 0, 0, 0, 11, .neg 8, 9, 0, 0, 0, 1, 9, .neg 100, .neg 4, 0, 0, 0, 0, 11,
    .neg 7, 13, 1, 0, 0, 7, .neg 100, .neg 4, 0, 0, 0, 0, 11, .neg 7, 5, 0, 3, 13, .neg 100,
    .neg 4, 0, 0, 0, 0, 11, .neg 6, 5, 0, 5, .neg 100, .neg 4, 0, 0, 0, 0, 11, .neg 5, 5, 1, 11,
    .neg 100, .neg 4, 0, 0, 0, 0, 11, .neg 3, 11, 3, 1, .neg 100, .neg 4, 0, 0, 0, 0, 11, .neg 1,
    11, 3, 0, 0, 1, .neg 100, .neg 4, 0, 0, 0, 0, 11, 9, 0, 0, 0, 0, 0, 11, .neg 100, .neg 4, 0,
    0, 0, 0, 0, 0, 1, 0, 0, 0, 0, 3, .neg 100, .neg 4, 0, 0, 0, 0, 0, 9, .neg 1, 11, 1, 0, 0, 0,
    9, .neg 100, .neg 4, 0, 0, 0, 0, 5, .neg 4, 3, 0, 0, 0, 11, .neg 100, .neg 4, 0, 0, 0, 0, 11,
    .neg 4, 13, 1, 0, 0, 0, 13, .neg 100, .neg 4, 0, 0, 0, 0, 11, .neg 5, 11, 0, 0, 0, 1, 13,
    .neg 100, .neg 4, 0, 0, 0, 0, 11, .neg 6, 3, 0, 0, 0, 3, .neg 100, .neg 4, 0, 0, 0, 0, 11,
    .neg 6, 11, 0, 0, 0, 0, 7, .neg 100, .neg 4, 0, 0, 0, 0, 11, .neg 7, 3, 0, 0, 0, 0, 7,
    .neg 100, .neg 3, 13, 0, 0, 0, 0, 11, .neg 7, 13, 0, 0, 0, 0, 0, 7, .neg 100, .neg 2, 13, 3,
    0, 0, 0, 0, 7, .neg 7, 9, 0, 0, 0, 0, 0, 0, 3, 11, .neg 100, .neg 1, 1, 0, 0, 0, 0, 0, 0, 0,
    0, 1, 3, .neg 4, 0, 0, 0, 0, 0, 0, 0, 0, 0, 0, 3, .neg 100, .neg 1, 7, 1, 0, 0, 0, 0, 0, 0,
    0, 0, 7, .neg 4, 3, 0, 0, 0, 0, 0, 0, 1, 1, 5, 9, .neg 100, .neg 100, .neg 100, .neg 100,
    .neg 100, .neg 100, .neg 100, .neg 100, .neg 100, .neg 100, .neg 101]

/-- `lt11`. -/
def lt11 : List Int :=
  [.neg 100, .neg 100, .neg 100, .neg 6, 11, 7, 11, .neg 100, .neg 4, 11, 3, 0, 0, 5, .neg 100,
    .neg 3, 5, 0, 0, 0, 0, 5, .neg 100, .neg 1, 11, 1, 0, 0, 0, 0, 0, 7, .neg 100, 7, 0, 0, 0, 0,
    0, 0, 0, 7, .neg 100, 0, 0, 0, 0, 0, 0, 0, 0, 9, .neg 100, 7, 0, 0, 0, 0, 0, 0, 0, 9,
    .neg 100, .neg 2, 9, 1, 0, 0, 0, 0, 9, .neg 100, .neg 3, 11, 0, 0, 0, 0, 11, .neg 100,
    .neg 4, 0, 0, 0, 0, 11, .neg 100, .neg 4, 0, 0, 0, 0, 11, .neg 100, .neg 4, 0, 0, 0, 0, 11,
    .neg 100, .neg 4, 0, 0, 0, 0, 11, .neg 100, .neg 4, 0, 0, 0, 0, 11, .neg 100, .neg 4, 0, 0,
    0, 0, 11, .neg 100, .neg 4, 0, 0, 0, 0, 11, .neg 100, .neg 4, 0, 0, 0, 0, 11, .neg 100,
    .neg 4, 0, 0, 0, 0, 11, .neg 100, .neg 4, 0, 0, 0, 0, 11, .neg 100, .neg 4, 0, 0, 0, 0, 11,
    .neg 100, .neg 4, 0, 0, 0, 0, 11, .neg 100, .neg 4, 0, 0, 0, 0, 11, .neg 100, .neg 4, 0, 0,
    0, 0, 11, .neg 100, .neg 4, 0, 0, 0, 0, 11, .neg 100, .neg 4, 0, 0, 0, 0, 11, .neg 100,
    .neg 4, 0, 0, 0, 0, 11, .neg 100, .neg 4, 0, 0, 0, 0, 11, .neg 100, .neg 4, 0, 0, 0, 0, 11,
    .neg 100, .neg 4, 0, 0, 0, 0, 11, .neg 100, .neg 4, 0, 0, 0, 0, 11, .neg 100, .neg 4, 0, 0,
    0, 0, 11, .neg 100, .neg 4, 0, 0, 0, 0, 11, .neg 100, .neg 4, 0, 0, 0, 0, 11, .neg 100,
    .neg 4, 0, 0, 0, 0, 11, .neg 100, .neg 4, 0, 0, 0, 0, 7, .neg 100, .neg 3, 5, 0, 0, 0, 0, 0,
    13, .neg 100, .neg 1, 9, 1, 0, 0, 0, 0, 0, 0, 0, 1, 9, .neg 100, .neg 1, 5, 1, 0, 0, 0, 0, 0,
    0, 0, 1, 11, .neg 100, .neg 100, .neg 100, .neg 100, .neg 100, .neg 100, .neg 100, .neg 100,
    .neg 100, .neg 100, .neg 101]

/-- `lt12`. -/
def lt12 : List Int :=
  [.neg 100, .neg 100, .neg 100, .neg 100, .neg 100, .neg 100, .neg 100, .neg 100, .neg 100,
    .neg 100, .neg 100, .neg 100, .neg 100, .neg 100, .neg 100, .neg 100, .neg 100, .neg 5, 11,
    5, 0, .neg 21, 7, 1, 0, 3, 9, .neg 100, .neg 4, 7, 0, 0, 0, 13, .neg 4, 11, 5, 1, 1, 0, 1, 7,
    .neg 7, 11, 3, 0, 0, 0, 0, 0, 5, .neg 100, .neg 2, 11, 1, 0, 0, 0, 0, 11, .neg 2, 9, 1, 0, 0,
    0, 0, 0, 0, 0, 9, .neg 4, 13, 5, 0, 0, 0, 0, 0, 0, 0, 0, 7, .neg 100, 13, 3, 0, 0, 0, 0, 0,
    0, 7, 13, 3, 0, 0, 0, 1, 0, 0, 0, 0, 0, 0, 7, .neg 1, 13, 7, 0, 0, 0, 0, 0, 0, 0, 0, 0, 0, 0,
    11, .neg 100, 3, 0, 0, 0, 0, 0, 0, 0, 1, 0, 0, 5, 11, .neg 3, 11, 0, 0, 0, 0, 0, 0, 0, 3, 9,
    13, 13, .neg 3, 7, 0, 0, 0, 0, 5, .neg 100, 13, 3, 0, 0, 0, 0, 0, 0, 0, 7, 13, .neg 6, 3, 0,
    0, 0, 0, 0, 9, .neg 8, 5, 0, 0, 0, 1, .neg 100, .neg 2, 11, 0, 0, 0, 0, 0, 3, .neg 8, 9, 0,
    0, 0, 0, 7, .neg 9, 11, 0, 0, 0, 0, .neg 100, .neg 3, 3, 0, 0, 0, 0, 7, .neg 8, 13, 0, 0, 0,
    0, .neg 10, 11, 0, 0, 0, 0, .neg 100, .neg 3, 7, 0, 0, 0, 0, 11, .neg 9, 0, 0, 0, 0, .neg 10,
    11, 0, 0, 0, 1, .neg 100, .neg 3, 11, 0, 0, 0, 0, 11, .neg 9, 0, 0, 0, 0, .neg 10, 11, 0, 0,
    0, 3, .neg 100, .neg 3, 13, 0, 0, 0, 0, 11, .neg 8, 13, 0, 0, 0, 0, .neg 10, 11, 0, 0, 0, 5,
    .neg 100, .neg 3, 13, 0, 0, 0, 0, 11, .neg 8, 11, 0, 0, 0, 0, .neg 10, 11, 0, 0, 0, 5,
    .neg 100, .neg 4, 0, 0, 0, 0, 13, .neg 8, 9, 0, 0, 0, 0, .neg 10, 11, 0, 0, 0, 5, .neg 100,
    .neg 4, 0, 0, 0, 0, 13, .neg 8, 11, 0, 0, 0, 0, .neg 10, 11, 0, 0, 0, 3, .neg 100, .neg 4, 0,
    0, 0, 0, 13, .neg 8, 11, 0, 0, 0, 0, .neg 10, 11, 0, 0, 0, 0, .neg 100, .neg 3, 13, 0, 0, 0,
    1, .neg 9, 13, 0, 0, 0, 0, .neg 10, 11, 0, 0, 0, 0, .neg 100, .neg 3, 11, 0, 0, 0, 13,
    .neg 10, 0, 0, 0, 0, .neg 10, 11, 0, 0, 0, 0, .neg 100, .neg 4, 0, 0, 0, 11, .neg 10, 0, 0,
    0, 0, .neg 10, 11, 0, 0, 0, 0, .neg 100, .neg 3, 13, 0, 0, 0, 3, .neg 9, 13, 0, 0, 0, 0, 13,
    .neg 9, 9, 0, 0, 0, 0, .neg 100, .neg 3, 7, 0, 0, 0, 0, 13, .neg 8, 11, 0, 0, 0, 0, 11,
    .neg 9, 7, 0, 0, 0, 0, 13, .neg 100, .neg 3, 3, 0, 0, 0, 0, 9, .neg 8, 5, 0, 0, 0, 0, 5,
    .neg 9, 5, 0, 0, 0, 0, 7, .neg 100, .neg 1, 13, 3, 0, 0, 0, 0, 0, 1, 11, .neg 6, 9, 0, 0, 0,
    0, 0, 0, 3, .neg 7, 11, 1, 0, 0, 0, 0, 1, 13, .neg 100, 11, 0, 0, 0, 0, 0, 0, 0, 0, 0, 3,
    .neg 4, 3, 0, 0, 0, 0, 0, 0, 0, 0, 5, .neg 5, 1, 0, 0, 0, 0, 0, 0, 0, 0, 9, .neg 100, 13, 1,
    0, 0, 0, 0, 0, 0, 0, 1, 9, .neg 4, 1, 0, 0, 0, 0, 0, 0, 0, 1, 5, .neg 5, 1, 0, 0, 0, 0, 0, 0,
    0, 0, 7, .neg 100, .neg 100, .neg 100, .neg 100, .neg 100, .neg 100, .neg 100, .neg 100,
    .neg 100, .neg 100, .neg 101]

/-- `lt13`. -/
def lt13 : List Int :=
  [.neg 100, .neg 100, .neg 100, .neg 100, .neg 100, .neg 100, .neg 100, .neg 100, .neg 100,
    .neg 100, .neg 100, .neg 100, .neg 100, .neg 100, .neg 100, .neg 100, .neg 100, .neg 3, 13,
    7, 3, 0, 13, .neg 5, 13, 7, 1, 0, 0, 3, 7, .neg 100, .neg 2, 5, 0, 0, 0, 0, .neg 4, 13, 3, 0,
    0, 0, 0, 0, 0, 0, 7, .neg 100, 7, 1, 0, 0, 0, 0, 0, .neg 3, 7, 0, 0, 0, 0, 0, 0, 0, 0, 0, 0,
    13, .neg 100, 1, 0, 0, 0, 0, 0, 0, 13, 9, 1, 0, 5, 11, 13, .neg 1, 11, 3, 0, 0, 0, 0, 9,
    .neg 100, 13, 3, 0, 0, 0, 0, 0, 1, 1, 7, .neg 7, 3, 0, 0, 0, 3, .neg 100, .neg 2, 1, 0, 0, 0,
    0, 7, .neg 9, 13, 0, 0, 0, 1, .neg 100, .neg 2, 7, 0, 0, 0, 0, .neg 11, 1, 0, 0, 0, .neg 100,
    .neg 2, 9, 0, 0, 0, 0, .neg 11, 1, 0, 0, 0, 13, .neg 100, .neg 2, 11, 0, 0, 0, 0, .neg 11, 3,
    0, 0, 0, 13, .neg 100, .neg 2, 11, 0, 0, 0, 0, .neg 11, 5, 0, 0, 0, 11, .neg 100, .neg 2, 11,
    0, 0, 0, 0, .neg 11, 3, 0, 0, 0, 11, .neg 100, .neg 2, 11, 0, 0, 0, 0, .neg 11, 1, 0, 0, 0,
    11, .neg 100, .neg 2, 11, 0, 0, 0, 0, .neg 11, 0, 0, 0, 0, 11, .neg 100, .neg 2, 11, 0, 0, 0,
    0, .neg 11, 0, 0, 0, 0, 11, .neg 100, .neg 2, 11, 0, 0, 0, 0, .neg 11, 1, 0, 0, 0, 11,
    .neg 100, .neg 2, 11, 0, 0, 0, 0, .neg 11, 3, 0, 0, 0, 11, .neg 100, .neg 2, 11, 0, 0, 0, 0,
    .neg 11, 3, 0, 0, 0, 11, .neg 100, .neg 2, 11, 0, 0, 0, 0, 13, .neg 10, 5, 0, 0, 0, 11,
    .neg 100, .neg 2, 11, 0, 0, 0, 0, 13, .neg 10, 5, 0, 0, 0, 11, .neg 100, .neg 2, 11, 0, 0, 0,
    0, 9, .neg 10, 5, 0, 0, 0, 9, .neg 100, .neg 2, 7, 0, 0, 0, 0, 5, .neg 10, 3, 0, 0, 0, 7,
    .neg 100, .neg 1, 13, 1, 0, 0, 0, 0, 1, 11, .neg 7, 11, 5, 0, 0, 0, 0, 0, 3, 9, .neg 100,
    .neg 1, 1, 0, 0, 0, 0, 0, 0, 0, 0, 3, .neg 4, 3, 0, 0, 0, 0, 0, 0, 0, 0, 0, 3, .neg 100,
    .neg 1, 0, 0, 0, 0, 0, 0, 0, 0, 0, 3, .neg 4, 5, 1, 0, 0, 0, 0, 0, 0, 0, 0, 1, .neg 100,
    .neg 100, .neg 100, .neg 100, .neg 100, .neg 100, .neg 100, .neg 100, .neg 100, .neg 100,
    .neg 101]

/-- `lt14`. -/
def lt14 : List Int :=
  [.neg 100, .neg 100, .neg 100, .neg 100, .neg 100, .neg 100, .neg 100, .neg 100, .neg 100,
    .neg 100, .neg 100, .neg 100, .neg 100, .neg 100, .neg 100, .neg 100, .neg 100, .neg 7, 13,
    7, 3, 1, 0, 0, 1, 5, 9, .neg 100, .neg 6, 7, 0, 0, 0, 0, 0, 0, 0, 0, 0, 1, 7, .neg 100,
    .neg 4, 11, 1, 0, 0, 1, 9, 13, .neg 1, 13, 11, 5, 0, 0, 0, 3, 13, .neg 100, .neg 3, 11, 0, 0,
    0, 3, 13, .neg 6, 13, 1, 0, 0, 0, 13, .neg 100, .neg 2, 11, 0, 0, 0, 1, 13, .neg 8, 13, 0, 0,
    0, 5, .neg 100, .neg 2, 0, 0, 0, 0, 9, .neg 10, 5, 0, 0, 0, 11, .neg 100, .neg 1, 7, 0, 0, 0,
    1, .neg 11, 13, 0, 0, 0, 1, .neg 100, .neg 1, 1, 0, 0, 0, 5, .neg 12, 1, 0, 0, 0, 9,
    .neg 100, 11, 0, 0, 0, 0, 11, .neg 12, 5, 0, 0, 0, 3, .neg 100, 7, 0, 0, 0, 0, 13, .neg 12,
    9, 0, 0, 0, 0, .neg 100, 3, 0, 0, 0, 0, 13, .neg 12, 11, 0, 0, 0, 0, .neg 100, 1, 0, 0, 0, 0,
    .neg 13, 11, 0, 0, 0, 1, .neg 100, 0, 0, 0, 0, 0, .neg 13, 11, 0, 0, 0, 1, .neg 100, 0, 0, 0,
    0, 0, 13, .neg 12, 11, 0, 0, 0, 0, .neg 100, 1, 0, 0, 0, 0, 13, .neg 12, 9, 0, 0, 0, 1,
    .neg 100, 5, 0, 0, 0, 0, 11, .neg 12, 5, 0, 0, 0, 3, .neg 100, 9, 0, 0, 0, 0, 9, .neg 12, 3,
    0, 0, 0, 7, .neg 100, .neg 1, 1, 0, 0, 0, 5, .neg 12, 0, 0, 0, 0, 11, .neg 100, .neg 1, 9, 0,
    0, 0, 3, .neg 11, 13, 0, 0, 0, 3, .neg 100, .neg 2, 3, 0, 0, 0, 13, .neg 10, 7, 0, 0, 0, 11,
    .neg 100, .neg 2, 13, 1, 0, 0, 3, .neg 9, 13, 0, 0, 0, 7, .neg 100, .neg 3, 13, 1, 0, 0, 3,
    13, .neg 6, 13, 1, 0, 0, 5, .neg 100, .neg 4, 13, 1, 0, 0, 1, 7, 13, .neg 3, 9, 0, 0, 0, 7,
    .neg 100, .neg 6, 7, 0, 0, 0, 0, 0, 0, 0, 0, 0, 3, 11, .neg 100, .neg 7, 13, 7, 3, 0, 0, 0,
    0, 3, 11, .neg 100, .neg 100, .neg 100, .neg 100, .neg 100, .neg 100, .neg 100, .neg 100,
    .neg 100, .neg 101]

/-- `lt15`. -/
def lt15 : List Int :=
  [.neg 100, .neg 100, .neg 100, .neg 100, .neg 100, .neg 100, .neg 100, .neg 100, .neg 100,
    .neg 100, .neg 100, .neg 100, .neg 100, .neg 100, .neg 100, .neg 100, .neg 6, 11, 7,
    .neg 100, .neg 4, 11, 3, 0, 0, 7, 11, 5, 3, 0, 0, 0, 1, 5, 9, .neg 100, .neg 2, 11, 3, 0, 0,
    0, 0, 0, 0, 0, 0, 0, 0, 0, 0, 0, 0, 5, .neg 100, 13, 5, 0, 0, 0, 0, 0, 0, 0, 1, 7, 11, 13,
    .neg 1, 13, 3, 0, 0, 0, 5, .neg 100, 1, 0, 0, 0, 0, 0, 0, 0, 3, .neg 7, 7, 0, 0, 0, 7,
    .neg 100, 1, 0, 0, 0, 0, 0, 0, 0, 11, .neg 8, 7, 0, 0, 0, 13, .neg 100, .neg 1, 11, 5, 0, 0,
    0, 0, 0, 11, .neg 9, 1, 0, 0, 3, .neg 100, .neg 3, 7, 0, 0, 0, 0, 11, .neg 9, 5, 0, 0, 0, 11,
    .neg 100, .neg 3, 9, 0, 0, 0, 0, 11, .neg 9, 9, 0, 0, 0, 5, .neg 100, .neg 3, 11, 0, 0, 0, 0,
    11, .neg 9, 11, 0, 0, 0, 0, 13, .neg 100, .neg 3, 11, 0, 0, 0, 0, 11, .neg 9, 13, 0, 0, 0, 0,
    11, .neg 100, .neg 3, 13, 0, 0, 0, 0, 11, .neg 10, 0, 0, 0, 0, 11, .neg 100, .neg 3, 13, 0,
    0, 0, 0, 11, .neg 10, 0, 0, 0, 0, 11, .neg 100, .neg 3, 13, 0, 0, 0, 0, 11, .neg 10, 0, 0, 0,
    0, 11, .neg 100, .neg 4, 0, 0, 0, 0, 11, .neg 10, 0, 0, 0, 0, 13, .neg 100, .neg 4, 0, 0, 0,
    0, 11, .neg 10, 0, 0, 0, 0, 13, .neg 100, .neg 4, 0, 0, 0, 0, 13, .neg 10, 0, 0, 0, 0,
    .neg 100, .neg 4, 0, 0, 0, 9, .neg 11, 0, 0, 0, 3, .neg 100, .neg 4, 0, 0, 0, 3, .neg 11, 0,
    0, 0, 9, .neg 100, .neg 4, 0, 0, 0, 0, 13, .neg 10, 0, 0, 0, 13, .neg 100, .neg 4, 0, 0, 0,
    0, 11, .neg 9, 5, 0, 0, 0, .neg 100, .neg 4, 0, 0, 0, 0, 11, .neg 8, 7, 0, 0, 0, 7, .neg 100,
    .neg 4, 0, 0, 0, 0, 5, .neg 7, 9, 0, 0, 0, 3, .neg 100, .neg 4, 0, 0, 0, 0, 0, 3, 11, 13,
    .neg 3, 9, 0, 0, 0, 1, .neg 100, .neg 4, 0, 0, 0, 0, 5, 7, 0, 0, 0, 1, 1, 0, 0, 0, 1, 13,
    .neg 100, .neg 4, 0, 0, 0, 0, 11, .neg 2, 9, 5, 1, 0, 0, 3, 7, .neg 100, .neg 4, 0, 0, 0, 0,
    11, .neg 100, .neg 4, 0, 0, 0, 0, 11, .neg 100, .neg 4, 0, 0, 0, 0, 11, .neg 100, .neg 4, 0,
    0, 0, 0, 7, .neg 100, .neg 4, 0, 0, 0, 0, 3, .neg 100, .neg 3, 7, 0, 0, 0, 0, 0, 9, .neg 100,
    .neg 1, 5, 0, 0, 0, 0, 0, 0, 0, 0, 0, 0, 5, .neg 100, .neg 1, 3, 1, 0, 0, 0, 0, 0, 0, 0, 0,
    0, 5, .neg 100, .neg 101]

/-- `lt16`. -/
def lt16 : List Int :=
  [.neg 100, .neg 100, .neg 100, .neg 100, .neg 100, .neg 100, .neg 100, .neg 100, .neg 100,
    .neg 100, .neg 100, .neg 100, .neg 100, .neg 100, .neg 100, .neg 100, .neg 19, 7, 11,
    .neg 100, .neg 6, 11, 5, 1, 0, 0, 1, 5, 11, .neg 4, 5, 0, 3, .neg 100, .neg 4, 13, 3, 0, 0,
    0, 0, 0, 0, 0, 0, 1, 11, 13, 5, 0, 0, 1, .neg 100, .neg 3, 13, 1, 0, 0, 1, 5, 11, .neg 3, 11,
    3, 0, 0, 0, 0, 0, 3, .neg 100, .neg 2, 13, 1, 0, 0, 3, .neg 8, 3, 0, 0, 0, 0, 5, .neg 100,
    .neg 1, 13, 1, 0, 0, 0, 13, .neg 8, 7, 0, 0, 0, 0, 5, .neg 100, .neg 1, 3, 0, 0, 0, 5,
    .neg 9, 11, 0, 0, 0, 0, 7, .neg 100, 9, 0, 0, 0, 0, 11, .neg 9, 13, 0, 0, 0, 0, 9, .neg 100,
    3, 0, 0, 0, 0, .neg 10, 13, 0, 0, 0, 0, 9, .neg 100, 1, 0, 0, 0, 1, .neg 11, 0, 0, 0, 0, 9,
    .neg 100, 0, 0, 0, 0, 3, .neg 11, 0, 0, 0, 0, 11, .neg 100, 0, 0, 0, 0, 5, .neg 11, 0, 0, 0,
    0, 11, .neg 100, 0, 0, 0, 0, 9, .neg 11, 0, 0, 0, 0, 11, .neg 100, 0, 0, 0, 0, 11, .neg 11,
    0, 0, 0, 0, 11, .neg 100, 0, 0, 0, 0, 11, .neg 11, 0, 0, 0, 0, 11, .neg 100, 1, 0, 0, 0, 11,
    .neg 11, 0, 0, 0, 0, 11, .neg 100, 3, 0, 0, 0, 9, .neg 11, 0, 0, 0, 0, 11, .neg 100, 7, 0, 0,
    0, 5, .neg 11, 0, 0, 0, 0, 11, .neg 100, 11, 0, 0, 0, 0, .neg 11, 0, 0, 0, 0, 11, .neg 100,
    .neg 1, 1, 0, 0, 0, 7, .neg 9, 11, 0, 0, 0, 0, 11, .neg 100, .neg 1, 9, 0, 0, 0, 0, 13,
    .neg 8, 9, 0, 0, 0, 0, 11, .neg 100, .neg 2, 3, 0, 0, 0, 1, 13, .neg 7, 5, 0, 0, 0, 0, 11,
    .neg 100, .neg 2, 13, 3, 0, 0, 0, 1, 9, 13, .neg 3, 13, 7, 0, 0, 0, 0, 0, 11, .neg 100,
    .neg 4, 9, 1, 0, 0, 0, 0, 0, 1, 0, 0, 0, 0, 0, 0, 0, 0, 11, .neg 100, .neg 6, 11, 7, 3, 1, 0,
    0, 5, 9, .neg 1, 13, 0, 0, 0, 0, 11, .neg 100, .neg 16, 0, 0, 0, 0, 13, .neg 100, .neg 16, 0,
    0, 0, 0, 13, .neg 100, .neg 16, 0, 0, 0, 0, 13, .neg 100, .neg 16, 0, 0, 0, 0, 13, .neg 100,
    .neg 15, 13, 0, 0, 0, 0, 13, .neg 100, .neg 15, 9, 0, 0, 0, 0, 11, .neg 100, .neg 15, 1, 0,
    0, 0, 0, 5, .neg 100, .neg 12, 7, 5, 1, 0, 0, 0, 0, 0, 0, 1, 3, 9, .neg 100, .neg 11, 13, 1,
    0, 0, 0, 0, 0, 0, 0, 0, 0, 0, 7, .neg 100, .neg 101]

/-- `lt17`. -/
def lt17 : List Int :=
  [.neg 100, .neg 100, .neg 100, .neg 100, .neg 100, .neg 100, .neg 100, .neg 100, .neg 100,
    .neg 100, .neg 100, .neg 100, .neg 100, .neg 100, .neg 100, .neg 100, .neg 100, .neg 3, 13,
    5, 0, 3, .neg 5, 9, 3, 1, 0, 0, 3, .neg 100, .neg 1, 11, 3, 0, 0, 0, 0, .neg 3, 7, 0, 0, 0,
    0, 0, 0, 0, 5, .neg 100, 9, 0, 0, 0, 0, 0, 0, .neg 2, 3, 0, 0, 0, 0, 0, 0, 0, 0, 1, .neg 100,
    0, 0, 0, 0, 0, 0, 0, 11, 3, 0, 0, 0, 0, 0, 0, 0, 0, 0, 1, .neg 100, 3, 0, 0, 0, 0, 0, 0, 0,
    0, 0, 0, 0, 0, 0, 0, 0, 0, 0, 9, .neg 100, .neg 1, 7, 0, 0, 0, 0, 0, 0, 7, 13, .neg 2, 11, 7,
    3, 1, 3, 11, .neg 100, .neg 2, 3, 0, 0, 0, 0, 3, .neg 100, .neg 2, 7, 0, 0, 0, 0, 9,
    .neg 100, .neg 2, 11, 0, 0, 0, 0, 13, .neg 100, .neg 2, 13, 0, 0, 0, 0, .neg 100, .neg 3, 0,
    0, 0, 0, .neg 100, .neg 3, 0, 0, 0, 0, 13, .neg 100, .neg 3, 0, 0, 0, 0, 13, .neg 100,
    .neg 3, 0, 0, 0, 0, 13, .neg 100, .neg 3, 0, 0, 0, 0, 11, .neg 100, .neg 3, 0, 0, 0, 0, 11,
    .neg 100, .neg 3, 0, 0, 0, 0, 11, .neg 100, .neg 3, 0, 0, 0, 0, 11, .neg 100, .neg 3, 0, 0,
    0, 0, 11, .neg 100, .neg 3, 0, 0, 0, 0, 11, .neg 100, .neg 3, 0, 0, 0, 0, 9, .neg 100,
    .neg 1, 13, 3, 0, 0, 0, 0, 1, 13, .neg 100, 3, 0, 0, 0, 0, 0, 0, 0, 0, 0, 0, 13, .neg 100, 5,
    1, 0, 0, 0, 0, 0, 0, 0, 0, 3, 13, .neg 100, .neg 100, .neg 100, .neg 100, .neg 100, .neg 100,
    .neg 100, .neg 100, .neg 100, .neg 100, .neg 101]

/-- `lt18`. -/
def lt18 : List Int :=
  [.neg 100, .neg 100, .neg 100, .neg 100, .neg 100, .neg 100, .neg 100, .neg 100, .neg 100,
    .neg 100, .neg 100, .neg 100, .neg 100, .neg 100, .neg 100, .neg 100, .neg 100, .neg 3, 13,
    7, 1, 0, 1, 3, 9, 11, 9, 9, 13, .neg 100, .neg 2, 13, 1, 0, 0, 0, 0, 0, 0, 0, 0, 0, 5,
    .neg 100, .neg 2, 1, 0, 5, 13, .neg 1, 13, 11, 3, 0, 0, 0, 1, .neg 100, .neg 1, 9, 0, 1,
    .neg 6, 9, 0, 0, 0, 13, .neg 100, .neg 1, 3, 0, 9, .neg 7, 11, 1, 0, 9, .neg 100, .neg 1, 0,
    0, .neg 9, 13, 1, 5, .neg 100, .neg 1, 0, 0, 11, .neg 9, 13, 11, .neg 100, 13, 0, 0, 1, 13,
    .neg 100, 13, 0, 0, 0, 1, 9, .neg 100, .neg 1, 0, 0, 0, 0, 0, 0, 5, 9, .neg 100, .neg 1, 5,
    0, 0, 0, 0, 0, 0, 0, 1, 7, 13, .neg 100, .neg 1, 13, 0, 0, 0, 0, 0, 0, 0, 0, 0, 0, 9,
    .neg 100, .neg 2, 13, 1, 0, 0, 0, 0, 0, 0, 0, 0, 0, 7, .neg 100, .neg 4, 11, 5, 0, 0, 0, 0,
    0, 0, 0, 0, 7, .neg 100, .neg 7, 9, 5, 0, 0, 0, 0, 0, 0, 13, .neg 100, .neg 9, 13, 7, 0, 0,
    0, 0, 7, .neg 100, .neg 11, 13, 3, 0, 0, 3, .neg 100, .neg 13, 0, 0, 0, .neg 100, 7, 5,
    .neg 11, 1, 0, 0, .neg 100, 1, 0, 5, .neg 10, 1, 0, 3, .neg 100, 0, 0, 0, 3, .neg 9, 0, 0, 9,
    .neg 100, 1, 0, 0, 0, 3, 13, .neg 6, 5, 0, 3, .neg 100, 7, 0, 0, 0, 0, 1, 7, 11, 13, 13, 9,
    3, 0, 1, 13, .neg 100, 13, 0, 0, 0, 0, 0, 0, 0, 0, 0, 0, 0, 3, 13, .neg 100, .neg 1, 5, 3, 9,
    7, 3, 1, 0, 0, 1, 5, 11, .neg 100, .neg 100, .neg 100, .neg 100, .neg 100, .neg 100,
    .neg 100, .neg 100, .neg 100, .neg 101]

/-- `lt19`. -/
def lt19 : List Int :=
  [.neg 100, .neg 100, .neg 100, .neg 100, .neg 100, .neg 100, .neg 100, .neg 100, .neg 100,
    .neg 100, .neg 6, 5, 0, 5, .neg 100, .neg 5, 13, 0, 0, 0, 7, .neg 100, .neg 5, 7, 0, 0, 0, 9,
    .neg 100, .neg 5, 3, 0, 0, 0, 13, .neg 100, .neg 4, 11, 0, 0, 0, 0, .neg 100, .neg 4, 3, 0,
    0, 0, 0, .neg 100, .neg 3, 5, 0, 0, 0, 0, 1, .neg 100, .neg 2, 3, 0, 0, 0, 0, 0, 7, .neg 100,
    13, 1, 0, 0, 0, 0, 0, 0, 1, 11, .neg 100, 3, 0, 0, 0, 0, 0, 0, 0, 0, 0, 0, 0, 0, 0, 5, 13,
    .neg 100, 1, 0, 0, 0, 0, 0, 0, 0, 0, 0, 0, 0, 0, 0, 5, .neg 100, .neg 3, 9, 0, 0, 0, 0, 7,
    13, .neg 100, .neg 4, 0, 0, 0, 0, 11, .neg 100, .neg 4, 1, 0, 0, 0, 11, .neg 100, .neg 4, 1,
    0, 0, 0, 11, .neg 100, .neg 4, 0, 0, 0, 0, 11, .neg 100, .neg 4, 0, 0, 0, 0, 11, .neg 100,
    .neg 4, 0, 0, 0, 0, 11, .neg 100, .neg 4, 0, 0, 0, 0, 11, .neg 100, .neg 4, 1, 0, 0, 0, 11,
    .neg 100, .neg 4, 3, 0, 0, 0, 11, .neg 100, .neg 4, 5, 0, 0, 0, 11, .neg 100, .neg 4, 3, 0,
    0, 0, 11, .neg 100, .neg 4, 3, 0, 0, 0, 11, .neg 100, .neg 4, 1, 0, 0, 0, 9, .neg 100,
    .neg 4, 0, 0, 0, 0, 5, .neg 100, .neg 4, 0, 0, 0, 0, 1, .neg 100, .neg 4, 1, 0, 0, 0, 0, 11,
    .neg 100, .neg 4, 3, 0, 0, 0, 0, 1, 13, .neg 1, 9, 5, 1, 3, .neg 100, .neg 4, 9, 0, 0, 0, 0,
    0, 0, 0, 0, 0, 0, 5, .neg 100, .neg 5, 5, 0, 0, 0, 0, 0, 0, 0, 0, 5, .neg 100, .neg 6, 9, 3,
    1, 0, 0, 1, 5, 11, .neg 100, .neg 100, .neg 100, .neg 100, .neg 100, .neg 100, .neg 100,
    .neg 100, .neg 100, .neg 101]

/-- `lt20`. -/
def lt20 : List Int :=
  [.neg 100, .neg 100, .neg 100, .neg 100, .neg 100, .neg 100, .neg 100, .neg 100, .neg 100,
    .neg 100, .neg 100, .neg 100, .neg 100, .neg 100, .neg 100, .neg 100, .neg 4, 13, 9, 1, 0,
    13, .neg 11, 11, 5, 1, 5, .neg 100, .neg 2, 11, 3, 0, 0, 0, 0, 11, .neg 8, 11, 5, 0, 0, 0, 0,
    1, .neg 100, 13, 3, 0, 0, 0, 0, 0, 0, 11, .neg 6, 7, 1, 0, 0, 0, 0, 0, 0, 7, .neg 100, 5, 0,
    0, 0, 0, 0, 0, 0, 11, .neg 5, 5, 0, 0, 0, 0, 0, 0, 0, 0, 11, .neg 100, 11, 1, 0, 0, 0, 0, 0,
    0, 11, .neg 5, 9, 0, 0, 0, 0, 0, 0, 0, 0, 11, .neg 100, .neg 2, 11, 1, 0, 0, 0, 0, 11,
    .neg 6, 13, 7, 3, 0, 0, 0, 0, 0, 11, .neg 100, .neg 3, 9, 0, 0, 0, 0, 11, .neg 9, 9, 0, 0, 0,
    0, 11, .neg 100, .neg 3, 11, 0, 0, 0, 0, 11, .neg 10, 0, 0, 0, 0, 11, .neg 100, .neg 3, 13,
    0, 0, 0, 0, 11, .neg 10, 0, 0, 0, 0, 11, .neg 100, .neg 4, 0, 0, 0, 0, 11, .neg 10, 0, 0, 0,
    0, 11, .neg 100, .neg 4, 0, 0, 0, 0, 11, .neg 10, 0, 0, 0, 0, 11, .neg 100, .neg 4, 0, 0, 0,
    0, 11, .neg 10, 0, 0, 0, 0, 11, .neg 100, .neg 4, 0, 0, 0, 0, 11, .neg 10, 0, 0, 0, 0, 11,
    .neg 100, .neg 4, 0, 0, 0, 0, 11, .neg 10, 0, 0, 0, 0, 11, .neg 100, .neg 4, 0, 0, 0, 0, 11,
    .neg 10, 0, 0, 0, 0, 11, .neg 100, .neg 4, 0, 0, 0, 0, 11, .neg 10, 0, 0, 0, 0, 11, .neg 100,
    .neg 4, 0, 0, 0, 0, 11, .neg 10, 0, 0, 0, 0, 11, .neg 100, .neg 4, 1, 0, 0, 0, 11, .neg 9,
    13, 0, 0, 0, 0, 11, .neg 100, .neg 4, 1, 0, 0, 0, 11, .neg 9, 5, 0, 0, 0, 0, 11, .neg 100,
    .neg 4, 5, 0, 0, 0, 7, .neg 8, 7, 0, 0, 0, 0, 0, 11, .neg 100, .neg 4, 7, 0, 0, 0, 0, 13,
    .neg 5, 13, 5, 0, 0, 0, 0, 0, 0, 11, .neg 100, .neg 4, 13, 0, 0, 0, 0, 1, 11, .neg 1, 13, 11,
    5, 0, 0, 7, 5, 0, 0, 0, 0, 3, 13, .neg 100, .neg 5, 3, 0, 0, 0, 0, 0, 0, 0, 0, 0, 3, 13,
    .neg 2, 0, 0, 0, 0, 0, 0, 7, .neg 100, .neg 5, 11, 0, 0, 0, 0, 0, 0, 0, 1, 9, .neg 4, 0, 0,
    0, 0, 0, 0, 0, .neg 100, .neg 6, 13, 5, 1, 0, 1, 3, 9, .neg 6, 3, 1, 3, 7, 9, 11, 13,
    .neg 100, .neg 100, .neg 100, .neg 100, .neg 100, .neg 100, .neg 100, .neg 100, .neg 100,
    .neg 100, .neg 101]

/-- `lt21`. -/
def lt21 : List Int :=
  [.neg 100, .neg 100, .neg 100, .neg 100, .neg 100, .neg 100, .neg 100, .neg 100, .neg 100,
    .neg 100, .neg 100, .neg 100, .neg 100, .neg 100, .neg 100, .neg 100, .neg 100, .neg 6, 13,
    9, 1, 3, 13, .neg 5, 13, 1, 0, 0, 0, 0, 1, 3, 9, .neg 100, 1, 0, 0, 0, 0, 0, 0, 0, 0, 0, 1,
    .neg 5, 1, 0, 0, 0, 0, 0, 0, 0, 0, 9, .neg 100, 3, 0, 0, 0, 0, 0, 0, 0, 0, 0, 5, .neg 5, 3,
    0, 0, 0, 0, 0, 0, 0, 0, 13, .neg 100, .neg 1, 9, 3, 0, 0, 0, 0, 0, 5, 13, .neg 7, 13, 9, 0,
    0, 0, 0, 1, 11, .neg 100, .neg 3, 7, 0, 0, 0, 0, .neg 11, 7, 0, 0, 5, .neg 100, .neg 4, 0, 0,
    0, 0, 9, .neg 10, 9, 0, 5, .neg 100, .neg 4, 5, 0, 0, 0, 1, .neg 10, 5, 0, 11, .neg 100,
    .neg 4, 11, 0, 0, 0, 0, 9, .neg 9, 0, 1, .neg 100, .neg 5, 1, 0, 0, 0, 3, .neg 8, 9, 0, 7,
    .neg 100, .neg 5, 7, 0, 0, 0, 0, 13, .neg 7, 3, 0, 13, .neg 100, .neg 5, 13, 0, 0, 0, 0, 7,
    .neg 6, 13, 0, 3, .neg 100, .neg 6, 3, 0, 0, 0, 1, .neg 6, 7, 0, 11, .neg 100, .neg 6, 9, 0,
    0, 0, 0, 9, .neg 5, 0, 1, .neg 100, .neg 6, 13, 0, 0, 0, 0, 3, .neg 4, 7, 0, 7, .neg 100,
    .neg 7, 5, 0, 0, 0, 0, 11, .neg 3, 1, 0, 13, .neg 100, .neg 7, 11, 0, 0, 0, 0, 1, .neg 2, 9,
    0, 5, .neg 100, .neg 8, 1, 0, 0, 0, 0, 5, .neg 1, 1, 0, 11, .neg 100, .neg 8, 7, 0, 0, 0, 0,
    0, 0, 0, 3, .neg 100, .neg 8, 13, 0, 0, 0, 0, 0, 0, 0, 9, .neg 100, .neg 9, 3, 0, 0, 0, 0, 0,
    1, .neg 100, .neg 9, 9, 0, 0, 0, 0, 0, 7, .neg 100, .neg 10, 0, 0, 0, 0, 0, 13, .neg 100,
    .neg 10, 5, 0, 0, 0, 1, .neg 100, .neg 10, 13, 1, 0, 0, 7, .neg 100, .neg 11, 11, 1, 5,
    .neg 100, .neg 100, .neg 100, .neg 100, .neg 100, .neg 100, .neg 100, .neg 100, .neg 100,
    .neg 101]

/-- `lt22`. -/
def lt22 : List Int :=
  [.neg 100, .neg 100, .neg 100, .neg 100, .neg 100, .neg 100, .neg 100, .neg 100, .neg 100,
    .neg 100, .neg 100, .neg 100, .neg 100, .neg 100, .neg 100, .neg 100, .neg 29, 13, .neg 100,
    5, 0, 0, 1, 1, 1, 3, 3, 5, 7, .neg 3, 7, 0, 0, 0, 0, 0, 0, 0, 0, 0, 11, .neg 4, 3, 0, 0, 0,
    0, 0, 0, 1, 3, 11, .neg 100, 5, 0, 0, 0, 0, 0, 0, 0, 1, 7, .neg 3, 9, 0, 0, 0, 0, 0, 0, 0, 0,
    1, 11, .neg 4, 9, 1, 0, 0, 0, 0, 0, 0, 1, 13, .neg 100, .neg 1, 13, 5, 0, 0, 0, 0, 0, 13,
    .neg 5, 13, 5, 0, 0, 0, 0, 0, 3, .neg 8, 9, 0, 0, 0, 0, 5, .neg 100, .neg 3, 5, 0, 0, 0, 0,
    .neg 8, 11, 0, 0, 0, 0, 9, .neg 9, 9, 0, 0, 9, .neg 100, .neg 4, 1, 0, 0, 0, 13, .neg 8, 11,
    0, 0, 0, 3, .neg 10, 0, 3, .neg 100, .neg 4, 7, 0, 0, 0, 11, .neg 8, 13, 0, 0, 0, 0, 13,
    .neg 8, 9, 0, 11, .neg 100, .neg 4, 13, 0, 0, 0, 7, .neg 8, 11, 0, 0, 0, 0, 7, .neg 8, 1, 1,
    .neg 100, .neg 5, 5, 0, 0, 1, .neg 8, 7, 0, 0, 0, 0, 3, .neg 8, 5, 11, .neg 100, .neg 5, 11,
    0, 0, 0, 9, .neg 7, 1, 0, 0, 0, 0, 0, 13, .neg 100, .neg 6, 0, 0, 0, 3, .neg 6, 9, 0, 3, 13,
    0, 0, 0, 7, .neg 6, 5, .neg 100, .neg 6, 3, 0, 0, 0, 13, .neg 5, 1, 0, 11, .neg 1, 3, 0, 0,
    3, .neg 6, 1, .neg 100, .neg 6, 9, 0, 0, 0, 9, .neg 4, 11, 0, 3, .neg 2, 7, 0, 0, 0, 13,
    .neg 4, 11, 1, .neg 100, .neg 6, 13, 0, 0, 0, 3, .neg 4, 5, 0, 9, .neg 2, 13, 0, 0, 0, 7,
    .neg 4, 5, 3, .neg 100, .neg 7, 3, 0, 0, 0, 13, .neg 3, 1, 1, .neg 4, 0, 0, 0, 1, .neg 4, 1,
    7, .neg 100, .neg 7, 9, 0, 0, 0, 5, .neg 2, 13, 0, 7, .neg 4, 5, 0, 0, 0, 9, .neg 2, 9, 0,
    13, .neg 100, .neg 8, 1, 0, 0, 0, 13, .neg 1, 7, 1, .neg 5, 11, 0, 0, 0, 1, .neg 2, 1, 3,
    .neg 100, .neg 8, 7, 0, 0, 0, 1, 13, 1, 5, .neg 6, 1, 0, 0, 0, 13, 9, 0, 9, .neg 100, .neg 8,
    13, 0, 0, 0, 0, 0, 0, 11, .neg 6, 7, 0, 0, 0, 1, 0, 1, .neg 100, .neg 9, 3, 0, 0, 0, 0, 3,
    .neg 7, 13, 0, 0, 0, 0, 0, 9, .neg 100, .neg 9, 9, 0, 0, 0, 0, 5, .neg 8, 3, 0, 0, 0, 0, 13,
    .neg 100, .neg 9, 13, 0, 0, 0, 0, 11, .neg 8, 9, 0, 0, 0, 1, .neg 100, .neg 10, 3, 0, 0, 0,
    .neg 10, 3, 0, 0, 5, .neg 100, .neg 10, 11, 0, 0, 7, .neg 10, 13, 1, 1, 13, .neg 100,
    .neg 11, 11, 11, .neg 100, .neg 100, .neg 100, .neg 100, .neg 100, .neg 100, .neg 100,
    .neg 100, .neg 100, .neg 100, .neg 101]

/-- `lt23`. -/
def lt23 : List Int :=
  [.neg 100, .neg 100, .neg 100, .neg 100, .neg 100, .neg 100, .neg 100, .neg 100, .neg 100,
    .neg 100, .neg 100, .neg 100, .neg 100, .neg 100, .neg 100, .neg 100, .neg 100, .neg 100,
    .neg 16, 13, 13, .neg 1, 13, 9, 5, 1, 0, 1, 5, 13, .neg 100, .neg 1, 3, 0, 0, 0, 0, 0, 0, 0,
    0, 1, 7, .neg 4, 1, 0, 0, 0, 0, 0, 0, 0, 0, 0, 1, .neg 100, .neg 1, 1, 0, 0, 0, 0, 0, 0, 0,
    0, 1, 11, .neg 4, 7, 0, 0, 0, 0, 0, 0, 0, 0, 0, 5, .neg 100, .neg 2, 13, 7, 0, 0, 0, 0, 0, 0,
    13, .neg 6, 13, 5, 0, 0, 0, 0, 5, 9, 13, .neg 100, .neg 4, 13, 3, 0, 0, 0, 0, 3, .neg 7, 13,
    0, 0, 5, 13, .neg 100, .neg 6, 3, 0, 0, 0, 0, 5, .neg 6, 7, 0, 7, .neg 100, .neg 7, 3, 0, 0,
    0, 0, 11, .neg 4, 11, 0, 9, .neg 100, .neg 8, 5, 0, 0, 0, 1, .neg 3, 11, 0, 7, .neg 100,
    .neg 9, 3, 0, 0, 0, 1, 11, 11, 0, 7, .neg 100, .neg 9, 13, 1, 0, 0, 0, 0, 0, 7, .neg 100,
    .neg 10, 13, 1, 0, 0, 0, 0, 9, .neg 100, .neg 11, 11, 0, 0, 0, 0, 1, .neg 100, .neg 12, 0, 0,
    0, 0, 0, 7, .neg 100, .neg 11, 9, 0, 0, 0, 0, 0, 0, 11, .neg 100, .neg 10, 9, 0, 5, 13, 3, 0,
    0, 0, 1, 13, .neg 100, .neg 9, 11, 0, 3, .neg 2, 13, 1, 0, 0, 0, 1, 13, .neg 100, .neg 8, 11,
    0, 3, 13, .neg 3, 13, 1, 0, 0, 0, 1, 13, .neg 100, .neg 7, 9, 0, 1, 13, .neg 5, 11, 0, 0, 0,
    0, 1, 13, .neg 100, .neg 6, 9, 0, 0, 7, .neg 7, 9, 0, 0, 0, 0, 1, 11, .neg 100, .neg 5, 5, 0,
    0, 0, 13, .neg 8, 7, 0, 0, 0, 0, 0, 9, .neg 100, .neg 3, 13, 3, 0, 0, 0, 0, 13, .neg 8, 13,
    0, 0, 0, 0, 0, 0, 5, .neg 100, 9, 3, 1, 0, 0, 0, 0, 0, 0, 1, 11, .neg 6, 11, 1, 0, 0, 0, 0,
    0, 0, 0, 1, 3, 13, .neg 100, 3, 0, 0, 0, 0, 0, 0, 0, 0, 0, 3, .neg 6, 11, 5, 3, 1, 0, 0, 0,
    1, 1, 3, 5, .neg 100, 13, 13, 13, 13, .neg 100, .neg 100, .neg 100, .neg 100, .neg 100,
    .neg 100, .neg 100, .neg 100, .neg 100, .neg 101]

/-- `lt24`. -/
def lt24 : List Int :=
  [.neg 100, .neg 100, .neg 100, .neg 100, .neg 100, .neg 100, .neg 100, .neg 100, .neg 100,
    .neg 100, .neg 100, .neg 100, .neg 100, .neg 100, .neg 100, .neg 100, .neg 100, .neg 1, 13,
    13, .neg 2, 13, 13, 11, 11, 11, 13, .neg 6, 11, 11, 11, 11, 11, 11, 11, 11, 13, .neg 100, 3,
    0, 0, 0, 0, 0, 0, 0, 0, 0, 0, 3, .neg 4, 1, 0, 0, 0, 0, 0, 0, 0, 0, 1, .neg 100, 7, 0, 0, 0,
    0, 0, 0, 0, 0, 0, 0, 5, .neg 4, 3, 0, 0, 0, 0, 0, 0, 0, 0, 9, .neg 100, .neg 2, 11, 5, 0, 0,
    0, 0, 0, 0, 11, .neg 6, 11, 0, 0, 0, 0, 1, 7, 13, .neg 100, .neg 4, 11, 0, 0, 0, 0, 0,
    .neg 8, 9, 0, 0, 1, 13, .neg 100, .neg 5, 7, 0, 0, 0, 0, 13, .neg 7, 9, 0, 0, 13, .neg 100,
    .neg 6, 1, 0, 0, 0, 9, .neg 7, 5, 0, 5, .neg 100, .neg 6, 7, 0, 0, 0, 3, .neg 7, 1, 0, 13,
    .neg 100, .neg 6, 13, 0, 0, 0, 0, 13, .neg 5, 11, 0, 1, .neg 100, .neg 7, 5, 0, 0, 0, 7,
    .neg 5, 7, 0, 7, .neg 100, .neg 7, 11, 0, 0, 0, 3, .neg 5, 1, 0, 11, .neg 100, .neg 8, 1, 0,
    0, 0, 13, .neg 3, 13, 0, 3, .neg 100, .neg 8, 7, 0, 0, 0, 7, .neg 3, 7, 0, 9, .neg 100,
    .neg 8, 13, 0, 0, 0, 3, .neg 3, 1, 1, .neg 100, .neg 9, 5, 0, 0, 0, 13, .neg 1, 9, 0, 7,
    .neg 100, .neg 9, 11, 0, 0, 0, 3, 13, 1, 0, 13, .neg 100, .neg 10, 1, 0, 0, 0, 0, 0, 3,
    .neg 100, .neg 10, 9, 0, 0, 0, 0, 0, 9, .neg 100, .neg 11, 1, 0, 0, 0, 1, .neg 100, .neg 11,
    5, 0, 0, 0, 7, .neg 100, .neg 11, 9, 0, 0, 0, 13, .neg 100, .neg 11, 13, 0, 0, 3, .neg 100,
    .neg 12, 0, 0, 9, .neg 100, .neg 12, 0, 1, .neg 100, .neg 11, 13, 0, 7, .neg 100, .neg 11, 7,
    0, 11, .neg 100, .neg 11, 1, 0, .neg 100, .neg 2, 7, 0, 1, 7, .neg 4, 11, 0, 3, .neg 100,
    .neg 1, 11, 0, 0, 0, 0, 1, 9, 13, 11, 1, 0, 9, .neg 100, .neg 1, 3, 0, 0, 0, 0, 0, 0, 0, 0,
    0, 3, .neg 100, .neg 1, 0, 0, 0, 0, 0, 0, 0, 0, 0, 1, 13, .neg 100, .neg 1, 7, 0, 0, 0, 0, 0,
    0, 0, 1, 13, .neg 100, .neg 2, 9, 3, 0, 0, 1, 3, 7, .neg 100, .neg 101]

/-- `lt`, which has the script of `a` in three places. -/
def lt : List (List Int) :=
  [lt0, lt1, lt2, lt3, lt0, lt5, lt0, lt7, lt8, lt9, lt10, lt11, lt12, lt13, lt14, lt15, lt16,
    lt17, lt18, lt19, lt20, lt21, lt22, lt23, lt24]

/-- `sw`. -/
def sw : List Int :=
  [0, 4, 8, 12, 16, 20, 23, 27, 31, 35, 39, 43, 47, 50, 54, 58, 61, 65, 68, 71, 75, 78, 81, 84,
    87, 90, 93, 96, 98, 101, 103, 105, 108, 110, 112, 114, 115, 117, 119, 120, 121, 122, 123,
    124, 125, 126, 126, 127, 127, 127, 127, 127, 127, 127, 126, 126, 125, 124, 123, 122, 121,
    120, 119, 117, 115, 114, 112, 110, 108, 105, 103, 101, 98, 96, 93, 90, 87, 84, 81, 78, 75,
    71, 68, 65, 61, 58, 54, 50, 47, 43, 39, 35, 31, 27, 23, 20, 16, 12, 8, 4, 0, .neg 4, .neg 8,
    .neg 12, .neg 16, .neg 20, .neg 23, .neg 27, .neg 31, .neg 35, .neg 39, .neg 43, .neg 47,
    .neg 50, .neg 54, .neg 58, .neg 61, .neg 65, .neg 68, .neg 71, .neg 75, .neg 78, .neg 81,
    .neg 84, .neg 87, .neg 90, .neg 93, .neg 96, .neg 98, .neg 101, .neg 103, .neg 105, .neg 108,
    .neg 110, .neg 112, .neg 114, .neg 115, .neg 117, .neg 119, .neg 120, .neg 121, .neg 122,
    .neg 123, .neg 124, .neg 125, .neg 126, .neg 126, .neg 127, .neg 127, .neg 127, .neg 127,
    .neg 127, .neg 127, .neg 127, .neg 126, .neg 126, .neg 125, .neg 124, .neg 123, .neg 122,
    .neg 121, .neg 120, .neg 119, .neg 117, .neg 115, .neg 114, .neg 112, .neg 110, .neg 108,
    .neg 105, .neg 103, .neg 101, .neg 98, .neg 96, .neg 93, .neg 90, .neg 87, .neg 84, .neg 81,
    .neg 78, .neg 75, .neg 71, .neg 68, .neg 65, .neg 61, .neg 58, .neg 54, .neg 50, .neg 47,
    .neg 43, .neg 39, .neg 35, .neg 31, .neg 27, .neg 23, .neg 20, .neg 16, .neg 12, .neg 8,
    .neg 4]

end Banjax.Captcha
