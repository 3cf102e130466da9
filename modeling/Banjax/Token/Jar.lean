import Banjax.Lib.Bytes
import Mathlib.Data.List.DropRight

/-!
# The cookie jar

`Cookie::consume` of `cookie.cpp`, which reads one `name=value` pair off the front
of a `Cookie` header, and the loop of `check_cookie` that looks for the cookie
named `deflect`.

The view is that of a whole `std::string`.  Where the code reads `cookie_s[0]` of
an empty view it sees the terminator of the string, which is not `=`.

Each pair that is read shortens the view (`consume_length_lt`), so the loop makes
at most as many rounds as the header has bytes.
-/

namespace Banjax

open Lib

/-- A cookie. -/
structure Cookie where
  name : Bytes := []
  value : Bytes := []
deriving DecidableEq, Repr

namespace Cookie

/-- A byte of a name token. -/
def isNameByte (c : UInt8) : Bool := c ≠ 59 && c ≠ 61 && !isSpace c && c ≠ 0

/-- The value token: up to a `;`, a NUL or the end of the line. -/
def valueToken : Bytes → Bytes
  | [] => []
  | c :: s => if c = 59 || c = 0 || (c = 13 && s.head? = some 10) then [] else c :: valueToken s

/-- What follows the name and its `=` signs: the value, and the view after it. -/
def consumeValue (name s : Bytes) : Option Cookie × Bytes :=
  let s := s.dropWhile isSpace
  let token := valueToken s
  let rest := s.drop token.length
  (some ⟨name, token.rdropWhile isSpace⟩, if rest.head? = some 59 then rest.tail else rest)

/-- `Cookie::consume`: the pair read and the view after it. -/
def consume (s : Bytes) : Option Cookie × Bytes :=
  let s := s.dropWhile isSpace
  if s = [] then (none, s)
  else
    let name := s.takeWhile isNameByte
    -- Bail out if the name token is empty.
    if name = [] && s.head? ≠ some 61 then
      if s.head? = some 59 then (some {}, s.tail) else (none, s)
    else
      let s := (s.drop name.length).dropWhile isSpace
      match s with
      | [] => (some ⟨name, []⟩, [])
      | c :: s =>
          if c = 0 || c = 59 then (some ⟨name, []⟩, s)
          -- `a===b` is read as `a=b`.
          else if c = 61 then consumeValue name (s.dropWhile (· = 61))
          -- No spaces in the name token are allowed.
          else (none, c :: s)

/-! ## Progress -/

theorem consumeValue_length_le {name s rest : Bytes} {c : Option Cookie}
    (h : consumeValue name s = (c, rest)) : rest.length ≤ s.length := by
  have htrim : (s.dropWhile isSpace).length ≤ s.length := List.length_dropWhile_le ..
  have hrest : rest.length ≤ (s.dropWhile isSpace).length := by
    cases h
    split
    · simp only [List.length_tail, List.length_drop]
      omega
    · simp only [List.length_drop]
      omega
  exact hrest.trans htrim

/-- A pair that is read shortens the view. -/
theorem consume_length_lt {s rest : Bytes} {c : Cookie} (h : consume s = (some c, rest)) :
    rest.length < s.length := by
  have htrim : (s.dropWhile isSpace).length ≤ s.length := List.length_dropWhile_le ..
  unfold consume at h
  generalize s.dropWhile isSpace = v at h htrim
  cases v with
  | nil => simp at h
  | cons x v =>
      rw [if_neg (by simp)] at h
      dsimp only at h
      split at h
      · split at h
        · cases h
          simp at htrim
          exact htrim
        · simp at h
      · next hname =>
        have hle : (((x :: v).drop ((x :: v).takeWhile isNameByte).length).dropWhile
            isSpace).length ≤ (x :: v).length := by
          refine (List.length_dropWhile_le ..).trans ?_
          simp
        split at h
        · cases h
          simp at htrim ⊢
          omega
        · next y w hw =>
          rw [hw] at hle
          have hlt : w.length < s.length := by
            simp at hle htrim
            omega
          split at h
          · cases h
            exact hlt
          · split at h
            · have h1 := consumeValue_length_le h
              have h2 : (w.dropWhile (· = 61)).length ≤ w.length := List.length_dropWhile_le ..
              omega
            · simp at h

end Cookie

/-! ## Looking for the challenge cookie -/

/-- The loop of `check_cookie`: the value of the first cookie named `deflect`. -/
def findDeflect : Nat → Bytes → Option Bytes
  | 0, _ => none
  | fuel + 1, cookieJar =>
      match Cookie.consume cookieJar with
      | (none, _) => none
      | (some cookie, rest) =>
          if cookie.name = bytes "deflect" then some cookie.value else findDeflect fuel rest

/-- The loop on a whole jar. -/
def deflectCookie (cookieJar : Bytes) : Option Bytes := findDeflect (cookieJar.length + 1) cookieJar

/-- The loop has ended by itself: more rounds change nothing. -/
theorem findDeflect_eq {fuel : Nat} {cookieJar : Bytes} (h : cookieJar.length < fuel) :
    findDeflect fuel cookieJar = deflectCookie cookieJar := by
  -- On the fuel of one side, for every jar that is shorter than both.
  have main : ∀ (n m : Nat) (s : Bytes), s.length < n → s.length < m →
      findDeflect n s = findDeflect m s := by
    intro n
    induction n with
    | zero => intro m s hn; omega
    | succ n ih =>
        intro m s hn hm
        obtain ⟨m, rfl⟩ : ∃ k, m = k + 1 := ⟨m - 1, by omega⟩
        rw [findDeflect, findDeflect]
        split
        · rfl
        · next cookie rest hc =>
          have := Cookie.consume_length_lt hc
          rw [ih m rest (by omega) (by omega)]
  exact main _ _ _ h (Nat.lt_succ_self _)

example : deflectCookie (bytes "a = b; c; deflect=tok== ; d=e") = some (bytes "tok==") := by
  decide +kernel

end Banjax
