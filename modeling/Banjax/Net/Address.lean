import Banjax.Lib.Bytes

/-!
# Addresses and ranges

The address functions of `util.cpp` and of the C library they call, and the
client address as a transaction holds it.  `TransactionMuncher` fills the `IP`
part with what `inet_ntoa` prints, or leaves it empty when the transaction has no
client address.  `ClientIp` is a string of that form.

An address is kept in host byte order, as the code has it after `ntohl`.
-/

namespace Banjax

open Lib

/-! ## Printing -/

/-- An IPv4 address. -/
structure InAddr where
  a : UInt8
  b : UInt8
  c : UInt8
  d : UInt8
deriving DecidableEq, Repr

/-- `inet_ntoa`. -/
def inetNtoa (x : InAddr) : Bytes :=
  decimal x.a.toNat ++ 46 :: decimal x.b.toNat ++ 46 :: decimal x.c.toNat ++ 46 :: decimal x.d.toNat

example : inetNtoa ⟨10, 0, 0, 255⟩ = bytes "10.0.0.255" := by decide

/-- A byte of a printed address. -/
def isAddressByte (c : UInt8) : Bool := isDigit c || c = 46

theorem decimal_octet : ∀ n < 256, (decimal n).length ≤ 3 ∧
    (decimal n).all isAddressByte = true := by decide +kernel

theorem length_inetNtoa_le (x : InAddr) : (inetNtoa x).length ≤ 15 := by
  have ha := (decimal_octet _ x.a.toNat_lt).1
  have hb := (decimal_octet _ x.b.toNat_lt).1
  have hc := (decimal_octet _ x.c.toNat_lt).1
  have hd := (decimal_octet _ x.d.toNat_lt).1
  simp only [inetNtoa, List.length_append, List.length_cons]
  omega

theorem inetNtoa_all (x : InAddr) : (inetNtoa x).all isAddressByte = true := by
  have ha := (decimal_octet _ x.a.toNat_lt).2
  have hb := (decimal_octet _ x.b.toNat_lt).2
  have hc := (decimal_octet _ x.c.toNat_lt).2
  have hd := (decimal_octet _ x.d.toNat_lt).2
  simp only [inetNtoa, List.all_append, List.all_cons, ha, hb, hc, hd]
  rfl

/-- The `IP` part of a transaction. -/
structure ClientIp where
  /-- The text. -/
  str : Bytes
  /-- It is empty or printed by `inet_ntoa`. -/
  printed : str = [] ∨ ∃ x, str = inetNtoa x

/-- The address of a client, printed. -/
def ClientIp.ofAddr (x : InAddr) : ClientIp := ⟨inetNtoa x, Or.inr ⟨x, rfl⟩⟩

theorem ClientIp.length_le (ip : ClientIp) : ip.str.length ≤ 15 := by
  rcases ip.printed with h | ⟨x, h⟩
  · simp [h]
  · exact h ▸ length_inetNtoa_le x

theorem ClientIp.isAddressByte_of_mem (ip : ClientIp) {c : UInt8} (hc : c ∈ ip.str) :
    isAddressByte c = true := by
  rcases ip.printed with h | ⟨x, h⟩
  · rw [h] at hc
    cases hc
  · exact List.all_eq_true.mp (inetNtoa_all x) c (h ▸ hc)

theorem ClientIp.zero_notMem (ip : ClientIp) : (0 : UInt8) ∉ ip.str := by
  intro h
  exact absurd (ip.isAddressByte_of_mem h) (by decide)

@[simp] theorem ClientIp.cStr_str (ip : ClientIp) : cStr ip.str = ip.str :=
  cStr_of_zero_notMem ip.zero_notMem

/-! ## Reading -/

/-- The value of a digit in some base up to sixteen, `16` for anything else. -/
def digitValue (c : UInt8) : Nat :=
  if isDigit c then c.toNat - 48
  else if 97 ≤ c && c ≤ 102 then c.toNat - 87
  else if 65 ≤ c && c ≤ 70 then c.toNat - 55
  else 16

/-- The digits of a number in the given base, and the text after them. -/
def readDigits (base acc : Nat) : Bytes → Nat × Bytes
  | [] => (acc, [])
  | c :: s =>
      if digitValue c < base then readDigits base (acc * base + digitValue c) s else (acc, c :: s)

/-- `strtoul` with base 0 on a text that starts with a digit. -/
def strtoul : Bytes → Nat × Bytes
  | 48 :: 120 :: c :: s =>
      if digitValue c < 16 then readDigits 16 0 (c :: s) else (0, 120 :: c :: s)
  | 48 :: 88 :: c :: s =>
      if digitValue c < 16 then readDigits 16 0 (c :: s) else (0, 88 :: c :: s)
  | 48 :: s => readDigits 8 0 (48 :: s)
  | s => readDigits 10 0 s

/-- `inet_aton`: numbers in C notation with dots between them, `left` bytes of the
address still to fill.  The last number fills all of them. -/
def inetAton (left acc : Nat) (s : Bytes) : Option Nat :=
  match left with
  | 0 => none
  | n + 1 =>
      if !isDigit (s.headD 0) then none
      else
        let (val, rest) := strtoul s
        if rest.headD 0 = 46 then
          if n = 0 || 0xff < val then none else inetAton n (acc * 256 + val) rest.tail
        else if rest.headD 0 ≠ 0 && !isSpace (rest.headD 0) then none
        else if 256 ^ (n + 1) ≤ val then none
        else some (acc * 256 ^ (n + 1) + val)

/-- `ntohl(inet_addr(s))`.  A text that is not an address gives `INADDR_NONE`. -/
def inetAddr (s : Bytes) : UInt32 := ((inetAton 4 0 (cStr s)).getD 0xffffffff).toUInt32

example : inetAddr (inetNtoa ⟨192, 168, 1, 9⟩) = 0xc0a80109 := by decide +kernel

/-! ## Ranges and white lists -/

/-- `SubnetRange`: a base address and a mask. -/
abbrev SubnetRange := UInt32 × UInt32

/-- `is_match`. -/
def isMatch (needleIp : Bytes) (ipRangePair : SubnetRange) : Bool :=
  (ipRangePair.1 &&& ipRangePair.2) == (inetAddr needleIp &&& ipRangePair.2)

/-- `GlobalWhiteList`. -/
structure GlobalWhiteList where
  whiteList : List SubnetRange
  perHostWhiteList : List (Bytes × List SubnetRange)

/-- `GlobalWhiteList::is_white_listed(ip)`. -/
def GlobalWhiteList.isWhiteListed (w : GlobalWhiteList) (ip : Bytes) : Option SubnetRange :=
  w.whiteList.find? (isMatch ip)

/-- `GlobalWhiteList::is_white_listed(host, ip)`: the global ranges, and then those of
the host. -/
def GlobalWhiteList.isWhiteListedFor (w : GlobalWhiteList) (host ip : Bytes) :
    Option SubnetRange :=
  match w.isWhiteListed ip with
  | some r => some r
  | none =>
      match w.perHostWhiteList.lookup host with
      | none => none
      | some ranges => ranges.find? (isMatch ip)

end Banjax
