import Banjax.Lib.Run
import Banjax.Token.Base64

/-!
# Tokens

`GenerateCookieHash`, `GenerateCookie` and `ValidateCookie` of `cookiehash.cpp`.
A token is the Base64 text of a MAC followed by the time until which it is valid.
The MAC is over that time, the client address and the captcha text, written one
after the other into a buffer of 200 bytes.

Two things of C are kept.  A write beyond the end of the buffer is an error of
its own (`Fault.outOfBounds`), so a result `.ok` says that the message did fit.
A read beyond the end of a string gives whatever the memory there holds, which is
the argument `residue`.

`generateCookieHash_eq` and `validateCookie_eq` say what the functions compute.
Later modules use these and do not unfold the functions.
-/

namespace Banjax

open Lib

/-- What the code takes from OpenSSL. -/
structure Crypto where
  /-- `HMAC(EVP_sha1(), secret, SECRET_LENGTH, ...)`. -/
  hmacSha1 : Vector UInt8 32 → Bytes → Vector UInt8 20
  /-- `SHA256`. -/
  sha256 : Bytes → Vector UInt8 32

/-- A stand-in for OpenSSL in concrete runs: a MAC is the first 20 bytes of its
message and a digest the first 32, filled up with zeros. -/
def prefixCrypto : Crypto where
  hmacSha1 _ m := Vector.ofFn fun i => m.getD i 0
  sha256 m := Vector.ofFn fun i => m.getD i 0

/-- The key of the concrete runs. -/
def zeroKey : Vector UInt8 32 := Vector.replicate 32 0

/-- A memory access the code does not check. -/
inductive Fault where
  /-- An access beyond the end of a buffer. -/
  | outOfBounds
deriving DecidableEq, Repr

/-! ## Times in memory -/

/-- The memory image of a `time_t`. -/
def timeBytes (t : Int64) : Bytes := leBytes 8 t.toUInt64.toNat

/-- The `time_t` a memory image holds. -/
def timeOfBytes (s : Bytes) : Int64 := (ofLeBytes s).toUInt64.toInt64

@[simp] theorem length_timeBytes (t : Int64) : (timeBytes t).length = 8 := length_leBytes ..

theorem timeOfBytes_timeBytes (t : Int64) : timeOfBytes (timeBytes t) = t := by
  have hlt : t.toUInt64.toNat % 256 ^ 8 = t.toUInt64.toNat :=
    Nat.mod_eq_of_lt t.toUInt64.toNat_lt
  rw [timeOfBytes, timeBytes, ofLeBytes_leBytes, hlt]
  simp [Nat.toUInt64]

theorem timeBytes_inj {s t : Int64} (h : timeBytes s = timeBytes t) : s = t := by
  rw [← timeOfBytes_timeBytes s, h, timeOfBytes_timeBytes]

theorem timeBytes_timeOfBytes {s : Bytes} (h : s.length = 8) : timeBytes (timeOfBytes s) = s := by
  have hlt : ofLeBytes s < 2 ^ 64 := by
    have := ofLeBytes_lt s
    rw [h] at this
    exact this
  have hval : (timeOfBytes s).toUInt64.toNat = ofLeBytes s := by
    simpa [timeOfBytes, Nat.toUInt64] using hlt
  rw [timeBytes, hval, ← h, leBytes_ofLeBytes]

/-! ## The MAC -/

/-- The size of `ibuf`. -/
def ibufSize : Nat := 200

/-- `memcpy(ibufp, src, n); ibufp += n`, on the part of `ibuf` already written. -/
def writeIbuf (ibuf src : Bytes) : Except Fault Bytes :=
  if ibuf.length + src.length ≤ ibufSize then .ok (ibuf ++ src) else .error .outOfBounds

/-- `GenerateCookieHash`.  The address and the captcha are C strings. -/
def generateCookieHash (C : Crypto) (captcha : Bytes) (secret : Vector UInt8 32)
    (validTillTimestamp : Int64) (remoteaddress : Bytes) : Except Fault (Vector UInt8 20) := do
  let ibuf ← writeIbuf [] (timeBytes validTillTimestamp)
  let ibuf ← writeIbuf ibuf (cStr remoteaddress)
  let ibuf ← writeIbuf ibuf (cStr captcha)
  return C.hmacSha1 secret ibuf

/-- The message of a token: time, address and captcha, with nothing between them. -/
def message (t : Int64) (remoteaddress captcha : Bytes) : Bytes :=
  timeBytes t ++ cStr remoteaddress ++ cStr captcha

/-- The message fits into `ibuf`. -/
def Fits (remoteaddress captcha : Bytes) : Prop :=
  8 + (cStr remoteaddress).length + (cStr captcha).length ≤ ibufSize

instance (remoteaddress captcha : Bytes) : Decidable (Fits remoteaddress captcha) :=
  inferInstanceAs (Decidable (_ ≤ _))

/-- The MAC is computed exactly when the message fits. -/
theorem generateCookieHash_eq (C : Crypto) (captcha : Bytes) (secret : Vector UInt8 32)
    (t : Int64) (remoteaddress : Bytes) :
    generateCookieHash C captcha secret t remoteaddress =
      if Fits remoteaddress captcha then .ok (C.hmacSha1 secret (message t remoteaddress captcha))
      else .error .outOfBounds := by
  have htime : writeIbuf [] (timeBytes t) = .ok (timeBytes t) := by simp [writeIbuf, ibufSize]
  by_cases haddr : 8 + (cStr remoteaddress).length ≤ ibufSize
  · have h2 : writeIbuf (timeBytes t) (cStr remoteaddress) =
        .ok (timeBytes t ++ cStr remoteaddress) := by simp [writeIbuf, haddr]
    by_cases hfits : Fits remoteaddress captcha
    · have h3 : writeIbuf (timeBytes t ++ cStr remoteaddress) (cStr captcha) =
          .ok (message t remoteaddress captcha) := by
        simp [writeIbuf, message, show 8 + _ + _ ≤ _ from hfits]
      rw [generateCookieHash, htime, ok_bind, h2, ok_bind, h3, if_pos hfits]
      rfl
    · have h3 : writeIbuf (timeBytes t ++ cStr remoteaddress) (cStr captcha) =
          .error .outOfBounds := by
        simp [writeIbuf, show ¬ 8 + _ + _ ≤ _ from hfits]
      rw [generateCookieHash, htime, ok_bind, h2, ok_bind, h3, if_neg hfits]
      rfl
  · have h2 : writeIbuf (timeBytes t) (cStr remoteaddress) = .error .outOfBounds := by
      simp [writeIbuf, haddr]
    have hfits : ¬ Fits remoteaddress captcha := by
      unfold Fits
      omega
    rw [generateCookieHash, htime, ok_bind, h2, if_neg hfits]
    rfl

/-! ## Issuing a token -/

/-- The bytes of a token before Base64. -/
def tokenBytes (hash : Vector UInt8 20) (t : Int64) : Bytes := hash.toList ++ timeBytes t

/-- `GenerateCookie`.  The 28 bytes are far below the size `Encode` refuses. -/
def generateCookie (C : Crypto) (captcha : Bytes) (secret : Vector UInt8 32)
    (validTillTimestamp : Int64) (remoteaddress : Bytes) : Except Fault Bytes := do
  let hash ← generateCookieHash C captcha secret validTillTimestamp remoteaddress
  return Base64.encodeText (tokenBytes hash validTillTimestamp)

/-- `COOKIE_B64_LENGTH`. -/
def cookieB64Length : Nat := (20 + 8 + 2) / 3 * 4

theorem length_tokenBytes (hash : Vector UInt8 20) (t : Int64) :
    (tokenBytes hash t).length = 28 := by
  simp [tokenBytes]

/-- The text of a token. -/
def tokenText (hash : Vector UInt8 20) (t : Int64) : Bytes :=
  Base64.encodeText (tokenBytes hash t)

theorem generateCookie_eq (C : Crypto) (captcha : Bytes) (secret : Vector UInt8 32) (t : Int64)
    (remoteaddress : Bytes) :
    generateCookie C captcha secret t remoteaddress =
      if Fits remoteaddress captcha then
        .ok (tokenText (C.hmacSha1 secret (message t remoteaddress captcha)) t)
      else .error .outOfBounds := by
  rw [generateCookie, generateCookieHash_eq]
  by_cases h : Fits remoteaddress captcha
  · rw [if_pos h, if_pos h]
    rfl
  · rw [if_neg h, if_neg h]
    rfl

theorem length_tokenText (hash : Vector UInt8 20) (t : Int64) :
    (tokenText hash t).length = cookieB64Length := by
  rw [tokenText, Base64.length_encodeText, length_tokenBytes]
  rfl

theorem zero_notMem_tokenText (hash : Vector UInt8 20) (t : Int64) :
    (0 : UInt8) ∉ tokenText hash t := Base64.zero_notMem_encodeText _

/-! ## Checking a token -/

/-- The `n` bytes of memory from the start of a `std::string` on.  The string is
followed by its terminator and then by whatever the memory holds. -/
def peek (data : Bytes) (residue : Nat → UInt8) (n : Nat) : Bytes :=
  (data ++ 0 :: (List.range n).map residue).take n

theorem peek_of_length {data : Bytes} {n : Nat} (residue : Nat → UInt8) (h : data.length = n) :
    peek data residue n = data := by
  rw [peek, ← h, List.take_left]

theorem length_peek (data : Bytes) (residue : Nat → UInt8) (n : Nat) :
    (peek data residue n).length = n := by
  simp [peek]
  omega

/-- The 28 bytes `ValidateCookie` compares, or its result when it does not get
that far: `-3` for a wrong length and `-4` for bad Base64. -/
def readToken (residue : Nat → UInt8) (cookiestring : Bytes) : Except Int Bytes :=
  let text := cStr cookiestring
  if text.length ≠ cookieB64Length then .error (-3)
  else
    match Base64.decode text with
    | none => .error (-4)
    | some cookiedata => .ok (peek cookiedata residue 28)

/-- `ValidateCookie`: `1` is a valid token, `-1` a wrong MAC and `-2` a token that
has expired. -/
def validateCookie (C : Crypto) (residue : Nat → UInt8) (captcha : Bytes)
    (secret : Vector UInt8 32) (currentTimestamp : Int64) (remoteaddress cookiestring : Bytes) :
    Except Fault Int :=
  match readToken residue cookiestring with
  | .error code => .ok code
  | .ok cookie => do
      let validUntilTimestamp := timeOfBytes (cookie.drop 20)
      let hash ← generateCookieHash C captcha secret validUntilTimestamp remoteaddress
      if cookie.take 20 ≠ hash.toList then return -1
      if validUntilTimestamp < currentTimestamp then return -2
      return 1

/-- What `ValidateCookie` answers about 28 bytes once the MAC could be computed. -/
def verdict (hash : Vector UInt8 20) (currentTimestamp : Int64) (cookie : Bytes) : Int :=
  if cookie.take 20 ≠ hash.toList then -1
  else if timeOfBytes (cookie.drop 20) < currentTimestamp then -2
  else 1

/-- A token that is read is checked, and the only way out of the check is the
message that does not fit. -/
theorem validateCookie_eq (C : Crypto) (residue : Nat → UInt8) (captcha : Bytes)
    (secret : Vector UInt8 32) (now : Int64) (remoteaddress cookiestring : Bytes) :
    validateCookie C residue captcha secret now remoteaddress cookiestring =
      match readToken residue cookiestring with
      | .error code => .ok code
      | .ok cookie =>
          if Fits remoteaddress captcha then
            .ok (verdict (C.hmacSha1 secret
              (message (timeOfBytes (cookie.drop 20)) remoteaddress captcha)) now cookie)
          else .error .outOfBounds := by
  unfold validateCookie
  cases hread : readToken residue cookiestring with
  | error code => rfl
  | ok cookie =>
      dsimp only
      rw [generateCookieHash_eq]
      by_cases hfits : Fits remoteaddress captcha
      · rw [if_pos hfits, if_pos hfits, ok_bind, verdict]
        split
        · rfl
        · split <;> rfl
      · rw [if_neg hfits, if_neg hfits]
        rfl

theorem length_readToken {residue : Nat → UInt8} {cookiestring cookie : Bytes}
    (h : readToken residue cookiestring = .ok cookie) : cookie.length = 28 := by
  unfold readToken at h
  dsimp only at h
  split at h
  · cases h
  · split at h
    · cases h
    · cases h
      exact length_peek ..

theorem readToken_error {residue : Nat → UInt8} {cookiestring : Bytes} {code : Int}
    (h : readToken residue cookiestring = .error code) : code ≠ 1 := by
  unfold readToken at h
  dsimp only at h
  split at h
  · cases h
    decide
  · split at h
    · cases h
      decide
    · cases h

/-- The bytes of a valid token: the right MAC, followed by the time it is over. -/
theorem verdict_eq_one {hash : Vector UInt8 20} {now : Int64} {cookie : Bytes}
    (hlen : cookie.length = 28) (h : verdict hash now cookie = 1) :
    cookie = tokenBytes hash (timeOfBytes (cookie.drop 20)) := by
  have hmac : cookie.take 20 = hash.toList := by
    by_contra hne
    rw [verdict, if_pos hne] at h
    cases h
  rw [tokenBytes, timeBytes_timeOfBytes (by simp [hlen]), ← hmac, List.take_append_drop]

/-- Reading a token back gives its bytes, and no memory beyond them. -/
theorem readToken_tokenText (residue : Nat → UInt8) (hash : Vector UInt8 20) (t : Int64) :
    readToken residue (tokenText hash t) = .ok (tokenBytes hash t) := by
  rw [readToken, cStr_of_zero_notMem (zero_notMem_tokenText hash t), length_tokenText,
    if_neg (by simp), tokenText, Base64.decode_encodeText]
  exact congrArg Except.ok (peek_of_length residue (length_tokenBytes hash t))

@[simp] theorem take_tokenBytes (hash : Vector UInt8 20) (t : Int64) :
    (tokenBytes hash t).take 20 = hash.toList :=
  List.take_left' (by simp)

@[simp] theorem drop_tokenBytes (hash : Vector UInt8 20) (t : Int64) :
    (tokenBytes hash t).drop 20 = timeBytes t :=
  List.drop_left' (by simp)

theorem tokenBytes_inj {hash hash' : Vector UInt8 20} {t t' : Int64}
    (h : tokenBytes hash t = tokenBytes hash' t') : hash = hash' ∧ t = t' := by
  obtain ⟨hmac, htime⟩ := List.append_inj h (by simp)
  exact ⟨Vector.toList_inj.mp hmac, timeBytes_inj htime⟩

/-- A token is compared as the MAC and the time it was made of. -/
theorem verdict_tokenBytes (mac hash : Vector UInt8 20) (t now : Int64) :
    verdict mac now (tokenBytes hash t) =
      if hash ≠ mac then -1 else if t < now then -2 else 1 := by
  rw [verdict, take_tokenBytes, drop_tokenBytes, timeOfBytes_timeBytes]
  simp [Vector.toList_inj]

/-! ## The round trip -/

theorem fits_of_zero_notMem {remoteaddress captcha : Bytes} (haddr : (0 : UInt8) ∉ remoteaddress)
    (hcaptcha : (0 : UInt8) ∉ captcha) (hlen : 8 + remoteaddress.length + captcha.length ≤ 200) :
    Fits remoteaddress captcha := by
  rw [Fits, cStr_of_zero_notMem haddr, cStr_of_zero_notMem hcaptcha]
  exact hlen

/-- A token that was issued under a captcha for an address is valid for both of
them until its time is over, and expired from then on. -/
theorem validateCookie_tokenText {remoteaddress captcha : Bytes} (C : Crypto)
    (residue : Nat → UInt8) (secret : Vector UInt8 32) (t now : Int64)
    (hfits : Fits remoteaddress captcha) :
    validateCookie C residue captcha secret now remoteaddress
        (tokenText (C.hmacSha1 secret (message t remoteaddress captcha)) t) =
      .ok (if t < now then -2 else 1) := by
  rw [validateCookie_eq, readToken_tokenText]
  dsimp only
  rw [if_pos hfits, drop_tokenBytes, timeOfBytes_timeBytes, verdict_tokenBytes, if_neg (by simp)]

/-- What `GenerateCookie` makes, `ValidateCookie` reads back: it has 40 characters
and no NUL, and the answer is only a matter of the time. -/
theorem validateCookie_generateCookie (C : Crypto) (residue : Nat → UInt8)
    (captcha remoteaddress : Bytes) (secret : Vector UInt8 32) (t now : Int64)
    (hcaptcha : (0 : UInt8) ∉ captcha) (haddr : (0 : UInt8) ∉ remoteaddress)
    (hlen : 8 + remoteaddress.length + captcha.length ≤ 200) :
    ∃ token, generateCookie C captcha secret t remoteaddress = .ok token ∧
      token.length = 40 ∧ token.length = cookieB64Length ∧ (0 : UInt8) ∉ token ∧
      validateCookie C residue captcha secret now remoteaddress token =
        .ok (if now ≤ t then 1 else -2) := by
  have hfits := fits_of_zero_notMem haddr hcaptcha hlen
  refine ⟨tokenText (C.hmacSha1 secret (message t remoteaddress captcha)) t, ?_,
    length_tokenText .., length_tokenText .., zero_notMem_tokenText _ _, ?_⟩
  · rw [generateCookie_eq, if_pos hfits]
  · rw [validateCookie_tokenText C residue secret t now hfits]
    by_cases h : now ≤ t
    · rw [if_neg (Int64.not_lt.mpr h), if_pos h]
    · rw [if_pos (Int64.not_le.mp h), if_neg h]

/-- A token with a negative time and a captcha text, which has long expired. -/
theorem validateCookie_generateCookie_negative :
    ∃ token, generateCookie prefixCrypto (bytes "xyz") zeroKey (-1) (bytes "1.2.3.4") = .ok token ∧
      token.length = 40 ∧ token.length = cookieB64Length ∧ (0 : UInt8) ∉ token ∧
      validateCookie prefixCrypto (fun _ => 0) (bytes "xyz") zeroKey 0 (bytes "1.2.3.4") token =
        .ok (if (0 : Int64) ≤ -1 then 1 else -2) :=
  validateCookie_generateCookie _ _ _ _ _ _ _ (by decide) (by decide) (by decide)

end Banjax
