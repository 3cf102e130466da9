import Banjax.Challenger.Request
import Banjax.Token.Canonical
import Banjax.Token.Print

/-!
# The pages of the challenges

What the pages `solver.html` and `auth.html` compute in the browser, and that the
server accepts it.

The page of the proof of work counts the zeros of a digest in its hexadecimal text,
nibble by nibble and from the low bit on.  The server counts them in the bytes,
with the nibbles reversed.  `zeroBits_getHashHex` says that both count the same.

The cookie a page sets is a token followed by more Base64 text, so it has padding
in the middle.  It is still a printable value, and the server cuts the token off
after 40 characters.
-/

namespace Banjax

open Lib

/-! ## The pages -/

/-- `'0123456789abcdef'`. -/
def hexTab : Bytes := bytes "0123456789abcdef"

/-- `getHash("HEX")`: the two digits of every byte. -/
def getHashHex (digest : Bytes) : Bytes :=
  digest.flatMap fun (h : UInt8) =>
    [hexTab.getD (h >>> 4).toNat 0, hexTab.getD (h &&& 15).toNat 0]

/-- `'0123456789abcdef'.indexOf(nibble)`.  A character that is not there has the
index `-1`, in which every bit is set. -/
def nibbleIndex (nibble : UInt8) : UInt8 :=
  match hexTab.idxOf? nibble with
  | some i => i.toUInt8
  | none => 0xff

/-- The loop of `has_expected_zeros`, which ends at the first bit that is set. -/
def zeroBits : Bytes → Nat → Nat
  | [], c => c
  | nibble :: nibbles, c =>
      let dec := nibbleIndex nibble
      if dec &&& 1 ≠ 0 then c
      else if dec &&& 2 ≠ 0 then c + 1
      else if dec &&& 4 ≠ 0 then c + 2
      else if dec &&& 8 ≠ 0 then c + 3
      else zeroBits nibbles (c + 4)

/-- `has_expected_zeros`. -/
def hasExpectedZeros (nibbles : Bytes) (zeroCount : Nat) : Bool := zeroCount ≤ zeroBits nibbles 0

/-- `btoa` of a number: the Base64 text of its decimal digits. -/
def btoa (i : Nat) : Bytes := Base64.canonical (decimal i)

/-- `solution` of `solver.html`. -/
def shaSolution (token : Bytes) (i : Nat) : Bytes := token ++ btoa i

/-- `getHash('SHA-256','B64')`. -/
def getHashB64 (C : Crypto) (text : Bytes) : Bytes := Base64.canonical (C.sha256 text).toList

/-- `solution` of `auth.html`, from the served token and the password typed in. -/
def authSolution (C : Crypto) (token password : Bytes) : Bytes :=
  token ++ getHashB64 C (token ++ getHashB64 C password)

/-! ## Both sides count the same zeros -/

theorem nibbleIndex_high (h : UInt8) : nibbleIndex (hexTab.getD (h >>> 4).toNat 0) = h >>> 4 :=
  forall_byte (P := fun h => nibbleIndex (hexTab.getD (h >>> 4).toNat 0) = h >>> 4)
    (by decide +kernel) h

theorem nibbleIndex_low (h : UInt8) : nibbleIndex (hexTab.getD (h &&& 15).toNat 0) = h &&& 15 :=
  forall_byte (P := fun h => nibbleIndex (hexTab.getD (h &&& 15).toNat 0) = h &&& 15)
    (by decide +kernel) h

/-- The bits of the high nibble are the first four masks of the server. -/
theorem high_masks (h : UInt8) :
    ((h >>> 4) &&& 1 = 0 ↔ h &&& 16 = 0) ∧ ((h >>> 4) &&& 2 = 0 ↔ h &&& 32 = 0) ∧
      ((h >>> 4) &&& 4 = 0 ↔ h &&& 64 = 0) ∧ ((h >>> 4) &&& 8 = 0 ↔ h &&& 128 = 0) :=
  forall_byte (P := fun h =>
    ((h >>> 4) &&& 1 = 0 ↔ h &&& 16 = 0) ∧ ((h >>> 4) &&& 2 = 0 ↔ h &&& 32 = 0) ∧
      ((h >>> 4) &&& 4 = 0 ↔ h &&& 64 = 0) ∧ ((h >>> 4) &&& 8 = 0 ↔ h &&& 128 = 0))
    (by decide +kernel) h

/-- The bits of the low nibble are the last four. -/
theorem low_masks (h : UInt8) :
    ((h &&& 15) &&& 1 = h &&& 1) ∧ ((h &&& 15) &&& 2 = h &&& 2) ∧
      ((h &&& 15) &&& 4 = h &&& 4) ∧ ((h &&& 15) &&& 8 = h &&& 8) :=
  ⟨by rw [UInt8.and_assoc]; rfl, by rw [UInt8.and_assoc]; rfl, by rw [UInt8.and_assoc]; rfl,
    by rw [UInt8.and_assoc]; rfl⟩

theorem takeWhile_zero_cons (c : UInt8) (l : Bytes) :
    ((c :: l).takeWhile (· = 0)).length =
      if c ≠ 0 then 0 else (l.takeWhile (· = 0)).length + 1 := by
  by_cases h : c = 0
  · simp [h]
  · simp [h]

/-- The server's count, one byte at a time. -/
theorem countZeros_cons (h : UInt8) (hash : Bytes) :
    Challenger.countZeros (h :: hash) =
      if h &&& 16 ≠ 0 then 0 else if h &&& 32 ≠ 0 then 1 else if h &&& 64 ≠ 0 then 2
      else if h &&& 128 ≠ 0 then 3 else if h &&& 1 ≠ 0 then 4 else if h &&& 2 ≠ 0 then 5
      else if h &&& 4 ≠ 0 then 6 else if h &&& 8 ≠ 0 then 7
      else Challenger.countZeros hash + 8 := by
  rw [Challenger.countZeros, List.flatMap_cons]
  simp only [Challenger.shaMasks, List.map_cons, List.map_nil, List.cons_append, List.nil_append,
    takeWhile_zero_cons]
  rw [Challenger.countZeros]
  simp only [Challenger.shaMasks, List.map_cons, List.map_nil]
  -- The counts are pushed into the branches.
  simp only [ite_add, Nat.add_assoc, Nat.reduceAdd]

/-- The page counts the zeros of the text that the server counts in the bytes. -/
theorem zeroBits_getHashHex (hash : Bytes) (c : Nat) :
    zeroBits (getHashHex hash) c = c + Challenger.countZeros hash := by
  induction hash generalizing c with
  | nil => rw [getHashHex, List.flatMap_nil, zeroBits]; rfl
  | cons h hash ih =>
      obtain ⟨h1, h2, h3, h4⟩ := high_masks h
      obtain ⟨l1, l2, l3, l4⟩ := low_masks h
      rw [countZeros_cons, getHashHex, List.flatMap_cons, List.cons_append, List.cons_append,
        List.nil_append, zeroBits, zeroBits, nibbleIndex_high, nibbleIndex_low,
        show hash.flatMap _ = getHashHex hash from rfl, ih, l1, l2, l3, l4]
      simp only [ne_eq, h1, h2, h3, h4, add_ite, Nat.add_zero, Nat.add_assoc, Nat.reduceAdd,
        Nat.add_comm 8]

theorem hasExpectedZeros_getHashHex (hash : Bytes) (zeroCount : Nat) :
    hasExpectedZeros (getHashHex hash) zeroCount =
      decide (zeroCount ≤ Challenger.countZeros hash) := by
  rw [hasExpectedZeros, zeroBits_getHashHex, Nat.zero_add]

/-! ## The cookie in the jar -/

/-- The first cookie named `deflect` of the jar has the value: what comes before it
are printed pairs of other names, and what follows it ends the value. -/
def FirstDeflect (cookieJar value : Bytes) : Prop :=
  ∃ (ps : List Segment) (gap trail : Blanks) (rest : Bytes),
    (∀ p ∈ ps, p.cookie.name ≠ bytes "deflect") ∧ EndsValue rest ∧
    cookieJar = ps.flatMap (fun p => p.text ++ [59]) ++
      (gap.val ++ (bytes "deflect=" ++ (value ++ (trail.val ++ rest))))

theorem char_isPrintable : ∀ i < 64, Base64.char i ≠ 59 ∧ Base64.char i ≠ 0 ∧
    Base64.char i ≠ 61 ∧ isSpace (Base64.char i) = false := by
  decide +kernel

/-- Base64 text that begins with a letter is a printable value. -/
theorem printable_of_base64 {value : Bytes} {i : Nat} (hi : i < 64)
    (hhead : value.head? = some (Base64.char i))
    (hall : ∀ c ∈ value, (∃ j < 64, c = Base64.char j) ∨ c = Base64.pad) :
    Cookie.Printable ⟨bytes "deflect", value⟩ := by
  have hbytes : ∀ c ∈ value, c ≠ 59 ∧ c ≠ 0 ∧ isSpace c = false := by
    intro c hc
    rcases hall c hc with ⟨j, hj, rfl⟩ | rfl
    · obtain ⟨h1, h2, _, h4⟩ := char_isPrintable j hj
      exact ⟨h1, h2, h4⟩
    · decide
  constructor
  · show bytes "deflect" ≠ []
    decide
  · show ∀ c ∈ bytes "deflect", c ≠ 59 ∧ c ≠ 61 ∧ isSpace c = false ∧ c ≠ 0
    decide +kernel
  · intro c hc
    exact ⟨(hbytes c hc).1, (hbytes c hc).2.1⟩
  · intro hline
    have hcr : (13 : UInt8) ∈ value := hline.subset (by simp)
    exact absurd (hbytes 13 hcr).2.2 (by decide)
  · intro c hc
    dsimp only at hc
    rw [hhead] at hc
    cases hc
    exact (char_isPrintable i hi).2.2
  · intro c hc
    exact (hbytes c (List.mem_of_mem_getLast? hc)).2.2

theorem head_canonical : ∀ {s : Bytes}, s ≠ [] →
    ∃ i < 64, (Base64.canonical s).head? = some (Base64.char i)
  | [], h => absurd rfl h
  | [_], _ => ⟨_, Nat.mod_lt _ (by omega), rfl⟩
  | [_, _], _ => ⟨_, Nat.mod_lt _ (by omega), rfl⟩
  | _ :: _ :: _ :: _, _ => ⟨_, Nat.mod_lt _ (by omega), rfl⟩

/-- A token followed by more Base64 text is a printable value. -/
theorem printable_token (hash : Vector UInt8 20) (t : Int64) (more : Bytes) :
    Cookie.Printable ⟨bytes "deflect", tokenText hash t ++ Base64.canonical more⟩ := by
  have hne : tokenBytes hash t ≠ [] := by
    intro h
    have := length_tokenBytes hash t
    rw [h] at this
    cases this
  obtain ⟨i, hi, hhead⟩ := head_canonical hne
  rw [← Base64.encodeText_eq_canonical] at hhead
  refine printable_of_base64 hi ?_ ?_
  · rw [tokenText, List.head?_append, hhead]
    rfl
  · intro c hc
    rcases List.mem_append.mp hc with hc | hc
    · exact Base64.mem_encodeText hc
    · rw [← Base64.encodeText_eq_canonical] at hc
      exact Base64.mem_encodeText hc

theorem deflectCookie_of_firstDeflect {cookieJar value : Bytes}
    (hvalue : Cookie.Printable ⟨bytes "deflect", value⟩) (hne : value ≠ [])
    (h : FirstDeflect cookieJar value) : deflectCookie cookieJar = some value := by
  obtain ⟨ps, gap, trail, rest, hps, hrest, rfl⟩ := h
  have := deflectCookie_jar ps ⟨_, hvalue, gap, ⟨[], by simp⟩, ⟨[], by simp⟩⟩ trail hps rfl hne
    hrest
  rw [Segment.text, List.append_assoc, List.append_assoc, List.append_assoc] at this
  exact this

/-! ## The server on what the browser sends -/

namespace Challenger

variable (M : Challenger)

/-- The token that `GenerateCookie` makes for the address and the text. -/
def issued (t : Int64) (ip captcha : Bytes) : Bytes :=
  tokenText (M.crypto.hmacSha1 M.hashedKey (message t ip captcha)) t

/-- The token that `GenerateCookie` makes for an address without a captcha. -/
def pageToken (t : Int64) (ip : Bytes) : Bytes :=
  tokenText (M.crypto.hmacSha1 M.hashedKey (message t ip [])) t

/-- The page of a challenge is always served, with this token. -/
theorem generateCookie_page (t : Int64) (ip : ClientIp) :
    generateCookie M.crypto [] M.hashedKey t ip.str = .ok (M.pageToken t ip.str) := by
  rw [generateCookie_eq, if_pos (fits_nil ip)]
  rfl

section Solutions

variable {M} {parts : TransactionParts} {t : Int64} {more : Bytes}

/-- A jar with the token of the address and more: the requirement of the challenge
decides, as long as the token is valid. -/
theorem cookieVerdict_issued (env : Env) (challenge : HostChallengeSpec) {captcha : Bytes}
    (hfits : Fits parts.ip.str captcha)
    (hjar : FirstDeflect parts.cookie (M.issued t parts.ip.str captcha ++ Base64.canonical more)) :
    M.cookieVerdict env captcha parts challenge =
      .ok (some (M.challengePrevailed env challenge
          (M.issued t parts.ip.str captcha ++ Base64.canonical more) &&
        (if t < env.now then -2 else 1 : Int) == 1)) := by
  have hlen : (M.issued t parts.ip.str captcha).length = cookieB64Length := length_tokenText ..
  have hne : M.issued t parts.ip.str captcha ++ Base64.canonical more ≠ [] := by
    intro h
    have hnil := (List.append_eq_nil_iff.mp h).1
    rw [hnil] at hlen
    cases hlen
  have hvalue : deflectCookie parts.cookie =
      some (M.issued t parts.ip.str captcha ++ Base64.canonical more) :=
    deflectCookie_of_firstDeflect (printable_token _ t more) hne hjar
  rw [cookieVerdict, hvalue]
  dsimp only
  rw [← hlen, List.take_left, issued,
    validateCookie_tokenText M.crypto _ M.hashedKey t env.now hfits]
  rfl

/-- The check of such a jar. -/
theorem checkCookie_token (env : Env) (challenge : HostChallengeSpec) (w : World)
    (hjar : FirstDeflect parts.cookie (M.pageToken t parts.ip.str ++ Base64.canonical more)) :
    ∃ w', M.checkCookie env [] parts challenge w =
      .ok (M.challengePrevailed env challenge
          (M.pageToken t parts.ip.str ++ Base64.canonical more) &&
        (if t < env.now then -2 else 1 : Int) == 1, w') := by
  rw [checkCookie, cookieVerdict_issued env challenge (fits_nil parts.ip) hjar]
  exact ⟨_, rfl⟩

theorem zero_notMem_issued (t : Int64) (ip captcha more : Bytes) :
    (0 : UInt8) ∉ M.issued t ip captcha ++ Base64.canonical more := by
  rw [List.mem_append, not_or, ← Base64.encodeText_eq_canonical]
  exact ⟨zero_notMem_tokenText _ t, Base64.zero_notMem_encodeText more⟩

/-- The server checks the proof of work as the page does. -/
theorem checkSha_eq {value : Bytes} (h : (0 : UInt8) ∉ value) :
    M.checkSha value = hasExpectedZeros (getHashHex (M.crypto.sha256 value).toList)
      M.numberOfTrailingZeros.toNat := by
  rw [checkSha, hasExpectedZeros_getHashHex, cStr_of_zero_notMem h]

/-- The server compares the digest that follows a token with its own. -/
theorem checkAuthValidity_eq {token passwordHash : Bytes} (residue : Nat → UInt8)
    (digest : Vector UInt8 32) (hlen : token.length = cookieB64Length)
    (hhash : passwordHash.length = 44)
    (h0 : (0 : UInt8) ∉ token ++ Base64.canonical digest.toList) :
    M.checkAuthValidity residue (token ++ Base64.canonical digest.toList) passwordHash =
      decide (digest = M.crypto.sha256 (token ++ passwordHash)) := by
  have hdigest : (Base64.canonical digest.toList).length = 44 := by
    rw [← Base64.encodeText_eq_canonical, Base64.length_encodeText, Vector.length_toList]
  have hlong : ¬ (token ++ Base64.canonical digest.toList).length <
      cookieB64Length + passwordHash.length := by
    rw [List.length_append, hlen, hdigest, hhash]
    omega
  rw [checkAuthValidity, cStr_of_zero_notMem h0]
  dsimp only
  rw [if_neg hlong, ← hlen, List.take_left, List.drop_left, ← Base64.encodeText_eq_canonical,
    Base64.decode_encodeText]
  dsimp only
  rw [peek_of_length residue (Vector.length_toList ..)]
  simp [Vector.toList_inj]

end Solutions

/-- A proof of work that satisfies the page satisfies the server: every counter at
which the page stops makes a cookie that is accepted for the same address until the
time of the token is over. -/
theorem checkCookie_shaSolution (env : Env) (parts : TransactionParts)
    (challenge : HostChallengeSpec) (w : World) (t : Int64) (token : Bytes) (i : Nat)
    (htype : challenge.challengeType = .shaInverse)
    (htoken : generateCookie M.crypto [] M.hashedKey t parts.ip.str = .ok token)
    (hzeros : hasExpectedZeros (getHashHex (M.crypto.sha256 (shaSolution token i)).toList)
      M.numberOfTrailingZeros.toNat = true)
    (hnow : env.now ≤ t) (hjar : FirstDeflect parts.cookie (shaSolution token i)) :
    ∃ w', M.checkCookie env [] parts challenge w = .ok (true, w') := by
  rw [generateCookie_page] at htoken
  cases htoken
  obtain ⟨w', hcheck⟩ := checkCookie_token env challenge w hjar
  have hsha : M.checkSha (shaSolution (M.pageToken t parts.ip.str) i) = true :=
    (checkSha_eq (zero_notMem_issued _ _ _ _)).trans hzeros
  refine ⟨w', ?_⟩
  rw [hcheck, challengePrevailed, htype, if_neg (Int64.not_lt.mpr hnow)]
  dsimp only
  rw [← btoa, ← shaSolution, hsha]
  rfl

/-- A pair in front of the challenge cookie. -/
def samplePair : Segment where
  cookie := ⟨bytes "lang", bytes "en=us fr"⟩
  printable := ⟨by decide, by decide +kernel, by decide +kernel, by decide,
    by rintro c ⟨⟩; decide, by rintro c ⟨⟩; decide⟩
  gap := ⟨[], isSpace_of_mem_nil⟩
  before := ⟨[32], isSpace_of_mem_space⟩
  after := ⟨[], isSpace_of_mem_nil⟩

/-- A jar with the value behind that pair. -/
def sampleJar (value : Bytes) : Bytes :=
  [samplePair].flatMap (fun p => p.text ++ [59]) ++ ([32] ++ (bytes "deflect=" ++ (value ++ [])))

theorem firstDeflect_sampleJar (value : Bytes) : FirstDeflect (sampleJar value) value :=
  ⟨[samplePair], ⟨[32], by decide +kernel⟩, ⟨[], nofun⟩, [], by decide, .inl rfl, rfl⟩

/-- A proof of work of two zeros, found at the first counter. -/
theorem checkCookie_shaSolution_first :
    ∃ w', ({ sampleChallenger [] with numberOfTrailingZeros := 2 } : Challenger).checkCookie
      (sampleEnv 100) []
      (sampleParts ⟨10, 0, 0, 1⟩ [] (sampleJar (shaSolution ((sampleChallenger []).pageToken 256
        (inetNtoa ⟨10, 0, 0, 1⟩)) 1)))
      (sampleSha 5) World.init = .ok (true, w') :=
  checkCookie_shaSolution { sampleChallenger [] with numberOfTrailingZeros := 2 } _ _ _ _ 256
    ((sampleChallenger []).pageToken 256 (inetNtoa ⟨10, 0, 0, 1⟩)) 1 rfl
    (generateCookie_page (sampleChallenger []) 256 (.ofAddr ⟨10, 0, 0, 1⟩)) (by decide +kernel)
    (by decide) (firstDeflect_sampleJar _)

/-- The right password is accepted for the same address until the time of the token
is over, and a password is accepted only if its digest under the token is the one of
the right password. -/
theorem checkCookie_authSolution (env : Env) (parts : TransactionParts)
    (challenge : HostChallengeSpec) (w : World) (t : Int64) (token password : Bytes)
    (htype : challenge.challengeType = .auth)
    (hhash : challenge.passwordHash = getHashB64 M.crypto password)
    (htoken : generateCookie M.crypto [] M.hashedKey t parts.ip.str = .ok token) :
    (env.now ≤ t → FirstDeflect parts.cookie (authSolution M.crypto token password) →
      ∃ w', M.checkCookie env [] parts challenge w = .ok (true, w')) ∧
    (∀ (typed : Bytes) (w' : World),
      FirstDeflect parts.cookie (authSolution M.crypto token typed) →
      M.checkCookie env [] parts challenge w = .ok (true, w') →
      M.crypto.sha256 (token ++ getHashB64 M.crypto typed) =
        M.crypto.sha256 (token ++ challenge.passwordHash)) := by
  rw [generateCookie_page] at htoken
  cases htoken
  have hlen : challenge.passwordHash.length = 44 := by
    rw [hhash, getHashB64, ← Base64.encodeText_eq_canonical, Base64.length_encodeText,
      Vector.length_toList]
  have hauth : ∀ typed, M.challengePrevailed env challenge
      (authSolution M.crypto (M.pageToken t parts.ip.str) typed) =
        decide (M.crypto.sha256 (M.pageToken t parts.ip.str ++ getHashB64 M.crypto typed) =
          M.crypto.sha256 (M.pageToken t parts.ip.str ++ challenge.passwordHash)) := by
    intro typed
    rw [challengePrevailed, htype]
    exact checkAuthValidity_eq _ _ (length_tokenText ..) hlen (zero_notMem_issued _ _ _ _)
  constructor
  · intro hnow hjar
    obtain ⟨w', hcheck⟩ := checkCookie_token env challenge w hjar
    refine ⟨w', ?_⟩
    rw [hcheck, ← getHashB64, ← authSolution, hauth, hhash, decide_eq_true rfl,
      if_neg (Int64.not_lt.mpr hnow)]
    rfl
  · intro typed w' hjar hpassed
    obtain ⟨v, hcheck⟩ := checkCookie_token env challenge w hjar
    rw [hpassed, ← getHashB64, ← authSolution, hauth] at hcheck
    have hboth := congrArg Prod.fst (Except.ok.inj hcheck)
    exact of_decide_eq_true (Bool.and_eq_true_iff.mp hboth.symm).1

/-- A password typed as it was configured. -/
theorem checkCookie_authSolution_right :
    ∃ w', (sampleChallenger []).checkCookie (sampleEnv 100) []
      (sampleParts ⟨10, 0, 0, 1⟩ [] (sampleJar (authSolution prefixCrypto
        ((sampleChallenger []).pageToken 160 (inetNtoa ⟨10, 0, 0, 1⟩)) (bytes "secret"))))
      { sampleAuth (bytes "admin") 5 with
        passwordHash := getHashB64 prefixCrypto (bytes "secret") }
      World.init = .ok (true, w') :=
  (checkCookie_authSolution (sampleChallenger []) _ _ _ _ 160 _ (bytes "secret") rfl rfl
    (generateCookie_page (sampleChallenger []) 160 (.ofAddr ⟨10, 0, 0, 1⟩))).1 (by decide)
    (firstDeflect_sampleJar _)

end Challenger

end Banjax
