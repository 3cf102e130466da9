import Banjax.Challenger.Request

/-!
# The response of the challenger

`generate_response` and `generate_html` of `challenger.cpp`, which are called when
the challenger answers a request itself, and the two steps of a transaction at the
challenger in one.

`generate_html` has three branches: the image of a captcha, the answer to one, and
the page of a challenge.  Each of them puts a token into the response.  Only the
second one can fail, when the answer is too long for the message under the MAC.
-/

namespace Banjax

open Lib

/-! ## The time of a cookie -/

/-- The civil date of a day, counted from the first of January 1970. -/
def civilFromDays (days : Int) : Int × Nat × Nat :=
  let z := days + 719468
  let era := z / 146097
  let doe := (z % 146097).toNat
  let yoe := (doe - doe / 1460 + doe / 36524 - doe / 146096) / 365
  let doy := doe - (365 * yoe + yoe / 4 - yoe / 100)
  let mp := (5 * doy + 2) / 153
  let day := doy - (153 * mp + 2) / 5 + 1
  let month := if mp < 10 then mp + 3 else mp - 9
  (yoe + era * 400 + (if month ≤ 2 then 1 else 0), month, day)

/-- A number with two digits. -/
def twoDigits (n : Nat) : Bytes := if n < 10 then 48 :: decimal n else decimal n

/-- The text `strftime` makes of a time for the format `%a, %d %b %Y %T GMT`. -/
def validityTimeText (time : Int64) : Bytes :=
  let seconds := (time.toInt % 86400).toNat
  let days := time.toInt / 86400
  let (year, month, day) := civilFromDays days
  let weekday := [bytes "Sun", bytes "Mon", bytes "Tue", bytes "Wed", bytes "Thu", bytes "Fri",
    bytes "Sat"].getD ((days + 4) % 7).toNat []
  let monthName := [bytes "Jan", bytes "Feb", bytes "Mar", bytes "Apr", bytes "May", bytes "Jun",
    bytes "Jul", bytes "Aug", bytes "Sep", bytes "Oct", bytes "Nov", bytes "Dec"].getD (month - 1) []
  weekday ++ bytes ", " ++ twoDigits day ++ bytes " " ++ monthName ++ bytes " " ++
    signedDecimal year ++ bytes " " ++ twoDigits (seconds / 3600) ++ bytes ":" ++
    twoDigits (seconds / 60 % 60) ++ bytes ":" ++ twoDigits (seconds % 60) ++ bytes " GMT"

/-- `format_validity_time_for_cookie`.  A text that does not fit into the buffer of
30 bytes leaves it as it was. -/
def formatValidityTimeForCookie (buffer : Bytes) (validityTime : Int64) : Bytes :=
  let text := validityTimeText validityTime
  if text.length < 30 then text else cStr buffer

example : formatValidityTimeForCookie [] 1582934400 = bytes "Sat, 29 Feb 2020 00:00:00 GMT" := by
  decide +kernel

/-! ## The captcha -/

/-- `letters` of `libcaptcha.c`. -/
def letters : Bytes := bytes "abcdafahijklmnopqrstuvwxyz"

/-- The text of a captcha, from its random bytes. -/
def captchaText (random : Vector UInt8 5) : Bytes :=
  random.toList.map fun b => letters.getD (b.toNat % 25) 0

/-- A small letter. -/
def isLetter (c : UInt8) : Bool := 97 ≤ c && c ≤ 122

theorem letters_isLetter : ∀ n < 25, isLetter (letters.getD n 0) = true := by decide

theorem captchaText_isLetter {random : Vector UInt8 5} {c : UInt8} (h : c ∈ captchaText random) :
    isLetter c = true := by
  obtain ⟨b, _, rfl⟩ := List.mem_map.mp h
  exact letters_isLetter _ (Nat.mod_lt _ (by decide))

theorem length_captchaText (random : Vector UInt8 5) : (captchaText random).length = 5 := by
  simp [captchaText]

theorem zero_notMem_captchaText (random : Vector UInt8 5) : (0 : UInt8) ∉ captchaText random :=
  fun h => absurd (captchaText_isLetter h) (by decide)

namespace Challenger

variable (M : Challenger)

/-! ## The response -/

/-- The header that hands out a token. -/
def cookieHeader (cookie : Bytes) : Bytes :=
  bytes "deflect=" ++ cookie ++ bytes "; path=/; HttpOnly"

/-- `too_many_failures_message`. -/
def tooManyFailuresMessage : Bytes :=
  bytes "<html><header></header><body>you are banned by deflect/banjax</body></html>"

/-- The branch of `generate_html` for the image of a captcha. -/
def generateImage (env : Env) (ip : Bytes) (d : ChallengerExtendedResponse) (w : World) :
    Except Fault (Bytes × ChallengerExtendedResponse × World) := do
  let text := captchaText env.random
  let curtime := env.now + 120
  let cookie ← generateCookie M.crypto text M.hashedKey curtime ip
  return (env.gif,
    { d with
      responseCode := 200
      contentType := some (bytes "image/gif")
      setCookieHeader := d.setCookieHeader ++ cookieHeader cookie },
    w.emit (.token .image curtime ip text))

/-- The branch of `generate_html` for the answer to a captcha. -/
def generateValidation (env : Env) (ip : Bytes) (t : Int64) (parts : TransactionParts)
    (d : ChallengerExtendedResponse) (w : World) :
    Except Fault (Bytes × ChallengerExtendedResponse × World) := do
  let d := { d with contentType := some (bytes "text/html"), responseCode := 403 }
  let answer := answerOf parts.urlWithHost
  let (passed, w) ← M.checkCookie env answer parts d.respondingChallenge w
  if passed then
    let cookie ← generateCookie M.crypto [] M.hashedKey t ip
    return (bytes "OK",
      { d with
        responseCode := 200
        setCookieHeader := d.setCookieHeader ++ cookieHeader cookie },
      w.emit (.token .validation t ip []))
  else
    let (banned, w) :=
      if d.respondingChallenge.failToleranceThreshold = (0 : UInt32) then (d.bannedIp, w)
      else reportFailure d.respondingChallenge parts w
    return (if banned then bytes "Too many failures" else bytes "X", { d with bannedIp := banned }, w)

/-- The last branch of `generate_html`: the page of the challenge, in which the time,
the token, the URL and the difficulty are filled in. -/
def generatePage (env : Env) (ip : Bytes) (t : Int64) (url : Bytes)
    (d : ChallengerExtendedResponse) (w : World) :
    Except Fault (Bytes × ChallengerExtendedResponse × World) := do
  let page := d.respondingChallenge.challengeStream
  let token ← generateCookie M.crypto [] M.hashedKey t ip
  let page := replaceFirst page (bytes "$time") (formatValidityTimeForCookie env.buffer t)
  let w := if (find? (bytes "$token") page).isSome then w.emit (.token .page t ip []) else w
  let page := replaceFirst page (bytes "$token") token
  let page := replaceFirst page (bytes "$url") url
  let page := replaceFirst page (bytes "$zeros") (decimal M.numberOfTrailingZeros.toNat)
  return (page, d, w)

/-- `generate_html`. -/
def generateHtml (env : Env) (ip : Bytes) (t : Int64) (url : Bytes) (parts : TransactionParts)
    (d : ChallengerExtendedResponse) (w : World) :
    Except Fault (Bytes × ChallengerExtendedResponse × World) :=
  if isCaptchaUrl url then M.generateImage env ip d w
  else if isCaptchaAnswer url then M.generateValidation env ip t parts d w
  else M.generatePage env ip t url d w

/-- Until when a solution that is found now is valid. -/
def timeValidity (env : Env) (challenge : HostChallengeSpec) : Int64 :=
  (env.now.toUInt64 + challenge.challengeValidityPeriod).toInt64

/-- `generate_response`. -/
def generateResponse (env : Env) (parts : TransactionParts) (d : ChallengerExtendedResponse)
    (w : World) : Except Fault (Bytes × ChallengerExtendedResponse × World) :=
  if d.bannedIp then .ok (tooManyFailuresMessage, d, w)
  else
    M.generateHtml env parts.ip.str (timeValidity env d.respondingChallenge)
      (if d.alternativeUrl = [] then parts.urlWithHost else d.alternativeUrl) parts d w

/-- A transaction at the challenger: the request, and the response when the
challenger makes it. -/
def transaction (env : Env) (parts : TransactionParts) (w : World) :
    Except Fault (Response × Option Bytes × World) := do
  let (response, w) ← M.onHttpRequest env parts w
  match response with
  | .iRespond d =>
      let (body, d, w) ← M.generateResponse env parts d w
      return (.iRespond d, some body, w)
  | response => return (response, none, w)

/-! ## What a response can do -/

theorem fits_captchaText (ip : ClientIp) (random : Vector UInt8 5) :
    Fits ip.str (captchaText random) := by
  have := ip.length_le
  rw [Fits, ip.cStr_str, cStr_of_zero_notMem (zero_notMem_captchaText random),
    length_captchaText, ibufSize]
  omega

/-- The page of the challenge shows the token. -/
def showsToken (env : Env) (challenge : HostChallengeSpec) : Bool :=
  (find? (bytes "$token") (replaceFirst challenge.challengeStream (bytes "$time")
    (formatValidityTimeForCookie env.buffer (timeValidity env challenge)))).isSome

/-- What a response of the challenge does, and when. -/
inductive Html (env : Env) (parts : TransactionParts) (c : HostChallengeSpec) (w : World) :
    World → Prop where
  | image : isCaptchaUrl parts.urlWithHost = true →
      Html env parts c w
        (w.emit (.token .image (env.now + 120) parts.ip.str (captchaText env.random)))
  | validated {v : World} : isCaptchaUrl parts.urlWithHost = false →
      isCaptchaAnswer parts.urlWithHost = true →
      M.accepts env (answerOf parts.urlWithHost) parts c = true → w.Quiet v →
      Html env parts c w (v.emit (.token .validation (timeValidity env c) parts.ip.str []))
  | rejected {v : World} : isCaptchaUrl parts.urlWithHost = false →
      isCaptchaAnswer parts.urlWithHost = true →
      M.accepts env (answerOf parts.urlWithHost) parts c = false → w.Quiet v →
      Html env parts c w (countFailure c parts v).2
  | page : isCaptchaRequest parts = false → showsToken env c = true →
      Html env parts c w (w.emit (.token .page (timeValidity env c) parts.ip.str []))
  | plainPage : isCaptchaRequest parts = false → showsToken env c = false → Html env parts c w w

/-- The answer of the request, if it is one, reaches the message and does not fit. -/
def Overflows (env : Env) (parts : TransactionParts) : Prop :=
  isCaptchaUrl parts.urlWithHost = false ∧ isCaptchaAnswer parts.urlWithHost = true ∧
    presented env parts ≠ none ∧ ¬ Fits parts.ip.str (answerOf parts.urlWithHost)

section Responses

variable {M} {env : Env} {parts : TransactionParts} {d : ChallengerExtendedResponse}

theorem generateImage_html (w : World) (hu : isCaptchaUrl parts.urlWithHost = true) :
    ∃ body d' w', M.generateImage env parts.ip.str d w = .ok (body, d', w') ∧
      M.Html env parts d.respondingChallenge w w' := by
  rw [generateImage, generateCookie_eq, if_pos (fits_captchaText parts.ip env.random)]
  exact ⟨_, _, _, rfl, .image hu⟩

theorem generateValidation_html (w : World)
    (hu : isCaptchaUrl parts.urlWithHost = false) (ha : isCaptchaAnswer parts.urlWithHost = true)
    (hfits : presented env parts = none ∨ Fits parts.ip.str (answerOf parts.urlWithHost)) :
    ∃ body d' w', M.generateValidation env parts.ip.str (timeValidity env d.respondingChallenge)
        parts d w = .ok (body, d', w') ∧ M.Html env parts d.respondingChallenge w w' := by
  obtain ⟨v, hcheck, hquiet⟩ := M.checkCookie_ok env _ parts d.respondingChallenge w hfits
  rw [generateValidation]
  dsimp only
  rw [hcheck, ok_bind]
  dsimp only
  cases hacc : M.accepts env (answerOf parts.urlWithHost) parts d.respondingChallenge with
  | true =>
      rw [generateCookie_eq, if_pos (fits_nil parts.ip)]
      exact ⟨_, _, _, rfl, .validated hu ha hacc hquiet⟩
  | false =>
      rw [if_neg (by simp)]
      refine ⟨_, _, _, rfl, ?_⟩
      have hcount : (countFailure d.respondingChallenge parts v).2 =
          (if d.respondingChallenge.failToleranceThreshold = 0 then (d.bannedIp, v)
            else reportFailure d.respondingChallenge parts v).2 := by
        rw [countFailure]
        split <;> simp_all
      exact hcount ▸ Html.rejected hu ha hacc hquiet

theorem generatePage_html (w : World) (hu : isCaptchaRequest parts = false) (url : Bytes) :
    ∃ body d' w', M.generatePage env parts.ip.str (timeValidity env d.respondingChallenge) url d w =
        .ok (body, d', w') ∧ M.Html env parts d.respondingChallenge w w' := by
  rw [generatePage]
  dsimp only
  rw [generateCookie_eq, if_pos (fits_nil parts.ip), ok_bind]
  refine ⟨_, _, _, rfl, ?_⟩
  split
  · next hs => exact .page hu hs
  · next hs => exact .plainPage hu (by simpa [showsToken] using hs)

/-- A response that does not overflow the message is made, and does what `Html`
lists. -/
theorem generateResponse_html (w : World) (hban : d.bannedIp = false) (halt : d.alternativeUrl = [])
    (hover : ¬ Overflows env parts) :
    ∃ body d' w', M.generateResponse env parts d w = .ok (body, d', w') ∧
      M.Html env parts d.respondingChallenge w w' := by
  rw [generateResponse, hban, if_neg (by simp), if_pos halt, generateHtml]
  cases hu : isCaptchaUrl parts.urlWithHost with
  | true => exact generateImage_html w hu
  | false =>
      rw [if_neg (by simp)]
      cases ha : isCaptchaAnswer parts.urlWithHost with
      | true =>
          refine generateValidation_html w hu ha ?_
          by_contra hno
          obtain ⟨hp, hfits⟩ := not_or.mp hno
          exact hover ⟨hu, ha, hp, hfits⟩
      | false => exact generatePage_html w (by rw [isCaptchaRequest, hu, ha]; rfl) _

/-- A response that overflows the message is not made. -/
theorem generateResponse_overflow (w : World) (hban : d.bannedIp = false)
    (halt : d.alternativeUrl = []) (hover : Overflows env parts) :
    M.generateResponse env parts d w = .error .outOfBounds := by
  obtain ⟨hu, ha, hp, hfits⟩ := hover
  obtain ⟨cookie, hcookie⟩ := Option.ne_none_iff_exists'.mp hp
  rw [generateResponse, hban, if_neg (by simp), if_pos halt, generateHtml, hu, if_neg (by simp),
    ha, if_pos rfl, generateValidation]
  dsimp only
  rw [checkCookie, M.cookieVerdict_not_fits hcookie hfits]
  rfl

end Responses

/-! ## What a transaction can do -/

/-- What a transaction does. -/
inductive Served (env : Env) (parts : TransactionParts) (w : World) : World → Prop where
  | unchallenged : M.challengesToRun env parts = none → Served env parts w w
  | letThrough {cs : List HostChallengeSpec} {r : Response} {w' : World} :
      M.challengesToRun env parts = some cs → M.Loop env parts cs w r w' →
      (∀ d, r ≠ .iRespond d) → Served env parts w w'
  | banned {cs : List HostChallengeSpec} {d : ChallengerExtendedResponse} {w' : World} :
      M.challengesToRun env parts = some cs → M.Loop env parts cs w (.iRespond d) w' →
      d.bannedIp = true → Served env parts w w'
  | answered {cs : List HostChallengeSpec} {d : ChallengerExtendedResponse} {v w' : World} :
      M.challengesToRun env parts = some cs → M.Loop env parts cs w (.iRespond d) v →
      d.bannedIp = false → M.Html env parts d.respondingChallenge v w' → Served env parts w w'

variable {M} {env : Env} {parts : TransactionParts}

/-- No answer carries an alternative URL. -/
theorem loop_alternativeUrl {cs : List HostChallengeSpec} {w w' : World} {r : Response}
    (h : M.Loop env parts cs w r w') : ∀ d, r = .iRespond d → d.alternativeUrl = [] := by
  induction h with
  | done => nofun
  | stop hround =>
      rintro d rfl
      cases hround with
      | captchaRequest _ _ => rfl
      | failed _ _ _ _ _ _ halt => exact halt
  | next _ _ ih => exact ih

/-- A transaction is served, or its answer overflows the message. -/
theorem transaction_cases (M : Challenger) (env : Env) (parts : TransactionParts) (w : World) :
    (∃ r body w', M.transaction env parts w = .ok (r, body, w') ∧ M.Served env parts w w') ∨
      (Overflows env parts ∧ M.transaction env parts w = .error .outOfBounds) := by
  obtain ⟨r, v, hreq, hloop⟩ := M.onHttpRequest_loop env parts w
  rw [transaction, hreq, ok_bind]
  cases hcs : M.challengesToRun env parts with
  | none =>
      rw [hcs] at hloop
      obtain ⟨rfl, rfl⟩ := hloop
      exact .inl ⟨_, _, _, rfl, .unchallenged hcs⟩
  | some cs =>
      rw [hcs] at hloop
      cases r with
      | goAheadNoComment => exact .inl ⟨_, _, _, rfl, .letThrough hcs hloop nofun⟩
      | serveImmediatelyDontCache => exact .inl ⟨_, _, _, rfl, .letThrough hcs hloop nofun⟩
      | serveFresh => exact .inl ⟨_, _, _, rfl, .letThrough hcs hloop nofun⟩
      | iRespond d =>
          dsimp only
          have halt := loop_alternativeUrl hloop d rfl
          cases hban : d.bannedIp with
          | true =>
              rw [generateResponse, hban, if_pos rfl]
              exact .inl ⟨_, _, _, rfl, .banned hcs hloop hban⟩
          | false =>
              by_cases hover : Overflows env parts
              · rw [generateResponse_overflow v hban halt hover]
                exact .inr ⟨hover, rfl⟩
              · obtain ⟨body, d', w', hgen, hhtml⟩ :=
                  generateResponse_html (M := M) v hban halt hover
                rw [hgen, ok_bind]
                exact .inl ⟨_, _, _, rfl, .answered hcs hloop hban hhtml⟩

theorem served_of_transaction {w w' : World} {r : Response} {body : Option Bytes}
    (h : M.transaction env parts w = .ok (r, body, w')) : M.Served env parts w w' := by
  rcases M.transaction_cases env parts w with ⟨r', body', w'', h', hserved⟩ | ⟨_, h'⟩
  · rw [h] at h'
    cases h'
    exact hserved
  · rw [h] at h'
    cases h'

end Challenger

/-! ## Visits -/

/-- A transaction of a run: the challenger as it is configured then, what it finds,
and the request. -/
structure Visit where
  challenger : Challenger
  env : Env
  parts : TransactionParts

namespace Visit

/-- The world after the transaction. -/
def serve (w : World) (x : Visit) : Except Fault World := do
  let (_, _, w) ← x.challenger.transaction x.env x.parts w
  return w

theorem served_of_serve {w w' : World} {x : Visit} (h : x.serve w = .ok w') :
    x.challenger.Served x.env x.parts w w' := by
  obtain ⟨⟨r, body, v⟩, htrans, hv⟩ := bind_eq_ok.mp h
  cases hv
  exact Challenger.served_of_transaction htrans

end Visit

end Banjax
