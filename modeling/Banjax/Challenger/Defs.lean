import Banjax.Filter
import Banjax.Store.IpDb
import Banjax.Token.CookieHash

/-!
# The challenger: data

The challenges of a host (`HostChallengeSpec`), the challenger itself and what it
works on.

A transaction also depends on things the program does not choose: the clock, the
random bytes of a captcha, whether a mutex is free and what the memory behind a
string holds.  They are collected in `Env`, one for each transaction.  The clock
is read once per transaction.

The effects are those on the failure database and the calls that leave the
challenger.  `World` holds the database and a log of the calls, the newest at the
end.  The log also notes every token that is put into a response, which is what a
client gets to know.
-/

namespace Banjax

open Lib

/-! ## Challenges -/

/-- `ChallengeDefinition::ChallengeType`. -/
inductive ChallengeType where
  | shaInverse
  | captcha
  | auth
deriving DecidableEq, Repr

/-- `HostChallengeSpec::MagicWord`. -/
inductive MagicWord where
  | substr (magicWord : Bytes)
  | regexp (magicWord : Bytes)
deriving DecidableEq, Repr

/-- `HostChallengeSpec`. -/
structure HostChallengeSpec where
  name : Bytes
  challengeType : ChallengeType
  /-- The page of the challenge. -/
  challengeStream : Bytes
  /-- How many failures lead to a ban; `0` means that failures are not counted. -/
  failToleranceThreshold : UInt32
  /-- How many seconds a solution is valid. -/
  challengeValidityPeriod : UInt64
  passwordHash : Bytes := []
  magicWords : List MagicWord := []
  magicWordExceptions : List Bytes := []
  whiteListedIps : List SubnetRange := []
deriving DecidableEq

/-- `ChallengerExtendedResponse`.  `generate_response` would use the alternative
URL in place of the requested one, and nothing sets it. -/
structure ChallengerExtendedResponse extends FilterExtendedResponse where
  respondingChallenge : HostChallengeSpec
  alternativeUrl : Bytes := []
deriving DecidableEq

/-- `Challenger`. -/
structure Challenger where
  crypto : Crypto
  /-- `RE2::PartialMatch`: does the text contain a match of the pattern? -/
  partialMatch : Bytes → Bytes → Bool
  hashedKey : Vector UInt8 32
  numberOfTrailingZeros : UInt32
  hostChallengesStatic : Table (List HostChallengeSpec)
  hostToChallengeDynamic : Table HostChallengeSpec := ∅
  ipToChallengeDynamic : Table HostChallengeSpec := ∅
  globalWhiteList : Option GlobalWhiteList := none
  /-- Whether there is a Kafka producer to report to. -/
  kafkaProducer : Bool := false

/-! ## The surroundings of a transaction -/

/-- What a transaction finds and the program does not choose. -/
structure Env where
  /-- `time(NULL)`. -/
  now : Int64
  /-- What follows a decoded string and its terminator in memory. -/
  residue : Bytes → Nat → UInt8
  /-- The five bytes a captcha reads from `/dev/urandom`. -/
  random : Vector UInt8 5
  /-- The image of a captcha. -/
  gif : Bytes
  /-- What the buffer of `format_validity_time_for_cookie` holds before it is filled. -/
  buffer : Bytes
  /-- Whether `host_to_challenge_dynamic_mutex` is free. -/
  hostLockTry : Bool
  /-- Whether `ip_to_challenge_dynamic_mutex` is free. -/
  ipLockTry : Bool

/-- The places of `generate_html` that put a token into the response. -/
inductive Origin where
  /-- The captcha image. -/
  | image
  /-- The right answer to a captcha. -/
  | validation
  /-- The page of a challenge. -/
  | page
deriving DecidableEq, Repr

/-- A call that leaves the challenger, or a token that does. -/
inductive Event where
  /-- `report_failure` counts a failure. -/
  | failure (ip : Bytes)
  /-- `report_success`. -/
  | success (ip : Bytes)
  /-- `swabber->ban`. -/
  | ban (ip reason : Bytes)
  /-- A message of `report_pass_or_failure`, or of its second version. -/
  | report (name site ip : Bytes) (challengerDb : Option UInt64)
  /-- A token in a response. -/
  | token (origin : Origin) (validTill : Int64) (ip captcha : Bytes)
deriving DecidableEq

/-- What transactions change. -/
structure World where
  /-- `challenger_ip_db`. -/
  ipDb : IpDb UInt64
  log : List Event

namespace World

/-- No failures and nothing done yet. -/
def init : World := ⟨IpDb.empty, []⟩

/-- One more entry in the log. -/
def emit (w : World) (e : Event) : World := { w with log := w.log ++ [e] }

@[simp] theorem emit_ipDb (w : World) (e : Event) : (w.emit e).ipDb = w.ipDb := rfl

@[simp] theorem emit_log (w : World) (e : Event) : (w.emit e).log = w.log ++ [e] := rfl

end World

/-! ## Magic words -/

namespace Challenger

variable (M : Challenger)

/-- `HostChallengeSpec::MagicWord::is_match`. -/
def magicWordIsMatch (word : MagicWord) (url : Bytes) : Bool :=
  match word with
  | .regexp magicWord => M.partialMatch url magicWord
  | .substr magicWord => (find? magicWord url).isSome

/-- `std::search(url.begin(), end, ...) != end`. -/
def searchFinds (text pattern : Bytes) : Bool :=
  match find? pattern text with
  | some n => n ≠ text.length
  | none => false

/-- `needs_authentication`: the URL has a magic word, and no exception in front of
its query. -/
def needsAuthentication (url : Bytes) (challenge : HostChallengeSpec) : Bool :=
  let isProtected := challenge.magicWords.any fun word => M.magicWordIsMatch word url
  if !isProtected then false
  else
    let path :=
      match find? (bytes "?") url with
      | some queryStart => url.take queryStart
      | none => url
    !challenge.magicWordExceptions.any fun word => searchFinds path word

/-- `is_captcha_url`. -/
def isCaptchaUrl (url : Bytes) : Bool := (rfind? (bytes "__captcha") url).isSome

/-- `is_captcha_answer`. -/
def isCaptchaAnswer (url : Bytes) : Bool := (rfind? (bytes "__validate/") url).isSome

/-- The text after the last `__validate/`. -/
def answerOf (url : Bytes) : Bytes :=
  match rfind? (bytes "__validate/") url with
  | some found => url.drop (found + (bytes "__validate/").length)
  | none => []

example : answerOf (bytes "http://h/__validate/__validate/ab") = bytes "ab" := by decide +kernel

/-- `is_globally_white_listed`. -/
def isGloballyWhiteListed (ip : Bytes) : Bool :=
  match M.globalWhiteList with
  | none => false
  | some whiteList => (whiteList.isWhiteListed ip).isSome

end Challenger

/-! ## Concrete data -/

/-- A captcha challenge with the threshold. -/
def sampleCaptcha (threshold : UInt32) : HostChallengeSpec where
  name := bytes "example captcha"
  challengeType := .captcha
  challengeStream := bytes "<html>captcha</html>"
  failToleranceThreshold := threshold
  challengeValidityPeriod := 360

/-- A proof of work challenge with the threshold. -/
def sampleSha (threshold : UInt32) : HostChallengeSpec where
  name := bytes "example sha_inverse"
  challengeType := .shaInverse
  challengeStream := bytes "<html>$token</html>"
  failToleranceThreshold := threshold
  challengeValidityPeriod := 360

/-- A password challenge for the URLs with the magic word, with the threshold. -/
def sampleAuth (magicWord : Bytes) (threshold : UInt32) : HostChallengeSpec where
  name := bytes "example auth"
  challengeType := .auth
  challengeStream := bytes "<html>$token</html>"
  failToleranceThreshold := threshold
  challengeValidityPeriod := 360
  magicWords := [.substr magicWord]

/-- A challenger with the challenges at `example.net`. -/
def sampleChallenger (cs : List HostChallengeSpec) : Challenger where
  crypto := prefixCrypto
  partialMatch text pattern := (find? pattern text).isSome
  hashedKey := zeroKey
  numberOfTrailingZeros := 0
  hostChallengesStatic := AList.insert (bytes "example.net") cs ∅

/-- The cookie header with a token of `prefixCrypto`. -/
def sampleCookie (t : Int64) (ip captcha : Bytes) : Bytes :=
  bytes "deflect=" ++ tokenText (prefixCrypto.hmacSha1 zeroKey (message t ip captcha)) t

/-- A request to `example.net` for the path, with the cookie header. -/
def sampleParts (ip : InAddr) (path cookie : Bytes) : TransactionParts where
  ip := .ofAddr ip
  url := bytes "http://example.net/" ++ path
  host := bytes "example.net"
  ua := bytes "Mozilla/5.0"
  cookie := cookie
  urlWithHost := bytes "http://example.net/" ++ path

/-- Surroundings in which every mutex is free. -/
def sampleEnv (now : Int64) : Env where
  now := now
  residue _ _ := 0
  random := Vector.replicate 5 0
  gif := bytes "GIF89a"
  buffer := []
  hostLockTry := true
  ipLockTry := true

end Banjax
