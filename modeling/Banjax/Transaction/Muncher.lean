import Banjax.Config.Defs
import Banjax.Filter
import Banjax.Lib.Run

/-!
# The parts of a transaction

`TransactionMuncher` of `transaction_muncher.cpp`.  It asks the traffic server for the parts
of a transaction that the filters want, keeps them in a map, and notes in a word of flags
which ones it has.

What the server answers is a parameter, one `Ats` for each event of a transaction.  The
length of a string of the server is an `int`, and a field that is not there has no string.
-/

namespace Banjax

open Lib

/-! ## Parts and flags -/

/-- `TransactionPart`, without `VALIDITY_STAT`. -/
inductive TransactionPart where
  | ip
  | url
  | host
  | ua
  | cookie
  | urlWithHost
  | method
  | miss
  | status
  | protocol
  | contentLength
deriving DecidableEq, Repr

namespace TransactionPart

/-- The value of the enumerator. -/
def flag : TransactionPart → BitVec 64
  | ip => 0x001
  | url => 0x002
  | host => 0x004
  | ua => 0x008
  | cookie => 0x010
  | urlWithHost => 0x020
  | method => 0x040
  | miss => 0x080
  | status => 0x100
  | protocol => 0x200
  | contentLength => 0x400

/-- The position of its only bit. -/
def bit : TransactionPart → Nat
  | ip => 0
  | url => 1
  | host => 2
  | ua => 3
  | cookie => 4
  | urlWithHost => 5
  | method => 6
  | miss => 7
  | status => 8
  | protocol => 9
  | contentLength => 10

theorem flag_eq (p : TransactionPart) : p.flag = BitVec.twoPow 64 p.bit := by
  cases p <;> rfl

theorem flag_ne_zero (p : TransactionPart) : p.flag ≠ 0 := by
  cases p <;> decide

theorem bit_inj {p q : TransactionPart} : p.bit = q.bit ↔ p = q := by
  cases p <;> cases q <;> decide

theorem bit_lt (p : TransactionPart) : p.bit < 64 := by
  cases p <;> decide

/-- The parts that `retrieve_parts` does not see to. -/
def others : List TransactionPart := [miss, status, contentLength]

end TransactionPart

/-- `flags & part`, as a condition. -/
def has (flags : BitVec 64) (p : TransactionPart) : Bool := flags &&& p.flag != 0

theorem has_eq (flags : BitVec 64) (p : TransactionPart) : has flags p = flags.getLsbD p.bit := by
  rw [has, p.flag_eq, BitVec.and_twoPow]
  cases flags.getLsbD p.bit with
  | false => simp
  | true => simpa [← p.flag_eq] using p.flag_ne_zero

@[simp] theorem has_zero (p : TransactionPart) : has 0#64 p = false := by
  simp [has]

@[simp] theorem has_or (flags more : BitVec 64) (p : TransactionPart) :
    has (flags ||| more) p = (has flags p || has more p) := by
  simp [has_eq]

@[simp] theorem has_flag (p q : TransactionPart) : has p.flag q = decide (p = q) := by
  rw [has_eq, p.flag_eq, BitVec.getLsbD_twoPow]
  simp [TransactionPart.bit_inj, p.bit_lt]

/-- The flags that are wanted and not there. -/
def missing (valid requested : BitVec 64) : BitVec 64 := ~~~valid &&& requested

@[simp] theorem has_missing (valid requested : BitVec 64) (p : TransactionPart) :
    has (missing valid requested) p = (!has valid p && has requested p) := by
  have hlt := p.bit_lt
  simp [has_eq, missing, hlt]

theorem missing_ne_zero {valid requested : BitVec 64} {p : TransactionPart}
    (hvalid : has valid p = false) (h : has requested p = true) :
    missing valid requested ≠ 0#64 := by
  intro hzero
  have hp : has (missing valid requested) p = true := by simp [hvalid, h]
  simp [hzero] at hp

theorem has_of_missing_eq_zero {valid requested : BitVec 64}
    (hzero : missing valid requested = 0#64) {p : TransactionPart} (h : has requested p = true) :
    has valid p = true := by
  by_contra hno
  exact missing_ne_zero (Bool.eq_false_iff.mpr hno) h hzero

theorem missing_or_self (valid requested : BitVec 64) :
    missing (valid ||| requested) requested = 0#64 := by
  apply BitVec.eq_of_getLsbD_eq
  intro i hi
  simp [missing, hi]

theorem missing_or_eq_zero {valid requested : BitVec 64} (more : BitVec 64)
    (h : missing valid requested = 0#64) : missing (valid ||| more) requested = 0#64 := by
  have hsame : missing (valid ||| more) requested = ~~~more &&& missing valid requested := by
    apply BitVec.eq_of_getLsbD_eq
    intro i hi
    simp only [missing, BitVec.getLsbD_and, BitVec.getLsbD_not, BitVec.getLsbD_or, Bool.not_or]
    cases valid.getLsbD i <;> cases more.getLsbD i <;> simp
  rw [hsame, h]
  exact BitVec.and_zero

/-! ## What the server answers -/

/-- The answers of the traffic server during one event. -/
structure Ats where
  /-- `TSHttpTxnClientReqGet` succeeds. -/
  clientReq : Bool
  clientAddr : Option InAddr
  /-- `TSHttpHdrUrlGet` succeeds. -/
  hdrUrl : Bool
  /-- `TSUrlStringGet`, of the URL as it came. -/
  urlString : Option Bytes
  urlScheme : Bytes
  /-- `TSUrlHostSet` succeeds with the host. -/
  urlHostSet : Bytes → Bool
  /-- `TSUrlStringGet`, of the URL with the host. -/
  urlStringOf : Bytes → Option Bytes
  method : Option Bytes
  host : Option Bytes
  userAgent : Option Bytes
  cookie : Option Bytes
  /-- `TSHttpTxnClientRespGet` succeeds. -/
  clientResp : Bool
  status : Nat
  contentLength : Option Bytes

/-- `::tolower`. -/
def lower (c : UInt8) : UInt8 := if 65 ≤ c && c ≤ 90 then c + 32 else c

namespace Ats

/-- The text for `IP`. -/
def clientIp (ats : Ats) : ClientIp :=
  match ats.clientAddr with
  | some x => .ofAddr x
  | none => ⟨[], Or.inl rfl⟩

/-- The texts for `URL` and `PROTOCOL`, which are retrieved together. -/
def urlAndProtocol (ats : Ats) : Bytes × Bytes :=
  match ats.hdrUrl, ats.urlString with
  | true, some url => (url, ats.urlScheme)
  | _, _ => ([], [])

/-- The text for `HOST`. -/
def hostText (ats : Ats) : Bytes :=
  match ats.host with
  | some host => host.map lower
  | none => []

/-- The entry for `URL_WITH_HOST`. -/
def urlWithHost (ats : Ats) : Option Bytes :=
  if ats.hdrUrl then
    if ats.urlHostSet ats.hostText then some ((ats.urlStringOf ats.hostText).getD []) else none
  else some []

end Ats

/-! ## The muncher -/

/-- `PARTS_ERROR`, as far as it is thrown. -/
inductive PartsError where
  | headerRetrievalError
deriving DecidableEq, Repr

/-- `TransactionMuncher`: the two parts of `cur_trans_parts`, `valid_parts`, and which
headers it holds. -/
structure TransactionMuncher where
  /-- `cur_trans_parts[VALIDITY_STAT]`. -/
  validityStat : Bytes
  /-- The other entries of `cur_trans_parts`. -/
  part : TransactionPart → Option Bytes
  validParts : BitVec 64
  requestHeader : Bool
  responseHeader : Bool

namespace TransactionMuncher

/-- `update_validity_status`. -/
def updateValidityStatus (m : TransactionMuncher) : TransactionMuncher :=
  { m with validityStat := leBytes 8 m.validParts.toNat }

/-- The constructor. -/
def create : TransactionMuncher :=
  updateValidityStatus ⟨[], fun _ => none, 0, false, false⟩

/-- `cur_trans_parts[p] = text`. -/
def set (m : TransactionMuncher) (p : TransactionPart) (text : Bytes) : TransactionMuncher :=
  { m with part := Function.update m.part p (some text) }

/-- `cur_trans_parts.insert`, which keeps an entry that is there. -/
def insert (m : TransactionMuncher) (p : TransactionPart) (text : Bytes) : TransactionMuncher :=
  m.set p ((m.part p).getD text)

/-- The step, on a condition. -/
def when (m : TransactionMuncher) (flag : Bool) (f : TransactionMuncher → TransactionMuncher) :
    TransactionMuncher :=
  if flag then f m else m

/-- `valid_parts |= flags`. -/
def addValid (m : TransactionMuncher) (flags : BitVec 64) : TransactionMuncher :=
  { m with validParts := m.validParts ||| flags }

/-- The header is there. -/
def holdRequest (m : TransactionMuncher) : TransactionMuncher := { m with requestHeader := true }

/-- The header is there. -/
def holdResponse (m : TransactionMuncher) : TransactionMuncher := { m with responseHeader := true }

/-- `miss`. -/
def miss (m : TransactionMuncher) : TransactionMuncher := m.set .miss []

section Fields

variable (m : TransactionMuncher) (p q : TransactionPart) (text : Bytes) (flags : BitVec 64)
  (flag : Bool) (f : TransactionMuncher → TransactionMuncher)

@[simp] theorem set_part : (m.set p text).part q = if q = p then some text else m.part q :=
  Function.update_apply ..

@[simp] theorem insert_part :
    (m.insert p text).part q = if q = p then some ((m.part p).getD text) else m.part q := by
  rw [insert, set_part]

@[simp] theorem set_validParts : (m.set p text).validParts = m.validParts := rfl

@[simp] theorem set_requestHeader : (m.set p text).requestHeader = m.requestHeader := rfl

@[simp] theorem set_responseHeader : (m.set p text).responseHeader = m.responseHeader := rfl

@[simp] theorem insert_validParts : (m.insert p text).validParts = m.validParts := rfl

@[simp] theorem insert_requestHeader : (m.insert p text).requestHeader = m.requestHeader := rfl

@[simp] theorem insert_responseHeader : (m.insert p text).responseHeader = m.responseHeader := rfl

@[simp] theorem addValid_part : (m.addValid flags).part = m.part := rfl

@[simp] theorem addValid_validParts : (m.addValid flags).validParts = m.validParts ||| flags := rfl

@[simp] theorem addValid_requestHeader : (m.addValid flags).requestHeader = m.requestHeader := rfl

@[simp] theorem addValid_responseHeader :
    (m.addValid flags).responseHeader = m.responseHeader := rfl

@[simp] theorem holdRequest_part : m.holdRequest.part = m.part := rfl

@[simp] theorem holdRequest_validParts : m.holdRequest.validParts = m.validParts := rfl

@[simp] theorem holdRequest_requestHeader : m.holdRequest.requestHeader = true := rfl

@[simp] theorem holdRequest_responseHeader : m.holdRequest.responseHeader = m.responseHeader := rfl

@[simp] theorem holdResponse_part : m.holdResponse.part = m.part := rfl

@[simp] theorem holdResponse_validParts : m.holdResponse.validParts = m.validParts := rfl

@[simp] theorem holdResponse_requestHeader : m.holdResponse.requestHeader = m.requestHeader := rfl

@[simp] theorem holdResponse_responseHeader : m.holdResponse.responseHeader = true := rfl

@[simp] theorem updateValidityStatus_part : m.updateValidityStatus.part = m.part := rfl

@[simp] theorem updateValidityStatus_validParts :
    m.updateValidityStatus.validParts = m.validParts := rfl

@[simp] theorem updateValidityStatus_requestHeader :
    m.updateValidityStatus.requestHeader = m.requestHeader := rfl

@[simp] theorem updateValidityStatus_responseHeader :
    m.updateValidityStatus.responseHeader = m.responseHeader := rfl

@[simp] theorem when_part : (m.when flag f).part q = if flag then (f m).part q else m.part q := by
  cases flag <;> rfl

@[simp] theorem when_validParts :
    (m.when flag f).validParts = if flag then (f m).validParts else m.validParts := by
  cases flag <;> rfl

@[simp] theorem when_requestHeader :
    (m.when flag f).requestHeader = if flag then (f m).requestHeader else m.requestHeader := by
  cases flag <;> rfl

@[simp] theorem when_responseHeader :
    (m.when flag f).responseHeader = if flag then (f m).responseHeader else m.responseHeader := by
  cases flag <;> rfl

end Fields

/-- `TSHttpTxnClientReqGet`, unless the header is there. -/
def needRequestHeader (ats : Ats) (m : TransactionMuncher) :
    Except PartsError TransactionMuncher :=
  if m.requestHeader || ats.clientReq then .ok m.holdRequest
  else .error .headerRetrievalError

/-- `retrieve_response_header`, unless the header is there. -/
def needResponseHeader (ats : Ats) (m : TransactionMuncher) :
    Except PartsError TransactionMuncher :=
  if m.responseHeader || ats.clientResp then .ok m.holdResponse
  else .error .headerRetrievalError

/-- The branch for `URL` and `PROTOCOL`. -/
def retrieveUrl (ats : Ats) (m : TransactionMuncher) : TransactionMuncher :=
  (m.insert .url ats.urlAndProtocol.1).insert .protocol ats.urlAndProtocol.2

/-- The branch for `URL_WITH_HOST`, once there is a host. -/
def retrieveUrlWithHost (ats : Ats) (m : TransactionMuncher) : TransactionMuncher :=
  if ats.hdrUrl then
    -- `cur_trans_parts[HOST]` makes an entry.
    let m := m.insert .host []
    let host := (m.part .host).getD []
    if ats.urlHostSet host then m.insert .urlWithHost ((ats.urlStringOf host).getD [])
    -- `couldn't manipulate url field.`, and no entry is made.
    else m
  else m.insert .urlWithHost []

/-- The branches in front of the one for `URL_WITH_HOST`. -/
def retrieveAddress (ats : Ats) (parts : BitVec 64) (m : TransactionMuncher) :
    TransactionMuncher :=
  let m := m.when (has parts .ip) (·.set .ip ats.clientIp.str)
  m.when (has parts .url || has parts .protocol) (retrieveUrl ats)

/-- The branches after the one for `URL_WITH_HOST`. -/
def retrieveFields (ats : Ats) (parts : BitVec 64) (m : TransactionMuncher) :
    TransactionMuncher :=
  let m := m.when (has parts .method) (·.insert .method (ats.method.getD []))
  let m := m.when (has parts .host) (·.insert .host ats.hostText)
  let m := m.when (has parts .ua) (·.insert .ua (ats.userAgent.getD []))
  m.when (has parts .cookie) (·.insert .cookie (ats.cookie.getD []))

/-- The body of `retrieve_parts`, with the call of itself in it. -/
def retrieveWith (again : TransactionMuncher → Except PartsError TransactionMuncher) (ats : Ats)
    (requestedLogParts : BitVec 64) (m : TransactionMuncher) :
    Except PartsError TransactionMuncher :=
  let parts := missing m.validParts requestedLogParts
  if parts = 0#64 then .ok m
  else do
    let m ← m.needRequestHeader ats
    let m := m.retrieveAddress ats parts
    let m ← if has parts .urlWithHost then (again m).map (retrieveUrlWithHost ats) else .ok m
    let m := m.retrieveFields ats parts
    .ok (m.addValid requestedLogParts).updateValidityStatus

/-- What the call of `retrieve_parts` in itself asks for. -/
def hostAndUrl : BitVec 64 := TransactionPart.host.flag ||| TransactionPart.url.flag

/-- The call of `retrieve_parts` in itself, which makes no further one. -/
def retrieveHostAndUrl (ats : Ats) : TransactionMuncher → Except PartsError TransactionMuncher :=
  retrieveWith .ok ats hostAndUrl

/-- `retrieve_parts`. -/
def retrieveParts (ats : Ats) (requestedLogParts : BitVec 64) (m : TransactionMuncher) :
    Except PartsError TransactionMuncher :=
  retrieveWith (retrieveHostAndUrl ats) ats requestedLogParts m

/-- `retrieve_response_parts`. -/
def retrieveResponseParts (ats : Ats) (requestedLogParts : BitVec 64) (m : TransactionMuncher) :
    Except PartsError TransactionMuncher :=
  let parts := missing m.validParts requestedLogParts
  if parts = 0#64 then .ok m
  else do
    let m ← m.needResponseHeader ats
    let m := m.when (has parts .status) fun m =>
      (m.set .status (decimal ats.status)).addValid TransactionPart.status.flag
    let m := m.when (has parts .contentLength) fun m =>
      (m.set .contentLength (ats.contentLength.getD (bytes "0"))).addValid
        TransactionPart.contentLength.flag
    .ok m.updateValidityStatus

/-- A request without `URL_WITH_HOST` does not reach the call. -/
theorem retrieveWith_congr
    (again again' : TransactionMuncher → Except PartsError TransactionMuncher) (ats : Ats)
    {requested : BitVec 64} (h : has requested .urlWithHost = false) (m : TransactionMuncher) :
    retrieveWith again ats requested m = retrieveWith again' ats requested m := by
  simp [retrieveWith, h]

/-- The inner call is a call of `retrieve_parts`. -/
theorem retrieveHostAndUrl_eq (ats : Ats) (m : TransactionMuncher) :
    retrieveHostAndUrl ats m = retrieveParts ats hostAndUrl m :=
  retrieveWith_congr _ _ ats (by decide) m

/-- Nothing is asked for a second time. -/
theorem retrieveParts_eq_self {ats : Ats} {requested : BitVec 64} {m : TransactionMuncher}
    (h : missing m.validParts requested = 0#64) : retrieveParts ats requested m = .ok m := by
  simp [retrieveParts, retrieveWith, h]

section Branches

variable (ats : Ats) (parts : BitVec 64) (m : TransactionMuncher)

@[simp] theorem retrieveUrl_validParts : (m.retrieveUrl ats).validParts = m.validParts := rfl

@[simp] theorem retrieveUrl_requestHeader :
    (m.retrieveUrl ats).requestHeader = m.requestHeader := rfl

@[simp] theorem retrieveUrl_responseHeader :
    (m.retrieveUrl ats).responseHeader = m.responseHeader := rfl

@[simp] theorem retrieveAddress_validParts :
    (m.retrieveAddress ats parts).validParts = m.validParts := by
  simp [retrieveAddress]

@[simp] theorem retrieveAddress_requestHeader :
    (m.retrieveAddress ats parts).requestHeader = m.requestHeader := by
  simp [retrieveAddress]

@[simp] theorem retrieveAddress_responseHeader :
    (m.retrieveAddress ats parts).responseHeader = m.responseHeader := by
  simp [retrieveAddress]

/-- Only the map changes. -/
theorem retrieveUrlWithHost_eq :
    m.retrieveUrlWithHost ats = { m with part := (m.retrieveUrlWithHost ats).part } := by
  simp only [retrieveUrlWithHost]
  split
  · split <;> rfl
  · rfl

@[simp] theorem retrieveUrlWithHost_validParts :
    (m.retrieveUrlWithHost ats).validParts = m.validParts := by
  rw [retrieveUrlWithHost_eq]

@[simp] theorem retrieveUrlWithHost_requestHeader :
    (m.retrieveUrlWithHost ats).requestHeader = m.requestHeader := by
  rw [retrieveUrlWithHost_eq]

@[simp] theorem retrieveUrlWithHost_responseHeader :
    (m.retrieveUrlWithHost ats).responseHeader = m.responseHeader := by
  rw [retrieveUrlWithHost_eq]

@[simp] theorem retrieveFields_validParts :
    (m.retrieveFields ats parts).validParts = m.validParts := by
  simp [retrieveFields]

@[simp] theorem retrieveFields_requestHeader :
    (m.retrieveFields ats parts).requestHeader = m.requestHeader := by
  simp [retrieveFields]

@[simp] theorem retrieveFields_responseHeader :
    (m.retrieveFields ats parts).responseHeader = m.responseHeader := by
  simp [retrieveFields]

theorem retrieveAddress_other (p : TransactionPart) (h : p ∉ [.ip, .url, .protocol]) :
    (m.retrieveAddress ats parts).part p = m.part p := by
  simp only [List.mem_cons, List.not_mem_nil, or_false, not_or] at h
  simp [retrieveAddress, retrieveUrl, h]

theorem retrieveFields_other (p : TransactionPart) (h : p ∉ [.method, .host, .ua, .cookie]) :
    (m.retrieveFields ats parts).part p = m.part p := by
  simp only [List.mem_cons, List.not_mem_nil, or_false, not_or] at h
  simp [retrieveFields, h]

end Branches

/-- The inner call fetches the host. -/
theorem retrieveHostAndUrl_ok (ats : Ats) {m : TransactionMuncher}
    (hheader : m.requestHeader = true) (hvalid : has m.validParts .host = false)
    (hhost : m.part .host = none) {text : Bytes} (hprotocol : m.part .protocol = some text) :
    ∃ m', retrieveHostAndUrl ats m = .ok m' ∧ m'.part .host = some ats.hostText ∧
      m'.requestHeader = true ∧ m'.responseHeader = m.responseHeader ∧
      m'.validParts = m.validParts ||| hostAndUrl ∧
      ∀ p, p ≠ .host → p ≠ .url → m'.part p = m.part p := by
  have hsome : missing m.validParts hostAndUrl ≠ 0#64 :=
    missing_ne_zero hvalid (by decide)
  have hbit : ∀ p, has hostAndUrl p = (decide (TransactionPart.host = p) ||
      decide (TransactionPart.url = p)) := by
    intro p
    simp [hostAndUrl]
  let fetched := retrieveFields ats (missing m.validParts hostAndUrl)
    (retrieveAddress ats (missing m.validParts hostAndUrl) m.holdRequest)
  have hret : retrieveHostAndUrl ats m =
      .ok (fetched.addValid hostAndUrl).updateValidityStatus := by
    simp [retrieveHostAndUrl, retrieveWith, hsome, needRequestHeader, hheader, hbit, fetched]
  refine ⟨_, hret, ?_, ?_, ?_, ?_, ?_⟩
  · simp [fetched, retrieveFields, retrieveAddress, retrieveUrl, hbit, hvalid, hhost]
  · simp [fetched]
  · simp [fetched]
  · simp [fetched]
  · intro p hp hq
    by_cases hp' : p = .protocol
    · subst hp'
      simp [fetched, retrieveFields, retrieveAddress, retrieveUrl, hbit, hprotocol]
    · simp [fetched, retrieveFields, retrieveAddress, retrieveUrl, hbit, hp, hq, hp']

/-- The four parts of a request that the log has. -/
structure Wants (requested : BitVec 64) : Prop where
  ip : has requested .ip = true
  urlWithHost : has requested .urlWithHost = true
  protocol : has requested .protocol = true
  ua : has requested .ua = true

/-- `retrieve_parts` has left an entry for each of the four parts. -/
structure Asked (ats : Ats) (m : TransactionMuncher) : Prop where
  header : m.requestHeader = true
  ip : m.part .ip = some ats.clientIp.str
  urlWithHost : m.part .urlWithHost = ats.urlWithHost
  protocol : m.part .protocol = some ats.urlAndProtocol.2
  ua : m.part .ua = some (ats.userAgent.getD [])

/-- Nothing of the request is there. -/
structure Fresh (m : TransactionMuncher) : Prop where
  valid : ∀ p ∉ TransactionPart.others, has m.validParts p = false
  part : ∀ p ∉ TransactionPart.others, m.part p = none

theorem retrieveUrlWithHost_entry {ats : Ats} {m : TransactionMuncher}
    (hhost : m.part .host = some ats.hostText) (hentry : m.part .urlWithHost = none) :
    (m.retrieveUrlWithHost ats).part .urlWithHost = ats.urlWithHost := by
  simp only [retrieveUrlWithHost, Ats.urlWithHost, insert_part, hhost]
  split
  · simp only [if_true, Option.getD_some]
    split <;> simp [hentry]
  · simp [hentry]

theorem retrieveUrlWithHost_other {ats : Ats} {m : TransactionMuncher} {text : Bytes}
    (hhost : m.part .host = some text) {p : TransactionPart} (hp : p ≠ .urlWithHost) :
    (m.retrieveUrlWithHost ats).part p = m.part p := by
  have hsame : (m.insert .host []).part p = m.part p := by
    simp only [insert_part]
    split
    · next h => simp [h, hhost]
    · rfl
  simp only [retrieveUrlWithHost]
  split
  · split
    · rw [insert_part, if_neg hp, hsame]
    · exact hsame
  · rw [insert_part, if_neg hp]

/-- Without the header there are no parts. -/
theorem retrieveParts_refused {ats : Ats} {requested : BitVec 64} {m : TransactionMuncher}
    (hwants : Wants requested) (hfresh : m.Fresh)
    (hheader : (m.requestHeader || ats.clientReq) = false) :
    retrieveParts ats requested m = .error .headerRetrievalError := by
  have hsome : missing m.validParts requested ≠ 0#64 :=
    missing_ne_zero (hfresh.valid .ip (by decide)) hwants.ip
  simp [retrieveParts, retrieveWith, hsome, needRequestHeader, hheader]

/-- The first call of `retrieve_parts`. -/
theorem retrieveParts_first {ats : Ats} {requested : BitVec 64} {m : TransactionMuncher}
    (hwants : Wants requested) (hfresh : m.Fresh)
    (hheader : (m.requestHeader || ats.clientReq) = true) :
    ∃ m', retrieveParts ats requested m = .ok m' ∧ m'.Asked ats ∧
      m'.validParts = m.validParts ||| hostAndUrl ||| requested ∧
      m'.validityStat = leBytes 8 m'.validParts.toNat ∧
      m'.responseHeader = m.responseHeader ∧
      ∀ p ∈ TransactionPart.others, m'.part p = m.part p := by
  have hsome : missing m.validParts requested ≠ 0#64 :=
    missing_ne_zero (hfresh.valid .ip (by decide)) hwants.ip
  let addressed := retrieveAddress ats (missing m.validParts requested) m.holdRequest
  have hprotocol : addressed.part .protocol = some ats.urlAndProtocol.2 := by
    simp [addressed, retrieveAddress, retrieveUrl, hwants.protocol,
      hfresh.valid .protocol (by decide), hfresh.part .protocol (by decide)]
  obtain ⟨hosted, hcall, hhost, hrequest, hresponse, hvalid, hkeep⟩ :=
    retrieveHostAndUrl_ok ats (m := addressed) (by simp [addressed])
      (by simpa [addressed] using hfresh.valid .host (by decide))
      (by simpa [addressed, retrieveAddress_other] using hfresh.part .host (by decide)) hprotocol
  let located := hosted.retrieveUrlWithHost ats
  have hret : retrieveParts ats requested m =
      .ok ((retrieveFields ats (missing m.validParts requested) located).addValid
        requested).updateValidityStatus := by
    simp only [retrieveParts, retrieveWith, if_neg hsome, needRequestHeader, if_pos hheader,
      ok_bind, has_missing, hwants.urlWithHost, hfresh.valid .urlWithHost (by decide)]
    simp only [Bool.not_false, Bool.true_and, if_true]
    rw [show retrieveHostAndUrl ats (retrieveAddress _ _ _) = _ from hcall]
    rfl
  have hlocated : ∀ p ∉ [.host, .url, .urlWithHost], located.part p = addressed.part p := by
    intro p hp
    simp only [List.mem_cons, List.not_mem_nil, or_false, not_or] at hp
    rw [retrieveUrlWithHost_other hhost hp.2.2, hkeep p hp.1 hp.2.1]
  have hua : located.part .ua = none := by
    rw [hlocated .ua (by decide), retrieveAddress_other _ _ _ .ua (by decide)]
    exact hfresh.part .ua (by decide)
  have hentry : hosted.part .urlWithHost = none := by
    rw [hkeep .urlWithHost nofun nofun, retrieveAddress_other _ _ _ .urlWithHost (by decide)]
    exact hfresh.part .urlWithHost (by decide)
  refine ⟨_, hret, ⟨?_, ?_, ?_, ?_, ?_⟩, ?_, ?_, ?_, ?_⟩
  · simp [located, hrequest]
  · rw [updateValidityStatus_part, addValid_part, retrieveFields_other _ _ _ .ip (by decide),
      hlocated .ip (by decide)]
    simp [addressed, retrieveAddress, retrieveUrl, hwants.ip, hfresh.valid .ip (by decide)]
  · rw [updateValidityStatus_part, addValid_part,
      retrieveFields_other _ _ _ .urlWithHost (by decide)]
    exact retrieveUrlWithHost_entry hhost hentry
  · rw [updateValidityStatus_part, addValid_part, retrieveFields_other _ _ _ .protocol (by decide),
      hlocated .protocol (by decide), hprotocol]
  · simp [retrieveFields, hua, hwants.ua, hfresh.valid .ua (by decide)]
  · simp [located, hvalid, addressed]
  · rfl
  · simp [located, hresponse, addressed]
  · intro p hp
    have hout : p ∉ [.method, .host, .ua, .cookie] ∧ p ∉ [.host, .url, .urlWithHost] ∧
        p ∉ [.ip, .url, .protocol] := by
      revert p
      decide
    rw [updateValidityStatus_part, addValid_part, retrieveFields_other _ _ _ p hout.1,
      hlocated p hout.2.1, retrieveAddress_other _ _ _ p hout.2.2]
    rfl

theorem retrieveResponseParts_eq_self {ats : Ats} {requested : BitVec 64}
    {m : TransactionMuncher} (h : missing m.validParts requested = 0#64) :
    retrieveResponseParts ats requested m = .ok m := by
  simp [retrieveResponseParts, h]

/-- The two parts of a response that the log has. -/
def statusAndLength : BitVec 64 :=
  TransactionPart.status.flag ||| TransactionPart.contentLength.flag

/-- `retrieve_response_parts` has left an entry for each of the two parts. -/
structure Answered (ats : Ats) (m : TransactionMuncher) : Prop where
  status : m.part .status = some (decimal ats.status)
  contentLength : m.part .contentLength = some (ats.contentLength.getD (bytes "0"))

/-- The first call of `retrieve_response_parts`. -/
theorem retrieveResponseParts_first (ats : Ats) {m : TransactionMuncher}
    (hstatus : has m.validParts .status = false)
    (hlength : has m.validParts .contentLength = false)
    (hheader : (m.responseHeader || ats.clientResp) = true) :
    ∃ m', retrieveResponseParts ats statusAndLength m = .ok m' ∧ m'.Answered ats ∧
      m'.validParts = m.validParts ||| statusAndLength ∧
      m'.validityStat = leBytes 8 m'.validParts.toNat ∧
      m'.requestHeader = m.requestHeader ∧
      ∀ p, p ≠ .status → p ≠ .contentLength → m'.part p = m.part p := by
  have hsome : missing m.validParts statusAndLength ≠ 0#64 :=
    missing_ne_zero hstatus (by decide)
  have hboth : has statusAndLength .status = true ∧ has statusAndLength .contentLength = true := by
    decide
  let noted :=
    (m.holdResponse.set .status (decimal ats.status)).addValid TransactionPart.status.flag
  let measured := (noted.set .contentLength (ats.contentLength.getD (bytes "0"))).addValid
    TransactionPart.contentLength.flag
  have hret : retrieveResponseParts ats statusAndLength m = .ok measured.updateValidityStatus := by
    simp only [retrieveResponseParts, if_neg hsome, needResponseHeader, if_pos hheader, ok_bind,
      has_missing, hstatus, hlength, hboth]
    rfl
  refine ⟨_, hret, ⟨?_, ?_⟩, ?_, rfl, rfl, ?_⟩
  · simp [measured, noted]
  · simp [measured]
  · simp [measured, noted, statusAndLength, BitVec.or_assoc]
  · intro p hp hq
    simp [measured, noted, hp, hq]

end TransactionMuncher

end Banjax
