import Banjax.Swabber.Defs
import Banjax.Token.Base64
import Banjax.Transaction.Events

/-!
# The log of the sniffer

`BotSniffer::on_http_close` of `bot_sniffer.cpp`.  At the close of a transaction it sends a
line of eight fields, each in Base64, with a comma between them.

Base64 has no comma, so that the line splits into its fields whatever they say.  The first
seven fields are right.  The last one is wrong in every line: a transaction that went to the
origin is logged as `HIT`, and one that did not is logged as `MISS`
(`handleHttpClose_records_iff`).
-/

namespace Banjax

open Lib

/-! ## `on_http_close` -/

/-- What leaves `handle_http_close`. -/
inductive CloseError where
  | parts (error : PartsError)
  /-- `std::out_of_range`, of `transaction_parts.at`. -/
  | outOfRange
deriving DecidableEq, Repr

/-- What is sent over the socket. -/
inductive Sent where
  /-- `send_zmq_mess`. -/
  | message (text : Bytes) (more : Bool)
  /-- `send_zmq_encrypted_message`. -/
  | encrypted (plaintextLog : Bytes)
deriving DecidableEq

/-- `BotSniffer`.  The socket is gone after `release_socket`. -/
structure BotSniffer where
  socket : Option Socket
  botbangerPort : Nat

/-- `_local_endpoint`. -/
def BotSniffer.localEndpoint (sniffer : BotSniffer) : Bytes :=
  bytes "tcp://" ++ bytes "*" ++ bytes ":" ++ decimal sniffer.botbangerPort

/-- What the close of a transaction meets. -/
structure Close where
  ats : Ats
  /-- The text of `strftime`. -/
  timeBuffer : Bytes
  /-- `TSMutexLockTry` succeeds. -/
  lockTry : Bool
  /-- The ZeroMQ call of `bind` succeeds. -/
  bindTry : Bool

namespace TransactionMuncher

/-- `*cur_validity`. -/
def curValidity (m : TransactionMuncher) : BitVec 64 := BitVec.ofNat 64 (ofLeBytes m.validityStat)

/-- `VALID_OR_EMPTY`.  A part is of `int` length, so that `Encode` does not throw. -/
def validOrEmpty (m : TransactionMuncher) (p : TransactionPart) : Except CloseError Bytes :=
  if has m.curValidity p then
    match m.part p with
    | some text => .ok (Base64.encodeText text)
    | none => .error .outOfRange
  else .ok []

/-- `hit_mis_str`. -/
def hitMisStr (m : TransactionMuncher) : Bytes :=
  if (m.part .miss).isSome then Base64.encodeText (bytes "HIT")
  else Base64.encodeText (bytes "MISS")

/-- `plaintext_log`. -/
def plaintextLog (m : TransactionMuncher) (timeBuffer : Bytes) : Except CloseError Bytes := do
  let ip ← m.validOrEmpty .ip
  let urlWithHost ← m.validOrEmpty .urlWithHost
  let protocol ← m.validOrEmpty .protocol
  let status ← m.validOrEmpty .status
  let contentLength ← m.validOrEmpty .contentLength
  let ua ← m.validOrEmpty .ua
  return ip ++ bytes "," ++ Base64.encodeText timeBuffer ++ bytes "," ++ urlWithHost ++
    bytes "," ++ protocol ++ bytes "," ++ status ++ bytes "," ++ contentLength ++ bytes "," ++
    ua ++ bytes "," ++ m.hitMisStr

end TransactionMuncher

/-- What comes of a close. -/
structure Closed where
  /-- The flags of the parts that the filters are handed. -/
  validParts : BitVec 64
  sent : List Sent
  thrown : Option CloseError
  sniffer : BotSniffer

/-- The socket, bound to the endpoint unless it is bound already, and whether it is. -/
def BotSniffer.bound (sniffer : BotSniffer) (bindTry : Bool) (socket : Socket) : Bool × Socket :=
  if socket.isBound then (true, socket) else socket.bind sniffer.localEndpoint bindTry

/-- `BotSniffer::on_http_close`. -/
def BotSniffer.onHttpClose (sniffer : BotSniffer) (e : Close) (m : TransactionMuncher) : Closed :=
  match e.lockTry, sniffer.socket with
  | true, some socket =>
      let (bound, socket) := sniffer.bound e.bindTry socket
      let sniffer := { sniffer with socket := some socket }
      if bound then
        let log := Sent.message (bytes "botbanger_log") true
        match m.plaintextLog e.timeBuffer with
        | .ok plaintextLog => ⟨m.validParts, [log, .encrypted plaintextLog], none, sniffer⟩
        | .error error => ⟨m.validParts, [log], some error, sniffer⟩
      else ⟨m.validParts, [], none, sniffer⟩
  | _, _ => ⟨m.validParts, [], none, sniffer⟩

/-- `handle_http_close`.  The queue of the close has the sniffer only. -/
def TransactionData.handleHttpClose (B : Sniffing) (sniffer : BotSniffer) (e : Close)
    (s : TransactionData) : Closed :=
  match s.muncher.retrieveParts e.ats B.whichPartsAreRequested with
  | .ok m => sniffer.onHttpClose e m
  | .error error => ⟨s.muncher.validParts, [], some (.parts error), sniffer⟩

/-! ## What the log should say -/

/-- The line of a message. -/
def Sent.plaintext : Sent → Option Bytes
  | message _ _ => none
  | encrypted plaintextLog => some plaintextLog

/-- The text of a part of the transaction: what the server answered when the part was asked
for, at the first request, at the close or at the first response. -/
def partText (events : List TransactionEvent) (atClose : Ats) : TransactionPart → Bytes
  | .ip => ((firstRequest events).getD atClose).clientIp.str
  | .urlWithHost => ((firstRequest events).getD atClose).urlWithHost.getD []
  | .protocol => ((firstRequest events).getD atClose).urlAndProtocol.2
  | .ua => ((firstRequest events).getD atClose).userAgent.getD []
  | .status => (firstResponse events).elim [] fun ats => decimal ats.status
  | .contentLength => (firstResponse events).elim [] fun ats => ats.contentLength.getD (bytes "0")
  | _ => []

/-- The field decodes to the text, or it is empty when the flag of the part is not set. -/
def Tells (validParts : BitVec 64) (p : TransactionPart) (text field : Bytes) : Prop :=
  if has validParts p then Base64.decode field = some text else field = []

/-- A line of eight fields, with the last as given. -/
def LineOf (events : List TransactionEvent) (atClose : Ats) (validParts : BitVec 64)
    (hitMiss log : Bytes) : Prop :=
  ∃ ip time urlWithHost protocol status contentLength ua last,
    log.splitOn 44 = [ip, time, urlWithHost, protocol, status, contentLength, ua, last] ∧
    Tells validParts .ip (partText events atClose .ip) ip ∧
    Tells validParts .urlWithHost (partText events atClose .urlWithHost) urlWithHost ∧
    Tells validParts .protocol (partText events atClose .protocol) protocol ∧
    Tells validParts .status (partText events atClose .status) status ∧
    Tells validParts .contentLength (partText events atClose .contentLength) contentLength ∧
    Tells validParts .ua (partText events atClose .ua) ua ∧
    Base64.decode last = some hitMiss

theorem LineOf.last_unique {events : List TransactionEvent} {atClose : Ats}
    {validParts : BitVec 64} {hitMiss hitMiss' log : Bytes}
    (h : LineOf events atClose validParts hitMiss log)
    (h' : LineOf events atClose validParts hitMiss' log) : hitMiss = hitMiss' := by
  obtain ⟨_, _, _, _, _, _, _, last, hsplit, _, _, _, _, _, _, hlast⟩ := h
  obtain ⟨_, _, _, _, _, _, _, last', hsplit', _, _, _, _, _, _, hlast'⟩ := h'
  rw [hsplit] at hsplit'
  cases hsplit'
  exact Option.some.inj (hlast.symm.trans hlast')

/-- Every line that is sent tells the transaction. -/
def Closed.Records (c : Closed) (events : List TransactionEvent) (atClose : Ats) : Prop :=
  ∀ log ∈ c.sent.filterMap Sent.plaintext,
    LineOf events atClose c.validParts (bytes (if sentToOrigin events then "MISS" else "HIT")) log

/-- A line is sent. -/
structure Publishes (sniffer : BotSniffer) (events : List TransactionEvent) (s : TransactionData)
    (e : Close) : Prop where
  /-- The header of the request is there, or it can be retrieved. -/
  header : (s.muncher.requestHeader || e.ats.clientReq) = true
  /-- There is an entry for `URL_WITH_HOST`. -/
  urlWithHost : (((firstRequest events).getD e.ats).urlWithHost).isSome = true
  lockTry : e.lockTry = true
  /-- The socket is bound, or it can be. -/
  socket : ∃ socket, sniffer.socket = some socket ∧ (socket.isBound || e.bindTry) = true

/-! ## The fields -/

theorem comma_notMem_encodeText (bindata : Bytes) : (44 : UInt8) ∉ Base64.encodeText bindata := by
  have hchar : ∀ i < 64, (44 : UInt8) ≠ Base64.char i := by decide +kernel
  intro h
  cases Base64.mem_encodeText h with
  | inl h =>
      obtain ⟨i, hi, hcomma⟩ := h
      exact hchar i hi hcomma
  | inr h => exact absurd h (by decide)

namespace TransactionMuncher

variable {m : TransactionMuncher} {missed : Bool}

/-- The filters read the flags that the muncher has. -/
theorem curValidity_eq (h : m.validityStat = leBytes 8 m.validParts.toNat) :
    m.curValidity = m.validParts := by
  have hlt : m.validParts.toNat < 256 ^ 8 := m.validParts.isLt
  rw [curValidity, h, ofLeBytes_leBytes, Nat.mod_eq_of_lt hlt, BitVec.ofNat_toNat,
    BitVec.setWidth_eq]

/-- A part that is there whenever its flag is set makes a field. -/
theorem Marked.validOrEmpty_ok (h : m.Marked missed) {p : TransactionPart} {text : Bytes}
    (hpart : has m.validParts p = true → m.part p = some text) :
    ∃ field, m.validOrEmpty p = .ok field ∧ Tells m.validParts p text field ∧
      (44 : UInt8) ∉ field := by
  simp only [validOrEmpty, curValidity_eq h.stat, Tells]
  cases hvalid : has m.validParts p with
  | false => exact ⟨[], rfl, rfl, nofun⟩
  | true =>
      rw [hpart hvalid]
      exact ⟨_, rfl, Base64.decode_encodeText text, comma_notMem_encodeText text⟩

theorem Marked.decode_hitMisStr (h : m.Marked missed) :
    Base64.decode m.hitMisStr = some (bytes (if missed then "HIT" else "MISS")) := by
  rw [hitMisStr, h.miss]
  cases missed <;> exact Base64.decode_encodeText _

theorem comma_notMem_hitMisStr : (44 : UInt8) ∉ m.hitMisStr := by
  rw [hitMisStr]
  split <;> exact comma_notMem_encodeText _

/-- Fields without a comma are found again in the line. -/
theorem splitOn_line {a b c d e f g h : Bytes}
    (hcomma : ∀ field ∈ [a, b, c, d, e, f, g, h], (44 : UInt8) ∉ field) :
    (a ++ bytes "," ++ b ++ bytes "," ++ c ++ bytes "," ++ d ++ bytes "," ++ e ++ bytes "," ++
      f ++ bytes "," ++ g ++ bytes "," ++ h).splitOn 44 = [a, b, c, d, e, f, g, h] := by
  have hline : a ++ bytes "," ++ b ++ bytes "," ++ c ++ bytes "," ++ d ++ bytes "," ++ e ++
      bytes "," ++ f ++ bytes "," ++ g ++ bytes "," ++ h =
        List.intercalate [44] [a, b, c, d, e, f, g, h] := by
    have hsep : bytes "," = [44] := by decide
    simp [List.intercalate, hsep]
  rw [hline, List.splitOn_intercalate 44 hcomma nofun]

/-- The line that is made of a muncher. -/
theorem plaintextLog_ok {events : List TransactionEvent} {atClose : Ats}
    (hmarked : m.Marked (sentToOrigin events))
    (hpart : ∀ p ∈ [.ip, .urlWithHost, .protocol, .status, .contentLength, .ua],
      has m.validParts p = true → m.part p = some (partText events atClose p))
    (timeBuffer : Bytes) :
    ∃ log, m.plaintextLog timeBuffer = .ok log ∧ LineOf events atClose m.validParts
      (bytes (if sentToOrigin events then "HIT" else "MISS")) log := by
  obtain ⟨ip, hip, tip, cip⟩ := hmarked.validOrEmpty_ok (hpart .ip (by decide))
  obtain ⟨url, hurl, turl, curl⟩ := hmarked.validOrEmpty_ok (hpart .urlWithHost (by decide))
  obtain ⟨protocol, hprotocol, tprotocol, cprotocol⟩ :=
    hmarked.validOrEmpty_ok (hpart .protocol (by decide))
  obtain ⟨status, hstatus, tstatus, cstatus⟩ := hmarked.validOrEmpty_ok (hpart .status (by decide))
  obtain ⟨length, hlength, tlength, clength⟩ :=
    hmarked.validOrEmpty_ok (hpart .contentLength (by decide))
  obtain ⟨ua, hua, tua, cua⟩ := hmarked.validOrEmpty_ok (hpart .ua (by decide))
  have hlog : m.plaintextLog timeBuffer = .ok (ip ++ bytes "," ++ Base64.encodeText timeBuffer ++
      bytes "," ++ url ++ bytes "," ++ protocol ++ bytes "," ++ status ++ bytes "," ++ length ++
      bytes "," ++ ua ++ bytes "," ++ m.hitMisStr) := by
    simp only [plaintextLog, hip, hurl, hprotocol, hstatus, hlength, hua, ok_bind]
    rfl
  refine ⟨_, hlog, ip, Base64.encodeText timeBuffer, url, protocol, status, length, ua,
    m.hitMisStr, splitOn_line ?_, tip, turl, tprotocol, tstatus, tlength, tua,
    hmarked.decode_hitMisStr⟩
  simp only [List.forall_mem_cons, List.not_mem_nil, false_imp_iff, implies_true, and_true]
  exact ⟨cip, comma_notMem_encodeText _, curl, cprotocol, cstatus, clength, cua,
    comma_notMem_hitMisStr⟩

/-- Without an entry for `URL_WITH_HOST` there is no line. -/
theorem plaintextLog_outOfRange (hmarked : m.Marked missed)
    (hip : ∃ text, m.part .ip = some text) (hvalid : has m.validParts .urlWithHost = true)
    (hnone : m.part .urlWithHost = none) (timeBuffer : Bytes) :
    m.plaintextLog timeBuffer = .error .outOfRange := by
  obtain ⟨text, htext⟩ := hip
  obtain ⟨ip, hip, -, -⟩ := hmarked.validOrEmpty_ok (p := .ip) (fun _ => htext)
  have hurl : m.validOrEmpty .urlWithHost = .error .outOfRange := by
    rw [validOrEmpty, curValidity_eq hmarked.stat, hvalid, hnone]
    rfl
  simp [plaintextLog, hip, hurl]

end TransactionMuncher

/-! ## The close -/

theorem BotSniffer.bound_fst (sniffer : BotSniffer) (bindTry : Bool) (socket : Socket) :
    (sniffer.bound bindTry socket).1 = (socket.isBound || bindTry) := by
  have hsome : sniffer.localEndpoint ≠ [] := by
    simp [localEndpoint, bytes]
  rw [bound]
  cases hbound : socket.isBound with
  | true => rfl
  | false =>
      have hfree : socket.localEndpoint = [] := by simpa [Socket.isBound] using hbound
      cases bindTry <;> simp [Socket.bind, hfree, hsome]

namespace TransactionData

variable {B : Sniffing} {events : List TransactionEvent} {s : TransactionData}

/-- The parts that are handed to the filters at the close. -/
theorem Follows.atClose (h : Follows B events s) {ats : Ats}
    (hheader : (s.muncher.requestHeader || ats.clientReq) = true) :
    ∃ m, s.muncher.retrieveParts ats B.whichPartsAreRequested = .ok m ∧
      m.HasRequest B.whichPartsAreRequested (some ((firstRequest events).getD ats)) ∧
      m.HasResponse (firstResponse events) ∧ m.Marked (sentToOrigin events) := by
  have hok : ∃ m, s.muncher.retrieveParts ats B.whichPartsAreRequested = .ok m := by
    have hrequest := h.request
    cases hfirst : firstRequest events with
    | none =>
        rw [hfirst] at hrequest
        obtain ⟨m, hm, -⟩ := TransactionMuncher.retrieveParts_first B.wants hrequest hheader
        exact ⟨m, hm⟩
    | some first =>
        rw [hfirst] at hrequest
        exact ⟨_, TransactionMuncher.retrieveParts_eq_self hrequest.2⟩
  obtain ⟨m, hm⟩ := hok
  obtain ⟨hrequest, hsame, hmarked⟩ :=
    TransactionMuncher.retrieveParts_keeps B h.marked h.request hm
  rw [Option.or_some] at hrequest
  exact ⟨m, hm, hrequest, h.response.of_same hsame, hmarked⟩

theorem Follows.atClose_refused (h : Follows B events s) {ats : Ats}
    (hheader : (s.muncher.requestHeader || ats.clientReq) = false) :
    s.muncher.retrieveParts ats B.whichPartsAreRequested = .error .headerRetrievalError := by
  have hrequest := h.request
  cases hfirst : firstRequest events with
  | none =>
      rw [hfirst] at hrequest
      exact TransactionMuncher.retrieveParts_refused B.wants hrequest hheader
  | some first =>
      rw [hfirst] at hrequest
      rw [hrequest.1.header] at hheader
      cases hheader

/-- A part with its flag is the part of the transaction. -/
theorem part_eq_partText {m : TransactionMuncher} {ats : Ats}
    (hrequest : m.HasRequest B.whichPartsAreRequested (some ((firstRequest events).getD ats)))
    (hresponse : m.HasResponse (firstResponse events))
    (hurl : (((firstRequest events).getD ats).urlWithHost).isSome = true) :
    ∀ p ∈ [.ip, .urlWithHost, .protocol, .status, .contentLength, .ua],
      has m.validParts p = true → m.part p = some (partText events ats p) := by
  have hurlText : m.part .urlWithHost = some (partText events ats .urlWithHost) := by
    obtain ⟨url, hurl⟩ := Option.isSome_iff_exists.mp hurl
    rw [hrequest.1.urlWithHost, hurl, partText, hurl]
    rfl
  intro p hp hvalid
  simp only [List.mem_cons, List.not_mem_nil, or_false] at hp
  obtain rfl | rfl | rfl | rfl | rfl | rfl := hp
  · exact hrequest.1.ip
  · exact hurlText
  · exact hrequest.1.protocol
  · cases hfirst : firstResponse events with
    | none =>
        rw [hfirst] at hresponse
        rw [hresponse.1] at hvalid
        cases hvalid
    | some first =>
        rw [hfirst] at hresponse
        rw [hresponse.1.status, partText, hfirst]
        rfl
  · cases hfirst : firstResponse events with
    | none =>
        rw [hfirst] at hresponse
        rw [hresponse.2] at hvalid
        cases hvalid
    | some first =>
        rw [hfirst] at hresponse
        rw [hresponse.1.contentLength, partText, hfirst]
        rfl
  · exact hrequest.1.ua

variable {sniffer : BotSniffer} {e : Close}

/-- The line that is sent.  Its last field is the wrong one. -/
theorem Follows.line_of_publishes (h : Follows B events s) (hp : Publishes sniffer events s e) :
    ∃ log, (s.handleHttpClose B sniffer e).sent.filterMap Sent.plaintext = [log] ∧
      LineOf events e.ats (s.handleHttpClose B sniffer e).validParts
        (bytes (if sentToOrigin events then "HIT" else "MISS")) log := by
  obtain ⟨m, hm, hrequest, hresponse, hmarked⟩ := h.atClose hp.header
  obtain ⟨log, hlog, hline⟩ := TransactionMuncher.plaintextLog_ok hmarked
    (part_eq_partText hrequest hresponse hp.urlWithHost) e.timeBuffer
  obtain ⟨socket, hsocket, hbound⟩ := hp.socket
  rw [← sniffer.bound_fst] at hbound
  have hclosed : s.handleHttpClose B sniffer e =
      ⟨m.validParts, [.message (bytes "botbanger_log") true, .encrypted log], none,
        { sniffer with socket := some (sniffer.bound e.bindTry socket).2 }⟩ := by
    simp only [handleHttpClose, hm, BotSniffer.onHttpClose, hp.lockTry, hsocket, hbound, if_true,
      hlog]
  rw [hclosed]
  exact ⟨log, rfl, hline⟩

theorem Follows.no_line (h : Follows B events s) (hp : ¬ Publishes sniffer events s e) :
    (s.handleHttpClose B sniffer e).sent.filterMap Sent.plaintext = [] := by
  cases hheader : s.muncher.requestHeader || e.ats.clientReq with
  | false =>
      rw [handleHttpClose, h.atClose_refused hheader]
      rfl
  | true =>
      obtain ⟨m, hm, hrequest, -, hmarked⟩ := h.atClose hheader
      rw [handleHttpClose, hm]
      simp only [BotSniffer.onHttpClose]
      split
      · next socket hlock hsocket =>
        split
        · next hbound =>
          rw [sniffer.bound_fst] at hbound
          have hnone : m.part .urlWithHost = none := by
            rw [hrequest.1.urlWithHost, ← Option.not_isSome_iff_eq_none]
            intro hurl
            exact hp ⟨hheader, hurl, hlock, socket, hsocket, hbound⟩
          have hvalid : has m.validParts .urlWithHost = true :=
            has_of_missing_eq_zero hrequest.2 B.wants.urlWithHost
          rw [TransactionMuncher.plaintextLog_outOfRange hmarked ⟨_, hrequest.1.ip⟩ hvalid hnone]
          rfl
        · rfl
      · rfl

/-- A line that is sent does not tell the transaction. -/
theorem Follows.not_records (h : Follows B events s) (hp : Publishes sniffer events s e) :
    ¬ (s.handleHttpClose B sniffer e).Records events e.ats := by
  intro hrecords
  obtain ⟨log, hlogs, hline⟩ := h.line_of_publishes hp
  have hmeant := hrecords log (by rw [hlogs]; exact List.mem_singleton_self log)
  have hlast := hmeant.last_unique hline
  revert hlast
  cases sentToOrigin events <;> decide

/-- A close tells the transaction exactly when it sends no line. -/
theorem handleHttpClose_records_iff
    (h : Reaches (handleTransactionChange B) (fun _ _ => True) create events s)
    (sniffer : BotSniffer) (e : Close) :
    (s.handleHttpClose B sniffer e).Records events e.ats ↔ ¬ Publishes sniffer events s e := by
  have hfollows := follows_of_reaches h
  constructor
  · intro hrecords hp
    exact hfollows.not_records hp hrecords
  · intro hp log hlog
    rw [hfollows.no_line hp] at hlog
    cases hlog

/-- The answers for a request of a page. -/
def sampleAts : Ats where
  clientReq := true
  clientAddr := some ⟨10, 0, 0, 1⟩
  hdrUrl := true
  urlString := some (bytes "/")
  urlScheme := bytes "http"
  urlHostSet := fun _ => true
  urlStringOf := fun host => some (bytes "http://" ++ host ++ bytes "/")
  method := some (bytes "GET")
  host := some (bytes "example.net")
  userAgent := some (bytes "curl")
  cookie := none
  clientResp := true
  status := 200
  contentLength := some (bytes "5")

/-- A plugin with the sniffer and no other filter. -/
def sampleSniffing : Sniffing := ⟨[.botSniffer], List.mem_singleton_self _⟩

/-- A sniffer with a new socket. -/
def sampleSniffer : BotSniffer := ⟨some {}, 22621⟩

/-- A transaction that is sent to the origin. -/
def sampleEvents : List TransactionEvent :=
  [.readRequestHdr sampleAts false, .readCacheHdr, .sendRequestHdr, .sendResponseHdr sampleAts]

/-- A close that meets nothing. -/
def sampleClose : Close := ⟨sampleAts, bytes "2019-06-01T12:00:00", true, true⟩

theorem sample_publishes : ∃ s,
    Reaches (handleTransactionChange sampleSniffing) (fun _ _ => True) create sampleEvents s ∧
      Publishes sampleSniffer sampleEvents s sampleClose := by
  obtain ⟨s, hrun, -⟩ := Reaches.of_check (Q := fun _ _ => True)
    (handleTransactionChange sampleSniffing) sampleEvents (p := fun _ => true) (s := create)
    (fun _ _ _ _ _ _ => trivial) (by decide +kernel)
  exact ⟨s, hrun, Bool.or_true _, rfl, rfl, {}, rfl, rfl⟩

theorem sample_close_records_iff : ∃ s,
    Reaches (handleTransactionChange sampleSniffing) (fun _ _ => True) create sampleEvents s ∧
      ((s.handleHttpClose sampleSniffing sampleSniffer sampleClose).Records sampleEvents
        sampleClose.ats ↔ ¬ Publishes sampleSniffer sampleEvents s sampleClose) := by
  obtain ⟨s, hrun, -⟩ := sample_publishes
  exact ⟨s, hrun, handleHttpClose_records_iff hrun _ _⟩

/-- A transaction that went to the origin is logged as a hit. -/
theorem origin_logged_as_hit :
    ¬ ∀ (B : Sniffing) (events : List TransactionEvent) (s : TransactionData)
        (sniffer : BotSniffer) (e : Close),
        Reaches (handleTransactionChange B) (fun _ _ => True) create events s →
          (s.handleHttpClose B sniffer e).Records events e.ats := by
  intro h
  obtain ⟨s, hrun, hp⟩ := sample_publishes
  exact (follows_of_reaches hrun).not_records hp (h _ _ _ _ _ hrun)

end TransactionData

end Banjax
