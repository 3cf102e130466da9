import Banjax.Transaction.Muncher

/-!
# The events of a transaction

`handle_transaction_change` of `transaction_data.cpp`, as far as the parts of the
transaction go.  The parts of the request are retrieved when the request comes, those of the
response when the response is sent, and a request that goes to the origin leaves the mark
`MISS`.  Each part keeps what the server answered first.

The filters see the parts and do not change them.  Of their answers only `I_RESPOND` matters
here, and an event for the request says whether some filter gives it.
-/

namespace Banjax

open Lib

/-! ## What the filters ask for -/

/-- `requested_info` of the filters. -/
def FilterName.requestedInfo : FilterName → BitVec 64
  | regexBanner =>
      TransactionPart.ip.flag ||| TransactionPart.method.flag ||| TransactionPart.url.flag |||
        TransactionPart.host.flag ||| TransactionPart.ua.flag
  | challenger =>
      TransactionPart.ip.flag ||| TransactionPart.url.flag ||| TransactionPart.host.flag |||
        TransactionPart.ua.flag ||| TransactionPart.urlWithHost.flag ||| TransactionPart.cookie.flag
  | botSniffer =>
      TransactionPart.ip.flag ||| TransactionPart.ua.flag ||| TransactionPart.urlWithHost.flag |||
        TransactionPart.protocol.flag
  | whiteLister => TransactionPart.ip.flag ||| TransactionPart.host.flag
  | denialator => TransactionPart.ip.flag

/-- `response_info` of the filters. -/
def FilterName.responseInfo : FilterName → BitVec 64
  | botSniffer => TransactionPart.status.flag ||| TransactionPart.contentLength.flag
  | _ => 0

/-- The filters of a plugin in which the sniffer is configured. -/
structure Sniffing where
  filters : List FilterName
  sniffs : .botSniffer ∈ filters

/-- The flags of a list of filters. -/
def flagsOf (info : FilterName → BitVec 64) (filters : List FilterName) : BitVec 64 :=
  filters.foldl (fun flags f => flags ||| info f) 0

theorem getLsbD_flagsOf (info : FilterName → BitVec 64) (filters : List FilterName) (i : Nat) :
    (flagsOf info filters).getLsbD i = filters.any fun f => (info f).getLsbD i := by
  have hfold : ∀ flags : BitVec 64,
      (filters.foldl (fun flags f => flags ||| info f) flags).getLsbD i =
        (flags.getLsbD i || filters.any fun f => (info f).getLsbD i) := by
    induction filters with
    | nil => simp
    | cons f filters ih =>
        intro flags
        rw [List.foldl_cons, ih, BitVec.getLsbD_or, List.any_cons, Bool.or_assoc]
  rw [flagsOf, hfold]
  simp

theorem has_flagsOf (info : FilterName → BitVec 64) (filters : List FilterName)
    (p : TransactionPart) :
    has (flagsOf info filters) p = filters.any fun f => has (info f) p := by
  simp only [has_eq, getLsbD_flagsOf]

namespace Sniffing

variable (B : Sniffing)

/-- `which_parts_are_requested`. -/
def whichPartsAreRequested : BitVec 64 := flagsOf FilterName.requestedInfo B.filters

/-- `which_response_parts_are_requested`. -/
def whichResponsePartsAreRequested : BitVec 64 := flagsOf FilterName.responseInfo B.filters

theorem wants : TransactionMuncher.Wants B.whichPartsAreRequested := by
  have hhas : ∀ p, has FilterName.botSniffer.requestedInfo p = true →
      has B.whichPartsAreRequested p = true := by
    intro p hp
    rw [whichPartsAreRequested, has_flagsOf, List.any_eq_true]
    exact ⟨_, B.sniffs, hp⟩
  exact ⟨hhas .ip (by decide), hhas .urlWithHost (by decide), hhas .protocol (by decide),
    hhas .ua (by decide)⟩

/-- No filter asks for a part of the response, or for `MISS`, with the parts of the request. -/
theorem requests_no_others {p : TransactionPart} (hp : p ∈ TransactionPart.others) :
    has B.whichPartsAreRequested p = false := by
  rw [whichPartsAreRequested, has_flagsOf, List.any_eq_false]
  intro f _
  revert p
  cases f <;> decide

theorem whichResponsePartsAreRequested_eq :
    B.whichResponsePartsAreRequested = TransactionMuncher.statusAndLength := by
  apply BitVec.eq_of_getLsbD_eq
  intro i _
  rw [whichResponsePartsAreRequested, getLsbD_flagsOf, Bool.eq_iff_iff, List.any_eq_true]
  constructor
  · rintro ⟨f, _, hf⟩
    cases f with
    | botSniffer => exact hf
    | _ => simp [FilterName.responseInfo] at hf
  · intro h
    exact ⟨_, B.sniffs, h⟩

end Sniffing

/-! ## Events -/

/-- The events of `handle_transaction_change` in front of the close, with what the server
answers. -/
inductive TransactionEvent where
  /-- `TS_EVENT_HTTP_READ_REQUEST_HDR`. -/
  | readRequestHdr (ats : Ats) (iRespond : Bool)
  /-- `TS_EVENT_HTTP_READ_CACHE_HDR`. -/
  | readCacheHdr
  /-- `TS_EVENT_HTTP_SEND_REQUEST_HDR`. -/
  | sendRequestHdr
  /-- `TS_EVENT_HTTP_SEND_RESPONSE_HDR`. -/
  | sendResponseHdr (ats : Ats)
  /-- `TS_EVENT_TIMEOUT` and the events that were not asked for. -/
  | unsolicited

/-- `TransactionData`: the muncher, and whether `response_info` is `I_RESPOND`. -/
structure TransactionData where
  muncher : TransactionMuncher
  iRespond : Bool

namespace TransactionData

/-- The constructor. -/
def create : TransactionData := ⟨.create, false⟩

variable (B : Sniffing)

/-- `handle_request`. -/
def handleRequest (ats : Ats) (iRespond : Bool) (s : TransactionData) :
    Except PartsError TransactionData := do
  let m ← s.muncher.retrieveParts ats B.whichPartsAreRequested
  return ⟨m, s.iRespond || iRespond⟩

/-- `handle_response`. -/
def handleResponse (ats : Ats) (s : TransactionData) : Except PartsError TransactionData := do
  -- `get_response_status`.
  let m ← s.muncher.needResponseHeader ats
  let m ← m.retrieveResponseParts ats B.whichResponsePartsAreRequested
  let m ← (if s.iRespond then m.retrieveParts ats B.whichPartsAreRequested else .ok m)
  return { s with muncher := m }

/-- `handle_transaction_change`. -/
def handleTransactionChange (s : TransactionData) :
    TransactionEvent → Except PartsError TransactionData
  | .readRequestHdr ats iRespond => s.handleRequest B ats iRespond
  | .readCacheHdr => .ok s
  | .sendRequestHdr => .ok { s with muncher := s.muncher.miss }
  | .sendResponseHdr ats => s.handleResponse B ats
  | .unsolicited => .ok s

end TransactionData

/-! ## What a transaction has seen -/

namespace TransactionEvent

/-- The answers at a request. -/
def atRequest : TransactionEvent → Option Ats
  | readRequestHdr ats _ => some ats
  | _ => none

/-- The answers at a response. -/
def atResponse : TransactionEvent → Option Ats
  | sendResponseHdr ats => some ats
  | _ => none

/-- The request goes to the origin. -/
def toOrigin : TransactionEvent → Bool
  | sendRequestHdr => true
  | _ => false

end TransactionEvent

namespace TransactionMuncher

/-- The parts of the request are those of the answers, or not there. -/
def HasRequest (requested : BitVec 64) (m : TransactionMuncher) : Option Ats → Prop
  | none => m.Fresh
  | some ats => m.Asked ats ∧ missing m.validParts requested = 0#64

/-- The parts of the response are those of the answers, or not there. -/
def HasResponse (m : TransactionMuncher) : Option Ats → Prop
  | none => has m.validParts .status = false ∧ has m.validParts .contentLength = false
  | some ats => m.Answered ats ∧ missing m.validParts statusAndLength = 0#64

/-- The map says which parts there are, and it has the mark. -/
structure Marked (m : TransactionMuncher) (missed : Bool) : Prop where
  stat : m.validityStat = leBytes 8 m.validParts.toNat
  miss : (m.part .miss).isSome = missed

/-- Two munchers with the same parts of the request. -/
structure SameRequest (m m' : TransactionMuncher) : Prop where
  header : m'.requestHeader = m.requestHeader
  part : ∀ p ∉ TransactionPart.others, m'.part p = m.part p
  valid : ∀ p ∉ TransactionPart.others, has m'.validParts p = has m.validParts p
  none_missing : ∀ requested, missing m.validParts requested = 0#64 →
    missing m'.validParts requested = 0#64

/-- Two munchers with the same parts of the response. -/
structure SameResponse (m m' : TransactionMuncher) : Prop where
  status : m'.part .status = m.part .status
  contentLength : m'.part .contentLength = m.part .contentLength
  validStatus : has m'.validParts .status = has m.validParts .status
  validLength : has m'.validParts .contentLength = has m.validParts .contentLength
  none_missing : ∀ requested, missing m.validParts requested = 0#64 →
    missing m'.validParts requested = 0#64

variable {m m' : TransactionMuncher} {seen : Option Ats} {missed : Bool}

theorem HasRequest.of_same {requested : BitVec 64} (h : m.HasRequest requested seen)
    (hs : m.SameRequest m') : m'.HasRequest requested seen := by
  cases seen with
  | none =>
      exact ⟨fun p hp => (hs.valid p hp).trans (h.valid p hp),
        fun p hp => (hs.part p hp).trans (h.part p hp)⟩
  | some ats =>
      refine ⟨⟨?_, ?_, ?_, ?_, ?_⟩, hs.none_missing _ h.2⟩
      · rw [hs.header, h.1.header]
      · rw [hs.part .ip (by decide), h.1.ip]
      · rw [hs.part .urlWithHost (by decide), h.1.urlWithHost]
      · rw [hs.part .protocol (by decide), h.1.protocol]
      · rw [hs.part .ua (by decide), h.1.ua]

theorem HasResponse.of_same (h : m.HasResponse seen) (hs : m.SameResponse m') :
    m'.HasResponse seen := by
  cases seen with
  | none => exact ⟨hs.validStatus.trans h.1, hs.validLength.trans h.2⟩
  | some ats =>
      exact ⟨⟨hs.status.trans h.1.status, hs.contentLength.trans h.1.contentLength⟩,
        hs.none_missing _ h.2⟩

/-- A call of `retrieve_parts` answers the parts of the request, unless they are there. -/
theorem retrieveParts_keeps (B : Sniffing) {ats : Ats} (hmarked : m.Marked missed)
    (hrequest : m.HasRequest B.whichPartsAreRequested seen)
    (h : m.retrieveParts ats B.whichPartsAreRequested = .ok m') :
    m'.HasRequest B.whichPartsAreRequested (seen.or (some ats)) ∧ m.SameResponse m' ∧
      m'.Marked missed := by
  cases seen with
  | some first =>
      rw [retrieveParts_eq_self hrequest.2] at h
      cases h
      exact ⟨hrequest, ⟨rfl, rfl, rfl, rfl, fun _ hzero => hzero⟩, hmarked⟩
  | none =>
      have hheader : (m.requestHeader || ats.clientReq) = true := by
        by_contra hno
        rw [retrieveParts_refused B.wants hrequest (Bool.eq_false_iff.mpr hno)] at h
        cases h
      obtain ⟨n, hn, hasked, hvalid, hstat, -, hothers⟩ :=
        retrieveParts_first B.wants hrequest hheader
      cases hn.symm.trans h
      have hbits : ∀ p ∈ TransactionPart.others, has m'.validParts p = has m.validParts p := by
        intro p hp
        have hinner : has hostAndUrl p = false := by
          revert p
          decide
        rw [hvalid, has_or, has_or, hinner, B.requests_no_others hp, Bool.or_false, Bool.or_false]
      refine ⟨⟨hasked, ?_⟩, ⟨?_, ?_, ?_, ?_, ?_⟩, ⟨hstat, ?_⟩⟩
      · rw [hvalid]
        exact missing_or_self _ _
      · exact hothers .status (by decide)
      · exact hothers .contentLength (by decide)
      · exact hbits .status (by decide)
      · exact hbits .contentLength (by decide)
      · intro requested hzero
        rw [hvalid]
        exact missing_or_eq_zero _ (missing_or_eq_zero _ hzero)
      · rw [hothers .miss (by decide), hmarked.miss]

theorem needResponseHeader_keeps {ats : Ats} (h : m.needResponseHeader ats = .ok m') :
    m' = m.holdResponse := by
  rw [needResponseHeader] at h
  split at h
  · cases h
    rfl
  · cases h

/-- A call of `retrieve_response_parts` answers the parts of the response, unless they are
there. -/
theorem retrieveResponseParts_keeps {ats : Ats} (hmarked : m.Marked missed)
    (hresponse : m.HasResponse seen) (hheader : m.responseHeader = true)
    (h : m.retrieveResponseParts ats statusAndLength = .ok m') :
    m'.HasResponse (seen.or (some ats)) ∧ m.SameRequest m' ∧ m'.Marked missed := by
  cases seen with
  | some first =>
      rw [retrieveResponseParts_eq_self hresponse.2] at h
      cases h
      exact ⟨hresponse, ⟨rfl, fun _ _ => rfl, fun _ _ => rfl, fun _ hr => hr⟩, hmarked⟩
  | none =>
      obtain ⟨n, hn, hanswered, hvalid, hstat, hrequest, hother⟩ :=
        retrieveResponseParts_first ats hresponse.1 hresponse.2 (by rw [hheader]; rfl)
      cases hn.symm.trans h
      refine ⟨⟨hanswered, ?_⟩, ⟨hrequest, ?_, ?_, ?_⟩, ⟨hstat, ?_⟩⟩
      · rw [hvalid]
        exact missing_or_self _ _
      · intro p hp
        simp only [TransactionPart.others, List.mem_cons, not_or] at hp
        exact hother p hp.2.1 hp.2.2.1
      · intro p hp
        have hout : has statusAndLength p = false := by
          simp only [TransactionPart.others, List.mem_cons, not_or] at hp
          simp [statusAndLength, Ne.symm hp.2.1, Ne.symm hp.2.2.1]
        rw [hvalid, has_or, hout, Bool.or_false]
      · intro requested hzero
        rw [hvalid]
        exact missing_or_eq_zero _ hzero
      · rw [hother .miss (by decide) (by decide), hmarked.miss]

theorem hold_sameRequest : m.SameRequest m.holdResponse where
  header := rfl
  part _ _ := rfl
  valid _ _ := rfl
  none_missing _ h := h

theorem hold_sameResponse : m.SameResponse m.holdResponse where
  status := rfl
  contentLength := rfl
  validStatus := rfl
  validLength := rfl
  none_missing _ h := h

theorem miss_sameRequest : m.SameRequest m.miss where
  header := rfl
  part p hp := by
    simp only [TransactionPart.others, List.mem_cons, not_or] at hp
    rw [miss, set_part, if_neg hp.1]
  valid _ _ := rfl
  none_missing _ h := h

theorem miss_sameResponse : m.SameResponse m.miss where
  status := rfl
  contentLength := rfl
  validStatus := rfl
  validLength := rfl
  none_missing _ h := h

end TransactionMuncher

/-- The answers at the first request. -/
def firstRequest (events : List TransactionEvent) : Option Ats :=
  events.findSome? TransactionEvent.atRequest

/-- The answers at the first response. -/
def firstResponse (events : List TransactionEvent) : Option Ats :=
  events.findSome? TransactionEvent.atResponse

/-- The transaction was sent to the origin. -/
def sentToOrigin (events : List TransactionEvent) : Bool := events.any TransactionEvent.toOrigin

section Snoc

variable (events : List TransactionEvent) (e : TransactionEvent)

theorem firstRequest_snoc :
    firstRequest (events ++ [e]) = (firstRequest events).or e.atRequest := by
  simp [firstRequest, List.findSome?_append]

theorem firstResponse_snoc :
    firstResponse (events ++ [e]) = (firstResponse events).or e.atResponse := by
  simp [firstResponse, List.findSome?_append]

theorem sentToOrigin_snoc :
    sentToOrigin (events ++ [e]) = (sentToOrigin events || e.toOrigin) := by
  simp [sentToOrigin]

end Snoc

namespace TransactionData

/-- The muncher has what the events so far have brought. -/
structure Follows (B : Sniffing) (events : List TransactionEvent) (s : TransactionData) :
    Prop where
  marked : s.muncher.Marked (sentToOrigin events)
  request : s.muncher.HasRequest B.whichPartsAreRequested (firstRequest events)
  response : s.muncher.HasResponse (firstResponse events)
  responds : s.iRespond = true → (firstRequest events).isSome = true

theorem follows_create (B : Sniffing) : Follows B [] create where
  marked := ⟨rfl, rfl⟩
  request := ⟨fun p _ => has_zero p, fun _ _ => rfl⟩
  response := ⟨has_zero _, has_zero _⟩
  responds := nofun

variable {B : Sniffing} {events : List TransactionEvent} {s t : TransactionData}

/-- An event that brings nothing. -/
theorem Follows.idle (h : Follows B events s) {e : TransactionEvent} (hrequest : e.atRequest = none)
    (hresponse : e.atResponse = none) (horigin : e.toOrigin = false) :
    Follows B (events ++ [e]) s := by
  constructor
  · rw [sentToOrigin_snoc, horigin, Bool.or_false]
    exact h.marked
  · rw [firstRequest_snoc, hrequest, Option.or_none]
    exact h.request
  · rw [firstResponse_snoc, hresponse, Option.or_none]
    exact h.response
  · rw [firstRequest_snoc, hrequest, Option.or_none]
    exact h.responds

theorem Follows.atRequest (h : Follows B events s) {ats : Ats} {iRespond : Bool}
    (hs : s.handleRequest B ats iRespond = .ok t) :
    Follows B (events ++ [.readRequestHdr ats iRespond]) t := by
  obtain ⟨m, hm, ht⟩ := bind_eq_ok.mp hs
  cases ht
  obtain ⟨hrequest, hsame, hmarked⟩ :=
    TransactionMuncher.retrieveParts_keeps B h.marked h.request hm
  constructor
  · rw [sentToOrigin_snoc]
    simpa [TransactionEvent.toOrigin] using hmarked
  · rw [firstRequest_snoc]
    exact hrequest
  · rw [firstResponse_snoc]
    simpa [TransactionEvent.atResponse] using h.response.of_same hsame
  · intro _
    rw [firstRequest_snoc]
    simp [TransactionEvent.atRequest]

theorem Follows.atResponse (h : Follows B events s) {ats : Ats}
    (hs : s.handleResponse B ats = .ok t) : Follows B (events ++ [.sendResponseHdr ats]) t := by
  obtain ⟨held, hheld, hs⟩ := bind_eq_ok.mp hs
  cases TransactionMuncher.needResponseHeader_keeps hheld
  obtain ⟨m, hm, hs⟩ := bind_eq_ok.mp hs
  rw [B.whichResponsePartsAreRequested_eq] at hm
  have hheldMarked : s.muncher.holdResponse.Marked (sentToOrigin events) :=
    ⟨h.marked.stat, h.marked.miss⟩
  obtain ⟨hresponse, hsame, hmarked⟩ := TransactionMuncher.retrieveResponseParts_keeps
    hheldMarked (h.response.of_same TransactionMuncher.hold_sameResponse) rfl hm
  have hrequest := (h.request.of_same TransactionMuncher.hold_sameRequest).of_same hsame
  obtain ⟨m', hm', ht⟩ := bind_eq_ok.mp hs
  -- A filter that responds has seen the request, so that there is nothing to retrieve.
  have hself : m' = m := by
    split at hm'
    · next hresponds =>
      obtain ⟨first, hfirst⟩ := Option.isSome_iff_exists.mp (h.responds hresponds)
      rw [hfirst] at hrequest
      rw [TransactionMuncher.retrieveParts_eq_self hrequest.2] at hm'
      cases hm'
      rfl
    · cases hm'
      rfl
  cases ht
  cases hself
  constructor
  · rw [sentToOrigin_snoc]
    simpa [TransactionEvent.toOrigin] using hmarked
  · rw [firstRequest_snoc]
    simpa [TransactionEvent.atRequest] using hrequest
  · rw [firstResponse_snoc]
    exact hresponse
  · rw [firstRequest_snoc]
    simpa [TransactionEvent.atRequest] using h.responds

theorem Follows.toOrigin (h : Follows B events s) :
    Follows B (events ++ [.sendRequestHdr]) { s with muncher := s.muncher.miss } := by
  constructor
  · rw [sentToOrigin_snoc]
    exact ⟨h.marked.stat, by simp [TransactionEvent.toOrigin, TransactionMuncher.miss]⟩
  · rw [firstRequest_snoc]
    simpa [TransactionEvent.atRequest] using
      h.request.of_same TransactionMuncher.miss_sameRequest
  · rw [firstResponse_snoc]
    simpa [TransactionEvent.atResponse] using
      h.response.of_same TransactionMuncher.miss_sameResponse
  · rw [firstRequest_snoc]
    simpa [TransactionEvent.atRequest] using h.responds

theorem Follows.step (h : Follows B events s) {e : TransactionEvent}
    (hs : s.handleTransactionChange B e = .ok t) : Follows B (events ++ [e]) t := by
  cases e with
  | readRequestHdr ats iRespond => exact h.atRequest hs
  | readCacheHdr =>
      cases hs
      exact h.idle rfl rfl rfl
  | sendRequestHdr =>
      cases hs
      exact h.toOrigin
  | sendResponseHdr ats => exact h.atResponse hs
  | unsolicited =>
      cases hs
      exact h.idle rfl rfl rfl

/-- A run of events, from the start of the transaction. -/
theorem follows_of_reaches
    (h : Reaches (handleTransactionChange B) (fun _ _ => True) create events s) :
    Follows B events s := by
  refine h.invariant (P := Follows B) (follows_create B) ?_
  intro events e a b _ ha _ hs
  exact ha.step hs

end TransactionData

end Banjax
