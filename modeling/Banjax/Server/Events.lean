import Banjax.Challenger.Range
import Banjax.Server.WhiteList
import Banjax.Transaction.Parts

/-!
# Transactions at the server, event by event

`handle_transaction_change` of `transaction_data.cpp` with the filters.  They find the parts of
the transaction in the map of its muncher, which has those that some filter has asked for.
Between two events of a transaction other ones change the databases.

A filter asks for all parts that it reads, and so it sees what the traffic server answered at the
first request, at every event and whatever the other filters ask for (`events_refine`).  The
events come to what `Server` does with a request of these parts.
-/

namespace Banjax

open Lib

variable {ρ : Type} [FloatArithmetic ρ]

/-! ## What the filters read -/

/-- The address of this value. -/
def InAddr.ofValue (n : Nat) : InAddr :=
  ⟨(n / 2 ^ 24).toUInt8, (n / 2 ^ 16).toUInt8, (n / 2 ^ 8).toUInt8, n.toUInt8⟩

theorem InAddr.ofValue_value (x : InAddr) : ofValue x.value = x := by
  obtain ⟨a, b, c, d⟩ := x
  have ha := a.toNat_lt
  have hb := b.toNat_lt
  have hc := c.toNat_lt
  have hd := d.toNat_lt
  simp only [ofValue, value, InAddr.mk.injEq, ← UInt8.toNat_inj, UInt8.toNat_ofNat', Nat.toUInt8]
  omega

theorem ClientIp.printed_nil : ([] : Bytes) = [] ∨ ∃ x, ([] : Bytes) = inetNtoa x := .inl rfl

/-- The `IP` part with this text. -/
def ClientIp.ofText (text : Bytes) : ClientIp :=
  if text.isEmpty then ⟨[], ClientIp.printed_nil⟩ else .ofAddr (.ofValue (inetAddr text).toNat)

theorem ClientIp.ofText_str (ip : ClientIp) : ofText ip.str = ip := by
  obtain ⟨str, hstr⟩ := ip
  rcases hstr with rfl | ⟨x, rfl⟩
  · rfl
  · have hsome : ¬ (inetNtoa x).isEmpty = true := by simp [inetNtoa]
    rw [ofText]
    dsimp only
    rw [if_neg hsome, inetAddr_inetNtoa, InAddr.ofValue_value]
    rfl

/-- The loop over the challenges reads `URL_WITH_HOST`: a captcha before it looks at the cookie,
and a password challenge when the cookie is not accepted. -/
def Challenger.readsUrl (M : Challenger) (env : Env) (parts : TransactionParts) :
    List HostChallengeSpec → Bool
  | [] => false
  | curChallenge :: rest =>
      if isWhiteListed curChallenge parts then false
      else
        match curChallenge.challengeType with
        | .captcha =>
            if M.isGloballyWhiteListed parts.ip.str then M.readsUrl env parts rest else true
        | .shaInverse =>
            if M.isGloballyWhiteListed parts.ip.str || M.accepts env [] parts curChallenge then
              M.readsUrl env parts rest
            else false
        | .auth => !M.accepts env [] parts curChallenge

/-- The parts that `on_http_request` of a filter reads with `at`.  The regex banner copies the
map and reads the copy with `operator[]`. -/
def Server.readsAtRequest (S : Server ρ) (r : Request) : FilterName → List TransactionPart
  | .whiteLister => [.ip, .host]
  | .challenger =>
      match S.challenger.challengesToRun r.env r.parts with
      | none => [.host, .ip]
      | some challenges =>
          [.host, .ip, .cookie] ++
            if S.challenger.readsUrl r.env r.parts challenges then [.urlWithHost] else []
  | .denialator => [.ip]
  | .regexBanner | .botSniffer => []

/-- The parts that `generate_response` reads.  The check of an answer reads the cookie. -/
def Responder.readsAtResponse (r : Request) : Responder → List TransactionPart
  | .challenger d =>
      let url := if d.alternativeUrl = [] then r.parts.urlWithHost else d.alternativeUrl
      if d.bannedIp then []
      else [.ip, .urlWithHost, .host] ++
        if !Challenger.isCaptchaUrl url && Challenger.isCaptchaAnswer url then [.cookie] else []
  | .regexBanner _ | .denialator _ => []

/-- The parts that a filter may read in this way. -/
def FilterName.mayRead : FilterName → List TransactionPart
  | whiteLister => [.ip, .host]
  | challenger => [.host, .ip, .cookie, .urlWithHost]
  | denialator => [.ip]
  | regexBanner | botSniffer => []

omit [FloatArithmetic ρ] in
theorem Server.readsAtRequest_subset (S : Server ρ) (r : Request) (f : FilterName) :
    S.readsAtRequest r f ⊆ f.mayRead := by
  cases f with
  | challenger =>
      rw [readsAtRequest]
      split
      · simp [FilterName.mayRead]
      · split <;> simp [FilterName.mayRead]
  | _ => exact List.Subset.refl _

theorem Responder.readsAtResponse_subset (r : Request) (d : Responder) :
    d.readsAtResponse r ⊆ d.filterName.mayRead := by
  cases d with
  | challenger d =>
      rw [readsAtResponse]
      dsimp only [filterName, FilterName.mayRead]
      generalize (if d.alternativeUrl = [] then _ else _ : Bytes) = url
      split
      · exact List.nil_subset _
      · split <;> simp
  | _ => exact List.nil_subset _

/-- A filter asks for what it reads. -/
theorem FilterName.asks (f : FilterName) {p : TransactionPart} (h : p ∈ f.mayRead) :
    has f.requestedInfo p = true := by
  revert p
  cases f <;> decide

/-- The only part that may have no entry is read by one filter. -/
theorem FilterName.reads_urlWithHost (f : FilterName) (h : .urlWithHost ∈ f.mayRead) :
    f = .challenger := by
  cases f <;> simp_all [mayRead]

namespace TransactionMuncher

/-- The text of a part, as `operator[]` of the copy gives it. -/
def text (m : TransactionMuncher) (p : TransactionPart) : Bytes := (m.part p).getD []

/-- `at` does not throw for these parts. -/
def hasAll (m : TransactionMuncher) (parts : List TransactionPart) : Bool :=
  parts.all fun p => (m.part p).isSome

end TransactionMuncher

/-- The request with these texts of the parts. -/
def Request.reading (r : Request) (text : TransactionPart → Bytes) : Request :=
  { r with
    method := text .method
    parts := ⟨.ofText (text .ip), text .url, text .host, text .ua, text .cookie,
      text .urlWithHost⟩ }

namespace Ats

/-- The entry for a part of the request. -/
def entry (ats : Ats) : TransactionPart → Option Bytes
  | .ip => some ats.clientIp.str
  | .urlWithHost => ats.urlWithHost
  | p => (ats.urlPart p).or (ats.field p)

/-- The request with what the traffic server answers. -/
def request (ats : Ats) (r : Request) : Request :=
  { r with
    method := ats.method.getD []
    parts := ⟨ats.clientIp, ats.urlAndProtocol.1, ats.hostText, ats.userAgent.getD [],
      ats.cookie.getD [], ats.urlWithHost.getD []⟩ }

theorem request_eq_reading (ats : Ats) (r : Request) :
    ats.request r = r.reading fun p => (ats.entry p).getD [] := by
  rw [request, Request.reading]
  dsimp only [entry, urlPart, field, Option.getD_some, Option.some_or, Option.none_or]
  rw [ClientIp.ofText_str]

theorem isSome_entry (ats : Ats) {p : TransactionPart} (hp : p ∉ TransactionPart.others)
    (hurl : p ≠ .urlWithHost) : (ats.entry p).isSome = true := by
  cases p with
  | urlWithHost => exact absurd rfl hurl
  | miss | status | contentLength => exact absurd (by decide) hp
  | _ => rfl

end Ats

/-! ## The events -/

/-- Why a transaction does not go on. -/
inductive TransactionFault where
  | parts (error : PartsError)
  /-- `std::out_of_range`, of `transaction_parts.at`. -/
  | outOfRange
  | filter (fault : Fault)
deriving DecidableEq

/-- The events of a transaction, with what the traffic server answers and with what the filters
find, and what happens in between.  Of the `Request` the parts are not used. -/
inductive ServerEvent (ρ : Type) [FloatArithmetic ρ] where
  | readRequestHdr (ats : Ats) (r : Request)
  | sendRequestHdr
  | sendResponseHdr (ats : Ats) (r : Request)
  /-- The events that do nothing. -/
  | idle
  /-- Other transactions, and the threads of the plugin. -/
  | others (state : ServerState ρ)

/-- A transaction without its parts: the databases, what it has been answered, and what has been
sent to the client. -/
structure Served (ρ : Type) [FloatArithmetic ρ] where
  state : ServerState ρ
  noStore : Bool := false
  cacheOff : Bool := false
  responseInfo : Option Responder := none
  replies : List Reply := []

/-- `TransactionData`. -/
structure ServerTransaction (ρ : Type) [FloatArithmetic ρ] where
  transactionMuncher : TransactionMuncher
  served : Served ρ

namespace Served

/-- The filters have seen a request.  `response_info` is that of the last one that responds. -/
def request (S : Server ρ) (r : Request) (v : Served ρ) : Except TransactionFault (Served ρ) :=
  let t := S.handleRequest v.state r
  match t.fault with
  | some fault => .error (.filter fault)
  | none =>
      .ok { v with
        state := t.state
        noStore := v.noStore || t.noStore
        cacheOff := v.cacheOff || t.cacheOff
        responseInfo := t.responseInfo.or v.responseInfo }

/-- The headers of a response are sent. -/
def respond (S : Server ρ) (r : Request) (v : Served ρ) : Except TransactionFault (Served ρ) :=
  let t : Progress ρ :=
    { noStore := v.noStore, cacheOff := v.cacheOff, responseInfo := v.responseInfo,
      state := v.state }
  match S.handleResponse r t with
  | (.faulty fault, _) => .error (.filter fault)
  | (reply, state) => .ok { v with state := state, replies := v.replies ++ [reply] }

/-- What comes of an event when the traffic server has answered like this at the first request,
without a look at the map. -/
def step (S : Server ρ) (first : Ats) (v : Served ρ) : ServerEvent ρ → Except TransactionFault
    (Served ρ)
  | .readRequestHdr _ r => v.request S (first.request r)
  | .sendResponseHdr ats r => v.respond S { first.request r with status := ats.status }
  | .sendRequestHdr | .idle => .ok v
  | .others state => .ok { v with state := state }

end Served

namespace Server

variable (S : Server ρ)

/-- The filters that there are. -/
def filters : List FilterName := S.priorityMap.map Prod.snd

/-- `which_parts_are_requested`. -/
def whichPartsAreRequested : BitVec 64 := flagsOf FilterName.requestedInfo S.filters

/-- `which_response_parts_are_requested`. -/
def whichResponsePartsAreRequested : BitVec 64 := flagsOf FilterName.responseInfo S.filters

end Server

namespace ServerTransaction

/-- The constructor. -/
def create (state : ServerState ρ) : ServerTransaction ρ := ⟨.create, { state := state }⟩

variable (S : Server ρ) (t : ServerTransaction ρ)

/-- `handle_request`. -/
def handleRequest (ats : Ats) (r : Request) : Except TransactionFault (ServerTransaction ρ) := do
  let m ← (t.transactionMuncher.retrieveParts ats S.whichPartsAreRequested).mapError .parts
  let r := r.reading m.text
  if (S.handleRequest t.served.state r).executed.all fun f =>
      m.hasAll (S.readsAtRequest r f) then
    return ⟨m, ← t.served.request S r⟩
  else .error .outOfRange

/-- `handle_response`. -/
def handleResponse (ats : Ats) (r : Request) : Except TransactionFault (ServerTransaction ρ) := do
  let m ← (t.transactionMuncher.needResponseHeader ats).mapError .parts
  let m ← (m.retrieveResponseParts ats S.whichResponsePartsAreRequested).mapError .parts
  match t.served.responseInfo with
  | some responder =>
      let m ← (m.retrieveParts ats S.whichPartsAreRequested).mapError .parts
      let r := r.reading m.text
      if m.hasAll (responder.readsAtResponse r) then
        return ⟨m, ← t.served.respond S { r with status := ats.status }⟩
      else .error .outOfRange
  | none => return ⟨m, ← t.served.respond S { r.reading m.text with status := ats.status }⟩

/-- `handle_transaction_change`, in front of the close. -/
def step : ServerEvent ρ → Except TransactionFault (ServerTransaction ρ)
  | .readRequestHdr ats r => t.handleRequest S ats r
  | .sendRequestHdr => .ok { t with transactionMuncher := t.transactionMuncher.miss }
  | .sendResponseHdr ats r => t.handleResponse S ats r
  | .idle => .ok t
  | .others state => .ok { t with served := { t.served with state := state } }

end ServerTransaction

/-! ## What the map shows -/

namespace TransactionMuncher

variable {m m' : TransactionMuncher} {ats : Ats} {requested : BitVec 64} {seen : Option Ats}

/-- For all parts that are asked for, the map has what the server answered at the first
request. -/
def Shows (requested : BitVec 64) (m : TransactionMuncher) : Option Ats → Prop
  | none => m.Fresh
  | some first => missing m.validParts requested = 0#64 ∧
      ∀ p, has requested p = true → m.part p = first.entry p

theorem shows_create (requested : BitVec 64) : create.Shows requested none :=
  ⟨fun p _ => has_zero p, fun _ _ => rfl⟩

/-- The first call offers the entries, `IP` apart. -/
theorem offer_of_fresh (hfresh : m.Fresh) {p : TransactionPart} (hp : has requested p = true)
    (hserved : p ∉ TransactionPart.others) (hip : p ≠ .ip) :
    offer ⟨ats, ats, ats⟩ requested m p = ats.entry p := by
  have hvalid := hfresh.valid
  have hurl : has m.validParts .url = false := hvalid .url (by decide)
  have hhost : has m.validParts .host = false := hvalid .host (by decide)
  have hhostFor : m.hostFor ats = ats.hostText := by
    simp [hostFor, innerOffer, hfresh.part .host (by decide), hurl, hhost, Ats.urlPart]
  cases p with
  | ip => exact absurd rfl hip
  | miss | status | contentLength => exact absurd (by decide) hserved
  | urlWithHost =>
      simp [offer, hp, hvalid .urlWithHost (by decide), innerOffer, hhostFor, Ats.urlPart,
        Ats.rewritten, Ats.field, Ats.entry, Ats.urlWithHost]
  | host =>
      cases hrewrite : has requested .urlWithHost <;>
        simp [offer, hp, hrewrite, hurl, hhost, hvalid .urlWithHost (by decide), innerOffer,
          Ats.urlPart, Ats.field, Ats.entry]
  | url | protocol =>
      simp [offer, hp, hvalid _ hserved, Ats.urlPart, Ats.entry]
  | ua | cookie | method =>
      simp [offer, hp, hvalid _ hserved, innerOffer, Ats.urlPart, Ats.rewritten, Ats.field,
        Ats.entry]

/-- What a call asks for, it leaves valid. -/
theorem missing_of_retrieveParts (h : m.retrieveParts ats requested = .ok m') :
    missing m'.validParts requested = 0#64 := by
  rw [retrieveParts, retrieveWith] at h
  dsimp only at h
  split at h
  · next hnone =>
    cases h
    exact hnone
  · obtain ⟨held, -, h⟩ := bind_eq_ok.mp h
    split at h
    · obtain ⟨located, -, h⟩ := bind_eq_ok.mp h
      cases h
      exact missing_or_self _ _
    · cases h
      exact missing_or_self _ _

theorem Shows.retrieve (h : m.Shows requested seen)
    (hserved : ∀ p, has requested p = true → p ∉ TransactionPart.others)
    (hm : m.retrieveParts ats requested = .ok m') :
    m'.Shows requested (some (seen.getD ats)) := by
  cases seen with
  | some first =>
      rw [retrieveParts_eq_self h.1] at hm
      cases hm
      exact h
  | none =>
      refine ⟨missing_of_retrieveParts hm, fun p hp => ?_⟩
      have hmissing : has (missing m.validParts requested) p = true := by
        rw [has_missing, h.valid p (hserved p hp), hp]
        rfl
      have hheader : (m.requestHeader || ats.clientReq) = true := by
        by_contra hno
        have hsome : missing m.validParts requested ≠ 0#64 :=
          missing_ne_zero (h.valid p (hserved p hp)) hp
        rw [retrieveParts, retrieveWith, if_neg hsome, needRequestHeader, if_neg hno] at hm
        cases hm
      obtain ⟨m'', hcall, hretrieved⟩ :=
        retrievePartsFrom_spec (m := m) ⟨ats, ats, ats⟩ requested hheader
      rw [retrievePartsFrom_same] at hcall
      cases hcall.symm.trans hm
      rcases eq_or_ne p .ip with rfl | hip
      · rw [hretrieved.ip, if_pos hmissing]
        rfl
      · rw [hretrieved.part p hip, h.part p (hserved p hp), Option.none_or]
        exact offer_of_fresh h hp (hserved p hp) hip

/-- The map of the request stays. -/
theorem Shows.of_same (h : m.Shows requested seen)
    (hserved : ∀ p, has requested p = true → p ∉ TransactionPart.others)
    (hs : m.SameRequest m') : m'.Shows requested seen := by
  cases seen with
  | none =>
      exact ⟨fun p hp => (hs.valid p hp).trans (h.valid p hp),
        fun p hp => (hs.part p hp).trans (h.part p hp)⟩
  | some first =>
      exact ⟨hs.none_missing _ h.1, fun p hp => (hs.part p (hserved p hp)).trans (h.2 p hp)⟩

theorem SameRequest.refl (m : TransactionMuncher) : m.SameRequest m where
  header := rfl
  part _ _ := rfl
  valid _ _ := rfl
  none_missing _ h := h

theorem SameRequest.trans {m'' : TransactionMuncher} (h : m.SameRequest m')
    (h' : m'.SameRequest m'') : m.SameRequest m'' where
  header := h'.header.trans h.header
  part p hp := (h'.part p hp).trans (h.part p hp)
  valid p hp := (h'.valid p hp).trans (h.valid p hp)
  none_missing r hr := h'.none_missing r (h.none_missing r hr)

/-- A part of the response is answered, or it is there. -/
theorem answered_sameRequest (m : TransactionMuncher) (flag : Bool) {p : TransactionPart}
    (hp : p ∈ TransactionPart.others) (text : Bytes) :
    m.SameRequest (m.when flag fun m => (m.set p text).addValid p.flag) := by
  cases flag with
  | false => exact .refl m
  | true =>
      refine ⟨rfl, fun q hq => ?_, fun q hq => ?_, fun _ h => missing_or_eq_zero _ h⟩
      · have hne : q ≠ p := fun h => hq (h ▸ hp)
        show ((m.set p text).addValid p.flag).part q = _
        rw [addValid_part, set_part, if_neg hne]
      · have hne : p ≠ q := fun h => hq (h ▸ hp)
        show has (m.validParts ||| p.flag) q = _
        rw [has_or, has_flag, decide_eq_false hne, Bool.or_false]

theorem retrieveResponseParts_sameRequest
    (h : m.retrieveResponseParts ats requested = .ok m') : m.SameRequest m' := by
  rw [retrieveResponseParts] at h
  dsimp only at h
  split at h
  · cases h
    exact .refl m
  · obtain ⟨held, hheld, h⟩ := bind_eq_ok.mp h
    cases needResponseHeader_keeps hheld
    cases h
    refine hold_sameRequest.trans ?_
    have hstatus := answered_sameRequest m.holdResponse
      (has (missing m.validParts requested) .status) (p := .status) (by decide)
      (decimal ats.status)
    refine hstatus.trans ?_
    exact (answered_sameRequest _ _ (p := .contentLength) (by decide) _).trans
      ⟨rfl, fun _ _ => rfl, fun _ _ => rfl, fun _ h => h⟩

end TransactionMuncher

/-! ## The filters and the map -/

namespace Server

variable {S : Server ρ} {x y : TransactionPart → Bytes} {r : Request}

/-- A filter does not look at the parts that it does not ask for. -/
theorem onHttpRequest_reading (s : ServerState ρ) (f : FilterName)
    (h : ∀ p, has f.requestedInfo p = true → x p = y p) :
    S.onHttpRequest (r.reading x) s f = S.onHttpRequest (r.reading y) s f := by
  cases f with
  | whiteLister =>
      simp only [onHttpRequest, WhiteLister.onHttpRequest, Request.reading, h .ip (by decide),
        h .host (by decide)]
      rfl
  | regexBanner =>
      simp only [onHttpRequest, RegexManager.onHttpRequest, RegexManager.atsRecord,
        RegexManager.banningReason, Request.reading, h .ip (by decide), h .method (by decide),
        h .url (by decide), h .host (by decide), h .ua (by decide)]
  | challenger =>
      simp only [onHttpRequest, Request.reading, h .ip (by decide), h .url (by decide),
        h .host (by decide), h .ua (by decide), h .urlWithHost (by decide),
        h .cookie (by decide)]
  | denialator =>
      simp only [onHttpRequest, Denialator.onHttpRequest, Request.reading, h .ip (by decide)]
      rfl
  | botSniffer => rfl

theorem runFilters_reading {fs : List FilterName}
    (h : ∀ f ∈ fs, ∀ p, has f.requestedInfo p = true → x p = y p) (t : Progress ρ) :
    S.runFilters (r.reading x) fs t = S.runFilters (r.reading y) fs t := by
  induction fs generalizing t with
  | nil => rfl
  | cons f fs ih =>
      have hrest : ∀ g ∈ fs, ∀ p, has g.requestedInfo p = true → x p = y p :=
        fun g hg => h g (List.mem_cons_of_mem _ hg)
      simp only [runFilters, onHttpRequest_reading _ f (h f (List.mem_cons_self ..)), ih hrest]

/-- Only the filter that responds looks at the parts. -/
theorem handleResponse_reading {t : Progress ρ} (status : Nat)
    (h : ∀ d, t.responseInfo = some d → ∀ p, has d.filterName.requestedInfo p = true →
      x p = y p) :
    S.handleResponse { r.reading x with status := status } t =
      S.handleResponse { r.reading y with status := status } t := by
  rw [handleResponse, handleResponse]
  cases hfault : t.fault with
  | some fault => rfl
  | none =>
      cases hinfo : t.responseInfo with
      | none => rfl
      | some d =>
          have hsame : S.generateResponse { r.reading x with status := status } t.state d =
              S.generateResponse { r.reading y with status := status } t.state d := by
            cases d with
            | regexBanner d | denialator d => rfl
            | challenger d =>
                have hd : ∀ p, has FilterName.challenger.requestedInfo p = true → x p = y p :=
                  h _ hinfo
                simp only [generateResponse, Request.reading, hd .ip (by decide),
                  hd .url (by decide), hd .host (by decide), hd .ua (by decide),
                  hd .urlWithHost (by decide), hd .cookie (by decide)]
          dsimp only
          rw [hsame]

omit [FloatArithmetic ρ]

theorem mem_filters {f : FilterName} (h : f ∈ S.httpRequestFilters) : f ∈ S.filters := by
  rw [httpRequestFilters, Reader.buildFilters_eq] at h
  exact (List.mem_filter.mp h).1

theorem has_requested {f : FilterName} (hf : f ∈ S.filters) {p : TransactionPart}
    (hp : has f.requestedInfo p = true) : has S.whichPartsAreRequested p = true := by
  rw [whichPartsAreRequested, has_flagsOf, List.any_eq_true]
  exact ⟨f, hf, hp⟩

/-- With the parts of the request nobody asks for others. -/
theorem requested_served {p : TransactionPart} (hp : has S.whichPartsAreRequested p = true) :
    p ∉ TransactionPart.others := by
  rw [whichPartsAreRequested, has_flagsOf, List.any_eq_true] at hp
  obtain ⟨f, -, hf⟩ := hp
  intro hmem
  have hnot : ∀ q ∈ TransactionPart.others, has f.requestedInfo q = false := by
    cases f <;> decide
  rw [hnot p hmem] at hf
  cases hf

/-- The map has what the filters read. -/
theorem hasAll_of_shows {m : TransactionMuncher} {first : Ats}
    (hm : m.Shows S.whichPartsAreRequested (some first)) {f : FilterName} (hf : f ∈ S.filters)
    (hwritable : .challenger ∈ S.filters → first.urlWithHost.isSome = true)
    {parts : List TransactionPart} (hparts : parts ⊆ f.mayRead) :
    m.hasAll parts = true := by
  refine List.all_eq_true.mpr fun p hp => ?_
  have hasked := has_requested hf (f.asks (hparts hp))
  rw [hm.2 p hasked]
  rcases eq_or_ne p .urlWithHost with rfl | hne
  · rw [f.reads_urlWithHost (hparts hp)] at hf
    exact hwritable hf
  · exact first.isSome_entry (requested_served hasked) hne

/-- A filter that asks for a part finds what the server answered. -/
theorem text_eq {m : TransactionMuncher} {first : Ats}
    (hm : m.Shows S.whichPartsAreRequested (some first)) {f : FilterName} (hf : f ∈ S.filters)
    {p : TransactionPart} (hp : has f.requestedInfo p = true) :
    m.text p = (first.entry p).getD [] := by
  rw [TransactionMuncher.text, hm.2 p (has_requested hf hp)]

end Server

/-! ## Runs -/

/-- The answers at a request. -/
def ServerEvent.atRequest : ServerEvent ρ → Option Ats
  | readRequestHdr ats _ => some ats
  | _ => none

/-- The answers at the first request. -/
def firstAnswers (events : List (ServerEvent ρ)) : Option Ats :=
  events.findSome? ServerEvent.atRequest

theorem firstAnswers_snoc (events : List (ServerEvent ρ)) (e : ServerEvent ρ) :
    firstAnswers (events ++ [e]) = (firstAnswers events).or e.atRequest := by
  simp [firstAnswers, List.findSome?_append]

/-- `TSUrlHostSet` does not fail at the first request, where there is a challenger. -/
def Server.Writable (S : Server ρ) (events : List (ServerEvent ρ)) : Prop :=
  ∀ first, firstAnswers events = some first → .challenger ∈ S.filters →
    first.urlWithHost.isSome = true

namespace ServerTransaction

variable {S : Server ρ} {events : List (ServerEvent ρ)} {t u : ServerTransaction ρ}

/-- The map shows the first answers, and a filter that responds has seen them. -/
structure Follows (S : Server ρ) (events : List (ServerEvent ρ))
    (t : ServerTransaction ρ) : Prop where
  shows : t.transactionMuncher.Shows S.whichPartsAreRequested (firstAnswers events)
  responder : ∀ d, t.served.responseInfo = some d →
    d.filterName ∈ S.filters ∧ ∃ first, firstAnswers events = some first

theorem follows_create (S : Server ρ) (s : ServerState ρ) : Follows S [] (create s) :=
  ⟨TransactionMuncher.shows_create _, nofun⟩

/-- The event is refused for a missing part only when a part could not be written, and it does
what it does without the map. -/
structure Matches (S : Server ρ) (events : List (ServerEvent ρ)) (t : ServerTransaction ρ)
    (e : ServerEvent ρ) : Prop where
  inRange : S.Writable (events ++ [e]) → t.step S e ≠ .error .outOfRange
  follows : ∀ u, t.step S e = .ok u → Follows S (events ++ [e]) u
  served : ∀ u first, t.step S e = .ok u →
    (∀ x, firstAnswers (events ++ [e]) = some x → x = first) →
      t.served.step S first e = .ok u.served

theorem request_ok {r : Request} {v w : Served ρ} (h : v.request S r = .ok w) {d : Responder}
    (hd : w.responseInfo = some d) : d.filterName ∈ S.filters ∨ v.responseInfo = some d := by
  rw [Served.request] at h
  split at h
  · cases h
  · cases h
    rcases Option.or_eq_some_iff.mp hd with hd | ⟨-, hd⟩
    · have hwithin := S.runFilters_within r S.httpRequestFilters { state := v.state }
      exact .inl (Server.mem_filters ((hwithin.responder d hd).resolve_left nofun))
    · exact .inr hd

theorem request_inRange (S : Server ρ) (r : Request) (v : Served ρ) :
    v.request S r ≠ .error .outOfRange := by
  rw [Served.request]
  split <;> nofun

theorem respond_ok {r : Request} {v w : Served ρ} (h : v.respond S r = .ok w) :
    w.responseInfo = v.responseInfo := by
  rw [Served.respond] at h
  split at h <;> cases h
  rfl

theorem respond_inRange (S : Server ρ) (r : Request) (v : Served ρ) :
    v.respond S r ≠ .error .outOfRange := by
  rw [Served.respond]
  split <;> nofun

/-- An event that leaves such a map and does what it does without it. -/
theorem matches_of_map {e : ServerEvent ρ} {m : TransactionMuncher}
    {v : Except TransactionFault (Served ρ)} (hstep : t.step S e = v.map fun w => ⟨m, w⟩)
    (hshows : m.Shows S.whichPartsAreRequested (firstAnswers (events ++ [e])))
    (hrange : v ≠ .error .outOfRange)
    (hresponder : ∀ w d, v = .ok w → w.responseInfo = some d →
      d.filterName ∈ S.filters ∧ ∃ first, firstAnswers (events ++ [e]) = some first)
    (hserved : ∀ first, (∀ x, firstAnswers (events ++ [e]) = some x → x = first) →
      t.served.step S first e = v) : Matches S events t e := by
  cases v with
  | error fault =>
      have herror : t.step S e = .error fault := hstep
      refine ⟨fun _ => ?_, fun u hu => ?_, fun u first hu => ?_⟩
      · rw [herror]
        rintro ⟨⟩
        exact hrange rfl
      · rw [herror] at hu
        cases hu
      · rw [herror] at hu
        cases hu
  | ok w =>
      have hok : t.step S e = .ok ⟨m, w⟩ := hstep
      refine ⟨fun _ => ?_, fun u hu => ?_, fun u first hu hfirst => ?_⟩
      · rw [hok]
        nofun
      · rw [hok] at hu
        cases hu
        exact ⟨hshows, fun d hd => hresponder w d rfl hd⟩
      · rw [hok] at hu
        cases hu
        exact hserved first hfirst

/-- An event that is refused. -/
theorem matches_of_error {e : ServerEvent ρ} (fault : TransactionFault)
    (hstep : t.step S e = .error fault)
    (hrange : fault = .outOfRange → ¬ S.Writable (events ++ [e])) : Matches S events t e := by
  refine ⟨fun hwritable => ?_, fun u hu => ?_, fun u first hu => ?_⟩
  · rw [hstep]
    rintro ⟨⟩
    exact hrange rfl hwritable
  · rw [hstep] at hu
    cases hu
  · rw [hstep] at hu
    cases hu

/-- A request whose parts have been retrieved runs the filters, when the parts that they read are
there. -/
theorem step_readRequestHdr {ats : Ats} {m : TransactionMuncher}
    (hm : t.transactionMuncher.retrieveParts ats S.whichPartsAreRequested = .ok m) (r : Request) :
    t.step S (.readRequestHdr ats r) =
      if (S.handleRequest t.served.state (r.reading m.text)).executed.all fun f =>
          m.hasAll (S.readsAtRequest (r.reading m.text) f) then
        (t.served.request S (r.reading m.text)).map fun w => ⟨m, w⟩
      else .error .outOfRange := by
  rw [step, handleRequest, hm]
  rfl

/-- The parts that the filters read at a request are there. -/
theorem present_atRequest {m : TransactionMuncher} {first : Ats}
    (hshows : m.Shows S.whichPartsAreRequested (some first))
    (hwritable : .challenger ∈ S.filters → first.urlWithHost.isSome = true) (state : ServerState ρ)
    (r : Request) :
    ((S.handleRequest state r).executed.all fun f => m.hasAll (S.readsAtRequest r f)) = true := by
  obtain ⟨es, hes, hexec⟩ :=
    (S.runFilters_within r S.httpRequestFilters { state := state }).executed
  refine List.all_eq_true.mpr fun f hf => ?_
  rw [Server.handleRequest, hexec] at hf
  exact Server.hasAll_of_shows hshows (Server.mem_filters (hes.subset hf)) hwritable
    (S.readsAtRequest_subset _ f)

theorem Follows.atRequest (h : Follows S events t) (ats : Ats) (r : Request) :
    Matches S events t (.readRequestHdr ats r) := by
  have hfirst : firstAnswers (events ++ [.readRequestHdr ats r]) =
      some ((firstAnswers events).getD ats) := by
    rw [firstAnswers_snoc]
    cases firstAnswers events <;> rfl
  cases hm : t.transactionMuncher.retrieveParts ats S.whichPartsAreRequested with
  | error error =>
      exact matches_of_error (.parts error) (by rw [step, handleRequest, hm]; rfl) nofun
  | ok m =>
      have hshows := h.shows.retrieve (fun _ => Server.requested_served) hm
      have hstep := step_readRequestHdr hm r
      -- The filters find in the map what the server answered first.
      have hserve : t.served.request S (r.reading m.text) =
          t.served.request S (((firstAnswers events).getD ats).request r) := by
        rw [Ats.request_eq_reading, Served.request, Served.request, Server.handleRequest,
          Server.runFilters_reading (fun f hf p hp =>
            Server.text_eq hshows (Server.mem_filters hf) hp)]
        rfl
      split at hstep
      · rw [hserve] at hstep
        refine matches_of_map hstep (hfirst ▸ hshows) (request_inRange S _ t.served)
          (fun w d hw hd => ⟨?_, _, hfirst⟩) fun first hx => ?_
        · exact (request_ok hw hd).elim id fun hd => (h.responder d hd).1
        · rw [Served.step, hx _ hfirst]
      · next hmissing =>
        exact matches_of_error .outOfRange hstep fun _ hwritable =>
          hmissing (present_atRequest hshows (hwritable _ hfirst) _ _)

/-- A filter that responds finds in the map what the server answered first. -/
theorem Follows.respond (h : Follows S events t) {m : TransactionMuncher}
    (hshows : m.Shows S.whichPartsAreRequested (firstAnswers events)) {first : Ats}
    (hfirst : ∀ x, firstAnswers events = some x → x = first) (r : Request) (status : Nat) :
    t.served.respond S { r.reading m.text with status := status } =
      t.served.respond S { first.request r with status := status } := by
  rw [Ats.request_eq_reading, Served.respond, Served.respond]
  dsimp only
  rw [Server.handleResponse_reading status fun d hd p hp => ?_]
  obtain ⟨hf, x, hx⟩ := h.responder d hd
  obtain rfl := hfirst x hx
  rw [hx] at hshows
  exact Server.text_eq hshows hf hp

/-- A response whose parts have been retrieved is handed to the filter that responds, when the
parts that it reads are there. -/
theorem Follows.step_sendResponseHdr (h : Follows S events t) {ats : Ats}
    {held m : TransactionMuncher}
    (hheld : t.transactionMuncher.needResponseHeader ats = .ok held)
    (hm : held.retrieveResponseParts ats S.whichResponsePartsAreRequested = .ok m)
    (hshows : m.Shows S.whichPartsAreRequested (firstAnswers events)) (r : Request) :
    t.step S (.sendResponseHdr ats r) =
      if t.served.responseInfo.all fun d => m.hasAll (d.readsAtResponse (r.reading m.text)) then
        (t.served.respond S { r.reading m.text with status := ats.status }).map fun w => ⟨m, w⟩
      else .error .outOfRange := by
  rw [step, handleResponse, hheld]
  show (Except.mapError _ (held.retrieveResponseParts _ _) >>= _) = _
  rw [hm]
  show (match t.served.responseInfo with
    | some responder => _
    | none => _ : Except TransactionFault (ServerTransaction ρ)) = _
  cases hinfo : t.served.responseInfo with
  | none => rfl
  | some d =>
      obtain ⟨_, x, hx⟩ := h.responder d hinfo
      rw [hx] at hshows
      dsimp only
      rw [TransactionMuncher.retrieveParts_eq_self hshows.1]
      rfl

/-- The parts that the filter that responds reads are there. -/
theorem Follows.present_atResponse (h : Follows S events t) {m : TransactionMuncher}
    (hshows : m.Shows S.whichPartsAreRequested (firstAnswers events))
    (hwritable : S.Writable events) (r : Request) :
    (t.served.responseInfo.all fun d => m.hasAll (d.readsAtResponse r)) = true := by
  cases hinfo : t.served.responseInfo with
  | none => rfl
  | some d =>
      obtain ⟨hf, x, hx⟩ := h.responder d hinfo
      rw [hx] at hshows
      exact Server.hasAll_of_shows hshows hf (hwritable x hx) (d.readsAtResponse_subset _)

theorem Follows.atResponse (h : Follows S events t) (ats : Ats) (r : Request) :
    Matches S events t (.sendResponseHdr ats r) := by
  have hfirst : firstAnswers (events ++ [.sendResponseHdr ats r]) = firstAnswers events := by
    rw [firstAnswers_snoc]
    exact Option.or_none
  cases hheld : t.transactionMuncher.needResponseHeader ats with
  | error error =>
      exact matches_of_error (.parts error)
        (by rw [step, handleResponse, hheld]; rfl) nofun
  | ok held =>
      cases hm : held.retrieveResponseParts ats S.whichResponsePartsAreRequested with
      | error error =>
          have hfails : t.step S (.sendResponseHdr ats r) = .error (.parts error) := by
            rw [step, handleResponse, hheld]
            show (Except.mapError _ (held.retrieveResponseParts _ _) >>= _) = _
            rw [hm]
            rfl
          exact matches_of_error (.parts error) hfails nofun
      | ok m =>
          have hsame : t.transactionMuncher.SameRequest m := by
            cases TransactionMuncher.needResponseHeader_keeps hheld
            exact TransactionMuncher.hold_sameRequest.trans
              (TransactionMuncher.retrieveResponseParts_sameRequest hm)
          have hshows := h.shows.of_same (fun _ => Server.requested_served) hsame
          have hstep := h.step_sendResponseHdr hheld hm hshows r
          split at hstep
          · refine matches_of_map hstep (hfirst ▸ hshows) (respond_inRange S _ _)
              (fun w d hw hd => ?_) fun first hx => ?_
            · rw [respond_ok hw] at hd
              rw [hfirst]
              exact h.responder d hd
            · rw [hfirst] at hx
              exact (h.respond hshows hx r ats.status).symm
          · next hmissing =>
            refine matches_of_error .outOfRange hstep fun _ hwritable => hmissing ?_
            rw [Server.Writable, hfirst] at hwritable
            exact h.present_atResponse hshows hwritable _

theorem Follows.matches (h : Follows S events t) (e : ServerEvent ρ) : Matches S events t e := by
  have hkept : e.atRequest = none → firstAnswers (events ++ [e]) = firstAnswers events := by
    intro he
    rw [firstAnswers_snoc, he, Option.or_none]
  cases e with
  | readRequestHdr ats r => exact h.atRequest ats r
  | sendResponseHdr ats r => exact h.atResponse ats r
  | sendRequestHdr =>
      have hsame := TransactionMuncher.miss_sameRequest (m := t.transactionMuncher)
      refine matches_of_map (v := .ok t.served) rfl ?_ nofun ?_ fun _ _ => rfl
      · rw [hkept rfl]
        exact h.shows.of_same (fun _ => Server.requested_served) hsame
      · rintro _ d ⟨⟩ hd
        rw [hkept rfl]
        exact h.responder d hd
  | idle =>
      refine matches_of_map (v := .ok t.served) rfl ?_ nofun ?_ fun _ _ => rfl
      · rw [hkept rfl]
        exact h.shows
      · rintro _ d ⟨⟩ hd
        rw [hkept rfl]
        exact h.responder d hd
  | others state =>
      refine matches_of_map (v := .ok { t.served with state := state }) rfl ?_ nofun ?_
        fun _ _ => rfl
      · rw [hkept rfl]
        exact h.shows
      · rintro _ d ⟨⟩ hd
        rw [hkept rfl]
        exact h.responder d hd

/-- A run of events, from the start of the transaction. -/
theorem follows_of_reaches {s : ServerState ρ}
    (h : Reaches (step S) (fun _ _ => True) (create s) events t) :
    Follows S events t ∧ ∀ first, (∀ x, firstAnswers events = some x → x = first) →
      Reaches (Served.step S first) (fun _ _ => True) { state := s } events t.served := by
  refine h.invariant (P := fun events t => Follows S events t ∧ ∀ first,
    (∀ x, firstAnswers events = some x → x = first) →
      Reaches (Served.step S first) (fun _ _ => True) { state := s } events t.served)
    ⟨follows_create S s, fun _ _ => .nil⟩ ?_
  rintro events e a b _ ⟨hfollows, hruns⟩ _ hstep
  have hmatches := hfollows.matches e
  refine ⟨hmatches.follows b hstep, fun first hfirst => ?_⟩
  have hfront : ∀ x, firstAnswers events = some x → x = first :=
    fun x hx => hfirst x (by rw [firstAnswers_snoc, hx, Option.some_or])
  exact .snoc (hruns first hfront) trivial (hmatches.served b first hstep hfirst)

end ServerTransaction

end Banjax
