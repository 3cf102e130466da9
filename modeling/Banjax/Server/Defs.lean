import Banjax.Challenger.Response
import Banjax.Config.Defs
import Banjax.Lib.Purge
import Banjax.Lib.Table
import Banjax.Regex.Banner

/-!
# Transactions at the server

`handle_request` and `handle_response` of `transaction_data.cpp`: the filters of the
task queue look at a request one after the other until one of them ends it, and a
filter that responds itself generates its response when the headers are sent.

The three databases, the socket and the published messages are the state of the server.
What a request finds and the program does not choose comes with the request.  The
bans the challenger logs are carried out once it has answered, which comes to the same,
as it does not use what the swabber works on.

A fault ends the transaction.  The program has no meaning after it, and the runs here
go on with the state the failed call found.
-/

namespace Banjax

open Lib

/-- `WhiteLister::on_http_request`. -/
def WhiteLister.onHttpRequest {δ : Type} (whiteList : GlobalWhiteList) (parts : TransactionParts) :
    FilterResponse δ :=
  if (whiteList.isWhiteListedFor parts.host parts.ip.str).isSome then .serveImmediatelyDontCache
  else .goAheadNoComment

/-! ## Configuration and state -/

/-- The members of `Banjax` after `read_configuration`.  A filter that is not in the
priority map does not exist, and its data is not used. -/
structure Server (ρ : Type) where
  priorityMap : Reader.PriorityMap
  /-- The priorities differ, as `Reader.readConfiguration_priorities` says. -/
  increasing : Increasing priorityMap
  /-- A filter has one priority. -/
  once : (priorityMap.map Prod.snd).Nodup
  globalIpWhiteList : GlobalWhiteList
  regexManager : RegexManager ρ
  challenger : Challenger
  /-- The filters share one white list. -/
  shared : challenger.globalWhiteList = some globalIpWhiteList
  swabber : Swabber

/-- What requests change. -/
structure ServerState (ρ : Type) [FloatArithmetic ρ] where
  regexManagerIpDb : RegexDb ρ
  challengerIpDb : IpDb UInt64
  /-- With `swabber_ip_db`. -/
  swabber : SwabberState

/-- A request, and what is found while it is served. -/
structure Request where
  /-- The `METHOD` part. -/
  method : Bytes
  parts : TransactionParts
  /-- What the challenger finds. -/
  env : Env
  /-- The clock at the regex banner. -/
  curTimeMsec : Int
  /-- The clock at the denialator. -/
  curTimeSec : Int
  /-- What the swabber finds when the filter calls it. -/
  ban : FilterName → BanEnv
  /-- What it finds when the response is generated. -/
  banAtResponse : BanEnv
  /-- `get_response_status`. -/
  status : Nat

/-- The response data of the filter that responds. -/
inductive Responder where
  | regexBanner (responseData : FilterExtendedResponse)
  | challenger (responseData : ChallengerExtendedResponse)
  | denialator (responseData : FilterExtendedResponse)

/-- The filter that responds. -/
def Responder.filterName : Responder → FilterName
  | regexBanner _ => .regexBanner
  | challenger _ => .challenger
  | denialator _ => .denialator

/-- The bans of a log. -/
def Swabber.banLogged (S : Swabber) (e : BanEnv) (log : List Event) (s : SwabberState) :
    SwabberState :=
  log.foldl (fun s event =>
    match event with
    | .ban ip reason => S.ban e ip reason s
    | _ => s) s

/-! ## The request -/

/-- What `handle_request` has done so far. -/
structure Progress (ρ : Type) [FloatArithmetic ρ] where
  /-- The filters whose `on_http_request` has been called. -/
  executed : List FilterName := []
  /-- `TSHttpTxnServerRespNoStoreSet`. -/
  noStore : Bool := false
  /-- `TS_CONFIG_HTTP_CACHE_HTTP` is set to 0. -/
  cacheOff : Bool := false
  /-- `response_info`, when a filter responds. -/
  responseInfo : Option Responder := none
  fault : Option Fault := none
  state : ServerState ρ

namespace Server

variable {ρ : Type} [FloatArithmetic ρ] (S : Server ρ)

/-- The denialator, which takes the grace period of the swabber. -/
def denialator : Denialator := .create S.swabber (some S.globalIpWhiteList)

/-- `http_request_filters`. -/
def httpRequestFilters : List FilterName := buildFilters S.priorityMap .httpRequest

/-- `on_http_request` of a filter. -/
def onHttpRequest (r : Request) (s : ServerState ρ) :
    FilterName → Except Fault (FilterResponse Responder × ServerState ρ)
  | .whiteLister => .ok (WhiteLister.onHttpRequest S.globalIpWhiteList r.parts, s)
  | .regexBanner => do
      let (response, db, swabber) ← S.regexManager.onHttpRequest S.swabber (r.ban .regexBanner)
        r.curTimeMsec r.method r.parts s.regexManagerIpDb s.swabber
      return (response.map .regexBanner, { s with regexManagerIpDb := db, swabber := swabber })
  | .challenger => do
      let (response, w) ← S.challenger.onHttpRequest r.env r.parts ⟨s.challengerIpDb, []⟩
      return (response.map .challenger,
        { s with
          challengerIpDb := w.ipDb
          swabber := S.swabber.banLogged (r.ban .challenger) w.log s.swabber })
  | .denialator =>
      let (response, swabber) := S.denialator.onHttpRequest S.swabber
        ⟨r.curTimeSec, r.ban .denialator⟩ r.parts s.swabber
      .ok (response.map .denialator, { s with swabber := swabber })
  | .botSniffer => .ok (.goAheadNoComment, s)

/-- The loop of `handle_request` over the filters that are left. -/
def runFilters (r : Request) : List FilterName → Progress ρ → Progress ρ
  | [], t => t
  | filter :: rest, t =>
      let t := { t with executed := t.executed ++ [filter] }
      match S.onHttpRequest r t.state filter with
      | .error fault => { t with fault := some fault }
      | .ok (curFilterResult, state) =>
          let t := { t with state := state }
          match curFilterResult with
          | .goAheadNoComment => runFilters r rest t
          | .serveImmediatelyDontCache => { t with noStore := true }
          -- The `break` here leaves the `switch` only.
          | .serveFresh => runFilters r rest { t with noStore := true, cacheOff := true }
          | .iRespond responseData => { t with responseInfo := some responseData }

/-- `handle_request`. -/
def handleRequest (s : ServerState ρ) (r : Request) : Progress ρ :=
  S.runFilters r S.httpRequestFilters { state := s }

/-! ## The response -/

/-- `response_generator` of the filter that responds. -/
def generateResponse (r : Request) (s : ServerState ρ) :
    Responder → Except Fault (Bytes × FilterExtendedResponse × ServerState ρ)
  | .regexBanner d => .ok (RegexManager.generateResponse, d, s)
  | .denialator d => .ok (Denialator.generateResponse, d, s)
  | .challenger d => do
      let (buf, d, w) ← S.challenger.generateResponse r.env r.parts d ⟨s.challengerIpDb, []⟩
      return (buf, d.toFilterExtendedResponse,
        { s with
          challengerIpDb := w.ipDb
          swabber := S.swabber.banLogged r.banAtResponse w.log s.swabber })

end Server

/-- What a client gets. -/
inductive Reply where
  /-- The response of a filter. -/
  | own (responseCode : Nat) (headers : List (Bytes × Bytes)) (contentType : Option Bytes)
      (body : Bytes)
  /-- The response of the origin, perhaps with another body. -/
  | ofOrigin (noStore cacheOff : Bool) (errorBody : Option Bytes)
  | faulty (fault : Fault)
deriving DecidableEq

/-- The headers `handle_response` appends. -/
def replyHeaders (d : FilterExtendedResponse) : List (Bytes × Bytes) :=
  (if d.setCookieHeader = [] then [] else [(bytes "Set-Cookie", cStr d.setCookieHeader)]) ++
    [(bytes "Expires", bytes "Mon, 23 Aug 1982 12:00:00 GMT"),
      (bytes "Cache-Control", bytes "no-store, no-cache, must-revalidate"),
      (bytes "Pragma", bytes "no-cache")]

/-- `error_body`, for a connection to the origin that failed. -/
def connectFailBody (status : Nat) : Bytes :=
  bytes "<!DOCTYPE HTML PUBLIC \"-//W3C//DTD HTML 4.01//EN\"\n" ++
    bytes "        \"http://www.w3.org/TR/html4/strict.dtd\">\n" ++
    bytes "<html>\n" ++
    bytes "    <head>\n" ++
    bytes "        <meta http-equiv=\"Content-Type\" content=\"text/html;charset=utf-8\">\n" ++
    bytes "        <title>Error response</title>\n" ++
    bytes "    </head>\n" ++
    bytes "    <body>\n" ++
    bytes "        <h1>Error response</h1>\n" ++
    bytes "        <p>Error code: " ++ decimal status ++ bytes "</p>\n" ++
    bytes "        <p>Error code explanation: ERR_CONNECT_FAIL</p>\n" ++
    bytes "    </body>\n" ++
    bytes "</html>\n"

/-- What comes of a request. -/
structure Exchange where
  executed : List FilterName
  answeredBy : Option FilterName
  reply : Reply

namespace Server

variable {ρ : Type} [FloatArithmetic ρ] (S : Server ρ)

/-- `handle_response`. -/
def handleResponse (r : Request) (t : Progress ρ) : Reply × ServerState ρ :=
  match t.fault with
  | some fault => (.faulty fault, t.state)
  | none =>
      match t.responseInfo with
      | some responder =>
          match S.generateResponse r t.state responder with
          | .error fault => (.faulty fault, t.state)
          | .ok (buf, d, s) =>
              (.own d.responseCode (replyHeaders d) d.contentType
                (if buf = [] then bytes "Not authorized" else buf), s)
      | none =>
          (.ofOrigin t.noStore t.cacheOff
            (if r.status = 110 then some (connectFailBody r.status) else none), t.state)

/-- A transaction: the request, and then the response. -/
def serve (s : ServerState ρ) (r : Request) : Exchange × ServerState ρ :=
  let t := S.handleRequest s r
  let (reply, s) := S.handleResponse r t
  (⟨t.executed, t.responseInfo.map Responder.filterName, reply⟩, s)

/-- The exchanges of a run, with their requests. -/
def exchanges (s : ServerState ρ) (requests : List Request) : List (Request × Exchange) :=
  outputs S.serve s requests

/-- The state after a run. -/
def stateAfter (s : ServerState ρ) (requests : List Request) : ServerState ρ :=
  after S.serve s requests

/-- The white list accepts the host and the address of the request. -/
def isWhiteListed (r : Request) : Bool :=
  (S.globalIpWhiteList.isWhiteListedFor r.parts.host r.parts.ip.str).isSome

/-- The server without the filters of a larger priority. -/
def upTo (p : Int) : Server ρ :=
  { S with
    priorityMap := S.priorityMap.filter fun entry => entry.1 ≤ p
    increasing := S.increasing.sublist List.filter_sublist
    once := S.once.sublist (List.filter_sublist.map Prod.snd) }

end Server

end Banjax
