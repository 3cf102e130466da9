import Banjax.Net.Address

/-!
# Transactions and filters

What a filter is handed of a transaction (`TransactionParts` of
`transaction_muncher.h`) and what it answers (`FilterResponse` of
`banjax_filter.h`).  A filter that responds itself puts its own data into the
answer, so the type of answers has that data as a parameter.
-/

namespace Banjax

open Lib

/-- The parts of a transaction the filters read. -/
structure TransactionParts where
  ip : ClientIp
  url : Bytes
  host : Bytes
  ua : Bytes
  cookie : Bytes
  urlWithHost : Bytes

/-- `FilterResponse`, with the response data of one filter. -/
inductive FilterResponse (δ : Type) where
  /-- `GO_AHEAD_NO_COMMENT`. -/
  | goAheadNoComment
  /-- `I_RESPOND`. -/
  | iRespond (responseData : δ)
  /-- `SERVE_IMMIDIATELY_DONT_CACHE`. -/
  | serveImmediatelyDontCache
  /-- `SERVE_FRESH`. -/
  | serveFresh

/-- The answer with other response data. -/
def FilterResponse.map {δ δ' : Type} (f : δ → δ') : FilterResponse δ → FilterResponse δ'
  | goAheadNoComment => .goAheadNoComment
  | iRespond responseData => .iRespond (f responseData)
  | serveImmediatelyDontCache => .serveImmediatelyDontCache
  | serveFresh => .serveFresh

/-- The fields of `FilterExtendedResponse` that a filter writes. -/
structure FilterExtendedResponse where
  contentType : Option Bytes := none
  bannedIp : Bool := false
  setCookieHeader : Bytes := []
  responseCode : Nat := 403
deriving DecidableEq

/-- A number with its sign. -/
def signedDecimal (n : Int) : Bytes :=
  if n < 0 then 45 :: decimal n.natAbs else decimal n.natAbs

/-- `encapsulate_in_quotes`: the text in double quotes, a backslash before each
double quote of its own. -/
def encapsulateInQuotes (unprocessedLogString : Bytes) : Bytes :=
  34 :: unprocessedLogString.flatMap (fun c => if c = 34 then [92, 34] else [c]) ++ [34]

example : encapsulateInQuotes (bytes "a\"b") = bytes "\"a\\\"b\"" := by decide

end Banjax
