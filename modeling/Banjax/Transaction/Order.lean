import Banjax.Transaction.Parts

/-!
# The order in which parts are retrieved

The branch for `URL_WITH_HOST` writes the host into the URL of the request header, and the header
is the one from which the other parts are read.  Here the URL is part of the state, with
`TSUrlStringGet`, `TSUrlSchemeGet` and `TSUrlHostSet` as parameters, and all calls of the server
succeed.

What a part is worth does not depend on the order.  `URL` and `PROTOCOL` are in the map before
the URL is rewritten, as the branch has asked for `URL` first, and an entry in the map is not
replaced.  So the whole map is determined by the union of the flags (`Settled`), whatever
`TSUrlHostSet` may do to the URL.
-/

namespace Banjax

open Lib TransactionMuncher

/-- What the server does with a URL. -/
structure UrlCalls (υ : Type) where
  /-- `TSUrlStringGet`. -/
  stringGet : υ → Bytes
  /-- `TSUrlSchemeGet`. -/
  schemeGet : υ → Bytes
  /-- `TSUrlHostSet`. -/
  hostSet : Bytes → υ → υ

/-- A request as it is received, without its URL.  A field may be absent. -/
structure Received where
  clientAddr : Option InAddr
  method : Option Bytes
  host : Option Bytes
  userAgent : Option Bytes
  cookie : Option Bytes

/-- A transaction: the muncher and the URL in the request header. -/
structure UrlHeader (υ : Type) where
  muncher : TransactionMuncher
  url : υ

variable {υ : Type} (U : UrlCalls υ) (r : Received)

/-- The answers for the request, with a URL in the header. -/
def Received.ats (u : υ) : Ats where
  clientReq := true
  clientAddr := r.clientAddr
  hdrUrl := true
  urlString := some (U.stringGet u)
  urlScheme := U.schemeGet u
  urlHostSet := fun _ => true
  urlStringOf := fun host => some (U.stringGet (U.hostSet host u))
  method := r.method
  host := r.host
  userAgent := r.userAgent
  cookie := r.cookie
  clientResp := false
  status := 0
  contentLength := none

namespace UrlHeader

/-- The branch for `URL_WITH_HOST`, once there is a host.  The URL is read after it has been
changed. -/
def rewriteUrl (u : υ) (m : TransactionMuncher) : UrlHeader υ :=
  let m := m.insert .host []
  let u := U.hostSet ((m.part .host).getD []) u
  ⟨m.insert .urlWithHost (U.stringGet u), u⟩

/-- The branch for `URL_WITH_HOST` and the call in it. -/
def rewriteStep (parts : BitVec 64) (u : υ) (m : TransactionMuncher) :
    Except PartsError (UrlHeader υ) :=
  if has parts .urlWithHost then (retrieveHostAndUrl (r.ats U u) m).map (rewriteUrl U u)
  else .ok ⟨m, u⟩

/-- `retrieve_parts`. -/
def retrieveParts (s : UrlHeader υ) (requestedLogParts : BitVec 64) :
    Except PartsError (UrlHeader υ) :=
  let parts := missing s.muncher.validParts requestedLogParts
  if parts = 0#64 then .ok s
  else do
    let m ← s.muncher.needRequestHeader (r.ats U s.url)
    let m := m.retrieveAddress (r.ats U s.url) parts
    let t ← rewriteStep U r parts s.url m
    let m := t.muncher.retrieveFields (r.ats U t.url) parts
    .ok ⟨(m.addValid requestedLogParts).updateValidityStatus, t.url⟩

/-- The calls of a transaction. -/
def run (u : υ) (masks : List (BitVec 64)) : Except PartsError (UrlHeader υ) :=
  masks.foldlM (retrieveParts U r) ⟨create, u⟩

/-- The parts that have been asked for. -/
def union (masks : List (BitVec 64)) : BitVec 64 := masks.foldl (· ||| ·) 0#64

variable {U r}

/-! ## One call -/

theorem rewriteStep_muncher (parts : BitVec 64) (u : υ) (m : TransactionMuncher) :
    (rewriteStep U r parts u m).map (·.muncher) =
      m.retrieveRewritten ⟨r.ats U u, r.ats U u, r.ats U u⟩ parts := by
  rw [rewriteStep, retrieveRewritten]
  split
  · cases retrieveHostAndUrl (r.ats U u) m <;> rfl
  · rfl

theorem rewriteStep_url {parts : BitVec 64} {u : υ} {m : TransactionMuncher} {t : UrlHeader υ}
    (h : rewriteStep U r parts u m = .ok t) (hparts : has parts .urlWithHost = false) :
    t.url = u := by
  rw [rewriteStep, hparts] at h
  cases h
  rfl

/-- The muncher does what it does with the answers for the URL that it finds. -/
theorem retrieveParts_muncher (s : UrlHeader υ) (requested : BitVec 64) :
    (retrieveParts U r s requested).map (·.muncher) =
      s.muncher.retrieveParts (r.ats U s.url) requested := by
  rw [← retrievePartsFrom_same, retrieveParts, retrievePartsFrom]
  split
  · rfl
  · rw [needRequestHeader, if_pos (by exact Bool.or_true _), ok_bind, ok_bind]
    dsimp only
    rw [← rewriteStep_muncher]
    cases rewriteStep U r _ s.url _ <;> rfl

/-- The URL changes for `URL_WITH_HOST` only. -/
theorem retrieveParts_url {s s' : UrlHeader υ} {requested : BitVec 64}
    (h : retrieveParts U r s requested = .ok s')
    (hparts : has (missing s.muncher.validParts requested) .urlWithHost = false) :
    s'.url = s.url := by
  rw [retrieveParts] at h
  split at h
  · cases h
    rfl
  · obtain ⟨m, -, h⟩ := bind_eq_ok.mp h
    obtain ⟨t, ht, h⟩ := bind_eq_ok.mp h
    have hurl := rewriteStep_url ht hparts
    cases h
    exact hurl

/-- A call returns. -/
theorem retrieveParts_ok (s : UrlHeader υ) (requested : BitVec 64) :
    ∃ s', retrieveParts U r s requested = .ok s' ∧
      Retrieved ⟨r.ats U s.url, r.ats U s.url, r.ats U s.url⟩ requested s.muncher s'.muncher := by
  obtain ⟨m', hcall, hret⟩ :=
    retrievePartsFrom_spec ⟨r.ats U s.url, r.ats U s.url, r.ats U s.url⟩ requested
      (m := s.muncher) (Bool.or_true _)
  rw [retrievePartsFrom_same, ← retrieveParts_muncher] at hcall
  cases hs : retrieveParts U r s requested with
  | error e =>
      rw [hs] at hcall
      cases hcall
  | ok s' =>
      rw [hs] at hcall
      cases hcall
      exact ⟨s', rfl, hret⟩

/-! ## The parts that the flags stand for -/

variable (U r)

/-- What a part is worth. -/
def value (u : υ) : TransactionPart → Option Bytes
  | .ip => some (r.ats U u).clientIp.str
  | .urlWithHost => some (U.stringGet (U.hostSet (r.ats U u).hostText u))
  | p => ((r.ats U u).urlPart p).or ((r.ats U u).field p)

/-- The parts with an entry once the flags have been asked for. -/
def reached (asked : BitVec 64) : TransactionPart → Bool
  | .url | .protocol => has asked .url || has asked .protocol || has asked .urlWithHost
  | .host => has asked .host || has asked .urlWithHost
  | p => has asked p

/-- A transaction whose map is determined by the flags. -/
structure Settled (u : υ) (asked : BitVec 64) (s : UrlHeader υ) : Prop where
  part : ∀ p, s.muncher.part p = if reached asked p then value U r u p else none
  valid : ∀ p, has s.muncher.validParts p =
    (has asked p || (has asked .urlWithHost && has hostAndUrl p))
  url : has asked .urlWithHost = false → s.url = u

variable {U r}

theorem settled_create (u : υ) : Settled U r u 0#64 ⟨create, u⟩ := by
  refine ⟨fun p => ?_, fun p => ?_, fun _ => rfl⟩
  · have hno : reached 0#64 p = false := by cases p <;> simp [reached]
    rw [hno]
    rfl
  · rw [has_zero, has_zero]
    exact has_zero p

section Step

variable {u : υ} {asked requested : BitVec 64} {s s' : UrlHeader υ}

/-- What is missing has not been asked for. -/
theorem Settled.has_missing_eq (h : Settled U r u asked s) {p : TransactionPart}
    (hp : has hostAndUrl p = false) :
    has (missing s.muncher.validParts requested) p = (!has asked p && has requested p) := by
  rw [has_missing, h.valid, hp, Bool.and_false, Bool.or_false]

/-- The host that is written into the URL. -/
theorem Settled.hostFor_eq (h : Settled U r u asked s) (hno : has asked .urlWithHost = false) :
    s.muncher.hostFor (r.ats U s.url) = (r.ats U u).hostText := by
  have hvalid : has s.muncher.validParts .host = has asked .host := by
    rw [h.valid, hno, Bool.false_and, Bool.or_false]
  rw [hostFor, h.part, innerOffer, hvalid, reached, hno]
  cases has asked .host <;> simp [value, Ats.urlPart, Ats.field, Received.ats, Ats.hostText]

theorem reached_or (asked requested : BitVec 64) (p : TransactionPart) :
    reached (asked ||| requested) p = (reached asked p || reached requested p) := by
  cases p <;> simp only [reached, has_or] <;> ac_rfl

/-- What a call offers for a part that has no entry. -/
theorem Settled.offer_eq (h : Settled U r u asked s) {p : TransactionPart} (hp : p ≠ .ip)
    (hnot : reached asked p = false) :
    offer ⟨r.ats U s.url, r.ats U s.url, r.ats U s.url⟩ requested s.muncher p =
      if reached requested p then value U r u p else none := by
  have hvalid := h.valid
  cases p with
  | ip => exact absurd rfl hp
  | url | protocol =>
      -- The URL is still the one that was received.
      simp only [reached, Bool.or_eq_false_iff] at hnot
      cases hurl : has requested .url <;> cases hprotocol : has requested .protocol <;>
        cases hwith : has requested .urlWithHost <;>
        simp [offer, hvalid, hnot, has_hostAndUrl, h.url hnot.2, innerOffer, reached, hurl,
          hprotocol, hwith, value, Ats.urlPart, Ats.field, Ats.rewritten]
  | host =>
      simp only [reached, Bool.or_eq_false_iff] at hnot
      cases hhost : has requested .host <;> cases hwith : has requested .urlWithHost <;>
        simp [offer, hvalid, hnot, has_hostAndUrl, h.url hnot.2, innerOffer, reached, hhost,
          hwith, value, Ats.urlPart, Ats.field]
  | urlWithHost =>
      have hno : has asked .urlWithHost = false := hnot
      have hrewritten : (r.ats U s.url).rewritten (s.muncher.hostFor (r.ats U s.url))
          .urlWithHost = value U r u .urlWithHost := by
        rw [h.hostFor_eq hno, h.url hno]
        rfl
      cases hwith : has requested .urlWithHost <;>
        simp [offer, hvalid, hno, has_hostAndUrl, hrewritten, innerOffer, reached, hwith,
          Ats.urlPart, Ats.field]
  | _ =>
      simp only [reached] at hnot
      simp [offer, hvalid, hnot, has_hostAndUrl, innerOffer, reached, value, Ats.urlPart,
        Ats.field, Ats.rewritten, Received.ats]

/-- An entry for a part has the value of the part. -/
theorem Settled.entry_or_offer (h : Settled U r u asked s) {p : TransactionPart} (hp : p ≠ .ip) :
    (s.muncher.part p).or
        (offer ⟨r.ats U s.url, r.ats U s.url, r.ats U s.url⟩ requested s.muncher p) =
      if reached (asked ||| requested) p then value U r u p else none := by
  rw [h.part, reached_or]
  cases hreached : reached asked p with
  | false => simpa using h.offer_eq hp hreached
  | true =>
      cases hvalue : value U r u p with
      | some text => rfl
      | none =>
          -- A part without a value is not offered.
          cases p <;>
            simp [value, Ats.urlPart, Ats.field, offer, innerOffer, Ats.rewritten] at hvalue ⊢

theorem Settled.step (h : Settled U r u asked s)
    (hret : Retrieved ⟨r.ats U s.url, r.ats U s.url, r.ats U s.url⟩ requested s.muncher s'.muncher)
    (hurl : has (missing s.muncher.validParts requested) .urlWithHost = false → s'.url = s.url) :
    Settled U r u (asked ||| requested) s' := by
  refine ⟨fun p => ?_, fun p => ?_, fun hno => ?_⟩
  · rcases eq_or_ne p .ip with rfl | hp
    · rw [hret.ip, h.part, h.has_missing_eq (by decide), reached_or]
      cases hasked : has asked .ip <;> cases hreq : has requested .ip <;>
        simp [reached, hasked, hreq, value, Ats.clientIp, Received.ats]
    · rw [hret.part p hp, h.entry_or_offer hp]
  · rw [hret.valid, h.has_missing_eq (by decide), h.valid, has_or, has_or]
    cases has asked p <;> cases has asked .urlWithHost <;> cases has requested p <;> simp
  · rw [has_or, Bool.or_eq_false_iff] at hno
    rw [hurl (by rw [h.has_missing_eq (by decide), hno.2, Bool.and_false]), h.url hno.1]

end Step

/-! ## Runs -/

theorem union_snoc (xs : List (BitVec 64)) (y : BitVec 64) :
    union (xs ++ [y]) = union xs ||| y := by
  rw [union, List.foldl_append]
  rfl

theorem union_append (xs ys : List (BitVec 64)) : union (xs ++ ys) = union xs ||| union ys := by
  induction ys using List.reverseRecOn with
  | nil => rw [List.append_nil, union, union, List.foldl_nil, BitVec.or_zero]
  | append_singleton ys y ih =>
      rw [← List.append_assoc, union_snoc, union_snoc, ih, BitVec.or_assoc]

theorem run_snoc (u : υ) (masks : List (BitVec 64)) (requested : BitVec 64) :
    run U r u (masks ++ [requested]) =
      run U r u masks >>= fun s => retrieveParts U r s requested :=
  foldlM_snoc ..

/-- Every run returns, with a map that its flags determine. -/
theorem run_settled (u : υ) (masks : List (BitVec 64)) :
    ∃ s, run U r u masks = .ok s ∧ Settled U r u (union masks) s := by
  induction masks using List.reverseRecOn with
  | nil => exact ⟨⟨create, u⟩, rfl, settled_create u⟩
  | append_singleton masks requested ih =>
      obtain ⟨s, hrun, hsettled⟩ := ih
      obtain ⟨s', hcall, hret⟩ := retrieveParts_ok (U := U) (r := r) s requested
      refine ⟨s', ?_, ?_⟩
      · rw [run_snoc, hrun]
        exact hcall
      · rw [union_snoc]
        exact hsettled.step hret (retrieveParts_url hcall)

theorem reached_of_has {asked : BitVec 64} {p : TransactionPart} (h : has asked p = true) :
    reached asked p = true := by
  cases p <;> simp [reached, h]

theorem isSome_value {u : υ} {p : TransactionPart} (hp : p ∉ TransactionPart.others) :
    (value U r u p).isSome = true := by
  cases p with
  | miss | status | contentLength => exact absurd (by decide) hp
  | _ => rfl

/-- Two runs that ask for the same parts find the same, whatever the order is.  The URL is the
one that was received, and no part changes once it is there. -/
theorem retrieve_order_independent (u : υ) {xs ys : List (BitVec 64)} (h : union xs = union ys) :
    ∃ s t, run U r u xs = .ok s ∧ run U r u ys = .ok t ∧
      s.muncher.part = t.muncher.part ∧
      (∀ p ∉ TransactionPart.others, has (union xs) p = true →
        (s.muncher.part p).isSome = true) ∧
      (∀ text, s.muncher.part .url = some text → text = U.stringGet u) ∧
      ∀ pre post, xs = pre ++ post → ∃ before, run U r u pre = .ok before ∧
        ∀ p text, before.muncher.part p = some text → s.muncher.part p = some text := by
  obtain ⟨s, hs, hsettled⟩ := run_settled (U := U) (r := r) u xs
  obtain ⟨t, ht, hsettled'⟩ := run_settled (U := U) (r := r) u ys
  refine ⟨s, t, hs, ht, ?_, ?_, ?_, ?_⟩
  · funext p
    rw [hsettled.part, hsettled'.part, h]
  · intro p hp hasked
    rw [hsettled.part, if_pos (reached_of_has hasked)]
    exact isSome_value hp
  · intro text htext
    rw [hsettled.part] at htext
    split at htext
    · exact (Option.some.inj htext).symm
    · cases htext
  · rintro pre post rfl
    obtain ⟨before, hbefore, hpre⟩ := run_settled (U := U) (r := r) u pre
    refine ⟨before, hbefore, fun p text htext => ?_⟩
    rw [hpre.part] at htext
    split at htext
    · next hreached =>
      rw [hsettled.part, union_append, reached_or, hreached, Bool.true_or, if_pos rfl]
      exact htext
    · cases htext

/-- A URL in its parts. -/
structure PlainUrl where
  scheme : Bytes
  host : Bytes
  path : Bytes

/-- The calls of the server for such a URL. -/
def plainCalls : UrlCalls PlainUrl where
  stringGet u :=
    (if u.host = [] then [] else u.scheme ++ bytes "://" ++ u.host) ++ u.path
  schemeGet u := u.scheme
  hostSet host u := { u with host }

/-- A request for a page. -/
def sampleReceived : Received where
  clientAddr := some ⟨10, 0, 0, 1⟩
  method := some (bytes "GET")
  host := some (bytes "Example.net")
  userAgent := some (bytes "curl")
  cookie := none

/-- The URL in front of `URL_WITH_HOST`, and after it. -/
theorem sample_order_independent :
    let xs := [TransactionPart.url.flag, TransactionPart.urlWithHost.flag]
    let ys := [TransactionPart.urlWithHost.flag, TransactionPart.url.flag]
    union xs = union ys ∧
      ∃ s t, run plainCalls sampleReceived ⟨bytes "http", [], bytes "/"⟩ xs = .ok s ∧
        run plainCalls sampleReceived ⟨bytes "http", [], bytes "/"⟩ ys = .ok t ∧
        s.muncher.part = t.muncher.part ∧
        (∀ p ∉ TransactionPart.others, has (union xs) p = true →
          (s.muncher.part p).isSome = true) ∧
        (∀ text, s.muncher.part .url = some text → text = bytes "/") ∧
        ∀ pre post, xs = pre ++ post → ∃ before,
          run plainCalls sampleReceived ⟨bytes "http", [], bytes "/"⟩ pre = .ok before ∧
            ∀ p text, before.muncher.part p = some text → s.muncher.part p = some text :=
  ⟨by decide, retrieve_order_independent _ (by decide)⟩

end UrlHeader

end Banjax
