import Banjax.Challenger.Browser
import Banjax.Challenger.Response
import Banjax.Lib.Template

/-!
# The page of a challenge

`generate_html` makes a page of the template of the challenge: it replaces `$time`, `$token`,
`$url` and `$zeros`, in this order and each where it occurs first.

The time, the token and the number hold no `$`.  The URL is what the client sent, so it may hold
the name that is replaced after it.  A page shows the four values in their places exactly when
the URL, with what follows it, does not bring `$zeros` before its place
(`transaction_page_iff`).  In the templates that come with the plugin `$zeros` stands before
`$url`, so that their pages are right for every URL.
-/

namespace Banjax

open Lib

/-! ## Templates -/

/-- What is filled in, in the order of the replacements. -/
inductive PageSlot where
  | time
  | token
  | url
  | zeros
deriving DecidableEq

/-- `SUB_TIME`, `SUB_TOKEN`, `SUB_URL` and `SUB_ZEROS`. -/
def PageSlot.name : PageSlot → Bytes
  | time => bytes "$time"
  | token => bytes "$token"
  | url => bytes "$url"
  | zeros => bytes "$zeros"

/-- The template of a page. -/
abbrev PageTemplate := List (Piece PageSlot)

/-- The text of the template. -/
def PageTemplate.source (ps : PageTemplate) : Bytes := render PageSlot.name ps

/-- Each slot comes once at most, and no name begins in the text around the slots. -/
structure PageTemplate.Clear (ps : PageTemplate) : Prop where
  text : ∀ s, .text s ∈ ps → ∀ i : PageSlot, Unmet i.name s
  once : (slots ps).Nodup

/-! ## Values without a dollar sign -/

theorem isDigit_of_mem_decimal {n : Nat} {c : UInt8} (h : c ∈ decimal n) : isDigit c = true := by
  obtain ⟨d, hd, rfl⟩ := List.mem_map.mp h
  have hdigit := Nat.isDigit_of_mem_toDigits (by decide) (by decide) hd
  simp only [Char.isDigit, Bool.and_eq_true, decide_eq_true_eq] at hdigit
  have hlow : 48 ≤ d.toNat := hdigit.1
  have hhigh : d.toNat ≤ 57 := hdigit.2
  have hval : d.toNat.toUInt8.toNat = d.toNat := by
    rw [Nat.toUInt8, UInt8.toNat_ofNat']
    omega
  rw [isDigit, Bool.and_eq_true, decide_eq_true_eq, decide_eq_true_eq, UInt8.le_iff_toNat_le,
    UInt8.le_iff_toNat_le, hval]
  exact ⟨hlow, hhigh⟩

/-- A byte of the text of a time. -/
def isTimeByte (c : UInt8) : Bool :=
  isDigit c || isLetter c || (65 ≤ c && c ≤ 90) || (bytes " ,:-").contains c

theorem all_decimal (n : Nat) : (decimal n).all isTimeByte = true := by
  rw [List.all_eq_true]
  intro c hc
  rw [isTimeByte, isDigit_of_mem_decimal hc]
  rfl

theorem all_twoDigits (n : Nat) : (twoDigits n).all isTimeByte = true := by
  rw [twoDigits]
  split
  · rw [List.all_cons, all_decimal]
    decide
  · exact all_decimal n

theorem all_signedDecimal (n : Int) : (signedDecimal n).all isTimeByte = true := by
  rw [signedDecimal]
  split
  · rw [List.all_cons, all_decimal]
    decide
  · exact all_decimal _

/-- A word of a list of words. -/
theorem all_getD {words : List Bytes} (h : ∀ word ∈ words, word.all isTimeByte = true) (n : Nat) :
    (words.getD n []).all isTimeByte = true := by
  rw [List.getD_eq_getElem?_getD]
  cases hn : words[n]? with
  | none => rfl
  | some word => exact h word (List.mem_of_getElem? hn)

theorem all_validityTimeText (t : Int64) : (validityTimeText t).all isTimeByte = true := by
  rw [validityTimeText]
  dsimp only
  simp only [List.all_append, all_twoDigits, all_signedDecimal, Bool.and_eq_true, and_true]
  exact ⟨⟨⟨⟨⟨⟨⟨⟨all_getD (by decide +kernel) _, by decide⟩, by decide⟩,
    all_getD (by decide +kernel) _⟩, by decide⟩, by decide⟩, by decide⟩, by decide⟩, by decide⟩

/-- A byte that no time has. -/
theorem notMem_validityTimeText {c : UInt8} (hc : isTimeByte c = false) (t : Int64) :
    c ∉ validityTimeText t := by
  intro h
  rw [List.all_eq_true.mp (all_validityTimeText t) c h] at hc
  cases hc

theorem notMem_decimal {c : UInt8} (hc : isDigit c = false) (n : Nat) : c ∉ decimal n := by
  intro h
  rw [isDigit_of_mem_decimal h] at hc
  cases hc

theorem dollar_notMem_tokenText (hash : Vector UInt8 20) (t : Int64) :
    (36 : UInt8) ∉ tokenText hash t := by
  intro h
  rcases Base64.mem_encodeText h with ⟨i, hi, hc⟩ | hc
  · have hall : ∀ i < 64, Base64.char i ≠ 36 := by decide +kernel
    exact hall i hi hc.symm
  · cases hc

/-! ## The replacements -/

section Replacements

variable {ps : PageTemplate} {v : PageSlot → Bytes} {i : PageSlot} {new : Bytes}

theorem head_name (i : PageSlot) : i.name.head? = some 36 := by cases i <;> rfl

theorem name_ne_nil (i : PageSlot) : i.name ≠ [] := by cases i <;> decide

theorem borderless_name (i : PageSlot) : Borderless i.name := by cases i <;> decide +kernel

/-- A name is not met in another one. -/
theorem unmet_name {j : PageSlot} (h : j ≠ i) : Unmet i.name j.name := by
  cases i <;> cases j <;> first | exact absurd rfl h | decide +kernel

/-- A slot that has its name still, or a value without a dollar sign. -/
def Inert (v : PageSlot → Bytes) (j : PageSlot) : Prop := v j = j.name ∨ (36 : UInt8) ∉ v j

theorem PageTemplate.Clear.unmet (h : ps.Clear) {p : Piece PageSlot} (hp : p ∈ ps)
    (hpi : p ≠ .slot i) (hinert : ∀ j, p = .slot j → Inert v j) : Unmet i.name (p.render v) := by
  cases p with
  | text s => exact h.text s hp i
  | slot j =>
      have hji : j ≠ i := fun he => hpi (he ▸ rfl)
      rcases hinert j rfl with hname | hdollar
      · rw [Piece.render, hname]
        exact unmet_name hji
      · exact unmet_of_notMem (head_name i) hdollar

/-- A replacement while all other slots are inert. -/
theorem PageTemplate.Clear.fill (h : ps.Clear) (hv : v i = i.name)
    (hinert : ∀ j, j ≠ i → Inert v j) :
    replaceFirst (render v ps) i.name new = render (Function.update v i new) ps :=
  replaceFirst_render (name_ne_nil i) hv h.once fun _ hp hpi =>
    h.unmet hp hpi fun j hj => hinert j fun he => hpi (he ▸ hj)

end Replacements

namespace Challenger

variable (M : Challenger)

/-- What a page should show. -/
def pageValues (env : Env) (ip : Bytes) (t : Int64) (url : Bytes) : PageSlot → Bytes
  | .time => formatValidityTimeForCookie env.buffer t
  | .token => M.pageToken t ip
  | .url => url
  | .zeros => decimal M.numberOfTrailingZeros.toNat

/-- The four replacements. -/
def fillPage (page : Bytes) (v : PageSlot → Bytes) : Bytes :=
  replaceFirst (replaceFirst (replaceFirst (replaceFirst page (bytes "$time") (v .time))
    (bytes "$token") (v .token)) (bytes "$url") (v .url)) (bytes "$zeros") (v .zeros)

/-- The replacements fill the slots exactly when the URL and what follows it do not bring `$zeros`
before its place. -/
theorem fillPage_eq_iff {ps : PageTemplate} (hps : ps.Clear) {v : PageSlot → Bytes}
    (htime : (36 : UInt8) ∉ v .time) (htoken : (36 : UInt8) ∉ v .token)
    (hzeros : (36 : UInt8) ∉ v .zeros) (hne : v .zeros ≠ []) :
    fillPage ps.source v = render v ps ↔
      ¬ bytes "$zeros" <:+: render v (exposed .zeros .url ps) := by
  -- The values after each of the first three replacements.
  let v₁ := Function.update PageSlot.name .time (v .time)
  let v₂ := Function.update v₁ .token (v .token)
  let v₃ := Function.update v₂ .url (v .url)
  have h₁ : replaceFirst (render PageSlot.name ps) (bytes "$time") (v .time) = render v₁ ps :=
    hps.fill (i := .time) rfl fun j _ => .inl rfl
  have h₂ : replaceFirst (render v₁ ps) (bytes "$token") (v .token) = render v₂ ps := by
    refine hps.fill (i := .token) rfl fun j hj => ?_
    cases j with
    | time => exact .inr htime
    | token => exact absurd rfl hj
    | url => exact .inl rfl
    | zeros => exact .inl rfl
  have h₃ : replaceFirst (render v₂ ps) (bytes "$url") (v .url) = render v₃ ps := by
    refine hps.fill (i := .url) rfl fun j hj => ?_
    cases j with
    | time => exact .inr htime
    | token => exact .inr htoken
    | url => exact absurd rfl hj
    | zeros => exact .inl rfl
  have hall : Function.update v₃ .zeros (v .zeros) = v := by
    funext i
    cases i <;> rfl
  have hunmet : ∀ p ∈ ps, p ≠ .slot .zeros → p ≠ .slot .url →
      Unmet (bytes "$zeros") (p.render v₃) := by
    intro p hp hpz hpu
    refine hps.unmet hp hpz fun j hj => ?_
    cases j with
    | time => exact .inr htime
    | token => exact .inr htoken
    | url => exact absurd hj hpu
    | zeros => exact absurd hj hpz
  have hhead : (v .zeros).head? ≠ (bytes "$zeros").head? := by
    intro h
    exact hzeros (List.mem_of_head? (h.trans (by decide)))
  have hlast := replaceFirst_render_iff (v := v₃) (i := .zeros) (j := .url)
    (name_ne_nil .zeros) (borderless_name .zeros) hne hhead rfl hps.once hunmet
  rw [hall] at hlast
  have hexposed : render v₃ (exposed .zeros .url ps) = render v (exposed .zeros .url ps) := by
    rw [← hall, render_update (slot_notMem_exposed .zeros .url ps)]
  rw [fillPage, PageTemplate.source, h₁, h₂, h₃, ← hexposed]
  exact hlast

/-- The same for the values of a page. -/
theorem fillPage_pageValues_iff {ps : PageTemplate} {env : Env} (ip : ClientIp) {t : Int64}
    {url : Bytes} (hps : ps.Clear) (htime : (validityTimeText t).length < 30) :
    fillPage ps.source (M.pageValues env ip.str t url) =
        render (M.pageValues env ip.str t url) ps ↔
      ¬ bytes "$zeros" <:+: render (M.pageValues env ip.str t url) (exposed .zeros .url ps) := by
  refine fillPage_eq_iff hps ?_ (dollar_notMem_tokenText _ _) (notMem_decimal rfl _) ?_
  · rw [pageValues, formatValidityTimeForCookie, if_pos htime]
    exact notMem_validityTimeText (by decide) _
  · rw [pageValues, decimal]
    exact fun hnil => absurd (List.map_eq_nil_iff.mp hnil) Nat.toDigits_ne_nil

/-- With `$zeros` before `$url` the slots are filled for every URL. -/
theorem fillPage_pageValues_of_order {ps : PageTemplate} (env : Env) (ip : ClientIp) {t : Int64}
    (url : Bytes) (hps : ps.Clear) (horder : exposed .zeros .url ps = [])
    (htime : (validityTimeText t).length < 30) :
    fillPage ps.source (M.pageValues env ip.str t url) =
      render (M.pageValues env ip.str t url) ps := by
  refine (M.fillPage_pageValues_iff ip hps htime).mpr ?_
  rw [horder, render_nil, List.infix_nil]
  decide

/-- The last branch of `generate_html` fills the page of the challenge. -/
theorem generatePage_eq (env : Env) (ip : ClientIp) (t : Int64) (url : Bytes)
    (d : ChallengerExtendedResponse) (w : World) :
    ∃ w', M.generatePage env ip.str t url d w =
      .ok (fillPage d.respondingChallenge.challengeStream (M.pageValues env ip.str t url),
        d, w') := by
  rw [generatePage]
  dsimp only
  rw [generateCookie_page, ok_bind]
  exact ⟨_, rfl⟩

variable {M} {env : Env} {parts : TransactionParts} {w w' : World}
  {d : ChallengerExtendedResponse} {body : Bytes}

/-- A response that is not to a captcha request is the page. -/
theorem generateResponse_page (w : World) (hban : d.bannedIp = false) (halt : d.alternativeUrl = [])
    (hplain : isCaptchaRequest parts = false) :
    ∃ w', M.generateResponse env parts d w =
      .ok (fillPage d.respondingChallenge.challengeStream (M.pageValues env parts.ip.str
        (timeValidity env d.respondingChallenge) parts.urlWithHost), d, w') := by
  rw [isCaptchaRequest, Bool.or_eq_false_iff] at hplain
  rw [generateResponse, hban, if_neg Bool.false_ne_true, if_pos halt, generateHtml, hplain.1,
    if_neg Bool.false_ne_true, hplain.2, if_neg Bool.false_ne_true]
  exact M.generatePage_eq env parts.ip _ _ d w

/-- The body of a transaction that answers with a page. -/
theorem transaction_page (h : M.transaction env parts w = .ok (.iRespond d, some body, w'))
    (hban : d.bannedIp = false) (hplain : isCaptchaRequest parts = false) :
    body = fillPage d.respondingChallenge.challengeStream (M.pageValues env parts.ip.str
      (timeValidity env d.respondingChallenge) parts.urlWithHost) := by
  obtain ⟨r, v, hreq, hloop⟩ := M.onHttpRequest_loop env parts w
  rw [transaction, hreq, ok_bind] at h
  cases r with
  | goAheadNoComment => cases h
  | serveImmediatelyDontCache => cases h
  | serveFresh => cases h
  | iRespond e =>
      dsimp only at h
      cases hbanned : e.bannedIp with
      | true =>
          rw [generateResponse, hbanned, if_pos rfl, ok_bind] at h
          cases h
          rw [hban] at hbanned
          cases hbanned
      | false =>
          have halt : e.alternativeUrl = [] := by
            cases hcs : M.challengesToRun env parts with
            | none =>
                rw [hcs] at hloop
                cases hloop.1
            | some cs =>
                rw [hcs] at hloop
                exact loop_alternativeUrl hloop e rfl
          obtain ⟨u, hpage⟩ := generateResponse_page (M := M) v hbanned halt hplain
          rw [hpage, ok_bind] at h
          cases h
          rfl

/-- In any world, a page shows the time, the token, the URL and the number in their places of the
template exactly when the URL and what follows it do not bring `$zeros` before its place. -/
theorem transaction_page_iff (h : M.transaction env parts w = .ok (.iRespond d, some body, w'))
    (hban : d.bannedIp = false) (hplain : isCaptchaRequest parts = false) {ps : PageTemplate}
    (hps : ps.Clear) (hstream : d.respondingChallenge.challengeStream = ps.source)
    (htime : (validityTimeText (timeValidity env d.respondingChallenge)).length < 30) :
    body = render (M.pageValues env parts.ip.str (timeValidity env d.respondingChallenge)
        parts.urlWithHost) ps ↔
      ¬ bytes "$zeros" <:+: render (M.pageValues env parts.ip.str
        (timeValidity env d.respondingChallenge) parts.urlWithHost) (exposed .zeros .url ps) := by
  rw [transaction_page h hban hplain, hstream]
  exact M.fillPage_pageValues_iff parts.ip hps htime

/-- The data with which the challenger responds. -/
def respondedWith : Response → Option ChallengerExtendedResponse
  | .iRespond d => some d
  | .goAheadNoComment => none
  | .serveImmediatelyDontCache => none
  | .serveFresh => none

/-- A transaction that responds with such data. -/
theorem exists_of_respondedWith {x : Except Fault (Response × Option Bytes × World)}
    {p : ChallengerExtendedResponse → Bool}
    (h : x.toOption.any (fun out => (respondedWith out.1).any p && out.2.1.isSome) = true) :
    ∃ d body w', x = .ok (.iRespond d, some body, w') ∧ p d = true := by
  cases x with
  | error fault => cases h
  | ok out =>
      obtain ⟨r, body, w'⟩ := out
      have hout : ((respondedWith r).any p && body.isSome) = true := h
      rw [Bool.and_eq_true] at hout
      obtain ⟨body, rfl⟩ := Option.isSome_iff_exists.mp hout.2
      cases r with
      | iRespond d => exact ⟨d, body, w', rfl, hout.1⟩
      | goAheadNoComment => cases hout.1
      | serveImmediatelyDontCache => cases hout.1
      | serveFresh => cases hout.1

/-- The lines of a proof of work that are filled in. -/
def samplePage : PageTemplate := [
  .text (bytes "zero_count = "), .slot .zeros, .text (bytes "; challenge_token = "), .slot .token,
  .text (bytes "; expiration = "), .slot .time, .text (bytes "; assign "), .slot .url]

theorem clear_samplePage : samplePage.Clear := by
  have htexts : ∀ p ∈ samplePage, (36 : UInt8) ∉ p.render fun _ => [] := by decide +kernel
  exact ⟨fun _ hs i => unmet_of_notMem (head_name i) (htexts _ hs), by decide⟩

/-- A proof of work with this page. -/
def sampleSolver : HostChallengeSpec := { sampleSha 3 with challengeStream := samplePage.source }

/-- The URL of a request may hold the name of a slot. -/
theorem transaction_page_solver :
    ∃ d body w', (sampleChallenger [sampleSolver]).transaction (sampleEnv 100)
        (sampleParts ⟨10, 0, 0, 1⟩ (bytes "?$zeros") []) World.init =
          .ok (.iRespond d, some body, w') ∧
      body = render ((sampleChallenger []).pageValues (sampleEnv 100) (inetNtoa ⟨10, 0, 0, 1⟩) 460
        (bytes "http://example.net/?$zeros")) samplePage := by
  obtain ⟨d, body, w', hrun, hd⟩ : ∃ d body w', (sampleChallenger [sampleSolver]).transaction
      (sampleEnv 100) (sampleParts ⟨10, 0, 0, 1⟩ (bytes "?$zeros") []) World.init =
        .ok (.iRespond d, some body, w') ∧
      (!d.bannedIp && decide (d.respondingChallenge = sampleSolver)) = true :=
    exists_of_respondedWith (by decide +kernel)
  rw [Bool.and_eq_true, Bool.not_eq_true', decide_eq_true_eq] at hd
  have hiff := transaction_page_iff hrun hd.1 (by decide +kernel) clear_samplePage
    (by rw [hd.2]; rfl) (by rw [hd.2]; decide +kernel)
  rw [hd.2] at hiff
  exact ⟨d, body, w', hrun, hiff.mpr (by decide +kernel)⟩

end Challenger

end Banjax
