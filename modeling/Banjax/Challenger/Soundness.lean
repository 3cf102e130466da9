import Banjax.Challenger.Response
import Banjax.Token.Binding

/-!
# Captcha soundness

Runs of visits of any clients to any hosts, at challengers that share one key.  A
client that gets past a captcha should have solved one.

Tokens leave the challenger in three places (`Origin`).  The image of a captcha comes
with a token over the text of the captcha, and the right answer and the page of a
challenge come with a token over no text.  The last two are the same, so a token from
a page opens a captcha like one from an answer.  And a token is bound to the bytes of
its address and text, not to where one ends and the other begins (`Recut`), so an
answer that starts with digits can turn a token of one address into one of another.

`captcha_sound` says that there is no third way: when no client does the second of these
things, and the first only after a right answer, a captcha is passed by clients that have
solved one.  The MAC is assumed not to be forged (`Unforged`).
-/

namespace Banjax

open Lib

/-! ## Assumptions on a visit -/

/-- The challenger of the visit works with the key. -/
structure Uses (C : Crypto) (key : Vector UInt8 32) (x : Visit) : Prop where
  crypto : x.challenger.crypto = C
  hashedKey : x.challenger.hashedKey = key

/-- The text behind `__validate/`, or nothing. -/
def Visit.answer (x : Visit) : Bytes := Challenger.answerOf x.parts.urlWithHost

/-- The visit carries the token with the time, for the address and the text. -/
def Visit.Carries (C : Crypto) (key : Vector UInt8 32) (x : Visit) (t : Int64)
    (ip captcha : Bytes) : Prop :=
  Challenger.presented x.env x.parts =
    some (tokenBytes (C.hmacSha1 key (message t ip captcha)) t)

instance (C : Crypto) (key : Vector UInt8 32) (x : Visit) (t : Int64) (ip captcha : Bytes) :
    Decidable (x.Carries C key t ip captcha) := inferInstanceAs (Decidable (_ = _))

/-- A MAC that is right for what the visit is checked against has been sent before,
and for the same message. -/
def Unforged (C : Crypto) (key : Vector UInt8 32) (w : World) (x : Visit) : Prop :=
  ∀ answer ∈ [[], x.answer], ∀ t, x.Carries C key t x.parts.ip.str answer →
    ∃ o ip captcha, Event.token o t ip captcha ∈ w.log ∧
      message t ip captcha = message t x.parts.ip.str answer

/-- The token of the visit is accepted: at a captcha challenge, or together with an answer. -/
inductive Visit.PassesCheck (x : Visit) : Prop where
  | captcha {cs : List HostChallengeSpec} {c : HostChallengeSpec} :
      x.challenger.challengesToRun x.env x.parts = some cs → c ∈ cs →
      c.challengeType = .captcha → x.challenger.accepts x.env [] x.parts c = true → PassesCheck x
  | answer {c : HostChallengeSpec} : Challenger.isCaptchaAnswer x.parts.urlWithHost = true →
      x.challenger.accepts x.env x.answer x.parts c = true → PassesCheck x

/-- A token for a right answer has been sent to the address. -/
def AnsweredBefore (w : World) (ip : Bytes) : Prop :=
  ∃ t, Event.token .validation t ip [] ∈ w.log

/-- The visit of a client without a right answer does not bring a token from a page that is
accepted, and its answer does not start with the rest of another address. -/
structure Proper (C : Crypto) (key : Vector UInt8 32) (w : World) (x : Visit) : Prop where
  noPageToken : x.PassesCheck → AnsweredBefore w x.parts.ip.str ∨
    ∀ t ip captcha, Event.token .page t ip captcha ∈ w.log → ¬ x.Carries C key t ip captcha
  noRecut : Challenger.isCaptchaAnswer x.parts.urlWithHost = true →
    ∀ r : Bytes, r ≠ [] → r <+: x.answer → ∀ y, x.parts.ip.str ++ r ≠ inetNtoa y

/-- The visits of the runs below. -/
structure Admissible (C : Crypto) (key : Vector UInt8 32) (w : World) (x : Visit) : Prop where
  uses : Uses C key x
  unforged : Unforged C key w x
  proper : Proper C key w x

/-! ## What a client has solved -/

/-- In the world the visit is the right answer of the client to a captcha: it carries
a token of a captcha image that was handed to the client, and its text. -/
structure Solves (C : Crypto) (key : Vector UInt8 32) (ip : Bytes) (w : World) (x : Visit) :
    Prop where
  address : x.parts.ip.str = ip
  answers : Challenger.isCaptchaUrl x.parts.urlWithHost = false ∧
    Challenger.isCaptchaAnswer x.parts.urlWithHost = true
  text : ∃ t captcha, Event.token .image t ip captcha ∈ w.log ∧ x.Carries C key t ip captcha ∧
    cStr x.answer = captcha

/-- Some visit of the run is the right answer of the client to a captcha. -/
def Solved (C : Crypto) (key : Vector UInt8 32) (Q : World → Visit → Prop) (w₀ : World)
    (xs : List Visit) (ip : Bytes) : Prop :=
  ∃ ys x zs w, xs = ys ++ x :: zs ∧ Reaches Visit.serve Q w₀ ys w ∧ Solves C key ip w x

theorem Solved.snoc {C : Crypto} {key : Vector UInt8 32} {Q : World → Visit → Prop} {w₀ : World}
    {xs : List Visit} {ip : Bytes} (h : Solved C key Q w₀ xs ip) (x : Visit) :
    Solved C key Q w₀ (xs ++ [x]) ip := by
  obtain ⟨ys, y, zs, w, rfl, hreach, hs⟩ := h
  exact ⟨ys, y, zs ++ [x], w, by simp, hreach, hs⟩

/-! ## The tokens of a transaction -/

/-- A token that a visit adds to the log. -/
inductive Adds (x : Visit) : Event → Prop where
  | image {t : Int64} {captcha : Bytes} : captcha ≠ [] → (∀ c ∈ captcha, isLetter c = true) →
      Adds x (.token .image t x.parts.ip.str captcha)
  | validation {t : Int64} {c : HostChallengeSpec} :
      Challenger.isCaptchaUrl x.parts.urlWithHost = false →
      Challenger.isCaptchaAnswer x.parts.urlWithHost = true →
      x.challenger.accepts x.env x.answer x.parts c = true →
      Adds x (.token .validation t x.parts.ip.str [])
  | page {t : Int64} : Adds x (.token .page t x.parts.ip.str [])

/-- The token events of the second log are in the first log, but for what the
predicate allows. -/
def TokensFrom (P : Event → Prop) (w w' : World) : Prop :=
  ∀ o t ip captcha, Event.token o t ip captcha ∈ w'.log →
    Event.token o t ip captcha ∈ w.log ∨ P (.token o t ip captcha)

theorem TokensFrom.trans {P : Event → Prop} {w₁ w₂ w₃ : World} (h : TokensFrom P w₁ w₂)
    (h' : TokensFrom P w₂ w₃) : TokensFrom P w₁ w₃ := by
  intro o t ip captcha hmem
  rcases h' _ _ _ _ hmem with hmem | hp
  · exact h _ _ _ _ hmem
  · exact .inr hp

section Tokens

variable {P : Event → Prop} {w w' : World}

theorem tokensFrom_log (h : ∃ es, w'.log = w.log ++ es ∧ ∀ e ∈ es, ∀ o t ip captcha,
    e ≠ Event.token o t ip captcha) : TokensFrom P w w' := by
  obtain ⟨es, hlog, hes⟩ := h
  intro o t ip captcha hmem
  rw [hlog] at hmem
  rcases List.mem_append.mp hmem with hmem | hmem
  · exact .inl hmem
  · exact absurd rfl (hes _ hmem o t ip captcha)

theorem tokensFrom_quiet (h : w.Quiet w') : TokensFrom P w w' := by
  obtain ⟨es, hlog, hrep⟩ := h.log
  refine tokensFrom_log ⟨es, hlog, ?_⟩
  rintro e he o t ip captcha rfl
  exact absurd (hrep _ he) (by simp [Event.isReport])

theorem tokensFrom_success (ip : Bytes) : TokensFrom P w (reportSuccess ip w) :=
  tokensFrom_log ⟨[.success ip], rfl, by simp⟩

theorem tokensFrom_failure (challenge : HostChallengeSpec) (parts : TransactionParts) :
    TokensFrom P w (Challenger.countFailure challenge parts w).2 := by
  rw [Challenger.countFailure]
  split
  · obtain ⟨es, hlog, hes⟩ := reportFailure_log_extends challenge parts w
    refine tokensFrom_log ⟨es, hlog, ?_⟩
    rintro e he o t ip captcha rfl
    rcases hes _ he with h | ⟨_, h⟩
    · cases h
    · cases h
  · exact tokensFrom_quiet (.refl w)

theorem tokensFrom_token {o : Origin} {t : Int64} {ip captcha : Bytes}
    (h : P (.token o t ip captcha)) : TokensFrom P w (w.emit (.token o t ip captcha)) := by
  intro o' t' ip' captcha' hmem
  rcases List.mem_append.mp hmem with hmem | hmem
  · exact .inl hmem
  · cases List.mem_singleton.mp hmem
    exact .inr h

theorem tokensFrom_succeeds {ip : Bytes} (h : Challenger.Succeeds ip w w') : TokensFrom P w w' := by
  obtain ⟨v, hq, hq'⟩ := h
  exact (tokensFrom_quiet hq).trans ((tokensFrom_success ip).trans (tokensFrom_quiet hq'))

end Tokens

/-- The loop hands out no tokens. -/
theorem loop_tokens {P : Event → Prop} {M : Challenger} {env : Env} {parts : TransactionParts}
    {cs : List HostChallengeSpec} {w w' : World} {r : Challenger.Response}
    (h : M.Loop env parts cs w r w') : TokensFrom P w w' := by
  have round : ∀ {c w out w'}, M.Round env parts c w out w' → TokensFrom P w w' := by
    intro c w out w' hround
    cases hround with
    | whiteListed _ => exact tokensFrom_quiet (.refl _)
    | skipped _ _ => exact tokensFrom_quiet (.refl _)
    | captchaRequest _ _ => exact tokensFrom_quiet (.refl _)
    | solvedCaptcha _ _ _ hs => exact tokensFrom_succeeds hs
    | solvedSha _ _ hq => exact tokensFrom_quiet hq
    | authorised _ _ hs => exact tokensFrom_succeeds hs
    | unprotected _ _ _ hq => exact tokensFrom_quiet hq
    | failed _ _ _ hq _ _ _ => exact (tokensFrom_quiet hq).trans (tokensFrom_failure _ _)
  induction h with
  | done => exact tokensFrom_success _
  | stop hround => exact round hround
  | next hround _ ih => exact (round hround).trans ih

theorem html_tokens {x : Visit} {c : HostChallengeSpec} {w w' : World}
    (h : x.challenger.Html x.env x.parts c w w') : TokensFrom (Adds x) w w' := by
  cases h with
  | image _ =>
      refine tokensFrom_token (.image ?_ fun c hc => captchaText_isLetter hc)
      exact List.ne_nil_of_length_pos (by rw [length_captchaText]; decide)
  | validated hu ha hacc hq =>
      exact (tokensFrom_quiet hq).trans (tokensFrom_token (.validation hu ha hacc))
  | rejected _ _ _ hq => exact (tokensFrom_quiet hq).trans (tokensFrom_failure _ _)
  | page _ _ => exact tokensFrom_token .page
  | plainPage _ _ => exact tokensFrom_quiet (.refl w)

/-- A visit hands out the tokens that `Adds` lists. -/
theorem serve_tokens {x : Visit} {w w' : World} (h : x.serve w = .ok w') :
    TokensFrom (Adds x) w w' := by
  cases Visit.served_of_serve h with
  | unchallenged _ => exact tokensFrom_quiet (.refl w)
  | letThrough _ hl _ => exact loop_tokens hl
  | banned _ hl _ => exact loop_tokens hl
  | answered _ hl _ hhtml => exact (loop_tokens hl).trans (html_tokens hhtml)

/-! ## Cuts of a message -/

theorem isAddressByte_not_isLetter {c : UInt8} (h : isAddressByte c = true) :
    isLetter c = false := by
  simp only [isAddressByte, isDigit, isLetter, Bool.or_eq_true, Bool.and_eq_true,
    decide_eq_true_eq, Bool.and_eq_false_iff, decide_eq_false_iff_not, UInt8.not_le] at *
  rcases h with ⟨_, h⟩ | rfl
  · exact .inl (UInt8.lt_of_le_of_lt h (by decide))
  · exact .inl (by decide)

/-- The bytes of a token that fit another address and an answer: either they are cut
the same way, or the answer starts with the rest of the address of the token. -/
theorem cut_cases {a b : ClientIp} {captcha answer : Bytes}
    (hletters : ∀ c ∈ captcha, isLetter c = true) (h : b.str ++ captcha = a.str ++ answer) :
    (b.str = a.str ∧ captcha = answer) ∨ ∃ r, r ≠ [] ∧ r <+: answer ∧ a.str ++ r = b.str := by
  rcases (append_eq_append_iff_recut ..).mp h with ⟨hip, hcaptcha⟩ | ⟨r, hr, hcut⟩
  · exact .inl ⟨hip.symm, hcaptcha.symm⟩
  · rcases hcut with ⟨hb, hanswer⟩ | ⟨ha, hcaptcha⟩
    · exact .inr ⟨r, hr, ⟨captcha, hanswer.symm⟩, hb.symm⟩
    · -- The address of the visit does not end in letters of the captcha.
      obtain ⟨c, r, rfl⟩ := List.exists_cons_of_ne_nil hr
      have haddr := a.isAddressByte_of_mem (c := c) (by rw [ha]; simp)
      have hletter := hletters c (by rw [hcaptcha]; simp)
      rw [isAddressByte_not_isLetter haddr] at hletter
      cases hletter

/-- The longer address of such a cut is printed. -/
theorem printed_of_ne_nil {a b : ClientIp} {r : Bytes} (hr : r ≠ []) (h : a.str ++ r = b.str) :
    ∃ y, a.str ++ r = inetNtoa y := by
  rcases b.printed with hnil | ⟨y, hy⟩
  · rw [hnil] at h
    exact absurd (List.append_eq_nil_iff.mp h).2 hr
  · exact ⟨y, h.trans hy⟩

/-! ## The invariant -/

section Runs

variable {C : Crypto} {key : Vector UInt8 32} {w₀ : World}

/-- What is known of a token that has been handed out: it is for a client address, the
token of an image is over letters, the others are over nothing, and the one of an
answer went to a client that has solved a captcha. -/
inductive Known (C : Crypto) (key : Vector UInt8 32) (w₀ : World) (xs : List Visit) :
    Origin → Bytes → Bytes → Prop where
  | image {b : ClientIp} {captcha : Bytes} : captcha ≠ [] → (∀ c ∈ captcha, isLetter c = true) →
      Known C key w₀ xs .image b.str captcha
  | validation {b : ClientIp} : Solved C key (Admissible C key) w₀ xs b.str →
      Known C key w₀ xs .validation b.str []
  | page {b : ClientIp} : Known C key w₀ xs .page b.str []

/-- The token of an answer. -/
theorem Known.solved {xs : List Visit} {ip captcha : Bytes}
    (h : Known C key w₀ xs .validation ip captcha) :
    Solved C key (Admissible C key) w₀ xs ip := by
  cases h with
  | validation hs => exact hs

/-- All tokens of the log are known. -/
def AllKnown (C : Crypto) (key : Vector UInt8 32) (w₀ : World) (xs : List Visit) (w : World) :
    Prop :=
  ∀ o t ip captcha, Event.token o t ip captcha ∈ w.log → Known C key w₀ xs o ip captcha

theorem Known.snoc {xs : List Visit} {o : Origin} {ip captcha : Bytes}
    (h : Known C key w₀ xs o ip captcha) (x : Visit) : Known C key w₀ (xs ++ [x]) o ip captcha := by
  cases h with
  | image hne hletters => exact .image hne hletters
  | validation hs => exact .validation (hs.snoc x)
  | page => exact .page

/-- A token that is accepted with an answer comes from the log, and its bytes are those
of the address and the answer. -/
theorem accepted_token {w : World} {x : Visit} {answer : Bytes} {c : HostChallengeSpec}
    (hx : Admissible C key w x) (hanswer : answer ∈ [[], x.answer])
    (hacc : x.challenger.accepts x.env answer x.parts c = true) :
    ∃ o t ip captcha, Event.token o t ip captcha ∈ w.log ∧ x.Carries C key t ip captcha ∧
      cStr ip ++ cStr captcha = x.parts.ip.str ++ cStr answer := by
  obtain ⟨t, _, hpresented⟩ := x.challenger.accepts_presented hacc
  rw [hx.uses.crypto, hx.uses.hashedKey] at hpresented
  obtain ⟨o, ip, captcha, hmem, hmsg⟩ := hx.unforged answer hanswer t hpresented
  refine ⟨o, t, ip, captcha, hmem, ?_, ?_⟩
  · rw [Visit.Carries, hmsg]
    exact hpresented
  · rw [(message_inj hmsg).2, x.parts.ip.cStr_str]

/-- Where an accepted token comes from, unless it is from a page or cut anew: it is that
of an image with the answer as its text, or the client has solved a captcha before. -/
theorem accepted_cases {xs : List Visit} {w : World} {x : Visit} {answer : Bytes}
    {c : HostChallengeSpec} (hknown : AllKnown C key w₀ xs w) (hx : Admissible C key w x)
    (hanswer : answer ∈ [[], x.answer])
    (hacc : x.challenger.accepts x.env answer x.parts c = true)
    (hwhole : ∀ r : Bytes, r ≠ [] → r <+: cStr answer → ∀ y, x.parts.ip.str ++ r ≠ inetNtoa y)
    (hpage : AnsweredBefore w x.parts.ip.str ∨
      ∀ t ip captcha, Event.token .page t ip captcha ∈ w.log → ¬ x.Carries C key t ip captcha) :
    (∃ t captcha, Event.token .image t x.parts.ip.str captcha ∈ w.log ∧
        x.Carries C key t x.parts.ip.str captcha ∧ captcha ≠ [] ∧ cStr answer = captcha) ∨
      Solved C key (Admissible C key) w₀ xs x.parts.ip.str := by
  obtain ⟨o, t, ip, captcha, hmem, hcarries, hbytes⟩ := accepted_token hx hanswer hacc
  have hcut : ∀ (b : ClientIp) (r : Bytes), r ≠ [] → r <+: cStr answer →
      x.parts.ip.str ++ r ≠ b.str := by
    intro b r hr hfront heq
    obtain ⟨y, hy⟩ := printed_of_ne_nil hr heq
    exact hwhole r hr hfront y hy
  cases hknown o t ip captcha hmem with
  | @image b captcha hne hletters =>
      have hzero : (0 : UInt8) ∉ captcha := fun h0 => absurd (hletters 0 h0) (by decide)
      rw [b.cStr_str, cStr_of_zero_notMem hzero] at hbytes
      rcases cut_cases hletters hbytes with ⟨hb, htext⟩ | ⟨r, hr, hfront, heq⟩
      · rw [hb] at hmem hcarries
        exact .inl ⟨t, captcha, hmem, hcarries, hne, htext.symm⟩
      · exact absurd heq (hcut b r hr hfront)
  | @validation b hs =>
      rw [b.cStr_str, cStr_nil] at hbytes
      rcases cut_cases (by simp) hbytes with ⟨hb, _⟩ | ⟨r, hr, hfront, heq⟩
      · exact .inr (hb ▸ hs)
      · exact absurd heq (hcut b r hr hfront)
  | page =>
      rcases hpage with ⟨t', hanswered⟩ | hnone
      · exact .inr (hknown _ _ _ _ hanswered).solved
      · exact absurd hcarries (hnone _ _ _ hmem)

/-- A client whose answer is accepted has solved a captcha, now or before. -/
theorem solved_of_answer {xs : List Visit} {w : World} {x : Visit} {c : HostChallengeSpec}
    (hreach : Reaches Visit.serve (Admissible C key) w₀ xs w) (hknown : AllKnown C key w₀ xs w)
    (hx : Admissible C key w x) (hu : Challenger.isCaptchaUrl x.parts.urlWithHost = false)
    (ha : Challenger.isCaptchaAnswer x.parts.urlWithHost = true)
    (hacc : x.challenger.accepts x.env x.answer x.parts c = true) :
    Solved C key (Admissible C key) w₀ (xs ++ [x]) x.parts.ip.str := by
  have hwhole : ∀ r : Bytes, r ≠ [] → r <+: cStr x.answer → ∀ y,
      x.parts.ip.str ++ r ≠ inetNtoa y := fun r hr hfront =>
    hx.proper.noRecut ha r hr (hfront.trans (List.takeWhile_prefix _))
  rcases accepted_cases hknown hx (by simp) hacc hwhole (hx.proper.noPageToken (.answer ha hacc)) with
    ⟨t, captcha, hmem, hcarries, _, htext⟩ | hs
  · exact ⟨xs, x, [], w, rfl, hreach, rfl, ⟨hu, ha⟩, t, captcha, hmem, hcarries, htext⟩
  · exact hs.snoc x

theorem allKnown_step {xs : List Visit} {w w' : World} {x : Visit}
    (hreach : Reaches Visit.serve (Admissible C key) w₀ xs w) (hknown : AllKnown C key w₀ xs w)
    (hx : Admissible C key w x) (h : x.serve w = .ok w') : AllKnown C key w₀ (xs ++ [x]) w' := by
  intro o t ip captcha hmem
  rcases serve_tokens h o t ip captcha hmem with hold | hnew
  · exact (hknown o t ip captcha hold).snoc x
  · cases hnew with
    | image hne hletters => exact .image hne hletters
    | validation hu ha hacc => exact .validation (solved_of_answer hreach hknown hx hu ha hacc)
    | page => exact .page

theorem allKnown_of_reaches (hstart : w₀.log = []) {xs : List Visit} {w : World}
    (h : Reaches Visit.serve (Admissible C key) w₀ xs w) : AllKnown C key w₀ xs w := by
  refine h.invariant (P := AllKnown C key w₀) ?_ ?_
  · intro o t ip captcha hmem
    rw [hstart] at hmem
    cases hmem
  · intro ys y a b hreach hknown hy hs
    exact allKnown_step hreach hknown hy hs

/-- In a run in which no client without a right answer brings a page token that is accepted
and no answer starts with the rest of an address, a client that passes a captcha
challenge has answered a captcha of its own before. -/
theorem captcha_sound (hstart : w₀.log = []) {xs : List Visit} {w : World}
    (h : Reaches Visit.serve (Admissible C key) w₀ xs w) {x : Visit} (hx : Admissible C key w x)
    {cs : List HostChallengeSpec} {c : HostChallengeSpec}
    (hcs : x.challenger.challengesToRun x.env x.parts = some cs) (hc : c ∈ cs)
    (htype : c.challengeType = .captcha)
    (hpass : x.challenger.accepts x.env [] x.parts c = true) :
    Solved C key (Admissible C key) w₀ xs x.parts.ip.str := by
  have hknown := allKnown_of_reaches hstart h
  have hwhole : ∀ r : Bytes, r ≠ [] → r <+: cStr [] → ∀ y, x.parts.ip.str ++ r ≠ inetNtoa y :=
    fun r hr hfront => absurd (List.prefix_nil.mp hfront) hr
  rcases accepted_cases hknown hx (by simp) hpass hwhole
      (hx.proper.noPageToken (.captcha hcs hc htype hpass)) with
    ⟨_, captcha, _, _, hne, htext⟩ | hs
  · exact absurd htext.symm hne
  · exact hs

end Runs

/-- A visit that brings a token from the log does not forge, as far as the MAC tells
the message from those it is checked against. -/
theorem unforged_of_replay {C : Crypto} {key : Vector UInt8 32} {w : World} {x : Visit}
    {o : Origin} {t : Int64} {ip captcha : Bytes} (hmem : Event.token o t ip captcha ∈ w.log)
    (hcarries : x.Carries C key t ip captcha)
    (hinj : ∀ answer ∈ [[], x.answer],
      C.hmacSha1 key (message t ip captcha) = C.hmacSha1 key (message t x.parts.ip.str answer) →
      message t ip captcha = message t x.parts.ip.str answer) : Unforged C key w x := by
  intro answer hanswer t' hcarries'
  rw [Visit.Carries, hcarries] at hcarries'
  obtain ⟨hmac, rfl⟩ := tokenBytes_inj (Option.some.inj hcarries')
  exact ⟨o, ip, captcha, hmem, hinj answer hanswer hmac⟩

theorem unforged_of_no_cookie {C : Crypto} {key : Vector UInt8 32} (w : World) {x : Visit}
    (h : Challenger.presented x.env x.parts = none) : Unforged C key w x := by
  intro answer _ t hcarries
  rw [Visit.Carries, h] at hcarries
  cases hcarries

/-- An answer of letters does not start with the rest of an address. -/
theorem letters_not_recut {ip answer : Bytes} (h : answer.all isLetter = true) (r : Bytes)
    (hr : r ≠ []) (hfront : r <+: answer) (y : InAddr) : ip ++ r ≠ inetNtoa y := by
  intro heq
  obtain ⟨c, r, rfl⟩ := List.exists_cons_of_ne_nil hr
  have hletter := List.all_eq_true.mp h c (hfront.subset (List.mem_cons_self ..))
  have haddr := List.all_eq_true.mp (inetNtoa_all y) c (by rw [← heq]; simp)
  rw [isAddressByte_not_isLetter haddr] at hletter
  cases hletter

/-! ## A captcha solved -/

/-- A visit of one client to a captcha at `example.net`. -/
def sampleCaptchaVisit (now : Int64) (path cookie : Bytes) : Visit :=
  ⟨sampleChallenger [sampleCaptcha 3], sampleEnv now, sampleParts ⟨10, 0, 0, 1⟩ path cookie⟩

/-- The client asks for the image. -/
def sampleImageVisit : Visit := sampleCaptchaVisit 100 (bytes "__captcha") []

/-- The client sends the answer. -/
def sampleAnswerVisit : Visit :=
  sampleCaptchaVisit 110 (bytes "__validate/aaaaa")
    (sampleCookie 220 (bytes "10.0.0.1") (bytes "aaaaa"))

/-- The client comes back with the token it got for the answer. -/
def sampleReturnVisit : Visit :=
  sampleCaptchaVisit 120 [] (sampleCookie 470 (bytes "10.0.0.1") [])

theorem admissible_sampleImageVisit (w : World) :
    Admissible prefixCrypto zeroKey w sampleImageVisit := by
  have hnone : Challenger.presented sampleImageVisit.env sampleImageVisit.parts = none := by
    decide +kernel
  refine ⟨⟨rfl, rfl⟩, unforged_of_no_cookie w hnone, ?_, ?_⟩
  · refine fun _ => .inr fun t ip captcha _ hcarries => ?_
    cases hnone.symm.trans hcarries
  · intro ha
    exact absurd ha (by decide +kernel)

theorem admissible_sampleAnswerVisit {w : World}
    (hw : w.log = [.token .image 220 (bytes "10.0.0.1") (bytes "aaaaa")]) :
    Admissible prefixCrypto zeroKey w sampleAnswerVisit := by
  have hmem : Event.token .image 220 (bytes "10.0.0.1") (bytes "aaaaa") ∈ w.log := by simp [hw]
  refine ⟨⟨rfl, rfl⟩, unforged_of_replay hmem (by decide +kernel) (by decide +kernel), ?_, ?_⟩
  · refine fun _ => .inr fun t ip captcha hpage => ?_
    simp [hw] at hpage
  · intro _
    exact letters_not_recut (by decide +kernel)

theorem admissible_sampleReturnVisit {w : World}
    (hw : w.log = [.token .image 220 (bytes "10.0.0.1") (bytes "aaaaa"),
      .token .validation 470 (bytes "10.0.0.1") []]) :
    Admissible prefixCrypto zeroKey w sampleReturnVisit := by
  have hmem : Event.token .validation 470 (bytes "10.0.0.1") [] ∈ w.log := by simp [hw]
  refine ⟨⟨rfl, rfl⟩, unforged_of_replay hmem (by decide +kernel) (by decide +kernel), ?_, ?_⟩
  · refine fun _ => .inr fun t ip captcha hpage => ?_
    simp [hw] at hpage
  · intro ha
    exact absurd ha (by decide +kernel)

/-- The return of the client that has asked for the image and sent its text. -/
theorem captcha_sound_answered :
    Solved prefixCrypto zeroKey (Admissible prefixCrypto zeroKey) World.init
      [sampleImageVisit, sampleAnswerVisit] sampleReturnVisit.parts.ip.str := by
  have hfirst : ((List.foldlM Visit.serve World.init [sampleImageVisit]).toOption.any fun w =>
      decide (w.log = [.token .image 220 (bytes "10.0.0.1") (bytes "aaaaa")])) = true := by
    decide +kernel
  obtain ⟨w, hreach, hw⟩ := Reaches.of_check Visit.serve [sampleImageVisit, sampleAnswerVisit]
    (s := World.init) (Q := Admissible prefixCrypto zeroKey)
    (p := fun w => decide (w.log = [.token .image 220 (bytes "10.0.0.1") (bytes "aaaaa"),
      .token .validation 470 (bytes "10.0.0.1") []]))
    (by
      intro ys x zs w hcut hrun
      rcases List.append_eq_cons_iff.mp hcut.symm with ⟨rfl, hx⟩ | ⟨us, rfl, hrest⟩
      · rw [(List.cons.inj hx).1]
        exact admissible_sampleImageVisit w
      · rcases List.append_eq_cons_iff.mp hrest.symm with ⟨rfl, hx⟩ | ⟨vs, rfl, hrest⟩
        · rw [hrun] at hfirst
          rw [(List.cons.inj hx).1]
          exact admissible_sampleAnswerVisit (of_decide_eq_true hfirst)
        · simp at hrest)
    (by decide +kernel)
  exact captcha_sound rfl hreach (admissible_sampleReturnVisit (of_decide_eq_true hw))
    (c := sampleCaptcha 3) rfl (by decide) rfl (by decide +kernel)

/-! ## A page token at a captcha -/

/-- A challenger with a proof of work at `example.net` and a captcha at `shop.net`. -/
def sampleTwoHosts : Challenger :=
  { sampleChallenger [] with
    hostChallengesStatic := AList.insert (bytes "shop.net") [sampleCaptcha 3]
      (AList.insert (bytes "example.net") [sampleSha 3] ∅) }

/-- A first visit to the proof of work, which is answered with its page. -/
def sampleShaVisit : Visit := ⟨sampleTwoHosts, sampleEnv 100, sampleParts ⟨10, 0, 0, 1⟩ [] []⟩

/-- A visit to the captcha with the token of that page. -/
def sampleShopVisit : Visit where
  challenger := sampleTwoHosts
  env := sampleEnv 101
  parts := { sampleParts ⟨10, 0, 0, 1⟩ [] (sampleCookie 460 (bytes "10.0.0.1") []) with
    host := bytes "shop.net" }

/-- A client that has only seen the page of a proof of work gets past a captcha. -/
theorem page_token_passes_captcha :
    ∃ w, Reaches Visit.serve (fun w x => Uses prefixCrypto zeroKey x ∧
        Unforged prefixCrypto zeroKey w x) World.init [sampleShaVisit] w ∧
      Uses prefixCrypto zeroKey sampleShopVisit ∧
      Unforged prefixCrypto zeroKey w sampleShopVisit ∧
      sampleShopVisit.challenger.challengesToRun sampleShopVisit.env sampleShopVisit.parts =
        some [sampleCaptcha 3] ∧
      sampleShopVisit.challenger.accepts sampleShopVisit.env [] sampleShopVisit.parts
        (sampleCaptcha 3) = true ∧
      ¬ Solved prefixCrypto zeroKey (fun w x => Uses prefixCrypto zeroKey x ∧
        Unforged prefixCrypto zeroKey w x) World.init [sampleShaVisit] (bytes "10.0.0.1") := by
  obtain ⟨w, hreach, hmem⟩ := Reaches.of_check Visit.serve [sampleShaVisit] (s := World.init)
    (p := fun w => decide (Event.token .page 460 (bytes "10.0.0.1") [] ∈ w.log))
    (Q := fun w x => Uses prefixCrypto zeroKey x ∧ Unforged prefixCrypto zeroKey w x)
    (by
      intro ys x zs w hcut _
      have hx : x = sampleShaVisit := List.mem_singleton.mp (by rw [hcut]; simp)
      subst hx
      exact ⟨⟨rfl, rfl⟩, unforged_of_no_cookie w (by decide +kernel)⟩)
    (by decide +kernel)
  refine ⟨w, hreach, ⟨rfl, rfl⟩, ?_, by decide +kernel, by decide +kernel, ?_⟩
  · exact unforged_of_replay (of_decide_eq_true hmem) (by decide +kernel) (by decide +kernel)
  · rintro ⟨ys, x, zs, _, hcut, _, hsolves⟩
    have hx : x = sampleShaVisit := List.mem_singleton.mp (by rw [hcut]; simp)
    subst hx
    exact absurd hsolves.answers.2 (by decide +kernel)

end Banjax
