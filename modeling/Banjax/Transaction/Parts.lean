import Banjax.Transaction.BotSniffer

/-!
# What a call of `retrieve_parts` leaves

A call asks the server in many places, and each of them may be refused: the address, the URL of
the header in front and in the call for the host, the URL once more for `URL_WITH_HOST`, the
fields.  `Answers` has the answers place by place, and `Retrieved` says what becomes of every
part.

Every branch leaves an entry for its part, also when it is refused, with one exception: when
`TSUrlHostSet` fails, there is none for `URL_WITH_HOST`, and its flag is set all the same.  In
all runs without that the filters find everything that was ever asked for
(`parts_present_iff`).
-/

namespace Banjax

open Lib

/-- The answers of the server during one call of `retrieve_parts`. -/
structure Answers where
  /-- For the header, the address, the URL and the fields. -/
  outer : Ats
  /-- In the call for the host. -/
  inner : Ats
  /-- For `URL_WITH_HOST`. -/
  rewrite : Ats

namespace Ats

/-- What the branch for `URL` and `PROTOCOL` offers. -/
def urlPart (ats : Ats) : TransactionPart → Option Bytes
  | .url => some ats.urlAndProtocol.1
  | .protocol => some ats.urlAndProtocol.2
  | _ => none

/-- What the branches after the one for `URL_WITH_HOST` offer. -/
def field (ats : Ats) : TransactionPart → Option Bytes
  | .method => some (ats.method.getD [])
  | .host => some ats.hostText
  | .ua => some (ats.userAgent.getD [])
  | .cookie => some (ats.cookie.getD [])
  | _ => none

/-- What the branch for `URL_WITH_HOST` offers.  `cur_trans_parts[HOST]` makes an entry where
there is none. -/
def rewritten (ats : Ats) (host : Bytes) : TransactionPart → Option Bytes
  | .urlWithHost =>
      if ats.hdrUrl then
        if ats.urlHostSet host then some ((ats.urlStringOf host).getD []) else none
      else some []
  | .host => if ats.hdrUrl then some [] else none
  | _ => none

end Ats

namespace TransactionMuncher

/-- The branch for `URL_WITH_HOST` and the call in it. -/
def retrieveRewritten (a : Answers) (parts : BitVec 64) (m : TransactionMuncher) :
    Except PartsError TransactionMuncher :=
  if has parts .urlWithHost then
    (retrieveHostAndUrl a.inner m).map (retrieveUrlWithHost a.rewrite)
  else .ok m

/-- `retrieve_parts`, where each place has its own answers. -/
def retrievePartsFrom (a : Answers) (requestedLogParts : BitVec 64) (m : TransactionMuncher) :
    Except PartsError TransactionMuncher :=
  let parts := missing m.validParts requestedLogParts
  if parts = 0#64 then .ok m
  else do
    let m ← m.needRequestHeader a.outer
    let m := m.retrieveAddress a.outer parts
    let m ← m.retrieveRewritten a parts
    let m := m.retrieveFields a.outer parts
    .ok (m.addValid requestedLogParts).updateValidityStatus

/-- With the same answers everywhere it is the call of the events. -/
theorem retrievePartsFrom_same (ats : Ats) (requested : BitVec 64) (m : TransactionMuncher) :
    retrievePartsFrom ⟨ats, ats, ats⟩ requested m = retrieveParts ats requested m := by
  simp only [retrievePartsFrom, retrieveParts, retrieveWith, retrieveRewritten]
  cases has (missing m.validParts requested) .urlWithHost <;> rfl

/-! ## The branches -/

section Branches

variable (ats : Ats) (parts : BitVec 64) (m : TransactionMuncher) (p : TransactionPart)

/-- What was there first stays. -/
theorem insert_part_or (q : TransactionPart) (text : Bytes) :
    (m.insert q text).part p = (m.part p).or (if p = q then some text else none) := by
  rw [insert_part]
  split
  · next h =>
    subst h
    cases m.part p <;> rfl
  · rw [Option.or_none]

theorem when_insert_part_or (flag : Bool) (q : TransactionPart) (text : Bytes) :
    (m.when flag (·.insert q text)).part p =
      (m.part p).or (if flag && decide (p = q) then some text else none) := by
  cases flag with
  | false => exact (Option.or_none).symm
  | true => simpa using insert_part_or m p q text

theorem retrieveUrl_part : (m.retrieveUrl ats).part p = (m.part p).or (ats.urlPart p) := by
  rw [retrieveUrl, insert_part_or, insert_part_or, Option.or_assoc]
  cases p <;> rfl

theorem retrieveAddress_ip :
    (m.retrieveAddress ats parts).part .ip =
      if has parts .ip then some ats.clientIp.str else m.part .ip := by
  simp [retrieveAddress, retrieveUrl]

theorem retrieveAddress_part (hp : p ≠ .ip) :
    (m.retrieveAddress ats parts).part p =
      (m.part p).or (if has parts .url || has parts .protocol then ats.urlPart p else none) := by
  rw [retrieveAddress, when_part, retrieveUrl_part]
  have hsame : (m.when (has parts .ip) (·.set .ip ats.clientIp.str)).part p = m.part p := by
    simp [hp]
  rw [hsame]
  split
  · rfl
  · rw [Option.or_none]

theorem retrieveFields_part :
    (m.retrieveFields ats parts).part p =
      (m.part p).or (if has parts p then ats.field p else none) := by
  simp only [retrieveFields, when_insert_part_or, Option.or_assoc]
  cases p <;> simp [Ats.field]

theorem retrieveUrlWithHost_part :
    (m.retrieveUrlWithHost ats).part p =
      (m.part p).or (ats.rewritten ((m.part .host).getD []) p) := by
  have hhost : ((m.insert .host []).part .host).getD [] = (m.part .host).getD [] := by
    simp
  simp only [retrieveUrlWithHost, hhost]
  cases hurl : ats.hdrUrl with
  | false => cases p <;> simp [Ats.rewritten, hurl]
  | true =>
      cases hset : ats.urlHostSet ((m.part .host).getD []) <;>
      · simp only [if_true, if_false, Bool.false_eq_true, insert_part_or, Option.or_assoc]
        cases p <;> simp [Ats.rewritten, hurl, hset]

end Branches

/-! ## The call for the host -/

theorem has_hostAndUrl (p : TransactionPart) :
    has hostAndUrl p = (decide (p = .host) || decide (p = .url)) := by
  cases p <;> rfl

/-- What the inner call offers. -/
def innerOffer (ats : Ats) (valid : BitVec 64) (p : TransactionPart) : Option Bytes :=
  (if !has valid .url then ats.urlPart p else none).or
    (if !has valid .host && decide (p = .host) then some ats.hostText else none)

/-- The inner call does not fail, as the header is there. -/
theorem retrieveHostAndUrl_part (ats : Ats) {m : TransactionMuncher}
    (hheader : m.requestHeader = true) :
    ∃ m', retrieveHostAndUrl ats m = .ok m' ∧
      (∀ p, m'.part p = (m.part p).or (innerOffer ats m.validParts p)) ∧
      ∀ p, has m'.validParts p = (has m.validParts p || has hostAndUrl p) := by
  let parts := missing m.validParts hostAndUrl
  by_cases hnone : parts = 0#64
  · -- Both parts are valid, and nothing is done.
    have hvalid : ∀ p, has hostAndUrl p = true → has m.validParts p = true :=
      fun p hp => has_of_missing_eq_zero hnone hp
    refine ⟨m, by rw [retrieveHostAndUrl, retrieveWith, if_pos hnone], fun p => ?_, fun p => ?_⟩
    · rw [innerOffer, hvalid .url rfl, hvalid .host rfl]
      exact (Option.or_none).symm
    · cases hp : has hostAndUrl p with
      | false => rw [Bool.or_false]
      | true => rw [hvalid p hp, Bool.true_or]
  · let fetched := (m.holdRequest.retrieveAddress ats parts).retrieveFields ats parts
    have hbit : ∀ p, has parts p = (!has m.validParts p && has hostAndUrl p) :=
      has_missing m.validParts hostAndUrl
    have hret : retrieveHostAndUrl ats m =
        .ok (fetched.addValid hostAndUrl).updateValidityStatus := by
      rw [retrieveHostAndUrl, retrieveWith, if_neg hnone, needRequestHeader, hheader]
      have hurl : has parts .urlWithHost = false := by rw [hbit, has_hostAndUrl]; simp
      simp only [Bool.true_or, if_true, ok_bind]
      rw [if_neg (by rw [hurl]; exact Bool.false_ne_true)]
    refine ⟨_, hret, fun p => ?_, fun p => ?_⟩
    · show fetched.part p = _
      have hprotocol : (has parts .url || has parts .protocol) = !has m.validParts .url := by
        rw [hbit, hbit, has_hostAndUrl, has_hostAndUrl]
        simp
      have hip : has parts .ip = false := by rw [hbit, has_hostAndUrl]; simp
      rw [retrieveFields_part, innerOffer]
      rcases eq_or_ne p .ip with rfl | hp
      · rw [retrieveAddress_ip, hip]
        simp [Ats.urlPart]
      · rw [retrieveAddress_part _ _ _ _ hp, hprotocol, hbit, has_hostAndUrl, Option.or_assoc]
        cases p <;> simp [Ats.urlPart, Ats.field]
    · show has (fetched.validParts ||| hostAndUrl) p = _
      rw [has_or]
      simp [fetched]

/-! ## The whole call -/

section Call

variable (a : Answers) (requested : BitVec 64) (m : TransactionMuncher)

/-- The host for `URL_WITH_HOST`. -/
def hostFor (ats : Ats) (m : TransactionMuncher) : Bytes :=
  ((m.part .host).or (innerOffer ats m.validParts .host)).getD []

/-- What a call offers for a part other than `IP`. -/
def offer (p : TransactionPart) : Option Bytes :=
  let parts := missing m.validParts requested
  (if has parts .url || has parts .protocol then a.outer.urlPart p else none).or
    ((if has parts .urlWithHost then
        (innerOffer a.inner m.validParts p).or (a.rewrite.rewritten (m.hostFor a.inner) p)
      else none).or
      (if has parts p then a.outer.field p else none))

/-- What is left of a call.  The address is assigned, all other parts are inserted. -/
structure Retrieved (m' : TransactionMuncher) : Prop where
  ip : m'.part .ip =
    if has (missing m.validParts requested) .ip then some a.outer.clientIp.str else m.part .ip
  part : ∀ p, p ≠ .ip → m'.part p = (m.part p).or (offer a requested m p)
  valid : ∀ p, has m'.validParts p = (has m.validParts p || has requested p ||
    (has (missing m.validParts requested) .urlWithHost && has hostAndUrl p))
  stat : m' = m ∨ m'.validityStat = leBytes 8 m'.validParts.toNat

variable {requested m}

theorem retrieved_self (h : missing m.validParts requested = 0#64) :
    Retrieved a requested m m := by
  refine ⟨?_, fun p _ => ?_, fun p => ?_, .inl rfl⟩
  · rw [h, has_zero]
    rfl
  · simp [offer, h]
  · rw [h, has_zero, Bool.false_and, Bool.or_false]
    cases hp : has requested p with
    | false => rw [Bool.or_false]
    | true => rw [has_of_missing_eq_zero h hp, Bool.true_or]

/-- The branch for `URL_WITH_HOST` offers what its two calls do, and sets the flags of the inner
one. -/
theorem retrieveRewritten_part (parts : BitVec 64) (hheader : m.requestHeader = true) :
    ∃ m', m.retrieveRewritten a parts = .ok m' ∧
      (∀ p, m'.part p = (m.part p).or (if has parts .urlWithHost then
        (innerOffer a.inner m.validParts p).or (a.rewrite.rewritten (m.hostFor a.inner) p)
        else none)) ∧
      ∀ p, has m'.validParts p =
        (has m.validParts p || (has parts .urlWithHost && has hostAndUrl p)) := by
  rw [retrieveRewritten]
  cases has parts .urlWithHost with
  | false => exact ⟨m, rfl, by simp, by simp⟩
  | true =>
      obtain ⟨hosted, hcall, hpart, hvalid⟩ := retrieveHostAndUrl_part a.inner hheader
      refine ⟨hosted.retrieveUrlWithHost a.rewrite, ?_, fun p => ?_, fun p => ?_⟩
      · rw [hcall]
        rfl
      · rw [retrieveUrlWithHost_part, hpart, hpart, Option.or_assoc]
        rfl
      · rw [retrieveUrlWithHost_validParts, hvalid, Bool.true_and]

/-- The branches one after the other. -/
theorem retrievePartsFrom_spec (requested : BitVec 64)
    (hheader : (m.requestHeader || a.outer.clientReq) = true) :
    ∃ m', retrievePartsFrom a requested m = .ok m' ∧ Retrieved a requested m m' := by
  by_cases hnone : missing m.validParts requested = 0#64
  · exact ⟨m, by rw [retrievePartsFrom, if_pos hnone], retrieved_self a hnone⟩
  · let parts := missing m.validParts requested
    let addressed := m.holdRequest.retrieveAddress a.outer parts
    obtain ⟨located, hret, hpart, hvalid⟩ :=
      retrieveRewritten_part a (m := addressed) parts (by simp [addressed])
    -- The first branches leave the host and the flags alone.
    have hhost : addressed.hostFor a.inner = m.hostFor a.inner := by
      rw [hostFor, hostFor, retrieveAddress_other _ _ _ .host (by decide)]
      simp [addressed]
    have hflags : addressed.validParts = m.validParts := by simp [addressed]
    rw [hhost, hflags] at hpart
    rw [hflags] at hvalid
    refine ⟨((located.retrieveFields a.outer parts).addValid requested).updateValidityStatus,
      ?_, ?_, ?_, ?_, .inr rfl⟩
    · rw [retrievePartsFrom, if_neg hnone, needRequestHeader, if_pos hheader, ok_bind]
      show Except.bind (addressed.retrieveRewritten a parts) _ = _
      rw [hret]
      rfl
    · show (located.retrieveFields a.outer parts).part .ip = _
      rw [retrieveFields_part, hpart, retrieveAddress_ip]
      have hno : ∀ host, (innerOffer a.inner m.validParts .ip).or
          (a.rewrite.rewritten host .ip) = none := by
        intro host
        simp [innerOffer, Ats.urlPart, Ats.rewritten]
      simp [hno, Ats.field, parts]
    · intro p hp
      show (located.retrieveFields a.outer parts).part p = _
      rw [retrieveFields_part, hpart, retrieveAddress_part _ _ _ _ hp, Option.or_assoc,
        Option.or_assoc]
      rfl
    · intro p
      show has ((located.retrieveFields a.outer parts).validParts ||| requested) p = _
      rw [has_or, retrieveFields_validParts, hvalid, Bool.or_right_comm]

end Call

/-! ## Entries and flags -/

/-- Every part with a flag has an entry, `URL_WITH_HOST` apart, which has none without the
flag. -/
structure Held (m : TransactionMuncher) : Prop where
  stat : m.validityStat = leBytes 8 m.validParts.toNat
  entry : ∀ p, p ≠ .urlWithHost → has m.validParts p = true → (m.part p).isSome = true
  flag : (m.part .urlWithHost).isSome = true → has m.validParts .urlWithHost = true

theorem held_create : create.Held := ⟨rfl, fun p _ h => by simp [create] at h, nofun⟩

section Step

variable {a : Answers} {requested : BitVec 64} {m m' : TransactionMuncher}

/-- An entry stays. -/
theorem Retrieved.isSome_of_isSome (h : Retrieved a requested m m') {p : TransactionPart}
    (hp : (m.part p).isSome = true) : (m'.part p).isSome = true := by
  rcases eq_or_ne p .ip with rfl | hne
  · rw [h.ip]
    split
    · rfl
    · exact hp
  · rw [h.part p hne, Option.isSome_or, hp, Bool.true_or]

/-- What is asked for and not there is offered. -/
theorem Retrieved.isSome_of_missing (h : Retrieved a requested m m') {p : TransactionPart}
    (hserved : p ∉ TransactionPart.others) (hurl : p ≠ .urlWithHost)
    (hmissing : has (missing m.validParts requested) p = true) :
    (m'.part p).isSome = true := by
  rcases eq_or_ne p .ip with rfl | hne
  · rw [h.ip, if_pos hmissing]
    rfl
  · rw [h.part p hne, Option.isSome_or, Bool.or_eq_true]
    refine .inr ?_
    rw [offer]
    cases p with
    | ip => exact absurd rfl hne
    | urlWithHost => exact absurd rfl hurl
    | miss | status | contentLength => exact absurd (by decide) hserved
    | _ => simp [hmissing, Ats.urlPart, Ats.field]

/-- The call for the host leaves both of its parts. -/
theorem Retrieved.isSome_of_inner (h : Retrieved a requested m m') {p : TransactionPart}
    (hvalid : has m.validParts p = false)
    (hwants : has (missing m.validParts requested) .urlWithHost = true)
    (hp : has hostAndUrl p = true) : (m'.part p).isSome = true := by
  have hcases : p = .host ∨ p = .url := by simpa [has_hostAndUrl] using hp
  have hne : p ≠ .ip := by
    rintro rfl
    simp at hcases
  rw [h.part p hne, Option.isSome_or, Bool.or_eq_true]
  refine .inr ?_
  rw [offer]
  rcases hcases with rfl | rfl <;> simp [hwants, innerOffer, hvalid, Ats.urlPart]

theorem Held.step (hheld : m.Held) (h : Retrieved a requested m m')
    (hserved : ∀ p ∈ TransactionPart.others, has requested p = false) : m'.Held := by
  refine ⟨?_, fun p hp hvalid => ?_, fun hsome => ?_⟩
  · rcases h.stat with rfl | hstat
    · exact hheld.stat
    · exact hstat
  · rw [h.valid] at hvalid
    cases hbefore : has m.validParts p with
    | true => exact h.isSome_of_isSome (hheld.entry p hp hbefore)
    | false =>
        cases hasked : has requested p with
        | true =>
            have hothers : p ∉ TransactionPart.others := by
              intro hmem
              rw [hserved p hmem] at hasked
              exact Bool.false_ne_true hasked
            exact h.isSome_of_missing hothers hp (by simp [hbefore, hasked])
        | false =>
            rw [hbefore, hasked, Bool.or_self, Bool.false_or, Bool.and_eq_true] at hvalid
            exact h.isSome_of_inner hbefore hvalid.1 hvalid.2
  · rw [h.valid, Bool.or_eq_true, Bool.or_eq_true]
    refine .inl ?_
    rw [h.part .urlWithHost nofun, Option.isSome_or, Bool.or_eq_true] at hsome
    rcases hsome with hsome | hoffer
    · exact .inl (hheld.flag hsome)
    · refine .inr ?_
      by_contra hasked
      simp [offer, Bool.eq_false_iff.mpr hasked, Ats.urlPart] at hoffer

end Step

end TransactionMuncher

/-! ## Runs -/

/-- A call of `retrieve_parts` for parts that it sees to, with the header. -/
structure PartsCall where
  answers : Answers
  requested : BitVec 64
  served : ∀ p ∈ TransactionPart.others, has requested p = false
  header : answers.outer.clientReq = true

namespace PartsCall

open TransactionMuncher

/-- The calls of a transaction. -/
def run (calls : List PartsCall) : Except PartsError TransactionMuncher :=
  calls.foldlM (fun m c => m.retrievePartsFrom c.answers c.requested) create

/-- Everything that was asked for is there, and everything that is said to be there. -/
structure Present (calls : List PartsCall) (m : TransactionMuncher) : Prop where
  entry : ∀ c ∈ calls, ∀ p, has c.requested p = true → (m.part p).isSome = true
  flag : ∀ p, has m.curValidity p = true → (m.part p).isSome = true

/-- The call is the first one for `URL_WITH_HOST`, and `TSUrlHostSet` fails in it. -/
def HostSetFails (c : PartsCall) (m : TransactionMuncher) : Prop :=
  has c.requested .urlWithHost = true ∧ has m.validParts .urlWithHost = false ∧
    c.answers.rewrite.hdrUrl = true ∧
      c.answers.rewrite.urlHostSet (m.hostFor c.answers.inner) = false

/-- What the flag of `URL_WITH_HOST` is for. -/
def KeepsUrlWithHost (m : TransactionMuncher) : Prop :=
  has m.validParts .urlWithHost = true → (m.part .urlWithHost).isSome = true

theorem run_snoc (calls : List PartsCall) (c : PartsCall) :
    run (calls ++ [c]) = run calls >>= fun m => m.retrievePartsFrom c.answers c.requested :=
  foldlM_snoc ..

/-- Every call returns. -/
theorem run_ok (calls : List PartsCall) :
    ∃ m, run calls = .ok m ∧ m.Held ∧
      ∀ c ∈ calls, ∀ p, has c.requested p = true → has m.validParts p = true := by
  induction calls using List.reverseRecOn with
  | nil => exact ⟨create, rfl, held_create, fun c hc => absurd hc List.not_mem_nil⟩
  | append_singleton calls c ih =>
      obtain ⟨m, hrun, hheld, hasked⟩ := ih
      obtain ⟨m', hcall, hret⟩ := retrievePartsFrom_spec c.answers c.requested (m := m)
        (by rw [c.header, Bool.or_true])
      refine ⟨m', ?_, hheld.step hret c.served, fun d hd p hp => ?_⟩
      · rw [run_snoc, hrun]
        exact hcall
      · rw [hret.valid, Bool.or_eq_true, Bool.or_eq_true]
        rcases List.mem_append.mp hd with hd | hd
        · exact .inl (.inl (hasked d hd p hp))
        · rw [List.mem_singleton] at hd
          subst hd
          exact .inl (.inr hp)

/-- Only `URL_WITH_HOST` can be wanting. -/
theorem present_iff {calls : List PartsCall} {m : TransactionMuncher} (hheld : m.Held)
    (hasked : ∀ c ∈ calls, ∀ p, has c.requested p = true → has m.validParts p = true) :
    Present calls m ↔ KeepsUrlWithHost m := by
  have hflags : m.curValidity = m.validParts := curValidity_eq hheld.stat
  constructor
  · intro h hvalid
    exact h.flag .urlWithHost (by rw [hflags]; exact hvalid)
  · intro h
    have hentry : ∀ p, has m.validParts p = true → (m.part p).isSome = true := by
      intro p hp
      rcases eq_or_ne p .urlWithHost with rfl | hne
      · exact h hp
      · exact hheld.entry p hne hp
    refine ⟨fun c hc p hp => hentry p (hasked c hc p hp), fun p hp => ?_⟩
    rw [hflags] at hp
    exact hentry p hp

/-- A call loses the entry when `TSUrlHostSet` fails. -/
theorem keepsUrlWithHost_iff {c : PartsCall} {m m' : TransactionMuncher} (hheld : m.Held)
    (hkeeps : KeepsUrlWithHost m) (h : Retrieved c.answers c.requested m m') :
    KeepsUrlWithHost m' ↔ ¬ c.HostSetFails m := by
  cases hvalid : has m.validParts .urlWithHost with
  | true =>
      refine iff_of_true (fun _ => h.isSome_of_isSome (hkeeps hvalid)) ?_
      rintro ⟨-, hfalse, -⟩
      rw [hvalid] at hfalse
      exact Bool.false_ne_true hfalse.symm
  | false =>
      have hnone : m.part .urlWithHost = none := by
        rw [← Option.not_isSome_iff_eq_none]
        intro hsome
        rw [hheld.flag hsome] at hvalid
        exact Bool.false_ne_true hvalid.symm
      have hflag : has m'.validParts .urlWithHost = has c.requested .urlWithHost := by
        rw [h.valid, hvalid, has_hostAndUrl]
        simp
      have hpart : m'.part .urlWithHost =
          if has c.requested .urlWithHost then
            c.answers.rewrite.rewritten (m.hostFor c.answers.inner) .urlWithHost
          else none := by
        rw [h.part .urlWithHost nofun, hnone, offer]
        simp [hvalid, innerOffer, Ats.urlPart, Ats.field]
      rw [KeepsUrlWithHost, hflag, hpart, HostSetFails, Ats.rewritten]
      cases has c.requested .urlWithHost with
      | false => simp
      | true =>
          cases c.answers.rewrite.hdrUrl with
          | false => simp
          | true =>
              cases c.answers.rewrite.urlHostSet (m.hostFor c.answers.inner) <;> simp [hvalid]

/-- After every call of a run, everything that was ever asked for is there, if and only if
`TSUrlHostSet` does not fail where `URL_WITH_HOST` is asked for first. -/
theorem parts_present_iff (calls : List PartsCall) :
    (∀ pre, pre <+: calls → ∃ m, run pre = .ok m ∧ Present pre m) ↔
      ∀ pre c post, calls = pre ++ c :: post → ∀ m, run pre = .ok m → ¬ c.HostSetFails m := by
  induction calls using List.reverseRecOn with
  | nil =>
      refine iff_of_true (fun pre hpre => ?_) (fun pre c post hsplit => by simp at hsplit)
      rw [List.prefix_nil.mp hpre]
      obtain ⟨m, hrun, hheld, hasked⟩ := run_ok []
      refine ⟨m, hrun, (present_iff hheld hasked).mpr ?_⟩
      cases hrun
      intro hvalid
      simp [create] at hvalid
  | append_singleton calls c ih =>
      obtain ⟨m, hrun, hheld, hasked⟩ := run_ok calls
      obtain ⟨m', hcall, hret⟩ := retrievePartsFrom_spec c.answers c.requested (m := m)
        (by rw [c.header, Bool.or_true])
      have hrun' : run (calls ++ [c]) = .ok m' := by
        rw [run_snoc, hrun]
        exact hcall
      -- The last call is as good as `TSUrlHostSet` in it.
      have hlast (hpresent : Present calls m) :
          Present (calls ++ [c]) m' ↔ ¬ c.HostSetFails m := by
        obtain ⟨n, hn, hheld', hasked'⟩ := run_ok (calls ++ [c])
        cases hn.symm.trans hrun'
        rw [present_iff hheld' hasked']
        exact keepsUrlWithHost_iff hheld ((present_iff hheld hasked).mp hpresent) hret
      rw [forall_split_snoc, ← ih]
      constructor
      · intro h
        obtain ⟨n, hn, hpresent⟩ := h calls (List.prefix_append _ _)
        obtain ⟨n', hn', hpresent'⟩ := h (calls ++ [c]) List.prefix_rfl
        cases hn.symm.trans hrun
        cases hn'.symm.trans hrun'
        refine ⟨fun pre hpre => h pre (hpre.trans (List.prefix_append _ _)), fun n hn => ?_⟩
        cases hn.symm.trans hrun
        exact (hlast hpresent).mp hpresent'
      · rintro ⟨hfront, hno⟩ pre hpre
        rcases List.prefix_concat_iff.mp hpre with rfl | hpre
        · obtain ⟨n, hn, hpresent⟩ := hfront calls List.prefix_rfl
          cases hn.symm.trans hrun
          exact ⟨m', hrun', (hlast hpresent).mpr (hno m hrun)⟩
        · exact hfront pre hpre

/-- The sample request, where the host cannot be written into the URL. -/
def unwritable : Ats := { TransactionData.sampleAts with urlHostSet := fun _ => false }

/-- A call for `URL_WITH_HOST` and nothing else. -/
def unwritableCall : PartsCall where
  answers := ⟨unwritable, unwritable, unwritable⟩
  requested := TransactionPart.urlWithHost.flag
  served := by decide
  header := rfl

/-- The flag is set, and there is no entry. -/
theorem urlWithHost_flag_without_entry :
    (∃ m, run [unwritableCall] = .ok m ∧ has m.curValidity .urlWithHost = true ∧
      m.part .urlWithHost = none) ∧
      ¬ ∀ calls pre, pre <+: calls → ∃ m, run pre = .ok m ∧ Present pre m := by
  have hrun : ∃ m, run [unwritableCall] = .ok m ∧ has m.curValidity .urlWithHost = true ∧
      m.part .urlWithHost = none := by
    exact ⟨_, rfl, by decide +kernel, by decide +kernel⟩
  refine ⟨hrun, fun h => ?_⟩
  obtain ⟨m, hm, -, hnone⟩ := hrun
  obtain ⟨n, hn, hpresent⟩ := h [unwritableCall] [unwritableCall] List.prefix_rfl
  cases hn.symm.trans hm
  have hsome := hpresent.entry unwritableCall (List.mem_singleton_self _) .urlWithHost (by decide)
  rw [hnone] at hsome
  exact Bool.false_ne_true hsome

end PartsCall

end Banjax
