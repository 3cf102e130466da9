import Banjax.Swabber.Defs

/-!
# The denialator

`Denialator` of `denialator.cpp`: it answers the requests of flagged addresses
itself, and asks the swabber again once the grace period is over.  It shares the
database of the swabber and holds a copy of the grace period, taken when it is
made.

`ban_acquired` and `onHttpRequest_acquired` say what a request to ban and a visit do
when every lock is free and the socket is bound.
-/

namespace Banjax

open Lib

/-- `Denialator`. -/
structure Denialator where
  banningGracePeriod : Int
  globalWhiteList : Option GlobalWhiteList := none

/-- What a visit finds and the program does not choose.  The clock is read by the
denialator and once more by the swabber. -/
structure DenialEnv where
  now : Int
  ban : BanEnv

namespace Denialator

/-- The constructor, which asks the swabber for its grace period. -/
def create (S : Swabber) (globalWhiteList : Option GlobalWhiteList) : Denialator where
  banningGracePeriod := S.gracePeriod
  globalWhiteList := globalWhiteList

variable (D : Denialator) (S : Swabber)

/-- The address is in the global white list. -/
def isGloballyWhiteListed (ip : Bytes) : Bool :=
  match D.globalWhiteList with
  | none => false
  | some whiteList => (whiteList.isWhiteListed ip).isSome

/-- The reason given to the swabber. -/
def banReason (state : Int) : Bytes :=
  bytes "flagged on " ++ signedDecimal state ++
    bytes ", grace period passed. reported by denialator"

/-- `Denialator::on_http_request`. -/
def onHttpRequest (e : DenialEnv) (parts : TransactionParts) (s : SwabberState) :
    FilterResponse FilterExtendedResponse × SwabberState :=
  let ip := parts.ip.str
  if D.isGloballyWhiteListed ip then (.goAheadNoComment, s)
  else
    match s.ipDb.getIpState ip with
    | (none, ipDb) => (.goAheadNoComment, { s with ipDb := ipDb })
    | (some state, ipDb) =>
        let s := { s with ipDb := ipDb }
        if state ≠ 0 then
          (.iRespond {},
            -- Once the grace period is over, report to the swabber.
            if D.banningGracePeriod ≤ e.now - state then S.ban e.ban ip (banReason state) s else s)
        else (.goAheadNoComment, s)

/-- `Denialator::generate_response`. -/
def generateResponse : Bytes :=
  bytes "<html><header></header><body>you've been temporarily banned by deflect</body></html>"

end Denialator

/-! ## When nothing fails -/

/-- Every lock of the database is free and the socket is bound. -/
structure SwabberState.Ready (s : SwabberState) : Prop where
  acquired : s.ipDb.AllAcquired
  bound : ∃ socket, s.socket = some socket ∧ socket.isBound = true

namespace SwabberState

/-- The state after a read. -/
theorem Ready.tried {s : SwabberState} (h : s.Ready) :
    ({ s with ipDb := s.ipDb.tried } : SwabberState).Ready :=
  ⟨h.acquired.tried, h.bound⟩

/-- The flags are the same but for one address, and the messages are added. -/
structure Changed (s s' : SwabberState) (ip : Bytes) (flag : Int) (sent : List (Bytes × Bytes)) :
    Prop where
  flags : ∀ ip', s'.flagOf ip' = if ip' = ip then flag else s.flagOf ip'
  sent : s'.sent = s.sent ++ sent
  ready : s'.Ready

/-- A read changes nothing. -/
theorem Ready.changed_tried {s : SwabberState} (h : s.Ready) (ip : Bytes) :
    s.Changed { s with ipDb := s.ipDb.tried } ip (s.flagOf ip) [] where
  flags ip' := by
    by_cases hip : ip' = ip
    · rw [if_pos hip, hip]
      rfl
    · rw [if_neg hip]
      rfl
  sent := (List.append_nil _).symm
  ready := h.tried

end SwabberState

namespace Swabber

variable {S : Swabber} {e : BanEnv} {ip reason : Bytes} {s : SwabberState}

theorem publish_acquired (hready : s.Ready) (hlock : e.lockTry = true) :
    S.publish e ip reason s =
      (true, { s with
        sent := s.sent ++ [(swabberBan, ip)]
        banIpList := s.banIpList ++ [.banned ip reason] }) := by
  obtain ⟨socket, hsocket, hbound⟩ := hready.bound
  have hbind : S.bindSocket e socket = (true, socket) := by
    rw [bindSocket, hbound]
    rfl
  rw [publish, hlock, hsocket]
  dsimp only
  rw [hbind]
  dsimp only
  rw [← hsocket]
  rfl

/-- The first half of a request, on a free database. -/
theorem awaitGrace_acquired (hgrace : 0 < S.gracePeriod) (hready : s.Ready) :
    S.awaitGrace e ip reason s =
      if s.flagOf ip = 0 then
        (false, { s with
          ipDb := (s.ipDb.tried.setIpState ip e.now).2
          banIpList := s.banIpList ++ [.flagged ip reason] })
      else (!(e.now - s.flagOf ip < S.gracePeriod), { s with ipDb := s.ipDb.tried }) := by
  rw [awaitGrace, if_pos hgrace, IpDb.getIpState_acquired hready.acquired ip]
  dsimp only
  rw [Int.sub_self, decide_eq_true hgrace]
  rfl

/-- A request to ban flags the address, waits, or publishes and takes the flag
away. -/
theorem ban_acquired (ip reason : Bytes) (hgrace : 0 < S.gracePeriod) (hready : s.Ready)
    (hlock : e.lockTry = true) :
    s.Changed (S.ban e ip reason s) ip
      (if s.flagOf ip = 0 then e.now
        else if e.now - s.flagOf ip < S.gracePeriod then s.flagOf ip else 0)
      (if s.flagOf ip = 0 then []
        else if e.now - s.flagOf ip < S.gracePeriod then [] else [(swabberBan, ip)]) := by
  have htried := hready.tried
  rw [ban, awaitGrace_acquired hgrace hready]
  by_cases hzero : s.flagOf ip = 0
  · rw [if_pos hzero, if_pos hzero, if_pos hzero]
    refine ⟨?_, (List.append_nil _).symm, ⟨hready.acquired.tried.setIpState ip e.now,
      hready.bound⟩⟩
    intro ip'
    exact IpDb.stateOf_setIpState hready.acquired.tried ip ip' e.now
  · rw [if_neg hzero, if_neg hzero, if_neg hzero]
    by_cases hwait : e.now - s.flagOf ip < S.gracePeriod
    · rw [if_pos hwait, if_pos hwait, decide_eq_true hwait]
      exact hready.changed_tried ip
    · rw [if_neg hwait, if_neg hwait, decide_eq_false hwait, Bool.not_false]
      dsimp only
      rw [publish_acquired htried hlock]
      refine ⟨?_, rfl, ⟨hready.acquired.tried.dropIp ip, hready.bound⟩⟩
      intro ip'
      exact IpDb.stateOf_dropIp hready.acquired.tried ip ip'

end Swabber

namespace Denialator

variable {D : Denialator} {S : Swabber} {e : DenialEnv} {s : SwabberState}

theorem onHttpRequest_whiteListed {parts : TransactionParts}
    (h : D.isGloballyWhiteListed parts.ip.str = true) :
    D.onHttpRequest S e parts s = (.goAheadNoComment, s) := by
  rw [onHttpRequest]
  dsimp only
  rw [if_pos h]

/-- A visit is denied when the address is flagged.  It asks for a ban when the grace
period of the denialator is over, and then the one of the swabber is over as well. -/
theorem onHttpRequest_acquired (parts : TransactionParts) (hgrace : 0 < S.gracePeriod)
    (hready : s.Ready) (hcopy : D.banningGracePeriod = S.gracePeriod)
    (hwhite : D.isGloballyWhiteListed parts.ip.str = false) (hlock : e.ban.lockTry = true)
    (hclock : e.now ≤ e.ban.now) :
    ((∃ d, (D.onHttpRequest S e parts s).1 = .iRespond d) ↔ s.flagOf parts.ip.str ≠ 0) ∧
      s.Changed (D.onHttpRequest S e parts s).2 parts.ip.str
        (if e.now - s.flagOf parts.ip.str < S.gracePeriod then s.flagOf parts.ip.str else 0)
        (if s.flagOf parts.ip.str = 0 then []
          else if e.now - s.flagOf parts.ip.str < S.gracePeriod then []
          else [(swabberBan, parts.ip.str)]) := by
  have hget := IpDb.getIpState_acquired hready.acquired parts.ip.str
  have htried := hready.tried
  have hsame := hready.changed_tried parts.ip.str
  rw [onHttpRequest]
  dsimp only
  rw [hwhite, hget]
  dsimp only
  rw [show s.ipDb.stateOf parts.ip.str = s.flagOf parts.ip.str from rfl, hcopy]
  by_cases hzero : s.flagOf parts.ip.str = 0
  · rw [if_neg (by simp), if_neg (by simpa using hzero), if_pos hzero]
    refine ⟨⟨?_, fun h => absurd hzero h⟩, ?_⟩
    · rintro ⟨d, hd⟩
      cases hd
    · rw [hzero] at hsame ⊢
      rw [ite_self]
      exact hsame
  · rw [if_neg (by simp), if_pos hzero, if_neg hzero]
    refine ⟨⟨fun _ => hzero, fun _ => ⟨_, rfl⟩⟩, ?_⟩
    by_cases hwait : e.now - s.flagOf parts.ip.str < S.gracePeriod
    · rw [if_pos hwait, if_pos hwait, if_neg (by omega)]
      exact hsame
    · -- The swabber reads the clock later, so it does not wait either.
      have hlater : ¬ e.ban.now - s.flagOf parts.ip.str < S.gracePeriod := by omega
      have hban := Swabber.ban_acquired parts.ip.str (banReason (s.flagOf parts.ip.str)) hgrace
        htried hlock
      rw [show SwabberState.flagOf { s with ipDb := s.ipDb.tried } = s.flagOf from rfl,
        if_neg hzero, if_neg hzero, if_neg hlater, if_neg hlater] at hban
      rw [if_neg hwait, if_neg hwait, if_pos (by omega)]
      exact ⟨hban.flags, hban.sent, hban.ready⟩

end Denialator

end Banjax
