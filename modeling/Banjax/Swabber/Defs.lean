import Banjax.Filter
import Banjax.Store.IpDb

/-!
# The swabber

`Socket` of `socket.h` and `Swabber::ban` of `swabber.cpp`.  A first request to ban
an address only flags it with the time of the request, and a request after the
grace period publishes the address and takes the flag away.

`ban` can end early in many places: the database or the socket is locked, the grace
period is not over, the socket has been released or does not bind.  `BanCases` lists
what comes of it, under a positive grace period, and `ban_cases` says that the list
is complete whatever the locks and the socket do.

A time is a number of seconds.  A difference of two readings of the clock is far
from the bounds of `time_t`, so times are integers here.
-/

namespace Banjax

open Lib

/-! ## The socket -/

/-- `Socket`.  The endpoint is empty when the socket is not bound. -/
structure Socket where
  localEndpoint : Bytes := []
deriving DecidableEq, Repr

/-- `Socket::is_bound`. -/
def Socket.isBound (s : Socket) : Bool := s.localEndpoint ≠ []

/-- `Socket::bind`, where `bindTry` is what the ZeroMQ call gives.  `unbind` leaves the
endpoint as it is. -/
def Socket.bind (s : Socket) (endpoint : Bytes) (bindTry : Bool) : Bool × Socket :=
  if endpoint = s.localEndpoint then (true, s)
  else if endpoint = [] then (true, s)
  else if bindTry then (true, ⟨endpoint⟩)
  else (false, ⟨[]⟩)

/-! ## Bans -/

/-- A line of `ban_ip_list`, without the time it was written. -/
inductive BanLine where
  | flagged (ip reason : Bytes)
  | banned (ip reason : Bytes)
deriving DecidableEq, Repr

/-- `SWABBER_BAN`. -/
def swabberBan : Bytes := bytes "swabber_bans"

/-- What `Swabber` is configured with. -/
structure Swabber where
  gracePeriod : Int
  localEndpoint : Bytes

/-- What calls of `ban` change. -/
structure SwabberState where
  /-- `swabber_ip_db`: since when an address is flagged, `0` when it is not. -/
  ipDb : IpDb Int
  /-- The socket, unless it has been released. -/
  socket : Option Socket
  /-- The messages published so far, in two parts. -/
  sent : List (Bytes × Bytes) := []
  banIpList : List BanLine := []

/-- What a call of `ban` finds and the program does not choose. -/
structure BanEnv where
  /-- `gettimeofday`. -/
  now : Int
  /-- `TSMutexLockTry(swabber_mutex)`. -/
  lockTry : Bool := true
  /-- Whether ZeroMQ binds, should the socket not be bound. -/
  bindTry : Bool := true

namespace Swabber

variable (S : Swabber)

/-- The first half of `ban`: whether the grace period is over, with a first request
recorded. -/
def awaitGrace (e : BanEnv) (ip reason : Bytes) (s : SwabberState) : Bool × SwabberState :=
  if 0 < S.gracePeriod then
    match s.ipDb.getIpState ip with
    | (none, ipDb) => (false, { s with ipDb := ipDb })
    | (some state, ipDb) =>
        if state = 0 then
          (!(e.now - e.now < S.gracePeriod),
            { s with
              ipDb := (ipDb.setIpState ip e.now).2
              banIpList := s.banIpList ++ [.flagged ip reason] })
        else (!(e.now - state < S.gracePeriod), { s with ipDb := ipDb })
  else (true, s)

/-- The socket, bound again if it is not bound. -/
def bindSocket (e : BanEnv) (socket : Socket) : Bool × Socket :=
  if socket.isBound then (true, socket) else socket.bind S.localEndpoint e.bindTry

/-- The second half of `ban`: whether the address was published. -/
def publish (e : BanEnv) (ip reason : Bytes) (s : SwabberState) : Bool × SwabberState :=
  if !e.lockTry then (false, s)
  else
    match s.socket with
    | none => (false, s)
    | some socket =>
        match S.bindSocket e socket with
        | (false, socket) => (false, { s with socket := some socket })
        | (true, socket) =>
            (true,
              { s with
                socket := some socket
                sent := s.sent ++ [(swabberBan, ip)]
                banIpList := s.banIpList ++ [.banned ip reason] })

/-- `Swabber::ban`. -/
def ban (e : BanEnv) (ip reason : Bytes) (s : SwabberState) : SwabberState :=
  match S.awaitGrace e ip reason s with
  | (false, s) => s
  | (true, s) =>
      match S.publish e ip reason s with
      | (false, s) => s
      | (true, s) => { s with ipDb := (s.ipDb.dropIp ip).2 }

/-- `Swabber::release_socket`. -/
def releaseSocket (s : SwabberState) : Option Socket × SwabberState :=
  (s.socket, { s with socket := none })

end Swabber

/-- Since when the address is flagged, `0` when it is not. -/
def SwabberState.flagOf (s : SwabberState) (ip : Bytes) : Int := s.ipDb.stateOf ip

namespace Swabber

variable (S : Swabber)

/-! ## What a ban can do -/

/-- What comes of a request to ban an address, for the flags and the messages. -/
inductive BanCases (e : BanEnv) (ip : Bytes) (s s' : SwabberState) : Prop where
  /-- Nothing. -/
  | kept : s'.ipDb.db = s.ipDb.db → s'.sent = s.sent → BanCases e ip s s'
  /-- The address had no flag and has one now. -/
  | flagged : s.flagOf ip = 0 → s'.ipDb.db = s.ipDb.db.insert ip e.now → s'.sent = s.sent →
      BanCases e ip s s'
  /-- The flag is old enough.  It may survive, when the database is locked. -/
  | published : s.flagOf ip ≠ 0 → S.gracePeriod ≤ e.now - s.flagOf ip →
      s'.ipDb.db = s.ipDb.db ∨ s'.ipDb.db = s.ipDb.db.erase ip →
      s'.sent = s.sent ++ [(swabberBan, ip)] → BanCases e ip s s'

section Cases

variable {S} {e : BanEnv} {ip reason : Bytes} {s s' : SwabberState}

/-- Publishing leaves the database alone. -/
theorem publish_ipDb {b : Bool} (h : S.publish e ip reason s = (b, s')) : s'.ipDb = s.ipDb := by
  unfold publish at h
  split at h
  · cases h
    rfl
  · split at h
    · cases h
      rfl
    · split at h <;> (cases h; rfl)

/-- Publishing sends one message or none. -/
theorem publish_sent {b : Bool} (h : S.publish e ip reason s = (b, s')) :
    s'.sent = if b then s.sent ++ [(swabberBan, ip)] else s.sent := by
  unfold publish at h
  split at h
  · cases h
    rfl
  · split at h
    · cases h
      rfl
    · split at h <;> (cases h; rfl)

/-- Before the grace period is over, a first request is recorded and nothing else. -/
theorem awaitGrace_false (h : S.awaitGrace e ip reason s = (false, s')) :
    S.BanCases e ip s s' := by
  unfold awaitGrace at h
  split at h
  · split at h
    · next d hget =>
      cases h
      exact .kept (IpDb.getIpState_db hget) rfl
    · next state d hget =>
      split at h
      · next hzero =>
        obtain ⟨-, rfl⟩ := Prod.mk.inj h
        have hflag : s.flagOf ip = 0 := (IpDb.getIpState_some hget).symm.trans hzero
        rcases d.setIpState_db ip e.now with hset | hset
        · exact .kept (hset.trans (IpDb.getIpState_db hget)) rfl
        · exact .flagged hflag (by rw [← IpDb.getIpState_db hget]; exact hset) rfl
      · obtain ⟨-, rfl⟩ := Prod.mk.inj h
        exact .kept (IpDb.getIpState_db hget) rfl
  · cases h

/-- The grace period is over only for an address that is flagged already. -/
theorem awaitGrace_true (hgrace : 0 < S.gracePeriod)
    (h : S.awaitGrace e ip reason s = (true, s')) :
    s.flagOf ip ≠ 0 ∧ S.gracePeriod ≤ e.now - s.flagOf ip ∧ s'.ipDb.db = s.ipDb.db ∧
      s'.sent = s.sent := by
  rw [awaitGrace, if_pos hgrace] at h
  split at h
  · cases h
  · next state d hget =>
    have hstate : state = s.flagOf ip := IpDb.getIpState_some hget
    split at h
    · -- A flag set now is not old enough, the grace period being positive.
      have hover : ¬ e.now - e.now < S.gracePeriod := by
        simpa using (Prod.mk.inj h).1
      rw [Int.sub_self] at hover
      exact absurd hgrace hover
    · next hzero =>
      obtain ⟨hover, rfl⟩ := Prod.mk.inj h
      have hover : S.gracePeriod ≤ e.now - state := by simpa using hover
      exact ⟨hstate ▸ hzero, hstate ▸ hover, IpDb.getIpState_db hget, rfl⟩

/-- The list is complete. -/
theorem ban_cases (hgrace : 0 < S.gracePeriod) (e : BanEnv) (ip reason : Bytes) (s : SwabberState) :
    S.BanCases e ip s (S.ban e ip reason s) := by
  unfold ban
  split
  · next v hwait => exact awaitGrace_false hwait
  · next v hwait =>
    obtain ⟨hflag, hover, hdb, hsent⟩ := awaitGrace_true hgrace hwait
    split
    · next u hpub =>
      refine .kept ?_ ?_
      · rw [publish_ipDb hpub, hdb]
      · rw [publish_sent hpub, ← hsent]
        rfl
    · next u hpub =>
      refine .published hflag hover ?_ ?_
      · rw [← hdb, ← publish_ipDb hpub]
        exact u.ipDb.dropIp_db ip
      · rw [← hsent]
        exact publish_sent hpub

end Cases

end Swabber

end Banjax
