import Banjax.Lib.Run
import Banjax.Swabber.Denialator

/-!
# Bans of one address, seen from the others

A request to ban an address and a visit of the denialator are compared in two states
that agree on the address.  They do the same in both, and they change nothing that
belongs to another address.

Besides the flags there is one thing the addresses share, the socket.  A ban may bind
it, and a later ban of another address finds it bound.  What counts for a ban is only
whether it gets its message out (`reaches`), and a ban does not change that, unless the
socket is not bound and ZeroMQ answers the attempts to bind it in different ways.  The
answers it gives are a parameter here, and `Steady` says that they make no difference.
-/

namespace Banjax

open Lib

namespace Swabber

variable (S : Swabber)

/-- A message gets out, where `bindTry` is what ZeroMQ answers. -/
def reaches (bindTry : Bool) (s : SwabberState) : Bool :=
  match s.socket with
  | none => false
  | some socket => (S.bindSocket ⟨0, true, bindTry⟩ socket).1

variable {S}

/-- An attempt to bind changes nothing for a later one that has the same answer, or whose
answer makes no difference. -/
theorem bindSocket_again {e e' : BanEnv} {socket : Socket}
    (h : (S.bindSocket e socket).1 = (S.bindSocket e' socket).1) :
    (S.bindSocket e (S.bindSocket e' socket).2).1 = (S.bindSocket e socket).1 := by
  obtain ⟨now, lockTry, bindTry⟩ := e
  obtain ⟨now', lockTry', bindTry'⟩ := e'
  obtain ⟨endpoint⟩ := socket
  cases endpoint with
  | cons c endpoint => rfl
  | nil =>
      simp only [bindSocket, Socket.isBound, Socket.bind] at h ⊢
      generalize S.localEndpoint = target at h ⊢
      cases target with
      | nil => simp
      | cons c target => cases bindTry <;> cases bindTry' <;> simp at h ⊢

theorem publish_fst (e : BanEnv) (ip reason : Bytes) (s : SwabberState) :
    (S.publish e ip reason s).1 = (e.lockTry && S.reaches e.bindTry s) := by
  rw [publish, reaches]
  cases e.lockTry with
  | false => rfl
  | true =>
      cases s.socket with
      | none => rfl
      | some socket =>
          have hbind : S.bindSocket e socket = S.bindSocket ⟨0, true, e.bindTry⟩ socket := rfl
          dsimp only
          rw [hbind]
          obtain ⟨b, socket'⟩ := S.bindSocket ⟨0, true, e.bindTry⟩ socket
          cases b <;> rfl

theorem reaches_publish {e : BanEnv} {b : Bool} {s : SwabberState}
    (h : S.reaches b s = S.reaches e.bindTry s) (ip reason : Bytes) :
    S.reaches b (S.publish e ip reason s).2 = S.reaches b s := by
  rw [publish]
  cases e.lockTry with
  | false => rfl
  | true =>
      cases hsocket : s.socket with
      | none =>
          rw [reaches, reaches, hsocket]
          dsimp only
          rw [if_neg (by simp), hsocket]
      | some socket =>
          rw [reaches, reaches, hsocket] at h
          have hagain := bindSocket_again h
          have hbind : S.bindSocket e socket = S.bindSocket ⟨0, true, e.bindTry⟩ socket := rfl
          rw [if_neg (by simp), reaches, reaches, hsocket]
          dsimp only
          rw [hbind]
          obtain ⟨b', socket', htry⟩ : ∃ b' socket',
              S.bindSocket ⟨0, true, e.bindTry⟩ socket = (b', socket') := ⟨_, _, rfl⟩
          rw [htry] at hagain ⊢
          cases b' <;> exact hagain

variable (S) in
/-- Whether a message gets out does not depend on which of its answers ZeroMQ gives. -/
def Steady (answers : Bool → Prop) (s : SwabberState) : Prop :=
  ∀ b b', answers b → answers b' → S.reaches b s = S.reaches b' s

end Swabber

/-! ## Two states and one address -/

/-- Two states of the swabber have been worked on for one address. -/
structure SwabberState.Alike (S : Swabber) (answers : Bool → Prop) (ip : Bytes)
    (s₀ t₀ s t : SwabberState) : Prop where
  ipDb : IpDb.Alike ip s₀.ipDb t₀.ipDb s.ipDb t.ipDb
  steady : S.Steady answers s
  reach : ∀ b, answers b → S.reaches b s = S.reaches b t
  leftReach : ∀ b, answers b → S.reaches b s = S.reaches b s₀
  rightReach : ∀ b, answers b → S.reaches b t = S.reaches b t₀

namespace SwabberState.Alike

variable {S : Swabber} {answers : Bool → Prop} {ip : Bytes} {s₀ t₀ s t : SwabberState}

theorem withIpDb (h : Alike S answers ip s₀ t₀ s t) {d e : IpDb Int}
    (hd : IpDb.Alike ip s₀.ipDb t₀.ipDb d e) (lines lines' : List BanLine) :
    Alike S answers ip s₀ t₀ { s with ipDb := d, banIpList := lines }
      { t with ipDb := e, banIpList := lines' } :=
  ⟨hd, h.steady, h.reach, h.leftReach, h.rightReach⟩

theorem awaitGrace (h : Alike S answers ip s₀ t₀ s t) (e : BanEnv) (reason : Bytes) :
    Agree (Alike S answers ip s₀ t₀) (S.awaitGrace e ip reason s) (S.awaitGrace e ip reason t) := by
  rw [Swabber.awaitGrace, Swabber.awaitGrace]
  split
  · rw [h.ipDb.getIpState.1, h.ipDb.getIpState.2]
    dsimp only
    split
    · exact ⟨rfl, h.withIpDb (h.ipDb.tried.setIpState e.now) _ _⟩
    · exact ⟨rfl, h.withIpDb h.ipDb.tried _ _⟩
  · exact ⟨rfl, h⟩

theorem publish (h : Alike S answers ip s₀ t₀ s t) (e : BanEnv) (he : answers e.bindTry)
    (reason : Bytes) :
    Agree (Alike S answers ip s₀ t₀) (S.publish e ip reason s) (S.publish e ip reason t) := by
  have hs : (S.publish e ip reason s).2.ipDb = s.ipDb := Swabber.publish_ipDb rfl
  have ht : (S.publish e ip reason t).2.ipDb = t.ipDb := Swabber.publish_ipDb rfl
  have hleft : ∀ b, answers b → S.reaches b (S.publish e ip reason s).2 = S.reaches b s :=
    fun b hb => Swabber.reaches_publish (h.steady b _ hb he) ip reason
  have hright : ∀ b, answers b → S.reaches b (S.publish e ip reason t).2 = S.reaches b t := by
    intro b hb
    refine Swabber.reaches_publish ?_ ip reason
    rw [← h.reach b hb, ← h.reach _ he, h.steady b _ hb he]
  refine ⟨?_, ?_, ?_, ?_, ?_, ?_⟩
  · rw [Swabber.publish_fst, Swabber.publish_fst, h.reach _ he]
  · rw [hs, ht]
    exact h.ipDb
  · intro b b' hb hb'
    rw [hleft b hb, hleft b' hb', h.steady b b' hb hb']
  · intro b hb
    rw [hleft b hb, hright b hb, h.reach b hb]
  · intro b hb
    rw [hleft b hb, h.leftReach b hb]
  · intro b hb
    rw [hright b hb, h.rightReach b hb]

theorem ban (h : Alike S answers ip s₀ t₀ s t) (e : BanEnv) (he : answers e.bindTry)
    (reason : Bytes) :
    Alike S answers ip s₀ t₀ (S.ban e ip reason s) (S.ban e ip reason t) := by
  rw [Swabber.ban, Swabber.ban]
  obtain ⟨b, s₁, t₁, hs, ht, h₁⟩ := (h.awaitGrace e reason).parts
  rw [hs, ht]
  cases b with
  | false => exact h₁
  | true =>
      dsimp only
      obtain ⟨b, s₂, t₂, hs, ht, h₂⟩ := (h₁.publish e he reason).parts
      rw [hs, ht]
      cases b with
      | false => exact h₂
      | true => exact h₂.withIpDb h₂.ipDb.dropIp _ _

/-- A visit is answered alike. -/
theorem onHttpRequest {parts : TransactionParts} (D : Denialator)
    (h : Alike S answers parts.ip.str s₀ t₀ s t) (e : DenialEnv) (he : answers e.ban.bindTry) :
    Agree (Alike S answers parts.ip.str s₀ t₀) (D.onHttpRequest S e parts s)
      (D.onHttpRequest S e parts t) := by
  rw [Denialator.onHttpRequest, Denialator.onHttpRequest]
  dsimp only
  split
  · exact ⟨rfl, h⟩
  · rw [h.ipDb.getIpState.1, h.ipDb.getIpState.2]
    have htried := h.withIpDb h.ipDb.tried s.banIpList t.banIpList
    dsimp only
    split
    · refine ⟨rfl, ?_⟩
      dsimp only
      split
      · exact htried.ban e.ban he _
      · exact htried
    · exact ⟨rfl, htried⟩

end SwabberState.Alike

end Banjax
