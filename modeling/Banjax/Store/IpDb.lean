import Banjax.Lib.Bytes
import Mathlib.Data.List.AList

/-!
# The IP databases

`IpDb` of `ip_db.h`: a table from addresses to states behind a mutex.  Every
operation first tries the mutex and does nothing when it is taken.  What the
coming tries give is not up to the program, so a database carries it as a list
`lockTry`, one entry per try.  A try beyond the end of the list succeeds.

`AllAcquired` is the assumption that no try fails.  Under it the operations are
those of a table with a default (`getIpState_acquired`, `stateOf_setIpState`,
`stateOf_dropIp`).
-/

namespace Banjax

open Lib

/-- A table with byte string keys, each key at most once. -/
abbrev Table (α : Type) := AList fun _ : Bytes => α

/-- `IpDb<IpState>`. -/
structure IpDb (σ : Type) where
  /-- `_db`. -/
  db : Table σ
  /-- What the coming `TSMutexLockTry(_mutex)` calls give. -/
  lockTry : List Bool

namespace IpDb

variable {σ : Type}

/-- An empty database whose mutex is always free. -/
def empty : IpDb σ := ⟨∅, []⟩

/-- `TSMutexLockTry(_mutex)`: whether the mutex was taken, and the database after
the try. -/
def tryLock (d : IpDb σ) : Bool × IpDb σ :=
  match d.lockTry with
  | [] => (true, d)
  | b :: bs => (b, { d with lockTry := bs })

/-- `set_ip_state`. -/
def setIpState (d : IpDb σ) (ip : Bytes) (state : σ) : Bool × IpDb σ :=
  let (acquired, d) := d.tryLock
  if acquired then (true, { d with db := d.db.insert ip state }) else (false, d)

/-- `get_ip_state`.  An address that is not in the table has the state `IpState{}`. -/
def getIpState [Inhabited σ] (d : IpDb σ) (ip : Bytes) : Option σ × IpDb σ :=
  let (acquired, d) := d.tryLock
  if acquired then (some ((d.db.lookup ip).getD default), d) else (none, d)

/-- `drop_ip`. -/
def dropIp (d : IpDb σ) (ip : Bytes) : Bool × IpDb σ :=
  let (acquired, d) := d.tryLock
  if acquired then (decide (ip ∈ d.db), { d with db := d.db.erase ip }) else (false, d)

/-! ## What the operations do -/

/-- The state of an address, stored or default. -/
def stateOf [Inhabited σ] (d : IpDb σ) (ip : Bytes) : σ := (d.db.lookup ip).getD default

/-- No try of the mutex fails. -/
def AllAcquired (d : IpDb σ) : Prop := ∀ b ∈ d.lockTry, b = true

/-- The database after one try of the mutex. -/
def tried (d : IpDb σ) : IpDb σ := { d with lockTry := d.lockTry.tail }

@[simp] theorem tried_db (d : IpDb σ) : d.tried.db = d.db := rfl

@[simp] theorem stateOf_tried [Inhabited σ] (d : IpDb σ) (ip : Bytes) :
    d.tried.stateOf ip = d.stateOf ip := rfl

theorem AllAcquired.tried {d : IpDb σ} (h : d.AllAcquired) : d.tried.AllAcquired :=
  fun b hb => h b (List.mem_of_mem_tail hb)

theorem empty_allAcquired : (empty : IpDb σ).AllAcquired := by
  intro b hb
  cases hb

/-- A database that differs in the table only has the same mutex. -/
theorem AllAcquired.withDb {d : IpDb σ} (h : d.AllAcquired) (t : Table σ) :
    ({ d with db := t } : IpDb σ).AllAcquired := h

/-- A read changes no state. -/
theorem getIpState_db [Inhabited σ] {d d' : IpDb σ} {ip : Bytes} {state : Option σ}
    (h : d.getIpState ip = (state, d')) : d'.db = d.db := by
  obtain ⟨t, locks⟩ := d
  cases locks with
  | nil =>
      cases h
      rfl
  | cons b bs => cases b <;> (cases h; rfl)

theorem AllAcquired.getIpState [Inhabited σ] {d d' : IpDb σ} {ip : Bytes} {state : Option σ}
    (hd : d.AllAcquired) (h : d.getIpState ip = (state, d')) : d'.AllAcquired := by
  obtain ⟨t, locks⟩ := d
  cases locks with
  | nil =>
      cases h
      exact hd
  | cons b bs => cases b <;> (cases h; exact hd.tried)

/-! ## Whatever the mutex does -/

section AnyLock

variable {d d' : IpDb σ}

theorem stateOf_congr [Inhabited σ] (h : d'.db = d.db) (ip : Bytes) :
    d'.stateOf ip = d.stateOf ip := by
  rw [stateOf, stateOf, h]

theorem stateOf_of_insert [Inhabited σ] {ip : Bytes} {state : σ} (h : d'.db = d.db.insert ip state)
    (ip' : Bytes) : d'.stateOf ip' = if ip' = ip then state else d.stateOf ip' := by
  rw [stateOf, h]
  by_cases he : ip' = ip
  · subst he
    simp
  · rw [AList.lookup_insert_ne he, if_neg he]
    rfl

theorem stateOf_of_erase [Inhabited σ] {ip : Bytes} (h : d'.db = d.db.erase ip) (ip' : Bytes) :
    d'.stateOf ip' = if ip' = ip then default else d.stateOf ip' := by
  rw [stateOf, h]
  by_cases he : ip' = ip
  · subst he
    simp
  · rw [AList.lookup_erase_ne he, if_neg he]
    rfl

/-- A read that gets the mutex gives the state of the address. -/
theorem getIpState_some [Inhabited σ] {ip : Bytes} {state : σ}
    (h : d.getIpState ip = (some state, d')) : state = d.stateOf ip := by
  obtain ⟨t, locks⟩ := d
  cases locks with
  | nil =>
      cases h
      rfl
  | cons b bs => cases b <;> (cases h; try rfl)

/-- A write is made or not made. -/
theorem setIpState_db (d : IpDb σ) (ip : Bytes) (state : σ) :
    (d.setIpState ip state).2.db = d.db ∨ (d.setIpState ip state).2.db = d.db.insert ip state := by
  obtain ⟨t, locks⟩ := d
  cases locks with
  | nil => exact .inr rfl
  | cons b bs =>
      cases b with
      | false => exact .inl rfl
      | true => exact .inr rfl

/-- So is a removal. -/
theorem dropIp_db (d : IpDb σ) (ip : Bytes) :
    (d.dropIp ip).2.db = d.db ∨ (d.dropIp ip).2.db = d.db.erase ip := by
  obtain ⟨t, locks⟩ := d
  cases locks with
  | nil => exact .inr rfl
  | cons b bs =>
      cases b with
      | false => exact .inl rfl
      | true => exact .inr rfl

end AnyLock

/-! ## When every try succeeds -/

section Acquired

variable {d : IpDb σ}

theorem tryLock_acquired (h : d.AllAcquired) : d.tryLock = (true, d.tried) := by
  obtain ⟨t, locks⟩ := d
  cases locks with
  | nil => rfl
  | cons b bs =>
      have hb : b = true := h b (List.mem_cons_self ..)
      subst hb
      rfl

theorem setIpState_acquired (h : d.AllAcquired) (ip : Bytes) (state : σ) :
    d.setIpState ip state = (true, { d.tried with db := d.db.insert ip state }) := by
  rw [setIpState, tryLock_acquired h]
  rfl

theorem dropIp_acquired (h : d.AllAcquired) (ip : Bytes) :
    d.dropIp ip = (decide (ip ∈ d.db), { d.tried with db := d.db.erase ip }) := by
  rw [dropIp, tryLock_acquired h]
  rfl

theorem AllAcquired.setIpState (h : d.AllAcquired) (ip : Bytes) (state : σ) :
    (d.setIpState ip state).2.AllAcquired := by
  rw [setIpState_acquired h]
  exact h.tried.withDb _

theorem AllAcquired.dropIp (h : d.AllAcquired) (ip : Bytes) : (d.dropIp ip).2.AllAcquired := by
  rw [dropIp_acquired h]
  exact h.tried.withDb _

variable [Inhabited σ]

/-- A read gives the state of the address. -/
theorem getIpState_acquired (h : d.AllAcquired) (ip : Bytes) :
    d.getIpState ip = (some (d.stateOf ip), d.tried) := by
  rw [getIpState, tryLock_acquired h]
  rfl

/-- A write changes the state of its address and of no other. -/
theorem stateOf_setIpState (h : d.AllAcquired) (ip ip' : Bytes) (state : σ) :
    (d.setIpState ip state).2.stateOf ip' = if ip' = ip then state else d.stateOf ip' := by
  rw [setIpState_acquired h]
  exact stateOf_of_insert rfl ip'

/-- A dropped address has the default state again. -/
theorem stateOf_dropIp (h : d.AllAcquired) (ip ip' : Bytes) :
    (d.dropIp ip).2.stateOf ip' = if ip' = ip then default else d.stateOf ip' := by
  rw [dropIp_acquired h]
  exact stateOf_of_erase rfl ip'

end Acquired

/-! ## Two databases and one address -/

/-- Two databases have been worked on for one address: they agree on it, and each of
them is as it was for all others. -/
structure Alike [Inhabited σ] (ip : Bytes) (d₀ e₀ d e : IpDb σ) : Prop where
  left : d.AllAcquired
  right : e.AllAcquired
  own : d.stateOf ip = e.stateOf ip
  leftOthers : ∀ ip', ip' ≠ ip → d.stateOf ip' = d₀.stateOf ip'
  rightOthers : ∀ ip', ip' ≠ ip → e.stateOf ip' = e₀.stateOf ip'

namespace Alike

variable [Inhabited σ] {ip : Bytes} {d₀ e₀ d e : IpDb σ}

theorem start (hd : d.AllAcquired) (he : e.AllAcquired) (h : d.stateOf ip = e.stateOf ip) :
    Alike ip d e d e :=
  ⟨hd, he, h, fun _ _ => rfl, fun _ _ => rfl⟩

theorem tried (h : Alike ip d₀ e₀ d e) : Alike ip d₀ e₀ d.tried e.tried :=
  ⟨h.left.tried, h.right.tried, h.own, h.leftOthers, h.rightOthers⟩

/-- Both reads give the state of the second one. -/
theorem getIpState (h : Alike ip d₀ e₀ d e) :
    d.getIpState ip = (some (e.stateOf ip), d.tried) ∧
      e.getIpState ip = (some (e.stateOf ip), e.tried) :=
  ⟨by rw [getIpState_acquired h.left, h.own], getIpState_acquired h.right ip⟩

theorem setIpState (h : Alike ip d₀ e₀ d e) (state : σ) :
    Alike ip d₀ e₀ (d.setIpState ip state).2 (e.setIpState ip state).2 := by
  refine ⟨h.left.setIpState ip state, h.right.setIpState ip state, ?_, ?_, ?_⟩
  · rw [stateOf_setIpState h.left, stateOf_setIpState h.right, if_pos rfl, if_pos rfl]
  · intro ip' hne
    rw [stateOf_setIpState h.left, if_neg hne, h.leftOthers ip' hne]
  · intro ip' hne
    rw [stateOf_setIpState h.right, if_neg hne, h.rightOthers ip' hne]

theorem dropIp (h : Alike ip d₀ e₀ d e) :
    Alike ip d₀ e₀ (d.dropIp ip).2 (e.dropIp ip).2 := by
  refine ⟨h.left.dropIp ip, h.right.dropIp ip, ?_, ?_, ?_⟩
  · rw [stateOf_dropIp h.left, stateOf_dropIp h.right, if_pos rfl, if_pos rfl]
  · intro ip' hne
    rw [stateOf_dropIp h.left, if_neg hne, h.leftOthers ip' hne]
  · intro ip' hne
    rw [stateOf_dropIp h.right, if_neg hne, h.rightOthers ip' hne]

end Alike

/-- Two databases agree on the chosen addresses. -/
structure Matches [Inhabited σ] (others : Bytes → Bool) (d e : IpDb σ) : Prop where
  left : d.AllAcquired
  right : e.AllAcquired
  same : ∀ ip, others ip = true → d.stateOf ip = e.stateOf ip

namespace Matches

variable [Inhabited σ] {others : Bytes → Bool} {ip : Bytes} {d e d' e' : IpDb σ}

/-- Work for a chosen address, on both of them. -/
theorem both (h : Matches others d e) (hd : Alike ip d e d' e') : Matches others d' e' := by
  refine ⟨hd.left, hd.right, ?_⟩
  intro ip' hchosen
  cases decEq ip' ip with
  | isTrue heq => rw [heq, hd.own]
  | isFalse hne => rw [hd.leftOthers ip' hne, hd.rightOthers ip' hne, h.same ip' hchosen]

/-- Work for an address that is not chosen, on one of them. -/
theorem one (h : Matches others d e) (hip : others ip = false) (hd : Alike ip d d d' d') :
    Matches others d' e := by
  refine ⟨hd.left, h.right, ?_⟩
  intro ip' hchosen
  have hne : ip' ≠ ip := by
    rintro rfl
    simp [hip] at hchosen
  rw [hd.leftOthers ip' hne, h.same ip' hchosen]

end Matches

end IpDb

end Banjax
