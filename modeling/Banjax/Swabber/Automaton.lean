import Banjax.Swabber.Denialator
import Banjax.Swabber.Grace

/-!
# One automaton for every address

What the swabber and the denialator are for, said without a database: an address is
unflagged, or flagged since some time.  A request to ban flags it; a request or a
visit that finds a flag older than the grace period publishes one message and takes
the flag away.

`run_refines` compares a run of the two filters with these automata, one for each
address.  Nothing fails in it: every lock is free and the socket stays bound.  The
clock is positive, since a flag of time `0` would not be a flag, and it does not go
back, so the swabber never finds the grace period running when the denialator found
it over.
-/

namespace Banjax

open Lib

/-! ## The automaton -/

/-- The state of the automaton. -/
inductive Flag where
  | unflagged
  | flagged (since : Int)
deriving DecidableEq, Repr

namespace Flag

/-- A flag is met at a time: the state after it, and the number of messages. -/
def meet (grace now since : Int) : Flag × Nat :=
  if now - since < grace then (flagged since, 0) else (unflagged, 1)

/-- A request to ban. -/
def ban (grace now : Int) : Flag → Flag × Nat
  | unflagged => (flagged now, 0)
  | flagged since => meet grace now since

/-- A visit. -/
def visit (grace now : Int) : Flag → Flag × Nat
  | unflagged => (unflagged, 0)
  | flagged since => meet grace now since

end Flag

/-! ## Runs -/

/-- What happens: a request to ban from another filter, or a visit. -/
inductive Incident where
  | ban (e : BanEnv) (ip reason : Bytes)
  | visit (e : DenialEnv) (parts : TransactionParts)

namespace Incident

/-- The address it is about. -/
def ip : Incident → Bytes
  | ban _ ip _ => ip
  | visit _ parts => parts.ip.str

/-- The readings of the clock, in their order. -/
def readings : Incident → List Int
  | ban e _ _ => [e.now]
  | visit e _ => [e.now, e.ban.now]

/-- The mutex of the socket is free. -/
def Acquires : Incident → Prop
  | ban e _ _ => e.lockTry = true
  | visit e _ => e.ban.lockTry = true

end Incident

/-- The clock of a run is positive and does not go back. -/
def Clocked (xs : List Incident) : Prop :=
  (xs.flatMap Incident.readings).Pairwise (· ≤ ·) ∧ ∀ now ∈ xs.flatMap Incident.readings, 0 < now

instance (xs : List Incident) : Decidable (Clocked xs) := inferInstanceAs (Decidable (_ ∧ _))

/-- The automaton of one address: an incident of another address, or the visit of a
white listed one, does nothing. -/
def Flag.step (grace : Int) (whiteListed : Bytes → Bool) (ip : Bytes) (f : Flag) (x : Incident) :
    Flag × Nat :=
  if x.ip ≠ ip then (f, 0)
  else
    match x with
    | .ban e _ _ => f.ban grace e.now
    | .visit e parts => if whiteListed parts.ip.str then (f, 0) else f.visit grace e.now

/-- The automaton of one address after a run. -/
def Flag.run (grace : Int) (whiteListed : Bytes → Bool) (ip : Bytes) (xs : List Incident) : Flag :=
  xs.foldl (fun f x => (f.step grace whiteListed ip x).1) .unflagged

namespace Denialator

variable (D : Denialator) (S : Swabber)

/-- An incident at the two filters: the state after it, and the answer to a visit. -/
def incident (s : SwabberState) :
    Incident → SwabberState × Option (FilterResponse FilterExtendedResponse)
  | .ban e ip reason => (S.ban e ip reason s, none)
  | .visit e parts =>
      let (response, s) := D.onHttpRequest S e parts s
      (s, some response)

/-- The state after a run. -/
def runIncidents (s : SwabberState) (xs : List Incident) : SwabberState :=
  xs.foldl (fun s x => (D.incident S s x).1) s

end Denialator

/-- The state of the automaton that a stored time stands for. -/
def Flag.ofTime (since : Int) : Flag := if since = 0 then unflagged else flagged since

/-- The state of the automaton that the database holds for an address. -/
def SwabberState.flag (s : SwabberState) (ip : Bytes) : Flag := Flag.ofTime (s.flagOf ip)

/-! ## The automaton on stored times -/

namespace Flag

theorem ofTime_ban {now : Int} (grace since : Int) (hnow : 0 < now) :
    (ofTime since).ban grace now =
      (ofTime (if since = 0 then now else if now - since < grace then since else 0),
        if since = 0 then 0 else if now - since < grace then 0 else 1) := by
  by_cases hzero : since = 0
  · rw [ofTime, if_pos hzero, if_pos hzero, if_pos hzero, ofTime, if_neg (by omega)]
    rfl
  · rw [ofTime, if_neg hzero, if_neg hzero, if_neg hzero, ban, meet]
    split
    · rw [ofTime, if_neg hzero]
    · rfl

theorem ofTime_visit (grace now since : Int) :
    (ofTime since).visit grace now =
      (ofTime (if now - since < grace then since else 0),
        if since = 0 then 0 else if now - since < grace then 0 else 1) := by
  by_cases hzero : since = 0
  · rw [ofTime, if_pos hzero, hzero, ite_self, if_pos rfl]
    rfl
  · rw [ofTime, if_neg hzero, if_neg hzero, visit, meet]
    split
    · rw [ofTime, if_neg hzero]
    · rfl

theorem ofTime_eq_unflagged {since : Int} : ofTime since = unflagged ↔ since = 0 := by
  rw [ofTime]
  split
  · next h => simp [h]
  · next h => simp [h]

section Step

variable (grace : Int) (whiteListed : Bytes → Bool) (f : Flag)

theorem step_other {ip : Bytes} {x : Incident} (h : x.ip ≠ ip) :
    f.step grace whiteListed ip x = (f, 0) := if_pos h

theorem step_ban (e : BanEnv) (ip reason : Bytes) :
    f.step grace whiteListed ip (.ban e ip reason) = f.ban grace e.now :=
  if_neg (not_not.mpr rfl)

theorem step_visit (e : DenialEnv) (parts : TransactionParts) :
    f.step grace whiteListed parts.ip.str (.visit e parts) =
      if whiteListed parts.ip.str then (f, 0) else f.visit grace e.now :=
  if_neg (not_not.mpr rfl)

end Step

/-- The messages of a step, one or none. -/
theorem replicate_ite {α : Type} (m : α) (p q : Prop) [Decidable p] [Decidable q] :
    List.replicate (if p then 0 else if q then 0 else 1) m =
      if p then [] else if q then [] else [m] := by
  split
  · rfl
  · split <;> rfl

end Flag

/-! ## One incident -/

/-- What an incident does to the two filters is what it does to the automata: the
one of its address steps, the others stay, and the messages are those of the step. -/
structure Matches (grace : Int) (whiteListed : Bytes → Bool) (x : Incident) (s s' : SwabberState) :
    Prop where
  ready : s'.Ready
  flags : ∀ ip, s'.flag ip = ((s.flag ip).step grace whiteListed ip x).1
  sent : s'.sent = s.sent ++
    List.replicate ((s.flag x.ip).step grace whiteListed x.ip x).2 (swabberBan, x.ip)

namespace Denialator

variable {D : Denialator} {S : Swabber} {s : SwabberState}

theorem matches_ban (hgrace : 0 < S.gracePeriod) (hready : s.Ready) {e : BanEnv}
    (whiteListed : Bytes → Bool) (ip reason : Bytes) (hlock : e.lockTry = true) (hnow : 0 < e.now) :
    Matches S.gracePeriod whiteListed (.ban e ip reason) s (S.ban e ip reason s) := by
  have hban := Swabber.ban_acquired ip reason hgrace hready hlock
  have hstep := Flag.ofTime_ban S.gracePeriod (s.flagOf ip) hnow
  refine ⟨hban.ready, ?_, ?_⟩
  · intro ip'
    rw [SwabberState.flag, hban.flags]
    by_cases hip : ip' = ip
    · subst hip
      rw [if_pos rfl, Flag.step_ban]
      exact (congrArg Prod.fst hstep).symm
    · rw [if_neg hip, Flag.step_other _ _ _ (Ne.symm hip)]
      rfl
  · rw [hban.sent, show (Incident.ban e ip reason).ip = ip from rfl, Flag.step_ban,
      SwabberState.flag, hstep, Flag.replicate_ite]

theorem matches_visit (hgrace : 0 < S.gracePeriod) (hready : s.Ready) {e : DenialEnv}
    (parts : TransactionParts) (hcopy : D.banningGracePeriod = S.gracePeriod)
    (hlock : e.ban.lockTry = true) (hclock : e.now ≤ e.ban.now) :
    Matches S.gracePeriod D.isGloballyWhiteListed (.visit e parts) s
        (D.onHttpRequest S e parts s).2 ∧
      ((∃ d, (D.onHttpRequest S e parts s).1 = .iRespond d) ↔
        D.isGloballyWhiteListed parts.ip.str = false ∧ s.flag parts.ip.str ≠ .unflagged) := by
  cases hwhite : D.isGloballyWhiteListed parts.ip.str with
  | true =>
      have hstep : ∀ ip, (s.flag ip).step S.gracePeriod D.isGloballyWhiteListed ip
          (.visit e parts) = (s.flag ip, 0) := by
        intro ip
        by_cases hip : parts.ip.str = ip
        · subst hip
          rw [Flag.step_visit, if_pos hwhite]
        · exact Flag.step_other _ _ _ hip
      rw [onHttpRequest_whiteListed hwhite]
      refine ⟨⟨hready, ?_, ?_⟩, ?_⟩
      · intro ip
        rw [hstep]
      · rw [hstep]
        exact (List.append_nil _).symm
      · simp
  | false =>
      obtain ⟨hresponse, hvisit⟩ :=
        onHttpRequest_acquired parts hgrace hready hcopy hwhite hlock hclock
      have hstep := Flag.ofTime_visit S.gracePeriod e.now (s.flagOf parts.ip.str)
      refine ⟨⟨hvisit.ready, ?_, ?_⟩, ?_⟩
      · intro ip
        rw [SwabberState.flag, hvisit.flags]
        by_cases hip : ip = parts.ip.str
        · subst hip
          rw [if_pos rfl, Flag.step_visit, hwhite]
          exact (congrArg Prod.fst hstep).symm
        · rw [if_neg hip, Flag.step_other _ _ _ (Ne.symm hip)]
          rfl
      · rw [hvisit.sent, show (Incident.visit e parts).ip = parts.ip.str from rfl,
          Flag.step_visit, hwhite, if_neg Bool.false_ne_true, SwabberState.flag, hstep,
          Flag.replicate_ite]
      · rw [hresponse, SwabberState.flag, Ne, Ne, Flag.ofTime_eq_unflagged]
        simp

/-- An incident matches its step, and a visit is answered in a flagged state only. -/
theorem matches_incident (hgrace : 0 < S.gracePeriod) (hready : s.Ready)
    (hcopy : D.banningGracePeriod = S.gracePeriod) {x : Incident} (hlock : x.Acquires)
    (hclock : Clocked [x]) :
    Matches S.gracePeriod D.isGloballyWhiteListed x s (D.incident S s x).1 ∧
      ((∃ d, (D.incident S s x).2 = some (.iRespond d)) ↔
        (∃ e parts, x = .visit e parts) ∧ D.isGloballyWhiteListed x.ip = false ∧
          s.flag x.ip ≠ .unflagged) := by
  obtain ⟨hordered, hpositive⟩ := hclock
  cases x with
  | ban e ip reason =>
      have hnow : 0 < e.now := hpositive e.now (by simp [Incident.readings])
      refine ⟨matches_ban hgrace hready _ ip reason hlock hnow, ?_⟩
      simp [incident]
  | visit e parts =>
      have hlater : e.now ≤ e.ban.now := by simpa [Incident.readings] using hordered
      obtain ⟨hmatch, hanswer⟩ := matches_visit hgrace hready parts hcopy hlock hlater
      refine ⟨hmatch, ?_⟩
      simpa [incident, Incident.ip] using hanswer

end Denialator

/-! ## Whole runs -/

theorem Clocked.single {xs : List Incident} (h : Clocked xs) {x : Incident} (hx : x ∈ xs) :
    Clocked [x] := by
  obtain ⟨hordered, hpositive⟩ := h
  have hsub : x.readings.Sublist (xs.flatMap Incident.readings) := by
    obtain ⟨before, after, rfl⟩ := List.append_of_mem hx
    rw [List.flatMap_append, List.flatMap_cons]
    exact (List.sublist_append_left _ _).trans (List.sublist_append_right _ _)
  refine ⟨?_, ?_⟩
  · rw [List.flatMap_singleton]
    exact hordered.sublist hsub
  · intro now hnow
    rw [List.flatMap_singleton] at hnow
    exact hpositive now (hsub.subset hnow)

namespace Denialator

variable (D : Denialator) (S : Swabber)

theorem runIncidents_snoc (s : SwabberState) (xs : List Incident) (x : Incident) :
    D.runIncidents S s (xs ++ [x]) = (D.incident S (D.runIncidents S s xs) x).1 := by
  rw [runIncidents, List.foldl_append]
  rfl

/-- After a run every address has the state of its automaton. -/
theorem flag_runIncidents (hgrace : 0 < S.gracePeriod)
    (hcopy : D.banningGracePeriod = S.gracePeriod) {s : SwabberState} (hready : s.Ready)
    (hempty : s.ipDb.db = ∅) (xs : List Incident) (hlocks : ∀ x ∈ xs, x.Acquires)
    (hclock : Clocked xs) :
    (D.runIncidents S s xs).Ready ∧ ∀ ip, (D.runIncidents S s xs).flag ip =
      Flag.run S.gracePeriod D.isGloballyWhiteListed ip xs := by
  have main : ∀ ys : List Incident, ys <+: xs → (D.runIncidents S s ys).Ready ∧
      ∀ ip, (D.runIncidents S s ys).flag ip =
        Flag.run S.gracePeriod D.isGloballyWhiteListed ip ys := by
    intro ys
    induction ys using List.reverseRecOn with
    | nil =>
        intro _
        refine ⟨hready, ?_⟩
        intro ip
        rw [SwabberState.flag, SwabberState.flagOf, IpDb.stateOf]
        simp only [runIncidents, List.foldl_nil, hempty]
        rfl
    | append_singleton ys y ih =>
        intro hpre
        obtain ⟨hready', hflags⟩ := ih ((List.prefix_append ys [y]).trans hpre)
        have hy : y ∈ xs := hpre.subset (by simp)
        have hmatch := (matches_incident hgrace hready' hcopy (hlocks y hy) (hclock.single hy)).1
        rw [runIncidents_snoc]
        refine ⟨hmatch.ready, ?_⟩
        intro ip
        rw [hmatch.flags, hflags, Flag.run, Flag.run, List.foldl_append]
        rfl
  exact main xs (List.prefix_refl xs)

end Denialator

/-- The swabber and the denialator refine the automaton.  At every incident of every
run, each address is in the state of its automaton, the automaton of the address of
the incident steps and the others stay, exactly the messages of this step are
published, and a visit is answered by the denialator when it is made in a flagged
state by an address that is not white listed, and only then. -/
theorem run_refines (S : Swabber) (whiteList : Option GlobalWhiteList) (s₀ : SwabberState)
    (xs : List Incident) (x : Incident) (hgrace : 0 < S.gracePeriod) (hready : s₀.Ready)
    (hempty : s₀.ipDb.db = ∅) (hlocks : ∀ y ∈ xs ++ [x], y.Acquires)
    (hclock : Clocked (xs ++ [x])) :
    let D := Denialator.create S whiteList
    let s := D.runIncidents S s₀ xs
    let s' := (D.incident S s x).1
    (∀ ip, s.flag ip = Flag.run S.gracePeriod D.isGloballyWhiteListed ip xs) ∧
    (∀ ip, s'.flag ip = ((s.flag ip).step S.gracePeriod D.isGloballyWhiteListed ip x).1) ∧
    s'.sent = s.sent ++ List.replicate
      ((s.flag x.ip).step S.gracePeriod D.isGloballyWhiteListed x.ip x).2 (swabberBan, x.ip) ∧
    ((∃ d, (D.incident S s x).2 = some (.iRespond d)) ↔
      (∃ e parts, x = .visit e parts) ∧ D.isGloballyWhiteListed x.ip = false ∧
        s.flag x.ip ≠ .unflagged) := by
  intro D s s'
  have hxs : Clocked xs := by
    obtain ⟨hordered, hpositive⟩ := hclock
    rw [List.flatMap_append] at hordered hpositive
    exact ⟨hordered.sublist (List.sublist_append_left _ _),
      fun now hnow => hpositive now (List.mem_append_left _ hnow)⟩
  obtain ⟨hready', hflags⟩ := D.flag_runIncidents S hgrace rfl hready hempty xs
    (fun y hy => hlocks y (List.mem_append_left _ hy)) hxs
  have hx : x ∈ xs ++ [x] := by simp
  obtain ⟨hmatch, hanswer⟩ :=
    Denialator.matches_incident (D := D) hgrace hready' rfl (hlocks x hx) (hclock.single hx)
  exact ⟨hflags, hmatch.flags, hmatch.sent, hanswer⟩

/-- A visit of an address. -/
def sampleVisit (now : Int) (ip : InAddr) : Incident :=
  .visit ⟨now, { now := now }⟩
    { ip := .ofAddr ip, url := [], host := [], ua := [], cookie := [], urlWithHost := [] }

/-- A visit fifteen seconds after a request to ban is denied, and publishes one
message. -/
theorem run_refines_visit :
    let D := Denialator.create Swabber.sampleSwabber none
    let s := D.runIncidents Swabber.sampleSwabber Swabber.sampleState
      [.ban { now := 100 } (inetNtoa ⟨10, 0, 0, 1⟩) []]
    (∃ d, (D.incident Swabber.sampleSwabber s (sampleVisit 115 ⟨10, 0, 0, 1⟩)).2 =
      some (.iRespond d)) ∧
    (D.incident Swabber.sampleSwabber s (sampleVisit 115 ⟨10, 0, 0, 1⟩)).1.sent =
      s.sent ++ [(swabberBan, inetNtoa ⟨10, 0, 0, 1⟩)] := by
  intro D s
  obtain ⟨-, -, hsent, hanswer⟩ := run_refines Swabber.sampleSwabber none Swabber.sampleState
    [.ban { now := 100 } (inetNtoa ⟨10, 0, 0, 1⟩) []] (sampleVisit 115 ⟨10, 0, 0, 1⟩)
    (by decide) ⟨IpDb.empty_allAcquired, _, rfl, rfl⟩ rfl
    (by rintro y hy; simp only [List.mem_append, List.mem_singleton] at hy
        rcases hy with rfl | rfl <;> rfl)
    (by decide)
  refine ⟨hanswer.mpr ⟨⟨_, _, rfl⟩, rfl, ?_⟩, hsent.trans ?_⟩
  · decide +kernel
  · decide +kernel

end Banjax
