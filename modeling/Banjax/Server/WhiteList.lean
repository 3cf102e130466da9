import Banjax.Config.Priorities
import Banjax.Server.Isolation

/-!
# White listed clients

The white lister ends the loop over the filters for a request that the white list
accepts, so a filter with a larger priority is not called.  The server then behaves as
one in whose configuration these filters are missing (`serve_upTo`).

A filter that is not in the queue is not called, does not answer, and leaves the
databases that are its own alone (`serve_within`).

The filters in front of the white lister see its clients.  A ban of theirs may bind the socket,
which the bans of all addresses share (`whiteListed_binds_socket`).
-/

namespace Banjax

open Lib

variable {ρ : Type} [FloatArithmetic ρ]

/-! ## What the filters of a queue can do -/

/-- The state has changed only where one of the filters may change it. -/
structure ServerState.Touched (fs : List FilterName) (s s' : ServerState ρ) : Prop where
  regex : .regexBanner ∉ fs → s'.regexManagerIpDb = s.regexManagerIpDb
  challenger : .challenger ∉ fs → s'.challengerIpDb = s.challengerIpDb
  swabber : .regexBanner ∉ fs → .challenger ∉ fs → .denialator ∉ fs → s'.swabber = s.swabber

namespace ServerState.Touched

variable {fs gs : List FilterName} {s s' s'' : ServerState ρ}

theorem refl (fs : List FilterName) (s : ServerState ρ) : Touched fs s s :=
  ⟨fun _ => rfl, fun _ => rfl, fun _ _ _ => rfl⟩

theorem trans (h : Touched fs s s') (h' : Touched fs s' s'') : Touched fs s s'' :=
  ⟨fun hf => (h'.regex hf).trans (h.regex hf),
    fun hf => (h'.challenger hf).trans (h.challenger hf),
    fun hr hc hd => (h'.swabber hr hc hd).trans (h.swabber hr hc hd)⟩

theorem mono (h : Touched fs s s') (hsub : fs ⊆ gs) : Touched gs s s' :=
  ⟨fun hf => h.regex fun hmem => hf (hsub hmem), fun hf => h.challenger fun hmem => hf (hsub hmem),
    fun hr hc hd => h.swabber (fun hmem => hr (hsub hmem)) (fun hmem => hc (hsub hmem))
      fun hmem => hd (hsub hmem)⟩

end ServerState.Touched

namespace Server

variable {S : Server ρ} {r : Request}

/-- A filter touches its own part of the state, and responds under its own name. -/
theorem onHttpRequest_ok {s s' : ServerState ρ} {f : FilterName}
    {response : FilterResponse Responder}
    (h : S.onHttpRequest r s f = .ok (response, s')) :
    ServerState.Touched [f] s s' ∧ ∀ d, response = .iRespond d → d.filterName = f := by
  cases f with
  | botSniffer =>
      cases h
      exact ⟨.refl _ _, nofun⟩
  | whiteLister =>
      cases h
      refine ⟨.refl _ _, ?_⟩
      intro d hd
      rw [WhiteLister.onHttpRequest] at hd
      split at hd <;> cases hd
  | regexBanner =>
      obtain ⟨⟨response', db, swabber⟩, _, h⟩ := bind_eq_ok.mp h
      cases h
      refine ⟨⟨by simp, fun _ => rfl, by simp⟩, ?_⟩
      intro d hd
      cases response' <;> cases hd
      rfl
  | challenger =>
      obtain ⟨⟨response', w⟩, _, h⟩ := bind_eq_ok.mp h
      cases h
      refine ⟨⟨fun _ => rfl, by simp, by simp⟩, ?_⟩
      intro d hd
      cases response' <;> cases hd
      rfl
  | denialator =>
      obtain ⟨response', swabber, hvisit⟩ : ∃ response' swabber, S.denialator.onHttpRequest
          S.swabber ⟨r.curTimeSec, r.ban .denialator⟩ r.parts s.swabber = (response', swabber) :=
        ⟨_, _, rfl⟩
      rw [onHttpRequest, hvisit] at h
      cases h
      refine ⟨⟨fun _ => rfl, fun _ => rfl, by simp⟩, ?_⟩
      intro d hd
      cases response' <;> cases hd
      rfl

/-- What the loop over the filters leaves. -/
structure Within (fs : List FilterName) (t t' : Progress ρ) : Prop where
  executed : ∃ es, es <+: fs ∧ t'.executed = t.executed ++ es
  responder : ∀ d, t'.responseInfo = some d → t.responseInfo = some d ∨ d.filterName ∈ fs
  touched : ServerState.Touched fs t.state t'.state

/-- One more filter in front. -/
theorem Within.cons {f : FilterName} {fs : List FilterName} {t u t' : Progress ρ}
    (h : Within fs u t') (hexec : u.executed = t.executed ++ [f])
    (hresp : u.responseInfo = t.responseInfo) (hstate : ServerState.Touched [f] t.state u.state) :
    Within (f :: fs) t t' := by
  obtain ⟨es, hes, hexec'⟩ := h.executed
  refine ⟨⟨f :: es, by simpa using hes, by simp [hexec', hexec]⟩, ?_, ?_⟩
  · intro d hd
    rcases h.responder d hd with hd | hd
    · exact .inl (hresp ▸ hd)
    · exact .inr (List.mem_cons_of_mem _ hd)
  · exact (hstate.mono (by simp)).trans (h.touched.mono (by simp))

/-- A filter at which the loop ends. -/
theorem Within.last {f : FilterName} (fs : List FilterName) {t t' : Progress ρ}
    (hexec : t'.executed = t.executed ++ [f])
    (hresp : ∀ d, t'.responseInfo = some d → t.responseInfo = some d ∨ d.filterName = f)
    (hstate : ServerState.Touched [f] t.state t'.state) : Within (f :: fs) t t' := by
  refine ⟨⟨[f], by simp, hexec⟩, ?_, hstate.mono (by simp)⟩
  intro d hd
  rcases hresp d hd with hd | rfl
  · exact .inl hd
  · exact .inr (List.mem_cons_self ..)

theorem runFilters_within (S : Server ρ) (r : Request) (fs : List FilterName) (t : Progress ρ) :
    Within fs t (S.runFilters r fs t) := by
  induction fs generalizing t with
  | nil => exact ⟨⟨[], by simp, by simp [runFilters]⟩, fun d hd => .inl hd, .refl _ _⟩
  | cons f fs ih =>
      rw [runFilters]
      dsimp only
      cases hcall : S.onHttpRequest r t.state f with
      | error fault => exact .last fs rfl (fun d hd => .inl hd) (.refl _ _)
      | ok result =>
          obtain ⟨response, s⟩ := result
          obtain ⟨hstate, hname⟩ := onHttpRequest_ok hcall
          cases response with
          | goAheadNoComment => exact (ih _).cons rfl rfl hstate
          | serveFresh => exact (ih _).cons rfl rfl hstate
          | serveImmediatelyDontCache => exact .last fs rfl (fun d hd => .inl hd) hstate
          | iRespond d =>
              refine .last fs rfl ?_ hstate
              rintro _ ⟨⟩
              exact .inr (hname d rfl)

theorem generateResponse_touched {s s' : ServerState ρ} {responder : Responder} {buf : Bytes}
    {d : FilterExtendedResponse} (h : S.generateResponse r s responder = .ok (buf, d, s')) :
    ServerState.Touched [responder.filterName] s s' := by
  cases responder with
  | regexBanner d =>
      cases h
      exact .refl _ _
  | denialator d =>
      cases h
      exact .refl _ _
  | challenger d =>
      obtain ⟨⟨buf, d, w⟩, _, h⟩ := bind_eq_ok.mp h
      cases h
      exact ⟨fun _ => rfl, by simp [Responder.filterName], by simp [Responder.filterName]⟩

theorem handleResponse_touched {fs : List FilterName} {t : Progress ρ}
    (h : ∀ d, t.responseInfo = some d → d.filterName ∈ fs) :
    ServerState.Touched fs t.state (S.handleResponse r t).2 := by
  rw [handleResponse]
  split
  · exact .refl _ _
  · split
    · next responder hinfo =>
      split
      · exact .refl _ _
      · next hgen => exact (generateResponse_touched hgen).mono (by simpa using h _ hinfo)
    · exact .refl _ _

/-- A transaction calls filters of the queue in their order, is answered by one of them,
and touches what they may touch. -/
theorem serve_within (S : Server ρ) (s : ServerState ρ) (r : Request) :
    (S.serve s r).1.executed <+: S.httpRequestFilters ∧
      (∀ f, (S.serve s r).1.answeredBy = some f → f ∈ S.httpRequestFilters) ∧
      ServerState.Touched S.httpRequestFilters s (S.serve s r).2 := by
  have h := S.runFilters_within r S.httpRequestFilters { state := s }
  obtain ⟨es, hes, hexec⟩ := h.executed
  have hresponder : ∀ d, (S.handleRequest s r).responseInfo = some d →
      d.filterName ∈ S.httpRequestFilters := fun d hd => (h.responder d hd).resolve_left nofun
  refine ⟨?_, ?_, h.touched.trans (handleResponse_touched hresponder)⟩
  · rw [show (S.serve s r).1.executed = es from hexec]
    exact hes
  · intro f hf
    obtain ⟨d, hd, rfl⟩ := Option.map_eq_some_iff.mp hf
    exact hresponder d hd

theorem stateAfter_touched (S : Server ρ) (s : ServerState ρ) (requests : List Request) :
    ServerState.Touched S.httpRequestFilters s (S.stateAfter s requests) := by
  refine after_invariant (.refl _ _) ?_
  intro t r _ ht
  exact ht.trans (S.serve_within t r).2.2

/-! ## Filters behind the white lister -/

section Placement

omit [FloatArithmetic ρ]

/-- The filter has a priority above `p`. -/
def PlacedAfter (S : Server ρ) (p : Int) (f : FilterName) : Prop :=
  ∃ q, (q, f) ∈ S.priorityMap ∧ p < q

/-- The filter has a priority below `p`. -/
def PlacedBefore (S : Server ρ) (p : Int) (f : FilterName) : Prop :=
  ∃ q, (q, f) ∈ S.priorityMap ∧ q < p

theorem upTo_priorityMap (S : Server ρ) (p : Int) :
    (S.upTo p).priorityMap = S.priorityMap.filter fun entry => entry.1 ≤ p := rfl

theorem mem_upTo {p : Int} {f : FilterName} (h : f ∈ (S.upTo p).httpRequestFilters) :
    f.queued = .httpRequest ∧ ∃ q, (q, f) ∈ S.priorityMap ∧ q ≤ p := by
  rw [httpRequestFilters, Reader.buildFilters_eq] at h
  obtain ⟨hmem, hqueue⟩ := List.mem_filter.mp h
  obtain ⟨⟨q, g⟩, hentry, rfl⟩ := List.mem_map.mp hmem
  obtain ⟨hentry, hle⟩ := List.mem_filter.mp hentry
  exact ⟨by simpa using hqueue, q, hentry, by simpa using hle⟩

theorem PlacedAfter.notMem_upTo {p : Int} {f : FilterName} (h : S.PlacedAfter p f) :
    f ∉ (S.upTo p).httpRequestFilters := by
  intro hmem
  obtain ⟨q, hq, hlt⟩ := h
  obtain ⟨_, q', hq', hle⟩ := mem_upTo hmem
  have hsame : (q, f) = (q', f) := List.inj_on_of_nodup_map S.once hq hq' rfl
  cases hsame
  omega

/-- The queue up to the white lister, and what comes after it. -/
theorem httpRequestFilters_split {p : Int} (hp : (p, .whiteLister) ∈ S.priorityMap) :
    ∃ front back, S.httpRequestFilters = front ++ .whiteLister :: back ∧
      (S.upTo p).httpRequestFilters = front ++ [.whiteLister] := by
  obtain ⟨before, later, hsplit⟩ := List.append_of_mem hp
  have hinc := S.increasing
  rw [hsplit] at hinc
  obtain ⟨_, hlater, hbefore⟩ := List.pairwise_append.mp hinc
  have hbelow : ∀ entry ∈ before, entry.1 ≤ p :=
    fun entry hentry => (hbefore entry hentry _ (List.mem_cons_self ..)).le
  have habove : ∀ entry ∈ later, ¬ entry.1 ≤ p :=
    fun entry hentry => not_le.mpr (List.rel_of_pairwise_cons hlater hentry)
  have hupTo : (S.upTo p).priorityMap = before ++ [(p, .whiteLister)] := by
    rw [upTo_priorityMap, hsplit, List.filter_append, List.filter_cons_of_pos (by simp),
      List.filter_eq_self.mpr (by simpa using hbelow),
      List.filter_eq_nil_iff.mpr (by simpa using habove)]
  refine ⟨buildFilters before .httpRequest, buildFilters later .httpRequest, ?_, ?_⟩
  · rw [httpRequestFilters, hsplit]
    simp [Reader.buildFilters_eq, FilterName.queued]
  · rw [httpRequestFilters, hupTo]
    simp [Reader.buildFilters_eq, FilterName.queued]

/-- With no filter in front that has work to do, the white lister is the first that has. -/
theorem notMem_upTo_of_first {p : Int} (hp : (p, .whiteLister) ∈ S.priorityMap)
    (hfirst : ∀ f, S.PlacedBefore p f → f = .botSniffer) {f : FilterName} (hne : f ≠ .whiteLister) :
    f ∉ (S.upTo p).httpRequestFilters := by
  intro hmem
  obtain ⟨hqueue, q, hq, hle⟩ := mem_upTo hmem
  rcases hle.lt_or_eq with hlt | rfl
  · rw [hfirst f ⟨q, hq, hlt⟩] at hqueue
    cases hqueue
  · exact hne (S.increasing.key_inj hq hp)

end Placement

/-- The loop ends at the white lister. -/
theorem runFilters_whiteLister (h : S.isWhiteListed r = true) (front back : List FilterName)
    (t : Progress ρ) :
    S.runFilters r (front ++ .whiteLister :: back) t =
      S.runFilters r (front ++ [.whiteLister]) t := by
  induction front generalizing t with
  | nil =>
      have hcall : ∀ s, S.onHttpRequest r s .whiteLister = .ok (.serveImmediatelyDontCache, s) := by
        intro s
        rw [isWhiteListed] at h
        rw [onHttpRequest, WhiteLister.onHttpRequest, if_pos h]
      simp only [List.nil_append, runFilters, hcall]
  | cons f front ih =>
      simp only [List.cons_append, runFilters, ih]

/-- The filters that are left are the same. -/
theorem runFilters_upTo (S : Server ρ) (p : Int) (r : Request) (fs : List FilterName)
    (t : Progress ρ) : (S.upTo p).runFilters r fs t = S.runFilters r fs t := by
  have hcall : (S.upTo p).onHttpRequest = S.onHttpRequest := rfl
  induction fs generalizing t with
  | nil => rfl
  | cons f fs ih => simp only [runFilters, hcall, ih]

/-- A white listed request is served as if the filters behind the white lister were not
configured. -/
theorem serve_upTo {p : Int} (hp : (p, .whiteLister) ∈ S.priorityMap)
    (h : S.isWhiteListed r = true) (s : ServerState ρ) : S.serve s r = (S.upTo p).serve s r := by
  obtain ⟨front, back, hqueue, hqueue'⟩ := httpRequestFilters_split hp
  have hrun : S.handleRequest s r = (S.upTo p).handleRequest s r := by
    rw [handleRequest, handleRequest, hqueue, hqueue', runFilters_whiteLister h, runFilters_upTo]
  rw [serve, serve, hrun]
  rfl

/-! ## Runs -/

/-- What a run of white listed requests shows of the filters with a priority above `p`:
they are not called and give no answer, and the exchanges and the state are those of a
server without them. -/
structure Unnoticed (S : Server ρ) (p : Int) (s : ServerState ρ)
    (requests : List Request) : Prop where
  called : ∀ x ∈ S.exchanges s requests, ∀ f, S.PlacedAfter p f →
    f ∉ x.2.executed ∧ x.2.answeredBy ≠ some f
  exchanges : S.exchanges s requests = (S.upTo p).exchanges s requests
  state : S.stateAfter s requests = (S.upTo p).stateAfter s requests
  regex : S.PlacedAfter p .regexBanner →
    (S.stateAfter s requests).regexManagerIpDb = s.regexManagerIpDb
  challenger : S.PlacedAfter p .challenger →
    (S.stateAfter s requests).challengerIpDb = s.challengerIpDb
  /-- With the published messages. -/
  swabber : (∀ f, S.PlacedBefore p f → f = .botSniffer) →
    (S.stateAfter s requests).swabber = s.swabber

theorem unnoticed_of_whiteListed {p : Int} (hp : (p, .whiteLister) ∈ S.priorityMap)
    (s : ServerState ρ) {requests : List Request} (h : ∀ r ∈ requests, S.isWhiteListed r = true) :
    S.Unnoticed p s requests := by
  obtain ⟨hexchanges, hstate⟩ :=
    run_congr (fun t r hr => serve_upTo hp (h r hr) t) s
  have htouched := (S.upTo p).stateAfter_touched s requests
  have hsame : S.stateAfter s requests = (S.upTo p).stateAfter s requests := hstate
  refine ⟨?_, hexchanges, hstate, ?_, ?_, ?_⟩
  · intro x hx f hf
    obtain ⟨hr, t, hout⟩ := mem_outputs hx
    rw [hout, serve_upTo hp (h x.1 hr) t]
    obtain ⟨hexec, hanswer, _⟩ := (S.upTo p).serve_within t x.1
    exact ⟨fun hmem => hf.notMem_upTo (hexec.subset hmem),
      fun hby => hf.notMem_upTo (hanswer f hby)⟩
  · intro hf
    rw [hsame, htouched.regex hf.notMem_upTo]
  · intro hf
    rw [hsame, htouched.challenger hf.notMem_upTo]
  · intro hf
    have hnot : ∀ f, f ≠ .whiteLister → f ∉ (S.upTo p).httpRequestFilters :=
      fun _ hne => notMem_upTo_of_first hp hf hne
    rw [hsame, htouched.swabber (hnot _ nofun) (hnot _ nofun) (hnot _ nofun)]

/-- A white listed request changes nothing when the white lister comes first. -/
theorem serve_whiteListed_first {p : Int} (hp : (p, .whiteLister) ∈ S.priorityMap)
    (hfirst : ∀ f, S.PlacedBefore p f → f = .botSniffer) (h : S.isWhiteListed r = true)
    (s : ServerState ρ) : (S.serve s r).2 = s := by
  have hnot : ∀ f, f ≠ .whiteLister → f ∉ (S.upTo p).httpRequestFilters :=
    fun _ hne => notMem_upTo_of_first hp hfirst hne
  obtain ⟨_, _, htouched⟩ := (S.upTo p).serve_within s r
  rw [serve_upTo hp h s]
  generalize (S.upTo p).serve s r = t at htouched ⊢
  obtain ⟨exchange, regex, challenger, swabber⟩ := t
  obtain ⟨regex', challenger', swabber'⟩ := s
  obtain rfl := htouched.regex (hnot _ nofun)
  obtain rfl := htouched.challenger (hnot _ nofun)
  obtain rfl := htouched.swabber (hnot _ nofun) (hnot _ nofun) (hnot _ nofun)
  rfl

/-- No filter in front of the white lister works on a request, and the requests that do not
come from the chosen addresses are white listed. -/
def WhiteListedFirst (S : Server ρ) (others : Bytes → Bool) (requests : List Request) : Prop :=
  ∃ p, (p, .whiteLister) ∈ S.priorityMap ∧ (∀ f, S.PlacedBefore p f → f = .botSniffer) ∧
    ∀ r ∈ requests, others r.parts.ip.str = false → S.isWhiteListed r = true

/-- White listed clients are invisible to the filters behind the white lister.  In front of all
others, it makes white listed requests leave the exchanges of all other addresses as they are,
whatever the mutexes and the socket do.  And so does any request, white listed or not, when
the mutexes are free and the attempts to bind the socket do not depend on who makes them. -/
theorem whiteListed_invisible (S : Server ρ) (s : ServerState ρ) :
    (∀ (p : Int) (requests : List Request), (p, .whiteLister) ∈ S.priorityMap →
      (∀ r ∈ requests, S.isWhiteListed r = true) → S.Unnoticed p s requests) ∧
    ∀ (others : Bytes → Bool) (requests : List Request),
      S.WhiteListedFirst others requests ∨ s.AllAcquired ∧ S.SteadySocket s requests →
        (S.exchanges s requests).filter (fun x => others x.1.parts.ip.str) =
          S.exchanges s (requests.filter fun r => others r.parts.ip.str) := by
  constructor
  · intro p requests hp h
    exact unnoticed_of_whiteListed hp s h
  · rintro others requests (⟨p, hp, hfirst, hwhite⟩ | ⟨hs, hsocket⟩)
    · refine outputs_filter (R := Eq) (fun r : Request => others r.parts.ip.str) ?_ ?_ rfl
      · rintro t _ r hr rfl hip
        exact serve_whiteListed_first hp hfirst (hwhite r hr hip) t
      · rintro t _ r _ rfl _
        exact ⟨rfl, rfl⟩
    · exact S.exchanges_filter hs others hsocket

/-! ## Concrete data -/

/-- A rule that every request matches at once. -/
def sampleRule : RatedRegex ℚ := ⟨0, bytes "any", bytes ".*", 1000, 0, []⟩

/-- A server with `10.0.0.1` in its white list, which bans everyone else. -/
def sampleServer : Server ℚ where
  priorityMap := [(1, .whiteLister), (2, .regexBanner), (3, .challenger), (4, .denialator)]
  increasing := by simp [Increasing]
  once := by decide
  globalIpWhiteList := ⟨[(0x0a000001, 0xffffffff)], []⟩
  regexManager := ⟨fun _ _ => true, [sampleRule], rfl⟩
  challenger :=
    { sampleChallenger [sampleSha 3] with
      globalWhiteList := some ⟨[(0x0a000001, 0xffffffff)], []⟩ }
  shared := rfl
  swabber := ⟨0, bytes "tcp://*:22620"⟩

/-- Nothing is known of any address, and the socket is bound. -/
def sampleServerState : ServerState ℚ :=
  ⟨IpDb.empty, IpDb.empty, { ipDb := IpDb.empty, socket := some ⟨bytes "tcp://*:22620"⟩ }⟩

/-- A request of the address, at the time in seconds. -/
def sampleRequest (ip : InAddr) (now : Nat) : Request where
  method := bytes "GET"
  parts := sampleParts ip [] []
  env := sampleEnv (Int64.ofNat now)
  curTimeMsec := now * 1000
  curTimeSec := now
  ban _ := { now := now }
  banAtResponse := { now := now }
  status := 200

theorem whiteListed_invisible_between :
    sampleServer.Unnoticed 1 sampleServerState
        [sampleRequest ⟨10, 0, 0, 1⟩ 100, sampleRequest ⟨10, 0, 0, 1⟩ 102] ∧
      (sampleServer.exchanges sampleServerState
          [sampleRequest ⟨10, 0, 0, 1⟩ 100, sampleRequest ⟨10, 0, 0, 2⟩ 101,
            sampleRequest ⟨10, 0, 0, 1⟩ 102]).filter
        (fun x => decide (x.1.parts.ip.str = bytes "10.0.0.2")) =
      sampleServer.exchanges sampleServerState [sampleRequest ⟨10, 0, 0, 2⟩ 101] := by
  have h := whiteListed_invisible sampleServer sampleServerState
  have hfirst : sampleServer.WhiteListedFirst (fun ip => ip = bytes "10.0.0.2")
      [sampleRequest ⟨10, 0, 0, 1⟩ 100, sampleRequest ⟨10, 0, 0, 2⟩ 101,
        sampleRequest ⟨10, 0, 0, 1⟩ 102] := by
    refine ⟨1, by decide, ?_, by decide +kernel⟩
    rintro f ⟨q, hq, hlt⟩
    simp only [sampleServer, List.mem_cons, Prod.mk.injEq, List.not_mem_nil, or_false] at hq
    omega
  refine ⟨h.1 1 _ (by decide) ?_, h.2 (fun ip => ip = bytes "10.0.0.2") _ (.inl hfirst)⟩
  intro r hr
  simp only [List.mem_cons, List.not_mem_nil, or_false] at hr
  rcases hr with rfl | rfl <;> decide +kernel

/-! ### A ban that binds the socket

The white lister comes after the regex banner, and the socket is not bound yet. -/

/-- A server that bans whoever sends a `GET`, `10.0.0.1` included, ten seconds after the first
time. -/
def sampleLateServer : Server ℚ :=
  { sampleServer with
    priorityMap := [(1, .regexBanner), (2, .whiteLister), (3, .denialator)]
    increasing := by simp [Increasing]
    once := by decide
    regexManager := ⟨fun record _ => (bytes "GET").isPrefixOf record, [sampleRule], rfl⟩
    swabber := ⟨10, bytes "tcp://*:22620"⟩ }

def sampleUnbound : ServerState ℚ :=
  ⟨IpDb.empty, IpDb.empty, { ipDb := IpDb.empty, socket := some {} }⟩

/-- A request of a method, and the answer of ZeroMQ to an attempt to bind. -/
def sampleAttempt (ip : InAddr) (now : Nat) (method : String) (bindTry : Bool) : Request :=
  { sampleRequest ip now with
    method := bytes method
    ban := fun _ => { now := now, bindTry := bindTry } }

/-- The second ban of the white listed address binds the socket. -/
def sampleAttempts : List Request :=
  [sampleAttempt ⟨10, 0, 0, 1⟩ 100 "GET" true, sampleAttempt ⟨10, 0, 0, 2⟩ 100 "GET" false,
    sampleAttempt ⟨10, 0, 0, 1⟩ 110 "GET" true, sampleAttempt ⟨10, 0, 0, 2⟩ 110 "GET" false,
    sampleAttempt ⟨10, 0, 0, 2⟩ 111 "HEAD" false]

/-- Behind a filter that bans, a white listed request can change what another client gets: the ban
of the other address finds the socket bound, is published and takes the flag away, and the
denialator lets its next request pass. -/
theorem whiteListed_binds_socket :
    ¬ ∀ (ρ : Type) (_ : FloatArithmetic ρ) (S : Server ρ) (s : ServerState ρ) (p : Int)
        (others : Bytes → Bool) (requests : List Request),
        (p, .whiteLister) ∈ S.priorityMap → s.AllAcquired →
        (∀ r ∈ requests, others r.parts.ip.str = false → S.isWhiteListed r = true) →
        ((S.exchanges s requests).filter (fun x => others x.1.parts.ip.str)).map
            (fun x => x.2.reply) =
          (S.exchanges s (requests.filter fun r => others r.parts.ip.str)).map
            (fun x => x.2.reply) := by
  intro h
  have hsame := h ℚ .exact sampleLateServer sampleUnbound 2 (fun ip => ip = bytes "10.0.0.2")
    sampleAttempts (by decide)
    ⟨IpDb.empty_allAcquired, IpDb.empty_allAcquired, IpDb.empty_allAcquired⟩ (by decide +kernel)
  have hdiffer : ¬ ((sampleLateServer.exchanges sampleUnbound sampleAttempts).filter
        (fun x => decide (x.1.parts.ip.str = bytes "10.0.0.2"))).map (fun x => x.2.reply) =
      (sampleLateServer.exchanges sampleUnbound
        (sampleAttempts.filter fun r => decide (r.parts.ip.str = bytes "10.0.0.2"))).map
        (fun x => x.2.reply) := by decide +kernel
  exact hdiffer hsame

end Server

end Banjax
