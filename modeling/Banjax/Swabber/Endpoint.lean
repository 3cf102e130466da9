import Banjax.Lib.Run
import Banjax.Swabber.Defs

/-!
# The socket and its endpoint

`Socket` of `socket.h` together with the ZeroMQ socket that it wraps.  The wrapper keeps the
endpoint that it has bound, and that is all it knows of the socket: `is_bound` asks whether the
endpoint is empty, and `bind` does nothing when the endpoint is already there.

`bind` to another endpoint keeps its record, also when ZeroMQ refuses.  `unbind` does not: it
leaves the endpoint in place, so that the socket goes on as bound, and a later `bind` to the same
endpoint succeeds without binding.  What ZeroMQ is given is a C string, while the record is the
whole text.  In all other calls the record is true (`bookkeeping_iff`).
-/

namespace Banjax

open Lib

/-- A `Socket` and the endpoints to which ZeroMQ has bound it. -/
structure ZmqSocket where
  socket : Socket := {}
  bound : List Bytes := []
deriving DecidableEq

/-- A call of a method, with what ZeroMQ answers to a `bind`. -/
inductive SocketCall where
  | bind (endpoint : Bytes) (bindTry : Bool)
  | unbind

namespace ZmqSocket

variable (s : ZmqSocket)

/-- `unbind`. -/
def unbind : ZmqSocket :=
  if s.socket.isBound then { s with bound := s.bound.erase (cStr s.socket.localEndpoint) } else s

/-- `bind`. -/
def bind (endpoint : Bytes) (bindTry : Bool) : Bool × ZmqSocket :=
  if endpoint = s.socket.localEndpoint then (true, s)
  else if endpoint = [] then (true, s.unbind)
  else
    let s := if s.socket.isBound then s.unbind else s
    if bindTry then (true, ⟨⟨endpoint⟩, s.bound ++ [cStr endpoint]⟩)
    else (false, { s with socket := ⟨[]⟩ })

/-- A call, with what it reports. -/
def call : SocketCall → Bool × ZmqSocket
  | .bind endpoint bindTry => s.bind endpoint bindTry
  | .unbind => (true, s.unbind)

/-- The socket after a list of calls. -/
def run (calls : List SocketCall) : ZmqSocket := calls.foldl (fun s c => (s.call c).2) {}

/-- The wrapper does the same without the socket behind it. -/
theorem bind_socket (endpoint : Bytes) (bindTry : Bool) :
    ((s.bind endpoint bindTry).1, (s.bind endpoint bindTry).2.socket) =
      s.socket.bind endpoint bindTry := by
  have hunbind : s.unbind.socket = s.socket := by
    rw [unbind]
    split <;> rfl
  rw [bind, Socket.bind]
  split
  · rfl
  · split
    · rw [hunbind]
    · cases bindTry <;> rfl

/-- The record of the wrapper is true. -/
structure Tracks : Prop where
  isBound : s.socket.isBound = true ↔ s.bound ≠ []
  endpoint : s.socket.isBound = true → s.bound = [s.socket.localEndpoint]

/-- What a call has left behind is recorded, and a success of `bind` is one. -/
structure Truthful (c : SocketCall) : Prop where
  tracks : (s.call c).2.Tracks
  success : ∀ endpoint bindTry, c = .bind endpoint bindTry → endpoint ≠ [] →
    (s.call c).1 = true → endpoint ∈ (s.call c).2.bound

/-- A bound socket is not unbound without another endpoint, and an endpoint that is bound is a C
string. -/
def Harmless : SocketCall → Prop
  | .bind endpoint bindTry => endpoint ≠ s.socket.localEndpoint →
      (endpoint = [] → s.socket.isBound = false) ∧ (bindTry = true → (0 : UInt8) ∉ endpoint)
  | .unbind => s.socket.isBound = false

/-! ## One call -/

/-- ZeroMQ is only given C strings. -/
def OfCStrings : Prop := ∀ endpoint ∈ s.bound, (0 : UInt8) ∉ endpoint

theorem zero_notMem_cStr (text : Bytes) : (0 : UInt8) ∉ cStr text := by
  intro h
  have hpos := List.mem_takeWhile_imp h
  exact absurd rfl (of_decide_eq_true hpos)

theorem cStr_eq_self_iff {text : Bytes} : cStr text = text ↔ (0 : UInt8) ∉ text := by
  constructor
  · intro h
    rw [← h]
    exact zero_notMem_cStr text
  · exact cStr_of_zero_notMem

theorem isBound_iff (socket : Socket) : socket.isBound = true ↔ socket.localEndpoint ≠ [] := by
  rw [Socket.isBound, decide_eq_true_eq]

variable {s}

/-- A socket that has just been made. -/
theorem tracks_unused : (⟨⟨[]⟩, []⟩ : ZmqSocket).Tracks :=
  ⟨iff_of_false Bool.false_ne_true fun h => h rfl, fun h => absurd h Bool.false_ne_true⟩

theorem OfCStrings.unbind (h : s.OfCStrings) : s.unbind.OfCStrings := by
  rw [ZmqSocket.unbind]
  split
  · intro endpoint hendpoint
    exact h endpoint (List.mem_of_mem_erase hendpoint)
  · exact h

theorem OfCStrings.call (h : s.OfCStrings) (c : SocketCall) : (s.call c).2.OfCStrings := by
  cases c with
  | unbind => exact h.unbind
  | bind endpoint bindTry =>
      have hunbound : (if s.socket.isBound then s.unbind else s).OfCStrings := by
        split
        · exact h.unbind
        · exact h
      rw [ZmqSocket.call, ZmqSocket.bind]
      split
      · exact h
      · split
        · exact h.unbind
        · cases bindTry with
          | false => exact hunbound
          | true =>
              intro e he
              rcases List.mem_append.mp he with he | he
              · exact hunbound e he
              · rw [List.mem_singleton.mp he]
                exact zero_notMem_cStr endpoint

/-- A bound socket that is unbound has nothing left. -/
theorem Tracks.bound_unbind (h : s.Tracks) (hstrings : s.OfCStrings)
    (hbound : s.socket.isBound = true) : s.unbind = { s with bound := [] } := by
  have hlist := h.endpoint hbound
  have hstring : cStr s.socket.localEndpoint = s.socket.localEndpoint :=
    cStr_eq_self_iff.mpr (hstrings _ (by rw [hlist]; exact List.mem_singleton_self _))
  rw [unbind, if_pos hbound, hstring, hlist, List.erase_cons_head]

/-- There the record is not true any more. -/
theorem not_tracks_unbound (hbound : s.socket.isBound = true) :
    ¬ ({ s with bound := [] } : ZmqSocket).Tracks := by
  intro h
  exact h.isBound.mp hbound rfl

/-- In front of a bind to another endpoint, nothing is bound. -/
theorem Tracks.bound_before_bind (h : s.Tracks) (hstrings : s.OfCStrings) :
    (if s.socket.isBound then s.unbind else s).bound = [] := by
  split
  · next hbound => rw [h.bound_unbind hstrings hbound]
  · next hbound =>
    by_contra hne
    exact hbound (h.isBound.mpr hne)

theorem truthful_unbind_iff (h : s.Tracks) (hstrings : s.OfCStrings) :
    s.Truthful .unbind ↔ s.Harmless .unbind := by
  rw [Harmless]
  constructor
  · intro htruthful
    by_contra hbound
    have htracks : s.unbind.Tracks := htruthful.tracks
    rw [Bool.not_eq_false] at hbound
    rw [h.bound_unbind hstrings hbound] at htracks
    exact not_tracks_unbound hbound htracks
  · intro hbound
    have hsame : s.unbind = s := by
      rw [unbind, hbound]
      rfl
    refine ⟨?_, nofun⟩
    show s.unbind.Tracks
    rw [hsame]
    exact h

/-- The socket after a bind that ZeroMQ has made. -/
theorem tracks_bound_iff {endpoint : Bytes} (hne : endpoint ≠ []) :
    (⟨⟨endpoint⟩, [cStr endpoint]⟩ : ZmqSocket).Tracks ↔ (0 : UInt8) ∉ endpoint := by
  have hbound : Socket.isBound ⟨endpoint⟩ = true := (isBound_iff _).mpr hne
  rw [← cStr_eq_self_iff]
  constructor
  · intro h
    exact (List.cons.inj (h.endpoint hbound)).1
  · intro heq
    exact ⟨iff_of_true hbound (List.cons_ne_nil _ _), fun _ => by rw [heq]⟩

/-! What `bind` does: nothing for the endpoint that is there, `unbind` for the empty one, and for
another one what ZeroMQ says. -/

theorem call_bind_same (bindTry : Bool) :
    s.call (.bind s.socket.localEndpoint bindTry) = (true, s) := by
  rw [call, bind, if_pos rfl]

theorem Tracks.call_bind_nil (h : s.Tracks) (hstrings : s.OfCStrings)
    (hbound : s.socket.isBound = true) (bindTry : Bool) :
    s.call (.bind [] bindTry) = (true, { s with bound := [] }) := by
  have hother : [] ≠ s.socket.localEndpoint := ((isBound_iff _).mp hbound).symm
  rw [call, bind, if_neg hother, if_pos rfl, h.bound_unbind hstrings hbound]

theorem Tracks.call_bind_made (h : s.Tracks) (hstrings : s.OfCStrings) {endpoint : Bytes}
    (hother : endpoint ≠ s.socket.localEndpoint) (hne : endpoint ≠ []) :
    s.call (.bind endpoint true) = (true, ⟨⟨endpoint⟩, [cStr endpoint]⟩) := by
  rw [call, bind, if_neg hother, if_neg hne]
  show (true, ZmqSocket.mk ⟨endpoint⟩
    ((if s.socket.isBound then s.unbind else s).bound ++ [cStr endpoint])) = _
  rw [h.bound_before_bind hstrings, List.nil_append]

theorem Tracks.call_bind_refused (h : s.Tracks) (hstrings : s.OfCStrings) {endpoint : Bytes}
    (hother : endpoint ≠ s.socket.localEndpoint) (hne : endpoint ≠ []) :
    s.call (.bind endpoint false) = (false, ⟨⟨[]⟩, []⟩) := by
  rw [call, bind, if_neg hother, if_neg hne]
  show (false, ZmqSocket.mk ⟨[]⟩ (if s.socket.isBound then s.unbind else s).bound) = _
  rw [h.bound_before_bind hstrings]

/-- The endpoint that is there needs no call. -/
theorem Tracks.truthful_bind_same (h : s.Tracks) (bindTry : Bool) :
    s.Truthful (.bind s.socket.localEndpoint bindTry) := by
  refine ⟨?_, ?_⟩
  · rw [call_bind_same]
    exact h
  · rintro _ _ ⟨⟩ hne -
    rw [call_bind_same, h.endpoint ((isBound_iff _).mpr hne)]
    exact List.mem_singleton_self _

/-- The empty endpoint leaves the socket as `unbind` does. -/
theorem Tracks.not_truthful_bind_nil (h : s.Tracks) (hstrings : s.OfCStrings)
    (hbound : s.socket.isBound = true) (bindTry : Bool) : ¬ s.Truthful (.bind [] bindTry) := by
  intro htruthful
  have htracks := htruthful.tracks
  rw [h.call_bind_nil hstrings hbound] at htracks
  exact not_tracks_unbound hbound htracks

theorem Tracks.truthful_bind_made (h : s.Tracks) (hstrings : s.OfCStrings) {endpoint : Bytes}
    (hother : endpoint ≠ s.socket.localEndpoint) (hne : endpoint ≠ []) :
    s.Truthful (.bind endpoint true) ↔ (0 : UInt8) ∉ endpoint := by
  have hcall := h.call_bind_made hstrings hother hne
  constructor
  · intro htruthful
    have htracks := htruthful.tracks
    rw [hcall] at htracks
    exact (tracks_bound_iff hne).mp htracks
  · intro hzero
    refine ⟨?_, ?_⟩
    · rw [hcall]
      exact (tracks_bound_iff hne).mpr hzero
    · rintro _ _ ⟨⟩ - -
      rw [hcall, cStr_eq_self_iff.mpr hzero]
      exact List.mem_singleton_self _

/-- A socket that is refused is left unbound, and it says so. -/
theorem Tracks.truthful_bind_refused (h : s.Tracks) (hstrings : s.OfCStrings) {endpoint : Bytes}
    (hother : endpoint ≠ s.socket.localEndpoint) (hne : endpoint ≠ []) :
    s.Truthful (.bind endpoint false) := by
  have hcall := h.call_bind_refused hstrings hother hne
  refine ⟨?_, ?_⟩
  · rw [hcall]
    exact tracks_unused
  · rintro _ _ ⟨⟩ - hsuccess
    rw [hcall] at hsuccess
    exact absurd hsuccess Bool.false_ne_true

theorem truthful_bind_iff (h : s.Tracks) (hstrings : s.OfCStrings) (endpoint : Bytes)
    (bindTry : Bool) :
    s.Truthful (.bind endpoint bindTry) ↔ s.Harmless (.bind endpoint bindTry) := by
  rw [Harmless]
  rcases eq_or_ne endpoint s.socket.localEndpoint with rfl | hother
  · exact iff_of_true (h.truthful_bind_same bindTry) fun hne => absurd rfl hne
  · rcases eq_or_ne endpoint [] with rfl | hne
    · have hbound : s.socket.isBound = true := (isBound_iff _).mpr hother.symm
      refine iff_of_false (h.not_truthful_bind_nil hstrings hbound bindTry) fun hharmless => ?_
      rw [(hharmless hother).1 rfl] at hbound
      exact Bool.false_ne_true hbound
    · cases bindTry with
      | true =>
          rw [h.truthful_bind_made hstrings hother hne]
          exact ⟨fun hzero _ => ⟨fun hnil => absurd hnil hne, fun _ => hzero⟩,
            fun hharmless => (hharmless hother).2 rfl⟩
      | false =>
          refine iff_of_true (h.truthful_bind_refused hstrings hother hne) fun _ => ?_
          exact ⟨fun hnil => absurd hnil hne, nofun⟩

theorem truthful_iff (h : s.Tracks) (hstrings : s.OfCStrings) (c : SocketCall) :
    s.Truthful c ↔ s.Harmless c := by
  cases c with
  | unbind => exact truthful_unbind_iff h hstrings
  | bind endpoint bindTry => exact truthful_bind_iff h hstrings endpoint bindTry

/-! ## Every list of calls -/

theorem run_snoc (calls : List SocketCall) (c : SocketCall) :
    run (calls ++ [c]) = ((run calls).call c).2 := by
  rw [run, List.foldl_append]
  rfl

theorem ofCStrings_run (calls : List SocketCall) : (run calls).OfCStrings := by
  induction calls using List.reverseRecOn with
  | nil => exact nofun
  | append_singleton calls c ih =>
      rw [run_snoc]
      exact ih.call c

/-- While the calls are truthful, the record is true. -/
theorem tracks_run {calls : List SocketCall}
    (h : ∀ pre c post, calls = pre ++ c :: post → (run pre).Truthful c) :
    (run calls).Tracks := by
  cases calls using List.reverseRecOn with
  | nil => exact tracks_unused
  | append_singleton calls c =>
      rw [run_snoc]
      exact (h calls c [] rfl).tracks

/-- Every call of a run leaves a true record behind if and only if none of them unbinds a bound
socket without another endpoint or binds an endpoint that is not a C string. -/
theorem bookkeeping_iff (calls : List SocketCall) :
    (∀ pre c post, calls = pre ++ c :: post → (run pre).Truthful c) ↔
      ∀ pre c post, calls = pre ++ c :: post → (run pre).Harmless c := by
  induction calls using List.reverseRecOn with
  | nil =>
      refine iff_of_true ?_ ?_ <;>
      · intro pre c post hcalls
        simp at hcalls
  | append_singleton calls last ih =>
      rw [forall_split_snoc, forall_split_snoc, ih]
      refine and_congr_right fun hpre => ?_
      exact truthful_iff (tracks_run (ih.mpr hpre)) (ofCStrings_run calls) last

/-- The socket is unbound, it says that it is bound, and a `bind` to the same endpoint succeeds
with nothing bound. -/
theorem unbind_keeps_endpoint :
    let endpoint := bytes "tcp://*:22620"
    let s := run [.bind endpoint true, .unbind]
    s.bound = [] ∧ s.socket.isBound = true ∧ s.bind endpoint true = (true, s) ∧
      ¬ ∀ calls pre c post, calls = pre ++ c :: post → (run pre).Truthful c := by
  have hunbound : (run [.bind (bytes "tcp://*:22620") true, .unbind]).bound = [] := by
    decide +kernel
  have hbound : (run [.bind (bytes "tcp://*:22620") true, .unbind]).socket.isBound = true := by
    decide +kernel
  refine ⟨hunbound, hbound, by decide +kernel, fun h => ?_⟩
  have htracks := (h _ [.bind (bytes "tcp://*:22620") true] .unbind [] rfl).tracks
  exact htracks.isBound.mp hbound hunbound

end ZmqSocket

end Banjax
