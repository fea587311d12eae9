import Librtcdc.Shared.Trace
import Librtcdc.Peer.Transport

set_option autoImplicit false

namespace Librtcdc.SctpStack

open Systems

structure Stack where
  globals : Globals
  live : List SctpEndpoint
  deriving DecidableEq, Repr

-- The transport to destroy is given by its place, `none` for NULL.
inductive Action where
  | create (attached : Bool) (env : SctpEnv)
  | destroy (place : Option Nat) (finish : Nat → Bool)

-- A call with the number of transports, besides the one at hand, that are live when it is made.
structure Event where
  call : LibraryCall
  others : Nat
  deriving DecidableEq, Repr

def step : Step Stack Action Event
  | x, .create attached env =>
      let (sctp, globals, calls) := createSctpTransport x.globals attached env
      some ({ globals := globals, live := x.live ++ sctp.toList },
        calls.map fun call => ⟨call, x.live.length⟩)
  | x, .destroy none finish =>
      let (globals, calls) := destroySctpTransport x.globals none finish
      some ({ x with globals := globals }, calls.map fun call => ⟨call, x.live.length⟩)
  | x, .destroy (some i) finish =>
      x.live[i]?.map fun sctp =>
        let (globals, calls) := destroySctpTransport x.globals (some sctp) finish
        let live := x.live.eraseIdx i
        ({ globals := globals, live := live }, calls.map fun call => ⟨call, live.length⟩)

def start : Stack where
  globals := { dtlsContext := none, contextRef := 0, sctpRef := 0, created := 0 }
  live := []

def upAfter (up : Bool) (event : Event) : Bool :=
  match event.call with
  | .usrsctpInit => true
  | .usrsctpFinish true => false
  | _ => up

def SocketsUp : Bool → List Event → Prop
  | _, [] => True
  | up, event :: rest => (event.call = .usrsctpSocket → up = true) ∧ SocketsUp (upAfter up event) rest

theorem socketsUp_append {up : Bool} {events emitted : List Event} :
    SocketsUp up (events ++ emitted) ↔
      SocketsUp up events ∧ SocketsUp (events.foldl upAfter up) emitted := by
  induction events generalizing up with
  | nil => simp [SocketsUp]
  | cons event rest ih => simp [SocketsUp, ih, and_assoc]

structure Counted (x : Stack) (events : List Event) : Prop where
  count : x.globals.sctpRef = x.live.length
  sockets : SocketsUp false events
  alone : ∀ event ∈ events, ∀ succeeds, event.call = .usrsctpFinish succeeds → event.others = 0

def Allocates : Stack → Action → Prop
  | _, .create attached env =>
      (attached && env.calloc) = true → (env.socket && env.incomingBio && env.outgoingBio) = true
  | _, .destroy .. => True

structure Inv (x : Stack) (events : List Event) : Prop extends Counted x events where
  up : x.live ≠ [] → events.foldl upAfter false = true

theorem start_inv : Inv start [] where
  count := rfl
  sockets := trivial
  alone := by simp
  up := by simp [start]

variable {x next : Stack} {events emitted : List Event} {g : Globals} {env : SctpEnv}

theorem finishLoop_calls (finish : Nat → Bool) (n i : Nat) :
    ∀ call ∈ finishLoop finish n i, ∃ succeeds, call = .usrsctpFinish succeeds := by
  induction n generalizing i with
  | zero => simp [finishLoop]
  | succ n ih =>
      intro call member
      rw [finishLoop] at member
      split_ifs at member
      · exact ⟨true, by simpa using member⟩
      · rcases List.mem_cons.mp member with here | later
        · exact ⟨false, here⟩
        · exact ih (i + 1) call later

theorem socketsUp_none (none : ∀ event ∈ events, event.call ≠ .usrsctpSocket) (up : Bool) :
    SocketsUp up events := by
  induction events generalizing up with
  | nil => trivial
  | cons event rest ih =>
      exact ⟨fun socket => absurd socket (none event List.mem_cons_self),
        ih (fun e later => none e (List.mem_cons_of_mem _ later)) _⟩

theorem create_inv {attached : Bool} (inv : Inv x events) (allocates : Allocates x (.create attached env))
    (moved : step x (.create attached env) = some (next, emitted)) : Inv next (events ++ emitted) := by
  obtain ⟨⟨count, sockets, alone⟩, up⟩ := inv
  rcases createSctpTransport_cases x.globals attached env with
    ⟨_, nothing⟩ | ⟨attempted, ⟨_, sctp, made⟩ | ⟨failed, _⟩⟩
  · simp only [step, nothing, Option.some.injEq, Prod.mk.injEq] at moved
    obtain ⟨rfl, rfl⟩ := moved
    simpa using (⟨⟨count, sockets, alone⟩, up⟩ : Inv x events)
  · simp only [step, made, Option.some.injEq, Prod.mk.injEq] at moved
    obtain ⟨rfl, rfl⟩ := moved
    by_cases first : x.globals.sctpRef = 0
    · -- the stack is initialised by this call
      refine ⟨⟨?_, ?_, ?_⟩, ?_⟩
      · simp [count]
      · simp [socketsUp_append, sockets, initCalls, first, SocketsUp, upAfter]
      · simpa [initCalls, first, or_imp, forall_and] using alone
      · simp [initCalls, first, upAfter]
    · have occupied : x.live ≠ [] := fun empty => first (by simp [count, empty])
      refine ⟨⟨?_, ?_, ?_⟩, ?_⟩
      · simp [count]
      · simp [socketsUp_append, sockets, initCalls, first, SocketsUp, up occupied]
      · simpa [initCalls, first, or_imp, forall_and] using alone
      · simp [initCalls, first, upAfter, up occupied]
  · rw [allocates attempted] at failed
    cases failed

theorem destroy_inv {i : Nat} {finish : Nat → Bool} (inv : Inv x events)
    (moved : step x (.destroy (some i) finish) = some (next, emitted)) :
    Inv next (events ++ emitted) := by
  obtain ⟨⟨count, sockets, alone⟩, up⟩ := inv
  obtain ⟨sctp, found, equal⟩ := Option.map_eq_some_iff.mp moved
  simp only [destroySctpTransport, Prod.mk.injEq] at equal
  obtain ⟨rfl, rfl⟩ := equal
  obtain ⟨inside, _⟩ := List.getElem?_eq_some_iff.mp found
  have fewer := List.length_eraseIdx_of_lt inside
  have left : x.globals.sctpRef - 1 = (x.live.eraseIdx i).length := by omega
  by_cases last : x.live.eraseIdx i = []
  · -- the loop over `usrsctp_finish` runs, with no transport left
    have finishes := finishLoop_calls finish 300 0
    have zero : x.globals.sctpRef - 1 = 0 := by simp [left, last]
    simp only [zero, if_true, last]
    refine ⟨⟨rfl, ?_, ?_⟩, fun some_left => absurd rfl some_left⟩
    · rw [socketsUp_append]
      refine ⟨sockets, socketsUp_none (fun event member socket => ?_) _⟩
      obtain ⟨call, made, rfl⟩ := List.mem_map.mp member
      obtain ⟨succeeds, rfl⟩ := finishes call made
      cases socket
    · intro event member
      rcases List.mem_append.mp member with earlier | now
      · exact alone event earlier
      · obtain ⟨call, _, rfl⟩ := List.mem_map.mp now
        exact fun _ _ => rfl
  · have more : x.globals.sctpRef - 1 ≠ 0 := by
      rw [left]
      simpa using last
    have occupied : x.live ≠ [] := by
      rintro empty
      simp [empty] at inside
    simp only [if_neg more, List.map_nil, List.append_nil]
    exact ⟨⟨left, sockets, alone⟩, fun _ => up occupied⟩

theorem step_inv {action : Action} (inv : Inv x events) (allocates : Allocates x action)
    (moved : step x action = some (next, emitted)) : Inv next (events ++ emitted) := by
  cases action with
  | create attached env => exact create_inv inv allocates moved
  | destroy place finish =>
      cases place with
      | some i => exact destroy_inv inv moved
      | none =>
          obtain ⟨rfl, rfl⟩ := Prod.mk.inj (Option.some.inj moved)
          simpa [destroySctpTransport] using inv

theorem failed_miscounts {action : Action} (inv : Inv x events)
    (moved : step x action = some (next, emitted)) (here : Counted next (events ++ emitted)) :
    Allocates x action := by
  cases action with
  | destroy => trivial
  | create attached env =>
      intro attempted
      rcases createSctpTransport_cases x.globals attached env with
        ⟨idle, _⟩ | ⟨_, ⟨made, _⟩ | ⟨_, failed⟩⟩
      · rw [attempted] at idle
        cases idle
      · exact made
      · simp only [step, failed, Option.some.injEq, Prod.mk.injEq] at moved
        obtain ⟨rfl, rfl⟩ := moved
        have before := inv.count
        have after := here.count
        simp only [Option.toList_none, List.append_nil] at after
        omega

/-- The count is right, sockets are made on an initialised stack and `usrsctp_finish` is not tried
under a live transport all along exactly when no create call fails after its `calloc`. -/
theorem counted_iff {actions : List Action} {s : Stack} {events : List Event} :
    RunIf Allocates step start actions s events ↔ Always Counted step start actions s events :=
  runIf_iff_always Inv start_inv (fun _ _ _ _ _ => step_inv) (fun _ _ inv => inv.toCounted)
    fun _ _ _ _ _ => failed_miscounts

def allocated : SctpEnv where
  calloc := true
  rand := 0
  socket := true
  incomingBio := true
  outgoingBio := true
  finish := false

theorem socket_failure_counted :
    ¬ ∀ actions s events, Run step start actions s events → Counted s events := by
  intro law
  have moved : ((exec step start
      [.create true allocated, .create true { allocated with socket := false }]).map fun last =>
        (last.1.globals.sctpRef, last.1.live.length)) = some (2, 1) := by decide +kernel
  obtain ⟨⟨last, events⟩, taken, counts⟩ := Option.map_eq_some_iff.mp moved
  obtain ⟨ref, live⟩ := Prod.mk.inj counts
  have count := (law _ _ _ (exec_run taken)).count
  rw [ref, live] at count
  cases count

end Librtcdc.SctpStack
