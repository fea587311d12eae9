import Librtcdc.Shared.Threads
import Librtcdc.Peer.Rtcdc

set_option autoImplicit false

namespace Librtcdc.Layers

open Systems

-- The flags that the threads of a peer share, read and written one at a time. `initFinished` is what
-- SSL_is_init_finished returns.
structure Flags where
  exitThread : Bool
  gatheringDone : Bool
  negotiationDone : Bool
  initFinished : Bool
  dtlsHandshakeDone : Bool
  sctpHandshakeDone : Bool
  role : PeerRole
  onConnect : Bool
  deriving DecidableEq, Repr

inductive Event where
  | niceAgentSend | conninput | connect | accept | sslWrite | sendv | onConnect
  deriving DecidableEq, Repr

inductive Call where
  | candidateGatheringDone | newSelectedPair | dataReceived | sctpDataReady | sendMessage | exitThread
  deriving DecidableEq, Repr

-- What a step finds out: the call that comes, the bytes that a BIO holds, whether the SSL object has
-- now finished its handshake, and whether an association came about.
structure Answer where
  call : Call
  nbytes : Int
  finished : Bool
  associated : Bool
  deriving DecidableEq, Repr

-- `while (!exit_thread && !flag) g_usleep(..); if (exit_thread) ..`
inductive Wait where
  | whileExit | whileFlag | ifExit
  deriving DecidableEq, Repr

inductive Waited where
  | still (w : Wait)
  | stop
  | go
  deriving DecidableEq, Repr

def Wait.step (exit flag : Bool) : Wait → Waited
  | .whileExit => .still (if exit then .ifExit else .whileFlag)
  | .whileFlag => .still (if flag then .ifExit else .whileExit)
  | .ifExit => if exit then .stop else .go

def Waited.point {P : Type} (still : Wait → P) (stop go : P) : Waited → P
  | .still w => still w
  | .stop => stop
  | .go => go

-- SSL_do_handshake, SSL_read or SSL_write, any of which may finish the handshake.
def Flags.ssl (g : Flags) (answer : Answer) : Flags :=
  { g with initFinished := g.initFinished || answer.finished }

-- `if (!handshake_done) { SSL_do_handshake(..); if (SSL_is_init_finished(..)) handshake_done = TRUE; }`
inductive Finish where
  | ifDone | doHandshake | ifFinished | setDone
  deriving DecidableEq, Repr

def Finish.step (g : Flags) (answer : Answer) : Finish → Flags × Option Finish
  | .ifDone => (g, if g.dtlsHandshakeDone then none else some .doHandshake)
  | .doHandshake => (g.ssl answer, some .ifFinished)
  | .ifFinished => (g, if g.initFinished then some .setDone else none)
  | .setDone => ({ g with dtlsHandshakeDone := true }, none)

inductive IcePoint where
  | gathering (w : Wait)
  | negotiation (w : Wait)
  | whileExit
  | send
  | finish (f : Finish)
  | returned
  deriving DecidableEq, Repr

def iceThread (g : Flags) : IcePoint → Answer → Option (Flags × IcePoint × List Event)
  | .gathering w, _ =>
      some (g, (w.step g.exitThread g.gatheringDone).point .gathering .returned
        (.negotiation .whileExit), [])
  | .negotiation w, _ =>
      some (g, (w.step g.exitThread g.negotiationDone).point .negotiation .returned .whileExit, [])
  | .whileExit, _ => some (g, if g.exitThread then .returned else .send, [])
  | .send, answer => some (g, .finish .ifDone, if answer.nbytes > 0 then [.niceAgentSend] else [])
  | .finish f, answer =>
      let (g, next) := f.step g answer
      some (g, next.elim .whileExit .finish, [])
  | .returned, _ => none

inductive StartupPoint where
  | negotiation (w : Wait)
  | doHandshake
  | dtls (w : Wait)
  | setCursor
  | associate
  | setDone
  | announce
  | returned
  deriving DecidableEq, Repr

-- The steps of startup_thread; usrsctp_listen and the port numbers are left out.
def startupThread (g : Flags) : StartupPoint → Answer → Option (Flags × StartupPoint × List Event)
  | .negotiation w, _ =>
      some (g, (w.step g.exitThread g.negotiationDone).point .negotiation .returned .doHandshake, [])
  | .doHandshake, answer => some (g.ssl answer, .dtls .whileExit, [])
  | .dtls w, _ =>
      some (g, (w.step g.exitThread g.dtlsHandshakeDone).point .dtls .returned .setCursor, [])
  | .setCursor, _ => some (g, .associate, [])
  | .associate, answer =>
      some (g, if answer.associated then .setDone else .returned,
        [if g.role = .client then .connect else .accept])
  | .setDone, _ => some ({ g with sctpHandshakeDone := true }, .announce, [])
  | .announce, _ => some (g, .returned, if g.onConnect then [.onConnect] else [])
  | .returned, _ => none

-- A thread of control in a callback or in a call of the application.
inductive CallbackPoint where
  | idle
  | gatheringDone
  | selectedPair
  | exitThread
  -- data_received_cb
  | ifNegotiated
  | ifDone
  | ifFinished
  | setDone
  | ifStillDone
  | doHandshake
  | read
  | conninput
  -- sctp_data_ready_cb: sctp_to_dtls and then dtls_to_ice
  | toDtlsNegotiation (w : Wait)
  | toDtlsHandshake (w : Wait)
  | toDtls
  | toIceGathering (w : Wait)
  | toIceNegotiation (w : Wait)
  | toIce
  | toIceFinish (f : Finish)
  -- send_sctp_message
  | ifSctpDone
  | sendv
  | exited
  deriving DecidableEq, Repr

def Call.point : Call → CallbackPoint
  | .candidateGatheringDone => .gatheringDone
  | .newSelectedPair => .selectedPair
  | .dataReceived => .ifNegotiated
  | .sctpDataReady => .toDtlsNegotiation .whileExit
  | .sendMessage => .ifSctpDone
  | .exitThread => .exitThread

def callback (g : Flags) : CallbackPoint → Answer → Option (Flags × CallbackPoint × List Event)
  | .idle, answer => some (g, answer.call.point, [])
  | .gatheringDone, _ => some ({ g with gatheringDone := true }, .idle, [])
  | .selectedPair, _ => some ({ g with negotiationDone := true }, .idle, [])
  | .exitThread, _ => some ({ g with exitThread := true }, .idle, [])
  | .ifNegotiated, _ => some (g, if g.negotiationDone then .ifDone else .idle, [])
  | .ifDone, _ => some (g, if g.dtlsHandshakeDone then .ifStillDone else .ifFinished, [])
  | .ifFinished, _ => some (g, if g.initFinished then .setDone else .ifStillDone, [])
  | .setDone, _ => some ({ g with dtlsHandshakeDone := true }, .ifStillDone, [])
  | .ifStillDone, _ => some (g, if g.dtlsHandshakeDone then .read else .doHandshake, [])
  | .doHandshake, answer => some (g.ssl answer, .idle, [])
  | .read, answer => some (g.ssl answer, if answer.nbytes > 0 then .conninput else .idle, [])
  | .conninput, _ => some (g, .idle, [.conninput])
  | .toDtlsNegotiation w, _ =>
      some (g, (w.step g.exitThread g.negotiationDone).point .toDtlsNegotiation .exited
        (.toDtlsHandshake .whileExit), [])
  | .toDtlsHandshake w, _ =>
      some (g, (w.step g.exitThread g.dtlsHandshakeDone).point .toDtlsHandshake .exited .toDtls, [])
  | .toDtls, answer =>
      if answer.nbytes > 0 then some (g.ssl answer, .toIceGathering .whileExit, [.sslWrite])
      else some (g, .toIceGathering .whileExit, [])
  | .toIceGathering w, _ =>
      some (g, (w.step g.exitThread g.gatheringDone).point .toIceGathering .exited
        (.toIceNegotiation .whileExit), [])
  | .toIceNegotiation w, _ =>
      some (g, (w.step g.exitThread g.negotiationDone).point .toIceNegotiation .exited .toIce, [])
  | .toIce, answer =>
      some (g, .toIceFinish .ifDone, if answer.nbytes > 0 then [.niceAgentSend] else [])
  | .toIceFinish f, answer =>
      let (g, next) := f.step g answer
      some (g, next.elim .idle .toIceFinish, [])
  | .ifSctpDone, _ => some (g, if g.sctpHandshakeDone then .sendv else .idle, [])
  | .sendv, _ => some (g, .idle, [.sendv])
  | .exited, _ => none

-- rtcdc_loop runs the first two; callbacks and calls come in any number of threads.
inductive Thread where
  | ice
  | startup
  | callback (n : Nat)
  deriving DecidableEq, Repr

def Point : Thread → Type
  | .ice => IcePoint
  | .startup => StartupPoint
  | .callback _ => CallbackPoint

def program : Program Flags Point Answer Event
  | .ice => iceThread
  | .startup => startupThread
  | .callback _ => callback

structure Sound (g : Flags) : Prop where
  dtls : g.dtlsHandshakeDone = true → g.initFinished = true
  sctp : g.sctpHandshakeDone = true → g.dtlsHandshakeDone = true ∧ g.negotiationDone = true

structure Raised (g g' : Flags) : Prop where
  exitThread : g.exitThread = true → g'.exitThread = true
  gatheringDone : g.gatheringDone = true → g'.gatheringDone = true
  negotiationDone : g.negotiationDone = true → g'.negotiationDone = true
  initFinished : g.initFinished = true → g'.initFinished = true
  dtlsHandshakeDone : g.dtlsHandshakeDone = true → g'.dtlsHandshakeDone = true
  sctpHandshakeDone : g.sctpHandshakeDone = true → g'.sctpHandshakeDone = true

def Guarded (g : Flags) : Event → Prop
  | .niceAgentSend => g.negotiationDone = true
  | .conninput | .connect | .accept | .sslWrite =>
      g.negotiationDone = true ∧ g.dtlsHandshakeDone = true
  | .sendv | .onConnect => g.sctpHandshakeDone = true

def Wait.Asserts (exit flag : Bool) : Wait → Prop
  | .ifExit => exit = true ∨ flag = true
  | _ => True

def Finish.Asserts (g : Flags) : Finish → Prop
  | .setDone => g.initFinished = true
  | _ => True

def IcePoint.Asserts (g : Flags) : IcePoint → Prop
  | .gathering w => w.Asserts g.exitThread g.gatheringDone
  | .negotiation w => w.Asserts g.exitThread g.negotiationDone
  | .whileExit | .send => g.negotiationDone = true
  | .finish f => g.negotiationDone = true ∧ f.Asserts g
  | .returned => True

def StartupPoint.Asserts (g : Flags) : StartupPoint → Prop
  | .negotiation w => w.Asserts g.exitThread g.negotiationDone
  | .doHandshake => g.negotiationDone = true
  | .dtls w => g.negotiationDone = true ∧ w.Asserts g.exitThread g.dtlsHandshakeDone
  | .setCursor | .associate | .setDone => g.negotiationDone = true ∧ g.dtlsHandshakeDone = true
  | .announce => g.sctpHandshakeDone = true
  | .returned => True

def CallbackPoint.Asserts (g : Flags) : CallbackPoint → Prop
  | .ifDone | .ifFinished | .ifStillDone => g.negotiationDone = true
  | .setDone => g.negotiationDone = true ∧ g.initFinished = true
  | .read | .conninput => g.negotiationDone = true ∧ g.dtlsHandshakeDone = true
  | .toDtlsNegotiation w => w.Asserts g.exitThread g.negotiationDone
  | .toDtlsHandshake w => g.negotiationDone = true ∧ w.Asserts g.exitThread g.dtlsHandshakeDone
  | .toDtls => g.negotiationDone = true ∧ g.dtlsHandshakeDone = true
  | .toIceGathering w => w.Asserts g.exitThread g.gatheringDone
  | .toIceNegotiation w => w.Asserts g.exitThread g.negotiationDone
  | .toIce => g.negotiationDone = true
  | .toIceFinish f => f.Asserts g
  | .sendv => g.sctpHandshakeDone = true
  | _ => True

def Asserts : (t : Thread) → Flags → Point t → Prop
  | .ice, g, point => IcePoint.Asserts g point
  | .startup, g, point => StartupPoint.Asserts g point
  | .callback _, g, point => CallbackPoint.Asserts g point

variable {g g' : Flags} {answer : Answer} {emitted : List Event}

theorem Raised.refl (g : Flags) : Raised g g := ⟨id, id, id, id, id, id⟩

theorem raised_ssl (g : Flags) (answer : Answer) : Raised g (g.ssl answer) where
  exitThread := id
  gatheringDone := id
  negotiationDone := id
  initFinished := fun finished => by simp [Flags.ssl, finished]
  dtlsHandshakeDone := id
  sctpHandshakeDone := id

theorem Sound.ssl (sound : Sound g) (answer : Answer) : Sound (g.ssl answer) where
  dtls := fun done => (raised_ssl g answer).initFinished (sound.dtls done)
  sctp := sound.sctp

theorem Sound.setDtls (sound : Sound g) (finished : g.initFinished = true) :
    Sound { g with dtlsHandshakeDone := true } :=
  ⟨fun _ => finished, fun done => ⟨rfl, (sound.sctp done).2⟩⟩

theorem raised_setDtls (g : Flags) : Raised g { g with dtlsHandshakeDone := true } :=
  ⟨id, id, id, id, fun _ => rfl, id⟩

theorem Wait.Asserts.raise {exit exit' flag flag' : Bool} {w : Wait} (asserts : w.Asserts exit flag)
    (exits : exit = true → exit' = true) (flags : flag = true → flag' = true) :
    w.Asserts exit' flag' := by
  cases w with
  | ifExit => exact asserts.imp exits flags
  | whileExit | whileFlag => trivial

theorem Finish.Asserts.raise {f : Finish} (asserts : f.Asserts g) (raised : Raised g g') :
    f.Asserts g' := by
  cases f with
  | setDone => exact raised.initFinished asserts
  | ifDone | doHandshake | ifFinished => trivial

theorem Wait.Asserts.step {P : Type} {A : P → Prop} {still : Wait → P} {stop go : P}
    {exit flag : Bool} {w : Wait} (asserts : w.Asserts exit flag)
    (atStill : ∀ w : Wait, w.Asserts exit flag → A (still w)) (atStop : A stop)
    (atGo : flag = true → A go) : A ((w.step exit flag).point still stop go) := by
  cases w with
  | whileExit => cases exit <;> exact atStill _ (by simp [Wait.Asserts])
  | whileFlag => cases flag <;> exact atStill _ (by simp [Wait.Asserts])
  | ifExit =>
      cases exit with
      | true => exact atStop
      | false => exact atGo (asserts.resolve_left Bool.false_ne_true)

theorem Finish.Asserts.step {f : Finish} (asserts : f.Asserts g) (sound : Sound g)
    (answer : Answer) :
    Sound (f.step g answer).1 ∧ Raised g (f.step g answer).1 ∧
      ∀ f' ∈ (f.step g answer).2, f'.Asserts (f.step g answer).1 := by
  cases f with
  | ifDone =>
      refine ⟨sound, .refl g, ?_⟩
      dsimp only [Finish.step]
      split_ifs <;> simp [Finish.Asserts]
  | doHandshake => exact ⟨sound.ssl answer, raised_ssl g answer, by simp [Finish.step, Finish.Asserts]⟩
  | ifFinished =>
      refine ⟨sound, .refl g, ?_⟩
      dsimp only [Finish.step]
      split_ifs with finished <;> simp [Finish.Asserts, finished]
  | setDone => exact ⟨sound.setDtls asserts, raised_setDtls g, by simp [Finish.step]⟩

theorem asserts_raise (t : Thread) (point : Point t) (asserts : Asserts t g point)
    (raised : Raised g g') : Asserts t g' point := by
  cases t with
  | ice =>
      cases point with
      | gathering w => exact Wait.Asserts.raise asserts raised.exitThread raised.gatheringDone
      | negotiation w => exact Wait.Asserts.raise asserts raised.exitThread raised.negotiationDone
      | whileExit | send => exact raised.negotiationDone asserts
      | finish f => exact ⟨raised.negotiationDone asserts.1, asserts.2.raise raised⟩
      | returned => trivial
  | startup =>
      cases point with
      | negotiation w => exact Wait.Asserts.raise asserts raised.exitThread raised.negotiationDone
      | doHandshake => exact raised.negotiationDone asserts
      | dtls w =>
          exact ⟨raised.negotiationDone asserts.1,
            asserts.2.raise raised.exitThread raised.dtlsHandshakeDone⟩
      | setCursor | associate | setDone =>
          exact asserts.imp raised.negotiationDone raised.dtlsHandshakeDone
      | announce => exact raised.sctpHandshakeDone asserts
      | returned => trivial
  | callback n =>
      cases point with
      | ifDone | ifFinished | ifStillDone | toIce => exact raised.negotiationDone asserts
      | setDone => exact asserts.imp raised.negotiationDone raised.initFinished
      | read | conninput | toDtls => exact asserts.imp raised.negotiationDone raised.dtlsHandshakeDone
      | toDtlsNegotiation w | toIceNegotiation w =>
          exact Wait.Asserts.raise asserts raised.exitThread raised.negotiationDone
      | toDtlsHandshake w =>
          exact ⟨raised.negotiationDone asserts.1,
            asserts.2.raise raised.exitThread raised.dtlsHandshakeDone⟩
      | toIceGathering w => exact Wait.Asserts.raise asserts raised.exitThread raised.gatheringDone
      | toIceFinish f => exact Finish.Asserts.raise asserts raised
      | sendv => exact raised.sctpHandshakeDone asserts
      | idle | gatheringDone | selectedPair | exitThread | ifNegotiated | doHandshake | ifSctpDone
      | exited => trivial

structure Orderly (g g' : Flags) (asserts : Prop) (emitted : List Event) : Prop where
  sound : Sound g'
  asserts : asserts
  raised : Raised g g'
  guarded : ∀ event ∈ emitted, Guarded g event

theorem Orderly.look {asserts : Prop} (sound : Sound g) (holds : asserts) :
    Orderly g g asserts [] :=
  ⟨sound, holds, .refl g, by simp⟩

theorem Orderly.emit {asserts : Prop} {event : Event} {sends : Prop} [Decidable sends]
    (sound : Sound g) (holds : asserts) (guarded : Guarded g event) :
    Orderly g g asserts (if sends then [event] else []) := by
  refine ⟨sound, holds, .refl g, fun event' member => ?_⟩
  split_ifs at member
  · obtain rfl := List.mem_singleton.mp member
    exact guarded
  · cases member

theorem finish_orderly {P : Type} {A : P → Prop} {f : Finish} {next : Option Finish} {done : P}
    {still : Finish → P} (sound : Sound g) (asserts : f.Asserts g)
    (stepped : f.step g answer = (g', next)) (atDone : Raised g g' → A done)
    (atStill : ∀ f' : Finish, Raised g g' → f'.Asserts g' → A (still f')) :
    Orderly g g' (A (next.elim done still)) [] := by
  obtain ⟨sound', raised, later⟩ := asserts.step sound answer
  rw [stepped] at sound' raised later
  refine ⟨sound', ?_, raised, by simp⟩
  cases next with
  | none => exact atDone raised
  | some f' => exact atStill f' raised (later f' rfl)

theorem ice_orderly {point point' : IcePoint} (sound : Sound g) (asserts : point.Asserts g)
    (taken : iceThread g point answer = some (g', point', emitted)) :
    Orderly g g' (point'.Asserts g') emitted := by
  cases point with
  | gathering w =>
      cases taken
      refine .look sound (Wait.Asserts.step asserts (fun _ still => still) trivial fun _ => ?_)
      trivial
  | negotiation w =>
      cases taken
      exact .look sound (Wait.Asserts.step asserts (fun _ still => still) trivial id)
  | whileExit =>
      cases taken
      refine .look sound ?_
      split_ifs
      · trivial
      · exact asserts
  | send =>
      cases taken
      exact .emit sound ⟨asserts, trivial⟩ asserts
  | finish f =>
      simp only [iceThread] at taken
      generalize stepped : f.step g answer = finished at taken
      obtain ⟨after, next⟩ := finished
      cases taken
      exact finish_orderly sound asserts.2 stepped (fun raised => raised.negotiationDone asserts.1)
        fun f' raised still => ⟨raised.negotiationDone asserts.1, still⟩
  | returned => cases taken

theorem startup_orderly {point point' : StartupPoint} (sound : Sound g) (asserts : point.Asserts g)
    (taken : startupThread g point answer = some (g', point', emitted)) :
    Orderly g g' (point'.Asserts g') emitted := by
  cases point with
  | negotiation w =>
      cases taken
      exact .look sound (Wait.Asserts.step asserts (fun _ still => still) trivial id)
  | doHandshake =>
      cases taken
      exact ⟨sound.ssl answer, ⟨asserts, trivial⟩, raised_ssl g answer, by simp⟩
  | dtls w =>
      cases taken
      exact .look sound (asserts.2.step (fun _ still => ⟨asserts.1, still⟩) trivial
        fun done => ⟨asserts.1, done⟩)
  | setCursor =>
      cases taken
      exact .look sound asserts
  | associate =>
      cases taken
      refine ⟨sound, ?_, .refl g, fun event member => ?_⟩
      · split_ifs
        · exact asserts
        · trivial
      · obtain rfl := List.mem_singleton.mp member
        split_ifs <;> exact asserts
  | setDone =>
      cases taken
      exact ⟨⟨sound.dtls, fun _ => asserts.symm⟩, rfl, ⟨id, id, id, id, id, fun _ => rfl⟩, by simp⟩
  | announce =>
      cases taken
      exact .emit sound trivial asserts
  | returned => cases taken

theorem callback_orderly {point point' : CallbackPoint} (sound : Sound g)
    (asserts : point.Asserts g) (taken : callback g point answer = some (g', point', emitted)) :
    Orderly g g' (point'.Asserts g') emitted := by
  cases point with
  | idle =>
      cases taken
      refine .look sound ?_
      cases answer.call <;> trivial
  | gatheringDone | selectedPair | exitThread =>
      cases taken
      refine ⟨⟨sound.dtls, ?_⟩, trivial, ⟨?_, ?_, ?_, ?_, ?_, ?_⟩, by simp⟩ <;>
        simp +contextual [sound.sctp]
  | ifNegotiated =>
      cases taken
      refine .look sound ?_
      split_ifs with negotiated
      · exact negotiated
      · trivial
  | ifDone =>
      cases taken
      refine .look sound ?_
      split_ifs <;> exact asserts
  | ifFinished =>
      cases taken
      refine .look sound ?_
      split_ifs with finished
      · exact ⟨asserts, finished⟩
      · exact asserts
  | setDone =>
      cases taken
      exact ⟨sound.setDtls asserts.2, asserts.1, raised_setDtls g, by simp⟩
  | ifStillDone =>
      cases taken
      refine .look sound ?_
      split_ifs with done
      · exact ⟨asserts, done⟩
      · trivial
  | doHandshake =>
      cases taken
      exact ⟨sound.ssl answer, trivial, raised_ssl g answer, by simp⟩
  | read =>
      cases taken
      refine ⟨sound.ssl answer, ?_, raised_ssl g answer, by simp⟩
      split_ifs
      · exact asserts
      · trivial
  | conninput =>
      cases taken
      exact ⟨sound, trivial, .refl g, List.forall_mem_singleton.mpr asserts⟩
  | toDtlsNegotiation w =>
      cases taken
      exact .look sound (Wait.Asserts.step asserts (fun _ still => still) trivial
        fun negotiated => ⟨negotiated, trivial⟩)
  | toDtlsHandshake w =>
      cases taken
      exact .look sound (asserts.2.step (fun _ still => ⟨asserts.1, still⟩) trivial
        fun done => ⟨asserts.1, done⟩)
  | toDtls =>
      simp only [callback] at taken
      split_ifs at taken
      · cases taken
        exact ⟨sound.ssl answer, trivial, raised_ssl g answer,
          List.forall_mem_singleton.mpr asserts⟩
      · cases taken
        exact .look sound trivial
  | toIceGathering w =>
      cases taken
      refine .look sound (Wait.Asserts.step asserts (fun _ still => still) trivial fun _ => ?_)
      trivial
  | toIceNegotiation w =>
      cases taken
      exact .look sound (Wait.Asserts.step asserts (fun _ still => still) trivial id)
  | toIce =>
      cases taken
      exact .emit sound trivial asserts
  | toIceFinish f =>
      simp only [callback] at taken
      generalize stepped : f.step g answer = finished at taken
      obtain ⟨after, next⟩ := finished
      cases taken
      exact finish_orderly sound asserts stepped (fun _ => trivial) fun f' _ still => still
  | ifSctpDone =>
      cases taken
      refine .look sound ?_
      split_ifs with done
      · exact done
      · trivial
  | sendv =>
      cases taken
      exact ⟨sound, trivial, .refl g, List.forall_mem_singleton.mpr asserts⟩
  | exited => cases taken

def outline : Outline program where
  inv := Sound
  asserts := Asserts
  guarantees := Raised
  emits := Guarded
  stable := fun t _ _ point => asserts_raise t point
  sound := by
    intro t g point answer g' point' emitted sound asserts taken
    cases t with
    | ice =>
        have orderly := ice_orderly sound asserts taken
        exact ⟨orderly.sound, orderly.asserts, orderly.raised, orderly.guarded⟩
    | startup =>
        have orderly := startup_orderly sound asserts taken
        exact ⟨orderly.sound, orderly.asserts, orderly.raised, orderly.guarded⟩
    | callback n =>
        have orderly := callback_orderly sound asserts taken
        exact ⟨orderly.sound, orderly.asserts, orderly.raised, orderly.guarded⟩

abbrev Loop := Threads Flags Point

def connects (events : List Event) : Nat := events.count .onConnect

theorem ice_connects {point point' : IcePoint}
    (taken : iceThread g point answer = some (g', point', emitted)) : connects emitted = 0 := by
  cases point with
  | send =>
      cases taken
      split_ifs <;> rfl
  | returned => cases taken
  | gathering | negotiation | whileExit | finish =>
      cases taken
      rfl

theorem callback_connects {point point' : CallbackPoint}
    (taken : callback g point answer = some (g', point', emitted)) : connects emitted = 0 := by
  cases point with
  | toDtls =>
      simp only [callback] at taken
      split_ifs at taken <;> cases taken <;> rfl
  | toIce =>
      cases taken
      split_ifs <;> rfl
  | exited => cases taken
  | _ =>
      cases taken
      rfl

theorem startup_connects {point point' : StartupPoint}
    (taken : startupThread g point answer = some (g', point', emitted)) :
    point ≠ .returned ∧ (connects emitted = 0 ∨ connects emitted = 1 ∧ point' = .returned) := by
  cases point with
  | associate =>
      cases taken
      refine ⟨nofun, .inl ?_⟩
      split_ifs <;> rfl
  | announce =>
      cases taken
      refine ⟨nofun, ?_⟩
      split_ifs
      · exact .inr ⟨rfl, rfl⟩
      · exact .inl rfl
  | returned => cases taken
  | negotiation | doHandshake | dtls | setCursor | setDone =>
      cases taken
      exact ⟨nofun, .inl rfl⟩

theorem connects_step {s next : Loop} {action : Thread × Answer}
    (moved : program.step s action = some (next, emitted)) :
    (connects emitted = 0 ∧ (s.point .startup = StartupPoint.returned →
        next.point .startup = StartupPoint.returned)) ∨
      (connects emitted = 1 ∧ s.point .startup ≠ StartupPoint.returned ∧
        next.point .startup = StartupPoint.returned) := by
  obtain ⟨t, answer⟩ := action
  obtain ⟨taken, others⟩ := Program.step_cases moved
  cases t with
  | startup =>
      obtain ⟨running, none_yet | ⟨one, last⟩⟩ := startup_connects taken
      · exact .inl ⟨none_yet, fun returned => absurd returned running⟩
      · exact .inr ⟨one, running, last⟩
  | ice =>
      have still := others .startup nofun
      exact .inl ⟨ice_connects taken, fun returned => still.trans returned⟩
  | callback n =>
      have still := others .startup nofun
      exact .inl ⟨callback_connects taken, fun returned => still.trans returned⟩

theorem connects_once {start s : Loop} {actions : List (Thread × Answer)} {events : List Event}
    (run : Run program.step start actions s events) :
    connects events ≤ 1 ∧ (s.point .startup ≠ StartupPoint.returned → connects events = 0) := by
  refine run.invariant (fun s events => connects events ≤ 1 ∧
    (s.point .startup ≠ StartupPoint.returned → connects events = 0)) ?_ ?_
  · exact ⟨Nat.zero_le 1, fun _ => rfl⟩
  · intro s events action next emitted before _ moved
    have added : connects (events ++ emitted) = connects events + connects emitted :=
      List.count_append
    rw [added]
    rcases connects_step moved with ⟨none_now, still⟩ | ⟨one, running, returned⟩
    · rw [none_now]
      exact ⟨before.1, fun running => before.2 fun returned => running (still returned)⟩
    · rw [one, before.2 running]
      exact ⟨Nat.le_refl 1, fun running => absurd returned running⟩

structure Started (s : Loop) : Prop where
  sound : Sound s.shared
  ice : s.point .ice = IcePoint.gathering .whileExit
  startup : s.point .startup = StartupPoint.negotiation .whileExit
  callbacks : ∀ n, s.point (.callback n) = CallbackPoint.idle

structure Ordered (s : Loop) (events : List Event) : Prop where
  sound : Sound s.shared
  next : ∀ action next emitted, program.step s action = some (next, emitted) →
    Raised s.shared next.shared ∧ ∀ event ∈ emitted, Guarded s.shared event
  once : connects events ≤ 1

theorem Started.holds {s : Loop} (started : Started s) : outline.Holds s where
  inv := started.sound
  asserts := by
    intro t
    cases t with
    | ice =>
        rw [started.ice]
        trivial
    | startup =>
        rw [started.startup]
        trivial
    | callback n =>
        rw [started.callbacks n]
        trivial

theorem layers_ordered {start s : Loop} {actions : List (Thread × Answer)} {events : List Event}
    (started : Started start) (run : Run program.step start actions s events) :
    Ordered s events where
  sound := (started.holds.run run).inv
  next := fun _ _ _ moved => ((started.holds.run run).step moved).2
  once := (connects_once run).1

def freshLoop : Loop where
  shared :=
    { exitThread := false, gatheringDone := false, negotiationDone := false, initFinished := false
      dtlsHandshakeDone := false, sctpHandshakeDone := false, role := .client, onConnect := true }
  point
    | .ice => IcePoint.gathering .whileExit
    | .startup => StartupPoint.negotiation .whileExit
    | .callback _ => CallbackPoint.idle

def comes (call : Call) : Answer := ⟨call, 10, true, true⟩

def startup : List (Thread × Answer) :=
  List.replicate 2 (.callback 0, comes .newSelectedPair) ++
    List.replicate 4 (.startup, comes .dataReceived) ++
    List.replicate 8 (.callback 1, comes .dataReceived) ++
    List.replicate 7 (.startup, comes .dataReceived) ++
    List.replicate 3 (.callback 2, comes .sendMessage)

theorem startup_ordered : ∃ last,
    Run program.step freshLoop startup last [.conninput, .connect, .onConnect, .sendv] ∧
      Ordered last [.conninput, .connect, .onConnect, .sendv] := by
  have emitted : (exec program.step freshLoop startup).map Prod.snd =
      some [.conninput, .connect, .onConnect, .sendv] := by decide +kernel
  obtain ⟨last, run⟩ := exec_events emitted
  have started : Started freshLoop := ⟨⟨nofun, nofun⟩, rfl, rfl, fun _ => rfl⟩
  exact ⟨last, run, layers_ordered started run⟩

structure Agrees (g : Flags) (peer : RtcdcPeerConnection) (transport : RtcdcTransport) : Prop where
  stored : peer.transport = some transport
  exitThread : peer.exitThread = g.exitThread
  negotiationDone : transport.ice.negotiationDone = g.negotiationDone
  dtlsHandshakeDone : transport.dtls.handshakeDone = g.dtlsHandshakeDone
  sctpHandshakeDone : transport.sctp.handshakeDone = g.sctpHandshakeDone
  role : peer.role = g.role
  onConnect : peer.onConnect = g.onConnect

def StartupPoint.pc : StartupPoint → StartupPc
  | .negotiation _ => .awaitNegotiation
  | .doHandshake => .doHandshake
  | .dtls _ => .awaitDtls
  | .setCursor => .setCursor
  | .associate | .setDone => .associate
  | .announce => .announce
  | .returned => .finished

def Refines (peer : RtcdcPeerConnection) (transport : RtcdcTransport) (g' : Flags)
    (point point' : StartupPoint) (emitted : List Event) : Prop :=
  (point'.pc = point.pc ∧ connects emitted = 0 ∧ Agrees g' peer transport) ∨
    ∃ associated peer' transport' effects,
      Librtcdc.startupThread peer point.pc associated = some (peer', point'.pc, effects) ∧
        effects.count .onConnect = connects emitted ∧ Agrees g' peer' transport'

theorem wait_refines {peer : RtcdcPeerConnection} {transport : RtcdcTransport}
    {still : Wait → StartupPoint} {go : StartupPoint} {flag : Bool} {w : Wait}
    (agrees : Agrees g peer transport) (asserts : w.Asserts g.exitThread flag)
    (same : ∀ w', (still w').pc = (still w).pc)
    (stops : g.exitThread = true →
      Librtcdc.startupThread peer (still w).pc false = some (peer, .finished, []))
    (goes : g.exitThread = false → flag = true →
      Librtcdc.startupThread peer (still w).pc false = some (peer, go.pc, [])) :
    Refines peer transport g (still w) ((w.step g.exitThread flag).point still .returned go) [] := by
  cases w with
  | whileExit | whileFlag => exact .inl ⟨same _, rfl, agrees⟩
  | ifExit =>
      cases exits : g.exitThread with
      | true => exact .inr ⟨false, peer, transport, [], stops exits, rfl, agrees⟩
      | false =>
          have done : flag = true := asserts.resolve_left (by simp [exits])
          exact .inr ⟨false, peer, transport, [], goes exits done, rfl, agrees⟩

theorem startup_refines {peer : RtcdcPeerConnection} {transport : RtcdcTransport}
    {point point' : StartupPoint} (agrees : Agrees g peer transport) (asserts : point.Asserts g)
    (taken : startupThread g point answer = some (g', point', emitted)) :
    Refines peer transport g' point point' emitted := by
  have stored := agrees.stored
  cases point with
  | negotiation w =>
      cases taken
      refine wait_refines agrees asserts (fun _ => rfl) (fun exits => ?_) fun stays flag => ?_
      · simp [Librtcdc.startupThread, StartupPoint.pc, stored, agrees.exitThread, exits]
      · simp [Librtcdc.startupThread, StartupPoint.pc, stored, agrees.exitThread, stays,
          agrees.negotiationDone, flag]
  | doHandshake =>
      cases taken
      refine .inr ⟨false, peer, transport, [], ?_, rfl, ⟨stored, agrees.exitThread,
        agrees.negotiationDone, agrees.dtlsHandshakeDone, agrees.sctpHandshakeDone, agrees.role,
        agrees.onConnect⟩⟩
      simp [Librtcdc.startupThread, StartupPoint.pc, stored]
  | dtls w =>
      cases taken
      refine wait_refines agrees asserts.2 (fun _ => rfl) (fun exits => ?_) fun stays flag => ?_
      · simp [Librtcdc.startupThread, StartupPoint.pc, stored, agrees.exitThread, exits]
      · simp [Librtcdc.startupThread, StartupPoint.pc, stored, agrees.exitThread, stays,
          agrees.dtlsHandshakeDone, flag]
  | setCursor =>
      cases taken
      let sctp : SctpTransport :=
        { transport.sctp with streamCursor := if peer.role = .client then 0 else 1 }
      refine .inr ⟨false, peer.withSctp transport sctp, { transport with sctp := sctp }, [], ?_, rfl,
        ⟨rfl, agrees.exitThread, agrees.negotiationDone, agrees.dtlsHandshakeDone,
          agrees.sctpHandshakeDone, agrees.role, agrees.onConnect⟩⟩
      simp only [Librtcdc.startupThread, StartupPoint.pc, stored]
      rfl
  | associate =>
      cases taken
      have quiet : connects [if g.role = .client then .connect else .accept] = 0 := by
        split_ifs <;> rfl
      cases came : answer.associated with
      | true => exact .inl ⟨rfl, quiet, agrees⟩
      | false =>
          refine .inr ⟨false, peer, transport, [], ?_, quiet.symm, agrees⟩
          simp [Librtcdc.startupThread, StartupPoint.pc, stored]
  | setDone =>
      cases taken
      let sctp : SctpTransport := { transport.sctp with handshakeDone := true }
      refine .inr ⟨true, peer.withSctp transport sctp, { transport with sctp := sctp }, [], ?_, rfl,
        ⟨rfl, agrees.exitThread, agrees.negotiationDone, agrees.dtlsHandshakeDone, rfl, agrees.role,
          agrees.onConnect⟩⟩
      simp only [Librtcdc.startupThread, StartupPoint.pc, stored]
      rfl
  | announce =>
      cases taken
      refine .inr ⟨false, peer, transport, if peer.onConnect then [.onConnect] else [], ?_, ?_,
        agrees⟩
      · simp [Librtcdc.startupThread, StartupPoint.pc, stored]
      · rw [agrees.onConnect]
        cases g.onConnect <;> rfl
  | returned => cases taken

end Librtcdc.Layers
