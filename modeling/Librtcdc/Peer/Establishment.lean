import Librtcdc.Peer.Conversation
import Librtcdc.Peer.Provenance
import Librtcdc.Peer.Resignalling
import Librtcdc.Peer.Roles

set_option autoImplicit false

namespace Librtcdc.Establishment

open Systems Roles
open Pair (Side TwoPeers)

-- Two peers from their creation on: signalling, `startup_thread` and the data channels.

variable {Process : Type}

structure Session where
  channels : ChannelTable
  onChannel : Option (RtcdcDataChannel → Callbacks)
  onConnect : Bool
  -- what `startup_thread` does next, `none` before `rtcdc_loop`
  startup : Option StartupPc

structure TwoParties (Process : Type) where
  negotiation : Negotiation Process
  sessions : Party → Session
  wire : Party → List Sendv

def transportView (transport : Transport) : RtcdcTransport where
  ice := transport.ice
  dtls := transport.dtls
  sctp := transport.sctp.toSctpTransport

def transportAfter (transport : Transport) (view : RtcdcTransport) : Transport :=
  { transport with
    ice := view.ice
    dtls := view.dtls
    sctp := { transport.sctp with toSctpTransport := view.sctp } }

-- `rtcdc_loop` sets `exit_thread` only when its main loop has ended.
def peerView (connection : Connection) (session : Session) : RtcdcPeerConnection where
  exitThread := false
  transport := connection.transport.map transportView
  role := connection.role
  channels := session.channels
  onChannel := session.onChannel
  onConnect := session.onConnect

def connectionAfter (connection : Connection) (peer : RtcdcPeerConnection) : Connection :=
  { connection with
    transport := connection.transport.bind fun transport =>
      peer.transport.map (transportAfter transport) }

def TwoParties.peer (x : TwoParties Process) (p : Party) : RtcdcPeerConnection :=
  peerView (x.negotiation.peers p) (x.sessions p)

def TwoParties.after (x : TwoParties Process) (p : Party) (peer : RtcdcPeerConnection)
    (startup : Option StartupPc) : TwoParties Process :=
  { x with
    negotiation := { x.negotiation with
      peers := Function.update x.negotiation.peers p
        (connectionAfter (x.negotiation.peers p) peer) }
    sessions := Function.update x.sessions p
      { x.sessions p with channels := peer.channels, startup } }

def TwoParties.party (x : TwoParties Process) : Side → Party
  | .client => if (x.negotiation.peers .first).role = .client then .first else .second
  | .server => if (x.negotiation.peers .first).role = .client then .second else .first

def TwoParties.side (x : TwoParties Process) (p : Party) : Side :=
  if p = x.party .client then .client else .server

def TwoParties.pair (x : TwoParties Process) : TwoPeers where
  peers side := x.peer (x.party side)
  wire side := x.wire (x.party side)

def TwoParties.resume (x : TwoParties Process) (pair : TwoPeers) : TwoParties Process where
  negotiation := { x.negotiation with
    peers := fun p => connectionAfter (x.negotiation.peers p) (pair.peers (x.side p)) }
  sessions := fun p => { x.sessions p with channels := (pair.peers (x.side p)).channels }
  wire := fun p => pair.wire (x.side p)

inductive Action where
  | signal (action : Roles.Action)
  -- `rtcdc_loop` starts its threads
  | loop (party : Party)
  -- the callbacks of the ICE agent set negotiation_done, those of OpenSSL handshake_done
  | negotiated (party : Party)
  | secured (party : Party)
  | startup (party : Party) (associated : Bool)
  | call (action : Pair.Action)

inductive Event where
  | library (call : LibraryCall)
  | startup (party : Party) (effect : Effect)
  | pair (event : Pair.Event)

def TwoParties.flag (x : TwoParties Process) (p : Party) (flag : Transport → Transport) :
    TwoParties Process :=
  { x with
    negotiation := { x.negotiation with
      peers := Function.update x.negotiation.peers p
        { x.negotiation.peers p with transport := (x.negotiation.peers p).transport.map flag } } }

def TwoParties.loop (x : TwoParties Process) (p : Party) : TwoParties Process :=
  let session := { x.sessions p with startup := some .awaitNegotiation }
  { x with sessions := Function.update x.sessions p session }

variable [DecidableEq Process] (process : Party → Process) in
def step : Step (TwoParties Process) Action Event
  | x, .signal action =>
      (Roles.step process x.negotiation action).map fun (negotiation, calls) =>
        ({ x with negotiation }, calls.map .library)
  | x, .loop p =>
      let peer := x.negotiation.peers p
      if peer.initialized = true ∧ peer.transport ≠ none ∧ (x.sessions p).startup = none then
        some (x.loop p, [])
      else
        none
  | x, .negotiated p =>
      some (x.flag p fun transport => { transport with ice := { negotiationDone := true } }, [])
  | x, .secured p =>
      some (x.flag p fun transport => { transport with dtls := { handshakeDone := true } }, [])
  | x, .startup p associated =>
      (x.sessions p).startup.bind fun pc =>
        (startupThread (x.peer p) pc associated).map fun (peer, pc, effects) =>
          (x.after p peer (some pc), effects.map (.startup p))
  | x, .call action =>
      (Pair.step x.pair action).map fun (pair, events) => (x.resume pair, events.map .pair)

def pairIn : Event → Option Pair.Event
  | .pair event => some event
  | _ => none

def talk (events : List Event) : List Pair.Event :=
  events.filterMap pairIn

structure Fresh (x : TwoParties Process) : Prop where
  negotiation : Roles.Fresh x.negotiation
  channels : ∀ p i, (x.sessions p).channels i = none
  startup : ∀ p, (x.sessions p).startup = none
  wire : ∀ p, x.wire p = []

def PastCursor (x : TwoParties Process) (p : Party) : Prop :=
  ∃ pc ∈ (x.sessions p).startup, pc.pastCursor = true

-- An SDP that is parsed states the role of its sender, and candidate pairs come from one that was
-- parsed. SCTP connects two sockets that are there, and the application waits for `on_connect`.
def Proper (x : TwoParties Process) : Action → Prop
  | .signal action => Roles.Current x.negotiation action
  | .loop _ => True
  | .negotiated p => x.negotiation.parsed p = true
  | .secured _ => True
  | .startup p associated => associated = true → (x.sessions p).startup = some .associate →
      PastCursor x p.other
  | .call (.create side ..) => Pair.handshakeDone (x.pair.peers side) = true
  | .call (.send side ..) => Pair.handshakeDone (x.pair.peers side) = true
  | .call (.deliver ..) => True
  -- the step of `startup_thread` does this
  | .call (.handshake _) => False

variable {x next : TwoParties Process} {p : Party} {side : Side}
  {before after peer : RtcdcPeerConnection} {connection : Connection} {session : Session}
  {startup : Option StartupPc} {pair : TwoPeers}

structure SameFrame (before after : RtcdcPeerConnection) : Prop where
  exitThread : after.exitThread = before.exitThread
  role : after.role = before.role
  onChannel : after.onChannel = before.onChannel
  onConnect : after.onConnect = before.onConnect
  transport : ∀ transport, before.transport = some transport → ∃ transport',
    after.transport = some transport' ∧ transport'.ice = transport.ice ∧
      transport'.dtls = transport.dtls
  absent : before.transport = none → after.transport = none

theorem SameFrame.refl (peer : RtcdcPeerConnection) : SameFrame peer peer where
  exitThread := rfl
  role := rfl
  onChannel := rfl
  onConnect := rfl
  transport := fun transport stored => ⟨transport, stored, rfl, rfl⟩
  absent := id

theorem SameFrame.channels (peer : RtcdcPeerConnection) (channels : ChannelTable) :
    SameFrame peer { peer with channels } where
  exitThread := rfl
  role := rfl
  onChannel := rfl
  onConnect := rfl
  transport := fun transport stored => ⟨transport, stored, rfl, rfl⟩
  absent := id

theorem SameFrame.withSctp {transport : RtcdcTransport} (sctp : SctpTransport)
    (channels : ChannelTable) (stored : peer.transport = some transport) :
    SameFrame peer { peer.withSctp transport sctp with channels } where
  exitThread := rfl
  role := rfl
  onChannel := rfl
  onConnect := rfl
  transport := by
    intro other same
    obtain rfl : transport = other := by simpa [stored] using same
    exact ⟨_, rfl, rfl, rfl⟩
  absent := fun absent => by simp [stored] at absent

theorem receive_frame {data : Bytes} {ppid : UInt32} {sid : UInt16} {notification : Bool}
    {env : HandlerEnv} {effects : List Effect}
    (handled : sctpDataReceivedCb before data ppid sid notification env = some (after, effects)) :
    SameFrame before after := by
  unfold sctpDataReceivedCb at handled
  split_ifs at handled
  · obtain ⟨rfl, rfl⟩ := Prod.mk.inj (Option.some.inj handled)
    exact .refl _
  · obtain ⟨rfl, rfl⟩ := Prod.mk.inj (Option.some.inj handled)
    exact .refl _
  · unfold handleRtcdcMessage at handled
    split_ifs at handled
    · split at handled
      · cases handled
      · split_ifs at handled
        · rcases handleRtcdcOpenRequest_cases handled with
            ⟨rfl, _⟩ | ⟨_, _, _, _, _, _, _, _, rfl, _⟩
          · exact .refl _
          · exact .channels _ _
        · rcases handleRtcdcOpenAck_cases before sid with ⟨_, same⟩ | ⟨_, _, _, _, _, same⟩ <;>
            rw [same] at handled <;> cases handled
          · exact .refl _
          · exact .channels _ _
        · cases handled
          exact .refl _
    · split at handled
      · rename_i type _
        rcases handleRtcdcData_cases before sid type data with ⟨_, same⟩ | ⟨_, _, _, _, _, same⟩ <;>
          rw [same] at handled <;> cases handled
        · exact .refl _
        · exact .channels _ _
      · cases handled
        exact .refl _

theorem create_frame {label protocol : Option CString} {callbacks : Callbacks} {env : CreateEnv}
    {created : Option (Fin rtcdcMaxChannelNum)} {effects : List Effect}
    (called : rtcdcCreateDataChannel before label protocol callbacks env =
      some (created, after, effects)) : SameFrame before after := by
  rcases rtcdcCreateDataChannel_cases called with
    ⟨_, rfl, _⟩ | ⟨_, _, _, _, _, _, _, stored, _, _, _, _, _, _, _, ⟨_, _, rfl⟩ | ⟨_, _, rfl⟩⟩
  · exact .refl _
  · exact .withSctp _ _ stored
  · exact .withSctp _ _ stored

theorem after_frame {x : TwoPeers} {effects : List Effect}
    (frame : SameFrame (x.peers side) peer) (at_ : Side) :
    SameFrame (x.peers at_) ((x.after side peer effects).peers at_) := by
  by_cases here : at_ = side
  · subst here
    simpa [TwoPeers.after] using frame
  · simpa [TwoPeers.after, Function.update_of_ne here] using SameFrame.refl _

theorem pair_frame {x next : TwoPeers} {action : Pair.Action} {events : List Pair.Event}
    (moved : Pair.step x action = some (next, events)) (at_ : Side) :
    SameFrame (x.peers at_) (next.peers at_) := by
  cases action with
  | create side label protocol callbacks env =>
      simp only [Pair.step] at moved
      split_ifs at moved
      obtain ⟨⟨created, peer, effects⟩, called, same⟩ := Option.map_eq_some_iff.mp moved
      obtain ⟨rfl, rfl⟩ := Prod.mk.inj same
      exact after_frame (create_frame called) at_
  | send side slot datatype data err =>
      simp only [Pair.step] at moved
      split_ifs at moved
      obtain ⟨transport, stored, same⟩ := Option.map_eq_some_iff.mp moved
      obtain ⟨rfl, rfl⟩ := Prod.mk.inj same
      exact after_frame (.refl _) at_
  | deliver sender position env =>
      simp only [Pair.step] at moved
      split_ifs at moved
      obtain ⟨⟨message, rest⟩, _, received⟩ := Option.bind_eq_some_iff.mp moved
      obtain ⟨⟨peer, effects⟩, handled, same⟩ := Option.map_eq_some_iff.mp received
      obtain ⟨rfl, rfl⟩ := Prod.mk.inj same
      exact after_frame (x := { x with wire := Function.update x.wire sender rest })
        (receive_frame handled) at_
  | handshake side =>
      obtain ⟨transport, stored, same⟩ := Option.map_eq_some_iff.mp moved
      obtain ⟨rfl, rfl⟩ := Prod.mk.inj same
      exact after_frame (.withSctp _ _ stored) at_

theorem view_after (frame : SameFrame (peerView connection session) peer) :
    peerView (connectionAfter connection peer)
      { session with channels := peer.channels, startup } = peer := by
  obtain ⟨exitThread, transport, role, channels, onChannel, onConnect⟩ := peer
  obtain ⟨exits, roles, shows, connects, there, absent⟩ := frame
  simp only [peerView] at exits roles shows connects there absent
  cases stored : connection.transport with
  | none =>
      have nothing : transport = none := absent (by rw [stored]; rfl)
      simp [peerView, connectionAfter, stored, exits, roles, shows, connects, nothing]
  | some held =>
      obtain ⟨transport', rfl, _⟩ := there _ (by rw [stored]; rfl)
      simp [peerView, connectionAfter, stored, exits, roles, shows, connects, transportView,
        transportAfter]

@[simp] theorem connectionAfter_role :
    (connectionAfter connection peer).role = connection.role := rfl

theorem party_client (x : TwoParties Process) : x.party .server = (x.party .client).other := by
  unfold TwoParties.party
  split_ifs <;> rfl

@[simp] theorem party_side (x : TwoParties Process) (p : Party) : x.party (x.side p) = p := by
  unfold TwoParties.side
  split_ifs with client
  · exact client.symm
  · rw [party_client]
    exact ((x.party .client).eq_or_other p).resolve_left client |>.symm

@[simp] theorem side_party (x : TwoParties Process) (side : Side) :
    x.side (x.party side) = side := by
  cases side with
  | client => simp [TwoParties.side]
  | server =>
      have other : x.party .server ≠ x.party .client := by
        rw [party_client]
        exact Party.other_ne _
      simp [TwoParties.side, other]

@[simp] theorem pair_peers (x : TwoParties Process) (p : Party) :
    x.pair.peers (x.side p) = x.peer p := by
  simp [TwoParties.pair]

theorem party_congr (same : (next.negotiation.peers .first).role =
    (x.negotiation.peers .first).role) : next.party = x.party := by
  funext side
  cases side <;> simp only [TwoParties.party, same]

theorem side_congr (same : next.party = x.party) : next.side = x.side := by
  funext p
  simp only [TwoParties.side, same]

theorem pair_congr (peers : ∀ p, next.peer p = x.peer p) (wire : next.wire = x.wire) :
    next.pair = x.pair := by
  have same : next.party = x.party :=
    party_congr (congrArg RtcdcPeerConnection.role (peers .first))
  simp only [TwoParties.pair, same, peers, wire]

@[simp] theorem after_peer (frame : SameFrame (x.peer p) peer) :
    (x.after p peer startup).peer p = peer := by
  simp only [TwoParties.peer, TwoParties.after, Function.update_self]
  exact view_after frame

@[simp] theorem after_peer_other :
    (x.after p peer startup).peer p.other = x.peer p.other := by
  simp [TwoParties.peer, TwoParties.after, Function.update_of_ne p.other_ne]

def withPeer (pair : TwoPeers) (side : Side) (peer : RtcdcPeerConnection) : TwoPeers :=
  { pair with peers := Function.update pair.peers side peer }

theorem after_pair (frame : SameFrame (x.peer p) peer) :
    (x.after p peer startup).pair = withPeer x.pair (x.side p) peer := by
  have role : ∀ q, ((x.after p peer startup).negotiation.peers q).role =
      (x.negotiation.peers q).role := by
    intro q
    rcases p.eq_or_other q with rfl | rfl
    · simp [TwoParties.after]
    · simp [TwoParties.after, Function.update_of_ne p.other_ne]
  have same := party_congr (role .first)
  rw [TwoParties.pair, same, TwoParties.pair, withPeer]
  congr 1
  funext side
  by_cases here : side = x.side p
  · subst here
    rw [Function.update_self, party_side, after_peer frame]
  · have elsewhere : x.party side = p.other := by
      refine (p.eq_or_other _).resolve_left fun found => here ?_
      rw [← found, side_party]
    rw [Function.update_of_ne here, elsewhere, after_peer_other]
    exact (congrArg x.peer elsewhere).symm

theorem resume_peer (frame : ∀ side, SameFrame (x.pair.peers side) (pair.peers side)) (p : Party) :
    (x.resume pair).peer p = pair.peers (x.side p) := by
  have here := frame (x.side p)
  rw [pair_peers] at here
  exact view_after here

theorem resume_pair (frame : ∀ side, SameFrame (x.pair.peers side) (pair.peers side)) :
    (x.resume pair).pair = pair := by
  have same : (x.resume pair).party = x.party := party_congr rfl
  obtain ⟨peers, wire⟩ := pair
  simp only [TwoParties.pair, same, TwoPeers.mk.injEq]
  refine ⟨funext fun side => ?_, funext fun side => ?_⟩
  · rw [resume_peer frame, side_party]
  · simp only [TwoParties.resume, side_party]

end Librtcdc.Establishment
