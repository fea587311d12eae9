import Librtcdc.Shared.Link
import Librtcdc.Shared.Trace
import Librtcdc.Peer.Allocation

set_option autoImplicit false

namespace Librtcdc.Pair

open Systems

inductive Side where
  | client | server
  deriving DecidableEq, Repr

def Side.other : Side → Side
  | .client => .server
  | .server => .client

def Side.role : Side → PeerRole
  | .client => .client
  | .server => .server

def Side.base : Side → Nat
  | .client => 0
  | .server => 1

@[simp] theorem Side.other_other (side : Side) : side.other.other = side := by
  cases side <;> rfl

theorem Side.other_ne (side : Side) : side.other ≠ side := by
  cases side <;> decide

def owner (sid : UInt16) : Side :=
  if sid.toNat % 2 = 0 then .client else .server

theorem owner_base (sid : UInt16) : sid.toNat % 2 = (owner sid).base := by
  unfold owner
  split <;> simp only [Side.base] <;> omega

theorem owner_of_parity {sid : UInt16} {side : Side} (parity : sid.toNat % 2 = side.base) :
    owner sid = side := by
  cases side <;> simp_all [owner, Side.base]

-- Two peers, and for each of them what it has sent and the other has not handled yet.
structure TwoPeers where
  peers : Side → RtcdcPeerConnection
  wire : Side → List Sendv

inductive Action where
  | create (side : Side) (label protocol : CString) (callbacks : Callbacks) (env : CreateEnv)
  | send (side : Side) (slot : Fin rtcdcMaxChannelNum) (datatype : Datatype) (data : Bytes)
      (err : Int)
  | deliver (sender : Side) (position : Nat) (env : HandlerEnv)
  -- startup_thread goes on and sets handshake_done
  | handshake (side : Side)
  deriving DecidableEq, Repr

inductive Event where
  | created (side : Side) (slot : Fin rtcdcMaxChannelNum)
  | delivered (sender : Side) (message : Sendv)
  | effect (side : Side) (effect : Effect)
  deriving DecidableEq, Repr

def TwoPeers.after (x : TwoPeers) (side : Side) (peer : RtcdcPeerConnection) (effects : List Effect) :
    TwoPeers where
  peers := Function.update x.peers side peer
  wire := Function.update x.wire side (x.wire side ++ (handed effects).map Prod.fst)

def step : Step TwoPeers Action Event
  | x, .create side label protocol callbacks env =>
      if 0 ≤ env.sendv ∧ label.val.length ≤ 65535 ∧ protocol.val.length ≤ 65535 then
        (rtcdcCreateDataChannel (x.peers side) (some label) (some protocol) callbacks env).map
          fun (created, peer, effects) =>
            (x.after side peer effects,
              created.toList.map (Event.created side) ++ effects.map (Event.effect side))
      else
        none
  | x, .send side slot datatype data err =>
      if 0 ≤ err ∧ data ≠ [] then
        (x.peers side).transport.map fun transport =>
          let effects := (rtcdcSendMessage transport.sctp ((x.peers side).channels slot) datatype
            (some data) err).2
          (x.after side (x.peers side) effects, effects.map (Event.effect side))
      else
        none
  | x, .deliver sender position env =>
      if 0 ≤ env.sendv then
        (takeAt Sendv.sndSid (x.wire sender) position).bind fun (message, rest) =>
          (sctpDataReceivedCb (x.peers sender.other) message.data message.sndPpid message.sndSid
            false env).map fun (peer, effects) =>
              (TwoPeers.after { x with wire := Function.update x.wire sender rest } sender.other peer
                effects,
                .delivered sender message :: effects.map (Event.effect sender.other))
      else
        none
  | x, .handshake side =>
      (x.peers side).transport.map fun transport =>
        (x.after side ((x.peers side).withSctp transport
          { transport.sctp with handshakeDone := true }) [], [])

-- Both peers are past the step of `startup_thread` that sets the cursor.
structure Ready (x : TwoPeers) : Prop where
  role : ∀ side, (x.peers side).role = side.role
  transport : ∀ side, ∃ transport, (x.peers side).transport = some transport ∧
    transport.sctp.deferredMessages ≠ none ∧ transport.sctp.streamCursor = side.base
  channels : ∀ side i, (x.peers side).channels i = none
  wire : ∀ side, x.wire side = []

def sentIn (side : Side) : Event → Option Sendv
  | .effect at_ (.sendv message _) => if at_ = side then some message else none
  | _ => none

def sentBy (side : Side) (events : List Event) : List Sendv :=
  events.filterMap (sentIn side)

def deliveredIn (side : Side) : Event → Option Sendv
  | .delivered sender message => if sender = side then some message else none
  | _ => none

def deliveredFrom (side : Side) (events : List Event) : List Sendv :=
  events.filterMap (deliveredIn side)

def createdIn (side : Side) : Event → Option (Fin rtcdcMaxChannelNum)
  | .created at_ slot => if at_ = side then some slot else none
  | _ => none

def createdBy (side : Side) (events : List Event) : List (Fin rtcdcMaxChannelNum) :=
  events.filterMap (createdIn side)

inductive Callback where
  | opened
  | message (datatype : Datatype) (data : Bytes)
  deriving DecidableEq, Repr

def calledIn (side : Side) (slot : Fin rtcdcMaxChannelNum) : Event → Option Callback
  | .effect at_ (.onOpen i) => if at_ = side ∧ i = slot then some .opened else none
  | .effect at_ (.onMessage i datatype data) =>
      if at_ = side ∧ i = slot then some (.message datatype data) else none
  | _ => none

def callsOn (side : Side) (slot : Fin rtcdcMaxChannelNum) (events : List Event) :
    List Callback :=
  events.filterMap (calledIn side slot)

end Librtcdc.Pair
