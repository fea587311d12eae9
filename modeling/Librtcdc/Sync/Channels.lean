import Librtcdc.Shared.Component
import Librtcdc.Peer.Provenance
import Librtcdc.Sync.Packing

set_option autoImplicit false

namespace Librtcdc.Sync.Channels

open Systems Pair Received

-- The callbacks of cli_rtcdc.c and fs_rtcdc.c over two peers that are past the step of
-- `startup_thread` that sets the cursor.

-- A transfer: what the two programs know before `rtcdc_loop`.
structure Program where
  direction : Direction
  sender : Side
  files : Files
  senderRepo : Bytes
  receiverRepo : Bytes
  diff : List DiffInfo

def Program.receiver (p : Program) : Side := p.sender.other

def uploadClientOnChannel (dc : RtcdcDataChannel) : Callbacks :=
  { dc.callbacks with onMessage := true }

def uploadFsOnChannel (dc : RtcdcDataChannel) : Callbacks :=
  { dc.callbacks with onMessage := true }

def downloadClientOnChannel (dc : RtcdcDataChannel) : Callbacks :=
  { dc.callbacks with onMessage := true }

def downloadFsOnChannel (dc : RtcdcDataChannel) : Callbacks :=
  { dc.callbacks with onMessage := true }

def Program.senderOnChannel (p : Program) : RtcdcDataChannel → Callbacks :=
  match p.direction with
  | .upload => uploadClientOnChannel
  | .download => downloadFsOnChannel

def Program.receiverOnChannel (p : Program) : RtcdcDataChannel → Callbacks :=
  match p.direction with
  | .upload => uploadFsOnChannel
  | .download => downloadClientOnChannel

-- The texts and callbacks that on_connect of the sending side passes to rtcdc_create_data_channel;
-- that of the other side creates nothing.
def Program.label (p : Program) : CString :=
  match p.direction with
  | .upload => .literal "Upload Channel"
  | .download => .literal "Download Channel"

def onOpenOnly : Callbacks where
  onOpen := true
  onMessage := false
  onClose := false

abbrev Slot := Fin rtcdcMaxChannelNum

-- Where on_connect of the sending side is. download_fs_on_connect stores the pointer that
-- rtcdc_create_data_channel returned after the call.
inductive Connecting where
  | waiting
  | created (dc : Option Slot)
  | done
  deriving DecidableEq, Repr

-- uv_client_upload or uv_fs_download: it reads `data_channel` once, when it starts.
inductive Worker where
  | absent
  | queued
  | sending (dataChannel : Option Slot) (packets : List SctpPacket)
  | finished
  deriving DecidableEq, Repr

-- `receiver` is `none` once the handler has crashed. `network` counts the messages of the sender
-- that can still be handled after its process has gone.
structure State where
  pair : TwoPeers
  connecting : Connecting
  dataChannel : Option Slot
  worker : Worker
  receiver : Option Receiver
  network : Option Nat

inductive Action where
  | handshake (side : Side)
  | connect (env : CreateEnv)
  | store
  | deliver (sender : Side) (position : Nat) (env : HandlerEnv)
  | start
  | send (err : Int)
  | finish
  | exit (reached : Nat)
  deriving DecidableEq, Repr

inductive Event where
  | peers (event : Pair.Event)
  -- rtcdc_send_message was called with the packet and returned `ret`
  | sent (packet : SctpPacket) (ret : Int)
  deriving DecidableEq, Repr

def Event.peer : Event → Option Pair.Event
  | .peers event => some event
  | .sent .. => none

def peerEvents (events : List Event) : List Pair.Event :=
  events.filterMap Event.peer

def State.alive (s : State) (p : Program) (side : Side) : Prop :=
  side ≠ p.sender ∨ s.network = none

instance (s : State) (p : Program) (side : Side) : Decidable (s.alive p side) :=
  inferInstanceAs (Decidable (_ ∨ _))

def State.takes (s : State) (p : Program) (sender : Side) (position : Nat) : Option (Option Nat) :=
  match s.network with
  | none => some none
  | some reached =>
      if sender = p.sender ∧ position < reached then some (some (reached - 1)) else none

-- The on_message of the receiving side; that of the other side does nothing.
def Program.onMessage (p : Program) (receiver : Option Receiver) (data : Bytes) :
    Option Receiver :=
  receiver.bind fun r => (packetOf data).bind (p.direction.onMessage p.receiverRepo r)

-- upload_client_on_open stores the channel, download_fs_on_open does not; both start the worker.
def Program.onOpen (p : Program) (channel : Slot) (s : State) : State :=
  match p.direction with
  | .upload => { s with dataChannel := some channel, worker := .queued }
  | .download => { s with worker := .queued }

def Program.react (p : Program) (s : State) : Pair.Event → State
  | .effect at_ (.onOpen channel) => if at_ = p.sender then p.onOpen channel s else s
  | .effect at_ (.onMessage _ _ data) =>
      if at_ = p.receiver then { s with receiver := p.onMessage s.receiver data } else s
  | _ => s

def Program.library (p : Program) (s : State) (action : Pair.Action) :
    Option (State × List Event) :=
  (Pair.step s.pair action).map fun (pair, emitted) =>
    (emitted.foldl p.react { s with pair := pair }, emitted.map .peers)

-- What on_connect does once rtcdc_create_data_channel has returned.
def Program.connected (p : Program) (dc : Option Slot) : Connecting :=
  match p.direction with
  | .upload => .done
  | .download => .created dc

def step (p : Program) : Step State Action Event
  | s, .handshake side => if s.alive p side then p.library s (.handshake side) else none
  | s, .connect env =>
      if s.connecting = .waiting ∧ handshakeDone (s.pair.peers p.sender) = true then
        (p.library s (.create p.sender p.label CString.empty onOpenOnly env)).map
          fun (next, emitted) =>
            ({ next with
              connecting := p.connected (createdBy p.sender (peerEvents emitted)).head? }, emitted)
      else
        none
  | s, .store =>
      match s.connecting with
      | .created dc => some ({ s with connecting := .done, dataChannel := dc }, [])
      | _ => none
  | s, .deliver sender position env =>
      (s.takes p sender position).bind fun network =>
        p.library { s with network := network } (.deliver sender position env)
  | s, .start =>
      match s.worker with
      | .queued =>
          (p.direction.send p.files p.senderRepo p.diff).map fun packets =>
            ({ s with worker := .sending s.dataChannel packets }, [])
      | _ => none
  | s, .send err =>
      match s.worker with
      | .sending dataChannel (packet :: rest) =>
          let went := { s with worker := .sending dataChannel rest }
          match dataChannel with
          | some slot =>
              if err < 0 then some (went, [.sent packet (-1)])
              else
                (p.library went (.send p.sender slot .string (packetBytes packet) err)).map
                  fun (next, emitted) => (next, emitted ++ [.sent packet 0])
          | none => some (went, [.sent packet (-1)])
      | _ => none
  | s, .finish =>
      match s.worker with
      | .sending _ [] => some ({ s with worker := .finished }, [])
      | _ => none
  -- uv_client_upload ends with `exit_thread = 1`, which ends the process of the client
  | s, .exit reached =>
      if p.direction = .upload ∧ s.worker = .finished ∧ s.network = none ∧
          reached ≤ (s.pair.wire p.sender).length then
        some ({ s with network := some reached }, [])
      else
        none

end Librtcdc.Sync.Channels
