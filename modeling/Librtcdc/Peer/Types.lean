import Mathlib.Algebra.GroupWithZero.Nat
import Librtcdc.Shared.Bytes
import Librtcdc.Shared.Table

set_option autoImplicit false

namespace Librtcdc

open Systems

-- rtcdc.h

def rtcdcMaxChannelNum : Nat := 128
def rtcdcMaxOutStream : Nat := 256

instance : NeZero rtcdcMaxChannelNum := ⟨by decide⟩

inductive PeerRole where
  | unknown | client | server
  deriving DecidableEq, Repr

inductive ChannelState where
  | closed | connecting | connected
  deriving DecidableEq, Repr

inductive Datatype where
  | string | binary | empty
  deriving DecidableEq, Repr

-- Which callback pointers of a channel are set.
structure Callbacks where
  onOpen : Bool
  onMessage : Bool
  onClose : Bool
  deriving DecidableEq, Repr

structure RtcdcDataChannel where
  type : UInt8
  priority : UInt16
  rtx : UInt32
  lifetime : UInt32
  label : Option Bytes
  protocol : Option Bytes
  state : ChannelState
  sid : UInt16
  callbacks : Callbacks
  deriving DecidableEq, Repr

-- NULL counts as the empty text.
def textOf (text : Option Bytes) : Bytes := text.getD []

structure SctpMessage where
  data : Bytes
  sid : UInt16
  ppid : UInt32
  deriving DecidableEq, Repr

-- The arguments of `usrsctp_sendv`; the ppid of its sctp_sndinfo is in network order.
structure Sendv where
  data : Bytes
  sndSid : UInt16
  sndPpid : UInt32
  deriving DecidableEq, Repr

-- `deferredMessages` is `none` when the queue pointer is NULL.
structure SctpTransport where
  handshakeDone : Bool
  deferredMessages : Option (List SctpMessage)
  streamCursor : Nat
  deriving DecidableEq, Repr

structure IceTransport where
  negotiationDone : Bool
  deriving DecidableEq, Repr

structure DtlsTransport where
  handshakeDone : Bool
  deriving DecidableEq, Repr

structure RtcdcTransport where
  ice : IceTransport
  dtls : DtlsTransport
  sctp : SctpTransport
  deriving DecidableEq, Repr

abbrev ChannelTable := Table rtcdcMaxChannelNum RtcdcDataChannel

-- The application's `on_channel` is known by the callbacks it installs in the channel it is shown.
structure RtcdcPeerConnection where
  exitThread : Bool
  transport : Option RtcdcTransport
  role : PeerRole
  channels : ChannelTable
  onChannel : Option (RtcdcDataChannel → Callbacks)
  onConnect : Bool

inductive Effect where
  | sendv (sent : Sendv) (err : Int)
  | sendSctp (message : SctpMessage) (handshakeDone : Bool) (ret : Int)
  | onChannel (slot : Fin rtcdcMaxChannelNum)
  | onOpen (slot : Fin rtcdcMaxChannelNum)
  | onMessage (slot : Fin rtcdcMaxChannelNum) (datatype : Datatype) (data : Bytes)
  | onConnect
  deriving DecidableEq, Repr

def Effect.handed : Effect → Option (Sendv × Int)
  | .sendv sent err => some (sent, err)
  | _ => none

def handed (effects : List Effect) : List (Sendv × Int) :=
  effects.filterMap Effect.handed

def findSid (channels : ChannelTable) (sid : UInt16) : Option (Fin rtcdcMaxChannelNum) :=
  Table.find (fun ch => decide (ch.sid = sid)) channels

-- dcep.h

def webrtcControlPpid : UInt32 := 50
def webrtcStringPpid : UInt32 := 51
def webrtcBinaryPartialPpid : UInt32 := 52
def webrtcBinaryPpid : UInt32 := 53
def webrtcStringPartialPpid : UInt32 := 54
def webrtcStringEmptyPpid : UInt32 := 56
def webrtcBinaryEmptyPpid : UInt32 := 57

def dataChannelOpen : UInt8 := 0x03
def dataChannelAck : UInt8 := 0x02

def dataChannelReliable : UInt8 := 0x00

-- The struct as it lies in memory, its multi-byte fields in network order.
structure DcepOpenMessage where
  messageType : UInt8
  channelType : UInt8
  priority : UInt16
  reliabilityParam : UInt32
  labelLength : UInt16
  protocolLength : UInt16
  labelAndProtocol : Bytes
  deriving DecidableEq, Repr

def DcepOpenMessage.bytes (req : DcepOpenMessage) : Bytes :=
  [req.messageType, req.channelType] ++ le16 req.priority ++ le32 req.reliabilityParam ++
    le16 req.labelLength ++ le16 req.protocolLength ++ req.labelAndProtocol

-- The cast of received bytes to the struct; `none` when `len < sizeof *open_req`.
def DcepOpenMessage.ofBytes : Bytes → Option DcepOpenMessage
  | m :: c :: p0 :: p1 :: r0 :: r1 :: r2 :: r3 :: l0 :: l1 :: q0 :: q1 :: rest =>
      some
        { messageType := m
          channelType := c
          priority := ofLe16 p0 p1
          reliabilityParam := ofLe32 r0 r1 r2 r3
          labelLength := ofLe16 l0 l1
          protocolLength := ofLe16 q0 q1
          labelAndProtocol := rest }
  | _ => none

@[simp] theorem DcepOpenMessage.ofBytes_bytes (req : DcepOpenMessage) :
    DcepOpenMessage.ofBytes req.bytes = some req := by
  simp [DcepOpenMessage.bytes, DcepOpenMessage.ofBytes, le16, le32, ofLe16_le16, ofLe32_le32]

end Librtcdc
