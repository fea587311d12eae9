import Librtcdc.Peer.Rtcdc

set_option autoImplicit false

namespace Librtcdc.OpenFormat

open Systems

inductive ChannelType where
  | reliable
  | reliableUnordered
  | partialReliableRexmit
  | partialReliableRexmitUnordered
  | partialReliableTimed
  | partialReliableTimedUnordered
  deriving DecidableEq, Repr

-- The `DATA_CHANNEL_` constants of dcep.h.
def ChannelType.code : ChannelType → UInt8
  | .reliable => 0x00
  | .reliableUnordered => 0x80
  | .partialReliableRexmit => 0x01
  | .partialReliableRexmitUnordered => 0x81
  | .partialReliableTimed => 0x02
  | .partialReliableTimedUnordered => 0x82

def ChannelType.isRexmit : ChannelType → Bool
  | .partialReliableRexmit | .partialReliableRexmitUnordered => true
  | _ => false

def ChannelType.isTimed : ChannelType → Bool
  | .partialReliableTimed | .partialReliableTimedUnordered => true
  | _ => false

structure Fields where
  type : ChannelType
  priority : UInt16
  reliability : UInt32
  label : CString
  protocol : CString
  shortLabel : label.val.length ≤ 65535
  shortProtocol : protocol.val.length ≤ 65535

def Fields.wire (fields : Fields) : Bytes :=
  [dataChannelOpen, fields.type.code] ++ be16 fields.priority ++ be32 fields.reliability ++
    be16 (UInt16.ofNat fields.label.val.length) ++ be16 (UInt16.ofNat fields.protocol.val.length) ++
    (fields.label.val ++ fields.protocol.val)

def nullIfEmpty (text : CString) : Option Bytes :=
  if text.val = [] then none else some text.val

def Fields.channel (fields : Fields) (sid : UInt16) : RtcdcDataChannel where
  type := fields.type.code
  priority := fields.priority
  rtx := if fields.type.isRexmit then fields.reliability else 0
  lifetime := if fields.type.isTimed then fields.reliability else 0
  label := nullIfEmpty fields.label
  protocol := nullIfEmpty fields.protocol
  state := .connected
  sid := sid
  callbacks := { onOpen := false, onMessage := false, onClose := false }

def Fields.packed (fields : Fields) : DcepOpenMessage where
  messageType := dataChannelOpen
  channelType := fields.type.code
  priority := htons fields.priority
  reliabilityParam := htonl fields.reliability
  labelLength := htons (UInt16.ofNat fields.label.val.length)
  protocolLength := htons (UInt16.ofNat fields.protocol.val.length)
  labelAndProtocol := fields.label.val ++ fields.protocol.val

def passed (effects : List Effect) : List SctpMessage :=
  effects.filterMap fun
    | .sendSctp message _ _ => some message
    | _ => none

-- The handler fills the first free slot with the channel that the fields describe, leaves the
-- others alone and passes on one ACK.
def Decodes (peer : RtcdcPeerConnection) (fields : Fields) (sid : UInt16) (err : Int) : Prop :=
  ∃ i next effects,
    handleRtcdcMessage peer fields.wire webrtcControlPpid sid ⟨true, err⟩ = some (next, effects) ∧
    peer.channels i = none ∧ (∀ j < i, peer.channels j ≠ none) ∧
    next.channels i = some (peer.installCallbacks (fields.channel sid)) ∧
    (∀ j ≠ i, next.channels j = peer.channels j) ∧ passed effects = [dcepAckMessage sid]

def BuildsOpen (fields : Fields) (created : Option (Fin rtcdcMaxChannelNum))
    (effects : List Effect) : Prop :=
  (∀ message ∈ passed effects, message.data = fields.wire ∧ message.ppid = webrtcControlPpid) ∧
    (created.isSome → (passed effects).length = 1)

variable {peer : RtcdcPeerConnection} {transport : RtcdcTransport}

theorem Fields.packed_bytes (fields : Fields) : fields.packed.bytes = fields.wire := by
  simp only [DcepOpenMessage.bytes, packed, wire, le16_htons, le32_htonl]

theorem code_rexmit (type : ChannelType) : (type.code &&& 0x01 != 0) = type.isRexmit := by
  cases type <;> decide

theorem code_timed (type : ChannelType) :
    (!type.isRexmit && (type.code &&& 0x02 != 0)) = type.isTimed := by
  cases type <;> decide

theorem Fields.allocate (fields : Fields) (sid : UInt16) :
    allocateNewDataChannel fields.packed sid = some (fields.channel sid) := by
  rw [allocateNewDataChannel_texts sid fields.shortLabel fields.shortProtocol rfl rfl rfl]
  simp only [packed, ntohs_htons, ntohl_htonl, code_rexmit, code_timed]
  rfl

theorem passed_sendSctpMessage (sctp : SctpTransport) (message : SctpMessage) (err : Int) :
    passed (sendSctpMessage sctp message err).2 = [message] := by
  unfold sendSctpMessage
  split_ifs <;> rfl

theorem passed_append (first second : List Effect) :
    passed (first ++ second) = passed first ++ passed second :=
  List.filterMap_append ..

theorem decodes (fields : Fields) (sid : UInt16) (err : Int)
    (stored : peer.transport = some transport) (room : ∃ j, peer.channels j = none) :
    Decodes peer fields sid err := by
  obtain ⟨i, free⟩ := Table.firstFree_exists room
  have parsed : DcepOpenMessage.ofBytes fields.wire = some fields.packed := by
    rw [← fields.packed_bytes, DcepOpenMessage.ofBytes_bytes]
  have opens : fields.wire.head? = some dataChannelOpen := rfl
  have handled := handleRtcdcOpenRequest_stores err stored parsed free (fields.allocate sid)
  rw [← handleRtcdcMessage_open opens] at handled
  obtain ⟨empty, before⟩ := Table.firstFree_some free
  refine ⟨i, _, _, handled, empty, ?_, Table.put_same .., ?_, ?_⟩
  · intro j earlier vacant
    have occupied := before j earlier
    rw [vacant] at occupied
    cases occupied
  · intro j other
    exact Table.put_other _ _ other
  · have shown : passed (if peer.onChannel.isSome then [.onChannel i] else []) = [] := by
      split <;> rfl
    rw [passed_append, shown, passed_sendSctpMessage]
    rfl

def Fields.reliable (fields : Fields) : Fields :=
  { fields with type := .reliable, priority := 0, reliability := 0 }

theorem openRequest_packed (fields : Fields) :
    openRequest fields.label fields.protocol = fields.reliable.packed := rfl

theorem buildsOpen (fields : Fields) {creator next : RtcdcPeerConnection} {callbacks : Callbacks}
    {env : CreateEnv} {created : Option (Fin rtcdcMaxChannelNum)} {effects : List Effect}
    (called : rtcdcCreateDataChannel creator (some fields.label) (some fields.protocol) callbacks
      env = some (created, next, effects)) : BuildsOpen fields.reliable created effects := by
  rcases rtcdcCreateDataChannel_cases called with
    ⟨rfl, _, rfl⟩ | ⟨_, _, label, protocol, _, _, message, _, _, hlabel, hprotocol, _, _, rfl, rfl, _⟩
  · exact ⟨by simp [passed], by simp⟩
  · obtain rfl := Option.some.inj hlabel
    obtain rfl := Option.some.inj hprotocol
    rw [BuildsOpen, passed_sendSctpMessage]
    refine ⟨fun message member => ?_, fun _ => rfl⟩
    obtain rfl := List.mem_singleton.mp member
    refine ⟨?_, rfl⟩
    rw [openMessage, openRequest_packed, Fields.packed_bytes]

def timedFields : Fields where
  type := .partialReliableTimedUnordered
  priority := 256
  reliability := 5000
  label := .empty
  protocol := .literal "chat"
  shortLabel := by decide
  shortProtocol := by decide +kernel

example : timedFields.wire = [0x03, 0x82, 0x01, 0x00, 0x00, 0x00, 0x13, 0x88, 0x00, 0x00, 0x00, 0x04,
    0x63, 0x68, 0x61, 0x74] := by decide +kernel

def freshPeer : RtcdcPeerConnection where
  exitThread := false
  transport := some
    { ice := ⟨true⟩, dtls := ⟨true⟩,
      sctp := { handshakeDone := true, deferredMessages := some [], streamCursor := 0 } }
  role := .server
  channels := fun _ => none
  onChannel := none
  onConnect := false

end Librtcdc.OpenFormat
