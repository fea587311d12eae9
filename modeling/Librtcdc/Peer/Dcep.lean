import Librtcdc.Peer.Sctp

set_option autoImplicit false

namespace Librtcdc

open Systems

-- A handler's result is `none` when it reads outside the message or through a NULL pointer.

-- `length` is still in network order when it is compared with zero.
def copyText (mem : Bytes) (length : UInt16) : Option (Option Bytes) :=
  if length > 0 then (strndup mem (ntohs length).toNat).map some else some none

-- Its `calloc` has succeeded.
def allocateNewDataChannel (openReq : DcepOpenMessage) (sid : UInt16) : Option RtcdcDataChannel := do
  let param := ntohl openReq.reliabilityParam
  let retransmit := openReq.channelType &&& 0x01 != 0
  let timed := openReq.channelType &&& 0x02 != 0
  let label ← copyText openReq.labelAndProtocol openReq.labelLength
  let protocol ← copyText (openReq.labelAndProtocol.drop (ntohs openReq.labelLength).toNat)
    openReq.protocolLength
  return {
    type := openReq.channelType
    priority := ntohs openReq.priority
    rtx := if retransmit then param else 0
    lifetime := if !retransmit && timed then param else 0
    label := label
    protocol := protocol
    state := .connected
    sid := sid
    callbacks := { onOpen := false, onMessage := false, onClose := false } }

theorem allocateNewDataChannel_fields {openReq : DcepOpenMessage} {sid : UInt16}
    {ch : RtcdcDataChannel} (made : allocateNewDataChannel openReq sid = some ch) :
    ch.sid = sid ∧ ch.state = .connected := by
  simp only [allocateNewDataChannel, bind, Option.bind_eq_some_iff, pure] at made
  obtain ⟨label, _, protocol, _, equal⟩ := made
  obtain rfl := Option.some.inj equal
  exact ⟨rfl, rfl⟩

-- The outcomes of `calloc` and `usrsctp_sendv` in one run of a handler.
structure HandlerEnv where
  calloc : Bool
  sendv : Int
  deriving DecidableEq, Repr

def dcepAckMessage (sid : UInt16) : SctpMessage :=
  { data := [dataChannelAck], sid := sid, ppid := webrtcControlPpid }

-- `peer->on_channel(peer, ch, peer->user_data)`
def RtcdcPeerConnection.installCallbacks (peer : RtcdcPeerConnection) (ch : RtcdcDataChannel) :
    RtcdcDataChannel :=
  match peer.onChannel with
  | none => ch
  | some install => { ch with callbacks := install ch }

@[simp] theorem installCallbacks_sid (peer : RtcdcPeerConnection) (ch : RtcdcDataChannel) :
    (peer.installCallbacks ch).sid = ch.sid := by
  unfold RtcdcPeerConnection.installCallbacks
  split <;> rfl

@[simp] theorem installCallbacks_state (peer : RtcdcPeerConnection) (ch : RtcdcDataChannel) :
    (peer.installCallbacks ch).state = ch.state := by
  unfold RtcdcPeerConnection.installCallbacks
  split <;> rfl

@[simp] theorem installCallbacks_label (peer : RtcdcPeerConnection) (ch : RtcdcDataChannel) :
    (peer.installCallbacks ch).label = ch.label := by
  unfold RtcdcPeerConnection.installCallbacks
  split <;> rfl

@[simp] theorem installCallbacks_protocol (peer : RtcdcPeerConnection) (ch : RtcdcDataChannel) :
    (peer.installCallbacks ch).protocol = ch.protocol := by
  unfold RtcdcPeerConnection.installCallbacks
  split <;> rfl

def handleRtcdcOpenRequest (peer : RtcdcPeerConnection) (sid : UInt16) (data : Bytes)
    (env : HandlerEnv) : Option (RtcdcPeerConnection × List Effect) :=
  match DcepOpenMessage.ofBytes data with
  | none => some (peer, [])
  | some openReq =>
      match peer.channels.firstFree with
      | none => some (peer, [])
      | some i =>
          if env.calloc then
            match allocateNewDataChannel openReq sid, peer.transport with
            | some ch, some transport =>
                let shown := if peer.onChannel.isSome then [Effect.onChannel i] else []
                let answer := sendSctpMessage transport.sctp (dcepAckMessage sid) env.sendv
                some ({ peer with channels := peer.channels.put i (peer.installCallbacks ch) },
                  shown ++ answer.2)
            | _, _ => none
          else
            some (peer, [])

theorem handleRtcdcOpenRequest_cases {peer next : RtcdcPeerConnection} {sid : UInt16}
    {data : Bytes} {env : HandlerEnv} {effects : List Effect}
    (handled : handleRtcdcOpenRequest peer sid data env = some (next, effects)) :
    (next = peer ∧ effects = []) ∨
      ∃ openReq i ch transport,
        DcepOpenMessage.ofBytes data = some openReq ∧ peer.channels.firstFree = some i ∧
        allocateNewDataChannel openReq sid = some ch ∧ peer.transport = some transport ∧
        next = { peer with channels := peer.channels.put i (peer.installCallbacks ch) } ∧
        effects = (if peer.onChannel.isSome then [Effect.onChannel i] else []) ++
          (sendSctpMessage transport.sctp (dcepAckMessage sid) env.sendv).2 := by
  unfold handleRtcdcOpenRequest at handled
  split at handled
  · simp_all
  · rename_i openReq parsed
    split at handled
    · simp_all
    · rename_i i free
      split at handled
      · split at handled
        · rename_i ch transport made stored
          obtain ⟨rfl, rfl⟩ : _ = next ∧ _ = effects := by simpa using handled
          exact .inr ⟨openReq, i, ch, transport, parsed, free, made, stored, rfl, rfl⟩
        · cases handled
      · simp_all

theorem handleRtcdcOpenRequest_stores {peer : RtcdcPeerConnection} {transport : RtcdcTransport}
    {data : Bytes} {openReq : DcepOpenMessage} {i : Fin rtcdcMaxChannelNum} {ch : RtcdcDataChannel}
    {sid : UInt16} (err : Int) (stored : peer.transport = some transport)
    (parsed : DcepOpenMessage.ofBytes data = some openReq)
    (free : peer.channels.firstFree = some i)
    (made : allocateNewDataChannel openReq sid = some ch) :
    handleRtcdcOpenRequest peer sid data ⟨true, err⟩ =
      some ({ peer with channels := peer.channels.put i (peer.installCallbacks ch) },
        (if peer.onChannel.isSome then [Effect.onChannel i] else []) ++
          (sendSctpMessage transport.sctp (dcepAckMessage sid) err).2) := by
  simp [handleRtcdcOpenRequest, parsed, free, made, stored]

theorem findSid_stored {channels : ChannelTable} {sid : UInt16} {i : Fin rtcdcMaxChannelNum}
    (found : findSid channels sid = some i) : ∃ ch, channels i = some ch ∧ ch.sid = sid := by
  obtain ⟨⟨ch, stored, same⟩, _⟩ := Table.find_some.mp found
  exact ⟨ch, stored, of_decide_eq_true same⟩

def handleRtcdcOpenAck (peer : RtcdcPeerConnection) (sid : UInt16) :
    RtcdcPeerConnection × List Effect :=
  match findSid peer.channels sid with
  | none => (peer, [])
  | some i =>
      match peer.channels i with
      | none => (peer, [])
      | some ch =>
          ({ peer with channels := peer.channels.put i (some { ch with state := .connected }) },
            if ch.callbacks.onOpen then [.onOpen i] else [])

theorem handleRtcdcOpenAck_cases (peer : RtcdcPeerConnection) (sid : UInt16) :
    (findSid peer.channels sid = none ∧ handleRtcdcOpenAck peer sid = (peer, [])) ∨
      ∃ i ch, findSid peer.channels sid = some i ∧ peer.channels i = some ch ∧ ch.sid = sid ∧
        handleRtcdcOpenAck peer sid =
          ({ peer with channels := peer.channels.put i (some { ch with state := .connected }) },
            if ch.callbacks.onOpen then [.onOpen i] else []) := by
  unfold handleRtcdcOpenAck
  cases found : findSid peer.channels sid with
  | none => exact .inl ⟨rfl, rfl⟩
  | some i =>
      obtain ⟨ch, stored, same⟩ := findSid_stored found
      refine .inr ⟨i, ch, rfl, stored, same, ?_⟩
      simp only [stored]

def RtcdcDataChannel.reopen (ch : RtcdcDataChannel) : RtcdcDataChannel :=
  if ch.state = .closed then { ch with state := .connected } else ch

def handleRtcdcData (peer : RtcdcPeerConnection) (sid : UInt16) (type : Datatype) (data : Bytes) :
    RtcdcPeerConnection × List Effect :=
  match findSid peer.channels sid with
  | none => (peer, [])
  | some i =>
      match peer.channels i with
      | none => (peer, [])
      | some ch =>
          ({ peer with channels := peer.channels.put i (some ch.reopen) },
            if ch.callbacks.onMessage then [.onMessage i type data] else [])

theorem handleRtcdcData_cases (peer : RtcdcPeerConnection) (sid : UInt16) (type : Datatype)
    (data : Bytes) :
    (findSid peer.channels sid = none ∧ handleRtcdcData peer sid type data = (peer, [])) ∨
      ∃ i ch, findSid peer.channels sid = some i ∧ peer.channels i = some ch ∧ ch.sid = sid ∧
        handleRtcdcData peer sid type data =
          ({ peer with channels := peer.channels.put i (some ch.reopen) },
            if ch.callbacks.onMessage then [.onMessage i type data] else []) := by
  unfold handleRtcdcData
  cases found : findSid peer.channels sid with
  | none => exact .inl ⟨rfl, rfl⟩
  | some i =>
      obtain ⟨ch, stored, same⟩ := findSid_stored found
      refine .inr ⟨i, ch, rfl, stored, same, ?_⟩
      simp only [stored]

def datatypeOfPpid (ppid : UInt32) : Option Datatype :=
  if ppid = webrtcStringPpid ∨ ppid = webrtcStringPartialPpid then some .string
  else if ppid = webrtcBinaryPpid ∨ ppid = webrtcBinaryPartialPpid then some .binary
  else if ppid = webrtcStringEmptyPpid ∨ ppid = webrtcBinaryEmptyPpid then some .empty
  else none

def handleRtcdcMessage (peer : RtcdcPeerConnection) (data : Bytes) (ppid : UInt32) (sid : UInt16)
    (env : HandlerEnv) : Option (RtcdcPeerConnection × List Effect) :=
  if ppid = webrtcControlPpid then
    match data with
    | [] => none
    | msgType :: _ =>
        if msgType = dataChannelOpen then handleRtcdcOpenRequest peer sid data env
        else if msgType = dataChannelAck then some (handleRtcdcOpenAck peer sid)
        else some (peer, [])
  else
    match datatypeOfPpid ppid with
    | some type => some (handleRtcdcData peer sid type data)
    | none => some (peer, [])

theorem handleRtcdcMessage_open {data : Bytes} (opens : data.head? = some dataChannelOpen)
    (peer : RtcdcPeerConnection) (sid : UInt16) (env : HandlerEnv) :
    handleRtcdcMessage peer data webrtcControlPpid sid env =
      handleRtcdcOpenRequest peer sid data env := by
  cases data with
  | nil => cases opens
  | cons first rest =>
      obtain rfl : first = dataChannelOpen := by simpa using opens
      simp [handleRtcdcMessage]

def sctpDataReceivedCb (peer : RtcdcPeerConnection) (data : Bytes) (rcvPpid : UInt32)
    (rcvSid : UInt16) (notification : Bool) (env : HandlerEnv) :
    Option (RtcdcPeerConnection × List Effect) :=
  if data.length = 0 then some (peer, [])
  -- handle_notification_message does nothing
  else if notification then some (peer, [])
  else handleRtcdcMessage peer data (ntohl rcvPpid) rcvSid env

end Librtcdc
