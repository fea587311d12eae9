import Librtcdc.Peer.Rtcdc

set_option autoImplicit false

namespace Librtcdc.RoundTrip

open Systems

structure OpenPair (channel : RtcdcDataChannel) (receiver : RtcdcPeerConnection)
    (j : Fin rtcdcMaxChannelNum) : Prop where
  stored : ∃ remote, receiver.channels j = some remote ∧ remote.sid = channel.sid ∧
    remote.callbacks.onMessage = true
  first : ∀ k < j, ∀ other, receiver.channels k = some other → other.sid ≠ channel.sid

theorem OpenPair.found {channel : RtcdcDataChannel} {receiver : RtcdcPeerConnection}
    {j : Fin rtcdcMaxChannelNum} (pair : OpenPair channel receiver j) :
    findSid receiver.channels channel.sid = some j := by
  obtain ⟨remote, stored, same, _⟩ := pair.stored
  refine Table.find_some.mpr ⟨⟨remote, stored, by simp [same]⟩, ?_⟩
  intro k before other occupied
  simpa using pair.first k before other occupied

def receivedAs (datatype : Datatype) (data : Bytes) : Datatype :=
  if data = [] then .empty else datatype

-- One message is handed to SCTP, and its arrival makes exactly one call: `on_message` of slot `j`
-- with the bytes that were sent.
def RoundTrips (sctp : SctpTransport) (channel : RtcdcDataChannel)
    (receiver : RtcdcPeerConnection) (j : Fin rtcdcMaxChannelNum) (datatype : Datatype)
    (data : Option Bytes) (err : Int) (env : HandlerEnv) : Prop :=
  ∃ sent next,
    handed (rtcdcSendMessage sctp (some channel) datatype data err).2 = [(sent, err)] ∧
    sctpDataReceivedCb receiver sent.data sent.sndPpid sent.sndSid false env =
      some (next, [.onMessage j (receivedAs datatype (data.getD [])) (data.getD [])])

theorem ppidOfDatatype_isSome {datatype : Datatype} (data : Option Bytes)
    (carries : datatype ≠ .empty) : ∃ ppid, ppidOfDatatype datatype data = some ppid := by
  cases datatype with
  | string | binary => exact ⟨_, rfl⟩
  | empty => exact absurd rfl carries

theorem rtcdcSendMessage_handed {sctp : SctpTransport} {channel : RtcdcDataChannel}
    {datatype : Datatype} {data : Option Bytes} {err : Int} {ppid : UInt32}
    (queue : sctp.deferredMessages ≠ none) (shaken : sctp.handshakeDone = true) (ok : 0 ≤ err)
    (carried : ppidOfDatatype datatype data = some ppid) :
    handed (rtcdcSendMessage sctp (some channel) datatype data err).2 =
      [(⟨data.getD [], channel.sid, htonl ppid⟩, err)] := by
  simp only [rtcdcSendMessage, carried, sendSctpMessage_accepted _ queue shaken ok]
  rfl

theorem sctpDataReceivedCb_user {receiver : RtcdcPeerConnection} {channel : RtcdcDataChannel}
    {j : Fin rtcdcMaxChannelNum} {datatype : Datatype} {data : Bytes} {ppid : UInt32}
    (env : HandlerEnv) (pair : OpenPair channel receiver j) (nonempty : data ≠ [])
    (user : ppid ≠ webrtcControlPpid) (carried : datatypeOfPpid ppid = some datatype) :
    ∃ next, sctpDataReceivedCb receiver data (htonl ppid) channel.sid false env =
      some (next, [.onMessage j datatype data]) := by
  have positive : data.length ≠ 0 := by simpa using nonempty
  obtain ⟨remote, stored, _, listening⟩ := pair.stored
  simp only [sctpDataReceivedCb, positive, if_false, Bool.false_eq_true, ntohl_htonl,
    handleRtcdcMessage, user, carried]
  rcases handleRtcdcData_cases receiver channel.sid datatype data with
    ⟨missing, _⟩ | ⟨i, ch, found, atSlot, _, result⟩
  · rw [pair.found] at missing
    cases missing
  · obtain rfl : j = i := by simpa [pair.found] using found
    obtain rfl : remote = ch := by simpa [stored] using atSlot
    rw [result, if_pos listening]
    exact ⟨_, rfl⟩

theorem sctpDataReceivedCb_empty (receiver : RtcdcPeerConnection) (ppid : UInt32) (sid : UInt16)
    (env : HandlerEnv) :
    sctpDataReceivedCb receiver [] ppid sid false env = some (receiver, []) := by
  simp [sctpDataReceivedCb]

/-- A user message makes the round trip exactly when it is not empty. -/
theorem roundTrips_iff (sctp : SctpTransport) (channel : RtcdcDataChannel)
    (receiver : RtcdcPeerConnection) (j : Fin rtcdcMaxChannelNum) (datatype : Datatype)
    (data : Option Bytes) (err : Int) (env : HandlerEnv)
    (queue : sctp.deferredMessages ≠ none) (shaken : sctp.handshakeDone = true) (ok : 0 ≤ err)
    (carries : datatype ≠ .empty) (pair : OpenPair channel receiver j) :
    RoundTrips sctp channel receiver j datatype data err env ↔ data.getD [] ≠ [] := by
  constructor
  · rintro ⟨sent, next, handedOver, received⟩ nothing
    obtain ⟨ppid, carried⟩ := ppidOfDatatype_isSome data carries
    rw [rtcdcSendMessage_handed queue shaken ok carried] at handedOver
    obtain rfl : _ = sent := by simpa using handedOver
    rw [nothing, sctpDataReceivedCb_empty] at received
    simp at received
  · intro nonempty
    obtain ⟨ppid, carried, user, dispatched⟩ := ppidOfDatatype_nonempty carries nonempty
    obtain ⟨next, received⟩ :=
      sctpDataReceivedCb_user env pair nonempty user dispatched
    refine ⟨_, next, rtcdcSendMessage_handed queue shaken ok carried, ?_⟩
    rw [receivedAs, if_neg nonempty]
    exact received

def sampleSctp : SctpTransport where
  handshakeDone := true
  deferredMessages := some []
  streamCursor := 2

def sampleChannel : RtcdcDataChannel where
  type := dataChannelReliable
  priority := 0
  rtx := 0
  lifetime := 0
  label := none
  protocol := none
  state := .connected
  sid := 0
  callbacks := { onOpen := false, onMessage := true, onClose := false }

def sampleReceiver : RtcdcPeerConnection where
  exitThread := false
  transport := none
  role := .server
  channels := fun i => if i = ⟨0, by decide⟩ then some sampleChannel else none
  onChannel := none
  onConnect := false

theorem samplePair : OpenPair sampleChannel sampleReceiver ⟨0, by decide⟩ where
  stored := ⟨sampleChannel, rfl, rfl, rfl⟩
  first := fun k before => absurd before (Nat.not_lt_zero k.val)

theorem roundTrips_hello :
    RoundTrips sampleSctp sampleChannel sampleReceiver ⟨0, by decide⟩ .string
      (some [104, 105]) 2 ⟨true, 0⟩ :=
  (roundTrips_iff _ _ _ _ _ _ _ _ (by decide) rfl (by decide) (by decide) samplePair).mpr
    (by decide)

def MessageLaw : Prop :=
  ∀ (sctp : SctpTransport) (channel : RtcdcDataChannel) (receiver : RtcdcPeerConnection)
    (j : Fin rtcdcMaxChannelNum) (datatype : Datatype) (data : Option Bytes) (err : Int)
    (env : HandlerEnv),
    sctp.deferredMessages ≠ none → sctp.handshakeDone = true → 0 ≤ err →
    datatype ≠ .empty → OpenPair channel receiver j →
    RoundTrips sctp channel receiver j datatype data err env

theorem empty_message_lost : ¬ MessageLaw := by
  intro law
  obtain ⟨sent, next, handedOver, received⟩ :=
    law sampleSctp sampleChannel sampleReceiver ⟨0, by decide⟩ .string (some []) 0 ⟨true, 0⟩
      (by decide) rfl (by decide) (by decide) samplePair
  rw [rtcdcSendMessage_handed (by decide) rfl (by decide) rfl] at handedOver
  obtain rfl : _ = sent := by simpa using handedOver
  rw [sctpDataReceivedCb_empty] at received
  simp at received

end Librtcdc.RoundTrip
