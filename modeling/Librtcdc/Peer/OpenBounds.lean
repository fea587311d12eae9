import Librtcdc.Peer.Dcep

set_option autoImplicit false

namespace Librtcdc.OpenBounds

open Systems

-- `sizeof *open_req`
def headerSize : Nat := 12

def labelSize (openReq : DcepOpenMessage) : Nat := (ntohs openReq.labelLength).toNat

def protocolSize (openReq : DcepOpenMessage) : Nat := (ntohs openReq.protocolLength).toNat

def LengthsFit (openReq : DcepOpenMessage) (data : Bytes) : Prop :=
  headerSize + labelSize openReq + protocolSize openReq ≤ data.length

structure Opens (data : Bytes) (openReq : DcepOpenMessage) : Prop where
  msgType : data.head? = some dataChannelOpen
  header : DcepOpenMessage.ofBytes data = some openReq

variable {peer : RtcdcPeerConnection} {transport : RtcdcTransport} {data : Bytes} {sid : UInt16}
  {env : HandlerEnv} {openReq : DcepOpenMessage}

-- Nothing outside the message is read, and an OPEN whose lengths do not fit in it is rejected.
structure Bounded (peer : RtcdcPeerConnection) (data : Bytes) (sid : UInt16) (env : HandlerEnv) :
    Prop where
  inside : handleRtcdcMessage peer data webrtcControlPpid sid env ≠ none
  rejected : ∀ openReq, Opens data openReq → ¬ LengthsFit openReq data →
    handleRtcdcMessage peer data webrtcControlPpid sid env = some (peer, [])

structure Room (peer : RtcdcPeerConnection) (env : HandlerEnv) : Prop where
  free : ∃ i, peer.channels i = none
  calloc : env.calloc = true

theorem ofBytes_length (parsed : DcepOpenMessage.ofBytes data = some openReq) :
    data.length = headerSize + openReq.labelAndProtocol.length := by
  unfold DcepOpenMessage.ofBytes at parsed
  split at parsed
  · obtain rfl := Option.some.inj parsed
    simp only [List.length_cons, headerSize]
    omega
  · cases parsed

theorem copyText_isSome {mem : Bytes} {length : UInt16} :
    (copyText mem length).isSome ↔
      length = 0 ∨ (ntohs length).toNat ≤ mem.length ∨ 0 ∈ mem := by
  unfold copyText strndup
  by_cases zero : length = 0
  · simp [zero]
  · have positive : 0 < length := UInt16.pos_iff_ne_zero.mpr zero
    rw [if_pos positive]
    split_ifs with readable
    · simp [readable]
    · simp [zero, readable]

theorem copyText_fits {mem : Bytes} {length : UInt16} (fits : (ntohs length).toNat ≤ mem.length) :
    ∃ text, copyText mem length = some text :=
  Option.isSome_iff_exists.mp (copyText_isSome.mpr (.inr (.inl fits)))

theorem allocate_fits (parsed : DcepOpenMessage.ofBytes data = some openReq)
    (fits : LengthsFit openReq data) (sid : UInt16) :
    ∃ ch, allocateNewDataChannel openReq sid = some ch := by
  rw [LengthsFit, ofBytes_length parsed] at fits
  unfold labelSize protocolSize at fits
  obtain ⟨label, copied⟩ : ∃ label, copyText openReq.labelAndProtocol openReq.labelLength =
      some label := copyText_fits (by omega)
  obtain ⟨protocol, after⟩ : ∃ protocol,
      copyText (openReq.labelAndProtocol.drop (ntohs openReq.labelLength).toNat)
        openReq.protocolLength = some protocol :=
    copyText_fits (by rw [List.length_drop]; omega)
  simp only [allocateNewDataChannel, copied, after, bind, Option.bind_some, pure]
  exact ⟨_, rfl⟩

theorem handleRtcdcOpenRequest_noRoom (none_left : ¬ Room peer env) :
    handleRtcdcOpenRequest peer sid data env = some (peer, []) := by
  unfold handleRtcdcOpenRequest
  split
  · rfl
  · split
    · rfl
    · rename_i i free
      split
      · rename_i allocated
        exact absurd ⟨⟨i, (Table.firstFree_some free).1⟩, allocated⟩ none_left
      · rfl

theorem handleRtcdcOpenRequest_room (parsed : DcepOpenMessage.ofBytes data = some openReq)
    (room : Room peer env) : handleRtcdcOpenRequest peer sid data env ≠ some (peer, []) := by
  obtain ⟨i, free⟩ := Table.firstFree_exists room.free
  have empty := (Table.firstFree_some free).1
  simp only [handleRtcdcOpenRequest, parsed, free, room.calloc, if_true]
  split
  · rename_i ch transport _ _
    intro same
    have table : peer.channels.put i (some (peer.installCallbacks ch)) = peer.channels :=
      congrArg RtcdcPeerConnection.channels (Prod.mk.inj (Option.some.inj same)).1
    have slot := congrFun table i
    rw [Table.put_same, empty] at slot
    cases slot
  · exact (Option.some_ne_none _).symm

theorem handleRtcdcMessage_other (nonempty : data ≠ []) (other : data.head? ≠ some dataChannelOpen) :
    handleRtcdcMessage peer data webrtcControlPpid sid env ≠ none := by
  cases data with
  | nil => exact absurd rfl nonempty
  | cons msgType rest =>
      have no_open : msgType ≠ dataChannelOpen := fun same => other (by rw [same]; rfl)
      simp only [handleRtcdcMessage, if_true, no_open, if_false]
      split <;> exact Option.some_ne_none _

theorem handleRtcdcOpenRequest_inside (stored : peer.transport = some transport)
    (fit : ∀ openReq, DcepOpenMessage.ofBytes data = some openReq → Room peer env →
      LengthsFit openReq data) : handleRtcdcOpenRequest peer sid data env ≠ none := by
  by_cases room : Room peer env
  · unfold handleRtcdcOpenRequest
    split
    · exact nofun
    · rename_i openReq parsed
      obtain ⟨ch, made⟩ := allocate_fits parsed (fit openReq parsed room) sid
      rw [made, stored]
      split
      · exact nofun
      · split <;> exact nofun
  · rw [handleRtcdcOpenRequest_noRoom room]
    exact nofun

/-- The decoder is within bounds exactly when no OPEN whose lengths overrun it finds room. -/
theorem bounded_iff (nonempty : data ≠ []) (stored : peer.transport = some transport) :
    Bounded peer data sid env ↔
      ∀ openReq, Opens data openReq → Room peer env → LengthsFit openReq data := by
  constructor
  · intro bounded openReq opens room
    by_contra overrun
    have rejected := bounded.rejected openReq opens overrun
    rw [handleRtcdcMessage_open opens.msgType] at rejected
    exact handleRtcdcOpenRequest_room opens.header room rejected
  · intro fit
    refine ⟨?_, ?_⟩
    · by_cases msgType : data.head? = some dataChannelOpen
      · rw [handleRtcdcMessage_open msgType]
        exact handleRtcdcOpenRequest_inside stored fun openReq parsed =>
          fit openReq ⟨msgType, parsed⟩
      · exact handleRtcdcMessage_other nonempty msgType
    · intro openReq opens overrun
      rw [handleRtcdcMessage_open opens.msgType]
      exact handleRtcdcOpenRequest_noRoom fun room => overrun (fit openReq opens room)

def emptyPeer : RtcdcPeerConnection where
  exitThread := false
  transport := some
    { ice := ⟨true⟩, dtls := ⟨true⟩,
      sctp := { handshakeDone := true, deferredMessages := some [], streamCursor := 0 } }
  role := .client
  channels := fun _ => none
  onChannel := none
  onConnect := false

def namedOpen : Bytes := [3, 0, 0, 0, 0, 0, 0, 0, 0, 2, 0, 1, 97, 98, 99]

def overrunOpen : Bytes := [3, 0, 0, 0, 0, 0, 0, 0, 0, 1, 0, 0]

theorem namedOpen_bounded : Bounded emptyPeer namedOpen 0 ⟨true, 0⟩ :=
  (bounded_iff (by decide) rfl).mpr fun openReq opens _ => by
    have header := opens.header
    obtain rfl : _ = openReq := Option.some.inj header
    unfold LengthsFit
    decide +kernel

def BoundsLaw : Prop :=
  ∀ (peer : RtcdcPeerConnection) (transport : RtcdcTransport) (data : Bytes) (sid : UInt16)
    (env : HandlerEnv), data ≠ [] → peer.transport = some transport → Bounded peer data sid env

theorem overrunOpen_reads_outside : ¬ BoundsLaw := by
  intro law
  have bounded := law emptyPeer _ overrunOpen 0 ⟨true, 0⟩ (by decide) rfl
  refine bounded.inside ?_
  rw [handleRtcdcMessage_open rfl, ← Option.isNone_iff_eq_none]
  decide +kernel

end Librtcdc.OpenBounds
