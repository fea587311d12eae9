import Librtcdc.Peer.Dcep

set_option autoImplicit false

namespace Librtcdc

open Systems

structure CreateEnv where
  callocChannel : Bool
  callocReq : Bool
  sendv : Int
  deriving DecidableEq, Repr

def openRequest (label protocol : CString) : DcepOpenMessage where
  messageType := dataChannelOpen
  channelType := dataChannelReliable
  priority := htons 0
  reliabilityParam := htonl 0
  labelLength := htons (UInt16.ofNat label.val.length)
  protocolLength := htons (UInt16.ofNat protocol.val.length)
  labelAndProtocol := label.val ++ protocol.val

def createdChannel (label protocol : CString) (sid : UInt16) (callbacks : Callbacks) :
    RtcdcDataChannel where
  type := dataChannelReliable
  priority := 0
  rtx := 0
  lifetime := 0
  label := some label.val
  protocol := some protocol.val
  state := .connecting
  sid := sid
  callbacks := callbacks

def acceptedChannel (label protocol : CString) (sid : UInt16) : RtcdcDataChannel where
  type := dataChannelReliable
  priority := 0
  rtx := 0
  lifetime := 0
  label := if label.val = [] then none else some label.val
  protocol := if protocol.val = [] then none else some protocol.val
  state := .connected
  sid := sid
  callbacks := { onOpen := false, onMessage := false, onClose := false }

theorem copyText_length {text : Bytes} (nulFree : 0 ∉ text) (short : text.length ≤ 65535)
    (rest : Bytes) :
    copyText (text ++ rest) (htons (UInt16.ofNat text.length)) =
      some (if text = [] then none else some text) := by
  have exact : (UInt16.ofNat text.length).toNat = text.length := by
    rw [UInt16.toNat_ofNat', Nat.mod_eq_of_lt (by omega)]
  unfold copyText
  by_cases nothing : text = []
  · simp [nothing]
  · have positive : 0 < htons (UInt16.ofNat text.length) := by
      rw [UInt16.pos_iff_ne_zero, ne_eq, htons_eq_zero]
      intro zero
      rw [zero] at exact
      exact nothing (List.length_eq_zero_iff.mp exact.symm)
    rw [if_pos positive, ntohs_htons, exact, strndup_append nulFree, if_neg nothing]
    rfl

theorem allocateNewDataChannel_texts {openReq : DcepOpenMessage} {label protocol : CString}
    (sid : UInt16) (shortLabel : label.val.length ≤ 65535)
    (shortProtocol : protocol.val.length ≤ 65535)
    (labelLength : openReq.labelLength = htons (UInt16.ofNat label.val.length))
    (protocolLength : openReq.protocolLength = htons (UInt16.ofNat protocol.val.length))
    (texts : openReq.labelAndProtocol = label.val ++ protocol.val) :
    allocateNewDataChannel openReq sid =
      some
        { type := openReq.channelType
          priority := ntohs openReq.priority
          rtx := if openReq.channelType &&& 0x01 != 0 then ntohl openReq.reliabilityParam else 0
          lifetime :=
            if !(openReq.channelType &&& 0x01 != 0) && (openReq.channelType &&& 0x02 != 0) then
              ntohl openReq.reliabilityParam
            else 0
          label := if label.val = [] then none else some label.val
          protocol := if protocol.val = [] then none else some protocol.val
          state := .connected
          sid := sid
          callbacks := { onOpen := false, onMessage := false, onClose := false } } := by
  have exact : (UInt16.ofNat label.val.length).toNat = label.val.length := by
    rw [UInt16.toNat_ofNat', Nat.mod_eq_of_lt (by omega)]
  have first := copyText_length label.property shortLabel protocol.val
  have second := copyText_length protocol.property shortProtocol []
  rw [List.append_nil] at second
  simp only [allocateNewDataChannel, labelLength, protocolLength, texts, first, ntohs_htons, exact,
    List.drop_left, second, bind, Option.bind_some, pure]

theorem allocateNewDataChannel_openRequest {label protocol : CString} (sid : UInt16)
    (shortLabel : label.val.length ≤ 65535) (shortProtocol : protocol.val.length ≤ 65535) :
    allocateNewDataChannel (openRequest label protocol) sid =
      some (acceptedChannel label protocol sid) := by
  have retransmit : (dataChannelReliable &&& 0x01 != 0) = false := by decide
  have timed : (dataChannelReliable &&& 0x02 != 0) = false := by decide
  rw [allocateNewDataChannel_texts sid shortLabel shortProtocol rfl rfl rfl]
  simp only [openRequest, ntohs_htons, retransmit, timed, Bool.and_false, if_neg Bool.false_ne_true]
  rfl

def openMessage (label protocol : CString) (sid : UInt16) : SctpMessage where
  data := (openRequest label protocol).bytes
  sid := sid
  ppid := webrtcControlPpid

def RtcdcPeerConnection.withSctp (peer : RtcdcPeerConnection) (transport : RtcdcTransport)
    (sctp : SctpTransport) : RtcdcPeerConnection :=
  { peer with transport := some { transport with sctp := sctp } }

@[simp] theorem withSctp_channels (peer : RtcdcPeerConnection) (transport : RtcdcTransport)
    (sctp : SctpTransport) : (peer.withSctp transport sctp).channels = peer.channels := rfl

-- The slot stands for the returned pointer; the whole result is `none` when `strlen` is given NULL.
def rtcdcCreateDataChannel (peer : RtcdcPeerConnection) (label protocol : Option CString)
    (callbacks : Callbacks) (env : CreateEnv) :
    Option (Option (Fin rtcdcMaxChannelNum) × RtcdcPeerConnection × List Effect) :=
  match peer.transport with
  | none => some (none, peer, [])
  | some transport =>
      match peer.channels.firstFree with
      | none => some (none, peer, [])
      | some i =>
          if !env.callocChannel then some (none, peer, [])
          else
            match label, protocol with
            | some label, some protocol =>
                if !env.callocReq then
                  some (none, { peer with channels := peer.channels.put i none }, [])
                else
                  let sid := UInt16.ofNat transport.sctp.streamCursor
                  let ch := createdChannel label protocol sid callbacks
                  let sctp := { transport.sctp with streamCursor := transport.sctp.streamCursor + 2 }
                  let message := openMessage label protocol sid
                  let sent := sendSctpMessage sctp message env.sendv
                  let peer := peer.withSctp transport sctp
                  if sent.1 < 0 then
                    some (none, { peer with channels := peer.channels.put i none }, sent.2)
                  else
                    some (some i, { peer with channels := peer.channels.put i (some ch) }, sent.2)
            | _, _ => none

theorem rtcdcCreateDataChannel_cases {peer next : RtcdcPeerConnection}
    {label protocol : Option CString} {callbacks : Callbacks} {env : CreateEnv}
    {created : Option (Fin rtcdcMaxChannelNum)} {effects : List Effect}
    (called : rtcdcCreateDataChannel peer label protocol callbacks env =
      some (created, next, effects)) :
    (created = none ∧ next = peer ∧ effects = []) ∨
      ∃ transport i labelText protocolText, ∃ sctp ch message,
        peer.transport = some transport ∧ peer.channels.firstFree = some i ∧
        label = some labelText ∧ protocol = some protocolText ∧
        sctp = { transport.sctp with streamCursor := transport.sctp.streamCursor + 2 } ∧
        ch = createdChannel labelText protocolText
          (UInt16.ofNat transport.sctp.streamCursor) callbacks ∧
        message = openMessage labelText protocolText ch.sid ∧
        effects = (sendSctpMessage sctp message env.sendv).2 ∧
        (((sendSctpMessage sctp message env.sendv).1 < 0 ∧ created = none ∧
            next = peer.withSctp transport sctp) ∨
          (0 ≤ (sendSctpMessage sctp message env.sendv).1 ∧ created = some i ∧
            next = { peer.withSctp transport sctp with
              channels := peer.channels.put i (some ch) })) := by
  unfold rtcdcCreateDataChannel at called
  split at called
  · simp_all
  · rename_i transport stored
    split at called
    · simp_all
    · rename_i i free
      have empty := (Table.firstFree_some free).1
      split at called
      · simp_all
      · split at called
        · rename_i labelText protocolText
          split at called
          · rw [Table.put_none empty] at called
            cases called
            exact .inl ⟨rfl, rfl, rfl⟩
          · refine .inr ⟨transport, i, labelText, protocolText, _, _, _, stored, free, rfl, rfl,
              rfl, rfl, rfl, ?_⟩
            simp only at called
            split at called
            · rename_i refused
              rw [RtcdcPeerConnection.withSctp, Table.put_none empty] at called
              obtain ⟨rfl, rfl, rfl⟩ : none = created ∧ _ = next ∧ _ = effects := by
                simpa using called
              exact ⟨rfl, .inl ⟨refused, rfl, rfl⟩⟩
            · rename_i accepted
              obtain ⟨rfl, rfl, rfl⟩ : some i = created ∧ _ = next ∧ _ = effects := by
                simpa using called
              exact ⟨rfl, .inr ⟨Int.not_lt.mp accepted, rfl, rfl⟩⟩
        · cases called

theorem rtcdcCreateDataChannel_accepted {peer next : RtcdcPeerConnection}
    {transport : RtcdcTransport} {label protocol : Option CString} {callbacks : Callbacks}
    {env : CreateEnv} {created : Option (Fin rtcdcMaxChannelNum)} {effects : List Effect}
    (called : rtcdcCreateDataChannel peer label protocol callbacks env =
      some (created, next, effects))
    (stored : peer.transport = some transport) (queue : transport.sctp.deferredMessages ≠ none)
    (ok : 0 ≤ env.sendv) :
    (created = none ∧ next = peer ∧ effects = []) ∨
      ∃ i labelText protocolText, ∃ sctp ch,
        peer.channels.firstFree = some i ∧ label = some labelText ∧
        protocol = some protocolText ∧
        sctp = { transport.sctp with streamCursor := transport.sctp.streamCursor + 2 } ∧
        ch = createdChannel labelText protocolText
          (UInt16.ofNat transport.sctp.streamCursor) callbacks ∧
        effects = (sendSctpMessage sctp (openMessage labelText protocolText ch.sid) env.sendv).2 ∧
        created = some i ∧
        next = { peer.withSctp transport sctp with
          channels := peer.channels.put i (some ch) } := by
  rcases rtcdcCreateDataChannel_cases called with
    unchanged | ⟨transport', i, labelText, protocolText, sctp, ch, message, same, free, hlabel,
      hprotocol, hsctp, hch, rfl, sent, result⟩
  · exact .inl unchanged
  · obtain rfl : transport = transport' := by simpa [stored] using same
    rw [sendSctpMessage_ret ok (by simpa [hsctp] using queue)] at result
    rcases result with ⟨refused, _⟩ | ⟨_, returned, moved⟩
    · cases refused
    · exact .inr ⟨i, labelText, protocolText, sctp, ch, free, hlabel, hprotocol, hsctp, hch,
        sent, returned, moved⟩

def ppidOfDatatype (datatype : Datatype) (data : Option Bytes) : Option UInt32 :=
  let missing := (data.getD []).length = 0
  match datatype with
  | .string => some (if missing then webrtcStringEmptyPpid else webrtcStringPpid)
  | .binary => some (if missing then webrtcBinaryEmptyPpid else webrtcBinaryPpid)
  | .empty => none

theorem ppidOfDatatype_nonempty {datatype : Datatype} {data : Option Bytes}
    (carries : datatype ≠ .empty) (nonempty : data.getD [] ≠ []) :
    ∃ ppid, ppidOfDatatype datatype data = some ppid ∧ ppid ≠ webrtcControlPpid ∧
      datatypeOfPpid ppid = some datatype := by
  have positive : (data.getD []).length ≠ 0 := by simpa using nonempty
  cases datatype with
  | string => exact ⟨webrtcStringPpid, by simp [ppidOfDatatype, positive], by decide, by decide⟩
  | binary => exact ⟨webrtcBinaryPpid, by simp [ppidOfDatatype, positive], by decide, by decide⟩
  | empty => exact absurd rfl carries

-- `data` is `none` for a NULL pointer; `sctp` is `channel->sctp`.
def rtcdcSendMessage (sctp : SctpTransport) (channel : Option RtcdcDataChannel)
    (datatype : Datatype) (data : Option Bytes) (err : Int) : Int × List Effect :=
  match channel with
  | none => (-1, [])
  | some channel =>
      match ppidOfDatatype datatype data with
      | none => (-1, [])
      | some ppid => sendSctpMessage sctp ⟨data.getD [], channel.sid, ppid⟩ err

-- Each value names what `startup_thread` does next.
inductive StartupPc where
  | awaitNegotiation
  | doHandshake
  | awaitDtls
  | setCursor
  | associate
  | announce
  | finished
  deriving DecidableEq, Repr

def StartupPc.pastCursor : StartupPc → Bool
  | .associate | .announce | .finished => true
  | _ => false

-- One step, `none` while the thread only sleeps. `associated` tells whether `usrsctp_connect`
-- succeeded on a client, or `usrsctp_accept` returned a socket on a server.
def startupThread (peer : RtcdcPeerConnection) (pc : StartupPc) (associated : Bool) :
    Option (RtcdcPeerConnection × StartupPc × List Effect) :=
  match peer.transport with
  | none => none
  | some transport =>
      match pc with
      | .awaitNegotiation =>
          if peer.exitThread then some (peer, .finished, [])
          else if transport.ice.negotiationDone then some (peer, .doHandshake, [])
          else none
      | .doHandshake => some (peer, .awaitDtls, [])
      | .awaitDtls =>
          if peer.exitThread then some (peer, .finished, [])
          else if transport.dtls.handshakeDone then some (peer, .setCursor, [])
          else none
      | .setCursor =>
          let cursor := if peer.role = .client then 0 else 1
          some (peer.withSctp transport { transport.sctp with streamCursor := cursor },
            .associate, [])
      | .associate =>
          if associated then
            some (peer.withSctp transport { transport.sctp with handshakeDone := true },
              .announce, [])
          else
            some (peer, .finished, [])
      | .announce => some (peer, .finished, if peer.onConnect then [.onConnect] else [])
      | .finished => none

theorem startupThread_cases {peer next : RtcdcPeerConnection} {pc pc' : StartupPc}
    {associated : Bool} {effects : List Effect}
    (moved : startupThread peer pc associated = some (next, pc', effects)) :
    next.channels = peer.channels ∧ next.role = peer.role ∧
      ∃ transport transport', peer.transport = some transport ∧
        next.transport = some transport' ∧
        transport'.sctp.deferredMessages = transport.sctp.deferredMessages ∧
        ((pc = .setCursor ∧ pc' = .associate ∧
            transport'.sctp.streamCursor = if peer.role = .client then 0 else 1) ∨
          (pc ≠ .setCursor ∧ (pc.pastCursor = true → pc'.pastCursor = true) ∧
            transport'.sctp.streamCursor = transport.sctp.streamCursor)) := by
  unfold startupThread at moved
  cases stored : peer.transport with
  | none => simp [stored] at moved
  | some transport =>
      simp only [stored] at moved
      cases pc with
      | awaitNegotiation | awaitDtls =>
          simp only at moved
          split_ifs at moved <;> cases moved <;>
            exact ⟨rfl, rfl, transport, transport, rfl, stored, rfl,
              .inr ⟨by simp, by simp [StartupPc.pastCursor], rfl⟩⟩
      | doHandshake | announce =>
          cases moved
          exact ⟨rfl, rfl, transport, transport, rfl, stored, rfl,
            .inr ⟨by simp, by simp [StartupPc.pastCursor], rfl⟩⟩
      | setCursor =>
          cases moved
          exact ⟨rfl, rfl, transport, _, rfl, rfl, rfl, .inl ⟨rfl, rfl, rfl⟩⟩
      | associate =>
          cases associated with
          | true =>
              cases moved
              exact ⟨rfl, rfl, transport, _, rfl, rfl, rfl,
                .inr ⟨by simp, by simp [StartupPc.pastCursor], rfl⟩⟩
          | false =>
              cases moved
              exact ⟨rfl, rfl, transport, transport, rfl, stored, rfl,
                .inr ⟨by simp, by simp [StartupPc.pastCursor], rfl⟩⟩
      | finished => cases moved

end Librtcdc
