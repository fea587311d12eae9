import Librtcdc.Peer.OneWay

set_option autoImplicit false

namespace Librtcdc.Pair

open Systems

variable {x next : TwoPeers} {events emitted : List Event} {sender side : Side}
  {i : Fin rtcdcMaxChannelNum} {m : Sendv} {rest : List Sendv} {position : Nat}
  {label protocol : CString} {callbacks : Callbacks}

theorem openSendv_not_user (label protocol : CString) (sid : UInt16) :
    ¬IsUser (openSendv label protocol sid) := by
  intro user
  have carried := user.ppid
  rw [openSendv, openMessage, SctpMessage.sendv, ntohl_htonl] at carried
  cases carried

theorem ackSendv_not_user (sid : UInt16) : ¬IsUser (ackSendv sid) := by
  intro user
  have carried := user.ppid
  rw [ackSendv, dcepAckMessage, SctpMessage.sendv, ntohl_htonl] at carried
  cases carried

theorem openSendv_ne_ackSendv (label protocol : CString) (sid sid' : UInt16) :
    openSendv label protocol sid ≠ ackSendv sid' := by
  intro same
  have lengths := congrArg (fun m : Sendv => m.data.length) same
  simp [openSendv, openMessage, ackSendv, dcepAckMessage, SctpMessage.sendv, DcepOpenMessage.bytes,
    le16, le32] at lengths

theorem handed_accepted {sctp : SctpTransport} {err : Int} (message : SctpMessage)
    (queue : sctp.deferredMessages ≠ none) (done : sctp.handshakeDone = true) (ok : 0 ≤ err) :
    (handed (sendSctpMessage sctp message err).2).map Prod.fst = [message.sendv] := by
  rw [sendSctpMessage_accepted message queue done ok]
  rfl

theorem create_enabled (x : TwoPeers) {env : CreateEnv} (ok : 0 ≤ env.sendv)
    (shortLabel : label.val.length ≤ 65535) (shortProtocol : protocol.val.length ≤ 65535) :
    (step x (.create side label protocol callbacks env)).isSome := by
  have called : (rtcdcCreateDataChannel (x.peers side) (some label) (some protocol) callbacks
      env).isSome := by
    unfold rtcdcCreateDataChannel
    cases (x.peers side).transport with
    | none => rfl
    | some transport =>
        cases (x.peers side).channels.firstFree with
        | none => rfl
        | some i =>
            simp only
            split_ifs <;> rfl
  simpa [step, ok, shortLabel, shortProtocol] using called

theorem OneWay.create_opens {env : CreateEnv} (one : OneWay sender x events) (inv : Inv x events)
    (first : createdBy sender events = []) (shaken : handshakeDone (x.peers sender) = true)
    (memory : env.callocChannel = true ∧ env.callocReq = true)
    (moved : step x (.create sender label protocol callbacks env) = some (next, emitted)) :
    ∃ i ch, (next.peers sender).channels i = some ch ∧ ch.callbacks = callbacks ∧
      createdBy sender emitted = [i] ∧ openSendv label protocol ch.sid ∈ next.wire sender := by
  simp only [step] at moved
  split_ifs at moved with allowed
  obtain ⟨⟨created, peer, effects⟩, called, equal⟩ := Option.map_eq_some_iff.mp moved
  obtain ⟨rfl, rfl⟩ := Prod.mk.inj equal
  obtain ⟨transport, stored, queue, _⟩ := (inv.peers sender).transport
  have room : (x.peers sender).channels 0 = none := by
    cases there : (x.peers sender).channels 0 with
    | none => rfl
    | some ch =>
        have already := one.own 0 ch there
        rw [first] at already
        cases already
  obtain ⟨free, found⟩ := Table.firstFree_exists ⟨0, room⟩
  have done : transport.sctp.handshakeDone = true := by
    simpa [handshakeDone, stored] using shaken
  rcases rtcdcCreateDataChannel_accepted called stored queue allowed.1 with
    ⟨rfl, _, _⟩ | ⟨i, labelText, protocolText, sctp, ch, _, sameLabel, sameProtocol, advanced, made,
      sent, rfl, result⟩
  · have accepted (sctp : SctpTransport) (same : sctp.deferredMessages ≠ none) (message : SctpMessage) :
        ¬ (sendSctpMessage sctp message env.sendv).1 < 0 := by
      rw [sendSctpMessage_ret allowed.1 same]
      decide
    simp [rtcdcCreateDataChannel, stored, found, memory, accepted, queue] at called
  · cases sameLabel
    cases sameProtocol
    refine ⟨i, ch, ?_, by rw [made]; rfl, by simp, ?_⟩
    · rw [after_mine, result]
      exact Table.put_same ..
    · rw [after_wire_mine, sent, handed_accepted _ (by simpa [advanced] using queue)
        (by simpa [advanced] using done) allowed.1]
      exact List.mem_append_right _ List.mem_cons_self

theorem OneWay.open_answered {env : HandlerEnv} {sid : UInt16} (one : OneWay sender x events)
    (inv : Inv x events)
    (taken : takeAt Sendv.sndSid (x.wire sender) position = some (openSendv label protocol sid, rest))
    (memory : env.calloc = true) (shaken : handshakeDone (x.peers sender.other) = true)
    (moved : step x (.deliver sender position env) = some (next, emitted)) :
    ackSendv sid ∈ next.wire sender.other := by
  have ok : 0 ≤ env.sendv := by
    simp only [step] at moved
    split_ifs at moved with allowed
    exact allowed
  obtain ⟨message, rest', effects, taken', received, _, _, _, wire⟩ := step_deliver moved
  obtain ⟨rfl, rfl⟩ := Prod.mk.inj (Option.some.inj (taken.symm.trans taken'))
  obtain ⟨later, split⟩ := (inv.ordered sender).next taken
  have before := inv.streams sid sender.other
  rw [StreamOf, Side.other_other] at before
  rcases before.incoming split with
    ⟨label', protocol', opens, shortLabel, shortProtocol, foreign, absent, theirs, _⟩ | ⟨acks, _⟩ |
      ⟨user, _⟩
  · obtain ⟨transport, stored, queue, _⟩ := (inv.peers sender.other).transport
    have done : transport.sctp.handshakeDone = true := by
      simpa [handshakeDone, stored] using shaken
    obtain ⟨a, found⟩ := Option.ne_none_iff_exists'.mp theirs
    obtain ⟨i, _, mine, sameSid⟩ := channelOn_some found
    have room : (x.peers sender.other).channels 0 = none := by
      cases there : (x.peers sender.other).channels 0 with
      | none => rfl
      | some b =>
          have equal := (one.matched inv mine there).trans sameSid
          exact absurd equal (channelOn_none absent there)
    obtain ⟨free, firstFree⟩ := Table.firstFree_exists ⟨0, room⟩
    have made := allocateNewDataChannel_openRequest sid shortLabel shortProtocol
    have env_eq : env = ⟨true, env.sendv⟩ := by rw [← memory]
    rw [opens, receive_open, env_eq, handleRtcdcOpenRequest_stores env.sendv stored
      (DcepOpenMessage.ofBytes_bytes _) firstFree made] at received
    obtain ⟨_, rfl⟩ := Prod.mk.inj (Option.some.inj received)
    have answer := handed_accepted (dcepAckMessage sid) queue done ok
    rw [wire, handed, List.filterMap_append, List.map_append]
    exact List.mem_append_right _ (List.mem_append_right _ (by
      rw [← handed, answer]
      exact List.mem_cons_self))
  · exact absurd acks (openSendv_ne_ackSendv _ _ _ _)
  · exact absurd user (openSendv_not_user _ _ _)

theorem ack_opens {env : HandlerEnv} {sid : UInt16} (inv : Inv x events)
    (taken : takeAt Sendv.sndSid (x.wire sender.other) position = some (ackSendv sid, rest))
    (listens : ∀ i ch, (x.peers sender).channels i = some ch → ch.callbacks.onOpen = true)
    (moved : step x (.deliver sender.other position env) = some (next, emitted)) :
    openedBy sender emitted ≠ [] := by
  obtain ⟨message, rest', effects, taken', received, _, rfl, _⟩ := step_deliver moved
  obtain ⟨rfl, rfl⟩ := Prod.mk.inj (Option.some.inj (taken.symm.trans taken'))
  simp only [Side.other_other] at received ⊢
  obtain ⟨later, split⟩ := (inv.ordered sender.other).next taken
  have before := inv.streams sid sender
  rw [StreamOf] at before
  rcases before.incoming split with ⟨_, _, opens, _⟩ | ⟨_, a, mine, _⟩ | ⟨user, _⟩
  · exact absurd opens.symm (openSendv_ne_ackSendv _ _ _ _)
  · rw [receive_ack] at received
    rcases handleRtcdcOpenAck_cases (x.peers sender) sid with
      ⟨missing, _⟩ | ⟨i, ch, _, stored, _, result⟩
    · rw [findSid_none, mine] at missing
      cases missing
    · rw [result] at received
      obtain ⟨_, rfl⟩ := Prod.mk.inj (Option.some.inj received)
      rw [if_pos (listens i ch stored)]
      refine List.ne_nil_of_mem (a := i) ?_
      rw [mem_openedBy]
      simp
  · exact absurd user (ackSendv_not_user _)

def asksOpen (m : Sendv) : Bool :=
  ntohl m.sndPpid = webrtcControlPpid && m.data.head? = some dataChannelOpen

def wireWeight (wire : List Sendv) : Nat :=
  wire.length + wire.countP asksOpen

def TwoPeers.weight (x : TwoPeers) : Nat :=
  wireWeight (x.wire .client) + wireWeight (x.wire .server)

@[simp] theorem wireWeight_nil : wireWeight [] = 0 := rfl

theorem wireWeight_append (first second : List Sendv) :
    wireWeight (first ++ second) = wireWeight first + wireWeight second := by
  simp only [wireWeight, List.length_append, List.countP_append]
  omega

theorem wireWeight_one (m : Sendv) : wireWeight [m] = if asksOpen m then 2 else 1 := by
  unfold wireWeight
  rw [List.length_singleton, List.countP_singleton]
  split_ifs <;> rfl

theorem openSendv_weight (label protocol : CString) (sid : UInt16) :
    wireWeight [openSendv label protocol sid] = 2 := by
  have asks : asksOpen (openSendv label protocol sid) = true := by
    rw [asksOpen, openSendv, openMessage, SctpMessage.sendv, ntohl_htonl]
    rfl
  rw [wireWeight_one, if_pos asks]

theorem ackSendv_weight (sid : UInt16) : wireWeight [ackSendv sid] = 1 := by
  have answers : asksOpen (ackSendv sid) = false := by
    rw [asksOpen, ackSendv, dcepAckMessage, SctpMessage.sendv, ntohl_htonl]
    rfl
  rw [wireWeight_one, answers]
  rfl

theorem wireWeight_taken (taken : takeAt Sendv.sndSid (x.wire sender) position = some (m, rest)) :
    wireWeight (x.wire sender) = wireWeight rest + wireWeight [m] := by
  obtain ⟨before, after, wire, rfl, _⟩ := takeAt_split taken
  rw [wire, List.append_cons, wireWeight_append, wireWeight_append, wireWeight_append]
  omega

theorem TwoPeers.weight_side (x : TwoPeers) (side : Side) :
    x.weight = wireWeight (x.wire side) + wireWeight (x.wire side.other) := by
  cases side
  · rfl
  · exact Nat.add_comm ..

theorem handed_weight {sctp : SctpTransport} {err : Int} {message : SctpMessage} :
    wireWeight ((handed (sendSctpMessage sctp message err).2).map Prod.fst) ≤
      wireWeight [message.sendv] := by
  rcases handed_sendSctpMessage sctp message err with nothing | one
  · rw [nothing]
    exact Nat.zero_le _
  · rw [one]

theorem receive_weight {env : HandlerEnv} {after : RtcdcPeerConnection} {effects : List Effect}
    (inv : Inv x events)
    (taken : takeAt Sendv.sndSid (x.wire side.other) position = some (m, rest))
    (received : sctpDataReceivedCb (x.peers side) m.data m.sndPpid m.sndSid false env =
      some (after, effects)) :
    wireWeight ((handed effects).map Prod.fst) + 1 ≤ wireWeight [m] := by
  have some_weight : 1 ≤ wireWeight [m] := by
    rw [wireWeight_one]
    split_ifs <;> omega
  obtain ⟨later, split⟩ := (inv.ordered side.other).next taken
  have before := inv.streams m.sndSid side
  unfold StreamOf at before
  rcases before.incoming split with ⟨label, protocol, opens, _⟩ | ⟨acks, _⟩ | ⟨user, _⟩
  · have heavy : wireWeight [m] = 2 := by
      rw [opens]
      exact openSendv_weight ..
    rw [opens, receive_open] at received
    rcases handleRtcdcOpenRequest_cases received with
      ⟨rfl, rfl⟩ | ⟨_, i, ch, transport, _, _, _, _, rfl, rfl⟩
    · exact some_weight
    · have answer : wireWeight ((handed (sendSctpMessage transport.sctp (dcepAckMessage m.sndSid)
          env.sendv).2).map Prod.fst) ≤ 1 := by
        rw [← ackSendv_weight m.sndSid]
        exact handed_weight
      rw [heavy]
      refine Nat.succ_le_succ (le_of_eq_of_le ?_ answer)
      split_ifs <;> rfl
  · rw [acks, receive_ack] at received
    rcases handleRtcdcOpenAck_cases (x.peers side) m.sndSid with
      ⟨_, result⟩ | ⟨i, ch, _, _, _, result⟩
    · rw [result] at received
      obtain ⟨_, rfl⟩ := Prod.mk.inj (Option.some.inj received)
      exact some_weight
    · rw [result] at received
      obtain ⟨_, rfl⟩ := Prod.mk.inj (Option.some.inj received)
      refine le_of_eq_of_le ?_ some_weight
      split_ifs <;> rfl
  · obtain ⟨datatype, _, _, called⟩ := receive_user (x.peers side) env user
    rw [called] at received
    rcases handleRtcdcData_cases (x.peers side) m.sndSid datatype m.data with
      ⟨_, result⟩ | ⟨i, ch, _, _, _, result⟩
    · rw [result] at received
      obtain ⟨_, rfl⟩ := Prod.mk.inj (Option.some.inj received)
      exact some_weight
    · rw [result] at received
      obtain ⟨_, rfl⟩ := Prod.mk.inj (Option.some.inj received)
      refine le_of_eq_of_le ?_ some_weight
      split_ifs <;> rfl

theorem deliver_weight {env : HandlerEnv} (inv : Inv x events)
    (moved : step x (.deliver sender position env) = some (next, emitted)) :
    next.weight + 1 ≤ x.weight := by
  obtain ⟨m, rest, effects, taken, received, _, _, wire, wire_other⟩ := step_deliver moved
  have lighter := receive_weight inv (by rwa [Side.other_other]) received
  have before := wireWeight_taken taken
  rw [next.weight_side sender, x.weight_side sender, wire, wire_other, wireWeight_append]
  omega

theorem create_weight {env : CreateEnv} (inv : Inv x events)
    (moved : step x (.create sender label protocol callbacks env) = some (next, emitted)) :
    next.weight ≤ x.weight + 2 := by
  simp only [step] at moved
  split_ifs at moved with allowed
  obtain ⟨⟨created, peer, effects⟩, called, equal⟩ := Option.map_eq_some_iff.mp moved
  obtain ⟨rfl, rfl⟩ := Prod.mk.inj equal
  obtain ⟨transport, stored, queue, _⟩ := (inv.peers sender).transport
  have sends : wireWeight ((handed effects).map Prod.fst) ≤ 2 := by
    rcases rtcdcCreateDataChannel_accepted called stored queue allowed.1 with
      ⟨_, _, rfl⟩ | ⟨_, labelText, protocolText, _, ch, _, _, _, _, _, sent, _⟩
    · exact Nat.zero_le 2
    · rw [sent, ← openSendv_weight labelText protocolText ch.sid]
      exact handed_weight
  change (x.after sender peer effects).weight ≤ _
  rw [TwoPeers.weight_side _ sender, x.weight_side sender, after_wire_mine, after_wire_other,
    wireWeight_append]
  omega

theorem send_weight {slot : Fin rtcdcMaxChannelNum} {data : Bytes} {err : Int}
    (moved : step x (.send sender slot .string data err) = some (next, emitted)) :
    next.weight ≤ x.weight + 1 := by
  simp only [step] at moved
  split_ifs at moved with allowed
  obtain ⟨transport, stored, equal⟩ := Option.map_eq_some_iff.mp moved
  obtain ⟨rfl, rfl⟩ := Prod.mk.inj equal
  have sends : wireWeight ((handed (rtcdcSendMessage transport.sctp ((x.peers sender).channels slot)
      .string (some data) err).2).map Prod.fst) ≤ 1 := by
    cases (x.peers sender).channels slot with
    | none => exact Nat.zero_le 1
    | some ch =>
        have present : ¬ ((some data).getD []).length = 0 := by simpa using allowed.2
        simp only [rtcdcSendMessage, ppidOfDatatype, present, if_false]
        refine le_trans handed_weight ?_
        have user : asksOpen (SctpMessage.sendv ⟨data, ch.sid, webrtcStringPpid⟩) = false := by
          rw [asksOpen, SctpMessage.sendv, ntohl_htonl]
          rfl
        rw [Option.getD_some, wireWeight_one, user]
        exact Nat.le_refl 1
  rw [TwoPeers.weight_side _ sender, x.weight_side sender, after_wire_mine, after_wire_other,
    wireWeight_append]
  omega

end Librtcdc.Pair
