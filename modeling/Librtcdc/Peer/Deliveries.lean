import Librtcdc.Peer.Calls

set_option autoImplicit false

namespace Librtcdc.Pair

open Systems

variable {x : TwoPeers} {events : List Event} {side : Side} {sid : UInt16}
  {peer : RtcdcPeerConnection} {effects : List Effect} {m : Sendv} {rest : List Sendv}
  {i slot : Fin rtcdcMaxChannelNum} {ch : RtcdcDataChannel}

def TwoPeers.delivered (x : TwoPeers) (side : Side) (rest : List Sendv)
    (next : RtcdcPeerConnection) (effects : List Effect) : TwoPeers :=
  TwoPeers.after { x with wire := Function.update x.wire side.other rest } side next effects

def deliveryEvents (side : Side) (m : Sendv) (effects : List Effect) : List Event :=
  [.delivered side.other m] ++ effects.map (Event.effect side)

@[simp] theorem delivered_mine {next : RtcdcPeerConnection} :
    (x.delivered side rest next effects).peers side = next := after_mine

@[simp] theorem delivered_other {next : RtcdcPeerConnection} :
    (x.delivered side rest next effects).peers side.other = x.peers side.other := after_other

theorem ofSide_delivery : AllOfSide side (deliveryEvents side m effects) :=
  AllOfSide.append (by simp [AllOfSide, OfSide]) ofSide_effects

@[simp] theorem sentBy_delivery :
    sentBy side (deliveryEvents side m effects) = (handed effects).map Prod.fst := by
  simp [deliveryEvents]

@[simp] theorem deliveredFrom_delivery :
    deliveredFrom side.other (deliveryEvents side m effects) = [m] := by
  simp [deliveryEvents]

@[simp] theorem createdBy_delivery : createdBy side (deliveryEvents side m effects) = [] := by
  simp [deliveryEvents]

@[simp] theorem callsOn_delivery : callsOn side slot (deliveryEvents side m effects) =
    effects.filterMap (callbackOf slot) := by
  simp [deliveryEvents]

def StreamAfter (x : TwoPeers) (events : List Event) (side : Side) (m : Sendv)
    (mine : Option RtcdcDataChannel) (handedOver : List Sendv) : Prop :=
  StreamAt side m.sndSid mine (channelOn (x.peers side.other).channels m.sndSid)
    (onSid m.sndSid (sentBy side events) ++ handedOver)
    (onSid m.sndSid (sentBy side.other events)) (onSid m.sndSid (deliveredFrom side events))
    (onSid m.sndSid (deliveredFrom side.other events) ++ [m])

theorem delivered_inv {position : Nat} {next : RtcdcPeerConnection} (inv : Inv x events)
    (taken : takeAt Sendv.sndSid (x.wire side.other) position = some (m, rest))
    (peerOk : PeerOk side next)
    (kept : ∀ i ch, (x.peers side).channels i = some ch →
      ∃ ch', next.channels i = some ch' ∧ ch'.sid = ch.sid)
    (elsewhere : ∀ other, other ≠ m.sndSid →
      channelOn next.channels other = channelOn (x.peers side).channels other)
    (handing : ∀ message ∈ (handed effects).map Prod.fst, message.sndSid = m.sndSid)
    (stream : StreamAfter x events side m (channelOn next.channels m.sndSid)
      ((handed effects).map Prod.fst))
    (calls : ∀ slot, CallsMatch (x.delivered side rest next effects)
      (events ++ deliveryEvents side m effects) side slot) :
    Inv (x.delivered side rest next effects) (events ++ deliveryEvents side m effects) := by
  have handedHere : onKey Sendv.sndSid m.sndSid ((handed effects).map Prod.fst) =
      (handed effects).map Prod.fst := onKey_all handing
  have here : onKey Sendv.sndSid m.sndSid [m] = [m] := onKey_cons_same rfl
  have moved : LocalStep side m.sndSid x (x.delivered side rest next effects) events
      (deliveryEvents side m effects) :=
    { others := delivered_other
      mine := ofSide_delivery
      peer := by rw [delivered_mine]; exact peerOk
      kept := by simpa using kept
      created := by simp
      ordered := by
        rw [deliveryEvents, ← List.append_assoc]
        exact ordered_call (ordered_take inv.ordered taken)
      elsewhere := by simpa using elsewhere
      sent := by simpa using handing
      got := by simp
      stream := by
        unfold StreamOf
        rw [delivered_mine, delivered_other, sentBy_append, sentBy_append, deliveredFrom_append,
          deliveredFrom_append, ofSide_delivery.sentBy_other, ofSide_delivery.deliveredFrom_mine]
        simpa [onSid, StreamAfter, handedHere, here] using stream
      calls := calls }
  exact moved.inv inv

theorem ignored_inv {position : Nat} (inv : Inv x events)
    (taken : takeAt Sendv.sndSid (x.wire side.other) position = some (m, rest))
    (absent : channelOn (x.peers side).channels m.sndSid = none)
    (stream : StreamAfter x events side m none []) :
    Inv (x.delivered side rest (x.peers side) []) (events ++ deliveryEvents side m []) := by
  refine delivered_inv inv taken (inv.peers side) (fun i ch there => ⟨ch, there, rfl⟩)
    (fun _ _ => rfl) (by simp [handed]) (by rwa [absent]) fun slot => ?_
  refine calls_kept inv (fun free => ⟨by simpa using free, by simp⟩) fun ch there => ?_
  refine ⟨ch, by simpa using there, rfl, rfl, ?_⟩
  have other : onSid ch.sid [m] = [] := onKey_none fun message member => by
    obtain rfl : message = m := by simpa using member
    exact (channelOn_none absent there).symm
  simp [other]

theorem found_inv {position : Nat} {next : RtcdcPeerConnection} {ch' : RtcdcDataChannel}
    (inv : Inv x events)
    (taken : takeAt Sendv.sndSid (x.wire side.other) position = some (m, rest))
    (stored : (x.peers side).channels i = some ch) (same : ch.sid = m.sndSid)
    (sameSid : ch'.sid = ch.sid) (sameCallbacks : ch'.callbacks = ch.callbacks)
    (result : next = { x.peers side with channels := (x.peers side).channels.put i (some ch') })
    (quiet : handed effects = [])
    (told : ∀ slot, effects.filterMap (callbackOf slot) =
      if slot = i then (callFor ch.callbacks m).toList else [])
    (stream : StreamAfter x events side m (some ch') []) :
    Inv (x.delivered side rest next effects) (events ++ deliveryEvents side m effects) := by
  have peerOk : PeerOk side next := by
    rw [result]
    exact (inv.peers side).replace stored sameSid
  have table : next.channels = (x.peers side).channels.put i (some ch') := by rw [result]
  have here : next.channels i = some ch' := by simp [table]
  have found : channelOn next.channels m.sndSid = some ch' := by
    rw [← same, ← sameSid]
    exact channelOn_stored peerOk.distinct here
  refine delivered_inv inv taken peerOk ?_ ?_ (by simp [quiet])
    (by rw [found, quiet]; exact stream) fun slot => ?_
  · intro j other there
    by_cases at_ : j = i
    · subst at_
      obtain rfl : ch = other := by simpa [stored] using there
      exact ⟨ch', here, sameSid⟩
    · exact ⟨other, by rw [table, Table.put_other _ _ at_, there], rfl⟩
  · intro other differ
    rw [table]
    refine channelOn_put_other ?_ fun old there => ?_
    · rw [sameSid, same]
      exact Ne.symm differ
    · obtain rfl : ch = old := by simpa [stored] using there
      rw [same]
      exact Ne.symm differ
  · refine calls_kept inv (fun free => ?_) fun other there => ?_
    · have elsewhere : slot ≠ i := by
        rintro rfl
        simp [stored] at free
      simp [table, Table.put_other _ _ elsewhere, free, told, elsewhere]
    · by_cases at_ : slot = i
      · subst at_
        obtain rfl : ch = other := by simpa [stored] using there
        refine ⟨ch', by simpa using here, sameSid, sameCallbacks, ?_⟩
        have mine : onSid ch.sid [m] = [m] := onKey_cons_same same.symm
        cases call : callFor ch.callbacks m <;> simp [told, mine, call]
      · refine ⟨other, by simp [table, Table.put_other _ _ at_, there], rfl, rfl, ?_⟩
        have apart : other.sid ≠ m.sndSid := by
          rw [← same]
          exact fun equal => at_ ((inv.peers side).distinct slot i other ch there stored equal)
        have none_ : onSid other.sid [m] = [] := onKey_cons_other (Ne.symm apart)
        simp [told, at_, none_]

theorem accepted_inv {position : Nat} {next : RtcdcPeerConnection} {label protocol : CString}
    (inv : Inv x events)
    (taken : takeAt Sendv.sndSid (x.wire side.other) position = some (m, rest))
    (opens : m = openSendv label protocol ch.sid) (foreign : owner ch.sid ≠ side)
    (absent : channelOn (x.peers side).channels ch.sid = none)
    (theirs : channelOn (x.peers side.other).channels ch.sid ≠ none)
    (nothing : onSid ch.sid (deliveredFrom side.other events) = [])
    (free : (x.peers side).channels i = none)
    (result : next = { x.peers side with channels := (x.peers side).channels.put i (some ch) })
    (handing : HandsOver effects (ackSendv ch.sid))
    (quiet : ∀ slot, effects.filterMap (callbackOf slot) = [])
    (stream : StreamAfter x events side m (some ch) ((handed effects).map Prod.fst)) :
    Inv (x.delivered side rest next effects) (events ++ deliveryEvents side m effects) := by
  have same : m.sndSid = ch.sid := by rw [opens, openSendv_sid]
  have bound : ch.sid.toNat < rtcdcMaxOutStream := by
    obtain ⟨a, there⟩ := Option.ne_none_iff_exists'.mp theirs
    obtain ⟨j, _, stored, equal⟩ := channelOn_some there
    rw [← equal]
    exact (inv.peers side.other).below j a stored
  have peerOk : PeerOk side next := by
    rw [result]
    exact (inv.peers side).accept free foreign absent bound
  have table : next.channels = (x.peers side).channels.put i (some ch) := by rw [result]
  have here : next.channels i = some ch := by simp [table]
  have found : channelOn next.channels m.sndSid = some ch := by
    rw [same]
    exact channelOn_stored peerOk.distinct here
  refine delivered_inv inv taken peerOk ?_ ?_ (by rw [same]; exact handing.same_sid)
    (by rwa [found]) fun slot => ?_
  · intro j other there
    have elsewhere : j ≠ i := by
      rintro rfl
      simp [free] at there
    exact ⟨other, by rw [table, Table.put_other _ _ elsewhere, there], rfl⟩
  · intro other differ
    rw [table]
    refine channelOn_put_other (by rw [← same]; exact Ne.symm differ) fun old there => ?_
    simp [free] at there
  · refine calls_stored inv free (by rw [delivered_mine, table]) (by simp [quiet]) ?_ ?_
    · intro j other there
      rw [deliveredFrom_delivery]
      refine onKey_cons_other ?_
      rw [same]
      exact (channelOn_none absent there).symm
    · have one : onKey Sendv.sndSid ch.sid [m] = [m] := onKey_cons_same same
      have silent : callFor ch.callbacks m = none := by
        rw [opens]
        simp [callFor, openSendv, openMessage, SctpMessage.sendv, openRequest,
          DcepOpenMessage.bytes, dataChannelOpen, dataChannelAck]
      unfold onSid at *
      simp [nothing, one, silent]

theorem receive_open {label protocol : CString} {env : HandlerEnv} :
    sctpDataReceivedCb peer (openSendv label protocol sid).data
        (openSendv label protocol sid).sndPpid (openSendv label protocol sid).sndSid false env =
      handleRtcdcOpenRequest peer sid (openRequest label protocol).bytes env := by
  have opens : (openRequest label protocol).bytes.head? = some dataChannelOpen := rfl
  have present : (openRequest label protocol).bytes.length ≠ 0 := by
    simp [DcepOpenMessage.bytes]
  simp only [sctpDataReceivedCb, openSendv, openMessage, SctpMessage.sendv, ntohl_htonl, present,
    if_false, Bool.false_eq_true]
  exact handleRtcdcMessage_open opens peer sid env

theorem receive_ack {env : HandlerEnv} :
    sctpDataReceivedCb peer (ackSendv sid).data (ackSendv sid).sndPpid (ackSendv sid).sndSid false
        env =
      some (handleRtcdcOpenAck peer sid) := by
  simp [sctpDataReceivedCb, ackSendv, dcepAckMessage, SctpMessage.sendv, handleRtcdcMessage,
    dataChannelAck, dataChannelOpen]

theorem receive_user (peer : RtcdcPeerConnection) (env : HandlerEnv) (user : IsUser m) :
    ∃ datatype, datatypeOfPpid (ntohl m.sndPpid) = some datatype ∧
      ntohl m.sndPpid ≠ webrtcControlPpid ∧
      sctpDataReceivedCb peer m.data m.sndPpid m.sndSid false env =
        some (handleRtcdcData peer m.sndSid datatype m.data) := by
  obtain ⟨datatype, carried⟩ := Option.isSome_iff_exists.mp user.ppid
  have present : m.data.length ≠ 0 := by simpa using user.nonempty
  have data : ntohl m.sndPpid ≠ webrtcControlPpid := by
    intro control
    rw [control] at carried
    cases carried
  refine ⟨datatype, carried, data, ?_⟩
  simp only [sctpDataReceivedCb, present, if_false, Bool.false_eq_true, handleRtcdcMessage, data,
    carried]

theorem acceptedChannel_hasTexts {label protocol : CString}
    (shortLabel : label.val.length ≤ 65535) (shortProtocol : protocol.val.length ≤ 65535)
    (peer : RtcdcPeerConnection) :
    HasTexts (peer.installCallbacks (acceptedChannel label protocol sid)) label protocol where
  sameLabel := by
    rw [installCallbacks_label]
    by_cases empty : label.val = [] <;> simp [acceptedChannel, textOf, empty]
  sameProtocol := by
    rw [installCallbacks_protocol]
    by_cases empty : protocol.val = [] <;> simp [acceptedChannel, textOf, empty]
  shortLabel := shortLabel
  shortProtocol := shortProtocol

theorem open_inv {position : Nat} {env : HandlerEnv} {next : RtcdcPeerConnection}
    {label protocol : CString} (inv : Inv x events)
    (taken : takeAt Sendv.sndSid (x.wire side.other) position = some (m, rest))
    (opens : m = openSendv label protocol m.sndSid) (shortLabel : label.val.length ≤ 65535)
    (shortProtocol : protocol.val.length ≤ 65535) (foreign : owner m.sndSid ≠ side)
    (absent : channelOn (x.peers side).channels m.sndSid = none)
    (theirs : channelOn (x.peers side.other).channels m.sndSid ≠ none)
    (nothing : onSid m.sndSid (deliveredFrom side.other events) = [])
    (refused : StreamAfter x events side m none [])
    (accepted : ∀ b handedOver, b.state = .connected → HasTexts b label protocol →
      (handedOver = [] ∨ handedOver = [ackSendv m.sndSid]) →
      StreamAfter x events side m (some b) handedOver)
    (received : handleRtcdcOpenRequest (x.peers side) m.sndSid (openRequest label protocol).bytes
      env = some (next, effects)) :
    Inv (x.delivered side rest next effects) (events ++ deliveryEvents side m effects) := by
  rcases handleRtcdcOpenRequest_cases received with
    ⟨rfl, rfl⟩ | ⟨openReq, i, ch, transport, parsed, found, made, _, result, sent⟩
  · exact ignored_inv inv taken absent refused
  · obtain rfl : openRequest label protocol = openReq := by simpa using parsed
    rw [allocateNewDataChannel_openRequest m.sndSid shortLabel shortProtocol] at made
    obtain rfl := Option.some.inj made
    obtain ⟨b, stored⟩ : ∃ b, (x.peers side).installCallbacks
        (acceptedChannel label protocol m.sndSid) = b := ⟨_, rfl⟩
    have same : b.sid = m.sndSid := by
      rw [← stored, installCallbacks_sid]
      rfl
    have connected : b.state = .connected := by
      rw [← stored, installCallbacks_state]
      rfl
    have texts : HasTexts b label protocol := by
      rw [← stored]
      exact acceptedChannel_hasTexts shortLabel shortProtocol (x.peers side)
    rw [stored] at result
    have handing : HandsOver effects (ackSendv m.sndSid) := by
      have ack := handed_sendSctpMessage transport.sctp (dcepAckMessage m.sndSid) env.sendv
      rw [sent]
      split_ifs <;> exact ack
    have quiet : ∀ slot, effects.filterMap (callbackOf slot) = [] := by
      intro slot
      rw [sent, List.filterMap_append, sendSctpMessage_calls]
      split_ifs <;> rfl
    have stream := accepted b _ connected texts handing
    rw [← same] at opens foreign absent theirs nothing handing
    exact accepted_inv inv taken opens foreign absent theirs nothing
      (Table.firstFree_some found).1 result handing quiet stream

theorem calls_one {called : Callback} {effect : Effect} {isSet : Bool}
    (here : callbackOf i effect = some called)
    (elsewhere : slot ≠ i → callbackOf slot effect = none) :
    (if isSet then [effect] else []).filterMap (callbackOf slot) =
      if slot = i then (if isSet then some called else none).toList else [] := by
  by_cases same : slot = i
  · subst same
    cases isSet <;> simp [here]
  · cases isSet <;> simp [elsewhere same, same]

theorem ack_inv {position : Nat} {next : RtcdcPeerConnection} {a : RtcdcDataChannel}
    (inv : Inv x events)
    (taken : takeAt Sendv.sndSid (x.wire side.other) position = some (m, rest))
    (acks : m = ackSendv m.sndSid) (mine : channelOn (x.peers side).channels m.sndSid = some a)
    (answered : StreamAfter x events side m (some { a with state := .connected }) [])
    (received : handleRtcdcOpenAck (x.peers side) m.sndSid = (next, effects)) :
    Inv (x.delivered side rest next effects) (events ++ deliveryEvents side m effects) := by
  rcases handleRtcdcOpenAck_cases (x.peers side) m.sndSid with
    ⟨missing, _⟩ | ⟨i, ch, found, stored, same, result⟩
  · rw [findSid_none, mine] at missing
    cases missing
  · obtain rfl : ch = a := by
      rw [channelOn, found, Option.bind_some, stored] at mine
      exact Option.some.inj mine
    rw [result] at received
    obtain ⟨rfl, rfl⟩ := Prod.mk.inj received
    have sameSid : ({ ch with state := .connected } : RtcdcDataChannel).sid = ch.sid := rfl
    refine found_inv inv taken stored same sameSid rfl rfl ?_ ?_ answered
    · split_ifs <;> rfl
    · intro slot
      have call : callFor ch.callbacks m = if ch.callbacks.onOpen then some .opened else none := by
        rw [acks]
        simp [callFor, ackSendv, dcepAckMessage, SctpMessage.sendv]
      rw [call]
      exact calls_one (by simp [callbackOf])
        fun elsewhere => by simp [callbackOf, Ne.symm elsewhere]

theorem RtcdcDataChannel.reopen_alive {a : RtcdcDataChannel} (alive : a.state ≠ .closed) :
    a.reopen = a := by
  rw [Librtcdc.RtcdcDataChannel.reopen, if_neg alive]

theorem user_inv {position : Nat} {next : RtcdcPeerConnection} {datatype : Datatype}
    (inv : Inv x events)
    (taken : takeAt Sendv.sndSid (x.wire side.other) position = some (m, rest))
    (carried : datatypeOfPpid (ntohl m.sndPpid) = some datatype)
    (data : ntohl m.sndPpid ≠ webrtcControlPpid)
    (alive : ∀ a, channelOn (x.peers side).channels m.sndSid = some a → a.state ≠ .closed)
    (going : StreamAfter x events side m (channelOn (x.peers side).channels m.sndSid) [])
    (received : handleRtcdcData (x.peers side) m.sndSid datatype m.data = (next, effects)) :
    Inv (x.delivered side rest next effects) (events ++ deliveryEvents side m effects) := by
  rcases handleRtcdcData_cases (x.peers side) m.sndSid datatype m.data with
    ⟨missing, result⟩ | ⟨i, ch, found, stored, same, result⟩
  · rw [result] at received
    obtain ⟨rfl, rfl⟩ := Prod.mk.inj received
    have absent := findSid_none.mp missing
    rw [absent] at going
    exact ignored_inv inv taken absent going
  · have mine : channelOn (x.peers side).channels m.sndSid = some ch := by
      rw [channelOn, found, Option.bind_some, stored]
    rw [result, RtcdcDataChannel.reopen_alive (alive ch mine)] at received
    obtain ⟨rfl, rfl⟩ := Prod.mk.inj received
    rw [mine] at going
    refine found_inv inv taken stored same rfl rfl rfl ?_ ?_ going
    · split_ifs <;> rfl
    · intro slot
      have call : callFor ch.callbacks m =
          if ch.callbacks.onMessage then some (.message datatype m.data) else none := by
        simp [callFor, data, carried]
      rw [call]
      exact calls_one (by simp [callbackOf])
        fun elsewhere => by simp [callbackOf, Ne.symm elsewhere]

theorem deliver_inv {position : Nat} {env : HandlerEnv} {next : RtcdcPeerConnection}
    (inv : Inv x events)
    (taken : takeAt Sendv.sndSid (x.wire side.other) position = some (m, rest))
    (received : sctpDataReceivedCb (x.peers side) m.data m.sndPpid m.sndSid false env =
      some (next, effects)) :
    Inv (x.delivered side rest next effects) (events ++ deliveryEvents side m effects) := by
  obtain ⟨later, split⟩ := (inv.ordered side.other).next taken
  have before := inv.streams m.sndSid side
  unfold StreamOf at before
  rcases before.incoming split with
    ⟨label, protocol, opens, shortLabel, shortProtocol, foreign, absent, theirs, nothing, refused,
      accepted⟩ | ⟨acks, a, mine, answered⟩ | ⟨user, alive, going⟩
  · rw [opens, receive_open] at received
    exact open_inv inv taken opens shortLabel shortProtocol foreign absent theirs nothing
      (by simpa [StreamAfter] using refused) accepted received
  · rw [acks, receive_ack] at received
    exact ack_inv inv taken acks mine (by simpa [StreamAfter] using answered)
      (Option.some.inj received)
  · obtain ⟨datatype, carried, data, result⟩ := receive_user (x.peers side) env user
    rw [result] at received
    exact user_inv inv taken carried data alive (by simpa [StreamAfter] using going)
      (Option.some.inj received)

end Librtcdc.Pair
