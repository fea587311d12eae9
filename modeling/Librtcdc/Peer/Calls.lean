import Librtcdc.Peer.Agreement

set_option autoImplicit false

namespace Librtcdc.Pair

open Systems

variable {x : TwoPeers} {events : List Event} {side sender : Side} {sid : UInt16}
  {peer : RtcdcPeerConnection} {effects : List Effect} {m : Sendv} {rest : List Sendv}
  {i slot : Fin rtcdcMaxChannelNum} {ch old : RtcdcDataChannel}

@[simp] theorem after_mine : (x.after side peer effects).peers side = peer := by
  simp [TwoPeers.after]

@[simp] theorem after_other : (x.after side peer effects).peers side.other = x.peers side.other := by
  simp [TwoPeers.after, side.other_ne]

@[simp] theorem after_wire_mine :
    (x.after side peer effects).wire side = x.wire side ++ (handed effects).map Prod.fst := by
  simp [TwoPeers.after]

@[simp] theorem after_wire_other :
    (x.after side peer effects).wire side.other = x.wire side.other := by
  simp [TwoPeers.after, side.other_ne]

theorem after_nothing : x.after side (x.peers side) [] = x := by
  simp [TwoPeers.after, handed]

theorem ofSide_effects : AllOfSide side (effects.map (Event.effect side)) := by
  intro event member
  obtain ⟨effect, _, rfl⟩ := List.mem_map.mp member
  rfl

theorem AllOfSide.append {first second : List Event} (left : AllOfSide side first)
    (right : AllOfSide side second) : AllOfSide side (first ++ second) := by
  intro event member
  rcases List.mem_append.mp member with early | late
  · exact left event early
  · exact right event late

theorem ordered_call
    (ordered : ∀ at_, InOrder Sendv.sndSid (sentBy at_ events) (deliveredFrom at_ events)
      (x.wire at_)) :
    ∀ at_, InOrder Sendv.sndSid (sentBy at_ (events ++ effects.map (Event.effect side)))
      (deliveredFrom at_ (events ++ effects.map (Event.effect side)))
      ((x.after side peer effects).wire at_) := by
  refine each_side side ?_ ?_
  · rw [sentBy_append, deliveredFrom_append, deliveredFrom_effects, List.append_nil,
      sentBy_effects, after_wire_mine]
    exact (ordered side).send _
  · rw [sentBy_append, deliveredFrom_append, deliveredFrom_effects, List.append_nil,
      ofSide_effects.sentBy_other, List.append_nil, after_wire_other]
    exact ordered side.other

theorem ordered_take {position : Nat}
    (ordered : ∀ at_, InOrder Sendv.sndSid (sentBy at_ events) (deliveredFrom at_ events)
      (x.wire at_))
    (taken : takeAt Sendv.sndSid (x.wire sender) position = some (m, rest)) (at_ : Side) :
    InOrder Sendv.sndSid (sentBy at_ (events ++ [.delivered sender m]))
      (deliveredFrom at_ (events ++ [.delivered sender m]))
      (Function.update x.wire sender rest at_) := by
  have noneSent : sentBy at_ [.delivered sender m] = [] := rfl
  rw [sentBy_append, noneSent, List.append_nil, deliveredFrom_append]
  by_cases same : at_ = sender
  · subst same
    have here : deliveredFrom at_ [.delivered at_ m] = [m] := by simp [deliveredFrom, deliveredIn]
    rw [here, Function.update_self]
    exact (ordered at_).take taken
  · have elsewhere : deliveredFrom at_ [.delivered sender m] = [] := by
      simp [deliveredFrom, deliveredIn, Ne.symm same]
    rw [elsewhere, List.append_nil, Function.update_of_ne same]
    exact ordered at_

theorem sendSctpMessage_calls (sctp : SctpTransport) (message : SctpMessage) (err : Int) :
    (sendSctpMessage sctp message err).2.filterMap (callbackOf slot) = [] := by
  unfold sendSctpMessage
  split_ifs <;> rfl

theorem PeerOk.replace (ok : PeerOk side peer) (stored : peer.channels i = some old)
    (same : ch.sid = old.sid) :
    PeerOk side { peer with channels := peer.channels.put i (some ch) } where
  transport := by
    obtain ⟨transport, there, queue, allocated⟩ := ok.transport
    exact ⟨transport, there, queue, allocated.put_same_sid stored same⟩
  distinct := ok.distinct.put_same_key stored same
  below := by
    apply Table.every_put
    · rw [same]
      exact ok.below i old stored
    · exact ok.below

theorem PeerOk.accept (ok : PeerOk side peer) (free : peer.channels i = none)
    (foreign : owner ch.sid ≠ side) (absent : channelOn peer.channels ch.sid = none)
    (bound : ch.sid.toNat < rtcdcMaxOutStream) :
    PeerOk side { peer with channels := peer.channels.put i (some ch) } where
  transport := by
    obtain ⟨transport, there, queue, allocated⟩ := ok.transport
    refine ⟨transport, there, queue, allocated.put_foreign free ?_⟩
    have parity := owner_base ch.sid
    have differ : (owner ch.sid).base ≠ side.base := by
      revert foreign
      cases owner ch.sid <;> cases side <;> simp [Side.base]
    simpa [hasParity, parity] using differ
  distinct := Table.Distinct.put_fresh ok.distinct fun j a stored => channelOn_none absent stored
  below := by
    apply Table.every_put
    · exact bound
    · exact ok.below

theorem PeerOk.next_free (ok : PeerOk side peer) {transport : RtcdcTransport}
    (stored : peer.transport = some transport) (free : peer.channels i = none)
    (same : ch.sid = UInt16.ofNat transport.sctp.streamCursor) :
    owner ch.sid = side ∧ channelOn peer.channels ch.sid = none := by
  obtain ⟨other, there, _, allocated⟩ := ok.transport
  obtain rfl : transport = other := by simpa [stored] using there
  have parity := allocated.next_parity (Table.any_free free) same
  refine ⟨owner_of_parity (by simpa [hasParity] using parity), ?_⟩
  cases found : channelOn peer.channels ch.sid with
  | none => rfl
  | some a =>
      obtain ⟨j, _, at_, equal⟩ := channelOn_some found
      have own : hasParity side.base a = true := by rw [hasParity_congr equal, parity]
      exact absurd (equal.trans same) (allocated.fresh (Table.any_free free) at_ own)

theorem PeerOk.create (ok : PeerOk side peer) {transport : RtcdcTransport} {sctp : SctpTransport}
    (stored : peer.transport = some transport) (free : peer.channels i = none)
    (same : ch.sid = UInt16.ofNat transport.sctp.streamCursor)
    (advanced : sctp = { transport.sctp with streamCursor := transport.sctp.streamCursor + 2 }) :
    PeerOk side { peer.withSctp transport sctp with
      channels := peer.channels.put i (some ch) } where
  transport := by
    obtain ⟨other, there, queue, allocated⟩ := ok.transport
    obtain rfl : transport = other := by simpa [stored] using there
    refine ⟨{ transport with sctp := sctp }, rfl, by simpa [advanced] using queue, ?_⟩
    simpa only [advanced] using allocated.create (Table.any_free free) same
  distinct := by
    have absent := (ok.next_free stored free same).2
    exact Table.Distinct.put_fresh ok.distinct fun j a present => channelOn_none absent present
  below := by
    obtain ⟨other, there, _, allocated⟩ := ok.transport
    obtain rfl : transport = other := by simpa [stored] using there
    apply Table.every_put
    · rw [same, allocated.next_sid (Table.any_free free)]
      exact allocated.cursor_lt (Table.any_free free)
    · exact ok.below

section Heads

variable (at_ creator : Side) (events : List Event)

@[simp] theorem sentBy_nil : sentBy at_ [] = [] := rfl

@[simp] theorem deliveredFrom_nil : deliveredFrom at_ [] = [] := rfl

@[simp] theorem createdBy_nil : createdBy at_ [] = [] := rfl

@[simp] theorem callsOn_nil : callsOn at_ slot [] = [] := rfl

@[simp] theorem sentBy_effects_other :
    sentBy at_.other (effects.map (Event.effect at_)) = [] :=
  ofSide_effects.sentBy_other

@[simp] theorem sentBy_created : sentBy at_ (.created creator i :: events) = sentBy at_ events := rfl

@[simp] theorem deliveredFrom_created :
    deliveredFrom at_ (.created creator i :: events) = deliveredFrom at_ events := rfl

@[simp] theorem callsOn_created :
    callsOn at_ slot (.created creator i :: events) = callsOn at_ slot events := rfl

@[simp] theorem createdBy_created :
    createdBy at_ (.created at_ i :: events) = i :: createdBy at_ events := by
  simp [createdBy, createdIn]

@[simp] theorem sentBy_delivered :
    sentBy at_ (.delivered sender m :: events) = sentBy at_ events := rfl

@[simp] theorem deliveredFrom_delivered :
    deliveredFrom at_ (.delivered at_ m :: events) = m :: deliveredFrom at_ events := by
  simp [deliveredFrom, deliveredIn]

@[simp] theorem callsOn_delivered :
    callsOn at_ slot (.delivered sender m :: events) = callsOn at_ slot events := rfl

@[simp] theorem createdBy_delivered :
    createdBy at_ (.delivered sender m :: events) = createdBy at_ events := rfl

end Heads

theorem createdChannel_hasTexts {label protocol : CString} {callbacks : Callbacks}
    (shortLabel : label.val.length ≤ 65535) (shortProtocol : protocol.val.length ≤ 65535) :
    HasTexts (createdChannel label protocol sid callbacks) label protocol :=
  ⟨rfl, rfl, shortLabel, shortProtocol⟩

def HandsOver (effects : List Effect) (message : Sendv) : Prop :=
  (handed effects).map Prod.fst = [] ∨ (handed effects).map Prod.fst = [message]

theorem HandsOver.same_sid (handing : HandsOver effects m) :
    ∀ message ∈ (handed effects).map Prod.fst, message.sndSid = m.sndSid := by
  intro message member
  rcases handing with nothing | one
  · simp [nothing] at member
  · obtain rfl : message = m := by simpa [one] using member
    rfl

theorem HandsOver.on_sid (handing : HandsOver effects m) :
    onSid m.sndSid ((handed effects).map Prod.fst) = (handed effects).map Prod.fst :=
  onKey_all handing.same_sid

theorem calls_stored {x' : TwoPeers} {emitted : List Event} (inv : Inv x events)
    (free : (x.peers side).channels i = none)
    (table : (x'.peers side).channels = (x.peers side).channels.put i (some ch))
    (quiet : callsOn side slot emitted = [])
    (apart : ∀ j other, (x.peers side).channels j = some other →
      onSid other.sid (deliveredFrom side.other emitted) = [])
    (fresh : (onSid ch.sid (deliveredFrom side.other (events ++ emitted))).filterMap
      (callFor ch.callbacks) = []) :
    CallsMatch x' (events ++ emitted) side slot := by
  have before := inv.calls side slot
  unfold CallsMatch at *
  rw [callsOn_append, quiet, List.append_nil, before, table, Table.put_apply]
  by_cases here : slot = i
  · subst here
    rw [free]
    simpa using fresh.symm
  · rw [if_neg here]
    cases there : (x.peers side).channels slot with
    | none => rfl
    | some other =>
        have alone := apart slot other there
        unfold onSid at *
        simp [alone]

theorem calls_kept {x' : TwoPeers} {emitted : List Event} (inv : Inv x events)
    (empty : (x.peers side).channels slot = none →
      (x'.peers side).channels slot = none ∧ callsOn side slot emitted = [])
    (stays : ∀ ch, (x.peers side).channels slot = some ch → ∃ ch',
      (x'.peers side).channels slot = some ch' ∧ ch'.sid = ch.sid ∧
        ch'.callbacks = ch.callbacks ∧
        callsOn side slot emitted =
          (onSid ch.sid (deliveredFrom side.other emitted)).filterMap (callFor ch.callbacks)) :
    CallsMatch x' (events ++ emitted) side slot := by
  have before := inv.calls side slot
  unfold CallsMatch at *
  cases there : (x.peers side).channels slot with
  | none =>
      obtain ⟨still, quiet⟩ := empty there
      rw [callsOn_append, quiet, still, before, there]
      rfl
  | some ch =>
      obtain ⟨ch', still, sameSid, sameCallbacks, told⟩ := stays ch there
      rw [callsOn_append, told, still, before, there]
      simp [onSid, sameSid, sameCallbacks]

theorem create_inv {label protocol : CString} {callbacks : Callbacks} {env : CreateEnv}
    {created : Option (Fin rtcdcMaxChannelNum)} {next : RtcdcPeerConnection}
    (inv : Inv x events) (ok : 0 ≤ env.sendv) (shortLabel : label.val.length ≤ 65535)
    (shortProtocol : protocol.val.length ≤ 65535)
    (called : rtcdcCreateDataChannel (x.peers side) (some label) (some protocol) callbacks env =
      some (created, next, effects)) :
    Inv (x.after side next effects)
      (events ++ (created.toList.map (Event.created side) ++ effects.map (Event.effect side))) := by
  obtain ⟨transport, stored, queue, _⟩ := (inv.peers side).transport
  rcases rtcdcCreateDataChannel_accepted called stored queue ok with
    ⟨rfl, rfl, rfl⟩ | ⟨i, _, _, sctp, ch, found, sameLabel, sameProtocol, advanced, made, sent, rfl,
      result⟩
  · simpa [after_nothing] using inv
  · cases sameLabel
    cases sameProtocol
    have free := (Table.firstFree_some found).1
    have same : ch.sid = UInt16.ofNat transport.sctp.streamCursor := by rw [made]; rfl
    have peerOk : PeerOk side next := by
      rw [result]
      exact (inv.peers side).create stored free same advanced
    have table : next.channels = (x.peers side).channels.put i (some ch) := by rw [result]
    obtain ⟨own, absent⟩ := (inv.peers side).next_free stored free same
    have handing : HandsOver effects (openSendv label protocol ch.sid) := by
      rw [sent]
      exact handed_sendSctpMessage ..
    have texts : HasTexts ch label protocol := by
      rw [made]
      exact createdChannel_hasTexts shortLabel shortProtocol
    have before := inv.streams ch.sid side
    rw [StreamOf, absent] at before
    obtain ⟨nothing, opening⟩ := before.create own (by rw [made]; rfl) texts handing
    have elsewhere : ∀ j other, (x.peers side).channels j = some other → j ≠ i := by
      rintro j other there rfl
      simp [free] at there
    have here : next.channels i = some ch := by simp [table]
    have moved : LocalStep side ch.sid x (x.after side next effects) events
        ([Event.created side i] ++ effects.map (Event.effect side)) :=
      { others := after_other
        mine := AllOfSide.append (by simp [AllOfSide, OfSide]) ofSide_effects
        peer := by rw [after_mine]; exact peerOk
        kept := fun j other there =>
          ⟨other, by simp [table, Table.put_other _ _ (elsewhere j other there), there], rfl⟩
        created := by
          intro j member
          obtain rfl : j = i := by simpa using member
          refine ⟨ch, by simpa using here, ?_⟩
          rw [hasParity, owner_base, own]
          simp
        ordered := by
          rw [← List.append_assoc]
          exact ordered_call (by simpa using inv.ordered)
        elsewhere := by
          intro other differ
          rw [after_mine, table]
          refine channelOn_put_other (Ne.symm differ) fun old there => ?_
          simp [free] at there
        sent := by simpa using handing.same_sid
        got := by simp
        stream := by
          have handedHere : onKey Sendv.sndSid ch.sid ((handed effects).map Prod.fst) =
              (handed effects).map Prod.fst := handing.on_sid
          unfold StreamOf
          rw [after_mine, after_other, channelOn_stored peerOk.distinct here]
          simpa [onSid, handedHere] using opening
        calls := by
          intro slot
          refine calls_stored inv free (by rw [after_mine, table]) ?_ (by simp [onSid]) ?_
          · simp [sent, sendSctpMessage_calls]
          · simpa using congrArg (List.filterMap (callFor ch.callbacks)) nothing }
    exact moved.inv inv

theorem isUser_sendv {datatype : Datatype} {data : Bytes} {ppid : UInt32} (nonempty : data ≠ [])
    (carried : datatypeOfPpid ppid = some datatype) :
    IsUser (SctpMessage.sendv ⟨data, sid, ppid⟩) where
  nonempty := nonempty
  ppid := by simp [SctpMessage.sendv, carried]

theorem rtcdcSendMessage_user {sctp : SctpTransport} {channel : Option RtcdcDataChannel}
    {datatype : Datatype} {data : Bytes} {err : Int} (nonempty : data ≠ []) :
    (rtcdcSendMessage sctp channel datatype (some data) err).2 = [] ∨
      ∃ ch message, channel = some ch ∧ message.sid = ch.sid ∧ IsUser message.sendv ∧
        (rtcdcSendMessage sctp channel datatype (some data) err).2 =
          (sendSctpMessage sctp message err).2 := by
  cases channel with
  | none => exact .inl rfl
  | some ch =>
      by_cases carries : datatype = .empty
      · subst carries
        exact .inl rfl
      · have present : (some data).getD [] ≠ [] := nonempty
        obtain ⟨ppid, given, _, carried⟩ := ppidOfDatatype_nonempty carries present
        refine .inr ⟨ch, ⟨data, ch.sid, ppid⟩, rfl, rfl, isUser_sendv nonempty carried, ?_⟩
        simp [rtcdcSendMessage, given]

theorem send_inv {sctp : SctpTransport} {datatype : Datatype} {data : Bytes} {err : Int}
    (inv : Inv x events) (nonempty : data ≠ [])
    (sent : effects =
      (rtcdcSendMessage sctp ((x.peers side).channels i) datatype (some data) err).2) :
    Inv (x.after side (x.peers side) effects) (events ++ effects.map (Event.effect side)) := by
  rcases rtcdcSendMessage_user nonempty with nothing | ⟨ch, message, stored, same, user, handing⟩
  · rw [sent, nothing, after_nothing]
    simpa using inv
  · rw [handing] at sent
    have handing : HandsOver effects message.sendv := by
      rw [sent]
      exact handed_sendSctpMessage ..
    have handedHere : onKey Sendv.sndSid ch.sid ((handed effects).map Prod.fst) =
        (handed effects).map Prod.fst := by
      rw [← same]
      exact handing.on_sid
    have before := inv.streams ch.sid side
    rw [StreamOf, channelOn_stored (inv.peers side).distinct stored] at before
    have moved : LocalStep side ch.sid x (x.after side (x.peers side) effects) events
        (effects.map (Event.effect side)) :=
      { others := after_other
        mine := ofSide_effects
        peer := by rw [after_mine]; exact inv.peers side
        kept := fun j other there => ⟨other, by simpa using there, rfl⟩
        created := by simp
        ordered := ordered_call inv.ordered
        elsewhere := by simp
        sent := by
          rw [sentBy_effects, ← same]
          exact handing.same_sid
        got := by simp
        stream := by
          unfold StreamOf
          rw [after_mine, after_other, channelOn_stored (inv.peers side).distinct stored]
          simpa [onSid, handedHere] using before.send user handing
        calls := by
          intro slot
          have quiet : callsOn side slot (effects.map (Event.effect side)) = [] := by
            simp [sent, sendSctpMessage_calls]
          refine calls_kept inv (fun free => ⟨by simpa using free, quiet⟩) fun other there => ?_
          exact ⟨other, by simpa using there, rfl, rfl, by simp [quiet, onSid]⟩ }
    exact moved.inv inv

theorem handshake_inv {transport : RtcdcTransport} (inv : Inv x events)
    (stored : (x.peers side).transport = some transport) :
    Inv (x.after side ((x.peers side).withSctp transport
      { transport.sctp with handshakeDone := true }) []) (events ++ []) := by
  have moved : LocalStep side 0 x (x.after side ((x.peers side).withSctp transport
      { transport.sctp with handshakeDone := true }) []) events [] :=
    { others := after_other
      mine := by simp [AllOfSide]
      peer := by
        rw [after_mine]
        have before := inv.peers side
        obtain ⟨other, there, queue, allocated⟩ := before.transport
        obtain rfl : transport = other := by simpa [stored] using there
        exact ⟨⟨_, rfl, queue, allocated⟩, before.distinct, before.below⟩
      kept := fun j other there => ⟨other, by simpa using there, rfl⟩
      created := by simp
      ordered := by
        refine each_side side ?_ ?_
        · simpa [handed] using inv.ordered side
        · simpa using inv.ordered side.other
      elsewhere := by
        intro other _
        rw [after_mine]
        rfl
      sent := by simp
      got := by simp
      stream := by
        have before := inv.streams 0 side
        unfold StreamOf at *
        rw [after_mine, after_other, List.append_nil]
        exact before
      calls := by
        intro slot
        refine calls_kept inv (fun free => ⟨by simpa using free, rfl⟩) fun other there => ?_
        exact ⟨other, by simpa using there, rfl, rfl, by simp [onSid]⟩ }
  exact moved.inv inv

end Librtcdc.Pair
